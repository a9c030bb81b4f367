import ChainProvision.Setup.Config

/-!
# Configuration files in a directory

A directory may hold its configuration under one of a few names, of which the first that exists counts, even
if it cannot be read.  A new configuration file holds the operator's URL, which the user gives, and values to
be filled in.

## Main definitions

* `Template.text`: a new configuration file;
* `Directory`: the files of a directory by their names;
* `Directory.config`: the configuration found there;
* `Directory.init`: the directory with a new configuration file.
-/

namespace ChainProvision.Template

/-- The URL of an operator on the user's own machine. -/
def defaultOperatorApi : String := "http://localhost:9090"

/-- What follows the operator's URL. -/
def afterUrl : String :=
  "\npoll_interval: 2s\n" ++
  "# Give up on provisioning after this long (default: wait indefinitely)\n" ++
  "# provision_timeout: 10m\n" ++
  "contracts:\n" ++
  "  services: \"0x0000000000000000000000000000000000000000\"\n" ++
  "blueprint_id: 0\n" ++
  "sandbox_service_id: 0\n" ++
  "jobs:\n" ++
  "  create_sandbox: 0\n" ++
  "  create_instance: 1\n" ++
  "job_value: 0\n" ++
  "ttl_blocks: 0\n" ++
  "# events:\n" ++
  "#   job_submitted: JobSubmitted\n" ++
  "#   service_requested: ServiceRequested\n" ++
  "#   service_initialized: ServiceInitialized\n"

/-- A new configuration file for an operator. -/
def text (operatorApi : String) : String := "operator_api: " ++ operatorApi ++ afterUrl

end ChainProvision.Template

namespace ChainProvision

/-- What stands under a name. -/
inductive DirectoryEntry where
  | file (content : String)
  | folder
  /-- Something that cannot be read. -/
  | unreadable (reason : String)
  deriving DecidableEq, Repr

/-- A directory: its path, and what stands under the names in it; of a name that is there twice the first
    counts.  A name may lead through
    folders, with slashes in between. -/
structure Directory where
  path : String
  entries : List (String × DirectoryEntry) := []
  deriving DecidableEq, Repr

namespace Directory

/-- The name of the configuration file. -/
def configName : String := "deployer.yml"

/-- The names under which a configuration is looked for, in this order. -/
def configNames : List String := [configName, "deployer.yaml", ".deployer/config.yml"]

/-- Whether a name leads through a folder. -/
def leadsThrough (folder name : String) : Bool := (folder ++ "/").toList.isPrefixOf name.toList

/-- What stands under a name, if anything does. -/
def get? (d : Directory) (name : String) : Option DirectoryEntry :=
  match d.entries.lookup name with
  | some entry => some entry
  | none => if d.entries.any fun e => leadsThrough name e.1 then some .folder else none

/-- The entries with a file written under a name. -/
def put (name content : String) : List (String × DirectoryEntry) → List (String × DirectoryEntry)
  | [] => [(name, .file content)]
  | (k, old) :: rest => if k = name then (k, .file content) :: rest else (k, old) :: put name content rest

/-- The failure of reading or writing a folder as if it were a file. -/
def folderFailure : SetupError := .io "Is a directory (os error 21)"

/-- The directory with a file written under a name. -/
def write (d : Directory) (name content : String) : Except SetupError Directory :=
  match d.get? name with
  | some .folder => .error folderFailure
  | _ => .ok { d with entries := put name content d.entries }

/-- The configuration found in a directory. -/
def config (d : Directory) : Except SetupError Config :=
  match configNames.findSome? d.get? with
  | some (.file content) => Config.read content
  | some .folder => .error folderFailure
  | some (.unreadable reason) => .error (.io reason)
  | none => .error (.notFound d.path)

/-- The directory with a new configuration file for an operator.  One that exists is replaced only by
    `force`. -/
def init (d : Directory) (operatorApi : Option String) (force : Bool) : Except SetupError Directory :=
  if (d.get? configName).isSome && !force then .error (.alreadyExists (d.path ++ "/" ++ configName))
  else
    let url := operatorApi.getD Template.defaultOperatorApi
    match Endpoint.read url with
    | .error e => .error (.invalid (.operatorApi e))
    | .ok _ => d.write configName (Template.text url)

end Directory

end ChainProvision
