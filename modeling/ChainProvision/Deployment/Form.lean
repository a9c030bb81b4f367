import ChainProvision.Number.Word
import ChainProvision.Wire.Identity

/-!
# The deployment form

What a user enters before a deployment can start, and the job arguments it becomes.  The arguments go on
chain as compact JSON: fields in a fixed order, absent and empty ones left out, the environment in the
order of its names.
-/

namespace ChainProvision

/-- Environment variables in the order of their names, each name once. -/
structure Environment where
  bindings : List (String × String)
  ordered : bindings.Pairwise fun a b => a.1 < b.1
  deriving DecidableEq

namespace Environment

/-- No variables. -/
def empty : Environment := ⟨[], .nil⟩

/-- The variables with one more, which replaces an earlier one of its name. -/
def insertInto (name value : String) : List (String × String) → List (String × String)
  | [] => [(name, value)]
  | (k, v) :: rest =>
    if name < k then (name, value) :: (k, v) :: rest
    else if name = k then (k, value) :: rest
    else (k, v) :: insertInto name value rest

theorem name_of_mem_insertInto {name value : String} {p : String × String} {l : List (String × String)}
    (h : p ∈ insertInto name value l) : p.1 = name ∨ p ∈ l := by
  induction l with
  | nil =>
    obtain rfl := List.mem_singleton.mp h
    exact Or.inl rfl
  | cons q rest ih =>
    obtain ⟨k, v⟩ := q
    unfold insertInto at h
    split at h
    · rcases List.mem_cons.mp h with rfl | h
      · exact Or.inl rfl
      · exact Or.inr h
    · split at h
      · rename_i hname
        rcases List.mem_cons.mp h with rfl | h
        · exact Or.inl hname.symm
        · exact Or.inr (List.mem_cons_of_mem _ h)
      · rcases List.mem_cons.mp h with rfl | h
        · exact Or.inr List.mem_cons_self
        · exact (ih h).imp_right (List.mem_cons_of_mem _)

/-- One more variable leaves the names in order, and each of them there once. -/
theorem ordered_insertInto {l : List (String × String)} (h : l.Pairwise fun a b => a.1 < b.1)
    (name value : String) : (insertInto name value l).Pairwise fun a b => a.1 < b.1 := by
  induction l with
  | nil => exact List.pairwise_singleton _ _
  | cons q rest ih =>
    obtain ⟨k, v⟩ := q
    obtain ⟨hfirst, hrest⟩ := List.pairwise_cons.mp h
    unfold insertInto
    split
    · rename_i hlt
      refine List.pairwise_cons.mpr ⟨fun p hp => ?_, h⟩
      rcases List.mem_cons.mp hp with rfl | hp
      · exact hlt
      · exact String.lt_trans hlt (hfirst p hp)
    · rename_i hle
      split
      · exact List.pairwise_cons.mpr ⟨hfirst, hrest⟩
      · rename_i hne
        refine List.pairwise_cons.mpr ⟨fun p hp => ?_, ih hrest⟩
        rcases name_of_mem_insertInto hp with hname | hp
        · exact hname ▸ Std.lt_of_le_of_ne (String.not_lt.mp hle) (Ne.symm hne)
        · exact hfirst p hp

/-- The environment with one more variable. -/
def insert (e : Environment) (name value : String) : Environment :=
  ⟨insertInto name value e.bindings, ordered_insertInto e.ordered name value⟩

/-- An environment in JSON. -/
def toJson (e : Environment) : Json :=
  .record (e.bindings.map fun (name, value) => (name, .string value))

/-- The environment with the members of an object added from the left. -/
def addMembers : Environment → List (Json.Key × Json) → Except Fault Environment
  | e, [] => .ok e
  | e, (key, v) :: rest =>
    match key.asName, Json.asString v with
    | .ok name, .ok value => addMembers (e.insert name value) rest
    | .error fault, _ => .error fault
    | _, .error fault => .error fault

/-- The environment that a value gives. -/
def ofJson : Json → Except Fault Environment
  | .object members => addMembers .empty members
  | _ => .error .malformed

end Environment

/-- What a user enters before a deployment. -/
structure Form where
  name : String := ""
  image : String := ""
  stack : Option String := none
  cpuCores : Word32 := .ofNat 2
  memoryMb : Word32 := .ofNat 4096
  diskGb : Word32 := .ofNat 20
  environment : Environment := .empty
  sshEnabled : Bool := false
  deriving DecidableEq

/-- The arguments of a job that makes a resource. -/
structure Arguments where
  name : String
  image : String
  stack : Option String
  cpuCores : Word32
  memoryMb : Word32
  diskGb : Word32
  environment : Environment
  sshEnabled : Bool
  deriving DecidableEq

namespace Form

/-- A required field that is empty or cannot be used. -/
inductive MissingField where
  | name
  | image
  deriving DecidableEq, Repr

/-- The name of a required field. -/
def MissingField.text : MissingField → String
  | .name => "name"
  | .image => "image"

/-- The resource name that the form gives. -/
def resourceName (f : Form) : Except NameError Name := Name.read f.name

/-- The required fields that are empty or cannot be used. -/
def missing (f : Form) : List MissingField :=
  (match f.resourceName with
    | .ok _ => []
    | .error _ => [.name]) ++
  (if Text.isBlankText f.image then [.image] else [])

/-- Whether nothing required is missing. -/
def isComplete (f : Form) : Bool := f.missing.isEmpty

/-- The job arguments that the form gives under a name. -/
def arguments (f : Form) (name : Name) : Arguments :=
  { name := name.text
    image := Text.trim f.image
    stack := f.stack.filter fun s => !Text.isBlankText s
    cpuCores := f.cpuCores
    memoryMb := f.memoryMb
    diskGb := f.diskGb
    environment := f.environment
    sshEnabled := f.sshEnabled }

/-- A form in JSON. -/
def toJson (f : Form) : Json :=
  .record [
    ("name", .string f.name),
    ("image", .string f.image),
    ("stack", Json.orNull .string f.stack),
    ("cpuCores", .nat f.cpuCores.val),
    ("memoryMb", .nat f.memoryMb.val),
    ("diskGb", .nat f.diskGb.val),
    ("env", f.environment.toJson),
    ("sshEnabled", .bool f.sshEnabled)]

/-- The fields of a form. -/
def fields : List Json.Field := [
  .of "name" Json.asString,
  .of "image" Json.asString,
  .of "stack" (Json.asOption Json.asString),
  .of "cpu_cores" (Json.asNatural UInt32.size),
  .of "memory_mb" (Json.asNatural UInt32.size),
  .of "disk_gb" (Json.asNatural UInt32.size),
  .of "env" Environment.ofJson,
  .of "ssh_enabled" Json.asBool]

/-- The form that a value gives; what is absent has its default. -/
def ofJson (v : Json) : Except Fault Form := do
  let fs ← Json.Fields.ofJson fields v
  let blank : Form := {}
  return {
    name := ← fs.defaulted "name" blank.name Json.asString
    image := ← fs.defaulted "image" blank.image Json.asString
    stack := ← fs.defaulted "stack" blank.stack (Json.asOption Json.asString)
    cpuCores := ← fs.defaulted "cpu_cores" blank.cpuCores (Json.asNatural UInt32.size)
    memoryMb := ← fs.defaulted "memory_mb" blank.memoryMb (Json.asNatural UInt32.size)
    diskGb := ← fs.defaulted "disk_gb" blank.diskGb (Json.asNatural UInt32.size)
    environment := ← fs.defaulted "env" blank.environment Environment.ofJson
    sshEnabled := ← fs.defaulted "ssh_enabled" blank.sshEnabled Json.asBool }

end Form

namespace Arguments

/-- Job arguments in JSON. -/
def toJson (a : Arguments) : Json :=
  .record (
    [("name", .string a.name), ("image", .string a.image)] ++
    (match a.stack with
      | some stack => [("stack", .string stack)]
      | none => []) ++
    [("cpuCores", .nat a.cpuCores.val), ("memoryMb", .nat a.memoryMb.val),
      ("diskGb", .nat a.diskGb.val)] ++
    (if a.environment.bindings.isEmpty then [] else [("env", a.environment.toJson)]) ++
    [("sshEnabled", .bool a.sshEnabled)])

end Arguments

/-- Turns job arguments into the payload of a transaction, or says why it cannot. -/
structure Encoder where
  encode : Arguments → Except String String

namespace Encoder

/-- The encoder that operators expect by default: compact JSON, which never fails. -/
def json : Encoder := ⟨fun a => .ok a.toJson.text⟩

/-- An encoder that refuses all arguments. -/
def refusing (reason : String) : Encoder := ⟨fun _ => .error reason⟩

/-- The wording of an encoder's refusal. -/
def refusal (reason : String) : String := "failed to encode job arguments: " ++ reason

end Encoder

end ChainProvision
