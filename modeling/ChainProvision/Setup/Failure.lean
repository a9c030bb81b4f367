import ChainProvision.Operator.Failure

/-!
# Failures of the setup

Why a configuration cannot be found, read, used or written.
-/

namespace ChainProvision

/-- What is wrong with a configuration that could be read, or was to be written. -/
inductive ConfigFault where
  | pollInterval
  | provisionTimeout
  | eventNames
  /-- The operator's URL cannot be used. -/
  | operatorApi (e : FetchError)
  deriving DecidableEq

/-- The wording of a configuration's fault. -/
def ConfigFault.message : ConfigFault → String
  | .pollInterval => "poll_interval must be positive"
  | .provisionTimeout => "provision_timeout must be positive"
  | .eventNames => "event names cannot be empty"
  | .operatorApi e => e.message

/-- Why there is no configuration. -/
inductive SetupError where
  | alreadyExists (path : String)
  | notFound (directory : String)
  | invalid (fault : ConfigFault)
  | yaml (fault : Fault)
  /-- A file could not be read or written. -/
  | io (reason : String)
  deriving DecidableEq

/-- The wording of a failure of the setup. -/
def SetupError.message : SetupError → String
  | .alreadyExists path => "file already exists: " ++ path
  | .notFound directory => "configuration file not found in " ++ directory
  | .invalid fault => "invalid configuration: " ++ fault.message
  | .yaml fault => "YAML parse error: " ++ fault.detail.getD "malformed document"
  | .io reason => "I/O error: " ++ reason

/-- The name of a failure, which stays the same whatever its wording. -/
def SetupError.name : SetupError → String
  | .alreadyExists _ => "AlreadyExists"
  | .notFound _ => "ConfigNotFound"
  | .invalid _ => "InvalidConfig"
  | .yaml _ => "Yaml"
  | .io _ => "Io"

end ChainProvision
