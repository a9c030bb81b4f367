import ChainProvision.Records.Resource
import ChainProvision.Service.Validation

/-!
# Routes

A deployment gets its resource by one of two routes: a job for an existing service, or a request for a
new service.  Sandboxes always run on the shared sandbox service; an instance reuses a service only when
that was found usable.
-/

namespace ChainProvision

/-- How a deployment gets its resource. -/
inductive Route where
  /-- A job for an existing service; the operator's API tells when it is done. -/
  | job (service : ServiceId)
  /-- A request for a new service; a contract log tells when it is there. -/
  | newService
  deriving DecidableEq

namespace Route

/-- The route of a deployment. -/
def select (kind : ResourceKind) (sandboxService : ServiceId) (existing : Option Validation) : Route :=
  match kind with
  | .sandbox => .job sandboxService
  | .dedicated =>
    match existing with
    | some v => if v.isUsable then .job v.service else .newService
    | none => .newService

/-- Whether a new service is asked for. -/
def isNewService : Route → Bool
  | .job _ => false
  | .newService => true

end Route

end ChainProvision
