import ChainProvision.Deployment.Failure
import ChainProvision.Deployment.Form
import ChainProvision.Deployment.Route
import ChainProvision.Deployment.Settings
import ChainProvision.Deployment.Status
import ChainProvision.Operator.Report

/-!
# The state of a deployment

What a deployment shows to those who follow it, and the inputs that decide whether and how one can
start.
-/

namespace ChainProvision

/-- What a deployment shows. -/
structure DeployState where
  mode : ResourceKind
  status : DeployStatus := .idle
  txHash : Option TxHash := none
  error : Option DeployError := none
  /-- The call that the receipt names, on the route of a job. -/
  call : Option CallId := none
  /-- The request that the receipt names, on the route of a new service. -/
  request : Option RequestId := none
  /-- The finished resource, set at most once in an attempt. -/
  provision : Option Completion := none
  /-- The operator's latest report, on the route of a job. -/
  progress : Option Report := none
  /-- A transient failure to fetch a report. -/
  pollError : Option String := none
  /-- Why the chosen existing service cannot be used. -/
  serviceError : Option ValidationError := none
  isNewService : Bool
  canDeploy : Bool := false
  deriving DecidableEq

namespace DeployState

/-- The state before anything was entered. -/
def initial (mode : ResourceKind) : DeployState :=
  { mode, isNewService := mode == .dedicated }

/-- The state without what belongs to an attempt. -/
def clearAttempt (s : DeployState) : DeployState :=
  { s with
    status := .idle
    txHash := none
    error := none
    call := none
    request := none
    provision := none
    progress := none
    pollError := none }

/-- The state moved on by an event; an event that does not fit is ignored. -/
def advance (s : DeployState) (e : DeployEvent) : DeployState :=
  match s.status.advance e with
  | .ok next => { s with status := next }
  | .error _ => s

end DeployState

/-- The inputs that decide whether and how to deploy. -/
structure Inputs where
  form : Form := {}
  account : Option Address := none
  /-- The chosen existing service, as validated. -/
  service : Option Validation := none
  /-- The operators found; none before the first discovery. -/
  operators : Option (List Address) := none
  discovering : Bool := false
  deriving DecidableEq

namespace Inputs

/-- The route that the inputs lead to.  A validation counts only for the account it was made for. -/
def route (i : Inputs) (mode : ResourceKind) (settings : Settings) : Route :=
  Route.select mode settings.sandboxService (i.service.filter fun v => v.isUsableBy i.account)

/-- Whether there are operators to ask. -/
def hasOperators (i : Inputs) : Bool :=
  match i.operators with
  | some (_ :: _) => true
  | _ => false

/-- Whether a deployment could start. -/
def canDeploy (i : Inputs) (s : DeployState) (settings : Settings) : Bool :=
  if s.status ≠ .idle ∨ i.account.isNone ∨ !i.form.isComplete then false
  else
    match i.route s.mode settings with
    | .job _ => true
    | .newService => !i.discovering && i.hasOperators

end Inputs

end ChainProvision
