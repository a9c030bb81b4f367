/-!
# Deployment status

What a deployment is doing, and the events that move it on.  It moves one step at a time towards `ready`,
may fail from any status that is not final, and returns to `idle` by a reset.
-/

namespace ChainProvision

/-- What a deployment is doing. -/
inductive DeployStatus where
  | idle
  | signing
  | pending
  | confirmed
  | provisioning
  | ready
  | failed
  deriving DecidableEq, Repr

/-- Something that happens to a deployment. -/
inductive DeployEvent where
  /-- The wallet was asked to sign. -/
  | sign
  /-- The signed transaction was broadcast. -/
  | broadcast
  /-- The receipt came. -/
  | confirm
  /-- The wait for the resource began. -/
  | startProvisioning
  /-- The resource is there. -/
  | resolve
  | fail
  | reset
  deriving DecidableEq, Repr

/-- An event that does not fit the status. -/
structure InvalidTransition where
  status : DeployStatus
  event : DeployEvent
  deriving DecidableEq, Repr

/-- The name of an event. -/
def DeployEvent.text : DeployEvent → String
  | .sign => "Sign"
  | .broadcast => "Broadcast"
  | .confirm => "Confirm"
  | .startProvisioning => "StartProvisioning"
  | .resolve => "Resolve"
  | .fail => "Fail"
  | .reset => "Reset"

/-- The event with the given name. -/
def DeployEvent.ofText? (s : String) : Option DeployEvent :=
  [.sign, .broadcast, .confirm, .startProvisioning, .resolve, .fail, .reset].find? fun e =>
    e.text == s

namespace DeployStatus

/-- Whether only a reset leads on. -/
def isTerminal : DeployStatus → Bool
  | .ready => true
  | .failed => true
  | _ => false

/-- The place of a status on the way to `ready`; `failed` has none. -/
def rank : DeployStatus → Option Nat
  | .idle => some 0
  | .signing => some 1
  | .pending => some 2
  | .confirmed => some 3
  | .provisioning => some 4
  | .ready => some 5
  | .failed => none

/-- The name of a status. -/
def text : DeployStatus → String
  | .idle => "idle"
  | .signing => "signing"
  | .pending => "pending"
  | .confirmed => "confirmed"
  | .provisioning => "provisioning"
  | .ready => "ready"
  | .failed => "failed"

/-- The status after an event. -/
def advance (s : DeployStatus) (e : DeployEvent) : Except InvalidTransition DeployStatus :=
  match s, e with
  | _, .reset => .ok .idle
  | .idle, .sign => .ok .signing
  | .signing, .broadcast => .ok .pending
  | .pending, .confirm => .ok .confirmed
  | .confirmed, .startProvisioning => .ok .provisioning
  | .provisioning, .resolve => .ok .ready
  | s, .fail => if s.isTerminal then .error ⟨s, .fail⟩ else .ok .failed
  | s, e => .error ⟨s, e⟩

end DeployStatus

/-- An event as it was raised, with the status that it found. -/
structure Move where
  status : DeployStatus
  event : DeployEvent
  deriving DecidableEq, Repr

/-- The wording of an event that does not fit. -/
def InvalidTransition.message (t : InvalidTransition) : String :=
  "invalid transition: " ++ t.event.text ++ " while " ++ t.status.text

end ChainProvision
