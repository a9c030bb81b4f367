import ChainProvision.Deployment.Failure
import ChainProvision.Deployment.Settings
import ChainProvision.Follow.Watcher
import ChainProvision.Number.Word

/-!
# Vigils

After its transaction is confirmed, an attempt waits for the resource.  A job is followed by polling the
operator about the call, a request for a new service by watching the contract for the log that carries the
request; a vigil is one of these two, with the time after which it is given up.

## Main definitions

* `Quarry`, `Lookout`, `Vigil`: what is waited for, how, and since when;
* `Vigil.verdict?`: what a vigil has found out;
* `Vigil.nextDue`: when it wants to go on by itself.
-/

namespace ChainProvision

/-- What a confirmed attempt waits for, by the number that the receipt gave. -/
inductive Quarry where
  | call (id : CallId)
  | request (id : RequestId)
  deriving DecidableEq

/-- How a resource is waited for. -/
inductive Lookout where
  /-- By asking the operator about a call. -/
  | operator (call : CallId) (poller : Poller)
  /-- By watching the contract for the log that carries the request. -/
  | contract (watcher : Watcher)
  deriving DecidableEq

/-- The wait of one attempt for its resource. -/
structure Vigil where
  /-- The attempt that waits. -/
  generation : Nat
  /-- The key of its record. -/
  key : String
  /-- When the wait began, in milliseconds. -/
  since : Nat
  limit : Option Span
  lookout : Lookout
  deriving DecidableEq

namespace Lookout

/-- The lookout for a resource, from now on. -/
def start (settings : Settings) (now : Nat) : Quarry → Lookout
  | .call id =>
    let poller : Poller := { interval := settings.pollInterval.timerMillis }
    .operator id (poller.setTarget (some id) true now)
  | .request id =>
    let watcher : Watcher := {
      target := ⟨settings.contract, settings.events.serviceInitialized⟩
      retryDelay := settings.pollInterval.timerMillis }
    .contract (watcher.setTarget (some id.text) true now)

/-- What a lookout has found out.  A report of success without a resource names it by the call. -/
def verdict? : Lookout → Option (Except DeployError Completion)
  | .operator call poller =>
    match poller.state.value.report with
    | some r =>
      if r.isReady then some (.ok ⟨r.resource.getD call.text, r.endpoint⟩)
      else if r.isFailed then
        some (.error (.provisionFailed (r.message.getD "operator reported failure")))
      else none
    | none => none
  | .contract watcher => watcher.result.value.map .ok

/-- What is left of a lookout that is dropped: nothing of it goes on. -/
def drop : Lookout → Lookout
  | .operator call poller => .operator call poller.drop
  | .contract watcher => .contract watcher.drop

/-- When a lookout wants to go on by itself. -/
def nextDue : Lookout → Option Nat
  | .operator _ poller => poller.nextDue
  | .contract watcher => watcher.nextDue

/-- The number of the service that a finished resource is, where it was watched for: a new service is
    named by its number. -/
def serviceOf (lookout : Lookout) (found : Completion) : Option ServiceId :=
  match lookout with
  | .operator _ _ => none
  | .contract _ =>
    ((Text.readNumeral UInt64.size Word64.size_pos found.resource.toList).map Id.mk).toOption

end Lookout

namespace Vigil

/-- The time at which a vigil is given up. -/
def deadline (v : Vigil) : Option Nat := v.limit.map fun limit => v.since + limit.timerMillis

/-- The failure of a vigil whose deadline has passed. -/
def expiry? (v : Vigil) (now : Nat) : Option DeployError :=
  match v.limit with
  | some limit => if v.since + limit.timerMillis ≤ now then some (.provisionTimeout limit) else none
  | none => none

/-- The earlier of two times that may not be set. -/
def earlier : Option Nat → Option Nat → Option Nat
  | some a, some b => some (min a b)
  | some a, none => some a
  | none, b => b

/-- When a vigil wants to go on by itself. -/
def nextDue (v : Vigil) : Option Nat := earlier v.deadline v.lookout.nextDue

end Vigil

end ChainProvision
