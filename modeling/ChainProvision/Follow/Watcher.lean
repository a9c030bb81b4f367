import ChainProvision.Chain.Failure
import ChainProvision.Chain.Log
import ChainProvision.Follow.Poller

/-!
# Watching contract logs

A watcher waits for the log that completes one deployment.  It subscribes while it is enabled, has a key
and has found nothing; a subscription that fails or closes is tried again after a pause.  The first
matching log is kept, and after it the watcher never subscribes again until it is reset.

## Main definitions

* `WatchTarget.firstMatch`: the first log of a batch that completes a deployment;
* `Watcher.setTarget`, `Watcher.reset`, `Watcher.drop`: what a watcher's owner does;
* `Watcher.wake`, `Watcher.subscribed`, `Watcher.batch`, `Watcher.closed`: what its task does.
-/

namespace ChainProvision

/-- The event that announces completion, and the contract that emits it. -/
structure WatchTarget where
  contract : Address
  event : String
  deriving DecidableEq

namespace WatchTarget

/-- The completion that a log announces for a key, if it is the watched event, carries the key, blanks
    around it aside, and names the resource. -/
def completion? (t : WatchTarget) (key : String) (log : Log) : Option Completion :=
  if log.address = t.contract ∧ log.event = t.event ∧ log.key.map Text.trim = some key then
    log.resource.map fun resource => ⟨resource, log.endpoint⟩
  else none

/-- The completion that the first matching log of a batch announces. -/
def firstMatch (t : WatchTarget) (key : String) (batch : List Log) : Option Completion :=
  batch.findSome? (t.completion? key)

end WatchTarget

/-- What a watcher's task is doing.  Subscriptions are numbered in the order in which they are asked
    for. -/
inductive WatchStage where
  /-- Pausing until the given time, or about to subscribe for the first time. -/
  | pausing (wakeAt : Nat)
  /-- Waiting for a subscription to be granted. -/
  | subscribing (subscription : Nat)
  /-- Receiving batches. -/
  | listening (subscription : Nat)
  deriving DecidableEq, Repr

/-- The task of a watcher. -/
structure WatchTask where
  key : String
  stage : WatchStage
  deriving DecidableEq

/-- A watcher for the completion of one deployment at a time. -/
structure Watcher where
  target : WatchTarget
  /-- Milliseconds between attempts to subscribe. -/
  retryDelay : Nat
  key : Option String := none
  enabled : Bool := false
  /-- Whether a match was found since the last reset. -/
  resolved : Bool := false
  result : Observed (Option Completion) := ⟨none, 0⟩
  /-- The number of subscriptions asked for so far. -/
  asked : Nat := 0
  task : Option WatchTask := none
  deriving DecidableEq

namespace Watcher

/-- Whether a task is alive. -/
def isWatching (w : Watcher) : Bool := w.task.isSome

/-- Set the key and whether to watch.  The running task ends; a new one starts if there is something to
    watch for.  Nothing happens if nothing changes. -/
def setTarget (w : Watcher) (key : Option String) (enabled : Bool) (now : Nat) : Watcher :=
  let key := key.map Text.trim
  if key = w.key ∧ enabled = w.enabled then w
  else
    let w := { w with key, enabled, task := none }
    match key with
    | some k =>
      if enabled && !w.resolved then { w with task := some ⟨k, .pausing now⟩ } else w
    | none => w

/-- Forget the key and what was found. -/
def reset (w : Watcher) : Watcher :=
  { w with
    key := none
    enabled := false
    resolved := false
    task := none
    result := w.result.set none }

/-- What is left of a watcher that is dropped: its task ends. -/
def drop (w : Watcher) : Watcher := { w with task := none }

/-- The time at which the task wants to go on by itself. -/
def nextDue (w : Watcher) : Option Nat :=
  match w.task with
  | some ⟨_, .pausing wakeAt⟩ => some wakeAt
  | _ => none

/-- The logs that a task asks for. -/
def filter (w : Watcher) (key : String) : LogFilter := ⟨w.target.contract, w.target.event, some key⟩

/-- End a pause that is over and subscribe.  The result gives the subscription's number and filter. -/
def wake (w : Watcher) (now : Nat) : Watcher × Option (Nat × LogFilter) :=
  match w.task with
  | some ⟨key, .pausing wakeAt⟩ =>
    if wakeAt ≤ now then
      if w.resolved then ({ w with task := none }, none)
      else
        let subscription := w.asked + 1
        ({ w with asked := subscription, task := some ⟨key, .subscribing subscription⟩ },
          some (subscription, w.filter key))
    else (w, none)
  | _ => (w, none)

theorem wake_result (w : Watcher) (now : Nat) : (w.wake now).1.result = w.result := by
  unfold wake
  grind

/-- Take the answer to a subscription: listen, or pause and try again. -/
def subscribed (w : Watcher) (subscription : Nat) (outcome : Except ChainError Unit) (now : Nat) :
    Watcher :=
  match w.task with
  | some ⟨key, .subscribing current⟩ =>
    if current = subscription then
      match outcome with
      | .ok () => { w with task := some ⟨key, .listening subscription⟩ }
      | .error _ => { w with task := some ⟨key, .pausing (now + w.retryDelay)⟩ }
    else w
  | _ => w

/-- Take a batch of logs.  The first match is kept and ends the task. -/
def batch (w : Watcher) (subscription : Nat) (logs : List Log) : Watcher :=
  match w.task with
  | some ⟨key, .listening current⟩ =>
    if current = subscription then
      if w.resolved then { w with task := none }
      else
        match w.target.firstMatch key logs with
        | some found => { w with resolved := true, result := w.result.set (some found), task := none }
        | none => w
    else w
  | _ => w

/-- Take the end of a subscription: pause and try again. -/
def closed (w : Watcher) (subscription : Nat) (now : Nat) : Watcher :=
  match w.task with
  | some ⟨key, .listening current⟩ =>
    if current = subscription then { w with task := some ⟨key, .pausing (now + w.retryDelay)⟩ }
    else w
  | _ => w

/-- Whether the task listens to a subscription. -/
def isListening (w : Watcher) (subscription : Nat) : Bool :=
  match w.task with
  | some ⟨_, .listening current⟩ => current == subscription
  | _ => false

end Watcher

end ChainProvision
