import ChainProvision.Deployment.Deployer

/-!
# Deployers that look late

What a vigil learns is learned by a task of its own.  The deployer sees only the latest of it, and only when
it looks: anything may happen between two looks, and what was learned in between is then gone.  A relay is
such a deployer, together with the vigil as its task has left it.  A deployer by itself is one that looks
after every event.

## Main definitions

* `Vigil.react?`: what an event does to a vigil by itself;
* `Relay`: a deployer that looks whenever it likes;
* `Relay.take`, `Relay.look`: an event, and a look.
-/

namespace ChainProvision

open Deployer

/-! ## What an event does to a vigil -/

namespace Lookout

/-- The number of times that something to be shown was announced. -/
def version : Lookout → Nat
  | .operator _ poller => poller.state.version
  | .contract _ => 0

end Lookout

/-- The attempt whose lookout an event tells something. -/
def Deployer.Event.told? : Event → Option Nat
  | .fetched generation _ _ => some generation
  | .subscribed generation _ _ => some generation
  | .batch generation _ _ => some generation
  | .closed generation _ => some generation
  | _ => none

/-- What becomes of a lookout that an event tells something. -/
def Deployer.Event.tell (m : Moment) (e : Event) (lookout : Lookout) : Lookout :=
  match e with
  | .fetched _ epoch reply => (stepPoller (·.answer epoch reply) lookout).1
  | .subscribed _ subscription outcome =>
    (stepWatcher (·.subscribed subscription outcome m.clock) lookout).1
  | .batch _ subscription logs => (stepWatcher (·.batch subscription logs) lookout).1
  | .closed _ subscription => (stepWatcher (·.closed subscription m.clock) lookout).1
  | _ => lookout

/-- What a lookout does by itself when it is woken, and what it asks for. -/
def Lookout.wake (m : Moment) (generation : Nat) : Lookout → Lookout × List Effect
  | .operator call poller =>
    let (poller, asked) := poller.tick m.clock
    (.operator call poller, asked.toList.map fun (epoch, call) => .fetch generation epoch call)
  | .contract watcher =>
    let (watcher, asked) := watcher.wake m.clock
    (.contract watcher,
      asked.toList.map fun (subscription, filter) => .subscribe generation subscription filter)

/-- What an event does to a vigil by itself, and what is asked for; nothing if the event is not for
the vigil, or wakes it after its deadline. -/
def Vigil.react? (m : Moment) (v : Vigil) (e : Event) : Option (Vigil × List Effect) :=
  match e with
  | .wake =>
    if (v.expiry? m.clock).isSome then none
    else
      let (lookout, effects) := v.lookout.wake m v.generation
      some ({ v with lookout }, effects)
  | e =>
    if e.told? = some v.generation then some ({ v with lookout := e.tell m v.lookout }, []) else none

/-! ## Relays -/

/-- A deployer that looks whenever it likes at what the task of its vigil has learned. -/
structure Relay where
  deployer : Deployer
  /-- The vigil as its task has left it. -/
  ahead : Option Vigil
  /-- All that has happened since, with what was asked for. -/
  trace : List (Event × List Effect) := []
  /-- What had happened when the deployer looked last. -/
  seen : List (Event × List Effect) := []

namespace Relay

/-- What happens to a relay: an event, or a look of the deployer. -/
inductive Occurrence where
  | event (e : Event)
  | look

/-- A deployer that has just looked. -/
def of (d : Deployer) : Relay := { deployer := d, ahead := d.vigil }

/-- The task of a vigil goes on as long as the deployer keeps the vigil; that of another one begins. -/
def carry (ahead kept : Option Vigil) : Option Vigil :=
  if kept.map Vigil.generation = ahead.map Vigil.generation then ahead else kept

/-- Take an event.  What is for the vigil is taken by its task, and the deployer is none the wiser. -/
def take (m : Moment) (r : Relay) (e : Event) : Relay × List Effect :=
  if r.deployer.isGone then (r, [])
  else
    match r.ahead.bind (·.react? m e) with
    | some (v, effects) => ({ r with ahead := some v, trace := r.trace ++ [(e, effects)] }, effects)
    | none =>
      let (deployer, effects) := r.deployer.handle m e
      ({ r with
          deployer
          ahead := carry r.ahead deployer.vigil
          trace := r.trace ++ [(e, effects)] }, effects)

/-- Look at what the task of the vigil has learned. -/
def look (m : Moment) (r : Relay) : Relay :=
  if r.deployer.isGone then r
  else
    match r.deployer.vigil, r.ahead with
    | some v, some w =>
      let deployer := r.deployer.observe m w (w.lookout.version != v.lookout.version)
      { r with deployer, ahead := carry r.ahead deployer.vigil, seen := r.trace }
    | _, _ => { r with seen := r.trace }

/-- What becomes of a relay. -/
def step (r : Relay) (x : Moment × Occurrence) : Relay :=
  match x.2 with
  | .event e => (r.take x.1 e).1
  | .look => r.look x.1

end Relay

end ChainProvision
