import ChainProvision.Rehearsal.Performance

/-!
# Rehearsing a poller

A poller against a scripted operator.  For tests only.
-/

namespace ChainProvision.Rehearsal

/-- What happens to a poller. -/
inductive PollerEvent where
  | target (call : Option CallId) (enabled : Bool)
  | stop
  | drop
  | wake
  | fetched (epoch : Nat) (reply : FetchReply)

/-- A poller after an event, and the fetch that it starts.  Nothing happens to one that was dropped. -/
def stepPoller (m : Moment) (p : Option Poller) (e : PollerEvent) :
    Option Poller × List (Nat × CallId) :=
  match p with
  | none => (none, [])
  | some p =>
    match e with
    | .target call enabled => (some (p.setTarget call enabled m.clock), [])
    | .stop => (some p.stop, [])
    | .drop => (none, [])
    | .wake =>
      let (p, asked) := p.tick m.clock
      (some p, asked.toList)
    | .fetched epoch reply => (some (p.answer epoch reply), [])

/-- How a poller takes part. -/
def pollerPart : Part (Option Poller) PollerEvent (Nat × CallId) where
  handle := stepPoller
  nextDue p := p.bind Poller.nextDue
  wake := .wake
  ask cast effect :=
    let (cast, answer) := cast.fetch effect.2 (.fetched effect.1)
    (cast, [answer])

/-- What is done with a poller. -/
inductive PollerStep where
  | target (call : Option CallId) (enabled : Bool)
  | stop
  | advance (ms : Nat)
  | drop

/-- What a poller shows after a step. -/
structure PollerScene where
  /-- None once it was dropped. -/
  poller : Option Poller
  changed : Bool
  fetched : List CallId

/-- The performance after a step. -/
def PollerStep.perform (p : Performance (Option Poller) PollerEvent) :
    PollerStep → Performance (Option Poller) PollerEvent
  | .target call enabled => p.act pollerPart (.target call enabled)
  | .stop => p.act pollerPart .stop
  | .advance ms => p.advance pollerPart ms
  | .drop => p.act pollerPart .drop

/-- The scenes of steps. -/
def rehearsePoller (p : Performance (Option Poller) PollerEvent) : List PollerStep → List PollerScene
  | [] => []
  | step :: steps =>
    let next := step.perform p
    let version (p : Performance (Option Poller) PollerEvent) := p.machine.map (·.state.version)
    ⟨next.machine, version next != version p, next.cast.fetched⟩ :: rehearsePoller next steps

end ChainProvision.Rehearsal
