import ChainProvision.Rehearsal.Performance

/-!
# Rehearsing a watcher

A watcher against scripted subscriptions.  For tests only.
-/

namespace ChainProvision.Rehearsal

/-- What happens to a watcher. -/
inductive WatcherEvent where
  | target (key : Option String) (enabled : Bool)
  | reset
  | drop
  | wake
  | stream (subscription : Nat) (item : Cast.StreamItem)

/-- A watcher after an event, and the subscription that it asks for.  Nothing happens to one that was
    dropped. -/
def stepWatcher (m : Moment) (w : Option Watcher) (e : WatcherEvent) :
    Option Watcher × List (Nat × LogFilter) :=
  match w with
  | none => (none, [])
  | some w =>
    match e with
    | .target key enabled => (some (w.setTarget key enabled m.clock), [])
    | .reset => (some w.reset, [])
    | .drop => (none, [])
    | .wake =>
      let (w, asked) := w.wake m.clock
      (some w, asked.toList)
    | .stream subscription (.outcome outcome) => (some (w.subscribed subscription outcome m.clock), [])
    | .stream subscription (.batch logs) => (some (w.batch subscription logs), [])
    | .stream subscription .closed => (some (w.closed subscription m.clock), [])

/-- How a watcher takes part. -/
def watcherPart : Part (Option Watcher) WatcherEvent (Nat × LogFilter) where
  handle := stepWatcher
  nextDue w := w.bind Watcher.nextDue
  wake := .wake
  ask cast effect :=
    let (cast, answers) := cast.subscribe 0 effect.1 effect.2 (.stream effect.1)
    (cast, atOnce answers)

/-- What is done with a watcher. -/
inductive WatcherStep where
  | target (key : Option String) (enabled : Bool)
  | logs (batch : List Log)
  | close
  | advance (ms : Nat)
  | reset
  | drop

/-- What a watcher shows after a step. -/
structure WatcherScene where
  /-- None once it was dropped. -/
  watcher : Option Watcher
  changed : Bool
  /-- Whether the logs of the step reached the watcher. -/
  delivered : Option Bool
  filters : List LogFilter

/-- The newest stream, if it is open at both ends. -/
def openStream? {ε : Type} (cast : Cast ε) (listens : Stream → Bool) : Option Stream :=
  cast.stream.filter fun s => s.isOpen && listens s

/-- Whether a watcher listens to a stream. -/
def watcherListens (w : Option Watcher) (s : Stream) : Bool :=
  match w with
  | some w => w.isListening s.subscription
  | none => false

/-- The performance after a step, and whether logs were delivered. -/
def WatcherStep.perform (p : Performance (Option Watcher) WatcherEvent) :
    WatcherStep → Performance (Option Watcher) WatcherEvent × Option Bool
  | .target key enabled => (p.act watcherPart (.target key enabled), none)
  | .logs batch =>
    match openStream? p.cast (watcherListens p.machine) with
    | some s => (p.act watcherPart (.stream s.subscription (.batch batch)), some true)
    | none => (p, some false)
  | .close =>
    match p.cast.stream with
    | some s =>
      if s.isOpen then
        ({ p with cast := p.cast.closeStream }.act watcherPart (.stream s.subscription .closed), none)
      else (p, none)
    | none => (p, none)
  | .advance ms => (p.advance watcherPart ms, none)
  | .reset => (p.act watcherPart .reset, none)
  | .drop => (p.act watcherPart .drop, none)

/-- The scenes of steps. -/
def rehearseWatcher (p : Performance (Option Watcher) WatcherEvent) :
    List WatcherStep → List WatcherScene
  | [] => []
  | step :: steps =>
    let (next, delivered) := step.perform p
    let version (p : Performance (Option Watcher) WatcherEvent) := p.machine.map (·.result.version)
    ⟨next.machine, version next != version p, delivered, next.cast.filters⟩ ::
      rehearseWatcher next steps

end ChainProvision.Rehearsal
