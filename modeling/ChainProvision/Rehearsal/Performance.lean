import ChainProvision.Rehearsal.Cast

/-!
# Performances on a virtual clock

A performance runs a machine against its cast on a clock that moves only when it is told to.  Whatever can
happen without time passing happens at once: answers that are due come in the order in which they were given,
and then the machine goes on by itself if it is due.  As all of a rehearsal, it serves tests only.

## Main definitions

* `Part`: how a machine takes part in a performance;
* `Performance.deliver`: an event, with the calls that it leads to;
* `Performance.advance`: the passing of time.
-/

namespace ChainProvision.Rehearsal

/-- How a machine with states `σ`, events `ε` and effects `φ` takes part in a performance. -/
structure Part (σ ε φ : Type) where
  handle : Moment → σ → ε → σ × List φ
  /-- When the machine wants to go on by itself. -/
  nextDue : σ → Option Nat
  /-- The event that lets it go on. -/
  wake : ε
  /-- A call of the cast; its answers come with the milliseconds that they take. -/
  ask : Cast ε → φ → Cast ε × List (Nat × ε)

/-- A machine among its cast. -/
structure Performance (σ ε : Type) where
  machine : σ
  cast : Cast ε
  clock : Nat := 0
  /-- Answers on their way, with the times at which they come. -/
  pending : List (Nat × ε) := []
  outage : Outage := {}

/-- Answers that take no time. -/
def atOnce {ε : Type} (answers : List ε) : List (Nat × ε) := answers.map fun e => (0, e)

namespace Performance

variable {σ ε φ : Type}

/-- The performance with more answers on their way. -/
def expect (p : Performance σ ε) (answers : List (Nat × ε)) : Performance σ ε :=
  { p with pending := p.pending ++ answers.map fun (delay, e) => (p.clock + delay, e) }

/-- Ask the cast. -/
def ask (part : Part σ ε φ) (p : Performance σ ε) (effect : φ) : Performance σ ε :=
  let (cast, answers) := part.ask p.cast effect
  { p with cast }.expect answers

/-- Let an event happen, and make the calls that it leads to. -/
def deliver (part : Part σ ε φ) (p : Performance σ ε) (e : ε) : Performance σ ε :=
  let moment : Moment := { clock := p.clock, outage := p.outage }
  let (machine, effects) := part.handle moment p.machine e
  effects.foldl (ask part) { p with machine }

/-- Of the answers on their way, the first of those that come earliest, and the others. -/
def takeEarliest : List (Nat × ε) → Option ((Nat × ε) × List (Nat × ε))
  | [] => none
  | answer :: rest =>
    match takeEarliest rest with
    | none => some (answer, [])
    | some (earliest, others) =>
      if answer.1 ≤ earliest.1 then some (answer, rest) else some (earliest, answer :: others)

/-- The next thing that happens by itself up to a time: when, what, and what is still on its way then.  An
    answer comes before the machine goes on. -/
def next? (part : Part σ ε φ) (p : Performance σ ε) (upTo : Nat) :
    Option (Nat × ε × List (Nat × ε)) :=
  let answer := (takeEarliest p.pending).filter fun (answer, _) => answer.1 ≤ upTo
  let wake := (part.nextDue p.machine).filter fun due => due ≤ upTo
  match answer, wake with
  | some ((due, e), others), some wakeAt =>
    if due ≤ max p.clock wakeAt then some (due, e, others) else some (wakeAt, part.wake, p.pending)
  | some ((due, e), others), none => some (due, e, others)
  | none, some wakeAt => some (wakeAt, part.wake, p.pending)
  | none, none => none

/-- Let happen what happens by itself up to a time, at most `fuel` events, and then move the clock to that
    time. -/
def run (part : Part σ ε φ) : Nat → Performance σ ε → Nat → Performance σ ε
  | 0, p, upTo => { p with clock := max p.clock upTo }
  | fuel + 1, p, upTo =>
    match p.next? part upTo with
    | none => { p with clock := max p.clock upTo }
    | some (due, e, pending) =>
      run part fuel ({ p with pending, clock := max p.clock due }.deliver part e) upTo

/-- Let `ms` milliseconds pass, with all that happens up to and including their end.  No machine goes on by
    itself more than once a millisecond for long, so the number of events is bounded by the time that
    passes and by the answers that are written down. -/
def advance (part : Part σ ε φ) (p : Performance σ ε) (ms : Nat) : Performance σ ε :=
  p.run part (64 + 8 * (ms + p.pending.length + p.cast.volume)) (p.clock + ms)

/-- Let an event happen with all that follows from it without time passing. -/
def act (part : Part σ ε φ) (p : Performance σ ε) (e : ε) : Performance σ ε :=
  (p.deliver part e).advance part 0

/-- Give a gate a permit, with all that follows. -/
def release (part : Part σ ε φ) (p : Performance σ ε) (gate : Gate) : Performance σ ε :=
  let (cast, passed) := p.cast.release gate
  ({ p with cast }.expect (atOnce passed)).advance part 0

end Performance

end ChainProvision.Rehearsal
