import ChainProvision.Operator.Report
import ChainProvision.Signal.Observed

/-!
# Polling the operator

A poller asks the operator about its call on every tick, until a report is final.  Reports that would
move the phase backwards are ignored.  Pointing the poller at another call, or switching it off, ends the
running task at once: what that task was still waiting for belongs to an epoch that has passed.

A ticker is due again and again.  A tick that comes late delays those after it, so that they do not come in a
burst; lateness of a few milliseconds is forgiven and the old rhythm kept.

## Main definitions

* `Ticker.tick`: the rhythm of the polls;
* `PollState`: what a poller shows;
* `Poller.setTarget`, `Poller.stop`, `Poller.drop`: what its owner does;
* `Poller.tick`, `Poller.answer`: what its task does.
-/

namespace ChainProvision

/-! ## Tickers -/

/-- When the next tick is due, on a clock in milliseconds. -/
structure Ticker where
  due : Nat
  deriving DecidableEq, Repr

namespace Ticker

/-- The lateness, in milliseconds, up to which the rhythm is kept. -/
def tolerance : Nat := 5

/-- The ticker after a tick taken at `now`. -/
def tick (t : Ticker) (interval now : Nat) : Ticker :=
  if t.due + tolerance < now then ⟨now + interval⟩ else ⟨t.due + interval⟩

end Ticker

/-! ## Pollers -/

/-- The span between two polls where none is configured. -/
def defaultPollInterval : Span := .ofMillis 2000

/-- What a poller has learned about its call. -/
structure PollState where
  /-- The latest accepted report; none until the operator tracks the call. -/
  report : Option Report := none
  /-- The last transient failure. -/
  error : Option String := none
  /-- Whether a task is polling. -/
  polling : Bool := false
  deriving DecidableEq

namespace PollState

/-- The phase of the latest report. -/
def phase (s : PollState) : Option Phase := s.report.map Report.phase

/-- Whether the resource is ready. -/
def isReady (s : PollState) : Bool := s.phase == some .ready

/-- Whether provisioning failed. -/
def isFailed (s : PollState) : Bool := s.phase == some .failed

/-- Whether a report may follow what is known. -/
def accepts (s : PollState) (r : Report) : Bool :=
  match s.phase with
  | some p => p.canAdvanceTo r.phase
  | none => true

/-- What is known after an accepted report. -/
def learn (s : PollState) (r : Report) : PollState :=
  { report := some r, error := none, polling := s.polling && !r.phase.isTerminal }

end PollState

/-- The task of a poller. -/
structure PollTask where
  epoch : Nat
  call : CallId
  ticker : Ticker
  /-- Whether a fetch is under way; otherwise the task waits for its ticker. -/
  fetching : Bool
  deriving DecidableEq

/-- A poller of the operator's reports about one call at a time. -/
structure Poller where
  /-- Milliseconds between polls. -/
  interval : Nat
  target : Option CallId := none
  enabled : Bool := false
  state : Observed PollState := ⟨{}, 0⟩
  /-- Grows whenever a task starts or ends. -/
  epoch : Nat := 0
  task : Option PollTask := none
  deriving DecidableEq

namespace Poller

/-- Whether a task is alive. -/
def isPolling (p : Poller) : Bool := p.task.isSome

/-- End the running task, if there is one. -/
def stopTask (p : Poller) : Poller :=
  { p with
    epoch := p.epoch + 1
    task := none
    state := p.state.edit fun s => ({ s with polling := false }, s.polling) }

/-- Start a task for a call; its first tick is due at once. -/
def startTask (p : Poller) (call : CallId) (now : Nat) : Poller :=
  { p with
    epoch := p.epoch + 1
    task := some ⟨p.epoch + 1, call, ⟨now⟩, false⟩
    state := p.state.modify fun s => { s with polling := true } }

/-- Point the poller at a call, or switch it off.  What was learned about another call is forgotten;
    nothing happens if nothing changes. -/
def setTarget (p : Poller) (call : Option CallId) (enabled : Bool) (now : Nat) : Poller :=
  if call = p.target ∧ enabled = p.enabled then p
  else
    let stopped := p.stopTask
    let state := if call = p.target then stopped.state else stopped.state.set {}
    let pointed := { stopped with target := call, enabled, state }
    match enabled, call with
    | true, some call => pointed.startTask call now
    | _, _ => pointed

/-- Switch the poller off without forgetting what was learned. -/
def stop (p : Poller) : Poller := { p with enabled := false }.stopTask

/-- What is left of a poller that is dropped: its task ends, and nobody is told. -/
def drop (p : Poller) : Poller := { p with epoch := p.epoch + 1, task := none }

/-- The time at which the task wants to go on by itself. -/
def nextDue (p : Poller) : Option Nat :=
  match p.task with
  | some task => if task.fetching then none else some task.ticker.due
  | none => none

/-- Take a tick that is due and start a fetch.  The result names the fetch by its epoch and its call.  No
    ticker runs without a span between its ticks, so a task without one is lost at its first. -/
def tick (p : Poller) (now : Nat) : Poller × Option (Nat × CallId) :=
  match p.task with
  | some task =>
    if !task.fetching && task.ticker.due ≤ now then
      if p.interval = 0 then ({ p with task := none }, none)
      else
        ({ p with
            task := some { task with ticker := task.ticker.tick p.interval now, fetching := true } },
          some (task.epoch, task.call))
    else (p, none)
  | none => (p, none)

theorem tick_state (p : Poller) (now : Nat) : (p.tick now).1.state = p.state := by
  unfold Poller.tick
  grind

theorem tick_interval (p : Poller) (now : Nat) : (p.tick now).1.interval = p.interval := by
  unfold Poller.tick
  grind

/-- What is known after a reply, and whether that is announced. -/
def absorb (reply : FetchReply) (s : PollState) : PollState × Bool :=
  match reply with
  | .error e => ({ s with error := some e.message }, true)
  | .ok none => ({ s with error := none }, s.error.isSome)
  | .ok (some r) => if s.accepts r then (s.learn r, true) else (s, false)

/-- Whether a reply ends the task. -/
def isFinal (reply : FetchReply) (s : PollState) : Bool :=
  match reply with
  | .ok (some r) => s.accepts r && r.phase.isTerminal
  | _ => false

/-- Take the reply to the fetch of an epoch.  Replies to fetches of other epochs come too late. -/
def answer (p : Poller) (epoch : Nat) (reply : FetchReply) : Poller :=
  match p.task with
  | some task =>
    if task.fetching && task.epoch == epoch then
      { p with
        state := p.state.edit (absorb reply)
        task := if isFinal reply p.state.value then none else some { task with fetching := false } }
    else p
  | none => p

theorem answer_interval (p : Poller) (epoch : Nat) (reply : FetchReply) :
    (p.answer epoch reply).interval = p.interval := by
  unfold Poller.answer
  grind

end Poller

end ChainProvision
