import ChainProvision.Console.Notice
import ChainProvision.Deployment.Vigil
import ChainProvision.Follow.Poller
import ChainProvision.Identity.Id
import ChainProvision.Setup.Config
import ChainProvision.Setup.Failure

/-!
# Watching a provision

The command that follows a call until its resource is ready or has failed.  It looks at what a poller shows,
tells what has changed since it last looked, and stops at the first final report.  It need not see every
value that the poller shows, only the latest whenever it looks.

## Main definitions

* `CommandError`: why a command fails, each of which ends the program with exit code 1;
* `Viewed`, `Viewed.look`: what has been told, and what is told next;
* `Watch`: a poller, what was seen of it, and until when to wait;
* `Watch.observe`: a look at what its poller has become.
-/

namespace ChainProvision.Console

/-! ## Failures of a command -/

/-- Why a command fails. -/
inductive CommandError where
  | setup (e : SetupError)
  | operator (e : FetchError)
  /-- The operator does not track the call. -/
  | untracked (call : CallId)
  | provisionFailed (message : String)
  | provisionTimeout (limit : Span)
  deriving DecidableEq

/-- The wording of a command's failure. -/
def CommandError.message : CommandError → String
  | .setup e => e.message
  | .operator e => "operator API error: " ++ e.message
  | .untracked call => "no provision found for call " ++ call.text
  | .provisionFailed message => "provisioning failed: " ++ message
  | .provisionTimeout limit => "provisioning timed out after " ++ limit.text

/-! ## Looking -/

/-- What a viewer has told so far. -/
structure Viewed where
  /-- The phase and the progress that were printed last. -/
  shown : Option (Phase × Nat) := none
  /-- The error that was seen last. -/
  error : Option String := none
  deriving DecidableEq

/-- How a provision ended: with a ready resource, or not. -/
abbrev Verdict := Except CommandError Report

/-- What a look brings. -/
structure Glance where
  viewed : Viewed
  notices : List Notice
  verdict : Option Verdict := none

namespace Viewed

/-- Tell of a report unless its phase and progress are those told last. -/
def tell (v : Viewed) (r : Report) : Viewed × List Notice :=
  let seen := some (r.phase, r.progress)
  if v.shown = seen then (v, []) else ({ v with shown := seen }, [.provision r])

/-- What a final report means. -/
def verdict? (r : Report) : Option Verdict :=
  if r.isFailed then some (.error (.provisionFailed (r.message.getD "unknown error")))
  else if r.isReady then some (.ok r)
  else none

/-- Warn of an error unless it is the one seen last. -/
def warn (v : Viewed) (error : Option String) : Viewed × List Notice :=
  if error = v.error then (v, []) else ({ v with error }, (error.map Notice.warning).toList)

/-- Look at what a poller shows.  Once a report is final, errors do not matter any more. -/
def look (v : Viewed) (s : PollState) : Glance :=
  let (v, told) := match s.report with
    | some r => v.tell r
    | none => (v, [])
  match s.report.bind verdict? with
  | some verdict => ⟨v, told, some verdict⟩
  | none =>
    let (v, warnings) := v.warn s.error
    ⟨v, told ++ warnings, none⟩

end Viewed

/-- Look at what a poller shows, again and again, up to a verdict. -/
def follow : Viewed → List PollState → Glance
  | v, [] => ⟨v, [], none⟩
  | v, s :: states =>
    let glance := v.look s
    match glance.verdict with
    | some _ => glance
    | none =>
      let later := follow glance.viewed states
      { later with notices := glance.notices ++ later.notices }

/-! ## The command -/

/-- A watch of a call. -/
structure Watch where
  call : CallId
  endpoint : Endpoint
  /-- When the watch began, in milliseconds. -/
  since : Nat
  limit : Option Span
  poller : Poller
  viewed : Viewed := {}
  deriving DecidableEq

namespace Watch

/-- A watch from now on. -/
def start (config : Config) (endpoint : Endpoint) (call : CallId) (now : Nat) : Watch :=
  let poller : Poller := { interval := config.pollInterval.timerMillis }
  { call, endpoint, since := now, limit := config.provisionTimeout
    poller := poller.setTarget (some call) true now }

/-- The time at which a watch is given up. -/
def deadline (w : Watch) : Option Nat := w.limit.map fun limit => w.since + limit.timerMillis

/-- When a watch wants to go on by itself. -/
def nextDue (w : Watch) : Option Nat := Vigil.earlier w.deadline w.poller.nextDue

/-- The failure of a watch whose deadline has passed. -/
def expiry? (w : Watch) (now : Nat) : Option CommandError :=
  match w.limit with
  | some limit => if w.since + limit.timerMillis ≤ now then some (.provisionTimeout limit) else none
  | none => none

/-- The watch with its poller moved on, and what is told if that was announced. -/
def observe (w : Watch) (poller : Poller) : Watch × List Notice × Option Verdict :=
  let moved := { w with poller }
  if poller.state.version = w.poller.state.version then (moved, [], none)
  else
    let glance := w.viewed.look poller.state.value
    ({ moved with viewed := glance.viewed }, glance.notices, glance.verdict)

/-- The success of a watch. -/
def successNotice (w : Watch) (r : Report) (now : Nat) : Notice :=
  .success ("Call " ++ w.call.text ++ " is ready: " ++ r.resource.getD "unknown")
    (some (.ofMillis (now - w.since)))

end Watch

end ChainProvision.Console
