import ChainProvision.Console.Arguments
import ChainProvision.Console.Watch
import ChainProvision.Setup.Directory

/-!
# Sessions

A session is the run of one command, as a machine: it tells notices, asks the operator, and ends with an exit
code.  The same machine runs on the console and in rehearsals.

## Main definitions

* `Session`, `Session.Event`, `Session.Effect`: the machine;
* `Session.begin`: the start of a command in a directory;
* `Session.handle`: the step of the machine.
-/

namespace ChainProvision.Console

/-- The run of a command. -/
inductive Session where
  /-- Waiting for the one report that was asked for. -/
  | inquiry (call : CallId)
  | watch (watch : Watch)
  | over (exitCode : Nat)
  deriving DecidableEq

namespace Session

/-- What happens to a session. -/
inductive Event where
  /-- Time has passed. -/
  | wake
  | fetched (epoch : Nat) (reply : FetchReply)

/-- What a session asks for. -/
inductive Effect where
  | tell (notice : Notice)
  | fetch (epoch : Nat) (endpoint : Endpoint) (call : CallId)
  deriving DecidableEq

/-- The end of a command that failed. -/
def failure (e : CommandError) : Session × List Effect := (.over 1, [.tell (.error e.message)])

/-- The end of a watch, if it has ended. -/
def conclude (w : Watch) (notices : List Notice) (verdict : Option Verdict) (now : Nat) :
    Session × List Effect :=
  let told : List Effect := notices.map .tell
  match verdict with
  | some (.ok r) => (.over 0, told ++ [.tell (w.successNotice r now)])
  | some (.error e) =>
    let (session, effects) := failure e
    (session, told ++ effects)
  | none => (.watch w, told)

/-- What the report that was asked for leads to. -/
def inform (call : CallId) : FetchReply → Session × List Effect
  | .error e => failure (.operator e)
  | .ok none => failure (.untracked call)
  | .ok (some r) =>
    let success : List Effect :=
      if r.isReady then
        [.tell (.success ("Call " ++ call.text ++ " is ready: " ++ r.resource.getD "unknown"))]
      else []
    (.over 0, .tell (.provision r) :: success)

/-- A watch goes on by itself: its poller may ask the operator, or its time is over. -/
def wakeWatch (w : Watch) (now : Nat) : Session × List Effect :=
  match w.expiry? now with
  | some e => failure e
  | none =>
    let (poller, asked) := w.poller.tick now
    let (w, notices, verdict) := w.observe poller
    let (session, effects) := conclude w notices verdict now
    (session, effects ++ (asked.map fun (epoch, call) => Effect.fetch epoch w.endpoint call).toList)

/-- The step of a session. -/
def handle (now : Nat) : Session → Event → Session × List Effect
  | .over exitCode, _ => (.over exitCode, [])
  | .inquiry call, .fetched _ reply => inform call reply
  | .inquiry call, .wake => (.inquiry call, [])
  | .watch w, .wake => wakeWatch w now
  | .watch w, .fetched epoch reply =>
    let (w, notices, verdict) := w.observe (w.poller.answer epoch reply)
    conclude w notices verdict now

/-- When a session wants to go on by itself. -/
def nextDue : Session → Option Nat
  | .watch w => w.nextDue
  | _ => none

/-! ## Commands -/

/-- The start of a command: its session with its first effects, and the directory that it leaves. -/
structure Opening where
  session : Session
  effects : List Effect
  directory : Directory

/-- The start of a command that asks the operator a directory's configuration names. -/
def withOperator (d : Directory) (start : Config → Endpoint → Session × List Effect) :
    Session × List Effect :=
  match d.config with
  | .error e => failure (.setup e)
  | .ok config =>
    match config.endpoint with
    | .error e => failure (.operator e)
    | .ok endpoint => start config endpoint

/-- The start of a command in a directory. -/
def begin (d : Directory) (now : Nat) : Command → Opening
  | .init operatorApi force =>
    match d.init operatorApi force with
    | .error e =>
      let (session, effects) := failure (.setup e)
      ⟨session, effects, d⟩
    | .ok after => ⟨.over 0, [.tell (.success ("Created " ++ Directory.configName))], after⟩
  | .status call =>
    let (session, effects) := withOperator d fun _ endpoint =>
      (.inquiry call, [.fetch 0 endpoint call])
    ⟨session, effects, d⟩
  | .watch call =>
    let (session, effects) := withOperator d fun config endpoint =>
      (.watch (.start config endpoint call now),
        [.tell (.progress ("Watching call " ++ call.text ++ " on " ++ endpoint.baseUrl))])
    ⟨session, effects, d⟩

/-- How an invocation prints. -/
def mode (i : Invocation) : Mode :=
  if i.json then .json else if i.quiet then .quiet else .normal

end Session

end ChainProvision.Console
