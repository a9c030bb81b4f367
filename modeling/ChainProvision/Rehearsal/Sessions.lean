import ChainProvision.Console.Session
import ChainProvision.Http.Message
import ChainProvision.Rehearsal.Performance

/-!
# Rehearsing a session

A session against an operator whose every connection ends in a scripted way.  For tests only.
-/

namespace ChainProvision.Rehearsal

open Console

/-- How the connections to an operator end, by their numbers from zero. -/
abbrev Network := Nat → Exchange

/-- A session with what it has told and which connections it has tried. -/
structure StagedSession where
  session : Session
  notices : List Notice := []
  /-- The endpoints and the calls that were asked for. -/
  tried : List (Endpoint × CallId) := []

namespace StagedSession

/-- A fetch: the number of its connection, its epoch, and the endpoint that is asked. -/
structure Fetch where
  connection : Nat
  epoch : Nat
  endpoint : Endpoint

/-- Write down an effect; a fetch is also left to be made. -/
def note (s : StagedSession) (effect : Session.Effect) : StagedSession × List Fetch :=
  match effect with
  | .tell notice => ({ s with notices := s.notices ++ [notice] }, [])
  | .fetch epoch endpoint call =>
    ({ s with tried := s.tried ++ [(endpoint, call)] }, [⟨s.tried.length, epoch, endpoint⟩])

/-- Write down effects. -/
def noteAll (s : StagedSession) (effects : List Session.Effect) : StagedSession × List Fetch :=
  effects.foldl (fun (s, fetches) effect =>
    let (s, more) := s.note effect
    (s, fetches ++ more)) (s, [])

/-- The step of a session with its effects written down. -/
def step (m : Moment) (s : StagedSession) (e : Session.Event) : StagedSession × List Fetch :=
  let (session, effects) := s.session.handle m.clock e
  { s with session }.noteAll effects

end StagedSession

/-- The milliseconds that an attempt to ask an endpoint takes. -/
def exchangeMillis (e : Endpoint) : Exchange → Nat
  | .unanswered => e.requestTimeout.timerMillis
  | _ => 0

/-- How a session takes part. -/
def sessionPart (network : Network) : Part StagedSession Session.Event StagedSession.Fetch where
  handle := StagedSession.step
  nextDue s := s.session.nextDue
  wake := .wake
  ask cast fetch :=
    let exchange := network fetch.connection
    (cast, [(exchangeMillis fetch.endpoint exchange, .fetched fetch.epoch (fetch.endpoint.reply exchange))])

/-- What a session leaves. -/
structure SessionScene where
  /-- None while it has not ended. -/
  exitCode : Option Nat
  notices : List Notice
  /-- The first lines of the requests that reached the operator. -/
  requests : List String
  directory : Directory

/-- The first lines of the requests that reached the operator. -/
def requestLines (network : Network) (tried : List (Endpoint × CallId)) : List String :=
  tried.zipIdx.filterMap fun ((endpoint, call), connection) =>
    match network connection with
    | .unconnected _ => none
    | _ => some (Http.requestLine endpoint call)

/-- Run a command in a directory for at most the given milliseconds. -/
def rehearseSession (network : Network) (d : Directory) (command : Command) (ms : Nat) : SessionScene :=
  let opening := Session.begin d 0 command
  let part := sessionPart network
  let (staged, fetches) := StagedSession.noteAll ⟨opening.session, [], []⟩ opening.effects
  let start : Performance StagedSession Session.Event :=
    { machine := staged, cast := { broadcaster := .ofList (.error (.transport "no chain")) [] } }
  let last := ((fetches.foldl (Performance.ask part) start).advance part ms).machine
  { exitCode := match last.session with
      | .over exitCode => some exitCode
      | _ => none
    notices := last.notices
    requests := requestLines network last.tried
    directory := opening.directory }

end ChainProvision.Rehearsal
