import ChainProvision.Deployment.Relay

/-!
# A deployer with the tasks of its attempts

The vigil of an attempt is a task, and its lookout runs another one inside.  When the vigil ends by itself, its
lookout is dropped with it.  When the attempt is discarded, or the deployer ends, the vigil's task is only told
to end: it is dropped when the runtime turns to it, and no earlier is its lookout.  Until then the inner task may
have its turns, and even ask for something, though nobody looks at what it learns any more.

Tasks that something has come for are ready, in the order in which they became so.  The runtime turns to one of
them at a time; one that keeps the order always turns to the first.

## Main definitions

* `News`, `Job`: what comes for the task of a lookout, and what is ready to run;
* `Crew`: a deployer with all vigils that it ever had;
* `Crew.handle`: what happens to a crew;
* `Crew.prompt`: an event with all that follows from it at once.
-/

namespace ChainProvision

open Deployer

/-- What comes for the task of a lookout. -/
inductive News where
  /-- Time has passed. -/
  | wake
  | fetched (epoch : Nat) (reply : FetchReply)
  | subscribed (subscription : Nat) (outcome : Except ChainError Unit)
  | batch (subscription : Nat) (logs : List Log)
  | closed (subscription : Nat)

/-- The event that news for the vigil of an attempt are. -/
def News.event (generation : Nat) : News → Event
  | .wake => .wake
  | .fetched epoch reply => .fetched generation epoch reply
  | .subscribed subscription outcome => .subscribed generation subscription outcome
  | .batch subscription logs => .batch generation subscription logs
  | .closed subscription => .closed generation subscription

/-- What is ready to run. -/
inductive Job where
  /-- The task of an attempt's lookout, for which there are news. -/
  | news (generation : Nat) (news : News)
  /-- The task of an attempt's vigil, which was told to end. -/
  | drop (generation : Nat)

/-- The turn of a lookout's task for which there are news: it goes on until it has to wait again. -/
def Lookout.hear (m : Moment) (generation : Nat) (news : News) (lookout : Lookout) :
    Lookout × List Effect :=
  ((news.event generation).tell m lookout).wake m generation

namespace Vigil

/-- The turn of a lookout's task, if it is the one of this vigil. -/
def hear (m : Moment) (generation : Nat) (news : News) (v : Vigil) : Vigil × List Effect :=
  if v.generation = generation then
    let (lookout, effects) := v.lookout.hear m generation news
    ({ v with lookout }, effects)
  else (v, [])

/-- What is left of a vigil that is dropped. -/
def drop (v : Vigil) : Vigil := { v with lookout := v.lookout.drop }

end Vigil

/-- A deployer with all vigils that it ever had. -/
structure Crew where
  relay : Relay
  /-- The vigils that the deployer does not hold any more, as their tasks have left them. -/
  former : List Vigil := []
  /-- What is ready to run, in the order in which it became ready. -/
  ready : List Job := []

namespace Crew

/-- What happens to a crew. -/
inductive Happening where
  /-- Something that the deployer takes at once. -/
  | event (e : Event)
  /-- There are news for the lookout of an attempt, whose task is ready from now on. -/
  | news (generation : Nat) (news : News)
  /-- The deployer looks at what its lookout has learned. -/
  | look
  /-- The runtime turns to the job at a place. -/
  | turn (place : Nat)

/-- A deployer before any of its attempts. -/
def of (d : Deployer) : Crew := { relay := .of d }

/-- The deployer itself. -/
def deployer (c : Crew) : Deployer := c.relay.deployer

/-- Go on with what has become of the deployer.  A vigil that it does not hold any more has ended by itself, and
    is dropped; or its attempt was discarded or replaced, and its task is told to end. -/
def follow (c : Crew) (relay : Relay) : Crew :=
  match c.relay.ahead with
  | none => { c with relay }
  | some v =>
    if relay.ahead.map Vigil.generation = some v.generation then { c with relay }
    else if relay.ahead.isNone ∧ relay.deployer.generation = c.deployer.generation then
      { c with relay, former := c.former ++ [v.drop] }
    else { relay, former := c.former ++ [v], ready := c.ready ++ [.drop v.generation] }

/-- Run a job.  The deployer's own vigil takes the news as an event; those for a vigil that the deployer does not
    hold any more are lost on it. -/
def perform (m : Moment) (c : Crew) : Job → Crew × List Effect
  | .news generation news =>
    if c.relay.ahead.map Vigil.generation = some generation then
      let (relay, effects) := c.relay.take m (news.event generation)
      (c.follow relay, effects)
    else
      let heard := c.former.map (·.hear m generation news)
      ({ c with former := heard.map Prod.fst }, heard.flatMap Prod.snd)
  | .drop generation =>
    ({ c with former := c.former.map fun v => if v.generation = generation then v.drop else v }, [])

/-- The crew after something has happened, and what is asked for. -/
def handle (m : Moment) (c : Crew) : Happening → Crew × List Effect
  | .event e =>
    let (relay, effects) := c.relay.take m e
    (c.follow relay, effects)
  | .news generation news => ({ c with ready := c.ready ++ [.news generation news] }, [])
  | .look => (c.follow (c.relay.look m), [])
  | .turn place =>
    match c.ready[place]? with
    | some job => { c with ready := c.ready.eraseIdx place }.perform m job
    | none => (c, [])

/-- So many turns, each to the first of what is ready. -/
def turns (m : Moment) : Nat → Crew → Crew × List Effect
  | 0, c => (c, [])
  | n + 1, c =>
    let (next, effects) := c.handle m (.turn 0)
    let (last, more) := turns m n next
    (last, effects ++ more)

/-- An event at which the deployer looks at once, and after which all that is ready has its turn. -/
def prompt (m : Moment) (c : Crew) (e : Event) : Crew × List Effect :=
  let (taken, effects) := c.handle m (.event e)
  let looked := (taken.handle m .look).1
  let (last, more) := turns m looked.ready.length looked
  (last, effects ++ more)

end Crew

end ChainProvision
