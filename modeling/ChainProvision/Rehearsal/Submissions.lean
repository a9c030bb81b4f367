import ChainProvision.Rehearsal.Performance

/-!
# Rehearsing submissions

A desk with its tracker and all its submissions, against a scripted wallet and chain.  For tests only.
-/

namespace ChainProvision.Rehearsal

/-- The tickets of a desk's suspended submissions after a step that differ from those before it. -/
def newTickets (before after : Desk) : List (Nat × Ticket) :=
  after.calls.zipIdx.filterMap fun (call, index) =>
    match call.course with
    | .suspended ticket =>
      if (before.calls[index]?).map SubmitCall.course = some (.suspended ticket) then none
      else some (index, ticket)
    | .ended _ => none

/-- How a desk takes part. -/
def deskPart : Part Desk DeskEvent (Nat × Ticket) where
  handle m d e :=
    let next := d.handle m e
    (next, newTickets d next)
  nextDue _ := none
  wake := .reset
  ask cast effect :=
    let (cast, answers) := cast.consult effect.2 (.answer effect.1)
    (cast, atOnce answers)

/-- What is done at a desk. -/
inductive DeskStep where
  | submit (s : Submission)
  | release (gate : Gate)
  | reset

/-- What a desk shows after a step. -/
structure DeskScene where
  /-- The snapshots seen during the step, with the submissions that published them. -/
  observed : List (Nat × TxSnapshot)
  snapshot : TxSnapshot
  submits : List Course
  broadcasts : Nat
  journal : List Entry

/-- The snapshots that submissions have seen since an earlier time. -/
def seenSince (before after : Desk) : List (Nat × TxSnapshot) :=
  after.calls.zipIdx.flatMap fun (call, index) =>
    let known := ((before.calls[index]?).map fun earlier => earlier.seen.length).getD 0
    (call.seen.drop known).map fun snapshot => (index, snapshot)

/-- The performance after a step. -/
def DeskStep.perform (p : Performance Desk DeskEvent) : DeskStep → Performance Desk DeskEvent
  | .submit s => p.act deskPart (.submit s)
  | .release gate => p.release deskPart gate
  | .reset => p.act deskPart .reset

/-- The scenes of steps, and the performance after them. -/
def rehearseDesk (p : Performance Desk DeskEvent) :
    List DeskStep → List DeskScene × Performance Desk DeskEvent
  | [] => ([], p)
  | step :: steps =>
    let next := step.perform p
    let desk := next.machine
    let scene : DeskScene := {
      observed := seenSince p.machine desk
      snapshot := desk.tracker.snapshot
      submits := desk.calls.map SubmitCall.course
      broadcasts := next.cast.broadcasts
      journal := desk.journal.entries }
    let (scenes, last) := rehearseDesk next steps
    (scene :: scenes, last)

end ChainProvision.Rehearsal
