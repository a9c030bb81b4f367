import ChainProvision.Chain.Failure
import ChainProvision.Chain.Request
import ChainProvision.Number.Word
import ChainProvision.Records.Journal
import ChainProvision.Transaction.Failure

/-!
# The transaction tracker

A submission goes through the wallet, the broadcast and the wait for a receipt; at each of these it is
suspended until an answer comes.  The tracker shows the submission that was started last: each one gets
a new generation, and only the current generation may publish.  Older ones run on unseen, so that what
was broadcast still enters the journal and is settled there.

## Main definitions

* `Moment`: what a step takes from its surroundings, with the calls of the stores that fail just then;
* `Submission`, `Ticket`: a submission and where it is suspended;
* `Tracker.submit`, `Tracker.resume`: the start of a submission and its step on an answer;
* `Desk`: a tracker with all its submissions, driven by `Desk.handle`.
-/

namespace ChainProvision

/-! ## The surroundings of a step -/

/-- Which calls of the stores fail, changing nothing. -/
structure Outage where
  upsert : Bool := false
  update : Bool := false
  append : Bool := false
  settle : Bool := false
  deriving DecidableEq, Repr

/-- The surroundings of a step. -/
structure Moment where
  /-- Milliseconds on the clock of the timers. -/
  clock : Nat
  /-- The time that goes into records. -/
  wall : Instant := Instant.epoch
  outage : Outage := {}
  deriving DecidableEq, Repr

/-! ## What a tracker shows -/

/-- The lifecycle of a tracked transaction. -/
inductive TxStatus where
  | idle
  | signing
  | pending
  | confirmed
  | failed
  deriving DecidableEq, Repr

/-- The name of a status. -/
def TxStatus.text : TxStatus → String
  | .idle => "Idle"
  | .signing => "Signing"
  | .pending => "Pending"
  | .confirmed => "Confirmed"
  | .failed => "Failed"

/-- What the tracker shows. -/
structure TxSnapshot where
  status : TxStatus := .idle
  hash : Option TxHash := none
  /-- The number by which the contract identified the call in the receipt. -/
  correlation : Option Word64 := none
  error : Option TxError := none
  deriving DecidableEq

/-- A transaction to send, and the event whose key identifies it afterwards. -/
structure Submission where
  request : TxRequest
  label : String
  event : String
  deriving DecidableEq

/-- A submission under the request's own label. -/
def Submission.of (request : TxRequest) (event : String) : Submission :=
  ⟨request, request.label, event⟩

/-- What a suspended submission waits for. -/
inductive Awaiting where
  | signature
  | broadcast
  | receipt (hash : TxHash)
  deriving DecidableEq

/-- An answer to a suspended submission. -/
inductive Answer where
  | signature (outcome : Except WalletError Unit)
  | broadcast (outcome : Except ChainError TxHash)
  | receipt (outcome : Except ChainError Receipt)

/-- A suspended submission. -/
structure Ticket where
  generation : Nat
  submission : Submission
  awaiting : Awaiting
  deriving DecidableEq

/-- How a submission stands: suspended, or ended with the hash of the confirmed transaction. -/
inductive Course where
  | suspended (ticket : Ticket)
  | ended (result : Option TxHash)
  deriving DecidableEq

/-- The first number that `contract` emitted as the key of `event`.  Other logs and keys that are no
    numbers are skipped. -/
def correlationOf (logs : List Log) (contract : Address) (event : String) :
    Option Word64 :=
  logs.findSome? fun log =>
    if log.address = contract ∧ log.event = event then
      match log.key with
      | some key => (Text.readNumeral UInt64.size Word64.size_pos (Text.strip key.toList)).toOption
      | none => none
    else none

/-- The tracker of the current transaction. -/
structure Tracker where
  generation : Nat := 0
  snapshot : TxSnapshot := {}
  deriving DecidableEq

/-- A step of a submission: what it leaves behind, what its observer saw, and how it stands. -/
structure Progress where
  tracker : Tracker
  journal : Journal
  seen : List TxSnapshot
  course : Course

namespace Tracker

/-- Forget the current submission; it will not be seen again. -/
def reset (t : Tracker) : Tracker := { generation := t.generation + 1 }

/-- The tracker after a publication by a submission, if that submission is the current one. -/
def publish? (t : Tracker) (generation : Nat) (f : TxSnapshot → TxSnapshot) : Option Tracker :=
  if t.generation = generation then some { t with snapshot := f t.snapshot } else none

/-- Start a submission; it waits for the wallet. -/
def submit (t : Tracker) (s : Submission) : Tracker × Ticket :=
  let generation := t.generation + 1
  ({ generation, snapshot := { status := .signing } }, ⟨generation, s, .signature⟩)

/-- End a submission with a failure. -/
def fail (t : Tracker) (journal : Journal) (generation : Nat) (e : TxError) : Progress :=
  match t.publish? generation fun s => { s with status := .failed, error := some e } with
  | some tracker => ⟨tracker, journal, [tracker.snapshot], .ended none⟩
  | none => ⟨t, journal, [], .ended none⟩

/-- The journal with one more entry, unless the call fails. -/
def recorded (m : Moment) (journal : Journal) (hash : TxHash) (label : String) : Journal :=
  if m.outage.append then journal else journal.append (.pending hash label m.wall)

/-- The journal with an entry settled, unless the call fails. -/
def settled (m : Moment) (journal : Journal) (hash : TxHash) (status : EntryStatus) : Journal :=
  if m.outage.settle then journal
  else
    match journal.settle hash status with
    | .ok journal => journal
    | .error _ => journal

/-- The failure that the wallet's refusal stands for. -/
def signingFailure (e : WalletError) : TxError :=
  if e.isRejection then .rejected else .signing e.message

/-- The failure that a missing receipt stands for.  Some clients report a revert this way. -/
def receiptFailure (e : ChainError) : TxError :=
  if Text.occursFolded "revert" e.detail then .reverted (RevertReason.short e.detail)
  else .receipt e.detail

/-- The failure that a receipt of a reverted transaction stands for. -/
def revertFailure (r : Receipt) : TxError :=
  .reverted ((r.revertReason.map RevertReason.short).getD "Transaction reverted")

/-- Go on with a suspended submission on an answer.  An answer to something else changes nothing. -/
def resume (m : Moment) (t : Tracker) (journal : Journal) (ticket : Ticket) (a : Answer) :
    Progress :=
  match ticket.awaiting, a with
  | .signature, .signature (.error e) => t.fail journal ticket.generation (signingFailure e)
  | .signature, .signature (.ok ()) =>
    ⟨t, journal, [], .suspended { ticket with awaiting := .broadcast }⟩
  | .broadcast, .broadcast (.error e) => t.fail journal ticket.generation (.broadcast e.detail)
  | .broadcast, .broadcast (.ok hash) =>
    let journal := recorded m journal hash ticket.submission.label
    match t.publish? ticket.generation fun s => { s with status := .pending, hash := some hash } with
    | some tracker =>
      ⟨tracker, journal, [tracker.snapshot],
        .suspended { ticket with awaiting := .receipt hash }⟩
    | none => ⟨t, journal, [], .ended none⟩
  | .receipt hash, .receipt (.error e) =>
    t.fail (settled m journal hash .failed) ticket.generation (receiptFailure e)
  | .receipt hash, .receipt (.ok r) =>
    if r.succeeded then
      let journal := settled m journal hash .confirmed
      let correlation :=
        correlationOf r.logs ticket.submission.request.contract ticket.submission.event
      match t.publish? ticket.generation fun s => { s with status := .confirmed, correlation } with
      | some tracker => ⟨tracker, journal, [tracker.snapshot], .ended (some hash)⟩
      | none => ⟨t, journal, [], .ended none⟩
    else t.fail (settled m journal hash .failed) ticket.generation (revertFailure r)
  | _, _ => ⟨t, journal, [], .suspended ticket⟩

end Tracker

/-! ## A tracker with its submissions -/

/-- A call of `submit`: what its observer has seen, and how it stands. -/
structure SubmitCall where
  seen : List TxSnapshot
  course : Course
  deriving DecidableEq

/-- A tracker, its journal, and all calls of `submit` in the order in which they were made. -/
structure Desk where
  tracker : Tracker := {}
  journal : Journal := {}
  calls : List SubmitCall := []

/-- What can happen at a desk. -/
inductive DeskEvent where
  | submit (s : Submission)
  | reset
  | answer (call : Nat) (a : Answer)

namespace Desk

/-- The desk after an event. -/
def handle (m : Moment) (d : Desk) : DeskEvent → Desk
  | .submit s =>
    let (tracker, ticket) := d.tracker.submit s
    { d with tracker, calls := d.calls ++ [⟨[tracker.snapshot], .suspended ticket⟩] }
  | .reset => { d with tracker := d.tracker.reset }
  | .answer call a =>
    match d.calls[call]? with
    | some ⟨seen, .suspended ticket⟩ =>
      let p := d.tracker.resume m d.journal ticket a
      { tracker := p.tracker
        journal := p.journal
        calls := d.calls.set call ⟨seen ++ p.seen, p.course⟩ }
    | _ => d

end Desk

end ChainProvision
