import ChainProvision.Chain.Service
import ChainProvision.Follow.Watcher
import ChainProvision.Service.Validation
import ChainProvision.Transaction.Tracker

/-!
# The cast of a rehearsal

A rehearsal runs a machine of this library against scripted collaborators: a wallet, a chain, an operator.
Each answers from a script, in the order of the calls.  An answer may be held back at a gate until the gate
gives a permit; permits pile up while nobody waits, and those who wait are served in the order in which they
came.

Rehearsals are what the machines are tested with, and for nothing else: no proof is about them, and they decide
nothing that a machine decides.

## Main definitions

* `Script`: answers in the order of the calls;
* `Cast`: the collaborators with all they were asked;
* `Cast.sign`, `Cast.broadcast`, `Cast.receipt`, `Cast.listOperators`, `Cast.readService`, `Cast.fetch`,
  `Cast.subscribe`: the calls.
-/

namespace ChainProvision.Rehearsal

/-! ## Scripts and gates -/

/-- An answer, and whether a gate holds it back. -/
structure Scripted (α : Type) where
  answer : α
  gated : Bool := false

/-- Answers in the order of the calls; the last one is given again and again. -/
structure Script (α : Type) where
  next : Scripted α
  later : List (Scripted α) := []

namespace Script

variable {α : Type}

/-- A script of the given answers, or of `otherwise` if there are none. -/
def ofList (otherwise : α) : List (Scripted α) → Script α
  | [] => ⟨⟨otherwise, false⟩, []⟩
  | next :: later => ⟨next, later⟩

/-- The script after a call. -/
def rest (s : Script α) : Script α :=
  match s.later with
  | [] => s
  | next :: later => ⟨next, later⟩

/-- The number of answers written down. -/
def length (s : Script α) : Nat := s.later.length + 1

end Script

/-- The gates that may hold answers back. -/
inductive Gate where
  | wallet
  | broadcast
  | receipt
  | operators
  | service
  deriving DecidableEq, Repr

/-- Answers held back and permits not yet used.  A permit is never unused while an answer is held back at
    its gate. -/
structure Gates (ε : Type) where
  waiting : List (Gate × ε) := []
  permits : List Gate := []

namespace Gates

variable {ε : Type}

/-- Bring an answer to a gate; it passes if there is a permit. -/
def arrive (g : Gates ε) (gate : Gate) (answer : ε) : Gates ε × List ε :=
  if gate ∈ g.permits then ({ g with permits := g.permits.erase gate }, [answer])
  else ({ g with waiting := g.waiting ++ [(gate, answer)] }, [])

/-- Those who wait at other gates, and the one that waited longest at this one. -/
def takeFirst (gate : Gate) : List (Gate × ε) → Option (ε × List (Gate × ε))
  | [] => none
  | (other, answer) :: rest =>
    if other = gate then some (answer, rest)
    else (takeFirst gate rest).map fun (found, others) => (found, (other, answer) :: others)

/-- Give a gate a permit; it lets the answer pass that waited longest. -/
def release (g : Gates ε) (gate : Gate) : Gates ε × List ε :=
  match takeFirst gate g.waiting with
  | some (answer, waiting) => ({ g with waiting }, [answer])
  | none => ({ g with permits := gate :: g.permits }, [])

end Gates

/-! ## The collaborators -/

/-- A service as the contract shows it. -/
structure StagedService where
  record : ServiceRecord
  active : Bool := false
  operators : List Address := []
  permitted : List Address := []

/-- The reads of the contract about a service. -/
inductive ServiceRead where
  | active
  | service
  | operators
  | permitted
  deriving DecidableEq, Repr

/-- The services that the contract knows, and the reads that fail. -/
structure StagedServices where
  services : List StagedService := []
  failing : List ServiceRead := []
  gated : Bool := false

/-- The answers of the contract about a service and a caller.  An unknown service is neither active nor
    permitted to anyone. -/
def StagedServices.reads (s : StagedServices) (service : ServiceId) (caller : Option Address) :
    ServiceReads :=
  let found := s.services.find? fun staged => staged.record.id == service
  let answerTo {α : Type} (read : ServiceRead) (answer : α) : Except ChainError α :=
    if read ∈ s.failing then .error (.read "unavailable") else .ok answer
  { active := answerTo .active ((found.map StagedService.active).getD false)
    record := answerTo .service (found.map StagedService.record)
    operators := answerTo .operators ((found.map StagedService.operators).getD [])
    permitted := answerTo .permitted
      (match found, caller with
        | some staged, some caller => staged.permitted.contains caller
        | _, _ => false) }

/-- The answer to one subscription. -/
inductive StagedStream where
  | refused (e : ChainError)
  /-- Batches that come at once, and whether the stream ends after them. -/
  | granted (batches : List (List Log)) (ends : Bool)

/-- A reply of the operator, and the milliseconds that it takes. -/
structure StagedReply where
  delay : Nat := 0
  reply : FetchReply

/-- The newest subscription that was granted, and whether its stream is still open on this side. -/
structure Stream where
  generation : Nat
  subscription : Nat
  isOpen : Bool
  deriving DecidableEq, Repr

/-- The collaborators, with all they were asked.  `ε` are the events of the machine that asks. -/
structure Cast (ε : Type) where
  wallet : Script (Except WalletError Unit) := .ofList (.ok ()) []
  broadcaster : Script (Except ChainError TxHash)
  receipts : Script (Except ChainError Receipt) := .ofList (.ok ⟨true, [], none⟩) []
  registry : Script (Except ChainError (List Address)) := .ofList (.ok []) []
  services : StagedServices := {}
  streams : List StagedStream := []
  replies : List StagedReply := []
  gates : Gates ε := {}
  /-- What the wallet was asked to sign. -/
  requests : List TxRequest := []
  broadcasts : Nat := 0
  filters : List LogFilter := []
  fetched : List CallId := []
  stream : Option Stream := none

namespace Cast

variable {ε : Type}

/-- Give an answer, or bring it to a gate. -/
def deliver (c : Cast ε) (gated : Bool) (gate : Gate) (answer : ε) : Cast ε × List ε :=
  if gated then
    let (gates, passed) := c.gates.arrive gate answer
    ({ c with gates }, passed)
  else (c, [answer])

/-- Give a gate a permit. -/
def release (c : Cast ε) (gate : Gate) : Cast ε × List ε :=
  let (gates, passed) := c.gates.release gate
  ({ c with gates }, passed)

/-- Ask the wallet to sign. -/
def sign (c : Cast ε) (request : TxRequest) (reply : Except WalletError Unit → ε) :
    Cast ε × List ε :=
  let scripted := c.wallet.next
  { c with wallet := c.wallet.rest, requests := c.requests ++ [request] }.deliver scripted.gated .wallet
    (reply scripted.answer)

/-- Ask the chain to broadcast. -/
def broadcast (c : Cast ε) (reply : Except ChainError TxHash → ε) : Cast ε × List ε :=
  let scripted := c.broadcaster.next
  { c with broadcaster := c.broadcaster.rest, broadcasts := c.broadcasts + 1 }.deliver scripted.gated
    .broadcast (reply scripted.answer)

/-- Ask the chain for a receipt. -/
def receipt (c : Cast ε) (reply : Except ChainError Receipt → ε) : Cast ε × List ε :=
  let scripted := c.receipts.next
  { c with receipts := c.receipts.rest }.deliver scripted.gated .receipt (reply scripted.answer)

/-- Ask for what a suspended submission waits for. -/
def consult (c : Cast ε) (ticket : Ticket) (reply : Answer → ε) : Cast ε × List ε :=
  match ticket.awaiting with
  | .signature => c.sign ticket.submission.request fun outcome => reply (.signature outcome)
  | .broadcast => c.broadcast fun outcome => reply (.broadcast outcome)
  | .receipt _ => c.receipt fun outcome => reply (.receipt outcome)

/-- Ask the chain for the operators of the blueprint. -/
def listOperators (c : Cast ε) (reply : Except ChainError (List Address) → ε) : Cast ε × List ε :=
  let scripted := c.registry.next
  { c with registry := c.registry.rest }.deliver scripted.gated .operators (reply scripted.answer)

/-- Ask the contract about a service. -/
def readService (c : Cast ε) (service : ServiceId) (caller : Option Address)
    (reply : ServiceReads → ε) : Cast ε × List ε :=
  c.deliver c.services.gated .service (reply (c.services.reads service caller))

/-- Ask the operator about a call; the reply comes with the milliseconds that it takes.  An operator whose
    script is at its end does not track the call. -/
def fetch (c : Cast ε) (call : CallId) (reply : FetchReply → ε) : Cast ε × (Nat × ε) :=
  let c := { c with fetched := c.fetched ++ [call] }
  match c.replies with
  | [] => (c, (0, reply (.ok none)))
  | staged :: replies => ({ c with replies }, (staged.delay, reply staged.reply))

/-- What comes of a subscription. -/
inductive StreamItem where
  | outcome (outcome : Except ChainError Unit)
  | batch (logs : List Log)
  | closed

/-- Ask the chain for logs.  Once the script is at its end, streams are open and silent. -/
def subscribe (c : Cast ε) (generation subscription : Nat) (filter : LogFilter)
    (reply : StreamItem → ε) : Cast ε × List ε :=
  let (staged, streams) : StagedStream × List StagedStream :=
    match c.streams with
    | [] => (.granted [] false, [])
    | staged :: streams => (staged, streams)
  let c := { c with streams, filters := c.filters ++ [filter] }
  match staged with
  | .refused e => (c, [reply (.outcome (.error e))])
  | .granted batches ends =>
    let items := (.outcome (.ok ()) : StreamItem) :: batches.map .batch ++ (if ends then [.closed] else [])
    ({ c with stream := some ⟨generation, subscription, !ends⟩ }, items.map reply)

/-- The newest stream, closed on this side. -/
def closeStream (c : Cast ε) : Cast ε :=
  { c with stream := c.stream.map fun s => { s with isOpen := false } }

/-- A bound for the answers that are still written down. -/
def volume (c : Cast ε) : Nat :=
  let batches : StagedStream → Nat
    | .refused _ => 1
    | .granted batches _ => batches.length + 2
  c.wallet.length + c.broadcaster.length + c.receipts.length + c.registry.length + c.replies.length +
    (c.streams.map batches).foldr (· + ·) 0 + c.gates.waiting.length + c.gates.permits.length

end Cast

end ChainProvision.Rehearsal
