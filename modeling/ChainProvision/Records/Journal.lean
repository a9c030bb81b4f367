import ChainProvision.Records.Shelf

/-!
# The journal of transactions

Every transaction that was broadcast has an entry, in the order of broadcast.  An entry is settled by
its hash, and none is ever removed.
-/

namespace ChainProvision

/-- How far a recorded transaction is. -/
inductive EntryStatus where
  | pending
  | confirmed
  | failed
  deriving DecidableEq, Repr

namespace EntryStatus

/-- The name of a status. -/
def text : EntryStatus → String
  | .pending => "pending"
  | .confirmed => "confirmed"
  | .failed => "failed"

/-- The status with the given name. -/
def ofText? (s : String) : Option EntryStatus :=
  [.pending, .confirmed, .failed].find? fun k => k.text == s

/-- A status in JSON. -/
def toJson (k : EntryStatus) : Json := .string k.text

/-- The status that a value gives. -/
def ofJson : Json → Except Fault EntryStatus := Json.asVariant ofText?

end EntryStatus

/-- A transaction in the journal. -/
structure Entry where
  hash : TxHash
  label : String
  status : EntryStatus
  time : Instant
  deriving DecidableEq

namespace Entry

/-- The entry of a transaction that was just broadcast. -/
def pending (hash : TxHash) (label : String) (now : Instant) : Entry :=
  ⟨hash, label, .pending, now⟩

/-- An entry in JSON. -/
def toJson (e : Entry) : Json :=
  .record [
    ("hash", e.hash.toJson),
    ("label", .string e.label),
    ("status", e.status.toJson),
    ("timestamp", Record.instantToJson e.time)]

/-- The fields of an entry. -/
def fields : List Json.Field := [
  .of "hash" TxHash.ofJson,
  .of "label" Json.asString,
  .of "status" EntryStatus.ofJson,
  .of "timestamp" Record.instantOfJson]

/-- The entry that a value gives. -/
def ofJson (v : Json) : Except Fault Entry := do
  let fs ← Json.Fields.ofJson fields v
  return {
    hash := ← fs.required "hash" TxHash.ofJson
    label := ← fs.required "label" Json.asString
    status := ← fs.required "status" EntryStatus.ofJson
    time := ← fs.required "timestamp" Record.instantOfJson }

end Entry

/-- The entries in the order of broadcast. -/
structure Journal where
  entries : List Entry := []
  deriving DecidableEq

namespace Journal

/-- The journal with one more entry. -/
def append (j : Journal) (e : Entry) : Journal := ⟨j.entries ++ [e]⟩

/-- The entries with the first of the given hash settled, if there is one. -/
def settleFirst (hash : TxHash) (status : EntryStatus) : List Entry → Option (List Entry)
  | [] => none
  | e :: rest =>
    if e.hash = hash then some ({ e with status } :: rest)
    else (settleFirst hash status rest).map (e :: ·)

/-- The journal with the first entry of a hash settled. -/
def settle (j : Journal) (hash : TxHash) (status : EntryStatus) : Except StoreError Journal :=
  match settleFirst hash status j.entries with
  | some entries => .ok ⟨entries⟩
  | none => .error (.notFound hash.text)

end Journal

end ChainProvision
