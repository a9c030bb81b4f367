import ChainProvision.Identity.Id
import ChainProvision.Json.Fields

/-!
# Identity on the wire

Addresses, hashes and names are texts in JSON.  Identifiers are written as numbers and read from numbers
or from texts, since operators do not agree on quoting 64-bit numbers.
-/

namespace ChainProvision

/-- An address in JSON. -/
def Address.toJson (a : Address) : Json := .string a.text

/-- The address that a value gives. -/
def Address.ofJson (v : Json) : Except Fault Address :=
  match Json.asString v with
  | .ok s => (Address.read s).mapError Fault.hex
  | .error e => .error e

/-- A transaction hash in JSON. -/
def TxHash.toJson (h : TxHash) : Json := .string h.text

/-- The transaction hash that a value gives. -/
def TxHash.ofJson (v : Json) : Except Fault TxHash :=
  match Json.asString v with
  | .ok s => (TxHash.read s).mapError Fault.hex
  | .error e => .error e

/-- A resource name in JSON. -/
def Name.toJson (n : Name) : Json := .string n.text

/-- The resource name that a value gives. -/
def Name.ofJson (v : Json) : Except Fault Name :=
  match Json.asString v with
  | .ok s => (Name.read s).mapError Fault.name
  | .error e => .error e

/-- An identifier in JSON. -/
def Id.toJson {kind : IdKind} (id : Id kind) : Json := .nat id.val.val

/-- The identifier that a value gives.  The value is held before it is tried as a number and as a text,
    so it has to be sound in itself; `depth` bounds how deep it may nest. -/
def Id.ofJson (kind : IdKind) (depth : Nat) (v : Json) : Except Fault (Id kind) :=
  if v.isHoldable depth then
    match v with
    | .string s => (Id.read kind s).mapError Fault.numeral
    | .number n =>
      match n.scalar? with
      | some (.natural m) => .ok ⟨m⟩
      | _ => .error (.noAlternative "Raw")
    | _ => .error (.noAlternative "Raw")
  else .error .malformed

/-- How deep a value may nest in a text, the outermost level counted. -/
def Json.depthLimit : Nat := 128

/-- The identifier that a field of a record gives. -/
def Id.ofField (kind : IdKind) (v : Json) : Except Fault (Id kind) :=
  Id.ofJson kind (Json.depthLimit - 1) v

end ChainProvision
