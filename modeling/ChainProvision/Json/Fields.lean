import ChainProvision.Json.Reader
import ChainProvision.Number.Word
import ChainProvision.Wire.Fields

/-!
# Reading values and records from JSON

Readers of scalars, lists and records.  A record is an object, whose members may come in any order and
whose unknown members are skipped, or an array of its fields in their order.

## Main definitions

* `Json.decode`: a value of a type read from a text;
* `Field`, `Fields.ofJson`: the fields of a record as found in a value.
-/

namespace ChainProvision.Json

/-! ## Scalars and lists -/

/-- The name that a key gives. -/
def Key.asName (k : Key) : Except Fault String :=
  match k.name? with
  | some s => .ok s
  | none => .error .malformed

/-- The text of a value. -/
def asString : Json → Except Fault String
  | .string s => .ok s
  | _ => .error .malformed

/-- The truth value of a value. -/
def asBool : Json → Except Fault Bool
  | .bool b => .ok b
  | _ => .error .malformed

/-- A number below `limit`, which is at most 64 bits. -/
def asNatural (limit : Nat) : Json → Except Fault (Fin limit)
  | .number n =>
    match n.scalar? with
    | some (.natural m) => if h : m.val < limit then .ok ⟨m.val, h⟩ else .error .malformed
    | _ => .error .malformed
  | _ => .error .malformed

/-- A signed 64-bit integer. -/
def asSigned : Json → Except Fault Signed64
  | .number n =>
    let within (i : Int) : Except Fault Signed64 :=
      if h : -(signed64Half : Int) ≤ i ∧ i < (signed64Half : Int) then .ok ⟨i, h⟩ else .error .malformed
    match n.scalar? with
    | some (.natural m) => within m.val
    | some (.negative i) => within i
    | _ => .error .malformed
  | _ => .error .malformed

/-- A value that may be `null`. -/
def asOption {α : Type} (read : Json → Except Fault α) : Json → Except Fault (Option α)
  | .null => .ok none
  | v => (read v).map some

/-- The values of a list, read from the left. -/
def readItems {α : Type} (read : Json → Except Fault α) : List Json → Except Fault (List α)
  | [] => .ok []
  | v :: rest =>
    match read v with
    | .ok a => (readItems read rest).map (a :: ·)
    | .error e => .error e

/-- An array of values. -/
def asList {α : Type} (read : Json → Except Fault α) : Json → Except Fault (List α)
  | .array items => readItems read items
  | _ => .error .malformed

/-- One of a few named values: its name, or an object with its name and `null`. -/
def asVariant {α : Type} (read : String → Option α) : Json → Except Fault α
  | .string s =>
    match read s with
    | some a => .ok a
    | none => .error (.unknownVariant s)
  | .object ((.name key, v) :: rest) =>
    match v, read key with
    | _, none => .error (.unknownVariant key)
    | .null, some a => if rest.isEmpty then .ok a else .error .malformed
    | _, some _ => .error .malformed
  | _ => .error .malformed

/-- A value of a type read from a text.  What follows the value counts only when the value is sound. -/
def decode {α : Type} (read : Json → Except Fault α) (text : String) : Except Fault α :=
  let d := parse text
  match read d.value with
  | .ok a => if d.isComplete then .ok a else .error .malformed
  | .error e => .error e

/-! ## Records -/

/-- A field of a record in JSON. -/
abbrev Field := Wire.Field (Except Fault) Json

/-- The fields of a record found in a value. -/
abbrev Fields := Wire.Fields Json

/-- The fields of a record as found in an object, or in an array in their order. -/
def Fields.ofJson (fields : List Field) : Json → Except Fault Fields
  | .object members =>
    (Wire.collectMembers Key.asName isWhole fields [] members).map fun values => ⟨values, false⟩
  | .array items => (Wire.collectItems fields items).map fun values => ⟨values, true⟩
  | _ => .error .malformed

end ChainProvision.Json
