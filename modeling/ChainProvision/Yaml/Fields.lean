import ChainProvision.Identity.Id
import ChainProvision.Identity.Wei
import ChainProvision.Number.Word
import ChainProvision.Time.SpanReader
import ChainProvision.Wire.Fields
import ChainProvision.Yaml.Reading

/-!
# Reading values and records from YAML

Readers of scalars and records.  A text is whatever a scalar holds, even if it looks like a number.  A record
is a mapping, or nothing at all for a record without fields.  Identifiers and amounts may be written as
numbers or as texts; such a value is held before it is known which it is, so it has to be sound in itself.

## Main definitions

* `Yaml.decode`: a value of a type read from a text;
* `Yaml.Field`, `Yaml.fieldsOf`: the fields of a record as found in a node.
-/

namespace ChainProvision

namespace Yaml

variable {α : Type}

/-! ## Scalars -/

/-- The text of a node. -/
def asText (n : Node) : Reading String := do
  match ← target n with
  | .scalar s => return s.text
  | _ => throw .malformed

/-- A number below `limit`, which is at most 64 bits. -/
def asNatural (limit : Nat) (n : Node) : Reading (Fin limit) := do
  match ← target n with
  | .scalar s =>
    if s.isWrittenAsInteger then
      match naturalOf UInt64.size s.text.toList with
      | some n => if h : n.val < limit then return ⟨n.val, h⟩ else throw .malformed
      | none => throw .malformed
    else throw .malformed
  | _ => throw .malformed

/-- A span of time. -/
def asSpan (n : Node) : Reading Span := do
  match Span.read? (← asText n) with
  | some span => return span
  | none => throw .malformed

/-- Whether a node stands for nothing; a tag may say so, and is then at fault if it does not. -/
def isNothing : Node → Reading Bool
  | .scalar s =>
    match s.tag with
    | none => return s.isAbsent
    | some tag =>
      if s.isPlain ∧ tag = .core "null" then
        if isNull s.text then return true else throw .malformed
      else return false
  | .broken => throw .malformed
  | _ => return false

/-- A value that may be absent. -/
def asOption (read : Node → Reading α) (n : Node) : Reading (Option α) := do
  let n ← target n
  if ← isNothing n then return none
  return some (← read n)

/-! ## Values that are numbers or texts -/

/-- How deep the value of a field of the outermost record may nest. -/
def depthLimit : Nat := 127

/-- A value that is written as a number or as a text. -/
def asNumberOrText (type : String) (ofNumber : Word64 → α) (ofText : String → Except Fault α) (n : Node) :
    Reading α := do
  let n ← target n
  hold depthLimit n
  match n with
  | .scalar s =>
    match s.meaning with
    | .natural m => return ofNumber m
    | .negative m => if m.val = 0 then return ofNumber (.ofNat 0) else throw (.noAlternative type)
    | .text text => ofText text
    | _ => throw (.noAlternative type)
  | _ => throw (.noAlternative type)

/-! ## Records -/

/-- A field of a record in YAML. -/
abbrev Field := Wire.Field Reading Node

/-- The fields of a record found in a node. -/
abbrev Fields := Wire.Fields Node

/-- The fields of a record as found in a node. -/
def fieldsOf (fields : List Field) (n : Node) : Reading Fields := do
  match ← target n with
  | .mapping _ pairs => return ⟨← Wire.collectMembers asText Node.isWhole fields [] pairs, false⟩
  | .scalar s => if s.isPlain && s.text.isEmpty then return ⟨[], false⟩ else throw .malformed
  | _ => throw .malformed

/-- The value of a field that must be there.  It was checked when it was found. -/
def required (fs : Fields) (name : String) (read : Node → Reading α) : Reading α :=
  fs.required name fun n => (read n).again

/-- The value of a field that has a default.  It was checked when it was found. -/
def defaulted (fs : Fields) (name : String) (default : α) (read : Node → Reading α) : Reading α :=
  fs.defaulted name default fun n => (read n).again

/-- A value of a type read from a text.  What follows the first document counts only when the value is
    sound. -/
def decode (read : Node → Reading α) (text : String) : Except Fault α :=
  let d := parse text
  match (read d.root).result d.surroundings with
  | .ok a => if d.isComplete then .ok a else .error .malformed
  | .error e => .error e

end Yaml

/-- The address that a node gives. -/
def Address.ofYaml (n : Yaml.Node) : Yaml.Reading Address := do
  (Address.read (← Yaml.asText n)).mapError Fault.hex

/-- The identifier that a node gives. -/
def Id.ofYaml (kind : IdKind) : Yaml.Node → Yaml.Reading (Id kind) :=
  Yaml.asNumberOrText "Raw" Id.mk fun s => (Id.read kind s).mapError Fault.numeral

/-- The amount that a node gives. -/
def Wei.ofYaml : Yaml.Node → Yaml.Reading Wei :=
  Yaml.asNumberOrText "WeiEntry" Wei.ofWord fun s => (Wei.read s).mapError fun _ => Fault.wei s

end ChainProvision
