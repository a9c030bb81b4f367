import ChainProvision.Identity.Hex
import ChainProvision.Identity.Name

/-!
# Fields of records

A record is written as members under names, in any order.  Members are checked as they come, so the first
fault from the left is the one reported; unknown members are skipped, and a field that is missing is noticed
at the end.  Some notations also let a record be written as a list of its fields in their order.

A fault has a cause to report when it lies in a value of the domain or in the shape of a record; everything
else, from bad syntax to a number where a text is due, is `malformed`.

The functions here work for any notation: `ν` are its values, `κ` the names as it gives them, and `m` is
how it is read.

## Main definitions

* `Fault`: why a wire text does not give a value;
* `Field`: the names of a field and the check of its values;
* `collectMembers`, `collectItems`: the fields found in a value;
* `Fields.required`, `Fields.defaulted`: one field's value.
-/

namespace ChainProvision

/-- Why a wire text does not give a value. -/
inductive Fault where
  | malformed
  | hex (e : HexError)
  | name (e : NameError)
  | numeral (e : Text.NumeralError)
  | wei (written : String)
  | missingField (field : String)
  | duplicateField (field : String)
  | unknownVariant (variant : String)
  | noAlternative (type : String)
  deriving DecidableEq

/-- The wording of a fault's cause. -/
def Fault.detail : Fault → Option String
  | .malformed => none
  | .hex e => some e.message
  | .name e => some e.message
  | .numeral e => some e.message
  | .wei written => some ("invalid wei amount: " ++ written)
  | .missingField field => some ("missing field `" ++ field ++ "`")
  | .duplicateField field => some ("duplicate field `" ++ field ++ "`")
  | .unknownVariant variant => some ("unknown variant `" ++ variant ++ "`")
  | .noAlternative type => some ("data did not match any variant of untagged enum " ++ type)

end ChainProvision

namespace ChainProvision.Wire

variable {m : Type → Type} {κ ν α : Type}

/-- A field of a record: its names, the first of which is used in reports, and its check. -/
structure Field (m : Type → Type) (ν : Type) where
  name : String
  others : List String := []
  check : ν → m Unit

/-- A field whose values are read by `read`. -/
def Field.of [Functor m] (name : String) (read : ν → m α) (others : List String := []) : Field m ν :=
  ⟨name, others, fun v => (fun _ => ()) <$> read v⟩

/-- Whether a member's name is one of the field's. -/
def Field.answersTo (f : Field m ν) (key : String) : Bool :=
  key == f.name || f.others.contains key

/-- The fields found in a value, by their names, and whether they were given by position. -/
structure Fields (ν : Type) where
  values : List (String × ν)
  byPosition : Bool

variable [Monad m] [MonadExceptOf Fault m]

/-- The members of a record checked from the left, with the fields found so far.  A member that is skipped
    has to be `sound`, which means that the text goes on after it. -/
def collectMembers (nameOf : κ → m String) (sound : ν → Bool) (fields : List (Field m ν)) :
    List (String × ν) → List (κ × ν) → m (List (String × ν))
  | found, [] => pure found
  | found, (key, v) :: rest => do
    let key ← nameOf key
    match fields.find? fun f => f.answersTo key with
    | some f =>
      if found.any fun p => p.1 == f.name then throw (.duplicateField f.name)
      else
        f.check v
        collectMembers nameOf sound fields ((f.name, v) :: found) rest
    | none => if sound v then collectMembers nameOf sound fields found rest else throw .malformed

/-- The items of a list checked from the left as the fields in their order. -/
def collectItems : List (Field m ν) → List ν → m (List (String × ν))
  | _, [] => pure []
  | [], _ :: _ => throw .malformed
  | f :: fields, v :: rest => do
    f.check v
    return (f.name, v) :: (← collectItems fields rest)

/-- The value found for a field. -/
def Fields.get? (fs : Fields ν) (name : String) : Option ν :=
  fs.values.lookup name

/-- The value of a field that must be there. -/
def Fields.required (fs : Fields ν) (name : String) (read : ν → m α) : m α :=
  match fs.get? name with
  | some v => read v
  | none => throw (if fs.byPosition then .malformed else .missingField name)

/-- The value of a field that may be given as nothing, which `read` tells, or be absent altogether unless
    fields are given by position. -/
def Fields.optional (fs : Fields ν) (name : String) (read : ν → m (Option α)) : m (Option α) :=
  match fs.get? name with
  | some v => read v
  | none => if fs.byPosition then throw .malformed else pure none

/-- The value of a field that has a default. -/
def Fields.defaulted (fs : Fields ν) (name : String) (default : α) (read : ν → m α) : m α :=
  match fs.get? name with
  | some v => read v
  | none => pure default

end ChainProvision.Wire
