import ChainProvision.Number.Binary64
import ChainProvision.Number.Word
import ChainProvision.Text.Numeral

/-!
# JSON values

A value as a text gives it.  Values and keys that are not quite JSON are kept too: `garbled` is a quoted
text with an unpaired surrogate, which can be skipped but not read; `broken` marks the place where the text
stops being JSON.  Keeping the part before such a place lets a reader of fields report what it meets first.

## Main definitions

* `Json`: the values, with `Number` for numbers as written and `Json.Key` for the keys of objects;
* `Json.record`: an object by the names and values of its members;
* `Json.text`: the compact written form;
* `Number.scalar?`: a number as an unsigned or signed 64-bit integer or a binary fraction.
-/

namespace ChainProvision

/-- A number as written: sign, whole part, digits of the fraction, and power of ten. -/
structure Number where
  negative : Bool := false
  whole : Nat
  fraction : List Nat := []
  power : Option Int := none
  deriving DecidableEq, Repr

/-- The key of a member of an object. -/
inductive Json.Key where
  | name (s : String)
  | garbled
  | broken
  deriving DecidableEq, Repr

/-- A JSON value. -/
inductive Json where
  | null
  | bool (b : Bool)
  | number (n : Number)
  | string (s : String)
  | array (items : List Json)
  | object (members : List (Json.Key × Json))
  | garbled
  | broken

instance : Inhabited Json := ⟨.null⟩

/-! ## Numbers -/

namespace Number

/-- A natural number as written. -/
def ofNat (n : Nat) : Number := { whole := n }

/-- An integer as written. -/
def ofInt (i : Int) : Number := { negative := i < 0, whole := i.natAbs }

/-- Whether a number is written without fraction and power. -/
def isInteger (n : Number) : Bool :=
  n.fraction.isEmpty && n.power.isNone

/-- What a number means to a reader with 64-bit words. -/
inductive Scalar where
  | natural (n : Word64)
  | negative (i : Int)
  | real (negative : Bool) (x : Binary64)

/-- The significand after one more digit, if it stays within 64 bits. -/
def pushDigit (significand digit : Nat) : Option Nat :=
  if significand * 10 + digit < UInt64.size then some (significand * 10 + digit) else none

/-- The significand of the whole part's digits, and how many digits were dropped.  Once a digit does
    not fit, all later ones are dropped. -/
def wholeDigits : Nat → List Nat → Nat × Nat
  | significand, [] => (significand, 0)
  | significand, d :: ds =>
    match pushDigit significand d with
    | some next => wholeDigits next ds
    | none => (significand, ds.length + 1)

/-- The significand extended by the fraction's digits, and how many of them were taken. -/
def fractionDigits : Nat → List Nat → Nat × Nat
  | significand, [] => (significand, 0)
  | significand, d :: ds =>
    match pushDigit significand d with
    | some next => let (s, taken) := fractionDigits next ds; (s, taken + 1)
    | none => (significand, 0)

/-- The magnitude of a number in binary, none when it is out of range. -/
def magnitude? (n : Number) : Option Binary64 :=
  let digits := (Nat.toDigits 10 n.whole).map fun c => c.toNat - '0'.toNat
  let (significand, dropped) := wholeDigits 0 digits
  let (significand, taken) := fractionDigits significand n.fraction
  Binary64.ofDecimal? significand ((dropped : Int) - taken + n.power.getD 0)

/-- What a number means, none when it is out of range.  Integers beyond 64 bits and the negative zero
    are fractions. -/
def scalar? (n : Number) : Option Scalar :=
  let real := n.magnitude?.map (Scalar.real n.negative)
  if n.isInteger then
    if n.negative then
      if n.whole ≠ 0 ∧ n.whole ≤ signed64Half then some (.negative (-(n.whole : Int))) else real
    else if h : n.whole < UInt64.size then some (.natural ⟨n.whole, h⟩)
    else real
  else real

/-- The written form of a number. -/
def chars (n : Number) : List Char :=
  (if n.negative then ['-'] else []) ++ Nat.toDigits 10 n.whole ++
    (if n.fraction.isEmpty then [] else '.' :: n.fraction.map Nat.digitChar) ++
    (match n.power with
      | none => []
      | some p => 'e' :: (if p < 0 then ['-'] else []) ++ Nat.toDigits 10 p.natAbs)

end Number

/-! ## Written form -/

namespace Json

/-- A natural number as a value. -/
def nat (n : Nat) : Json := .number (.ofNat n)

/-- An integer as a value. -/
def int (i : Int) : Json := .number (.ofInt i)

/-- A value that may be absent. -/
def orNull {α : Type} (f : α → Json) : Option α → Json
  | some a => f a
  | none => .null

/-- An object with the given members. -/
def record (members : List (String × Json)) : Json :=
  .object (members.map fun (name, v) => (.name name, v))

/-- The name that a key gives. -/
def Key.name? : Key → Option String
  | .name s => some s
  | _ => none

/-- The members of an object that have a name, none for other values. -/
def namedMembers : Json → List (String × Json)
  | .object members => members.filterMap fun (key, v) => key.name?.map (·, v)
  | _ => []

/-- The four digits of a control character's escape. -/
def controlEscape (c : Char) : List Char :=
  ['\\', 'u', '0', '0', Nat.digitChar (c.toNat / 16), Nat.digitChar (c.toNat % 16)]

/-- A character inside quotes: quotes, backslashes and control characters are escaped. -/
def escapeChar (c : Char) : List Char :=
  if c = '"' then ['\\', '"']
  else if c = '\\' then ['\\', '\\']
  else if c = '\n' then ['\\', 'n']
  else if c = '\r' then ['\\', 'r']
  else if c = '\t' then ['\\', 't']
  else if c = '\x08' then ['\\', 'b']
  else if c = '\x0c' then ['\\', 'f']
  else if c.toNat < 32 then controlEscape c
  else [c]

/-- A text in quotes. -/
def quoted (s : String) : List Char :=
  '"' :: s.toList.flatMap escapeChar ++ ['"']

/-- The written form of a key. -/
def Key.chars : Key → List Char
  | .name s => quoted s
  | _ => []

mutual

/-- The compact written form of a value. -/
def chars : Json → List Char
  | .null => ['n', 'u', 'l', 'l']
  | .bool true => ['t', 'r', 'u', 'e']
  | .bool false => ['f', 'a', 'l', 's', 'e']
  | .number n => n.chars
  | .string s => quoted s
  | .array items => '[' :: itemsChars items ++ [']']
  | .object members => '\x7b' :: membersChars members ++ ['\x7d']
  | .garbled => []
  | .broken => []

/-- The items of an array with commas between them. -/
def itemsChars : List Json → List Char
  | [] => []
  | [v] => chars v
  | v :: w :: rest => chars v ++ ',' :: itemsChars (w :: rest)

/-- The members of an object with commas between them. -/
def membersChars : List (Key × Json) → List Char
  | [] => []
  | [(k, v)] => k.chars ++ ':' :: chars v
  | (k, v) :: w :: rest => k.chars ++ ':' :: chars v ++ ',' :: membersChars (w :: rest)

end

/-- The compact text of a value. -/
def text (v : Json) : String := String.ofList v.chars

mutual

/-- Whether the text of a value was JSON throughout. -/
def isWhole : Json → Bool
  | .broken => false
  | .array items => itemsWhole items
  | .object members => membersWhole members
  | _ => true

/-- Whether the text of every item was JSON throughout. -/
def itemsWhole : List Json → Bool
  | [] => true
  | v :: rest => isWhole v && itemsWhole rest

/-- Whether the text of every member was JSON throughout. -/
def membersWhole : List (Key × Json) → Bool
  | [] => true
  | (k, v) :: rest => k != .broken && isWhole v && membersWhole rest

end

mutual

/-- Whether a value can be held before it is known what it is to be: all its texts and numbers can be
    read, and it nests less than `depth` deep. -/
def isHoldable (depth : Nat) : Json → Bool
  | .broken => false
  | .garbled => false
  | .number n => n.scalar?.isSome
  | .array items => 1 < depth && itemsHoldable (depth - 1) items
  | .object members => 1 < depth && membersHoldable (depth - 1) members
  | _ => true

/-- Whether every item can be held. -/
def itemsHoldable (depth : Nat) : List Json → Bool
  | [] => true
  | v :: rest => isHoldable depth v && itemsHoldable depth rest

/-- Whether every member can be held. -/
def membersHoldable (depth : Nat) : List (Key × Json) → Bool
  | [] => true
  | (k, v) :: rest => k.name?.isSome && isHoldable depth v && membersHoldable depth rest

end

end Json

end ChainProvision
