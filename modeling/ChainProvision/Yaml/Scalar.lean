import ChainProvision.Identity.Hex
import ChainProvision.Number.Word
import ChainProvision.Text.Numeral
import ChainProvision.Yaml.Tag

/-!
# YAML scalars

A scalar is a text with the style in which it was written.  Where the type that is asked for does not decide,
a plain scalar means what its text looks like: nothing, a truth value, an integer, a fraction, or a text.

## Main definitions

* `Scalar`: a scalar as written;
* `Scalar.meaning`: what it means on its own;
* `naturalOf`: the natural number that a text is, in any of the four bases.
-/

namespace ChainProvision.Yaml

/-! ## Integers -/

/-- The value of a digit in a base up to sixteen. -/
def digitIn? (base : Nat) (c : Char) : Option Nat :=
  match Hex.digit? c with
  | some d => if d.val < base then some d.val else none
  | none => none

/-- The number that one or more digits denote after a number already read. -/
def digitsIn? (base : Nat) : Nat → List Char → Option Nat
  | n, [] => some n
  | n, c :: cs =>
    match digitIn? base c with
    | some d => digitsIn? base (n * base + d) cs
    | none => none

/-- The number below `limit` that digits denote. -/
def boundedIn? (base limit : Nat) (cs : List Char) : Option (Fin limit) :=
  if cs.isEmpty then none
  else
    match digitsIn? base 0 cs with
    | some n => if h : n < limit then some ⟨n, h⟩ else none
    | none => none

/-- Whether a text has a superfluous zero in front of nothing but digits, sign aside; it is no number. -/
def hasIdleZero (cs : List Char) : Bool :=
  let digits :=
    match cs with
    | '+' :: rest => rest
    | '-' :: rest => rest
    | cs => cs
  match digits with
  | '0' :: c :: rest => (c :: rest).all fun d => (Text.digit? d).isSome
  | _ => false

/-- The natural number below `limit` that a text is: in decimal, or in another base after `0x`, `0o` or
    `0b`, with an optional plus sign. -/
def naturalOf (limit : Nat) (cs : List Char) : Option (Fin limit) :=
  let unsigned :=
    match cs with
    | '+' :: rest => rest
    | cs => cs
  match unsigned with
  | '0' :: 'x' :: digits => boundedIn? 16 limit digits
  | '0' :: 'o' :: digits => boundedIn? 8 limit digits
  | '0' :: 'b' :: digits => boundedIn? 2 limit digits
  | digits => if hasIdleZero cs then none else boundedIn? 10 limit digits

/-- The magnitude, at most `limit`, of the integer that a text with a minus sign is. -/
def magnitudeOf (limit : Nat) : List Char → Option (Fin (limit + 1))
  | '-' :: '0' :: 'x' :: digits => boundedIn? 16 (limit + 1) digits
  | '-' :: '0' :: 'o' :: digits => boundedIn? 8 (limit + 1) digits
  | '-' :: '0' :: 'b' :: digits => boundedIn? 2 (limit + 1) digits
  | '-' :: digits => if hasIdleZero ('-' :: digits) then none else boundedIn? 10 (limit + 1) digits
  | _ => none

/-! ## Fractions -/

/-- The longest run of decimal digits at the start of a text, and the rest. -/
def decimals (cs : List Char) : List Nat × List Char :=
  (cs.takeWhile (fun c => (Text.digit? c).isSome) |>.filterMap Text.digit?,
    cs.dropWhile fun c => (Text.digit? c).isSome)

/-- The number that decimal digits denote. -/
def ofDecimals (ds : List Nat) : Nat := ds.foldl (fun n d => n * 10 + d) 0

/-- The power of ten at the end of a number, zero if there is none. -/
def powerOf : List Char → Option Int
  | [] => some 0
  | e :: rest =>
    if e = 'e' ∨ e = 'E' then
      let (negative, digits) : Bool × List Char :=
        match rest with
        | '-' :: digits => (true, digits)
        | '+' :: digits => (false, digits)
        | digits => (false, digits)
      let (ds, after) := decimals digits
      if ds.isEmpty ∨ !after.isEmpty then none
      else some (if negative then -(ofDecimals ds : Int) else ofDecimals ds)
    else none

/-- The significand and the power of ten of a decimal number without sign. -/
def decimalOf (cs : List Char) : Option (Nat × Int) :=
  let (whole, rest) := decimals cs
  let (fraction, rest) : List Nat × List Char :=
    match rest with
    | '.' :: rest => decimals rest
    | rest => ([], rest)
  if whole.isEmpty && fraction.isEmpty then none
  else (powerOf rest).map fun p => (ofDecimals (whole ++ fraction), p - fraction.length)

/-- The least number that is too large for a binary fraction of 64 bits. -/
def binaryOverflow : Nat := Nat.pow 2 1024 - Nat.pow 2 970

/-- The number of decimal digits of a number. -/
def decimalLength (n : Nat) : Nat := (Nat.toDigits 10 n).length

/-- Whether `m * 10 ^ p` fits a binary fraction of 64 bits. -/
def isRepresentable (m : Nat) (p : Int) : Bool :=
  if m = 0 then true
  else if p ≤ 0 then
    if (decimalLength m : Int) + p ≤ 308 then true else m < binaryOverflow * Nat.pow 10 p.natAbs
  else if 310 < (decimalLength m : Int) + p then false
  else m * Nat.pow 10 p.natAbs < binaryOverflow

/-- Whether a text is a fraction, an infinity or no number at all in the notation of YAML. -/
def isReal (cs : List Char) : Bool :=
  let s := String.ofList cs
  if s ∈ [".nan", ".NaN", ".NAN", "-.inf", "-.Inf", "-.INF"] then true
  else
    let unsigned : Option (List Char) :=
      match cs with
      | '+' :: '+' :: _ => none
      | '+' :: '-' :: _ => none
      | '+' :: rest => some rest
      | cs => some cs
    match unsigned with
    | none => false
    | some text =>
      if String.ofList text ∈ [".inf", ".Inf", ".INF"] then true
      else
        let digits :=
          match text with
          | '-' :: rest => rest
          | text => text
        match decimalOf digits with
        | some (m, p) => isRepresentable m p
        | none => false

/-! ## Scalars -/

/-- How a scalar is written. -/
inductive Style where
  | plain
  | quoted
  /-- As a block of lines that are kept. -/
  | literal
  /-- As a block of lines that are joined. -/
  | folded
  deriving DecidableEq, Repr

/-- A scalar as written. -/
structure Scalar where
  text : String
  style : Style
  /-- The tag, where one is given. -/
  tag : Option Tag := none
  deriving DecidableEq, Repr

/-- What a scalar means on its own. -/
inductive Meaning where
  | nothing
  | truth (b : Bool)
  | natural (n : Word64)
  | negative (magnitude : Fin (signed64Half + 1))
  /-- An integer beyond 64 bits but within 128. -/
  | wide
  | real
  | text (s : String)
  /-- A variant of something, by a tag of its own. -/
  | variant
  /-- No value of the type that its tag names. -/
  | unfit
  deriving DecidableEq

/-- The texts that stand for nothing. -/
def isNull (s : String) : Bool := s == "null" || s == "Null" || s == "NULL" || s == "~"

/-- The truth value that a text is. -/
def truthOf (s : String) : Option Bool :=
  if s ∈ ["true", "True", "TRUE"] then some true
  else if s ∈ ["false", "False", "FALSE"] then some false
  else none

/-- The integer that a text is. -/
def integerOf (cs : List Char) : Option Meaning :=
  match naturalOf UInt64.size cs, magnitudeOf signed64Half cs with
  | some n, _ => some (.natural n)
  | none, some m => some (.negative m)
  | none, none =>
    if (naturalOf word128Size cs).isSome || (magnitudeOf signed128Half cs).isSome then some .wide else none

/-- What a plain scalar looks like. -/
def plainMeaning (s : String) : Meaning :=
  if s.isEmpty || isNull s then .nothing
  else
    match truthOf s, integerOf s.toList with
    | some b, _ => .truth b
    | none, some integer => integer
    | none, none => if !hasIdleZero s.toList && isReal s.toList then .real else .text s

namespace Scalar

/-- Whether a scalar is written plainly. -/
def isPlain (s : Scalar) : Bool := s.style == .plain

/-- Whether a scalar is written as an integer is: plainly, or as a block that is tagged as one. -/
def isWrittenAsInteger (s : Scalar) : Bool :=
  s.isPlain || (s.style == .literal && s.tag == some (.core "int"))

/-- What a scalar means on its own. -/
def meaning (s : Scalar) : Meaning :=
  match s.tag with
  | none => if s.isPlain then plainMeaning s.text else .text s.text
  | some tag =>
    if tag.isVariant then .variant
    else if tag = .core "bool" then
      match truthOf s.text with
      | some b => .truth b
      | none => .unfit
    else if tag = .core "int" then (integerOf s.text.toList).getD .unfit
    else if tag = .core "float" then if isReal s.text.toList then .real else .unfit
    else if tag = .core "null" then if isNull s.text then .nothing else .unfit
    else if tag.isLocal && s.isPlain then plainMeaning s.text
    else .text s.text

/-- Whether a scalar stands for nothing where something optional is asked for. -/
def isAbsent (s : Scalar) : Bool := s.isPlain && (s.text.isEmpty || isNull s.text)

end Scalar

end ChainProvision.Yaml
