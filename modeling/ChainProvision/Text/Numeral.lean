/-!
# Decimal numerals

Whole numbers written in decimal: one optional plus sign and then ASCII digits.  Reading goes digit
by digit against a limit, so the first fault from the left decides what is reported.
-/

namespace ChainProvision.Text

/-- Why a text is no numeral below the limit. -/
inductive NumeralError where
  | empty
  | invalidDigit
  | tooLarge
  deriving DecidableEq, Repr

/-- The wording of a numeral's fault. -/
def NumeralError.message : NumeralError → String
  | .empty => "cannot parse integer from empty string"
  | .invalidDigit => "invalid digit found in string"
  | .tooLarge => "number too large to fit in target type"

/-- The value of an ASCII decimal digit. -/
def digit? (c : Char) : Option Nat :=
  if '0' ≤ c ∧ c ≤ '9' then some (c.toNat - '0'.toNat) else none

/-- Read digits after a number already read, staying below `limit`. -/
def readDigits {limit : Nat} : Fin limit → List Char → Except NumeralError (Fin limit)
  | n, [] => .ok n
  | n, c :: cs =>
    match digit? c with
    | none => .error .invalidDigit
    | some d =>
      if h : n.val * 10 + d < limit then readDigits ⟨n.val * 10 + d, h⟩ cs else .error .tooLarge

/-- The number below `limit` that a numeral denotes. -/
def readNumeral (limit : Nat) (pos : 0 < limit) (cs : List Char) :
    Except NumeralError (Fin limit) :=
  match cs with
  | [] => .error .empty
  | ['+'] => .error .invalidDigit
  | '+' :: digits => readDigits ⟨0, pos⟩ digits
  | digits => readDigits ⟨0, pos⟩ digits

/-- A numeral in decimal, without sign or leading zeros. -/
def numeral (n : Nat) : String :=
  String.ofList (Nat.toDigits 10 n)

/-- A numeral filled up with zeros on the left to `width` digits. -/
def paddedNumeral (width n : Nat) : String :=
  let digits := Nat.toDigits 10 n
  String.ofList (List.replicate (width - digits.length) '0' ++ digits)

end ChainProvision.Text
