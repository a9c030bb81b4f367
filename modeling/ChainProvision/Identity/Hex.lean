import ChainProvision.Text.Blank
import ChainProvision.Text.Numeral

/-!
# Addresses and transaction hashes

Both are hexadecimal digits written after `0x`.  They are kept as digit values, so the case of the
written letters does not matter and nothing else is identified: an address has exactly forty digits,
and a transaction hash keeps its leading zeros.
-/

namespace ChainProvision

/-- Why a text is no address or no transaction hash. -/
inductive HexError where
  | missingPrefix
  | wrongLength (actual : Nat)
  | empty
  | tooLong (actual : Nat)
  | invalidChar (c : Char)
  deriving DecidableEq, Repr

/-- The wording of a fault in a hexadecimal value. -/
def HexError.message : HexError → String
  | .missingPrefix => "value must start with 0x"
  | .wrongLength actual => "expected 40 hex digits, got " ++ Text.numeral actual
  | .empty => "value has no hex digits after 0x"
  | .tooLong actual => "too many hex digits for a transaction hash: " ++ Text.numeral actual
  | .invalidChar c => "invalid hex character: '" ++ c.toString ++ "'"

/-- The name of a fault, which stays the same whatever its wording. -/
def HexError.name : HexError → String
  | .missingPrefix => "MissingPrefix"
  | .wrongLength _ => "WrongLength"
  | .empty => "Empty"
  | .tooLong _ => "TooLong"
  | .invalidChar _ => "InvalidChar"

namespace Hex

/-- The value of a hexadecimal digit in either case. -/
def digit? (c : Char) : Option (Fin 16) :=
  if h : 48 ≤ c.toNat ∧ c.toNat ≤ 57 then some ⟨c.toNat - 48, by omega⟩
  else if h : 97 ≤ c.toNat ∧ c.toNat ≤ 102 then some ⟨c.toNat - 87, by omega⟩
  else if h : 65 ≤ c.toNat ∧ c.toNat ≤ 70 then some ⟨c.toNat - 55, by omega⟩
  else none

/-- The lowercase digit of a value. -/
def digitChar (d : Fin 16) : Char :=
  Nat.digitChar d.val

/-- The values of hexadecimal digits; the first character that is none is refused. -/
def readDigits : List Char → Except HexError (List (Fin 16))
  | [] => .ok []
  | c :: cs =>
    match digit? c with
    | some d => (readDigits cs).map (d :: ·)
    | none => .error (.invalidChar c)

/-- The values of the digits after `0x` or `0X` in a trimmed text. -/
def read (s : String) : Except HexError (List (Fin 16)) :=
  match Text.strip s.toList with
  | '0' :: 'x' :: cs => readDigits cs
  | '0' :: 'X' :: cs => readDigits cs
  | _ => .error .missingPrefix

/-- The written form of digits. -/
def text (digits : List (Fin 16)) : String :=
  String.ofList ('0' :: 'x' :: digits.map digitChar)

end Hex

/-- The address of an account or a contract: forty hexadecimal digits. -/
structure Address where
  digits : List (Fin 16)
  length_eq : digits.length = 40
  deriving DecidableEq

namespace Address

/-- The address that a text denotes. -/
def read (s : String) : Except HexError Address :=
  match Hex.read s with
  | .ok digits =>
    if h : digits.length = 40 then .ok ⟨digits, h⟩ else .error (.wrongLength digits.length)
  | .error e => .error e

/-- The written form of an address. -/
def text (a : Address) : String := Hex.text a.digits

/-- The address whose digits are all zero, which stands for the native asset. -/
def zero : Address := ⟨List.replicate 40 0, by simp⟩

/-- Whether all digits of an address are zero. -/
def isZero (a : Address) : Bool := a.digits.all (· == 0)

instance : Inhabited Address := ⟨zero⟩

end Address

/-- The hash of a transaction: one to sixty-four hexadecimal digits. -/
structure TxHash where
  digits : List (Fin 16)
  length_pos : 0 < digits.length
  length_le : digits.length ≤ 64
  deriving DecidableEq

namespace TxHash

/-- The hash that a text denotes. -/
def read (s : String) : Except HexError TxHash :=
  match Hex.read s with
  | .ok digits =>
    if pos : 0 < digits.length then
      if le : digits.length ≤ 64 then .ok ⟨digits, pos, le⟩
      else .error (.tooLong digits.length)
    else .error .empty
  | .error e => .error e

/-- The written form of a hash. -/
def text (h : TxHash) : String := Hex.text h.digits

end TxHash

end ChainProvision
