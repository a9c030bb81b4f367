import ChainProvision.Number.Word
import ChainProvision.Text.Blank
import ChainProvision.Text.Numeral

/-!
# Amounts of wei

The value attached to a transaction, in the smallest unit of the native asset.  It is written in
decimal, and underscores may group its digits.
-/

namespace ChainProvision

/-- An amount of wei, kept in 128 bits. -/
structure Wei where
  val : Word128
  deriving DecidableEq

namespace Wei

/-- Nothing attached. -/
def zero : Wei := ⟨.ofNat 0⟩

instance : Inhabited Wei := ⟨zero⟩

/-- The amount that a text denotes, blanks around it and underscores in it aside. -/
def read (s : String) : Except Text.NumeralError Wei :=
  (Text.readNumeral word128Size Word128.size_pos ((Text.strip s.toList).filter (· != '_'))).map Wei.mk

/-- The decimal form of an amount. -/
def text (w : Wei) : String := Text.numeral w.val.val

/-- The amount that a 64-bit number denotes. -/
def ofWord (n : Word64) : Wei :=
  ⟨⟨n.val, Nat.lt_trans n.isLt (by decide)⟩⟩

end Wei

end ChainProvision
