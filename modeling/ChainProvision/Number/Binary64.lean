/-!
# Binary floating point, exactly

A non-negative finite number of the 64-bit binary format is a mantissa below `2 ^ 53` times a power of
two.  Results of arithmetic are rounded to the nearest such number, a tie to the even mantissa, and all
of it is done with natural numbers.
-/

namespace ChainProvision

/-- The number `mantissa * 2 ^ exponent`. -/
structure Binary64 where
  mantissa : Nat
  exponent : Int
  deriving DecidableEq, Repr

namespace Binary64

/-- Zero. -/
def zero : Binary64 := ⟨0, 0⟩

/-- The numerator of the number as a fraction of natural numbers. -/
def num (x : Binary64) : Nat :=
  if 0 ≤ x.exponent then x.mantissa * Nat.pow 2 x.exponent.toNat else x.mantissa

/-- The denominator of the number as a fraction of natural numbers. -/
def den (x : Binary64) : Nat :=
  if 0 ≤ x.exponent then 1 else Nat.pow 2 (-x.exponent).toNat

/-- The quotient rounded to a whole number, a tie to the even one. -/
def roundEven (num den : Nat) : Nat :=
  let q := num / den
  let r := num % den
  if 2 * r < den then q
  else if den < 2 * r then q + 1
  else if q % 2 = 0 then q else q + 1

/-- The exponent at which a positive quotient has a mantissa of 53 bits, or the least one. -/
def exponentFor (num den : Nat) : Int :=
  let l : Int := (num.log2 : Int) - den.log2
  -- The quotient lies between `2 ^ (l - 1)` and `2 ^ (l + 1)`; one comparison tells which half.
  let below :=
    if 0 ≤ l then num < den * Nat.pow 2 l.toNat else num * Nat.pow 2 (-l).toNat < den
  max (-1074) ((if below then l - 1 else l) - 52)

/-- The number nearest to a quotient, none when that is infinite. -/
def nearest? (num den : Nat) : Option Binary64 :=
  if num = 0 then some zero
  else
    let e := exponentFor num den
    let m :=
      if 0 ≤ e then roundEven num (den * Nat.pow 2 e.toNat) else roundEven (num * Nat.pow 2 (-e).toNat) den
    if Nat.pow 2 1024 ≤ m * Nat.pow 2 e.toNat then none else some ⟨m, e⟩

/-- A product, rounded. -/
def mul? (x y : Binary64) : Option Binary64 :=
  nearest? (x.num * y.num) (x.den * y.den)

/-- A quotient, rounded. -/
def div? (x y : Binary64) : Option Binary64 :=
  nearest? (x.num * y.den) (x.den * y.num)

/-- The nearest whole number, a half going up. -/
def round (x : Binary64) : Nat :=
  (2 * x.num + x.den) / (2 * x.den)

/-- A decimal `significand * 10 ^ exponent` read the quick way: the significand is rounded first and
    then scaled by a rounded power of ten, in steps of at most 308 digits. -/
def scaled? : Nat → Binary64 → Int → Option Binary64
  | 0, _, _ => some zero
  | steps + 1, x, exponent =>
    if x.mantissa = 0 then some zero
    else if 308 < exponent then none
    else if 0 ≤ exponent then (nearest? (Nat.pow 10 exponent.toNat) 1).bind x.mul?
    else if -308 ≤ exponent then (nearest? (Nat.pow 10 (-exponent).toNat) 1).bind x.div?
    else
      ((nearest? (Nat.pow 10 308) 1).bind x.div?).bind fun y => scaled? steps y (exponent + 308)

/-- The decimal `significand * 10 ^ exponent` with a significand of at most 64 bits.  Such a
    significand vanishes within four steps of scaling down. -/
def ofDecimal? (significand : Nat) (exponent : Int) : Option Binary64 :=
  (nearest? significand 1).bind fun x => scaled? 4 x exponent

end Binary64

end ChainProvision
