import ChainProvision.Number.Word
import ChainProvision.Text.Blank
import ChainProvision.Time.Span

/-!
# Reading spans of time

A span is written as numbers with units, such as `1h 30m` or `1.5s`; the parts add up.  Blanks may
stand anywhere outside a unit, even inside a number, and a new number may follow a unit directly.  A
lone `0` needs no unit.

The reader walks the text once with one `Phase` per kind of position, and gives up on the first
character that fits nowhere or on the first number beyond 64 bits.
-/

namespace ChainProvision.Span

/-- The units of written spans, with the nanoseconds of the short ones and the seconds of the rest. -/
inductive TimeUnit where
  | short (nanos : Nat)
  | long (seconds : Nat)
  deriving DecidableEq, Repr

/-- The unit with the given name. -/
def unit? (name : String) : Option TimeUnit :=
  if name ∈ ["nanos", "nsec", "ns"] then some (.short 1)
  else if name ∈ ["usec", "us", "µs"] then some (.short 1000)
  else if name ∈ ["millis", "msec", "ms"] then some (.short 1000000)
  else if name ∈ ["seconds", "second", "secs", "sec", "s"] then some (.long 1)
  else if name ∈ ["minutes", "minute", "mins", "min", "m"] then some (.long 60)
  else if name ∈ ["hours", "hour", "hrs", "hr", "h"] then some (.long 3600)
  else if name ∈ ["days", "day", "d"] then some (.long 86400)
  else if name ∈ ["weeks", "week", "wks", "wk", "w"] then some (.long 604800)
  else if name ∈ ["months", "month", "M"] then some (.long 2630016)
  else if name ∈ ["years", "year", "yrs", "yr", "y"] then some (.long 31557600)
  else none

/-- The decimal fraction `numerator / denominator` of a number. -/
structure Fraction where
  numerator : Nat := 0
  denominator : Nat := 1
  deriving DecidableEq, Repr

/-- Numbers are kept within 64 bits. -/
def within64 (n : Nat) : Option Nat :=
  if n < UInt64.size then some n else none

/-- A span grown by whole seconds and nanoseconds, if its seconds stay within 64 bits. -/
def grow (total : Span) (seconds nanos : Nat) : Option Span := do
  let _ ← within64 (total.subsecond + nanos)
  let sum : Span := ⟨total.nanos + seconds * 1000000000 + nanos⟩
  let _ ← within64 sum.seconds
  return sum

/-- A span grown by `n` units. -/
def growWhole (total : Span) (n : Nat) : TimeUnit → Option Span
  | .short nanos => do grow total 0 (← within64 (n * nanos))
  | .long seconds => do grow total (← within64 (n * seconds)) 0

/-- The part of `n` that a fraction makes, if it is a whole number. -/
def Fraction.of (f : Fraction) (n : Nat) : Option Nat := do
  let product ← within64 (f.numerator * n)
  if product % f.denominator = 0 then some (product / f.denominator) else none

/-- A span grown by a fraction of a unit.  A fraction of an hour or more has to make whole seconds, a
    smaller one whole nanoseconds, and there is nothing smaller than a nanosecond. -/
def growFraction (total : Span) (f : Fraction) : TimeUnit → Option Span
  | .short nanos => if nanos = 1 then none else do grow total 0 (← f.of nanos)
  | .long seconds =>
    if seconds ≤ 60 then do grow total 0 (← f.of (seconds * 1000000000))
    else do grow total (← f.of seconds) 0

/-- A span grown by the number `n` and its fraction in the named unit. -/
def growNamed (total : Span) (n : Nat) (fraction : Option Fraction) (name : List Char) :
    Option Span := do
  let unit ← unit? (String.ofList name)
  let sum ← growWhole total n unit
  match fraction with
  | some f => growFraction sum f unit
  | none => return sum

/-- Where in a written span the reader stands. -/
inductive Phase where
  /-- Before a number. -/
  | gap
  /-- Inside the whole part of a number. -/
  | whole (n : Nat)
  /-- Inside the fraction of a number. -/
  | fraction (n : Nat) (f : Fraction)
  /-- Inside the name of a unit; its letters so far, last first. -/
  | unit (n : Nat) (f : Option Fraction) (letters : List Char)
  deriving DecidableEq, Repr

/-- Whether a character may stand in the name of a unit. -/
def isUnitLetter (c : Char) : Bool :=
  ('a' ≤ c && c ≤ 'z') || ('A' ≤ c && c ≤ 'Z') || c == 'µ'

/-- One more digit of a fraction. -/
def Fraction.push (f : Fraction) (d : Nat) : Option Fraction := do
  let denominator ← within64 (f.denominator * 10)
  let numerator ← within64 (f.numerator * 10 + d)
  return ⟨numerator, denominator⟩

/-- One character of a written span. -/
def readChar (total : Span) (phase : Phase) (c : Char) : Option (Span × Phase) :=
  match phase with
  | .gap =>
    match Text.digit? c with
    | some d => some (total, .whole d)
    | none => if Text.isBlank c then some (total, .gap) else none
  | .whole n =>
    match Text.digit? c with
    | some d => (within64 (n * 10 + d)).map fun n => (total, .whole n)
    | none =>
      if Text.isBlank c then some (total, .whole n)
      else if isUnitLetter c then some (total, .unit n none [c])
      else if c = '.' then some (total, .fraction n {})
      else none
  | .fraction n f =>
    match Text.digit? c with
    | some d => (f.push d).map fun f => (total, .fraction n f)
    | none =>
      if Text.isBlank c then some (total, .fraction n f)
      else if isUnitLetter c && f.denominator != 1 then some (total, .unit n (some f) [c])
      else none
  | .unit n f letters =>
    match Text.digit? c with
    | some d => (growNamed total n f letters.reverse).map fun total => (total, .whole d)
    | none =>
      if Text.isBlank c then (growNamed total n f letters.reverse).map fun total => (total, .gap)
      else if isUnitLetter c then some (total, .unit n f (c :: letters))
      else none

/-- The characters of a written span from a position on. -/
def readChars : Span → Phase → List Char → Option (Span × Phase)
  | total, phase, [] => some (total, phase)
  | total, phase, c :: cs =>
    match readChar total phase c with
    | some (total, phase) => readChars total phase cs
    | none => none

/-- The span that a text denotes. -/
def read? (s : String) : Option Span :=
  if s = "0" then some ⟨0⟩
  else if Text.isBlankText s then none
  else
    match readChars ⟨0⟩ .gap s.toList with
    | some (total, .gap) => some total
    | some (total, .unit n f letters) => growNamed total n f letters.reverse
    | _ => none

end ChainProvision.Span
