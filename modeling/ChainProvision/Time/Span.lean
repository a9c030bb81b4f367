import ChainProvision.Text.Numeral

/-!
# Spans of time

A span is a whole number of nanoseconds.  Messages print it in the largest unit of which it holds at
least one, with the fraction cut after its last non-zero digit.
-/

namespace ChainProvision

/-- A span of time in nanoseconds. -/
structure Span where
  nanos : Nat
  deriving DecidableEq, Repr, Inhabited

namespace Span

/-- The span of `n` whole seconds. -/
def ofSeconds (n : Nat) : Span := ⟨n * 1000000000⟩

/-- The span of `n` whole milliseconds. -/
def ofMillis (n : Nat) : Span := ⟨n * 1000000⟩

/-- The whole seconds of a span. -/
def seconds (s : Span) : Nat := s.nanos / 1000000000

/-- The nanoseconds of a span beyond its whole seconds. -/
def subsecond (s : Span) : Nat := s.nanos % 1000000000

/-- The milliseconds a timer of millisecond resolution waits: a timer never fires early, so a part of
    a millisecond counts as a whole one. -/
def timerMillis (s : Span) : Nat := (s.nanos + 999999) / 1000000

/-- Whether nothing passes in the span. -/
def isZero (s : Span) : Bool := s.nanos == 0

/-- A number with a fraction of `places` decimal places, without zeros at the end of the fraction. -/
def decimalText (whole fraction places : Nat) : String :=
  if fraction = 0 then Text.numeral whole
  else
    let digits := (Text.paddedNumeral places fraction).toList
    Text.numeral whole ++ "." ++ String.ofList (digits.reverse.dropWhile (· == '0')).reverse

/-- The text of a span in messages: `10s`, `1.5s`, `120ms`, `2.5µs`, `0ns`. -/
def text (s : Span) : String :=
  if 1000000000 ≤ s.nanos then decimalText s.seconds s.subsecond 9 ++ "s"
  else if 1000000 ≤ s.nanos then decimalText (s.nanos / 1000000) (s.nanos % 1000000) 6 ++ "ms"
  else if 1000 ≤ s.nanos then decimalText (s.nanos / 1000) (s.nanos % 1000) 3 ++ "µs"
  else Text.numeral s.nanos ++ "ns"

end Span

end ChainProvision
