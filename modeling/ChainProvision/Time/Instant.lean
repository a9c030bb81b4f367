import ChainProvision.Text.Blank
import ChainProvision.Text.Search
import ChainProvision.Text.Numeral

/-!
# Instants

An instant is a date and a time of day in UTC.  It is written as in RFC 3339 with `Z`, and read from
a wider form: blanks between the parts, a space or a small `t` before the time, any offset, and a year
with a sign.  A leap second is the second 60.
-/

namespace ChainProvision

/-- A date and a time of day in UTC. -/
structure Instant where
  year : Int
  month : Nat
  day : Nat
  /-- Minutes since midnight. -/
  minuteOfDay : Nat
  /-- The second, 60 in a leap second. -/
  second : Nat
  nanos : Nat
  deriving DecidableEq, Repr

namespace Instant

/-- The first instant of 1970. -/
def epoch : Instant := ⟨1970, 1, 1, 0, 0, 0⟩

instance : Inhabited Instant := ⟨epoch⟩

/-- Whether a year of the Gregorian calendar has a 29th of February. -/
def isLeapYear (year : Int) : Bool :=
  year % 4 == 0 && (year % 100 != 0 || year % 400 == 0)

/-- The number of days of a month, none for a month that does not exist. -/
def daysInMonth (year : Int) (month : Nat) : Nat :=
  if month = 2 then (if isLeapYear year then 29 else 28)
  else if month ∈ [4, 6, 9, 11] then 30
  else if 1 ≤ month ∧ month ≤ 12 then 31
  else 0

/-- Whether a year is one that dates are kept for. -/
def yearInRange (year : Int) : Bool :=
  -262143 ≤ year && year ≤ 262142

/-- The same time on the next day. -/
def nextDay (t : Instant) : Instant :=
  if t.day < daysInMonth t.year t.month then { t with day := t.day + 1 }
  else if t.month < 12 then { t with month := t.month + 1, day := 1 }
  else { t with year := t.year + 1, month := 1, day := 1 }

/-- The same time on the day before. -/
def previousDay (t : Instant) : Instant :=
  if 1 < t.day then { t with day := t.day - 1 }
  else if 1 < t.month then
    { t with month := t.month - 1, day := daysInMonth t.year (t.month - 1) }
  else { t with year := t.year - 1, month := 12, day := 31 }

/-- The instant at which a clock ahead of UTC by `minutes` shows the given date and time.  Offsets are
    shorter than a day and whole minutes long, so only the date and the minutes move. -/
def behind (t : Instant) (minutes : Int) : Instant :=
  let utc := (t.minuteOfDay : Int) - minutes
  if utc < 0 then { t.previousDay with minuteOfDay := (utc + 1440).toNat }
  else if 1440 ≤ utc then { t.nextDay with minuteOfDay := (utc - 1440).toNat }
  else { t with minuteOfDay := utc.toNat }

/-- The fraction of a second in three, six or nine digits, or nothing. -/
def fractionText (nanos : Nat) : String :=
  if nanos = 0 then ""
  else if nanos % 1000000 = 0 then "." ++ Text.paddedNumeral 3 (nanos / 1000000)
  else if nanos % 1000 = 0 then "." ++ Text.paddedNumeral 6 (nanos / 1000)
  else "." ++ Text.paddedNumeral 9 nanos

/-- The year in at least four digits, with a sign when four digits do not hold it. -/
def yearText (year : Int) : String :=
  if year < 0 then "-" ++ Text.paddedNumeral 4 year.natAbs
  else if 9999 < year then "+" ++ Text.numeral year.toNat
  else Text.paddedNumeral 4 year.toNat

/-- The written form of an instant. -/
def text (t : Instant) : String :=
  yearText t.year ++ "-" ++ Text.paddedNumeral 2 t.month ++ "-" ++ Text.paddedNumeral 2 t.day ++ "T" ++
    Text.paddedNumeral 2 (t.minuteOfDay / 60) ++ ":" ++ Text.paddedNumeral 2 (t.minuteOfDay % 60) ++
    ":" ++ Text.paddedNumeral 2 t.second ++ fractionText t.nanos ++ "Z"

/-! ## Reading -/

/-- The text without blanks at its start. -/
def skipBlanks (cs : List Char) : List Char :=
  cs.dropWhile Text.isBlank

/-- The number in the digits at the start of a text, at most `width` of them, and the rest. -/
def digits? (width : Nat) (cs : List Char) : Option (Nat × List Char) :=
  let ds := (cs.take width).takeWhile fun c => (Text.digit? c).isSome
  if ds.isEmpty then none
  else some (ds.foldl (fun n c => n * 10 + (Text.digit? c).getD 0) 0, cs.drop ds.length)

/-- A number of at most two digits, after blanks. -/
def field? (cs : List Char) : Option (Nat × List Char) :=
  digits? 2 (skipBlanks cs)

/-- The given character, after blanks. -/
def mark? (c : Char) (cs : List Char) : Option (List Char) :=
  match skipBlanks cs with
  | d :: rest => if c = d then some rest else none
  | [] => none

/-- The year: four digits at most, or any number of digits after a sign. -/
def year? (cs : List Char) : Option (Int × List Char) :=
  match skipBlanks cs with
  | '-' :: rest => (digits? rest.length rest).map fun (n, rest) => (-(n : Int), rest)
  | '+' :: rest => (digits? rest.length rest).map fun (n, rest) => ((n : Int), rest)
  | rest => (digits? 4 rest).map fun (n, rest) => ((n : Int), rest)

/-- The nanoseconds after the seconds; digits beyond the ninth are dropped. -/
def nanos? (cs : List Char) : Option (Nat × List Char) :=
  match cs with
  | '.' :: rest =>
    (digits? 9 rest).map fun (n, after) =>
      (n * Nat.pow 10 (9 - (rest.length - after.length)),
        after.dropWhile fun c => (Text.digit? c).isSome)
  | rest => some (0, rest)

/-- Two digits, of which the first is at most `top`. -/
def pair? (top : Nat) : List Char → Option (Nat × List Char)
  | a :: b :: rest =>
    match Text.digit? a, Text.digit? b with
    | some x, some y => if x ≤ top then some (x * 10 + y, rest) else none
    | _, _ => none
  | _ => none

/-- The offset from UTC in minutes. -/
def offset? (cs : List Char) : Option (Int × List Char) :=
  let signed (sign : Int) (rest : List Char) : Option (Int × List Char) :=
    match pair? 9 rest with
    | some (hours, rest) =>
      match pair? 5 (rest.dropWhile fun c => c == ':' || Text.isBlank c) with
      | some (minutes, rest) => some (sign * (hours * 60 + minutes : Nat), rest)
      | none => none
    | none => none
  match cs with
  | 'Z' :: rest => some (0, rest)
  | 'z' :: rest => some (0, rest)
  | '+' :: rest => signed 1 rest
  | '-' :: rest => signed (-1) rest
  | '−' :: rest => signed (-1) rest
  | _ => none

/-- The offset, which may also be written as `UTC`. -/
def zone? (cs : List Char) : Option (Int × List Char) :=
  match Text.afterStart? ['u', 't', 'c'] ((cs.take 3).map Char.toLower) with
  | some _ => some (0, cs.drop 3)
  | none => offset? cs

/-- The instant that a text denotes. -/
def read? (s : String) : Option Instant := do
  let (year, cs) ← year? s.toList
  let (month, cs) ← field? (← mark? '-' cs)
  let (day, cs) ← field? (← mark? '-' cs)
  let cs ← match cs with
    | 'T' :: rest => some rest
    | 't' :: rest => some rest
    | ' ' :: rest => some rest
    | _ => none
  let (hour, cs) ← field? cs
  let (minute, cs) ← field? (← mark? ':' cs)
  let (second, cs) ← field? (← mark? ':' cs)
  let (nanos, cs) ← nanos? cs
  let (offset, cs) ← zone? (skipBlanks cs)
  if !(skipBlanks cs).isEmpty then none
  else if !(1 ≤ day && day ≤ daysInMonth year month && yearInRange year) then none
  else if !(hour < 24 && minute < 60 && second ≤ 60) then none
  else if !(-1440 < offset && offset < 1440) then none
  else
    let utc := behind ⟨year, month, day, hour * 60 + minute, second, nanos⟩ offset
    if yearInRange utc.year then some utc else none

end Instant

end ChainProvision
