import ChainProvision.Proofs.Text.Characters
import ChainProvision.Proofs.Text.Numeral
import ChainProvision.Time.Instant

/-!
# Instants that are written are read back

What is read is a date of the calendar and a time of day, whatever the offset it was given with.  Written
with `Z`, it is read as the same instant again.

## Main definitions

- `Instant.Valid`: an instant is a date of the calendar and a time of day.

## Main statements

- `Instant.valid_of_read?`: what is read is valid.
- `Instant.read?_text`: the text of a valid instant is read as the instant.
-/

namespace ChainProvision.Instant

/-- An instant is a date of the calendar and a time of day. -/
structure Valid (t : Instant) : Prop where
  year : yearInRange t.year = true
  day_pos : 1 ≤ t.day
  day_le : t.day ≤ daysInMonth t.year t.month
  minuteOfDay_lt : t.minuteOfDay < 1440
  second_le : t.second ≤ 60
  nanos_lt : t.nanos < 1000000000

/-! ## Months -/

theorem daysInMonth_le (year : Int) (month : Nat) : daysInMonth year month ≤ 31 := by
  unfold daysInMonth
  split
  · split <;> decide
  · split
    · decide
    · split <;> decide

theorem month_of_daysInMonth {year : Int} {month : Nat} (h : 1 ≤ daysInMonth year month) :
    1 ≤ month ∧ month ≤ 12 := by
  unfold daysInMonth at h
  split at h
  · omega
  · split at h
    · rename_i hshort
      simp only [List.mem_cons, List.not_mem_nil, or_false] at hshort
      omega
    · split at h
      · assumption
      · cases h

theorem daysInMonth_pos {year : Int} {month : Nat} (hpos : 1 ≤ month) (hle : month ≤ 12) :
    1 ≤ daysInMonth year month := by
  unfold daysInMonth
  split
  · split <;> decide
  · split
    · decide
    · rw [if_pos ⟨hpos, hle⟩]
      decide

/-! ## Clocks away from UTC -/

/-- The day of an instant is one of its month. -/
private def HasDay (t : Instant) : Prop := 1 ≤ t.day ∧ t.day ≤ daysInMonth t.year t.month

private theorem hasDay_nextDay {t : Instant} (h : t.HasDay) : t.nextDay.HasDay := by
  obtain ⟨hpos, hle⟩ := h
  obtain ⟨hmonth, hmonth'⟩ := month_of_daysInMonth (Nat.le_trans hpos hle)
  unfold nextDay
  split
  · exact ⟨Nat.le_add_left 1 _, ‹_›⟩
  · split
    · exact ⟨Nat.le_refl 1, daysInMonth_pos (Nat.le_add_left 1 _) ‹_›⟩
    · exact ⟨Nat.le_refl 1, daysInMonth_pos (Nat.le_refl 1) (Nat.le_add_right 1 11)⟩

private theorem hasDay_previousDay {t : Instant} (h : t.HasDay) : t.previousDay.HasDay := by
  obtain ⟨hpos, hle⟩ := h
  obtain ⟨hmonth, hmonth'⟩ := month_of_daysInMonth (Nat.le_trans hpos hle)
  unfold previousDay
  split
  · exact ⟨Nat.le_sub_one_of_lt ‹_›, Nat.le_trans (Nat.sub_le _ _) hle⟩
  · split
    · rename_i hlater
      exact ⟨daysInMonth_pos (Nat.le_sub_one_of_lt hlater) (Nat.le_trans (Nat.sub_le _ _) hmonth'),
        Nat.le_refl _⟩
    · exact ⟨Nat.le_add_left 1 30, Nat.le_refl 31⟩

/-- Seen from UTC, a date and a time of day are such again. -/
private theorem valid_behind {t : Instant} {minutes : Int} (hday : t.HasDay)
    (hminute : t.minuteOfDay < 1440) (hsecond : t.second ≤ 60) (hnanos : t.nanos < 1000000000)
    (hoffset : -1440 < minutes ∧ minutes < 1440) (hyear : yearInRange (t.behind minutes).year = true) :
    (t.behind minutes).Valid := by
  have hnext : t.nextDay.second = t.second ∧ t.nextDay.nanos = t.nanos := by
    unfold nextDay
    split
    · exact ⟨rfl, rfl⟩
    · split <;> exact ⟨rfl, rfl⟩
  have hprevious : t.previousDay.second = t.second ∧ t.previousDay.nanos = t.nanos := by
    unfold previousDay
    split
    · exact ⟨rfl, rfl⟩
    · split <;> exact ⟨rfl, rfl⟩
  revert hyear
  unfold behind
  dsimp only
  -- The clock in UTC shows the day before, the day after, or the same day.
  split
  · intro hyear
    obtain ⟨hpos, hle⟩ := hasDay_previousDay hday
    exact ⟨hyear, hpos, hle, by dsimp only; omega, hprevious.1 ▸ hsecond, hprevious.2 ▸ hnanos⟩
  · split
    · intro hyear
      obtain ⟨hpos, hle⟩ := hasDay_nextDay hday
      exact ⟨hyear, hpos, hle, by dsimp only; omega, hnext.1 ▸ hsecond, hnext.2 ▸ hnanos⟩
    · intro hyear
      exact ⟨hyear, hday.1, hday.2, by dsimp only; omega, hsecond, hnanos⟩

theorem behind_zero {t : Instant} (h : t.minuteOfDay < 1440) : t.behind 0 = t := by
  unfold behind
  dsimp only
  rw [if_neg (by omega), if_neg (by omega)]
  simp

/-! ## Digits that are read -/

/-- What digits come to is what they denote. -/
private theorem foldl_digits {ds : List Char} (h : ∀ c ∈ ds, c.isDigit = true) (n : Nat) :
    ds.foldl (fun n c => n * 10 + (Text.digit? c).getD 0) n = Nat.ofDigitChars 10 ds n := by
  induction ds generalizing n with
  | nil => rfl
  | cons c ds ih =>
    obtain ⟨d, hd⟩ := Option.isSome_iff_exists.mp (Text.isSome_digit?_iff.mpr (h c List.mem_cons_self))
    obtain ⟨hlt, rfl⟩ := Text.digitChar_of_digit? hd
    rw [List.foldl_cons, ih fun c hc => h c (List.mem_cons_of_mem _ hc),
      Nat.ofDigitChars_cons_digitChar_of_lt_ten hlt, hd, Option.getD_some, Nat.mul_comm]

private theorem ofDigitChars_lt {ds : List Char} (h : ∀ c ∈ ds, c.isDigit = true) :
    Nat.ofDigitChars 10 ds 0 < Nat.pow 10 ds.length := by
  induction ds with
  | nil => decide
  | cons c ds ih =>
    obtain ⟨d, hd⟩ := Option.isSome_iff_exists.mp (Text.isSome_digit?_iff.mpr (h c List.mem_cons_self))
    obtain ⟨hlt, rfl⟩ := Text.digitChar_of_digit? hd
    have hrest : Nat.ofDigitChars 10 ds 0 < 10 ^ ds.length := ih fun c hc => h c (List.mem_cons_of_mem _ hc)
    have hlead : 10 ^ ds.length * d ≤ 10 ^ ds.length * 9 := Nat.mul_le_mul_left _ (by omega)
    show _ < 10 ^ (Nat.digitChar d :: ds).length
    rw [Nat.ofDigitChars_cons_digitChar_of_lt_ten hlt, Nat.ofDigitChars_eq_ofDigitChars_zero,
      List.length_cons, Nat.pow_succ, Nat.mul_zero, Nat.zero_add]
    omega

/-- No more digits are read than fit, and their number has no more places. -/
private theorem digits?_bound {width n : Nat} {cs rest : List Char} (h : digits? width cs = some (n, rest)) :
    ∃ k ≤ width, n < Nat.pow 10 k ∧ cs.length = k + rest.length := by
  have hprefix := (List.takeWhile_prefix (p := fun c => (Text.digit? c).isSome) (l := cs.take width)).length_le
  have hdigits : ∀ c ∈ (cs.take width).takeWhile fun c => (Text.digit? c).isSome, c.isDigit = true :=
    fun c hc => Text.isSome_digit?_iff.mp ((List.all_eq_true.mp List.all_takeWhile) c hc)
  unfold digits? at h
  simp only [Option.ite_none_left_eq_some, Option.some.injEq, Prod.mk.injEq] at h
  obtain ⟨-, rfl, rfl⟩ := h
  rw [List.length_take] at hprefix
  refine ⟨((cs.take width).takeWhile fun c => (Text.digit? c).isSome).length, by omega, ?_, ?_⟩
  · rw [foldl_digits hdigits]
    exact ofDigitChars_lt hdigits
  · rw [List.length_drop]
    omega

private theorem nanos?_lt {cs rest : List Char} {n : Nat} (h : nanos? cs = some (n, rest)) :
    n < 1000000000 := by
  unfold nanos? at h
  split at h
  · obtain ⟨⟨m, after⟩, hdigits, hsome⟩ := Option.map_eq_some_iff.mp h
    obtain ⟨rfl, -⟩ := Prod.mk.inj hsome
    obtain ⟨k, hk, hm, hlength⟩ := digits?_bound hdigits
    rw [show (10 : Nat).pow _ = 10 ^ (9 - k) by rw [hlength]; simp]
    calc m * 10 ^ (9 - k) < 10 ^ k * 10 ^ (9 - k) := Nat.mul_lt_mul_of_pos_right hm (Nat.pow_pos (by decide))
      _ = 10 ^ 9 := by rw [← Nat.pow_add, Nat.add_sub_cancel' hk]
  · cases h
    decide

/-- **What is read is a date of the calendar and a time of day.** -/
theorem valid_of_read? {s : String} {t : Instant} (h : read? s = some t) : t.Valid := by
  unfold read? at h
  obtain ⟨⟨year, _⟩, _, h⟩ := Option.bind_eq_some_iff.mp h
  obtain ⟨_, _, h⟩ := Option.bind_eq_some_iff.mp h
  obtain ⟨⟨month, _⟩, _, h⟩ := Option.bind_eq_some_iff.mp h
  obtain ⟨_, _, h⟩ := Option.bind_eq_some_iff.mp h
  obtain ⟨⟨day, _⟩, _, h⟩ := Option.bind_eq_some_iff.mp h
  dsimp only at h
  split at h
  rotate_left 3
  · cases h
  -- Whichever mark stands between them, the time is read after the date.
  all_goals
    obtain ⟨_, _, h⟩ := Option.bind_eq_some_iff.mp h
    obtain ⟨⟨hour, _⟩, _, h⟩ := Option.bind_eq_some_iff.mp h
    obtain ⟨_, _, h⟩ := Option.bind_eq_some_iff.mp h
    obtain ⟨⟨minute, _⟩, _, h⟩ := Option.bind_eq_some_iff.mp h
    obtain ⟨_, _, h⟩ := Option.bind_eq_some_iff.mp h
    obtain ⟨⟨second, _⟩, _, h⟩ := Option.bind_eq_some_iff.mp h
    obtain ⟨⟨nanos, _⟩, hnanos, h⟩ := Option.bind_eq_some_iff.mp h
    obtain ⟨⟨offset, _⟩, _, h⟩ := Option.bind_eq_some_iff.mp h
    simp only [Option.ite_none_left_eq_some, Option.ite_none_right_eq_some, Option.some.injEq] at h
    obtain ⟨-, hdate, htime, hoffset, hyear, rfl⟩ := h
    simp only [Bool.not_eq_true', Bool.not_eq_false, Bool.and_eq_true, decide_eq_true_eq]
      at hdate htime hoffset
    exact valid_behind ⟨hdate.1.1, hdate.1.2⟩ (by dsimp only; omega) htime.2 (nanos?_lt hnanos) hoffset hyear

/-! ## Digits that are written -/

private theorem isDigit_of_mem_padded {width n : Nat} {c : Char}
    (h : c ∈ (Text.paddedNumeral width n).toList) : c.isDigit = true := by
  rw [Text.paddedNumeral, String.toList_ofList, List.mem_append] at h
  rcases h with hzero | hdigit
  · obtain rfl := List.eq_of_mem_replicate hzero
    rfl
  · exact Nat.isDigit_of_mem_toDigits (by decide) (by decide) hdigit

private theorem length_padded {width n : Nat} (hwidth : 0 < width) (hn : n < Nat.pow 10 width) :
    (Text.paddedNumeral width n).toList.length = width := by
  have hle := (Nat.length_toDigits_le_iff (by decide) hwidth).mpr hn
  rw [Text.paddedNumeral, String.toList_ofList, List.length_append, List.length_replicate]
  omega

private theorem ofDigitChars_padded (width n : Nat) :
    Nat.ofDigitChars 10 (Text.paddedNumeral width n).toList 0 = n := by
  rw [Text.paddedNumeral, String.toList_ofList, Nat.ofDigitChars_append, Nat.ofDigitChars_replicate_zero,
    Nat.mul_zero, Nat.ofDigitChars_ten_toDigits]

/-- No digit stands at the start of a text. -/
private def Stops (cs : List Char) : Prop := ∀ c, cs.head? = some c → Text.digit? c = none

private theorem takeWhile_of_stops {cs : List Char} (h : Stops cs) :
    cs.takeWhile (fun c => (Text.digit? c).isSome) = [] := by
  cases cs with
  | nil => rfl
  | cons c cs => simp [h c rfl]

private theorem stops_take {cs : List Char} (h : Stops cs) (k : Nat) : Stops (cs.take k) := by
  intro c hc
  rw [List.head?_take] at hc
  split at hc
  · cases hc
  · exact h c hc

/-- Digits that fit are read as what they denote, if no more of them follow or no more fit. -/
private theorem digits?_append {width : Nat} {ds rest : List Char} (hne : ds ≠ [])
    (hdigits : ∀ c ∈ ds, c.isDigit = true) (hwidth : ds.length ≤ width)
    (hrest : ds.length = width ∨ Stops rest) :
    digits? width (ds ++ rest) = some (Nat.ofDigitChars 10 ds 0, rest) := by
  have htaken : ((ds ++ rest).take width).takeWhile (fun c => (Text.digit? c).isSome) = ds := by
    rw [List.take_append, List.take_of_length_le hwidth, List.takeWhile_append_of_pos fun c hc => Text.isSome_digit?_iff.mpr (hdigits c hc)]
    rcases hrest with hfull | hstops
    · rw [← hfull, Nat.sub_self, List.take_zero, List.takeWhile_nil, List.append_nil]
    · rw [takeWhile_of_stops (stops_take hstops _), List.append_nil]
  unfold digits?
  simp only [htaken, List.isEmpty_iff, if_neg hne, foldl_digits hdigits, List.drop_left]

private theorem digits?_padded {width n : Nat} (hwidth : 0 < width) (hn : n < Nat.pow 10 width)
    (rest : List Char) :
    digits? width ((Text.paddedNumeral width n).toList ++ rest) = some (n, rest) := by
  have hlength := length_padded hwidth hn
  rw [digits?_append (by rw [← List.length_pos_iff]; omega) (fun c hc => isDigit_of_mem_padded hc)
    (Nat.le_of_eq hlength) (Or.inl hlength), ofDigitChars_padded]

/-! ## The parts of a written instant -/

private theorem skipBlanks_cons {c : Char} (h : Text.isBlank c = false) (cs : List Char) :
    skipBlanks (c :: cs) = c :: cs := by simp [skipBlanks, h]

/-- A text that begins with digits has no blanks in front. -/
private theorem skipBlanks_digits {ds : List Char} (hne : ds ≠ []) (hdigits : ∀ c ∈ ds, c.isDigit = true)
    (rest : List Char) : skipBlanks (ds ++ rest) = ds ++ rest := by
  cases ds with
  | nil => exact absurd rfl hne
  | cons c ds => exact skipBlanks_cons (Text.isBlank_eq_false_of_isDigit (hdigits c List.mem_cons_self)) _

private theorem padded_ne_nil {width n : Nat} (hwidth : 0 < width) (hn : n < Nat.pow 10 width) :
    (Text.paddedNumeral width n).toList ≠ [] := by
  rw [← List.length_pos_iff, length_padded hwidth hn]
  exact hwidth

private theorem field?_padded {n : Nat} (hn : n < 100) (rest : List Char) :
    field? ((Text.paddedNumeral 2 n).toList ++ rest) = some (n, rest) := by
  rw [field?, skipBlanks_digits (padded_ne_nil (by decide) hn) fun c hc => isDigit_of_mem_padded hc]
  exact digits?_padded (by decide) hn rest

private theorem mark?_self {c : Char} (h : Text.isBlank c = false) (rest : List Char) :
    mark? c (c :: rest) = some rest := by simp [mark?, skipBlanks_cons h]

private theorem mem_of_append_eq_cons {ds cs rest : List Char} {c : Char} (hne : ds ≠ [])
    (h : ds ++ rest = c :: cs) : c ∈ ds := by
  cases ds with
  | nil => exact absurd rfl hne
  | cons d ds =>
    obtain ⟨rfl, -⟩ := List.cons.inj h
    exact List.mem_cons_self

/-- A year is written with a sign just if four digits do not hold it. -/
private theorem year?_text (year : Int) (rest : List Char) :
    year? ((yearText year).toList ++ '-' :: rest) = some (year, '-' :: rest) := by
  have hstops : Stops ('-' :: rest) := fun c hc => by
    obtain rfl := Option.some.inj hc
    rfl
  unfold yearText
  split
  · rename_i hneg
    have hdigits : ∀ c ∈ (Text.paddedNumeral 4 year.natAbs).toList, c.isDigit = true :=
      fun c hc => isDigit_of_mem_padded hc
    have hne : (Text.paddedNumeral 4 year.natAbs).toList ≠ [] := by
      simp [Text.paddedNumeral]
    have hread := digits?_append hne hdigits (Nat.le_add_right _ ('-' :: rest).length) (Or.inr hstops)
    rw [String.toList_append, show "-".toList = ['-'] from rfl, List.singleton_append, List.cons_append]
    simp only [year?, skipBlanks_cons (c := '-') rfl, List.length_append, hread, Option.map_some,
      ofDigitChars_padded, Option.some.injEq, Prod.mk.injEq, and_true]
    omega
  · split
    · have hdigits : ∀ c ∈ Nat.toDigits 10 year.toNat, c.isDigit = true := fun c hc =>
        Nat.isDigit_of_mem_toDigits (by decide) (by decide) hc
      have hread := digits?_append Nat.toDigits_ne_nil hdigits
        (Nat.le_add_right _ ('-' :: rest).length) (Or.inr hstops)
      rw [String.toList_append, show "+".toList = ['+'] from rfl, List.singleton_append, List.cons_append,
        Text.numeral, String.toList_ofList]
      simp only [year?, skipBlanks_cons (c := '+') rfl, List.length_append, hread, Option.map_some,
        Nat.ofDigitChars_ten_toDigits, Option.some.injEq, Prod.mk.injEq, and_true]
      omega
    · have hsmall : year.toNat < 10 ^ 4 := by omega
      have hdigits : ∀ c ∈ (Text.paddedNumeral 4 year.toNat).toList, c.isDigit = true :=
        fun c hc => isDigit_of_mem_padded hc
      have hread := digits?_padded (by decide) hsmall ('-' :: rest)
      have hskip := skipBlanks_digits (padded_ne_nil (by decide) hsmall) hdigits ('-' :: rest)
      unfold year?
      rw [hskip]
      -- A digit is no sign.
      split
      · rename_i heq
        exact absurd (hdigits '-' (mem_of_append_eq_cons (padded_ne_nil (by decide) hsmall) heq)) nofun
      · rename_i heq
        exact absurd (hdigits '+' (mem_of_append_eq_cons (padded_ne_nil (by decide) hsmall) heq)) nofun
      · rw [hread, Option.map_some, Option.some.injEq, Prod.mk.injEq]
        exact ⟨by omega, rfl⟩

private theorem nanos?_fraction {places n : Nat} (hpos : 0 < places) (hle : places ≤ 9)
    (hn : n < Nat.pow 10 places) :
    nanos? ('.' :: (Text.paddedNumeral places n).toList ++ ['Z']) = some (n * Nat.pow 10 (9 - places), ['Z']) := by
  have hlength := length_padded hpos hn
  have hstops : Stops ['Z'] := fun c hc => by
    obtain rfl := Option.some.inj hc
    rfl
  have hread := digits?_append (padded_ne_nil hpos hn) (fun c hc => isDigit_of_mem_padded hc)
    (Nat.le_trans (Nat.le_of_eq hlength) hle) (Or.inr hstops)
  have hplaces : ((Text.paddedNumeral places n).toList ++ ['Z']).length - ['Z'].length = places := by
    rw [List.length_append, hlength, Nat.add_sub_cancel]
  rw [List.cons_append]
  simp only [nanos?, hread, Option.map_some, ofDigitChars_padded, hplaces]
  rfl

/-- The fraction is written in as many places as it needs, and those that are left out are zeros. -/
private theorem nanos?_text {nanos : Nat} (h : nanos < 1000000000) :
    nanos? ((fractionText nanos).toList ++ ['Z']) = some (nanos, ['Z']) := by
  have hpoint : ∀ s : String, ("." ++ s).toList = '.' :: s.toList := fun s => by
    rw [String.toList_append]
    rfl
  unfold fractionText
  split
  · rename_i hzero
    rw [hzero]
    rfl
  · split
    · have hsmall : nanos / 1000000 < 1000 := by omega
      have hwhole : nanos / 1000000 * 1000000 = nanos := by omega
      rw [hpoint, nanos?_fraction (by decide) (by decide) hsmall]
      exact congrArg (fun n => some (n, ['Z'])) hwhole
    · split
      · have hsmall : nanos / 1000 < 1000000 := by omega
        have hwhole : nanos / 1000 * 1000 = nanos := by omega
        rw [hpoint, nanos?_fraction (by decide) (by decide) hsmall]
        exact congrArg (fun n => some (n, ['Z'])) hwhole
      · rw [hpoint, nanos?_fraction (by decide) (by decide) h]
        exact congrArg (fun n => some (n, ['Z'])) (Nat.mul_one nanos)

private theorem toList_text (t : Instant) :
    t.text.toList = (yearText t.year).toList ++ '-' :: ((Text.paddedNumeral 2 t.month).toList ++
      '-' :: ((Text.paddedNumeral 2 t.day).toList ++ 'T' :: ((Text.paddedNumeral 2 (t.minuteOfDay / 60)).toList ++
        ':' :: ((Text.paddedNumeral 2 (t.minuteOfDay % 60)).toList ++
          ':' :: ((Text.paddedNumeral 2 t.second).toList ++ ((fractionText t.nanos).toList ++ ['Z'])))))) := by
  simp [text, String.toList_append]

/-- What is read first can be taken out of what is read after it. -/
private theorem bind_of_some {α β : Type} {x : Option α} {a : α} {f : α → Option β} {r : Option β}
    (hx : x = some a) (hf : f a = r) : x >>= f = r := by
  rw [hx]
  exact hf

/-- **A written instant is read back.** -/
theorem read?_text {t : Instant} (h : t.Valid) : read? t.text = some t := by
  obtain ⟨hmonth, hmonth'⟩ := month_of_daysInMonth (Nat.le_trans h.day_pos h.day_le)
  have hday := Nat.le_trans h.day_le (daysInMonth_le _ _)
  have hminute := h.minuteOfDay_lt
  have hsecond := h.second_le
  have hzone : zone? (skipBlanks ['Z']) = some (0, []) := rfl
  have hdate : (1 ≤ t.day && t.day ≤ daysInMonth t.year t.month && yearInRange t.year) = true := by
    simp [h.day_pos, h.day_le, h.year]
  have htime : (t.minuteOfDay / 60 < 24 && t.minuteOfDay % 60 < 60 && t.second ≤ 60) = true := by
    simp only [Bool.and_eq_true, decide_eq_true_eq]
    omega
  have hminutes : t.minuteOfDay / 60 * 60 + t.minuteOfDay % 60 = t.minuteOfDay := by omega
  unfold read?
  rw [toList_text]
  apply bind_of_some (year?_text _ _)
  apply bind_of_some (mark?_self rfl _)
  apply bind_of_some (field?_padded (show t.month < 100 by omega) _)
  apply bind_of_some (mark?_self rfl _)
  apply bind_of_some (field?_padded (show t.day < 100 by omega) _)
  apply bind_of_some rfl
  apply bind_of_some (field?_padded (show t.minuteOfDay / 60 < 100 by omega) _)
  apply bind_of_some (mark?_self rfl _)
  apply bind_of_some (field?_padded (show t.minuteOfDay % 60 < 100 by omega) _)
  apply bind_of_some (mark?_self rfl _)
  apply bind_of_some (field?_padded (show t.second < 100 by omega) _)
  apply bind_of_some (nanos?_text h.nanos_lt)
  apply bind_of_some hzone
  -- Only the checks are left.
  simp only [hdate, htime, hminutes]
  simp only [behind_zero hminute, h.year]
  rfl

end ChainProvision.Instant
