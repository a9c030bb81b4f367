import ChainProvision.Text.Numeral

/-!
# Which numerals are written in decimal

A numeral may have a plus sign or zeros in front of it; the decimal form of a number has neither.  So
a number can be read from many texts and is written as one of them.

## Main definitions

- `Text.Decimal`: a text is a number in decimal.
- `Text.Denotes`: a text is such a number, or one with a plus sign in front of it.

## Main statements

- `Text.readNumeral_eq_ok_iff`: what is read from a numeral is the number that it denotes.
- `Text.readNumeral_eq_tooLarge`: a numeral is refused as too large if its number is not below the limit.
- `Text.toDigits_of_readDigits`: digits read after a number continue its decimal form.
- `Text.eq_toDigits_iff_canonical`: a numeral is the decimal form of its number just if there is
  nothing in front of it.
-/

namespace ChainProvision.Text

/-- There is neither a sign nor a zero in front of a numeral. -/
def Canonical (cs : List Char) : Prop :=
  cs.head? ≠ some '+' ∧ (cs.head? = some '0' → cs = ['0'])

instance (cs : List Char) : Decidable (Canonical cs) := inferInstanceAs (Decidable (_ ∧ _))

/-- A text is a number in decimal: one digit or more. -/
structure Decimal (cs : List Char) (n : Nat) : Prop where
  ne_nil : cs ≠ []
  isDigit : ∀ c ∈ cs, c.isDigit = true
  value : Nat.ofDigitChars 10 cs 0 = n

/-- A text is a number in decimal, or one with a plus sign in front of it. -/
def Denotes (cs : List Char) (n : Nat) : Prop :=
  ∃ digits, (cs = digits ∨ cs = '+' :: digits) ∧ Decimal digits n

theorem Decimal.denotes {cs : List Char} {n : Nat} (h : Decimal cs n) : Denotes cs n := ⟨cs, Or.inl rfl, h⟩

theorem not_decimal_plus {digits : List Char} {n : Nat} : ¬ Decimal ('+' :: digits) n := fun h =>
  absurd (h.isDigit '+' List.mem_cons_self) (by decide)

/-- A text denotes one number. -/
theorem Denotes.unique {cs : List Char} {n m : Nat} (hn : Denotes cs n) (hm : Denotes cs m) : n = m := by
  obtain ⟨ds, hds, hn⟩ := hn
  obtain ⟨es, hes, hm⟩ := hm
  rcases hds with rfl | rfl <;> rcases hes with heq | heq
  · subst heq
    exact hn.value.symm.trans hm.value
  · exact absurd (heq ▸ hn) not_decimal_plus
  · exact absurd (heq ▸ hm) not_decimal_plus
  · obtain rfl := (List.cons.inj heq).2
    exact hn.value.symm.trans hm.value

/-! ## Reading digits -/

theorem isSome_digit?_iff {c : Char} : (digit? c).isSome = true ↔ c.isDigit = true := by
  have hrange : '0' ≤ c ∧ c ≤ '9' ↔ 48 ≤ c.toNat ∧ c.toNat ≤ 57 := Iff.rfl
  simp [digit?, hrange, Char.isDigit, UInt32.le_iff_toNat_le]

theorem digitChar_of_digit? {c : Char} {k : Nat} (h : digit? c = some k) :
    k < 10 ∧ Nat.digitChar k = c := by
  simp only [digit?, Option.ite_none_right_eq_some, Option.some.injEq] at h
  obtain ⟨⟨hlow, hhigh⟩, rfl⟩ := h
  have hrange : 48 ≤ c.toNat ∧ c.toNat ≤ 57 := ⟨hlow, hhigh⟩
  have hk : c.toNat - '0'.toNat < 10 := by
    show c.toNat - 48 < 10
    omega
  refine ⟨hk, Char.toNat_inj.mp ?_⟩
  rw [Nat.toNat_digitChar_of_lt_ten hk]
  show 48 + (c.toNat - 48) = c.toNat
  omega

theorem digit?_eq_some_iff {c : Char} {k : Nat} :
    digit? c = some k ↔ c.isDigit = true ∧ k = c.toNat - '0'.toNat := by
  constructor
  · intro h
    refine ⟨isSome_digit?_iff.mp (by rw [h]; rfl), ?_⟩
    simp only [digit?, Option.ite_none_right_eq_some, Option.some.injEq] at h
    exact h.2.symm
  · rintro ⟨hdigit, rfl⟩
    obtain ⟨k, hk⟩ := Option.isSome_iff_exists.mp (isSome_digit?_iff.mpr hdigit)
    rw [hk]
    simp only [digit?, Option.ite_none_right_eq_some, Option.some.injEq] at hk
    rw [hk.2]

theorem le_ofDigitChars (cs : List Char) (n : Nat) : n ≤ Nat.ofDigitChars 10 cs n := by
  induction cs generalizing n with
  | nil => exact Nat.le_refl n
  | cons c cs ih =>
    rw [Nat.ofDigitChars_cons]
    exact Nat.le_trans (by omega) (ih _)

/-- **Digits are read as the number that they denote**, after whatever was read before them. -/
theorem readDigits_eq_ok_iff {limit : Nat} {n m : Fin limit} {cs : List Char} :
    readDigits n cs = .ok m ↔
      (∀ c ∈ cs, c.isDigit = true) ∧ Nat.ofDigitChars 10 cs n.val = m.val := by
  induction cs generalizing n with
  | nil => simp [readDigits, Fin.ext_iff]
  | cons c cs ih =>
    rw [readDigits, Nat.ofDigitChars_cons, List.forall_mem_cons]
    cases hdigit : digit? c with
    | none =>
      have hc : ¬ c.isDigit = true := by
        rw [← isSome_digit?_iff, hdigit]
        decide
      simp [hc]
    | some k =>
      obtain ⟨hc, rfl⟩ := digit?_eq_some_iff.mp hdigit
      rw [Nat.mul_comm 10]
      dsimp only
      split
      · rw [ih]
        simp [hc]
      · rename_i hlimit
        -- What does not fit here never will again.
        have hle := le_ofDigitChars cs (n.val * 10 + (c.toNat - '0'.toNat))
        have hm := m.isLt
        simp only [reduceCtorEq, false_iff, not_and]
        omega

/-- **What is read from a numeral is the number that it denotes.** -/
theorem readNumeral_eq_ok_iff {limit : Nat} {pos : 0 < limit} {n : Fin limit} {cs : List Char} :
    readNumeral limit pos cs = .ok n ↔ Denotes cs n.val := by
  have hread : ∀ {digits : List Char}, digits ≠ [] →
      (readDigits ⟨0, pos⟩ digits = .ok n ↔ Decimal digits n.val) := fun hne =>
    readDigits_eq_ok_iff.trans ⟨fun ⟨hdigits, hvalue⟩ => ⟨hne, hdigits, hvalue⟩,
      fun h => ⟨h.isDigit, h.value⟩⟩
  unfold readNumeral
  split
  · -- Nothing at all.
    refine ⟨nofun, ?_⟩
    rintro ⟨digits, rfl | hcons, hdigits⟩
    · exact absurd rfl hdigits.ne_nil
    · cases hcons
  · -- A plus sign alone.
    refine ⟨nofun, ?_⟩
    rintro ⟨digits, rfl | hcons, hdigits⟩
    · exact absurd hdigits not_decimal_plus
    · cases hcons
      exact absurd rfl hdigits.ne_nil
  · rename_i digits hne
    have hdigits : digits ≠ [] := fun hnil => hne (by rw [hnil])
    rw [hread hdigits]
    constructor
    · exact fun h => ⟨digits, Or.inr rfl, h⟩
    · rintro ⟨others, rfl | hcons, h⟩
      · exact absurd h not_decimal_plus
      · cases hcons
        exact h
  · rename_i hnil _ hsign
    rw [hread hnil]
    constructor
    · exact fun h => ⟨cs, Or.inl rfl, h⟩
    · rintro ⟨others, rfl | hcons, h⟩
      · exact h
      · exact absurd hcons (hsign others)

/-- Digits of a number that is not below the limit are refused as too large. -/
theorem readDigits_eq_tooLarge {limit : Nat} {n : Fin limit} {cs : List Char}
    (hdigits : ∀ c ∈ cs, c.isDigit = true) (hlarge : limit ≤ Nat.ofDigitChars 10 cs n.val) :
    readDigits n cs = .error .tooLarge := by
  induction cs generalizing n with
  | nil => exact absurd n.isLt (Nat.not_lt.mpr hlarge)
  | cons c cs ih =>
    obtain ⟨hc, hcs⟩ := List.forall_mem_cons.mp hdigits
    rw [Nat.ofDigitChars_cons, Nat.mul_comm 10] at hlarge
    rw [readDigits, digit?_eq_some_iff.mpr ⟨hc, rfl⟩]
    dsimp only
    split
    · exact ih hcs hlarge
    · rfl

/-- **A numeral is refused as too large if its number is not below the limit**: nothing wraps around. -/
theorem readNumeral_eq_tooLarge {limit : Nat} {pos : 0 < limit} {n : Nat} {cs : List Char} (h : Denotes cs n)
    (hlarge : limit ≤ n) : readNumeral limit pos cs = .error .tooLarge := by
  obtain ⟨digits, hcs, hdigits⟩ := h
  have hread : readDigits ⟨0, pos⟩ digits = .error .tooLarge :=
    readDigits_eq_tooLarge hdigits.isDigit (hdigits.value.symm ▸ hlarge)
  unfold readNumeral
  split
  · rcases hcs with rfl | hcons
    · exact absurd rfl hdigits.ne_nil
    · cases hcons
  · rcases hcs with rfl | hcons
    · exact absurd hdigits not_decimal_plus
    · cases hcons
      exact absurd rfl hdigits.ne_nil
  · rcases hcs with rfl | hcons
    · exact absurd hdigits not_decimal_plus
    · cases hcons
      exact hread
  · rename_i hsign
    rcases hcs with rfl | hcons
    · exact hread
    · exact absurd hcons (hsign digits)

/-- **Digits continue what was read before them**, unless that was nothing yet. -/
theorem toDigits_of_readDigits {limit : Nat} {n m : Fin limit} {cs : List Char} (hn : 0 < n.val)
    (h : readDigits n cs = .ok m) : Nat.toDigits 10 m.val = Nat.toDigits 10 n.val ++ cs := by
  induction cs generalizing n with
  | nil =>
    obtain rfl := Except.ok.inj h
    exact (List.append_nil _).symm
  | cons c cs ih =>
    simp only [readDigits] at h
    split at h
    · cases h
    · rename_i k hdigit
      split at h
      · obtain ⟨hk, rfl⟩ := digitChar_of_digit? hdigit
        have hnext : Nat.toDigits 10 (n.val * 10 + k) = Nat.toDigits 10 n.val ++ [Nat.digitChar k] := by
          rw [Nat.mul_comm, ← Nat.toDigits_append_toDigits (by decide) hn hk, Nat.toDigits_of_lt_base hk]
        have hrest := ih (Nat.lt_of_lt_of_le (Nat.mul_pos hn (by decide)) (Nat.le_add_right _ k)) h
        rw [hrest, hnext, List.append_assoc, List.singleton_append]
      · cases h

/-! ## Decimal forms -/

theorem head?_toDigits {n : Nat} (hn : 0 < n) : (Nat.toDigits 10 n).head? ≠ some '0' := by
  -- From the last digit: what is in front of it is the decimal form of a tenth of the number.
  induction n using Nat.strongRecOn with
  | ind n ih =>
    rw [Nat.toDigits_eq_if (by decide)]
    split
    · rename_i hlt
      rw [List.head?_cons, ne_eq, Option.some.injEq, Nat.digitChar_eq_zero]
      exact Nat.ne_of_gt hn
    · rename_i hge
      have htenth : 0 < n / 10 := Nat.div_pos (Nat.le_of_not_lt hge) (by decide)
      have htail := ih (n / 10) (Nat.div_lt_self hn (by decide)) htenth
      rw [List.head?_append]
      cases hfirst : (Nat.toDigits 10 (n / 10)).head? with
      | none => exact absurd (List.head?_eq_none_iff.mp hfirst) Nat.toDigits_ne_nil
      | some c =>
        rw [hfirst] at htail
        exact htail

/-- The decimal form of a number denotes it. -/
theorem denotes_toDigits (n : Nat) : Denotes (Nat.toDigits 10 n) n :=
  Decimal.denotes ⟨Nat.toDigits_ne_nil, fun _ hc => Nat.isDigit_of_mem_toDigits (by decide) (by decide) hc,
    Nat.ofDigitChars_toDigits (by decide) (by decide)⟩

theorem canonical_toDigits (n : Nat) : Canonical (Nat.toDigits 10 n) := by
  constructor
  · intro hplus
    have hdigit := Nat.isDigit_of_mem_toDigits (by decide) (by decide) (List.mem_of_mem_head? hplus)
    exact absurd hdigit (by decide)
  · intro hzero
    rcases Nat.eq_zero_or_pos n with rfl | hn
    · exact Nat.toDigits_zero 10
    · exact absurd hzero (head?_toDigits hn)

/-- A numeral with nothing in front of it is the decimal form of its number. -/
theorem toDigits_of_readNumeral {limit : Nat} {pos : 0 < limit} {n : Fin limit} {cs : List Char}
    (hcanonical : Canonical cs) (h : readNumeral limit pos cs = .ok n) :
    cs = Nat.toDigits 10 n.val := by
  obtain ⟨hplus, hzero⟩ := hcanonical
  cases cs with
  | nil => cases h
  | cons c cs =>
    have hsign : c ≠ '+' := fun hc => hplus (congrArg some hc)
    have hread : readDigits ⟨0, pos⟩ (c :: cs) = .ok n := by
      unfold readNumeral at h
      split at h
      · cases h
      · rename_i heq
        exact absurd (List.cons.inj heq).1 hsign
      · rename_i heq
        exact absurd (List.cons.inj heq).1 hsign
      · exact h
    simp only [readDigits] at hread
    split at hread
    · cases hread
    · rename_i k hdigit
      split at hread
      · obtain ⟨hk, hc⟩ := digitChar_of_digit? hdigit
        have hfirst : Nat.toDigits 10 (0 * 10 + k) = [c] := by
          rw [Nat.zero_mul, Nat.zero_add, Nat.toDigits_of_lt_base hk, hc]
        rcases Nat.eq_zero_or_pos k with rfl | hpos
        · -- A zero stands alone.
          obtain ⟨-, rfl⟩ := List.cons.inj (hzero (congrArg some hc.symm))
          obtain rfl := Except.ok.inj hread
          exact hfirst.symm
        · have hdigits := toDigits_of_readDigits (by simpa using hpos) hread
          rw [hdigits]
          show c :: cs = Nat.toDigits 10 (0 * 10 + k) ++ cs
          rw [hfirst, List.singleton_append]
      · cases hread

/-- **A numeral is the decimal form of its number just if there is nothing in front of it.** -/
theorem eq_toDigits_iff_canonical {limit : Nat} {pos : 0 < limit} {n : Fin limit} {cs : List Char}
    (h : readNumeral limit pos cs = .ok n) : cs = Nat.toDigits 10 n.val ↔ Canonical cs := by
  constructor
  · rintro rfl
    exact canonical_toDigits n.val
  · exact fun hcanonical => toDigits_of_readNumeral hcanonical h

end ChainProvision.Text
