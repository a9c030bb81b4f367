import ChainProvision.Text.Blank
import ChainProvision.Text.Numeral
import Mathlib.Data.List.TakeWhile

/-!
# Characters of texts

What holds of the characters of ASCII can be looked up in a table.  A text that holds no blank is left as it
is by trimming, and the decimal form of a number is such a text.

## Main statements

- `Text.of_table`: what holds for all numbers below 128 holds of the characters of ASCII.
- `Text.stripBy_append`: what stands between stripped characters is left.
- `Text.stripBy_eq_self`: a text is left as it is if nothing in it is stripped.
- `Text.stripBy_append_of_ends`: behind a text, what neither begins nor ends with a stripped character is left.
- `Text.trim_eq_empty_iff`: nothing is left by trimming just of a blank text.
- `Text.trim_numeral`: the decimal form of a number is left as it is by trimming.
-/

namespace ChainProvision.Text

/-! ## ASCII -/

/-- What holds for all numbers below 128 holds of the characters of ASCII. -/
@[elab_as_elim]
theorem of_table {motive : Char → Prop} (c : Char) (hascii : c.toNat < 128)
    (table : ∀ n : Fin 128, motive (Char.ofNat n.val)) : motive c := by
  have hc := table ⟨c.toNat, hascii⟩
  rw [Char.ofNat_toNat] at hc
  exact hc

theorem ascii_of_isLower {c : Char} (h : c.isLower = true) : c.toNat < 128 := by
  have hletter : (c.val ≥ 'a'.val && c.val ≤ 'z'.val) = true := h
  simp only [Bool.and_eq_true, decide_eq_true_eq, UInt32.le_iff_toNat_le] at hletter
  exact Nat.lt_of_le_of_lt hletter.2 (by decide)

theorem ascii_of_isDigit {c : Char} (h : c.isDigit = true) : c.toNat < 128 := by
  have hdigit : (c.val ≥ '0'.val && c.val ≤ '9'.val) = true := h
  simp only [Bool.and_eq_true, decide_eq_true_eq, UInt32.le_iff_toNat_le] at hdigit
  exact Nat.lt_of_le_of_lt hdigit.2 (by decide)

/-- Beyond ASCII a character has no other case. -/
theorem toLower_eq_self {c : Char} (h : ¬ c.toNat < 128) : c.toLower = c := by
  have hupper : ¬ (c.val ≥ 'A'.val ∧ c.val ≤ 'Z'.val) := by
    rintro ⟨-, hle⟩
    rw [UInt32.le_iff_toNat_le] at hle
    exact h (Nat.lt_of_le_of_lt hle (by decide))
  exact dif_neg hupper

/-! ## Blanks -/

/-- What stands between characters that are stripped is left. -/
theorem stripBy_append {p : Char → Bool} {before cs after : List Char} (hbefore : ∀ c ∈ before, p c = true)
    (h : ∀ c ∈ cs, p c = false) (hafter : ∀ c ∈ after, p c = true) :
    stripBy p (before ++ (cs ++ after)) = cs := by
  have hdrop : ∀ {cs : List Char}, (∀ c ∈ cs, p c = false) → cs.dropWhile p = cs := by
    intro cs h
    cases cs with
    | nil => rfl
    | cons c cs => simp [h c List.mem_cons_self]
  unfold stripBy
  rw [List.dropWhile_append_of_pos hbefore]
  cases cs with
  | nil =>
    have hnil : after.dropWhile p = [] := by
      rw [← List.append_nil after, List.dropWhile_append_of_pos hafter, List.dropWhile_nil]
    rw [List.nil_append, hnil]
    rfl
  | cons c cs =>
    rw [List.cons_append, List.dropWhile_cons_of_neg (by simp [h c List.mem_cons_self]), ← List.cons_append,
      List.reverse_append, List.dropWhile_append_of_pos fun c hc => hafter c (List.mem_reverse.mp hc),
      hdrop fun c hc => h c (List.mem_reverse.mp hc), List.reverse_reverse]

theorem stripBy_eq_self {p : Char → Bool} {cs : List Char} (h : ∀ c ∈ cs, p c = false) :
    stripBy p cs = cs := by
  have hstrip := @stripBy_append p [] cs [] (by simp) h (by simp)
  rwa [List.append_nil, List.nil_append] at hstrip

/-- Nothing is stripped of what neither begins nor ends with a character that is stripped. -/
theorem stripBy_append_of_ends {p : Char → Bool} {cs : List Char} (before : List Char) (hne : cs ≠ [])
    (hhead : ∀ c ∈ cs.head?, p c = false) (hlast : ∀ c ∈ cs.getLast?, p c = false) :
    stripBy p (before ++ cs) = before.dropWhile p ++ cs := by
  have hfront : (before ++ cs).dropWhile p = before.dropWhile p ++ cs := by
    cases cs with
    | nil => exact absurd rfl hne
    | cons c cs =>
      rw [List.dropWhile_append]
      split
      · rename_i hempty
        rw [List.isEmpty_iff.mp hempty, List.dropWhile_cons_of_neg (by simp [hhead c rfl]), List.nil_append]
      · rfl
  unfold stripBy
  rw [hfront]
  obtain rfl | ⟨cs, c, rfl⟩ := List.eq_nil_or_concat cs
  · exact absurd rfl hne
  · have hc : p c = false := hlast c (by simp)
    simp [hc]

theorem trim_eq_empty_iff {s : String} : trim s = "" ↔ isBlankText s = true := by
  have hall : ∀ cs : List Char, cs.dropWhile isBlank = [] ↔ ∀ c ∈ cs, isBlank c = true := fun cs =>
    List.dropWhile_eq_nil_iff
  rw [trim, String.ofList_eq_empty_iff, isBlankText, List.all_eq_true, strip, stripBy,
    List.reverse_eq_nil_iff, hall]
  constructor
  · intro hrest c hc
    rw [← List.takeWhile_append_dropWhile (p := isBlank) (l := s.toList)] at hc
    rcases List.mem_append.mp hc with hfront | hback
    · exact List.mem_takeWhile_imp hfront
    · exact hrest c (List.mem_reverse.mpr hback)
  · intro hblank c hc
    exact hblank c ((List.dropWhile_suffix _).subset (List.mem_reverse.mp hc))

theorem isBlank_eq_false_of_isDigit {c : Char} (h : c.isDigit = true) : isBlank c = false := by
  have hrange : 48 ≤ c.toNat ∧ c.toNat ≤ 57 := by
    simpa [Char.isDigit, UInt32.le_iff_toNat_le] using h
  simp only [isBlank, Bool.or_eq_false_iff, Bool.and_eq_false_iff, decide_eq_false_iff_not,
    beq_eq_false_iff_ne]
  omega

theorem trim_numeral (n : Nat) : trim (numeral n) = numeral n := by
  have hdigits : ∀ c ∈ Nat.toDigits 10 n, isBlank c = false := fun c hc =>
    isBlank_eq_false_of_isDigit (Nat.isDigit_of_mem_toDigits (by decide) (by decide) hc)
  unfold trim numeral strip
  rw [String.toList_ofList, stripBy_eq_self hdigits]

end ChainProvision.Text
