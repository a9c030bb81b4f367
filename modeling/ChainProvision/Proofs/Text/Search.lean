import ChainProvision.Text.Search
import Mathlib.Data.List.Infix

/-!
# Finding a phrase in a text

A phrase is found just if it is in the text, and where it stands behind a text without it, it is found there:
unless it overlaps itself, it cannot begin any earlier.

## Main definitions

- `Text.Unbordered`: no beginning of a phrase, short of the whole, is also an end of it.
- `Text.Apart`: two phrases neither contain nor overlap one another.

## Main statements

- `Text.splitFirst?_eq_none_iff`: a phrase is not found just if it is not in the text.
- `Text.splitFirst?_append`: a phrase is found where it was put.
- `Text.Apart.not_infix_append`: putting a phrase between two texts brings in no phrase apart from it.
-/

namespace ChainProvision.Text

variable {phrase other text before rest : List Char}

/-! ## The start of a text -/

theorem afterStart?_eq_some_iff : afterStart? phrase text = some rest ↔ text = phrase ++ rest := by
  induction phrase generalizing text with
  | nil => simp [afterStart?]
  | cons p phrase ih =>
    cases text with
    | nil => simp [afterStart?]
    | cons c text =>
      by_cases hpc : p = c
      · subst hpc
        rw [afterStart?, if_pos rfl, ih, List.cons_append, List.cons.injEq, eq_self, true_and]
      · rw [afterStart?, if_neg hpc, List.cons_append, List.cons.injEq]
        exact iff_of_false nofun fun h => hpc h.1.symm

theorem afterStart?_eq_none_iff : afterStart? phrase text = none ↔ ¬ phrase <+: text := by
  rw [Option.eq_none_iff_forall_ne_some]
  constructor
  · rintro hnone ⟨rest, rfl⟩
    exact hnone rest (afterStart?_eq_some_iff.mpr rfl)
  · intro hno rest hsome
    exact hno ⟨rest, (afterStart?_eq_some_iff.mp hsome).symm⟩

/-! ## The first occurrence -/

theorem splitFirst?_of_afterStart? (h : afterStart? phrase text = some rest) :
    splitFirst? phrase text = some ([], rest) := by
  cases text <;> simp [splitFirst?, h]

theorem eq_of_splitFirst? (h : splitFirst? phrase text = some (before, rest)) :
    text = before ++ (phrase ++ rest) := by
  induction text generalizing before with
  | nil =>
    obtain ⟨rest, hstart, hparts⟩ := Option.map_eq_some_iff.mp h
    cases hparts
    rw [List.nil_append, afterStart?_eq_some_iff.mp hstart]
  | cons c text ih =>
    rw [splitFirst?] at h
    split at h
    · rename_i rest hstart
      cases h
      rw [List.nil_append, afterStart?_eq_some_iff.mp hstart]
    · obtain ⟨⟨before, rest⟩, hlater, hparts⟩ := Option.map_eq_some_iff.mp h
      cases hparts
      rw [ih hlater, List.cons_append]

theorem splitFirst?_eq_none_iff : splitFirst? phrase text = none ↔ ¬ phrase <:+: text := by
  induction text with
  | nil => rw [splitFirst?, Option.map_eq_none_iff, afterStart?_eq_none_iff, List.prefix_nil, List.infix_nil]
  | cons c text ih =>
    rw [splitFirst?, List.infix_cons_iff, not_or, ← ih, ← afterStart?_eq_none_iff]
    split
    · rename_i rest hstart
      simp [hstart]
    · rename_i hstart
      simp [hstart]

/-- A character is found behind what comes before it. -/
theorem splitFirst?_singleton (c : Char) (cs : List Char) :
    (splitFirst? [c] (cs ++ [c])).map Prod.fst = some (cs.takeWhile (· ≠ c)) := by
  induction cs with
  | nil => simp [splitFirst?, afterStart?]
  | cons d cs ih =>
    by_cases hcd : c = d
    · simp [splitFirst?, afterStart?, hcd]
    · obtain ⟨parts, hparts, hfst⟩ := Option.map_eq_some_iff.mp ih
      simp [splitFirst?, afterStart?, hcd, Ne.symm hcd, hparts, hfst]

/-! ## Phrases behind a text -/

/-- No beginning of a phrase, short of the whole, is also an end of it. -/
def Unbordered (phrase : List Char) : Prop := ∀ s ∈ phrase.tails, s <+: phrase → s = [] ∨ s = phrase

instance (phrase : List Char) : Decidable (Unbordered phrase) := inferInstanceAs (Decidable (∀ s ∈ _, _))

/-- Where a phrase stands behind a text without it, it begins no earlier. -/
private theorem not_prefix_append (hborder : Unbordered phrase) (hbefore : ¬ phrase <:+: before)
    (hne : before ≠ []) (rest : List Char) : ¬ phrase <+: before ++ (phrase ++ rest) := by
  intro hprefix
  rcases List.prefix_or_prefix_of_prefix hprefix (List.prefix_append before _) with hinside | hover
  · exact hbefore hinside.isInfix
  · -- The phrase goes on with `s`, with which it would begin as well.
    obtain ⟨s, rfl⟩ := hover
    have hbegins : s <+: before ++ s := by
      have hlater := (List.prefix_append_right_inj before).mp hprefix
      exact List.prefix_of_prefix_length_le hlater (List.prefix_append _ rest) (by simp)
    rcases hborder s ((List.mem_tails _ _).mpr (List.suffix_append before s)) hbegins with rfl | hwhole
    · exact hbefore (by simp)
    · exact hne (by simpa using hwhole)

/-- **A phrase is found where it was put**, behind a text without it. -/
theorem splitFirst?_append (hborder : Unbordered phrase) (hbefore : ¬ phrase <:+: before) (rest : List Char) :
    splitFirst? phrase (before ++ (phrase ++ rest)) = some (before, rest) := by
  induction before with
  | nil => exact splitFirst?_of_afterStart? (afterStart?_eq_some_iff.mpr rfl)
  | cons c before ih =>
    have hlater : ¬ phrase <:+: before := fun h => hbefore (List.infix_cons h)
    have hhere := afterStart?_eq_none_iff.mpr (not_prefix_append hborder hbefore (by simp) rest)
    rw [List.cons_append] at hhere
    rw [List.cons_append, splitFirst?, hhere]
    dsimp only
    rw [ih hlater]
    rfl

/-- Two phrases neither contain nor overlap one another. -/
structure Apart (phrase other : List Char) : Prop where
  not_infix : ¬ phrase <:+: other
  not_contains : ¬ other <:+: phrase
  not_before : ∀ s ∈ phrase.tails, s <+: other → s = []
  not_behind : ∀ s ∈ other.tails, s <+: phrase → s = []

/-- **No other phrase comes in** where a phrase apart from it is put between two texts. -/
theorem Apart.not_infix_append (h : Apart phrase other) (hbefore : ¬ phrase <:+: before)
    (hrest : ¬ phrase <:+: rest) : ¬ phrase <:+: before ++ (other ++ rest) := by
  have hbehind : ¬ phrase <:+: other ++ rest := by
    rw [List.infix_append_iff]
    rintro (hinside | hinside | ⟨s, t, rfl, hs, ht⟩)
    · exact h.not_infix hinside
    · exact hrest hinside
    · obtain rfl := h.not_behind s ((List.mem_tails _ _).mpr hs) (List.prefix_append s t)
      exact hrest ht.isInfix
  rw [List.infix_append_iff]
  rintro (hinside | hinside | ⟨s, t, rfl, hs, ht⟩)
  · exact hbefore hinside
  · exact hbehind hinside
  · have hend : t <:+ s ++ t := List.suffix_append s t
    rcases List.prefix_or_prefix_of_prefix ht (List.prefix_append other rest) with hshort | hlong
    · obtain rfl := h.not_before t ((List.mem_tails _ _).mpr hend) hshort
      exact hbefore (by simpa using hs.isInfix)
    · exact h.not_contains (hlong.isInfix.trans hend.isInfix)

end ChainProvision.Text
