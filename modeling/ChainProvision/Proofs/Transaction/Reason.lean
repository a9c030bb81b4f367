import ChainProvision.Proofs.Text.Characters
import ChainProvision.Proofs.Text.Search
import ChainProvision.Transaction.Failure
import Mathlib.Data.List.TakeWhile

/-!
# What is left of a revert reason

A bare reason is told in full.  A quoted one is told up to its first apostrophe, which is taken for the closing
quote: so it is told in full just if there is none in it.

## Main definitions

- `RevertReason.Unmarked`: a text in which no reason is announced.
- `RevertReason.IsReason`: a reason in one line, with nothing around it that is taken off.

## Main statements

- `RevertReason.shorten_bare`: what is told of a bare reason.
- `RevertReason.shorten_quoted`: what is told of a quoted reason.
- `RevertReason.reason_told_unless_apostrophe_quoted`: which reasons are told in full.
-/

namespace ChainProvision.RevertReason

open Text (isBlank strip)

variable {before reason : List Char}

/-- No reason and no custom error is announced in a text. -/
def Unmarked (cs : List Char) : Prop :=
  ∀ marker ∈ [reasonMarker, customMarker, executionMarker], ¬ marker <:+: cs

instance (cs : List Char) : Decidable (Unmarked cs) := inferInstanceAs (Decidable (∀ marker ∈ _, _))

/-- A text is the name of a custom error with its arguments. -/
def IsCustomError (cs : List Char) : Prop :=
  ∃ c name arguments, cs = c :: name ++ '(' :: arguments ++ [')'] ∧ c.isUpper = true ∧
    ∀ d ∈ c :: name, d.isAlphanum = true

/-- A reason in one line: nothing is taken off at its ends, it announces nothing, and it is no custom error. -/
structure IsReason (cs : List Char) : Prop where
  ne_nil : cs ≠ []
  oneLine : '\n' ∉ cs
  head : ∀ c ∈ cs.head?, isBlank c = false ∧ c ≠ '"'
  last : ∀ c ∈ cs.getLast?, isBlank c = false ∧ c ≠ '"'
  unmarked : Unmarked cs
  not_customError : ¬ IsCustomError cs

/-! ## Markers -/

private theorem unbordered_reasonMarker : Text.Unbordered reasonMarker := by decide +kernel

private theorem unbordered_executionMarker : Text.Unbordered executionMarker := by decide +kernel

private theorem head?_reasonMarker : reasonMarker.head? = some 'r' := by decide +kernel

private theorem head?_executionMarker : executionMarker.head? = some 'e' := by decide +kernel

private theorem apart_executionMarker {marker : List Char} (h : marker ∈ [reasonMarker, customMarker]) :
    Text.Apart marker executionMarker := by
  simp only [List.mem_cons, List.not_mem_nil, or_false] at h
  rcases h with rfl | rfl
  · exact ⟨by decide +kernel, by decide +kernel, by decide +kernel, by decide +kernel⟩
  · exact ⟨by decide +kernel, by decide +kernel, by decide +kernel, by decide +kernel⟩

private theorem Unmarked.dropWhile (h : Unmarked before) (p : Char → Bool) : Unmarked (before.dropWhile p) :=
  fun marker hmarker hinside => h marker hmarker (hinside.trans (List.dropWhile_suffix p).isInfix)

/-! ## Names of custom errors -/

theorem isCustomError_of_customName? {cs name : List Char} (h : customName? cs = some name) :
    IsCustomError cs := by
  unfold customName? at h
  split at h
  · rename_i before rest hsplit
    split at h
    · cases h
    · rename_i c name
      obtain ⟨hname, -⟩ := Option.ite_none_right_eq_some.mp h
      simp only [Bool.and_eq_true, List.all_eq_true, beq_iff_eq] at hname
      obtain ⟨⟨hupper, halnum⟩, hlast⟩ := hname
      have hcs : cs = c :: name ++ '(' :: rest := Text.eq_of_splitFirst? hsplit
      -- The closing parenthesis is not the opening one.
      obtain rfl | ⟨arguments, d, rfl⟩ := List.eq_nil_or_concat rest
      · rw [hcs, List.getLast?_append_of_ne_nil _ (by simp)] at hlast
        cases hlast
      · have hd : d = ')' := by
          rw [hcs, List.concat_eq_append, ← List.cons_append, ← List.append_assoc, List.getLast?_concat] at hlast
          exact Option.some.inj hlast
        subst hd
        exact ⟨c, name, arguments, by simpa using hcs, hupper, halnum⟩
  · cases h

/-- **A name is read just of a custom error with its arguments.** -/
theorem customName?_eq_none_iff {cs : List Char} : customName? cs = none ↔ ¬ IsCustomError cs := by
  constructor
  · rintro hnone ⟨c, name, arguments, rfl, hupper, halnum⟩
    have hname : ¬ ['('] <:+: c :: name := by
      rw [List.singleton_infix_iff]
      intro hmem
      cases halnum '(' hmem
    have hsplit := Text.splitFirst?_append (by decide) hname (arguments ++ [')'])
    have hcs : c :: name ++ '(' :: arguments ++ [')'] = c :: name ++ (['('] ++ (arguments ++ [')'])) := by simp
    have hall : (c :: name).all Char.isAlphanum = true := List.all_eq_true.mpr halnum
    have hlast : (c :: name ++ (['('] ++ (arguments ++ [')']))).getLast? = some ')' := by
      rw [← hcs, List.getLast?_concat]
    rw [hcs, customName?, hsplit] at hnone
    simp only [hupper, hall, hlast] at hnone
    cases hnone
  · intro hno
    exact Option.eq_none_iff_forall_ne_some.mpr fun _ hname => hno (isCustomError_of_customName? hname)

private theorem nameOrSelf_eq_self {cs : List Char} (h : ¬ IsCustomError cs) : nameOrSelf cs = cs := by
  rw [nameOrSelf, customName?_eq_none_iff.mpr h]
  rfl

/-! ## Bare and quoted reasons -/

private theorem firstLine_eq_self {cs : List Char} (h : '\n' ∉ cs) : Text.firstLine cs = cs := by
  have hline : ∀ c ∈ cs, (decide (c ≠ '\n')) = true := fun c hc => by
    simpa using fun heq : c = '\n' => h (heq ▸ hc)
  have hspan : cs.span (· ≠ '\n') = (cs, []) := by
    rw [List.span_eq_takeWhile_dropWhile, List.takeWhile_eq_self_iff.mpr hline,
      List.dropWhile_eq_nil_iff.mpr hline]
  rw [Text.firstLine, hspan]

theorem shorten_bare (hbefore : Unmarked before) (hreason : IsReason reason) :
    shorten (before ++ (executionMarker ++ reason)) = reason := by
  have hstrip : strip (before ++ (executionMarker ++ reason)) =
      before.dropWhile isBlank ++ (executionMarker ++ reason) := by
    apply Text.stripBy_append_of_ends
    · exact List.append_ne_nil_of_right_ne_nil _ hreason.ne_nil
    · intro c hc
      rw [List.head?_append, head?_executionMarker] at hc
      obtain rfl : 'e' = c := Option.some.inj hc
      rfl
    · intro c hc
      rw [List.getLast?_append_of_ne_nil _ hreason.ne_nil] at hc
      exact (hreason.last c hc).1
  have hfront := hbefore.dropWhile isBlank
  -- The two quoted shapes are tried first, and do not match.
  have hnone : ∀ marker ∈ [reasonMarker, customMarker], Text.between? marker ['\'']
      (before.dropWhile isBlank ++ (executionMarker ++ reason)) = none := by
    intro marker hmarker
    have hmem : marker ∈ [reasonMarker, customMarker, executionMarker] := List.mem_append_left [_] hmarker
    have hno := (apart_executionMarker hmarker).not_infix_append (hfront marker hmem)
      (hreason.unmarked marker hmem)
    rw [Text.between?, Text.splitFirst?_eq_none_iff.mpr hno]
  have hfound := Text.splitFirst?_append unbordered_executionMarker (hfront _ (by simp)) reason
  -- Behind the marker only double quotes and spaces are taken off.
  have hself : Text.stripBy (fun c => c == '"' || c == ' ') reason = reason := by
    have hkept : ∀ {c : Char}, isBlank c = false ∧ c ≠ '"' → (c == '"' || c == ' ') = false := by
      rintro c ⟨hblank, hquote⟩
      have hspace : c ≠ ' ' := by
        rintro rfl
        cases hblank
      simp [hquote, hspace]
    exact Text.stripBy_append_of_ends [] hreason.ne_nil (fun c hc => hkept (hreason.head c hc))
      fun c hc => hkept (hreason.last c hc)
  unfold shorten
  simp only [hstrip, hnone reasonMarker (by simp), hnone customMarker (by simp), hfound,
    firstLine_eq_self hreason.oneLine, hself, nameOrSelf_eq_self hreason.not_customError]

theorem shorten_quoted (hbefore : Unmarked before) (reason : List Char) :
    shorten (before ++ (reasonMarker ++ (reason ++ ['\'']))) = reason.takeWhile (· ≠ '\'') := by
  have hstrip : strip (before ++ (reasonMarker ++ (reason ++ ['\'']))) =
      before.dropWhile isBlank ++ (reasonMarker ++ (reason ++ ['\''])) := by
    apply Text.stripBy_append_of_ends
    · simp
    · intro c hc
      rw [List.head?_append, head?_reasonMarker] at hc
      obtain rfl : 'r' = c := Option.some.inj hc
      rfl
    · intro c hc
      rw [← List.append_assoc, List.getLast?_concat] at hc
      obtain rfl : '\'' = c := Option.some.inj hc
      rfl
  have hfound := Text.splitFirst?_append unbordered_reasonMarker
    (hbefore.dropWhile isBlank _ (by simp)) (reason ++ ['\''])
  unfold shorten
  simp only [hstrip, Text.between?, hfound, Text.splitFirst?_singleton]

/-- **A bare reason is told in full, a quoted one up to its first apostrophe**: in full just if it has none.
What stands in front does not matter as long as it announces no reason itself. -/
theorem reason_told_unless_apostrophe_quoted {before reason : String} (hbefore : Unmarked before.toList)
    (hreason : IsReason reason.toList) :
    short (before ++ "execution reverted: " ++ reason) = reason ∧
      short (before ++ "reverted with reason string '" ++ reason ++ "'") =
        String.ofList (reason.toList.takeWhile (· ≠ '\'')) ∧
      (short (before ++ "reverted with reason string '" ++ reason ++ "'") = reason ↔
        '\'' ∉ reason.toList) := by
  have hbare : short (before ++ "execution reverted: " ++ reason) = reason := by
    have hlist : (before ++ "execution reverted: " ++ reason).toList =
        before.toList ++ (executionMarker ++ reason.toList) := by
      rw [String.toList_append, String.toList_append, List.append_assoc]
      unfold executionMarker
      rfl
    rw [short, hlist, shorten_bare hbefore hreason, String.ofList_toList]
  have hquoted : short (before ++ "reverted with reason string '" ++ reason ++ "'") =
      String.ofList (reason.toList.takeWhile (· ≠ '\'')) := by
    have hlist : (before ++ "reverted with reason string '" ++ reason ++ "'").toList =
        before.toList ++ (reasonMarker ++ (reason.toList ++ ['\''])) := by
      rw [String.toList_append, String.toList_append, String.toList_append, List.append_assoc, List.append_assoc]
      unfold reasonMarker
      rfl
    rw [short, hlist, shorten_quoted hbefore]
  refine ⟨hbare, hquoted, ?_⟩
  rw [hquoted, ← String.toList_inj, String.toList_ofList, List.takeWhile_eq_self_iff]
  simp only [ne_eq, decide_not, Bool.not_eq_true', decide_eq_false_iff_not]
  exact ⟨fun h hmem => h _ hmem rfl, fun h c hc heq => h (heq ▸ hc)⟩

private theorem isReason_cantPay : IsReason "can't pay (yet)".toList where
  ne_nil := by decide +kernel
  oneLine := by decide +kernel
  head := by
    have hhead : "can't pay (yet)".toList.head? = some 'c' := by decide +kernel
    rw [hhead]
    rintro c ⟨⟩
    decide
  last := by
    have hlast : "can't pay (yet)".toList.getLast? = some ')' := by decide +kernel
    rw [hlast]
    rintro c ⟨⟩
    decide
  unmarked := by decide +kernel
  not_customError := customName?_eq_none_iff.mp (by decide +kernel)

theorem reason_told_unless_apostrophe_quoted_cantPay :
    Unmarked "\nVM Exception: ".toList ∧ IsReason "can't pay (yet)".toList ∧
      short "\nVM Exception: execution reverted: can't pay (yet)" = "can't pay (yet)" ∧
      short "\nVM Exception: reverted with reason string 'can't pay (yet)'" = "can" := by
  have hbefore : Unmarked "\nVM Exception: ".toList := by decide +kernel
  obtain ⟨hbare, hquoted, -⟩ := reason_told_unless_apostrophe_quoted hbefore isReason_cantPay
  exact ⟨hbefore, isReason_cantPay, hbare, hquoted.trans (by decide +kernel)⟩

/-- An apostrophe in a quoted reason ends it: not every reason is told in full. -/
theorem quoted_reason_cut_at_apostrophe :
    short "reverted with reason string 'can't pay (yet)'" = "can" ∧
      ¬ ∀ before reason : String, Unmarked before.toList → IsReason reason.toList →
        short (before ++ "reverted with reason string '" ++ reason ++ "'") = reason := by
  have hshort : short "reverted with reason string 'can't pay (yet)'" = "can" := by decide +kernel
  refine ⟨hshort, fun hall => ?_⟩
  have hwhole : short "reverted with reason string 'can't pay (yet)'" = "can't pay (yet)" :=
    hall "" "can't pay (yet)" (by decide +kernel) isReason_cantPay
  rw [hshort] at hwhole
  exact absurd hwhole (by decide +kernel)

end ChainProvision.RevertReason
