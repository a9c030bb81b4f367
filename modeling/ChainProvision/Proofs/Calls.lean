/-!
# Lists of calls

Calls are kept in the order in which they were made: one is added at the end, and one is changed in
its place.
-/

namespace ChainProvision

namespace Calls

variable {α : Type} {calls : List α} {c x : α} {i j : Nat}

theorem lt_of_get (h : calls[i]? = some x) : i < calls.length := (List.getElem?_eq_some_iff.mp h).1

/-- A call stays where it is when another one is added. -/
theorem get_concat (h : calls[i]? = some x) (c : α) : (calls ++ [c])[i]? = some x := by
  rw [List.getElem?_append_left (lt_of_get h)]
  exact h

/-- After one was added, a call is an earlier one or that one. -/
theorem get_of_concat (h : (calls ++ [c])[i]? = some x) :
    calls[i]? = some x ∨ i = calls.length ∧ c = x := by
  -- Before the new call, at it, or past the end.
  rcases Nat.lt_trichotomy i calls.length with hlt | rfl | hgt
  · rw [List.getElem?_append_left hlt] at h
    exact Or.inl h
  · rw [List.getElem?_concat_length] at h
    exact Or.inr ⟨rfl, Option.some.inj h⟩
  · rw [List.getElem?_eq_none (by simpa using Nat.succ_le_of_lt hgt)] at h
    cases h

/-- After one was changed, a call is another one or that one. -/
theorem get_of_set (h : (calls.set j c)[i]? = some x) :
    calls[i]? = some x ∧ i ≠ j ∨ i = j ∧ c = x := by
  by_cases hij : i = j
  · subst hij
    rw [List.getElem?_set_self (by simpa using lt_of_get h)] at h
    exact Or.inr ⟨rfl, Option.some.inj h⟩
  · rw [List.getElem?_set_ne (Ne.symm hij)] at h
    exact Or.inl ⟨h, hij⟩

/-- Nothing changes if a call is put where it is. -/
theorem set_get (h : calls[i]? = some x) : calls.set i x = calls := by
  obtain ⟨hlt, rfl⟩ := List.getElem?_eq_some_iff.mp h
  exact List.set_getElem_self hlt

end Calls

end ChainProvision
