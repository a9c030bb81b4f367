/-!
# Observed values

A value that others watch.  They see only the latest value, together with a version that grows with each
announcement; a watcher that remembers the version it has seen learns of every change, but may miss
values in between.  A change can be announced or, by `edit`, made quietly.
-/

namespace ChainProvision

/-- A value with the number of its announcements. -/
structure Observed (α : Type) where
  value : α
  version : Nat := 0
  deriving DecidableEq

namespace Observed

variable {α : Type}

/-- Put a new value and announce it, even if it equals the old one. -/
def set (o : Observed α) (a : α) : Observed α := ⟨a, o.version + 1⟩

/-- Change the value and announce it. -/
def modify (o : Observed α) (f : α → α) : Observed α := o.set (f o.value)

/-- Change the value, and announce it if the change says so. -/
def edit (o : Observed α) (f : α → α × Bool) : Observed α :=
  let (a, announced) := f o.value
  if announced then o.set a else ⟨a, o.version⟩

@[simp] theorem value_set (o : Observed α) (a : α) : (o.set a).value = a := rfl

@[simp] theorem value_modify (o : Observed α) (f : α → α) : (o.modify f).value = f o.value := rfl

@[simp] theorem value_edit (o : Observed α) (f : α → α × Bool) : (o.edit f).value = (f o.value).1 := by
  unfold edit
  split
  rename_i a announced hf
  cases announced <;> simp [hf, set]

end Observed

end ChainProvision
