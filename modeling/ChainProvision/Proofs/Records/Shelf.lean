import ChainProvision.Records.Shelf
import Mathlib.Data.Finmap

/-!
# What is on the shelf after a change

## Main definitions

- `Shelf.contents`: the records as a finite map.

## Main statements

- `Shelf.get?_upsert`, `Shelf.get?_upsert_of_ne`: a record is found under its key, and nothing else
  changes.
- `Shelf.updateStatus_of_get?`: a record that is there can be patched.
- `Shelf.get?_updateStatus_of_ne`: a patch leaves every other record alone.
- `Shelf.contents_upsert`, `Shelf.contents_updateStatus`: how the map changes.
- `Shelf.size_eq`: the shelf counts the records of the map.
-/

namespace ChainProvision

namespace Shelf

@[simp] theorem lookup_put_self (key : String) (r : Record) (rs : List (String × Record)) :
    (put key r rs).lookup key = some r := by
  induction rs with
  | nil => simp [put]
  | cons p rest ih =>
    obtain ⟨k, old⟩ := p
    unfold put
    by_cases hk : k = key
    · simp [hk]
    · have hne : (key == k) = false := by simpa using Ne.symm hk
      rw [if_neg hk, List.lookup_cons, hne]
      exact ih

theorem lookup_put_of_ne {key key' : String} (h : key' ≠ key) (r : Record)
    (rs : List (String × Record)) : (put key r rs).lookup key' = rs.lookup key' := by
  induction rs with
  | nil => simp [put, h]
  | cons p rest ih =>
    obtain ⟨k, old⟩ := p
    unfold put
    by_cases hk : k = key
    · have hne : (key' == k) = false := by simpa [hk] using h
      rw [if_pos hk, List.lookup_cons, List.lookup_cons, hne]
    · rw [if_neg hk, List.lookup_cons, List.lookup_cons, ih]

@[simp] theorem get?_upsert (s : Shelf) (r : Record) : (s.upsert r).get? r.key = some r :=
  lookup_put_self r.key r s.records

theorem get?_upsert_of_ne {r : Record} {key : String} (h : key ≠ r.key) (s : Shelf) :
    (s.upsert r).get? key = s.get? key :=
  lookup_put_of_ne h r s.records

/-- A record that is there can be patched, and nothing else changes. -/
theorem updateStatus_of_get? {s : Shelf} {key : String} {r : Record} (h : s.get? key = some r)
    (status : ResourceStatus) (patch : Patch) (now : Instant) :
    ∃ s', s.updateStatus key status patch now = .ok s' ∧ s'.upserts = s.upserts ∧
      s'.get? key = some (r.apply status patch now) ∧
      ∀ key', key' ≠ key → s'.get? key' = s.get? key' := by
  refine ⟨s.file key (r.apply status patch now), ?_, rfl, ?_, ?_⟩
  · simp [updateStatus, h]
  · exact lookup_put_self key _ s.records
  · intro key' hne
    exact lookup_put_of_ne hne _ s.records

theorem get?_updateStatus_of_ne {s s' : Shelf} {key key' : String} {status : ResourceStatus}
    {patch : Patch} {now : Instant} (h : s.updateStatus key status patch now = .ok s') (hne : key' ≠ key) :
    s'.get? key' = s.get? key' := by
  unfold updateStatus at h
  split at h
  · obtain rfl := Except.ok.inj h
    exact lookup_put_of_ne hne _ s.records
  · cases h

/-! ## The shelf as a map -/

variable {s : Shelf} {key : String} {r : Record}

/-- The records by their keys. -/
def contents (s : Shelf) : Finmap fun _ : String => Record :=
  (s.records.map fun p => ⟨p.1, p.2⟩).toFinmap

private theorem dlookup_records (key : String) (rs : List (String × Record)) :
    (rs.map fun p => (⟨p.1, p.2⟩ : (_ : String) × Record)).dlookup key = rs.lookup key := by
  induction rs with
  | nil => rfl
  | cons p rest ih =>
    obtain ⟨k, r⟩ := p
    by_cases hk : key = k
    · subst hk
      simp
    · have hne : (key == k) = false := beq_eq_false_iff_ne.mpr hk
      rw [List.map_cons, List.dlookup_cons_ne _ _ hk, List.lookup_cons, hne, ih]

@[simp] theorem lookup_contents (s : Shelf) (key : String) : s.contents.lookup key = s.get? key := by
  rw [contents, Finmap.dlookup_list_toFinmap, dlookup_records, get?]

private theorem contents_file (s : Shelf) (key : String) (r : Record) :
    (s.file key r).contents = s.contents.insert key r := by
  apply Finmap.ext_lookup
  intro key'
  rw [lookup_contents, get?, file]
  by_cases hk : key' = key
  · rw [hk, lookup_put_self, Finmap.lookup_insert]
  · rw [lookup_put_of_ne hk, Finmap.lookup_insert_of_ne _ hk, lookup_contents, get?]

theorem contents_upsert (s : Shelf) (r : Record) : (s.upsert r).contents = s.contents.insert r.key r :=
  contents_file s r.key r

theorem updateStatus_of_absent (h : s.get? key = none) (status : ResourceStatus) (patch : Patch) (now : Instant) :
    s.updateStatus key status patch now = .error (.notFound key) := by
  simp [updateStatus, h]

/-- A record that is there is patched in the map. -/
theorem contents_updateStatus (h : s.get? key = some r) (status : ResourceStatus) (patch : Patch) (now : Instant) :
    ∃ s', s.updateStatus key status patch now = .ok s' ∧
      s'.contents = s.contents.insert key (r.apply status patch now) ∧ s'.upserts = s.upserts :=
  ⟨_, by simp [updateStatus, h], contents_file s key _, rfl⟩

/-- The records that are counted are those of the map. -/
theorem size_eq (s : Shelf) : s.size = s.contents.keys.card := by
  have hkeys : s.contents.keys = (s.records.map Prod.fst).toFinset := by
    ext key
    rw [Finmap.mem_keys, contents, Finmap.mem_list_toFinmap, List.mem_toFinset]
    simp
  rw [hkeys, List.toFinset_card_of_nodup s.distinct, List.length_map, size]

end Shelf

end ChainProvision
