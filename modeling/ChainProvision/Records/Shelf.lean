import ChainProvision.Records.Resource

/-!
# The shelf of resource records

Records are kept by key.  A record comes in by `upsert`, which replaces the one under its key, and is
changed by `updateStatus`, which needs one to be there.
-/

namespace ChainProvision

/-- Why a store did not do what it was asked. -/
inductive StoreError where
  | notFound (key : String)
  | backend (message : String)
  deriving DecidableEq, Repr

/-- The wording of a store's failure. -/
def StoreError.message : StoreError → String
  | .notFound key => "no record for key: " ++ key
  | .backend m => "storage backend error: " ++ m

/-- The name of a failure, which stays the same whatever its wording. -/
def StoreError.name : StoreError → String
  | .notFound _ => "NotFound"
  | .backend _ => "Backend"

/-- Resource records by key, each key once, with the number of upserts made. -/
structure Shelf where
  records : List (String × Record)
  upserts : Nat
  distinct : (records.map Prod.fst).Nodup
  deriving DecidableEq

namespace Shelf

/-- A shelf without records. -/
def empty : Shelf := ⟨[], 0, .nil⟩

instance : EmptyCollection Shelf := ⟨empty⟩

/-- The record under a key. -/
def get? (s : Shelf) (key : String) : Option Record :=
  s.records.lookup key

/-- The number of records. -/
def size (s : Shelf) : Nat := s.records.length

/-- The entries with the one under `key` replaced by `r`, or with `r` added at the end. -/
def put (key : String) (r : Record) : List (String × Record) → List (String × Record)
  | [] => [(key, r)]
  | (k, old) :: rest => if k = key then (k, r) :: rest else (k, old) :: put key r rest

theorem mem_keys_put {key k : String} {r : Record} {rs : List (String × Record)} :
    k ∈ (put key r rs).map Prod.fst ↔ k = key ∨ k ∈ rs.map Prod.fst := by
  induction rs with
  | nil => simp [put]
  | cons p rest ih =>
    obtain ⟨k', old⟩ := p
    unfold put
    by_cases hk : k' = key
    · simp [hk]
    · rw [if_neg hk, List.map_cons, List.mem_cons, ih, List.map_cons, List.mem_cons]
      exact or_left_comm

/-- Putting a record under a key leaves every key there once. -/
theorem nodup_keys_put {rs : List (String × Record)} (h : (rs.map Prod.fst).Nodup) (key : String)
    (r : Record) : ((put key r rs).map Prod.fst).Nodup := by
  induction rs with
  | nil => simp [put]
  | cons p rest ih =>
    obtain ⟨k, old⟩ := p
    obtain ⟨hnew, hrest⟩ := List.nodup_cons.mp h
    unfold put
    by_cases hk : k = key
    · rw [if_pos hk]
      exact List.nodup_cons.mpr ⟨hnew, hrest⟩
    · rw [if_neg hk]
      refine List.nodup_cons.mpr ⟨fun hmem => ?_, ih hrest⟩
      rcases mem_keys_put.mp hmem with h | h
      · exact hk h
      · exact hnew h

/-- The shelf with a record put under a key. -/
def file (s : Shelf) (key : String) (r : Record) : Shelf :=
  { s with records := put key r s.records, distinct := nodup_keys_put s.distinct key r }

/-- The shelf with a record put under its key. -/
def upsert (s : Shelf) (r : Record) : Shelf :=
  { s.file r.key r with upserts := s.upserts + 1 }

/-- The shelf with the record under a key patched. -/
def updateStatus (s : Shelf) (key : String) (status : ResourceStatus) (patch : Patch)
    (now : Instant) : Except StoreError Shelf :=
  match s.get? key with
  | some r => .ok (s.file key (r.apply status patch now))
  | none => .error (.notFound key)

/-- The records in the order of their keys. -/
def sorted (s : Shelf) : List Record :=
  (s.records.mergeSort fun a b => decide (a.1 ≤ b.1)).map Prod.snd

end Shelf

end ChainProvision
