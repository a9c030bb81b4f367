import ChainProvision.Records.Journal
import Mathlib.Logic.Function.Basic

/-!
# The journal as a log that is only appended to

An entry is settled where it stands in the journal.  The same journal can be had from a log in which nothing is ever
changed, with the verdict beside it that was given last on each hash: the verdict shows at the first entry of its
hash, and the entries after it keep their own status.

## Main definitions

- `Register`: a log of entries, with verdicts on hashes that occur in it;
- `Register.journal`: the journal that a register stands for.

## Main statements

- `Journal.settleFirst_append_self`, `Journal.settleFirst_eq_none`: which entry is settled.
- `Register.journal_append`, `Register.settle_journal`: a journal changes as its register does.
-/

namespace ChainProvision

namespace Journal

variable {hash other : TxHash} {label : String} {status status' : EntryStatus}

/-! ## Settling -/

theorem settleFirst_eq_none {es : List Entry} (h : hash ∉ es.map Entry.hash) :
    settleFirst hash status es = none := by
  induction es with
  | nil => rfl
  | cons e rest ih =>
    simp only [List.map_cons, List.mem_cons, not_or] at h
    simp [settleFirst, Ne.symm h.1, ih h.2]

/-- The first entry of a hash is settled where it is. -/
theorem settleFirst_append_self {before after : List Entry} {time : Instant}
    (h : hash ∉ before.map Entry.hash) :
    settleFirst hash status' (before ++ ⟨hash, label, status, time⟩ :: after) =
      some (before ++ ⟨hash, label, status', time⟩ :: after) := by
  induction before with
  | nil => simp [settleFirst]
  | cons e rest ih =>
    simp only [List.map_cons, List.mem_cons, not_or] at h
    simp [settleFirst, Ne.symm h.1, ih h.2]

/-- An entry of another hash is passed over. -/
theorem settleFirst_append_of_ne {x : Entry} (hne : x.hash ≠ other) (status : EntryStatus)
    (before after : List Entry) :
    settleFirst other status (before ++ after) = none ∧
        settleFirst other status (before ++ x :: after) = none ∨
      ∃ before' after', settleFirst other status (before ++ after) = some (before' ++ after') ∧
        settleFirst other status (before ++ x :: after) = some (before' ++ x :: after') := by
  induction before with
  | nil =>
    cases hafter : settleFirst other status after with
    | none => exact Or.inl ⟨hafter, by simp [settleFirst, hne, hafter]⟩
    | some after' => exact Or.inr ⟨[], after', hafter, by simp [settleFirst, hne, hafter]⟩
  | cons e rest ih =>
    by_cases he : e.hash = other
    · exact Or.inr ⟨{ e with status } :: rest, after, by simp [settleFirst, he], by simp [settleFirst, he]⟩
    · rcases ih with ⟨hwithout, hwith⟩ | ⟨before', after', hwithout, hwith⟩
      · exact Or.inl ⟨by simp [settleFirst, he, hwithout], by simp [settleFirst, he, hwith]⟩
      · exact Or.inr ⟨e :: before', after', by simp [settleFirst, he, hwithout],
          by simp [settleFirst, he, hwith]⟩

/-- Settling changes no hash. -/
theorem map_hash_settleFirst {es es' : List Entry} (h : settleFirst other status es = some es') :
    es'.map Entry.hash = es.map Entry.hash := by
  induction es generalizing es' with
  | nil => cases h
  | cons e rest ih =>
    by_cases he : e.hash = other
    · obtain rfl : { e with status } :: rest = es' := by simpa [settleFirst, he] using h
      rfl
    · obtain ⟨rest', hrest, rfl⟩ : ∃ rest', settleFirst other status rest = some rest' ∧
          e :: rest' = es' := by simpa [settleFirst, he] using h
      simp [ih hrest]

/-- Settling by a hash that occurs once changes the entry of that hash. -/
theorem settleFirst_eq_map (hash : TxHash) (status : EntryStatus) {es : List Entry}
    (hmem : hash ∈ es.map Entry.hash) (hnodup : (es.map Entry.hash).Nodup) :
    settleFirst hash status es =
      some (es.map fun e => if e.hash = hash then { e with status } else e) := by
  induction es with
  | nil => simp at hmem
  | cons e rest ih =>
    obtain ⟨hnew, hrest⟩ := List.nodup_cons.mp hnodup
    by_cases he : e.hash = hash
    · -- The hash does not occur again, so the others are the same on both sides.
      have hothers : ∀ x ∈ rest, (if x.hash = hash then { x with status } else x) = x := by
        intro x hx
        have hne : x.hash ≠ hash := fun h => hnew (List.mem_map.mpr ⟨x, hx, h.trans he.symm⟩)
        simp [hne]
      simp [settleFirst, he, List.map_congr_left hothers]
    · have hin : hash ∈ rest.map Entry.hash := by
        rcases List.mem_cons.mp hmem with h | h
        · exact absurd h.symm he
        · exact h
      simp [settleFirst, he, ih hin hrest]

theorem settle_of_absent {J : Journal} (h : hash ∉ J.entries.map Entry.hash) (status : EntryStatus) :
    J.settle hash status = .error (.notFound hash.text) := by
  simp [settle, settleFirst_eq_none h]

theorem settle_append_self {before after : List Entry} (e : Entry) (h : e.hash ∉ before.map Entry.hash)
    (status : EntryStatus) :
    settle ⟨before ++ e :: after⟩ e.hash status = .ok ⟨before ++ { e with status } :: after⟩ := by
  have hsettle : settleFirst e.hash status (before ++ e :: after) = some (before ++ { e with status } :: after) :=
    settleFirst_append_self h
  simp [settle, hsettle]

end Journal

/-- What settling never changes in an entry. -/
def Entry.line (e : Entry) : TxHash × String × Instant := (e.hash, e.label, e.time)

/-! ## Registers -/

/-- A log of entries, with the verdicts that were given on hashes that occur in it. -/
structure Register where
  entries : List Entry
  verdicts : TxHash → Option EntryStatus
  mem_of_verdict : ∀ hash, verdicts hash ≠ none → hash ∈ entries.map Entry.hash

namespace Register

variable {v : TxHash → Option EntryStatus} {hash : TxHash} {es : List Entry}

/-- A log without entries. -/
def empty : Register := ⟨[], fun _ => none, fun _ h => absurd rfl h⟩

/-- The log with one more entry. -/
def append (reg : Register) (e : Entry) : Register where
  entries := reg.entries ++ [e]
  verdicts := reg.verdicts
  mem_of_verdict hash h := by
    rw [List.map_append]
    exact List.mem_append_left _ (reg.mem_of_verdict hash h)

/-- The log with a verdict on a hash, which has to occur in it. -/
def settle (reg : Register) (hash : TxHash) (status : EntryStatus) : Except StoreError Register :=
  if h : hash ∈ reg.entries.map Entry.hash then
    .ok {
      entries := reg.entries
      verdicts := Function.update reg.verdicts hash (some status)
      mem_of_verdict := by
        intro other hother
        by_cases heq : other = hash
        · rwa [heq]
        · rw [Function.update_of_ne heq] at hother
          exact reg.mem_of_verdict other hother }
  else .error (.notFound hash.text)

/-- A verdict changes nothing in the log. -/
theorem entries_settle {reg reg' : Register} {status : EntryStatus} (h : reg.settle hash status = .ok reg') :
    reg'.entries = reg.entries := by
  unfold settle at h
  split at h
  · cases h
    rfl
  · cases h

/-- Entries with the verdicts shown, each at the first entry of its hash. -/
def shown (v : TxHash → Option EntryStatus) : List Entry → List Entry
  | [] => []
  | e :: rest => { e with status := (v e.hash).getD e.status } :: shown (Function.update v e.hash none) rest

/-- The journal that a register stands for. -/
def journal (reg : Register) : Journal := ⟨shown reg.verdicts reg.entries⟩

/-- A verdict changes the status of an entry at most. -/
theorem map_line_shown : (shown v es).map Entry.line = es.map Entry.line := by
  induction es generalizing v with
  | nil => rfl
  | cons e rest ih =>
    rw [shown, List.map_cons, List.map_cons, ih]
    rfl

theorem map_hash_shown : (shown v es).map Entry.hash = es.map Entry.hash := by
  have hline : Entry.hash = Prod.fst ∘ Entry.line := rfl
  rw [hline, ← List.map_map, ← List.map_map, map_line_shown]

theorem shown_append (h : ∀ hash, v hash ≠ none → hash ∈ es.map Entry.hash) (e : Entry) :
    shown v (es ++ [e]) = shown v es ++ [e] := by
  induction es generalizing v with
  | nil =>
    have hnone : v e.hash = none := by
      by_contra hsome
      exact absurd (h e.hash hsome) List.not_mem_nil
    simp [shown, hnone]
  | cons first rest ih =>
    -- The verdict on the hash of the first entry is used up by it.
    have hrest : ∀ hash, Function.update v first.hash none hash ≠ none → hash ∈ rest.map Entry.hash := by
      intro hash hsome
      have hne : hash ≠ first.hash := by
        rintro rfl
        exact hsome (Function.update_self _ _ _)
      rw [Function.update_of_ne hne] at hsome
      exact (List.mem_cons.mp (h hash hsome)).resolve_left hne
    rw [List.cons_append, shown, shown, ih hrest, List.cons_append]

/-- The entry that is settled is the one at which the verdict shows. -/
theorem settleFirst_shown (h : hash ∈ es.map Entry.hash) (status : EntryStatus) :
    Journal.settleFirst hash status (shown v es) = some (shown (Function.update v hash (some status)) es) := by
  induction es generalizing v with
  | nil => exact absurd h List.not_mem_nil
  | cons e rest ih =>
    by_cases he : e.hash = hash
    · -- The verdict shows here, and is used up: the entries after it are the same on both sides.
      subst he
      simp [shown, Journal.settleFirst, Function.update_idem]
    · -- The entry has a verdict of its own, which does not get in the way of the other one.
      have hmem : hash ∈ rest.map Entry.hash := (List.mem_cons.mp h).resolve_left (Ne.symm he)
      simp [shown, Journal.settleFirst, he, ih hmem, Function.update_comm he]

/-- A journal takes an entry as its register does. -/
theorem journal_append (reg : Register) (e : Entry) : (reg.append e).journal = reg.journal.append e := by
  unfold journal append Journal.append
  rw [shown_append reg.mem_of_verdict]

/-- **A journal is settled as its register is**, and for the same hashes. -/
theorem settle_journal (reg : Register) (hash : TxHash) (status : EntryStatus) :
    reg.journal.settle hash status = (reg.settle hash status).map journal := by
  unfold settle
  split
  next h => simp [journal, Journal.settle, settleFirst_shown h, Except.map]
  next h =>
    -- The hashes in the journal are those in the log.
    apply Journal.settle_of_absent
    rwa [journal, map_hash_shown]

end Register

end ChainProvision
