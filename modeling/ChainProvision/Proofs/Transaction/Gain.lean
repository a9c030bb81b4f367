import ChainProvision.Proofs.Records.Journal
import ChainProvision.Proofs.Transaction.Answer

/-!
# A journal with one entry more

Two journals that are written to alike, but of which one has an entry more, go on to differ in that
entry only.  The other one does not have its hash, so whatever is settled by another hash is found at
the same place in both.

## Main definitions

- `Journal.Gains`: one journal has an entry more than another;
- `Journal.Has`: a journal has an entry of a hash.

## Main statements

- `Journal.Gains.journalAfter`: it is so after the answer to any other submission.
- `Journal.Gains.settled`: settling the additional entry changes nothing else.
-/

namespace ChainProvision

namespace Journal

variable {J K : Journal} {hash other : TxHash} {label : String} {status status' : EntryStatus}
  {m : Moment}

/-- A journal has an entry of a hash. -/
def Has (J : Journal) (hash : TxHash) : Prop := hash ∈ J.entries.map Entry.hash

instance : Decidable (J.Has hash) := inferInstanceAs (Decidable (_ ∈ _))

/-- A journal has an entry more than another, at some place among the others. -/
def Gains (J K : Journal) (hash : TxHash) (label : String) (status : EntryStatus) : Prop :=
  ∃ before after time, J.entries = before ++ after ∧
    K.entries = before ++ ⟨hash, label, status, time⟩ :: after

/-! ## Settling -/

/-- A journal in which a hash is settled, unless the call fails or there is no such entry. -/
theorem entries_settled (m : Moment) (J : Journal) (other : TxHash) (status : EntryStatus) :
    (Tracker.settled m J other status).entries =
      if m.outage.settle then J.entries else (settleFirst other status J.entries).getD J.entries := by
  unfold Tracker.settled Journal.settle
  split
  · rfl
  · cases settleFirst other status J.entries <;> rfl

theorem settled_of_not_has (h : ¬ J.Has hash) : Tracker.settled m J hash status = J := by
  simp [Tracker.settled, settle, settleFirst_eq_none h]

theorem not_has_settled (h : ¬ (Tracker.settled m J other status).Has hash) : ¬ J.Has hash := by
  unfold Has at h ⊢
  rw [entries_settled] at h
  split at h
  · exact h
  · cases hsettle : settleFirst other status J.entries with
    | none => simpa [hsettle] using h
    | some entries =>
      rw [hsettle, Option.getD_some, map_hash_settleFirst hsettle] at h
      exact h

theorem not_has_recorded (h : ¬ (Tracker.recorded m J other label).Has hash) : ¬ J.Has hash := by
  unfold Tracker.recorded at h
  split at h
  · exact h
  · intro hhas
    exact h (by simpa [Has, append] using Or.inl (by simpa [Has] using hhas))

/-! ## One entry more -/

/-- A new entry is one more. -/
theorem gains_recorded (hworks : m.outage.append = false) (J : Journal) (hash : TxHash) (label : String) :
    J.Gains (Tracker.recorded m J hash label) hash label .pending :=
  ⟨J.entries, [], m.wall, by simp, by simp [Tracker.recorded, hworks, append, Entry.pending]⟩

/-- Another new entry comes after it. -/
theorem Gains.recorded (h : J.Gains K hash label status) (m : Moment) (other : TxHash) (label' : String) :
    (Tracker.recorded m J other label').Gains (Tracker.recorded m K other label') hash label status := by
  unfold Tracker.recorded
  split
  · exact h
  · obtain ⟨before, after, time, hJ, hK⟩ := h
    exact ⟨before, after ++ [.pending other label' m.wall], time, by simp [append, hJ],
      by simp [append, hK]⟩

/-- Another entry is settled at the same place. -/
theorem Gains.settled_of_ne (h : J.Gains K hash label status) (hne : hash ≠ other) (m : Moment)
    (status' : EntryStatus) :
    (Tracker.settled m J other status').Gains (Tracker.settled m K other status') hash label status := by
  obtain ⟨before, after, time, hJ, hK⟩ := h
  unfold Gains
  rw [entries_settled, entries_settled, hJ, hK]
  split
  · exact ⟨before, after, time, rfl, rfl⟩
  · rcases settleFirst_append_of_ne (x := ⟨hash, label, status, time⟩) hne status'
      before after with
      ⟨hwithout, hwith⟩ | ⟨before', after', hwithout, hwith⟩
    · exact ⟨before, after, time, by rw [hwithout]; rfl, by rw [hwith]; rfl⟩
    · exact ⟨before', after', time, by rw [hwithout]; rfl, by rw [hwith]; rfl⟩

/-- A working journal settles the additional entry by its hash, and nothing else. -/
theorem Gains.settled (h : J.Gains K hash label status) (hnew : ¬ J.Has hash)
    (hworks : m.outage.settle = false) (status' : EntryStatus) :
    J.Gains (Tracker.settled m K hash status') hash label status' := by
  obtain ⟨before, after, time, hJ, hK⟩ := h
  refine ⟨before, after, time, hJ, ?_⟩
  have hbefore : hash ∉ before.map Entry.hash := by
    intro hmem
    exact hnew (by simpa [Has, hJ] using Or.inl (by simpa using hmem))
  rw [entries_settled, hworks, hK, settleFirst_append_self hbefore]
  rfl

/-- An answer leaves a journal as it is, adds an entry, or settles one. -/
private theorem journalAfter_cases (m : Moment) (t : Ticket) (answer : Answer) :
    (∀ J, Tracker.journalAfter m J t answer = J) ∨
      (∃ other label, ∀ J, Tracker.journalAfter m J t answer = Tracker.recorded m J other label) ∨
      ∃ other status, ∀ J, Tracker.journalAfter m J t answer = Tracker.settled m J other status := by
  obtain ⟨generation, submission, awaiting⟩ := t
  cases awaiting with
  | signature => exact Or.inl fun J => by cases answer <;> rfl
  | broadcast =>
    rcases answer with outcome | (e | other) | outcome
    · exact Or.inl fun _ => rfl
    · exact Or.inl fun _ => rfl
    · exact Or.inr (Or.inl ⟨other, _, fun _ => rfl⟩)
    · exact Or.inl fun _ => rfl
  | receipt other =>
    rcases answer with outcome | outcome | (e | r)
    · exact Or.inl fun _ => rfl
    · exact Or.inl fun _ => rfl
    · exact Or.inr (Or.inr ⟨other, _, fun _ => rfl⟩)
    · exact Or.inr (Or.inr ⟨other, _, fun _ => rfl⟩)

theorem not_has_journalAfter {t : Ticket} {answer : Answer}
    (h : ¬ (Tracker.journalAfter m J t answer).Has hash) : ¬ J.Has hash := by
  rcases journalAfter_cases m t answer with hsame | ⟨other, label, hadd⟩ | ⟨other, status, hsettle⟩
  · rwa [hsame] at h
  · rw [hadd] at h
    exact not_has_recorded h
  · rw [hsettle] at h
    exact not_has_settled h

/-- **An answer to another submission keeps the difference**, though it may settle the additional entry,
too, if by some chance it is for the same hash. -/
theorem Gains.journalAfter (h : J.Gains K hash label status) (m : Moment) (t : Ticket) (answer : Answer)
    (hnew : ¬ (Tracker.journalAfter m J t answer).Has hash) :
    ∃ status', (Tracker.journalAfter m J t answer).Gains (Tracker.journalAfter m K t answer) hash label
      status' := by
  rcases journalAfter_cases m t answer with hsame | ⟨other, label', hadd⟩ | ⟨other, settled, hsettle⟩
  · rw [hsame, hsame]
    exact ⟨status, h⟩
  · rw [hadd, hadd]
    exact ⟨status, h.recorded m other label'⟩
  · rw [hsettle] at hnew
    rw [hsettle, hsettle]
    by_cases hne : hash = other
    · -- In the one journal the hash is not found, and in the other only the additional entry has it.
      subst hne
      rw [settled_of_not_has (not_has_settled hnew)]
      cases hworks : m.outage.settle with
      | false => exact ⟨settled, h.settled (not_has_settled hnew) hworks settled⟩
      | true => exact ⟨status, by simpa [Tracker.settled, hworks] using h⟩
    · exact ⟨status, h.settled_of_ne hne m settled⟩

end Journal

end ChainProvision
