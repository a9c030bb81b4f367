import ChainProvision.Proofs.Deployment.Supersession
import ChainProvision.Proofs.Transaction.Gain

/-!
# The journal of a deployer

A deployer writes to its journal only on the answer to a call that is under way, and then as the
submission of the call does, whatever has become of its attempt.  So the calls can be told apart: the
journal as all calls but one have left it is that of a run in which the answers to that one write
nothing.

## Main definitions

- `Deployer.journalBeside`, `Deployer.journalOfOthers`: the journal as all calls but one leave it.

## Main statements

- `Deployer.journal_handle`: what an event does to the journal.
- `Deployer.journalOfOthers_of_sole`: where only that one call is answered the journal stays as it was.
-/

namespace ChainProvision

namespace Deployer

variable {m : Moment} {d d' : Deployer} {e : Event} {effects : List Effect} {i : Nat}

/-! ## What does not write to it -/

@[simp] theorem update_journal (d : Deployer) (g : Nat) (f : DeployState → DeployState)
    (raised : Option DeployEvent) : (d.update g f raised).journal = d.journal := by
  unfold update
  split
  · cases raised <;> rfl
  · rfl

@[simp] theorem showTx_journal (d : Deployer) (g : Nat) (snapshot : TxSnapshot) :
    (d.showTx g snapshot).journal = d.journal := by
  unfold showTx
  cases snapshot.status <;> exact update_journal _ _ _ _

@[simp] theorem conclude_journal (m : Moment) (d : Deployer) (v : Vigil)
    (verdict : Except DeployError Completion) : (d.conclude m v verdict).journal = d.journal := by
  unfold conclude
  split <;> exact update_journal _ _ _ _

@[simp] theorem observe_journal (m : Moment) (d : Deployer) (v : Vigil) (announced : Bool) :
    (d.observe m v announced).journal = d.journal := by
  have hmirrored : (d.mirrored v announced).journal = d.journal := by
    unfold mirrored
    split
    · split
      · exact update_journal _ _ _ _
      · rfl
    · rfl
  rw [observe_eq_mirrored]
  split
  · rw [conclude_journal, hmirrored]
  · exact hmirrored

@[simp] theorem confirmed_journal (m : Moment) (d : Deployer) (a : Attempt) (hash : TxHash) :
    (d.confirmed m a hash).journal = d.journal := by
  simp only [confirmed, upsert_eq]
  cases d.tracker.snapshot.correlation with
  | none => simp
  | some number => simp [wait]

@[simp] theorem settleRelease_journal (d : Deployer) : d.settleRelease.journal = d.journal := by
  unfold settleRelease
  split <;> rfl

theorem foldl_showTx_journal (d : Deployer) (g : Nat) (seen : List TxSnapshot) :
    (seen.foldl (fun d snapshot => d.showTx g snapshot) d).journal = d.journal := by
  induction seen generalizing d with
  | nil => rfl
  | cons snapshot seen ih => exact (ih _).trans (showTx_journal d g snapshot)

theorem Turn.journal_eq (hturn : Turn m d e d' effects) (he : ∀ i answer, e ≠ .answer i answer) :
    d'.journal = d.journal := by
  cases hturn with
  | signed | lapsed | sent | fell | unnumbered | awaited => exact absurd rfl (he _ _)
  | _ => rfl

/-! ## What an answer writes -/

/-- The journal after the answer to a call, as the submission of the call leaves it. -/
def journalOf (d : Deployer) (m : Moment) (J : Journal) (i : Nat) (answer : Answer) : Journal :=
  match d.deploys[i]? with
  | some (.underway _ t) => Tracker.journalAfter m J t answer
  | _ => J

theorem journalOf_of_underway {a : Attempt} {t : Ticket} (hget : d.deploys[i]? = some (.underway a t))
    (m : Moment) (J : Journal) (answer : Answer) :
    d.journalOf m J i answer = Tracker.journalAfter m J t answer := by
  simp [journalOf, hget]

theorem journal_answered (m : Moment) (d : Deployer) (i : Nat) (answer : Answer) :
    (d.answered m i answer).1.journal = d.journalOf m d.journal i answer := by
  unfold answered journalOf
  match d.deploys[i]? with
  | none => rfl
  | some (.ended _) => rfl
  | some (.underway a t) =>
    have hp := (Tracker.resumed_resume m d.tracker d.journal t answer).journal_eq
    dsimp only
    generalize d.tracker.resume m d.journal t answer = p at hp
    have hshown := foldl_showTx_journal { d with tracker := p.tracker, journal := p.journal } a.generation
      p.seen
    rw [← hp]
    -- Whatever the course of the submission, the journal is the one that it has left.
    split
    · exact hshown
    · exact hshown
    · split
      · rw [confirmed_journal]
        exact hshown
      · exact hshown

/-- **Only the answer to a call writes to the journal.** -/
theorem journal_handle (h : d.Coherent) (m : Moment) (e : Event) :
    (d.handle m e).1.journal =
      match e with
      | .answer i answer => d.journalOf m d.journal i answer
      | _ => d.journal := by
  by_cases he : ∃ i answer, e = .answer i answer
  · obtain ⟨i, answer, rfl⟩ := he
    cases hgone : d.isGone with
    | true =>
      -- Nothing is under way any more.
      have hnone : d.journalOf m d.journal i answer = d.journal := by
        unfold journalOf
        split
        · rename_i a t hget
          exact absurd hget (not_underway_of_isGone hgone i a t)
        · rfl
      simp [handle, hgone, hnone]
    | false => simp [handle, hgone, step, journal_answered]
  · have hkept : (d.handle m e).1.journal = d.journal := by
      rcases handled h m e with ⟨-, heq⟩ | ⟨-, d', effects, hturn, heq⟩
      · rw [heq]
      · rw [heq, settleRelease_journal]
        exact hturn.journal_eq fun i answer heq => he ⟨i, answer, heq⟩
    rw [hkept]
    cases e with
    | answer i answer => exact absurd ⟨i, answer, rfl⟩ he
    | _ => rfl

/-! ## The journal of all calls but one -/

/-- The journal after an event, to which the answers to one call write nothing. -/
def journalBeside (d : Deployer) (i : Nat) (m : Moment) (J : Journal) : Event → Journal
  | .answer j answer => if j = i then J else d.journalOf m J j answer
  | _ => J

/-- The journal after events, to which the answers to one call write nothing. -/
def journalOfOthers (d : Deployer) (i : Nat) (J : Journal) : List (Moment × Event) → Journal
  | [] => J
  | x :: es => (d.handle x.1 x.2).1.journalOfOthers i (d.journalBeside i x.1 J x.2) es

/-- Where no other call is answered the journal stays as it was. -/
theorem journalOfOthers_of_sole {es : List (Moment × Event)}
    (h : ∀ x ∈ es, ∀ j answer, x.2 = .answer j answer → j = i) (d : Deployer) (J : Journal) :
    d.journalOfOthers i J es = J := by
  induction es generalizing d with
  | nil => rfl
  | cons x es ih =>
    have hx : d.journalBeside i x.1 J x.2 = J := by
      have hown := h x (List.mem_cons_self)
      unfold journalBeside
      split
      · rename_i j answer heq
        rw [if_pos (hown j answer heq)]
      · rfl
    rw [journalOfOthers, hx]
    exact ih (fun y hy => h y (List.mem_cons_of_mem _ hy)) _

/-- An event that is not the answer to a call does to the journal what it does beside that call. -/
theorem journal_handle_beside (h : d.Coherent) (he : ∀ answer, e ≠ .answer i answer) (m : Moment) :
    (d.handle m e).1.journal = d.journalBeside i m d.journal e := by
  rw [journal_handle h]
  cases e with
  | answer j answer =>
    have hne : j ≠ i := by
      rintro rfl
      exact he answer rfl
    simp [journalBeside, hne]
  | _ => rfl

/-- Whoever else is answered, a journal that has one entry more keeps it. -/
theorem gains_journalBeside {J K : Journal} {hash : TxHash} {label : String} {status : EntryStatus}
    (h : J.Gains K hash label status) (hnew : ¬ (d.journalBeside i m J e).Has hash) :
    ∃ status', (d.journalBeside i m J e).Gains (d.journalBeside i m K e) hash label status' := by
  unfold journalBeside journalOf at hnew ⊢
  split
  · split
    · exact ⟨status, h⟩
    · rename_i j answer hne
      simp only [if_neg hne] at hnew
      split
      · rename_i a t hget
        simp only [hget] at hnew
        exact h.journalAfter m t answer hnew
      · exact ⟨status, h⟩
  · exact ⟨status, h⟩

theorem not_has_journalBeside {J : Journal} {hash : TxHash}
    (h : ¬ (d.journalBeside i m J e).Has hash) : ¬ J.Has hash := by
  unfold journalBeside journalOf at h
  split at h
  · split at h
    · exact h
    · split at h
      · exact Journal.not_has_journalAfter h
      · exact h
  · exact h

end Deployer

end ChainProvision
