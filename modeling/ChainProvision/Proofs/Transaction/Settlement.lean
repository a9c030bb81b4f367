import ChainProvision.Proofs.Records.Journal
import ChainProvision.Proofs.Transaction.Account

/-!
# The settlement of broadcasts

Every transaction that was broadcast has one entry in the journal, in the order of the broadcasts,
and its receipt settles the entry, once.  This is also so where a reset or another submission came
while the receipt was awaited.  Where one of these came while the broadcast itself was under way,
however, the submission ends without waiting for the receipt, and its entry stays pending for ever.

## Main statements

- `Desk.entries_run`: the journal is what the account says.
- `Desk.settled_unless_superseded_in_broadcast`: which entries are settled, and how.
- `Desk.superseded_broadcast_stays_pending`: a run that ends with an entry that nobody will settle.
-/

namespace ChainProvision

/-! ## Entries of a journal -/

/-- A working journal settles the entry of a hash that it has once. -/
theorem Tracker.settled_entries {m : Moment} {journal : Journal} {hash : TxHash} (status : EntryStatus)
    (hworks : m.outage.settle = false) (hmem : hash ∈ journal.entries.map Entry.hash)
    (hnodup : (journal.entries.map Entry.hash).Nodup) :
    (settled m journal hash status).entries =
      journal.entries.map fun e => if e.hash = hash then { e with status } else e := by
  simp [settled, hworks, Journal.settle, Journal.settleFirst_eq_map hash status hmem hnodup]

namespace Desk

/-- The calls of the journal all succeed. -/
def JournalWorks (es : List (Moment × DeskEvent)) : Prop :=
  ∀ e ∈ es, e.1.outage.append = false ∧ e.1.outage.settle = false

/-! ## The journal is what the account says -/

/-- The hashes in a journal that is what the account says. -/
private theorem hashes_entries (xs : List Dispatch) :
    (xs.map Dispatch.entry).map Entry.hash = xs.map Dispatch.hash := by
  simp [Dispatch.entry]

/-- The receipt for a submission settles the entry of its broadcast, and no other. -/
theorem entries_received {d : Desk} {c : Account} {m : Moment} {call : Nat} {hash : TxHash}
    {status : EntryStatus} {r : Except ChainError Receipt} (h : Accounted d c)
    (hsent : ∃ x ∈ c.dispatches, x.call = call ∧ x.hash = hash ∧ x.isOver = false)
    (hworks : m.outage.settle = false) (hentries : d.journal.entries = c.dispatches.map Dispatch.entry)
    (hnodup : c.hashes.Nodup) (hstatus : ∀ x : Dispatch, (x.received r).status = status) :
    (Tracker.settled m d.journal hash status).entries =
      (c.dispatches.map (Dispatch.receiving call r)).map Dispatch.entry := by
  obtain ⟨x, hx, rfl, rfl, _⟩ := hsent
  have hhashes : d.journal.entries.map Entry.hash = c.hashes := by
    rw [hentries, hashes_entries]
    rfl
  have hmem : x.hash ∈ d.journal.entries.map Entry.hash := by
    rw [hhashes]
    exact List.mem_map_of_mem hx
  rw [Tracker.settled_entries status hworks hmem (hhashes ▸ hnodup), hentries, List.map_map,
    List.map_map]
  refine List.map_congr_left fun y hy => ?_
  by_cases hcall : y.call = x.call
  · -- No submission broadcasts twice, so this is the broadcast that the receipt is for.
    obtain rfl : y = x := List.inj_on_of_nodup_map h.once hy hx hcall
    have := hstatus y
    simp_all [Dispatch.entry, Dispatch.receiving_of_eq, Dispatch.received]
  · -- Another submission has broadcast another hash.
    have hhash : y.hash ≠ x.hash := fun heq =>
      hcall (congrArg Dispatch.call (List.inj_on_of_nodup_map hnodup hy hx heq))
    simp [Dispatch.entry, Dispatch.receiving_of_ne r hcall, hhash]

/-- An answer to a suspended submission leaves the journal as the account says. -/
theorem entries_answered {d : Desk} {c : Account} {m : Moment} {call : Nat} {seen : List TxSnapshot}
    {ticket : Ticket} (h : Accounted d c) (hget : d.calls[call]? = some ⟨seen, .suspended ticket⟩)
    (happend : m.outage.append = false) (hsettle : m.outage.settle = false)
    (hentries : d.journal.entries = c.dispatches.map Dispatch.entry) (hnodup : c.hashes.Nodup)
    (a : Answer) :
    (Tracker.journalAfter m d.journal ticket a).entries =
      (c.answered m call ticket a).dispatches.map Dispatch.entry := by
  have hsent := @h.awaited call seen ticket
  obtain ⟨generation, submission, awaiting⟩ := ticket
  cases awaiting with
  | signature => cases a <;> exact hentries
  | broadcast =>
    rcases a with _ | (e | hash) | _
    · exact hentries
    · exact hentries
    · simp [Tracker.journalAfter, Tracker.recorded, happend, Account.answered, Journal.append, hentries,
        Dispatch.entry, Dispatch.status, Entry.pending]
    · exact hentries
  | receipt hash =>
    rcases a with _ | _ | (e | r)
    · exact hentries
    · exact hentries
    · exact entries_received h (hsent hget rfl) hsettle hentries hnodup fun _ => rfl
    · exact entries_received h (hsent hget rfl) hsettle hentries hnodup fun _ => rfl

theorem entries_step {p : Desk × Account} {e : Moment × DeskEvent} (h : Accounted p.1 p.2)
    (happend : e.1.outage.append = false) (hsettle : e.1.outage.settle = false)
    (hentries : p.1.journal.entries = p.2.dispatches.map Dispatch.entry) (hnodup : p.2.hashes.Nodup) :
    (step p e).1.journal.entries = (step p e).2.dispatches.map Dispatch.entry := by
  obtain ⟨d, c⟩ := p
  obtain ⟨m, e⟩ := e
  cases e with
  | submit s => exact hentries
  | reset => exact hentries
  | answer call a =>
    cases hget : d.calls[call]? with
    | none => simpa [step, handle, Account.note, hget] using hentries
    | some s =>
      obtain ⟨seen, course⟩ := s
      cases course with
      | ended result => simpa [step, handle, Account.note, hget] using hentries
      | suspended ticket =>
        have hjournal := (Tracker.resumed_resume m d.tracker d.journal ticket a).journal_eq
        simpa [step, handle, Account.note, hget, hjournal] using
          entries_answered h hget happend hsettle hentries hnodup a

/-- As long as the journal works and no hash is broadcast twice, the journal is what the account
says. -/
theorem entries_run {p : Desk × Account} {es : List (Moment × DeskEvent)} (h : Accounted p.1 p.2)
    (hworks : JournalWorks es) (hentries : p.1.journal.entries = p.2.dispatches.map Dispatch.entry)
    (hnodup : (run p es).2.hashes.Nodup) :
    (run p es).1.journal.entries = (run p es).2.dispatches.map Dispatch.entry := by
  induction es generalizing p with
  | nil => exact hentries
  | cons e es ih =>
    obtain ⟨happend, hsettle⟩ := hworks e (List.mem_cons_self ..)
    -- What is distinct in the end has been distinct all along.
    have hnodup' : p.2.hashes.Nodup := hnodup.sublist (hashes_prefix_run p (e :: es)).sublist
    exact ih (h.step e) (fun f hf => hworks f (List.mem_cons_of_mem e hf))
      (entries_step h happend hsettle hentries hnodup') hnodup

theorem entries_afterAll {es : List (Moment × DeskEvent)} (hworks : JournalWorks es)
    (hdistinct : (afterAll es).2.hashes.Nodup) :
    (afterAll es).1.journal.entries = (afterAll es).2.dispatches.map Dispatch.entry :=
  entries_run accounted_start hworks rfl hdistinct

/-! ## Which entries are settled -/

/-- An entry stays as it is, or it is settled. -/
def Settles (e e' : Entry) : Prop :=
  e' = e ∨ e.status = .pending ∧ e'.status ≠ .pending ∧ e' = { e with status := e'.status }

private theorem settles_of_evolves {x y : Dispatch} (h : x.Evolves y) : Settles x.entry y.entry := by
  rcases h with rfl | ⟨hover, r, rfl⟩
  · exact Or.inl rfl
  · have hnone : x.receipt = none := by simp_all [Dispatch.isOver]
    refine Or.inr ⟨by simp [Dispatch.entry, Dispatch.status, hnone], ?_, rfl⟩
    rcases r with e | r
    · simp [Dispatch.entry, Dispatch.status, Dispatch.received]
    · by_cases hr : r.succeeded <;> simp [Dispatch.entry, Dispatch.status, Dispatch.received, hr]

/-- The entry of a broadcast is pending as long as there is no receipt. -/
private theorem status_eq_pending_iff (x : Dispatch) : x.status = .pending ↔ x.receipt = none := by
  rcases hr : x.receipt with _ | e | r
  · simp [Dispatch.status, hr]
  · simp [Dispatch.status, hr]
  · by_cases h : r.succeeded <;> simp [Dispatch.status, hr, h]

private theorem status_eq_confirmed_iff (x : Dispatch) :
    x.status = .confirmed ↔ ∃ r, x.receipt = some (.ok r) ∧ r.succeeded = true := by
  rcases hr : x.receipt with _ | e | r
  · simp [Dispatch.status, hr]
  · simp [Dispatch.status, hr]
  · by_cases h : r.succeeded <;> simp [Dispatch.status, hr, h]

private theorem status_eq_failed_iff (x : Dispatch) :
    x.status = .failed ↔
      ∃ answer, x.receipt = some answer ∧ ∀ r, answer = .ok r → r.succeeded = false := by
  rcases hr : x.receipt with _ | e | r
  · simp [Dispatch.status, hr]
  · simp [Dispatch.status, hr]
  · by_cases h : r.succeeded <;> simp [Dispatch.status, hr, h]

/-- **Settlement of broadcasts.**  In every run in which the journal works and no hash is broadcast
twice, the journal has one entry for each broadcast, in order, and every entry changes its status at
most once.  Once a submission that broadcast has ended, its entry is confirmed just if the receipt
is that of a success, and failed just if the receipt is that of a revert or could not be had; it is
left pending just if a reset or another submission came while the broadcast was under way. -/
theorem settled_unless_superseded_in_broadcast (es : List (Moment × DeskEvent))
    (hworks : JournalWorks es) (hdistinct : (afterAll es).2.hashes.Nodup) :
    let d := (afterAll es).1
    let c := (afterAll es).2
    d.journal.entries = c.dispatches.map Dispatch.entry ∧
    (∀ x ∈ c.dispatches, ∀ seen result, d.calls[x.call]? = some ⟨seen, .ended result⟩ →
      (x.entry.status = .pending ↔ x.superseded = true) ∧
      (x.entry.status = .confirmed ↔ ∃ r, x.receipt = some (.ok r) ∧ r.succeeded = true) ∧
      (x.entry.status = .failed ↔
        ∃ answer, x.receipt = some answer ∧ ∀ r, answer = .ok r → r.succeeded = false)) ∧
    (∀ x ∈ c.dispatches, x.superseded = true →
      ∃ seen result, d.calls[x.call]? = some ⟨seen, .ended result⟩) ∧
    ∀ before after : List (Moment × DeskEvent), es = before ++ after →
      ∀ (i : Nat) (e : Entry), (afterAll before).1.journal.entries[i]? = some e →
        ∃ e', d.journal.entries[i]? = some e' ∧ Settles e e' := by
  intro d c
  have hacc : Accounted d c := accounted_afterAll es
  have hentries : d.journal.entries = c.dispatches.map Dispatch.entry :=
    entries_afterAll hworks hdistinct
  refine ⟨hentries, ?_, ?_, ?_⟩
  · intro x hx seen result hget
    refine ⟨?_, status_eq_confirmed_iff x, status_eq_failed_iff x⟩
    rw [show x.entry.status = x.status from rfl, status_eq_pending_iff]
    constructor
    · -- A submission that has ended without a receipt was superseded.
      intro hnone
      have hover := (hacc.stands x hx).ended hget
      simpa [Dispatch.isOver, hnone] using hover
    · exact hacc.late x hx
  · intro x hx hlate
    obtain ⟨seen, course, hget, hcourse⟩ := hacc.stands x hx
    have hover : x.isOver = true := by simp [Dispatch.isOver, hlate]
    rw [if_pos hover] at hcourse
    obtain ⟨result, rfl⟩ := hcourse
    exact ⟨seen, result, hget⟩
  · rintro before after rfl i e he
    -- The journal was what the account said then, and the account only grows.
    have hprefix : (afterAll before).2.hashes.Nodup := by
      rw [afterAll_append] at hdistinct
      exact hdistinct.sublist (hashes_prefix_run _ after).sublist
    have hbefore := entries_afterAll (fun f hf => hworks f (List.mem_append_left after hf)) hprefix
    rw [hbefore, List.getElem?_map] at he
    obtain ⟨x, hx, rfl⟩ := Option.map_eq_some_iff.mp he
    obtain ⟨y, hy, hxy⟩ := evolves_run (accounted_afterAll before) after hx
    rw [← afterAll_append] at hy
    refine ⟨y.entry, ?_, settles_of_evolves hxy⟩
    rw [hentries, List.getElem?_map, hy]
    rfl

/-- A job for the service 3. -/
private def someJob : Submission :=
  .of (.submitJob .zero ⟨.ofNat 3⟩ (.ofNat 0) "" .zero) "JobSubmitted"

/-- A reset while the first broadcast is under way, and then a submission that goes through. -/
private def interrupted (first second : TxHash) : List (Moment × DeskEvent) := [
  (⟨0, .epoch, {}⟩, .submit someJob),
  (⟨1, .epoch, {}⟩, .answer 0 (.signature (.ok ()))),
  (⟨2, .epoch, {}⟩, .reset),
  (⟨3, .epoch, {}⟩, .answer 0 (.broadcast (.ok first))),
  (⟨4, .epoch, {}⟩, .submit someJob),
  (⟨5, .epoch, {}⟩, .answer 1 (.signature (.ok ()))),
  (⟨6, .epoch, {}⟩, .answer 1 (.broadcast (.ok second))),
  (⟨7, .epoch, {}⟩, .answer 1 (.receipt (.ok ⟨true, [], none⟩)))]

private theorem interrupted_works (first second : TxHash) :
    JournalWorks (interrupted first second) := by
  intro e he
  simp only [interrupted, List.mem_cons, List.not_mem_nil, or_false] at he
  rcases he with rfl | rfl | rfl | rfl | rfl | rfl | rfl | rfl <;> exact ⟨rfl, rfl⟩

theorem settled_interrupted :
    let es := interrupted ⟨[1], by decide, by decide⟩ ⟨[2], by decide, by decide⟩
    JournalWorks es ∧ (afterAll es).2.hashes.Nodup ∧
      (afterAll es).1.journal.entries = (afterAll es).2.dispatches.map Dispatch.entry ∧
      (afterAll es).1.journal.entries.map Entry.status = [.pending, .confirmed] := by
  intro es
  have hdistinct : (afterAll es).2.hashes.Nodup := by decide
  refine ⟨interrupted_works _ _, hdistinct, ?_, by decide⟩
  exact (settled_unless_superseded_in_broadcast es (interrupted_works _ _) hdistinct).1

/-- It is not so that an entry is settled as soon as its submission has ended. -/
theorem superseded_broadcast_stays_pending :
    ¬ ∀ es : List (Moment × DeskEvent), JournalWorks es → (afterAll es).2.hashes.Nodup →
      ∀ x ∈ (afterAll es).2.dispatches, ∀ seen result,
        (afterAll es).1.calls[x.call]? = some ⟨seen, .ended result⟩ →
          ∀ e ∈ (afterAll es).1.journal.entries, e.hash = x.hash → e.status ≠ .pending := by
  intro h
  let first : TxHash := ⟨[1], by decide, by decide⟩
  let second : TxHash := ⟨[2], by decide, by decide⟩
  have hpending : (⟨first, someJob.label, .pending, .epoch⟩ : Entry) ∈
      (afterAll (interrupted first second)).1.journal.entries := by decide
  exact h (interrupted first second) (interrupted_works _ _) (by decide)
    ⟨0, first, someJob.label, .epoch, true, none⟩ List.mem_cons_self _ none rfl _ hpending rfl rfl

end Desk

end ChainProvision
