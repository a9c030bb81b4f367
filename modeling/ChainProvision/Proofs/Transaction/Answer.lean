import ChainProvision.Transaction.Tracker

/-!
# What an answer does to a submission

A suspended submission goes on when the answer comes that it waits for.  What the answer does to the
journal does not depend on whether the submission is still the current one; what the tracker shows
does.

## Main statements

- `Tracker.Resumed`: everything that one answer can lead to.
- `Tracker.resumed_resume`: the step of a submission is one of these.
-/

namespace ChainProvision

/-! ## The kinds of answers -/

/-- Whether an answer is of the kind that is waited for. -/
def Awaiting.fits : Awaiting → Answer → Bool
  | .signature, .signature _ => true
  | .broadcast, .broadcast _ => true
  | .receipt _, .receipt _ => true
  | _, _ => false

namespace Tracker

/-- The journal after an answer. -/
def journalAfter (m : Moment) (journal : Journal) (ticket : Ticket) (a : Answer) : Journal :=
  match ticket.awaiting, a with
  | .broadcast, .broadcast (.ok hash) => recorded m journal hash ticket.submission.label
  | .receipt hash, .receipt (.ok r) =>
    settled m journal hash (if r.succeeded then .confirmed else .failed)
  | .receipt hash, .receipt (.error _) => settled m journal hash .failed
  | _, _ => journal

/-- The failure that an answer means, if it means one. -/
def failureOf? (awaiting : Awaiting) (a : Answer) : Option TxError :=
  match awaiting, a with
  | .signature, .signature (.error e) => some (signingFailure e)
  | .broadcast, .broadcast (.error e) => some (.broadcast e.detail)
  | .receipt _, .receipt (.ok r) => if r.succeeded then none else some (revertFailure r)
  | .receipt _, .receipt (.error e) => some (receiptFailure e)
  | _, _ => none

/-- The tracker with another snapshot. -/
def showing (t : Tracker) (snapshot : TxSnapshot) : Tracker := { t with snapshot }

@[simp] theorem showing_generation (t : Tracker) (snapshot : TxSnapshot) :
    (t.showing snapshot).generation = t.generation := rfl

@[simp] theorem showing_snapshot (t : Tracker) (snapshot : TxSnapshot) :
    (t.showing snapshot).snapshot = snapshot := rfl

/-! ## The step on an answer -/

/-- What an answer can lead to.  Only the current submission publishes; a superseded one ends with
its next answer after the signature. -/
inductive Resumed (m : Moment) (t : Tracker) (journal : Journal) (ticket : Ticket) :
    Answer → Progress → Prop where
  /-- The answer is to something else. -/
  | unasked {a : Answer} :
      ticket.awaiting.fits a = false →
      Resumed m t journal ticket a ⟨t, journal, [], .suspended ticket⟩
  /-- The wallet has signed; nothing is published. -/
  | signed :
      ticket.awaiting = .signature →
      Resumed m t journal ticket (.signature (.ok ()))
        ⟨t, journal, [], .suspended { ticket with awaiting := .broadcast }⟩
  /-- The answer comes after the submission was superseded. -/
  | unseen {a : Answer} :
      t.generation ≠ ticket.generation →
      ticket.awaiting.fits a = true →
      (ticket.awaiting = .signature → ∃ e, a = .signature (.error e)) →
      Resumed m t journal ticket a ⟨t, journalAfter m journal ticket a, [], .ended none⟩
  /-- The transaction is broadcast. -/
  | sent {hash : TxHash} :
      t.generation = ticket.generation →
      ticket.awaiting = .broadcast →
      Resumed m t journal ticket (.broadcast (.ok hash))
        ⟨t.showing { t.snapshot with status := .pending, hash := some hash },
          journalAfter m journal ticket (.broadcast (.ok hash)),
          [{ t.snapshot with status := .pending, hash := some hash }],
          .suspended { ticket with awaiting := .receipt hash }⟩
  /-- The answer is a failure. -/
  | failed {a : Answer} {e : TxError} :
      t.generation = ticket.generation →
      failureOf? ticket.awaiting a = some e →
      Resumed m t journal ticket a
        ⟨t.showing { t.snapshot with status := .failed, error := some e },
          journalAfter m journal ticket a,
          [{ t.snapshot with status := .failed, error := some e }],
          .ended none⟩
  /-- The transaction is confirmed. -/
  | confirmed {hash : TxHash} {r : Receipt} :
      t.generation = ticket.generation →
      ticket.awaiting = .receipt hash →
      r.succeeded = true →
      Resumed m t journal ticket (.receipt (.ok r))
        ⟨t.showing { t.snapshot with
            status := .confirmed
            correlation :=
              correlationOf r.logs ticket.submission.request.contract ticket.submission.event },
          journalAfter m journal ticket (.receipt (.ok r)),
          [{ t.snapshot with
            status := .confirmed
            correlation :=
              correlationOf r.logs ticket.submission.request.contract ticket.submission.event }],
          .ended (some hash)⟩

/-- An answer that is a failure leads to `Resumed` whether or not the submission is current. -/
private theorem resumed_fail {m : Moment} {t : Tracker} {journal : Journal} {ticket : Ticket}
    {a : Answer} {e : TxError} (hfits : ticket.awaiting.fits a = true)
    (hsign : ticket.awaiting = .signature → ∃ e, a = .signature (.error e))
    (hfail : failureOf? ticket.awaiting a = some e) :
    Resumed m t journal ticket a (t.fail (journalAfter m journal ticket a) ticket.generation e) := by
  -- The failure is shown only if no later submission or reset has come.
  by_cases hcur : t.generation = ticket.generation
  · have : t.fail (journalAfter m journal ticket a) ticket.generation e =
        ⟨t.showing { t.snapshot with status := .failed, error := some e },
          journalAfter m journal ticket a,
          [{ t.snapshot with status := .failed, error := some e }], .ended none⟩ := by
      simp [fail, publish?, hcur, showing]
    rw [this]
    exact .failed hcur hfail
  · have : t.fail (journalAfter m journal ticket a) ticket.generation e =
        ⟨t, journalAfter m journal ticket a, [], .ended none⟩ := by
      simp [fail, publish?, hcur]
    rw [this]
    exact .unseen hcur hfits hsign

/-- **The step of a submission**: it leads to one of the things that an answer can lead to. -/
theorem resumed_resume (m : Moment) (t : Tracker) (journal : Journal) (ticket : Ticket) (a : Answer) :
    Resumed m t journal ticket a (t.resume m journal ticket a) := by
  obtain ⟨generation, submission, awaiting⟩ := ticket
  -- One case for each wait; of the answers, only those of its kind do anything.
  cases awaiting with
  | signature =>
    rcases a with (e | ⟨⟩) | _ | _
    · exact resumed_fail rfl (fun _ => ⟨e, rfl⟩) rfl
    · exact .signed rfl
    · exact .unasked rfl
    · exact .unasked rfl
  | broadcast =>
    rcases a with _ | (e | hash) | _
    · exact .unasked rfl
    · exact resumed_fail rfl (fun h => nomatch h) rfl
    · by_cases hcur : t.generation = generation
      · subst hcur
        have hsent : Resumed m t journal ⟨t.generation, submission, .broadcast⟩
            (.broadcast (.ok hash)) _ :=
          .sent rfl rfl
        simpa [resume, publish?, journalAfter, showing] using hsent
      · have hunseen : Resumed m t journal ⟨generation, submission, .broadcast⟩
            (.broadcast (.ok hash)) _ :=
          .unseen hcur rfl (fun h => nomatch h)
        simpa [resume, publish?, hcur, journalAfter] using hunseen
    · exact .unasked rfl
  | receipt hash =>
    rcases a with _ | _ | (e | r)
    · exact .unasked rfl
    · exact .unasked rfl
    · exact resumed_fail rfl (fun h => nomatch h) rfl
    · -- A revert is a failure like any other; only a success has more to show.
      by_cases hr : r.succeeded
      · by_cases hcur : t.generation = generation
        · subst hcur
          have hconfirmed : Resumed m t journal ⟨t.generation, submission, .receipt hash⟩
              (.receipt (.ok r)) _ :=
            .confirmed rfl rfl hr
          simpa [resume, publish?, journalAfter, showing, hr] using hconfirmed
        · have hunseen : Resumed m t journal ⟨generation, submission, .receipt hash⟩
              (.receipt (.ok r)) _ :=
            .unseen hcur rfl (fun h => nomatch h)
          simpa [resume, publish?, hcur, journalAfter, hr] using hunseen
      · have hfailed : Resumed m t journal ⟨generation, submission, .receipt hash⟩
            (.receipt (.ok r)) _ :=
          resumed_fail (e := revertFailure r) rfl (fun h => nomatch h) (by simp [failureOf?, hr])
        simpa [resume, journalAfter, hr] using hfailed

/-- What becomes of the journal does not depend on whether the submission is current. -/
theorem Resumed.journal_eq {m : Moment} {t : Tracker} {journal : Journal} {ticket : Ticket} {a : Answer}
    {p : Progress} (h : Resumed m t journal ticket a p) :
    p.journal = journalAfter m journal ticket a := by
  cases h with
  | unasked hfits =>
    obtain ⟨generation, submission, awaiting⟩ := ticket
    cases awaiting <;> cases a <;> first | rfl | cases hfits
  | signed hawait => simp [journalAfter, hawait]
  | unseen _ _ _ => rfl
  | sent _ _ => rfl
  | failed _ _ => rfl
  | confirmed _ _ _ => rfl

end Tracker

end ChainProvision
