import ChainProvision.Proofs.Transaction.Observer

/-!
# A submission on its own

Superseded submissions run on beside the latest one, and their answers may come in any order.  None of
this can be seen in the tracker: it shows what it would show if the latest submission had been the only
one there ever was.

## Main statements

- `Desk.alone`: the latest submission of a run and its own answers, as a run of its own.
- `Desk.only_latest_visible`: the tracker shows the same after both runs, and what it shows is coherent.
-/

namespace ChainProvision

/-! ## Coherent snapshots -/

/-- A snapshot has just the parts that belong to its status. -/
def TxSnapshot.Coherent (x : TxSnapshot) : Prop :=
  match x.status with
  | .idle => x.hash = none ∧ x.correlation = none ∧ x.error = none
  | .signing => x.hash = none ∧ x.correlation = none ∧ x.error = none
  | .pending => x.hash.isSome ∧ x.correlation = none ∧ x.error = none
  | .confirmed => x.hash.isSome ∧ x.error = none
  | .failed => x.error.isSome ∧ x.correlation = none

/-- How a submission stands, apart from its generation. -/
def Course.anonymous : Course → Course
  | .suspended ticket => .suspended { ticket with generation := 0 }
  | .ended result => .ended result

/-- What the current submission publishes on an answer, and how it stands then, depend only on what
the tracker shows and on how the submission stood. -/
theorem Tracker.resume_anonymous (m : Moment) (journal journal' : Journal) {t t' : Tracker}
    {ticket ticket' : Ticket} (hshown : t.snapshot = t'.snapshot)
    (hcurrent : t.generation = ticket.generation) (hcurrent' : t'.generation = ticket'.generation)
    (hticket : (Course.suspended ticket).anonymous = (Course.suspended ticket').anonymous)
    (a : Answer) :
    (t.resume m journal ticket a).seen = (t'.resume m journal' ticket' a).seen ∧
      (t.resume m journal ticket a).course.anonymous =
        (t'.resume m journal' ticket' a).course.anonymous := by
  obtain ⟨generation, submission, awaiting⟩ := ticket
  obtain ⟨generation', submission', awaiting'⟩ := ticket'
  -- Submission and wait are the same, and either generation is that of its tracker.
  obtain ⟨-, rfl, rfl⟩ := Ticket.mk.inj (Course.suspended.inj hticket)
  dsimp only at hcurrent hcurrent'
  subst hcurrent hcurrent'
  cases awaiting with
  | signature =>
    rcases a with (e | ⟨⟩) | _ | _ <;> simp [resume, fail, publish?, hshown, Course.anonymous]
  | broadcast =>
    rcases a with _ | (e | hash) | _ <;> simp [resume, fail, publish?, hshown, Course.anonymous]
  | receipt hash =>
    rcases a with _ | _ | (e | r)
    · simp [resume, Course.anonymous]
    · simp [resume, Course.anonymous]
    · simp [resume, fail, publish?, hshown, Course.anonymous]
    · by_cases hr : r.succeeded <;> simp [resume, fail, publish?, hshown, hr, Course.anonymous]

namespace Desk

variable {es : List (Moment × DeskEvent)} {call : Nat} {s : Submission} {seen : List TxSnapshot}
  {course : Course}

/-- All that an observer sees is coherent. -/
theorem Told.coherent (h : Told es call s seen course) : ∀ x ∈ seen, x.Coherent := by
  -- The opening is coherent by itself; an end adds one more snapshot to it.
  have hopening : ∀ hash?, ∀ x ∈ opening hash?, x.Coherent := by
    intro hash? x hx
    cases hash? with
    | none =>
      obtain rfl := List.mem_singleton.mp hx
      exact ⟨rfl, rfl, rfl⟩
    | some hash =>
      rcases List.mem_cons.mp hx with rfl | hx
      · exact ⟨rfl, rfl, rfl⟩
      · obtain rfl := List.mem_singleton.mp hx
        exact ⟨rfl, rfl, rfl⟩
  intro x hx
  cases h with
  | underway _ _ _ => exact hopening _ x hx
  | dropped _ => exact hopening _ x hx
  | failed _ =>
    rcases List.mem_append.mp hx with hx | hx
    · exact hopening _ x hx
    · obtain rfl := List.mem_singleton.mp hx
      exact ⟨rfl, rfl⟩
  | confirmed _ _ _ =>
    rcases List.mem_append.mp hx with hx | hx
    · exact hopening _ x hx
    · obtain rfl := List.mem_singleton.mp hx
      exact ⟨rfl, rfl⟩

/-! ## The run of the latest submission alone -/

/-- The submission that was started last since the last reset, as it is found along a run. -/
structure Solo where
  /-- How many submissions were started. -/
  started : Nat := 0
  /-- The start of the latest submission and the answers to it; empty if there is none. -/
  events : List (Moment × DeskEvent) := []

/-- The next event of a run; alone, the latest submission is the first one. -/
def Solo.note (o : Solo) : Moment × DeskEvent → Solo
  | (m, .submit s) => ⟨o.started + 1, [(m, .submit s)]⟩
  | (_, .reset) => { o with events := [] }
  | (m, .answer call a) =>
    if o.events ≠ [] ∧ call + 1 = o.started then
      { o with events := o.events ++ [(m, .answer 0 a)] }
    else o

def Solo.of (es : List (Moment × DeskEvent)) : Solo := es.foldl Solo.note {}

/-- The run of the latest submission alone, with its own answers. -/
def alone (es : List (Moment × DeskEvent)) : List (Moment × DeskEvent) := (Solo.of es).events

theorem Solo.of_concat (es : List (Moment × DeskEvent)) (e : Moment × DeskEvent) :
    Solo.of (es ++ [e]) = (Solo.of es).note e := List.foldl_concat ..

/-- The latest submission of a desk stands as the only one of the desk of its own run. -/
structure Matches (p : Desk × Account) (o : Solo) : Prop where
  started : o.started = p.1.calls.length
  nothing : p.2.latest = none → o.events = []
  latest : ∀ {call : Nat}, p.2.latest = some call →
    call + 1 = o.started ∧ o.events ≠ [] ∧ (afterAll o.events).2.latest = some 0 ∧
      ∃ seen course course', p.1.calls[call]? = some ⟨seen, course⟩ ∧
        (afterAll o.events).1.calls[0]? = some ⟨seen, course'⟩ ∧
        course.anonymous = course'.anonymous

/-- The tracker shows the same at both desks. -/
theorem Matches.snapshot_eq {o : Solo} (h : Matches (afterAll es) o) :
    (afterAll es).1.tracker.snapshot = (afterAll o.events).1.tracker.snapshot := by
  cases hlatest : (afterAll es).2.latest with
  | none =>
    rw [h.nothing hlatest]
    exact (visible_afterAll es).nothing hlatest
  | some call =>
    -- Both show what the observer of the submission saw last, and both observers saw the same.
    obtain ⟨-, -, hlatest', seen, course, course', hget, hget', -⟩ := h.latest hlatest
    obtain ⟨_, _, hseen, hlast⟩ := (visible_afterAll es).latest hlatest
    obtain ⟨_, _, hseen', hlast'⟩ := (visible_afterAll o.events).latest hlatest'
    rw [hget] at hseen
    rw [hget'] at hseen'
    cases hseen
    cases hseen'
    exact Option.some.inj (hlast.symm.trans hlast')

/-- An answer to another submission than the latest one is not seen. -/
private theorem Matches.other {o : Solo} {m : Moment} {a : Answer} (h : Matches (afterAll es) o)
    (hother : (afterAll es).2.latest ≠ some call) :
    Matches (Desk.step (afterAll es) (m, .answer call a)) o where
  started := by
    rw [h.started]
    rcases handle_answer_cases m (afterAll es).1 call a with heq | ⟨seen, ticket, p, -, -, heq⟩
    · rw [Desk.step, heq]
    · rw [Desk.step, heq, List.length_set]
  nothing hnone := h.nothing (note_answer_latest _ _ m call a ▸ hnone)
  latest := by
    intro i hi
    have hi' : (afterAll es).2.latest = some i := (note_answer_latest _ _ m call a).symm.trans hi
    obtain ⟨hnumber, hne, hlatest, seen, course, course', hget, hrest⟩ := h.latest hi'
    refine ⟨hnumber, hne, hlatest, seen, course, course', ?_, hrest⟩
    rcases handle_answer_cases m (afterAll es).1 call a with heq | ⟨_, ticket, p, -, -, heq⟩
    · rw [Desk.step, heq]
      exact hget
    · rw [Desk.step, heq]
      have hne : call ≠ i := by
        rintro rfl
        exact hother hi'
      exact (List.getElem?_set_ne hne).trans hget

/-- The latest submission does the same on an answer in its own run. -/
private theorem Matches.own {o : Solo} {m : Moment} {a : Answer} (h : Matches (afterAll es) o)
    (hlatest : (afterAll es).2.latest = some call) :
    Matches (Desk.step (afterAll es) (m, .answer call a))
      { o with events := o.events ++ [(m, .answer 0 a)] } := by
  have hsnapshot := h.snapshot_eq
  obtain ⟨hnumber, -, hlatest', seen, course, course', hget, hget', hcourse⟩ := h.latest hlatest
  have hlatest_step := (note_answer_latest (afterAll es).2 (afterAll es).1 m call a).trans hlatest
  have hlatest_step' :=
    (note_answer_latest (afterAll o.events).2 (afterAll o.events).1 m 0 a).trans hlatest'
  -- What is left to show is how the call stands at both desks.
  suffices hcalls : (Desk.step (afterAll es) (m, .answer call a)).1.calls.length =
        (afterAll es).1.calls.length ∧
      ∃ seen course course',
        (Desk.step (afterAll es) (m, .answer call a)).1.calls[call]? = some ⟨seen, course⟩ ∧
        (Desk.step (afterAll o.events) (m, .answer 0 a)).1.calls[0]? = some ⟨seen, course'⟩ ∧
        course.anonymous = course'.anonymous by
    obtain ⟨hlength, hcalls⟩ := hcalls
    refine ⟨h.started.trans hlength.symm, fun hnone => ?_, fun {i} hi => ?_⟩
    · cases hlatest_step.symm.trans hnone
    · obtain rfl := Option.some.inj (hlatest_step.symm.trans hi)
      rw [afterAll_concat]
      exact ⟨hnumber, by simp, hlatest_step', hcalls⟩
  cases course with
  | ended result =>
    -- A submission that has ended at one desk has ended at the other; neither takes the answer.
    obtain ⟨_, rfl⟩ : ∃ result', course' = .ended result' := by
      cases course' with
      | suspended ticket' => cases hcourse
      | ended result' => exact ⟨result', rfl⟩
    refine ⟨by simp [Desk.step, handle, hget], seen, _, _, ?_, ?_, hcourse⟩
    · simp [Desk.step, handle, hget]
    · simp [Desk.step, handle, hget']
  | suspended ticket =>
    obtain ⟨ticket', rfl⟩ : ∃ ticket', course' = .suspended ticket' := by
      cases course' with
      | suspended ticket' => exact ⟨ticket', rfl⟩
      | ended result' => cases hcourse
    -- The submission is the current one at both desks, so both take the answer alike.
    have hcurrent := ((accounted_afterAll es).latest hget).2.mpr hlatest
    have hcurrent' := ((accounted_afterAll o.events).latest hget').2.mpr hlatest'
    obtain ⟨hseen, hnext⟩ := Tracker.resume_anonymous m (afterAll es).1.journal
      (afterAll o.events).1.journal hsnapshot hcurrent.symm hcurrent'.symm hcourse a
    have hstep := get_handle_answer m hget a
    have hstep' := get_handle_answer m hget' a
    rw [← hseen] at hstep'
    exact ⟨by simp [Desk.step, handle, hget], _, _, _, hstep, hstep', hnext⟩

theorem matches_afterAll (es : List (Moment × DeskEvent)) : Matches (afterAll es) (Solo.of es) := by
  -- From the end of the run: an answer is one to the latest submission, or it is left out.
  induction es using List.reverseRecOn with
  | nil =>
    refine ⟨rfl, fun _ => rfl, fun hlatest => ?_⟩
    cases hlatest
  | append_singleton es e ih =>
    rw [afterAll_concat, Solo.of_concat]
    obtain ⟨m, e⟩ := e
    cases e with
    | submit s =>
      refine ⟨?_, fun hnone => ?_, fun {call} hlatest => ?_⟩
      · simp [Solo.note, Desk.step, handle, ih.started]
      · cases hnone
      · obtain rfl := Option.some.inj hlatest
        refine ⟨by simp [Solo.note, ih.started], by simp [Solo.note], rfl, _, _, _,
          List.getElem?_concat_length, rfl, rfl⟩
    | reset =>
      refine ⟨ih.started, fun _ => rfl, fun hlatest => ?_⟩
      cases hlatest
    | answer call a =>
      by_cases hlatest : (afterAll es).2.latest = some call
      · obtain ⟨hnumber, hne, -⟩ := ih.latest hlatest
        rw [Solo.note, if_pos ⟨hne, hnumber⟩]
        exact ih.own hlatest
      · -- Another submission has another number, or there is no latest one.
        have hskip : ¬ ((Solo.of es).events ≠ [] ∧ call + 1 = (Solo.of es).started) := by
          rintro ⟨hne, hnumber⟩
          cases hsome : (afterAll es).2.latest with
          | none => exact hne (ih.nothing hsome)
          | some i =>
            have hi := (ih.latest hsome).1
            exact hlatest (hsome.trans (congrArg some (by omega)))
        rw [Solo.note, if_neg hskip]
        exact ih.other hlatest

/-- **Only the latest submission is visible.**  After any events, the tracker shows what it shows after
the run of the submission that was started last since the last reset, alone with its own answers; this
is nothing if there is none.  What it shows is coherent. -/
theorem only_latest_visible (es : List (Moment × DeskEvent)) :
    (afterAll es).1.tracker.snapshot = (afterAll (alone es)).1.tracker.snapshot ∧
      (alone es = [] → (afterAll es).1.tracker.snapshot = {}) ∧
      (afterAll es).1.tracker.snapshot.Coherent := by
  have hmatches := matches_afterAll es
  refine ⟨hmatches.snapshot_eq, ?_, ?_⟩
  · intro hempty
    rw [hmatches.snapshot_eq, show (Solo.of es).events = [] from hempty]
    rfl
  · cases hlatest : (afterAll es).2.latest with
    | none =>
      rw [(visible_afterAll es).nothing hlatest]
      exact ⟨rfl, rfl, rfl⟩
    | some call =>
      -- What is shown is the last that the observer of the submission saw.
      obtain ⟨seen, course, hget, hlast⟩ := (visible_afterAll es).latest hlatest
      have hlt : call < (submissions es).length := calls_length es ▸ Calls.lt_of_get hget
      exact (told_afterAll (List.getElem?_eq_getElem hlt) hget).coherent _
        (List.mem_of_getLast? hlast)

end Desk

end ChainProvision
