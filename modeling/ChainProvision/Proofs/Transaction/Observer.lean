import ChainProvision.Proofs.Transaction.Account
import Mathlib.Data.List.Infix

/-!
# What the observer of a submission sees

The observer of a submission sees what the tracker shows as long as the submission is the latest one.
If nothing comes between, it sees one of three courses to the end, and the last status tells what
`submit` returns.  If a reset or another submission comes between, it sees a part of one of them, and
then nothing more.

## Main statements

- `correlationOf_eq_some_iff`: the number that identifies a call is that of the first log that has one.
- `Desk.visible_afterAll`: the tracker shows what the latest submission was told last.
- `Desk.told_afterAll`: all that a submission can have been told.
- `Desk.observer_and_result_agree`: the statuses that an observer sees, and the result.
-/

namespace ChainProvision

/-! ## The logs of a receipt -/

/-- The log is one of `contract` and `event`, and its key is the number `id`. -/
def Log.Numbers (log : Log) (contract : Address) (event : String) (id : Word64) : Prop :=
  log.address = contract ∧ log.event = event ∧
    ∃ key, log.key = some key ∧
      Text.readNumeral UInt64.size Word64.size_pos (Text.strip key.toList) = .ok id

/-- The number that one log gives. -/
private def numberOf (contract : Address) (event : String) (log : Log) : Option Word64 :=
  if log.address = contract ∧ log.event = event then
    match log.key with
    | some key => (Text.readNumeral UInt64.size Word64.size_pos (Text.strip key.toList)).toOption
    | none => none
  else none

private theorem numberOf_eq_some_iff {contract : Address} {event : String} {log : Log} {id : Word64} :
    numberOf contract event log = some id ↔ log.Numbers contract event id := by
  by_cases hfrom : log.address = contract ∧ log.event = event
  · cases hkey : log.key with
    | none => simp [numberOf, Log.Numbers, hfrom, hkey]
    | some key =>
      rw [numberOf, if_pos hfrom, hkey]
      cases hread : Text.readNumeral UInt64.size Word64.size_pos (Text.strip key.toList) with
      | error e => simp [Log.Numbers, hfrom, hkey, hread, Except.toOption]
      | ok n => simp [Log.Numbers, hfrom, hkey, hread, Except.toOption]
  · constructor
    · intro h
      simp [numberOf, hfrom] at h
    · rintro ⟨haddress, hevent, -⟩
      exact absurd ⟨haddress, hevent⟩ hfrom

/-- A call is identified by the first log of the contract and the event that has a number as its
key. -/
theorem correlationOf_eq_some_iff {logs : List Log} {contract : Address} {event : String}
    {id : Word64} :
    correlationOf logs contract event = some id ↔
      ∃ before log after, logs = before ++ log :: after ∧ log.Numbers contract event id ∧
        ∀ l ∈ before, ∀ n, ¬ l.Numbers contract event n := by
  have hnone : ∀ l : Log, numberOf contract event l = none ↔ ∀ n, ¬ l.Numbers contract event n := by
    intro l
    simp [Option.eq_none_iff_forall_ne_some, numberOf_eq_some_iff]
  rw [show correlationOf logs contract event = logs.findSome? (numberOf contract event) from rfl,
    List.findSome?_eq_some_iff]
  simp [numberOf_eq_some_iff, hnone]

/-! ## Interruptions and answers -/

/-- A reset or a submission: after it, no earlier submission may publish. -/
def DeskEvent.intervenes : DeskEvent → Bool
  | .submit _ => true
  | .reset => true
  | .answer _ _ => false

/-- The submission that an event starts. -/
def DeskEvent.submission? : DeskEvent → Option Submission
  | .submit s => some s
  | .reset => none
  | .answer _ _ => none

/-- The transaction whose receipt is waited for. -/
def Awaiting.hash? : Awaiting → Option TxHash
  | .signature => none
  | .broadcast => none
  | .receipt hash => some hash

namespace Desk

variable {es : List (Moment × DeskEvent)} {call : Nat} {s : Submission} {seen : List TxSnapshot}
  {course : Course} {ticket : Ticket}

theorem afterAll_concat (es : List (Moment × DeskEvent)) (e : Moment × DeskEvent) :
    afterAll (es ++ [e]) = step (afterAll es) e := by
  rw [afterAll_append, run_cons]
  rfl

/-- The submissions that were started, in order. -/
def submissions (es : List (Moment × DeskEvent)) : List Submission :=
  es.filterMap fun e => e.2.submission?

/-- The submission `call` is suspended after `es`. -/
def InFlight (es : List (Moment × DeskEvent)) (call : Nat) (ticket : Ticket) : Prop :=
  ∃ seen, (afterAll es).1.calls[call]? = some ⟨seen, .suspended ticket⟩

/-- A reset or another submission came before the submission `call` had ended. -/
def Interrupted (es : List (Moment × DeskEvent)) (call : Nat) : Prop :=
  ∃ before e after, es = before ++ e :: after ∧ e.2.intervenes = true ∧
    ∃ ticket, InFlight before call ticket

/-- The submission `call` was given an answer while it waited for `awaiting`. -/
def Answered (es : List (Moment × DeskEvent)) (call : Nat) (awaiting : Awaiting) (a : Answer) : Prop :=
  ∃ before m after, es = before ++ (m, .answer call a) :: after ∧
    ∃ ticket, InFlight before call ticket ∧ ticket.awaiting = awaiting

theorem interrupted_concat {e : Moment × DeskEvent} :
    Interrupted (es ++ [e]) call ↔
      Interrupted es call ∨ e.2.intervenes = true ∧ ∃ ticket, InFlight es call ticket := by
  constructor
  · rintro ⟨before, x, after, heq, hx, hflight⟩
    -- The interruption is the last event, or it is one of the others.
    rcases List.eq_nil_or_concat' after with rfl | ⟨rest, y, rfl⟩
    · obtain ⟨rfl, hlast⟩ := List.append_inj' heq rfl
      obtain rfl := (List.cons.inj hlast).1
      exact Or.inr ⟨hx, hflight⟩
    · rw [← List.cons_append, ← List.append_assoc] at heq
      obtain ⟨rfl, -⟩ := List.append_inj' heq rfl
      exact Or.inl ⟨before, x, rest, rfl, hx, hflight⟩
  · rintro (⟨before, x, after, rfl, hx, hflight⟩ | ⟨he, hflight⟩)
    · exact ⟨before, x, after ++ [e], by simp, hx, hflight⟩
    · exact ⟨es, e, [], rfl, he, hflight⟩

/-- What was answered stays so. -/
theorem Answered.concat {awaiting : Awaiting} {a : Answer} (h : Answered es call awaiting a)
    (e : Moment × DeskEvent) : Answered (es ++ [e]) call awaiting a := by
  obtain ⟨before, m, after, rfl, hflight⟩ := h
  exact ⟨before, m, after ++ [e], by simp, hflight⟩

theorem InFlight.answered (h : InFlight es call ticket) (m : Moment) (a : Answer) :
    Answered (es ++ [(m, .answer call a)]) call ticket.awaiting a :=
  ⟨es, m, [], rfl, ticket, h, rfl⟩

/-! ## The step on an answer -/

/-- An answer to a submission that is not suspended changes nothing; any other one makes a step of
that submission. -/
theorem handle_answer_cases (m : Moment) (d : Desk) (call : Nat) (a : Answer) :
    d.handle m (.answer call a) = d ∨
      ∃ seen ticket p, d.calls[call]? = some ⟨seen, .suspended ticket⟩ ∧
        Tracker.Resumed m d.tracker d.journal ticket a p ∧
        d.handle m (.answer call a) =
          ⟨p.tracker, p.journal, d.calls.set call ⟨seen ++ p.seen, p.course⟩⟩ := by
  -- The call may not be there, may have ended, or is suspended.
  cases hget : d.calls[call]? with
  | none => exact Or.inl (by simp [handle, hget])
  | some c =>
    obtain ⟨seen, course⟩ := c
    cases course with
    | ended result => exact Or.inl (by simp [handle, hget])
    | suspended ticket =>
      exact Or.inr ⟨seen, ticket, _, rfl, Tracker.resumed_resume m d.tracker d.journal ticket a,
        by simp [handle, hget]⟩

/-- The call of a suspended submission after its step. -/
theorem get_handle_answer {d : Desk} (m : Moment)
    (hget : d.calls[call]? = some ⟨seen, .suspended ticket⟩) (a : Answer) :
    (d.handle m (.answer call a)).calls[call]? =
      some ⟨seen ++ (d.tracker.resume m d.journal ticket a).seen,
        (d.tracker.resume m d.journal ticket a).course⟩ := by
  simp only [handle, hget]
  exact List.getElem?_set_self (Calls.lt_of_get hget)

theorem note_answer_latest (c : Account) (d : Desk) (m : Moment) (call : Nat) (a : Answer) :
    (c.note d m (.answer call a)).latest = c.latest := by
  simp only [Account.note]
  split
  · simp only [Account.answered]
    split <;> rfl
  · rfl

theorem calls_length (es : List (Moment × DeskEvent)) :
    (afterAll es).1.calls.length = (submissions es).length := by
  -- From the end of the run: a submission adds a call, and an answer changes one in its place.
  induction es using List.reverseRecOn with
  | nil => rfl
  | append_singleton es e ih =>
    obtain ⟨m, e⟩ := e
    rw [afterAll_concat, submissions, List.filterMap_append, List.length_append, ← submissions, ← ih]
    cases e with
    | submit s => simp [step, handle, DeskEvent.submission?]
    | reset => simp [step, handle, DeskEvent.submission?]
    | answer call a =>
      rcases handle_answer_cases m (afterAll es).1 call a with h | ⟨seen, ticket, p, -, -, h⟩
      · simp [step, h, DeskEvent.submission?]
      · simp [step, h, DeskEvent.submission?]

/-! ## What the tracker shows -/

/-- The tracker shows what the latest submission was told last. -/
structure Visible (d : Desk) (c : Account) : Prop where
  nothing : c.latest = none → d.tracker.snapshot = {}
  latest : ∀ {call : Nat}, c.latest = some call →
    ∃ seen course, d.calls[call]? = some ⟨seen, course⟩ ∧ seen.getLast? = some d.tracker.snapshot

/-- A step of a submission keeps this if the submission publishes only as the latest one, and what it
publishes is shown. -/
private theorem Visible.set {d : Desk} {c : Account} {tracker : Tracker} {journal : Journal}
    {told : List TxSnapshot} (h : Visible d c)
    (hget : d.calls[call]? = some ⟨seen, .suspended ticket⟩)
    (htold : told = [] ∧ tracker.snapshot = d.tracker.snapshot ∨
      told = [tracker.snapshot] ∧ c.latest = some call) :
    Visible ⟨tracker, journal, d.calls.set call ⟨seen ++ told, course⟩⟩ c where
  nothing hnone := by
    rcases htold with ⟨-, hsame⟩ | ⟨-, hlatest⟩
    · exact hsame.trans (h.nothing hnone)
    · rw [hnone] at hlatest
      cases hlatest
  latest := by
    intro i hi
    obtain ⟨seen', course', hget', hlast⟩ := h.latest hi
    by_cases heq : i = call
    · -- The latest submission goes on: what it was told last is what it is told now, if anything.
      subst heq
      obtain ⟨rfl, rfl⟩ := SubmitCall.mk.inj (Option.some.inj (hget.symm.trans hget'))
      refine ⟨_, _, List.getElem?_set_self (Calls.lt_of_get hget), ?_⟩
      rcases htold with ⟨rfl, hsame⟩ | ⟨rfl, -⟩
      · rw [List.append_nil, hsame]
        exact hlast
      · exact List.getLast?_concat
    · -- Another submission goes on, which publishes nothing.
      rcases htold with ⟨-, hsame⟩ | ⟨-, hlatest⟩
      · refine ⟨seen', course', ?_, hsame ▸ hlast⟩
        exact (List.getElem?_set_ne (Ne.symm heq)).trans hget'
      · exact absurd (Option.some.inj (hi.symm.trans hlatest)) heq

theorem Visible.step {p : Desk × Account} (h : Visible p.1 p.2) (hacc : Accounted p.1 p.2)
    (e : Moment × DeskEvent) : Visible (step p e).1 (step p e).2 := by
  obtain ⟨d, c⟩ := p
  obtain ⟨m, e⟩ := e
  cases e with
  | submit s =>
    refine ⟨fun hnone => (nomatch hnone), fun {call} hlatest => ?_⟩
    obtain rfl := Option.some.inj hlatest
    exact ⟨_, _, List.getElem?_concat_length, rfl⟩
  | reset => exact ⟨fun _ => rfl, fun hlatest => nomatch hlatest⟩
  | answer call a =>
    have hsame := note_answer_latest c d m call a
    -- The account has the same latest submission, and `Visible` looks at nothing else in it.
    suffices hvisible : Visible (d.handle m (.answer call a)) c from
      ⟨fun hnone => hvisible.nothing (hsame.symm.trans hnone),
        fun hlatest => hvisible.latest (hsame.symm.trans hlatest)⟩
    rcases handle_answer_cases m d call a with heq | ⟨seen, ticket, p, hget, hresumed, heq⟩
    · rw [heq]
      exact h
    · rw [heq]
      have hcurrent : d.tracker.generation = ticket.generation → c.latest = some call :=
        fun hgen => (hacc.latest hget).2.mp hgen.symm
      cases hresumed with
      | unasked _ => exact h.set hget (Or.inl ⟨rfl, rfl⟩)
      | signed _ => exact h.set hget (Or.inl ⟨rfl, rfl⟩)
      | unseen _ _ _ => exact h.set hget (Or.inl ⟨rfl, rfl⟩)
      | sent hgen _ => exact h.set hget (Or.inr ⟨rfl, hcurrent hgen⟩)
      | failed hgen _ => exact h.set hget (Or.inr ⟨rfl, hcurrent hgen⟩)
      | confirmed hgen _ _ => exact h.set hget (Or.inr ⟨rfl, hcurrent hgen⟩)

theorem visible_afterAll (es : List (Moment × DeskEvent)) :
    Visible (afterAll es).1 (afterAll es).2 := by
  induction es using List.reverseRecOn with
  | nil => exact ⟨fun _ => rfl, fun hlatest => nomatch hlatest⟩
  | append_singleton es e ih =>
    rw [afterAll_concat]
    exact ih.step (accounted_afterAll es) e

/-- A suspended submission was interrupted just if it is not the latest one any more. -/
theorem InFlight.interrupted_iff (h : InFlight es call ticket) :
    Interrupted es call ↔ (afterAll es).2.latest ≠ some call := by
  induction es using List.reverseRecOn generalizing ticket with
  | nil =>
    obtain ⟨seen, hget⟩ := h
    cases hget
  | append_singleton es e ih =>
    obtain ⟨m, e⟩ := e
    obtain ⟨seen, hget⟩ := h
    rw [interrupted_concat]
    rw [afterAll_concat] at hget ⊢
    cases e with
    | submit s =>
      rcases Calls.get_of_concat hget with hold | ⟨rfl, -⟩
      · -- An earlier submission is interrupted by this one.
        have hne : (afterAll es).1.calls.length ≠ call := Nat.ne_of_gt (Calls.lt_of_get hold)
        exact iff_of_true (Or.inr ⟨rfl, ticket, seen, hold⟩)
          fun hlatest => hne (Option.some.inj hlatest)
      · -- The submission itself did not exist before.
        refine iff_of_false ?_ (fun hne => hne rfl)
        rintro (⟨before, x, after, rfl, -, t, s', hbefore⟩ | ⟨-, t, s', hbefore⟩)
        · have hlt := Calls.lt_of_get hbefore
          rw [calls_length, calls_length] at hlt
          simp only [submissions, List.filterMap_append, List.length_append] at hlt
          omega
        · exact absurd (Calls.lt_of_get hbefore) (Nat.lt_irrefl _)
    | reset => exact iff_of_true (Or.inr ⟨rfl, ticket, seen, hget⟩) (fun hlatest => nomatch hlatest)
    | answer i a =>
      -- An answer interrupts nobody; a call that is suspended after it was so before.
      have hbefore : ∃ t, InFlight es call t := by
        rcases handle_answer_cases m (afterAll es).1 i a with heq | ⟨seen', t, p, hi, -, heq⟩
        · exact ⟨ticket, seen, heq ▸ hget⟩
        · rw [Desk.step, heq] at hget
          rcases Calls.get_of_set hget with ⟨hold, -⟩ | ⟨rfl, -⟩
          · exact ⟨ticket, seen, hold⟩
          · exact ⟨t, seen', hi⟩
      obtain ⟨t, ht⟩ := hbefore
      have hlatest : (Desk.step (afterAll es) (m, .answer i a)).2.latest = (afterAll es).2.latest :=
        note_answer_latest _ _ m i a
      rw [hlatest, ← ih ht]
      simp [DeskEvent.intervenes]

/-! ## What a submission was told -/

/-- What a submission sees up to its end, with the transaction that it has broadcast. -/
def opening (hash? : Option TxHash) : List TxSnapshot :=
  { status := .signing } :: (hash?.map fun hash => { status := .pending, hash }).toList

/-- What has been answered to a submission that has come to a wait. -/
def Granted (es : List (Moment × DeskEvent)) (call : Nat) : Awaiting → Prop
  | .signature => True
  | .broadcast => Answered es call .signature (.signature (.ok ()))
  | .receipt hash =>
    Answered es call .signature (.signature (.ok ())) ∧
      Answered es call .broadcast (.broadcast (.ok hash))

theorem Granted.concat {awaiting : Awaiting} (h : Granted es call awaiting) (e : Moment × DeskEvent) :
    Granted (es ++ [e]) call awaiting := by
  cases awaiting with
  | signature => exact h
  | broadcast => exact Answered.concat h e
  | receipt hash => exact ⟨h.1.concat e, h.2.concat e⟩

/-- All that the submission `call` can have been told, and how it stands then. -/
inductive Told (es : List (Moment × DeskEvent)) (call : Nat) (s : Submission) :
    List TxSnapshot → Course → Prop where
  | underway (ticket : Ticket) :
      ticket.submission = s →
      Granted es call ticket.awaiting →
      Told es call s (opening ticket.awaiting.hash?) (.suspended ticket)
  /-- It was interrupted, and nothing was published after that. -/
  | dropped {hash? : Option TxHash} :
      Interrupted es call →
      Told es call s (opening hash?) (.ended none)
  | failed {hash? : Option TxHash} {e : TxError} :
      ¬ Interrupted es call →
      Told es call s (opening hash? ++ [{ status := .failed, hash := hash?, error := some e }])
        (.ended none)
  | confirmed {hash : TxHash} {r : Receipt} :
      ¬ Interrupted es call →
      Answered es call (.receipt hash) (.receipt (.ok r)) →
      r.succeeded = true →
      Told es call s
        (opening (some hash) ++
          [{ status := .confirmed, hash := some hash
             correlation := correlationOf r.logs s.request.contract s.event }])
        (.ended (some hash))

/-- What a submission was told stays so as long as it makes no step. -/
theorem Told.concat (h : Told es call s seen course)
    (hget : (afterAll es).1.calls[call]? = some ⟨seen, course⟩) (e : Moment × DeskEvent) :
    Told (es ++ [e]) call s seen course := by
  -- A submission that has ended cannot be interrupted any more.
  have hended : ∀ result, course = .ended result →
      (Interrupted (es ++ [e]) call ↔ Interrupted es call) := by
    rintro result rfl
    rw [interrupted_concat]
    refine ⟨?_, Or.inl⟩
    rintro (h | ⟨-, ticket, seen', hget'⟩)
    · exact h
    · rw [hget] at hget'
      cases hget'
  cases h with
  | underway ticket hs hgranted => exact .underway ticket hs (hgranted.concat e)
  | dropped hcut => exact .dropped ((hended _ rfl).mpr hcut)
  | failed hcut => exact .failed (mt (hended _ rfl).mp hcut)
  | confirmed hcut hreceipt hr => exact .confirmed (mt (hended _ rfl).mp hcut) (hreceipt.concat e) hr

/-- The latest submission sees what the tracker shows. -/
private theorem snapshot_of_opening {hash? : Option TxHash} {d : Desk} {c : Account}
    (h : Visible d c) (hlatest : c.latest = some call)
    (hget : d.calls[call]? = some ⟨opening hash?, course⟩) :
    d.tracker.snapshot =
      { status := if hash?.isSome then .pending else .signing, hash := hash? } := by
  obtain ⟨seen, course', hget', hlast⟩ := h.latest hlatest
  obtain ⟨rfl, rfl⟩ := SubmitCall.mk.inj (Option.some.inj (hget.symm.trans hget'))
  cases hash? with
  | none => exact (Option.some.inj hlast).symm
  | some hash => exact (Option.some.inj hlast).symm

/-- An answer to a suspended submission leads to one of the things that it can have been told. -/
theorem Told.resumed {m : Moment} {a : Answer} {p : Progress}
    (h : Told es call s seen (.suspended ticket))
    (hget : (afterAll es).1.calls[call]? = some ⟨seen, .suspended ticket⟩)
    (hresumed : Tracker.Resumed m (afterAll es).1.tracker (afterAll es).1.journal ticket a p) :
    Told (es ++ [(m, .answer call a)]) call s (seen ++ p.seen) p.course := by
  have hflight : InFlight es call ticket := ⟨seen, hget⟩
  have hanswered := hflight.answered m a
  have hlatest := ((accounted_afterAll es).latest hget).2
  -- An answer is no interruption; whether there was one before, the generation tells.
  have hcut : Interrupted (es ++ [(m, .answer call a)]) call ↔
      (afterAll es).1.tracker.generation ≠ ticket.generation := by
    rw [interrupted_concat, hflight.interrupted_iff, Ne, Ne, ← hlatest, eq_comm]
    simp [DeskEvent.intervenes]
  -- A suspended submission has seen its opening, as far as its wait shows.
  obtain ⟨hs, hgranted⟩ : ticket.submission = s ∧ Granted es call ticket.awaiting := by
    cases h with
    | underway _ hs hgranted => exact ⟨hs, hgranted⟩
  obtain rfl : seen = opening ticket.awaiting.hash? := by
    cases h with
    | underway _ _ _ => rfl
  have hsnapshot := fun hgen =>
    snapshot_of_opening (visible_afterAll es) (hlatest.mp hgen) hget
  cases hresumed with
  | unasked _ =>
    rw [List.append_nil]
    exact .underway ticket hs (hgranted.concat _)
  | signed hawait =>
    rw [List.append_nil, hawait]
    rw [hawait] at hanswered
    exact .underway { ticket with awaiting := .broadcast } hs hanswered
  | unseen hgen _ _ =>
    rw [List.append_nil]
    exact .dropped (hcut.mpr hgen)
  | @sent hash hgen hawait =>
    rw [hsnapshot hgen.symm, hawait]
    rw [hawait] at hanswered hgranted
    exact .underway { ticket with awaiting := .receipt hash } hs
      ⟨Answered.concat hgranted _, hanswered⟩
  | failed hgen hfail =>
    rw [hsnapshot hgen.symm]
    exact .failed (fun h => hcut.mp h hgen)
  | @confirmed hash r hgen hawait hr =>
    rw [hsnapshot hgen.symm, hs, hawait]
    rw [hawait] at hanswered
    exact .confirmed (fun h => hcut.mp h hgen) hanswered hr

/-- Every submission was told one of these things. -/
theorem told_afterAll (hs : (submissions es)[call]? = some s)
    (hget : (afterAll es).1.calls[call]? = some ⟨seen, course⟩) : Told es call s seen course := by
  -- From the end of the run: the last event is a step of this submission, or it leaves it alone.
  induction es using List.reverseRecOn generalizing seen course with
  | nil => cases hget
  | append_singleton es e ih =>
    obtain ⟨m, e⟩ := e
    rw [submissions, List.filterMap_append] at hs
    rw [afterAll_concat] at hget
    cases e with
    | submit t =>
      rcases Calls.get_of_concat hget with hold | ⟨rfl, hnew⟩
      · rw [List.getElem?_append_left (calls_length es ▸ Calls.lt_of_get hold)] at hs
        exact (ih hs hold).concat hold _
      · -- The new submission waits for the wallet.
        rw [calls_length, ← submissions, List.getElem?_append_right (Nat.le_refl _)] at hs
        obtain rfl : t = s := by simpa [DeskEvent.submission?] using hs
        obtain ⟨rfl, rfl⟩ := SubmitCall.mk.inj hnew
        exact .underway ((afterAll es).1.tracker.submit t).2 rfl trivial
    | reset =>
      rw [List.filterMap_cons_none rfl, List.filterMap_nil, List.append_nil] at hs
      exact (ih hs hget).concat hget _
    | answer i a =>
      rw [List.filterMap_cons_none rfl, List.filterMap_nil, List.append_nil] at hs
      rcases handle_answer_cases m (afterAll es).1 i a with heq | ⟨seen', t, p, hi, hresumed, heq⟩
      · rw [Desk.step, heq] at hget
        exact (ih hs hget).concat hget _
      · rw [Desk.step, heq] at hget
        rcases Calls.get_of_set hget with ⟨hold, -⟩ | ⟨rfl, hnew⟩
        · exact (ih hs hold).concat hold _
        · obtain ⟨rfl, rfl⟩ := SubmitCall.mk.inj hnew
          exact (ih hs hi).resumed hi hresumed

/-! ## The observer and the result -/

/-- The statuses that a submission goes through to its end. -/
def courses : List (List TxStatus) := [
  [.signing, .pending, .confirmed],
  [.signing, .failed],
  [.signing, .pending, .failed]]

/-- The statuses are only a part of such a course. -/
def BrokenOff (statuses : List TxStatus) : Prop :=
  ∃ full ∈ courses, statuses <+: full ∧ statuses ≠ full

/-- What the observer of a submission has seen agrees with how the submission stands. -/
structure Agreement (es : List (Moment × DeskEvent)) (call : Nat) (s : Submission)
    (seen : List TxSnapshot) (course : Course) : Prop where
  /-- A submission that has ended has gone through a whole course just if nothing intervened, and
  through a part of one just if something did. -/
  ended : ∀ result, course = .ended result →
    (seen.map TxSnapshot.status ∈ courses ↔ ¬ Interrupted es call) ∧
      (BrokenOff (seen.map TxSnapshot.status) ↔ Interrupted es call)
  /-- A submission that is suspended has gone through a part so far.  It comes to the broadcast only
  after the wallet has signed, and to the wait for a receipt only after the broadcast. -/
  underway : ∀ ticket, course = .suspended ticket →
    BrokenOff (seen.map TxSnapshot.status) ∧ Granted es call ticket.awaiting
  /-- A hash is returned just if the last status is that of a confirmation. -/
  result : (∃ hash, course = .ended (some hash)) ↔
    (seen.map TxSnapshot.status).getLast? = some .confirmed
  /-- The hash is the one that was seen with the status pending, and the call is identified by the
  first log in its receipt from the contract and of the event that has a number as its key. -/
  confirmed : ∀ hash, course = .ended (some hash) →
    ∃ signing pending confirmed r, seen = [signing, pending, confirmed] ∧
      pending.status = .pending ∧ pending.hash = some hash ∧ confirmed.hash = some hash ∧
      Answered es call (.receipt hash) (.receipt (.ok r)) ∧ r.succeeded = true ∧
      ∀ id, confirmed.correlation = some id ↔
        ∃ before log after, r.logs = before ++ log :: after ∧
          log.Numbers s.request.contract s.event id ∧
          ∀ l ∈ before, ∀ n, ¬ l.Numbers s.request.contract s.event n

private theorem brokenOff_opening (hash? : Option TxHash) :
    BrokenOff ((opening hash?).map TxSnapshot.status) := by
  refine ⟨[.signing, .pending, .failed], by simp [courses], ?_, ?_⟩
  · cases hash? <;> simp [opening]
  · cases hash? <;> simp [opening]

private theorem opening_not_mem_courses (hash? : Option TxHash) :
    (opening hash?).map TxSnapshot.status ∉ courses := by
  cases hash? <;> simp [opening, courses]

/-- No course is a part of another one. -/
private theorem not_brokenOff_of_mem_courses {statuses : List TxStatus} (h : statuses ∈ courses) :
    ¬ BrokenOff statuses := by
  rintro ⟨full, hfull, hprefix, hne⟩
  -- The third status tells the two long courses apart, the second one the short course.
  simp only [courses, List.mem_cons, List.not_mem_nil, or_false] at h hfull
  rcases h with rfl | rfl | rfl <;> rcases hfull with rfl | rfl | rfl <;>
    simp_all [List.cons_prefix_cons]

/-- A failure ends a course, and so does a confirmation after a broadcast. -/
private theorem closed_mem_courses (hash? : Option TxHash) (last : TxSnapshot)
    (h : last.status = .failed ∨ last.status = .confirmed ∧ hash?.isSome) :
    (opening hash? ++ [last]).map TxSnapshot.status ∈ courses := by
  rcases h with h | ⟨h, hsome⟩
  · cases hash? <;> simp [opening, courses, h]
  · obtain ⟨hash, rfl⟩ := Option.isSome_iff_exists.mp hsome
    simp [opening, courses, h]

private theorem getLast?_opening_ne_confirmed (hash? : Option TxHash) :
    ((opening hash?).map TxSnapshot.status).getLast? ≠ some .confirmed := by
  cases hash? <;> simp [opening]

theorem Told.agreement (h : Told es call s seen course) : Agreement es call s seen course := by
  cases h with
  | underway ticket hs hgranted =>
    refine ⟨(fun _ h => nomatch h), ?_, ?_, (fun _ h => nomatch h)⟩
    · intro t ht
      obtain rfl := Course.suspended.inj ht
      exact ⟨brokenOff_opening _, hgranted⟩
    · exact iff_of_false (fun ⟨_, h⟩ => nomatch h) (getLast?_opening_ne_confirmed _)
  | @dropped hash? hcut =>
    refine ⟨fun _ _ => ⟨?_, ?_⟩, (fun _ h => nomatch h), ?_, (fun _ h => nomatch h)⟩
    · exact iff_of_false (opening_not_mem_courses hash?) (not_not_intro hcut)
    · exact iff_of_true (brokenOff_opening hash?) hcut
    · exact iff_of_false (fun ⟨_, h⟩ => nomatch h) (getLast?_opening_ne_confirmed hash?)
  | @failed hash? e hcut =>
    have hmem := closed_mem_courses hash?
      { status := .failed, hash := hash?, error := some e } (Or.inl rfl)
    refine ⟨fun _ _ => ⟨?_, ?_⟩, (fun _ h => nomatch h), ?_, (fun _ h => nomatch h)⟩
    · exact iff_of_true hmem hcut
    · exact iff_of_false (not_brokenOff_of_mem_courses hmem) hcut
    · exact iff_of_false (fun ⟨_, h⟩ => nomatch h) (by simp)
  | @confirmed hash r hcut hreceipt hr =>
    have hmem := closed_mem_courses (some hash)
      { status := .confirmed, hash
        correlation := correlationOf r.logs s.request.contract s.event }
      (Or.inr ⟨rfl, rfl⟩)
    refine ⟨fun _ _ => ⟨?_, ?_⟩, (fun _ h => nomatch h), ?_, ?_⟩
    · exact iff_of_true hmem hcut
    · exact iff_of_false (not_brokenOff_of_mem_courses hmem) hcut
    · exact iff_of_true ⟨hash, rfl⟩ (by simp)
    · intro h' hresult
      obtain rfl := Option.some.inj (Course.ended.inj hresult)
      exact ⟨_, _, _, r, rfl, rfl, rfl, rfl, hreceipt, hr, fun _ => correlationOf_eq_some_iff⟩

/-- **Observer and result agree.**  After any events, every submission that was started has its call:
what the observer of that call has seen is one of the three whole courses if it has ended and nothing
intervened, and a part of one otherwise; it ends with a confirmation just if a hash is returned, that
of the transaction whose receipt then identifies the call; and no step is made without the answer to
the one before. -/
theorem observer_and_result_agree (es : List (Moment × DeskEvent)) (call : Nat) (s : Submission)
    (hs : (submissions es)[call]? = some s) :
    ∃ seen course, (afterAll es).1.calls[call]? = some ⟨seen, course⟩ ∧
      Agreement es call s seen course := by
  have hlt : call < (afterAll es).1.calls.length := by
    rw [calls_length]
    exact Calls.lt_of_get hs
  have hget := List.getElem?_eq_getElem hlt
  exact ⟨_, _, hget, (told_afterAll hs hget).agreement⟩

/-- A job whose identity is not in the first log of its receipt. -/
private def lateNamed : Submission :=
  .of (.submitJob .zero ⟨.ofNat 3⟩ (.ofNat 0) "" .zero) "JobSubmitted"

/-- A submission that another one takes the tracker from while the receipt is awaited; the other one
goes through. -/
private def overtaken (first second : TxHash) : List (Moment × DeskEvent) := [
  (⟨0, .epoch, {}⟩, .submit lateNamed),
  (⟨1, .epoch, {}⟩, .answer 0 (.signature (.ok ()))),
  (⟨2, .epoch, {}⟩, .answer 0 (.broadcast (.ok first))),
  (⟨3, .epoch, {}⟩, .submit lateNamed),
  (⟨4, .epoch, {}⟩, .answer 1 (.signature (.ok ()))),
  (⟨5, .epoch, {}⟩, .answer 0 (.receipt (.ok ⟨true, [], none⟩))),
  (⟨6, .epoch, {}⟩, .answer 1 (.broadcast (.ok second))),
  (⟨7, .epoch, {}⟩, .answer 1 (.receipt (.ok ⟨true, [
    { address := .zero, event := "Transfer", key := some "1" },
    { address := .zero, event := "JobSubmitted", key := some "first" },
    { address := .zero, event := "JobSubmitted", key := some " 7 " },
    { address := .zero, event := "JobSubmitted", key := some "8" }], none⟩)))]

theorem observer_and_result_agree_overtaken :
    let second : TxHash := ⟨[2], by decide, by decide⟩
    let es := overtaken ⟨[1], by decide, by decide⟩ second
    (afterAll es).1.calls.map (fun c => (c.seen.map TxSnapshot.status, c.course)) =
        [([.signing, .pending], .ended none),
          ([.signing, .pending, .confirmed], .ended (some second))] ∧
      (afterAll es).1.tracker.snapshot.correlation = some (.ofNat 7) ∧
      (submissions es)[1]? = some lateNamed ∧
      ∃ seen course, (afterAll es).1.calls[1]? = some ⟨seen, course⟩ ∧
        Agreement es 1 lateNamed seen course :=
  ⟨by decide, by decide, rfl, observer_and_result_agree _ _ _ rfl⟩

end Desk

end ChainProvision
