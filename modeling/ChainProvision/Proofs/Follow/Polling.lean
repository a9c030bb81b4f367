import ChainProvision.Proofs.Follow.Post

/-!
# What a poller comes to know, and when it rests

As long as a poller stays on a call its report is the fold of the answers that its tasks have got, and
moves forward only.  Whatever its owner changes parts it for good from the fetch under way.  A final
report ends the task that got it; but the poller does not look at the report when it is switched on,
so that whoever switches it off and on again has it ask once more.

## Main definitions

- `PollingPost.Event.Stays`, `PollingPost.Event.Breaks`: what the owner of a poller leaves as it is;
- `PollingPost.switches`: how a poller is switched on and off.

## Main statements

- `PollingPost.report_is_fold_of_live_answers`: what a poller comes to know.
- `PollingPost.final_report_ends_polling_unless_switched_on_again`: when it rests.
-/

namespace ChainProvision

/-! ## Phases in their order -/

namespace Phase

variable {p q r : Phase}

theorem canAdvanceTo_refl (p : Phase) : p.canAdvanceTo p = true := by
  cases p <;> rfl

/-- Nothing but itself follows a final phase. -/
theorem eq_of_canAdvanceTo (h : p.canAdvanceTo q = true) (hfinal : p.isTerminal = true) : q = p := by
  rw [canAdvanceTo, if_pos hfinal] at h
  exact (beq_iff_eq.mp h).symm

/-- On the way to `ready` no phase goes back. -/
theorem rank_le_of_canAdvanceTo (h : p.canAdvanceTo q = true) {a b : Nat} (hp : p.rank = some a)
    (hq : q.rank = some b) : a ≤ b := by
  unfold canAdvanceTo at h
  split at h
  · obtain rfl := beq_iff_eq.mp h
    exact Nat.le_of_eq (Option.some.inj (hp.symm.trans hq))
  · simpa [hp, hq] using h

theorem rank_eq_none_iff : p.rank = none ↔ p = .failed := by
  cases p <;> simp [rank]

/-- A phase that is not final is followed by failure, and by whatever is not before it. -/
theorem canAdvanceTo_of_rank_le (hopen : p.isTerminal = false)
    (h : ∀ a b, p.rank = some a → q.rank = some b → a ≤ b) : p.canAdvanceTo q = true := by
  rw [canAdvanceTo, if_neg (by simp [hopen])]
  split
  · rfl
  · rename_i a b hp hq
    exact decide_eq_true (h a b hp hq)
  · rename_i hp _
    rw [rank_eq_none_iff.mp hp] at hopen
    cases hopen

theorem canAdvanceTo_trans (hpq : p.canAdvanceTo q = true) (hqr : q.canAdvanceTo r = true) :
    p.canAdvanceTo r = true := by
  cases hp : p.isTerminal with
  | true =>
    obtain rfl := eq_of_canAdvanceTo hpq hp
    exact hqr
  | false =>
    refine canAdvanceTo_of_rank_le hp fun a c ha hc => ?_
    cases hb : q.rank with
    | some b =>
      have hab := rank_le_of_canAdvanceTo hpq ha hb
      exact Nat.le_trans hab (rank_le_of_canAdvanceTo hqr hb hc)
    | none =>
      -- Failure has no place of its own, and only failure follows it.
      obtain rfl := rank_eq_none_iff.mp hb
      obtain rfl := eq_of_canAdvanceTo hqr rfl
      cases hc

end Phase

/-! ## Reports that follow each other -/

namespace Report

theorem keep_advances (r : Report) (reply : FetchReply) :
    ∃ next, keep (some r) reply = some next ∧ r.phase.canAdvanceTo next.phase = true := by
  rcases reply with e | _ | next
  · exact ⟨r, rfl, r.phase.canAdvanceTo_refl⟩
  · exact ⟨r, rfl, r.phase.canAdvanceTo_refl⟩
  · simp only [keep]
    split
    · rename_i haccepts
      exact ⟨next, rfl, haccepts⟩
    · exact ⟨r, rfl, r.phase.canAdvanceTo_refl⟩

/-- **More answers leave a report that may follow the one before.** -/
theorem latest_advances {answers more : List FetchReply} (hmore : answers <+: more) {r : Report}
    (h : latest answers = some r) :
    ∃ next, latest more = some next ∧ r.phase.canAdvanceTo next.phase = true := by
  obtain ⟨rest, rfl⟩ := hmore
  unfold latest at h ⊢
  rw [List.foldl_append, h]
  clear h
  induction rest generalizing r with
  | nil => exact ⟨r, rfl, r.phase.canAdvanceTo_refl⟩
  | cons reply rest ih =>
    obtain ⟨next, hkeep, hnext⟩ := r.keep_advances reply
    obtain ⟨last, hlast, hadvance⟩ := ih (r := next)
    refine ⟨last, ?_, Phase.canAdvanceTo_trans hnext hadvance⟩
    rw [List.foldl_cons, hkeep]
    exact hlast

end Report

namespace PollingPost

variable {p : PollingPost} {x : Dossier} {s : PollingPost × Dossier}

/-! ## What the owner leaves as it is -/

/-- An event does not point the poller at anything but a call. -/
def Event.Stays (call : Option CallId) : Event → Prop
  | .target other _ => other = call
  | _ => True

/-- An event is the owner's, and changes what the poller was told or stops it. -/
def Event.Breaks (x : Dossier) : Event → Prop
  | .target call enabled => ¬ (call = x.target ∧ enabled = x.enabled)
  | .stop => True
  | _ => False

/-- On the same call the answers only grow. -/
theorem stays_step {e : Nat × Event} (h : e.2.Stays s.2.target) :
    (step s e).2.target = s.2.target ∧ s.2.answers <+: (step s e).2.answers := by
  obtain ⟨now, e⟩ := e
  cases e with
  | target call enabled =>
    obtain rfl : call = s.2.target := h
    simp only [step, Dossier.note]
    split
    · exact ⟨rfl, List.prefix_refl _⟩
    · simp [Dossier.renew]
  | stop => simp [step, Dossier.note, Dossier.renew]
  | wake =>
    simp only [step, Dossier.note]
    split
    · exact ⟨rfl, List.prefix_refl _⟩
    · exact ⟨rfl, List.prefix_refl _⟩
  | reply i reply =>
    refine ⟨rfl, ?_⟩
    simp only [step, Dossier.note, Inquiry.answer]
    split
    · exact List.prefix_append _ _
    · exact List.prefix_refl _

theorem stays_run {es : List (Nat × Event)} (h : ∀ e ∈ es, e.2.Stays s.2.target) :
    (run s es).2.target = s.2.target ∧ s.2.answers <+: (run s es).2.answers := by
  induction es generalizing s with
  | nil => exact ⟨rfl, List.prefix_refl _⟩
  | cons e es ih =>
    obtain ⟨he, hes⟩ := List.forall_mem_cons.mp h
    obtain ⟨htarget, hanswers⟩ := stays_step he
    obtain ⟨htarget', hanswers'⟩ := ih (s := step s e) (by rwa [htarget])
    exact ⟨htarget'.trans htarget, hanswers.trans hanswers'⟩

theorem asked_step_of_breaks {e : Nat × Event} (h : e.2.Breaks s.2) : (step s e).2.asked = none := by
  obtain ⟨now, e⟩ := e
  cases e with
  | target call enabled => exact congrArg (fun x : Dossier => x.asked) (if_neg h)
  | stop => rfl
  | wake => cases h
  | reply i reply => cases h

/-! ## What a poller comes to know -/

/-- **What a poller comes to know**: its report is the fold of the answers to the fetches of its tasks
about its call.  On the same call it moves forward only, and stays as it is once it is final; and no
answer to a fetch from before the owner has changed something does anything to the poller. -/
theorem report_is_fold_of_live_answers (interval : Nat) (es : List (Nat × Event)) :
    let s := afterAll interval es
    s.1.poller.state.value.report = Report.latest s.2.answers ∧
    (∀ i, s.2.asked = some i → ∃ fetch, s.1.fetches[i]? = some fetch ∧
      s.2.target = some fetch.call ∧ fetch.answered = false) ∧
    (∀ r more, s.1.poller.state.value.report = some r → (∀ e ∈ more, e.2.Stays s.2.target) →
      ∃ next, (run s more).1.poller.state.value.report = some next ∧
        r.phase.canAdvanceTo next.phase = true ∧
        (r.phase.isTerminal = true → next.phase = r.phase) ∧
        ∀ a b, r.phase.rank = some a → next.phase.rank = some b → a ≤ b) ∧
    ∀ i < s.1.fetches.length, ∀ e, e.2.Breaks s.2 → ∀ more now reply,
      ((run s (e :: more)).1.handle now (.reply i reply)).poller = (run s (e :: more)).1.poller := by
  intro s
  have hkept : Kept s.1 s.2 := kept_afterAll interval es
  refine ⟨hkept.sums.report, ?_, ?_, ?_⟩
  · intro i hasked
    obtain ⟨fetch, hget, hepoch, hopen⟩ := hkept.asked.mp hasked
    exact ⟨fetch, hget, hkept.present hget hepoch, hopen⟩
  · intro r more hreport hstays
    rw [hkept.sums.report] at hreport
    obtain ⟨next, hlatest, hadvance⟩ := Report.latest_advances (stays_run hstays).2 hreport
    refine ⟨next, (hkept.run more).sums.report.trans hlatest, hadvance, ?_, ?_⟩
    · exact Phase.eq_of_canAdvanceTo hadvance
    · exact fun a b => Phase.rank_le_of_canAdvanceTo hadvance
  · -- An answer does something only to a poller that waits for it.
    intro i hi e hbreaks more now reply
    refine (hkept.run (e :: more)).answer_of_unasked (fun hasked => ?_) now reply
    -- The fetch was given up, and would have to be under way all along.
    have hfirst := asked_of_asked_run (s := step s e)
      (Nat.lt_of_lt_of_le hi (length_fetches_le_step s e)) hasked
    rw [asked_step_of_breaks hbreaks] at hfirst
    cases hfirst

/-- A poller is pointed at another call while it waits for an answer, and hears of the new call out of
order. -/
private def lateAnswer : List (Nat × Event) := [
  (0, .target (some ⟨.ofNat 42⟩) true), (0, .wake),
  (1, .target (some ⟨.ofNat 43⟩) true), (1, .wake),
  (2, .reply 0 (.ok (some { call := ⟨.ofNat 42⟩, phase := .ready }))),
  (3, .reply 1 (.ok (some { call := ⟨.ofNat 43⟩, phase := .healthCheck }))), (2001, .wake),
  (2002, .reply 2 (.ok (some { call := ⟨.ofNat 43⟩, phase := .queued }))), (4001, .wake)]

theorem report_is_fold_of_live_answers_lateAnswer :
    let s := afterAll 2000 lateAnswer
    s.1.fetches.length = 4 ∧ s.2.asked = some 3 ∧ s.2.answers.length = 2 ∧
      s.1.poller.state.value.report = some { call := ⟨.ofNat 43⟩, phase := .healthCheck } ∧
      ∀ more now reply, ((run s ((4002, .stop) :: more)).1.handle now (.reply 3 reply)).poller =
        (run s ((4002, .stop) :: more)).1.poller := by
  intro s
  obtain ⟨hreport, -, -, hgiven⟩ := report_is_fold_of_live_answers 2000 lateAnswer
  have hlength : s.1.fetches.length = 4 := by decide
  refine ⟨hlength, by decide, by decide, ?_, ?_⟩
  · rw [hreport]
    decide
  · exact hgiven 3 (by decide) (4002, .stop) trivial

/-! ## When a poller rests -/

/-- Whether an event switches a poller on or off. -/
def Event.switch? : Event → Option Bool
  | .target _ enabled => some enabled
  | .stop => some false
  | _ => none

/-- How a poller is switched, in order. -/
def switches (es : List (Nat × Event)) : List Bool := es.filterMap fun e => e.2.switch?

/-- A post has begun no fetch since an earlier time, and does not poll. -/
def Quiet (p q : PollingPost) : Prop :=
  q.fetches.length = p.fetches.length ∧ q.poller.state.value.polling = false

/-- A post without a task. -/
structure Resting (s : PollingPost × Dossier) (on : Bool) : Prop where
  kept : Kept s.1 s.2
  idle : s.1.poller.task = none
  unpolled : s.1.poller.state.value.polling = false
  enabled : s.2.enabled = on
  keyed : s.2.target.isSome = true

variable {on : Bool} {e : Nat × Event}

theorem Resting.asked_eq_none (h : Resting s on) : s.2.asked = none := by
  have hfetching := h.kept.fetching
  rw [h.idle] at hfetching
  simpa using hfetching

/-- A post without a task that is switched off stays one. -/
private theorem Resting.renew (h : Resting s on) {q : Poller}
    (hq : s.1.poller.Renewed q s.2.target false) :
    Resting ({ s.1 with poller := q }, s.2.renew s.2.target false) false := by
  have hidle : q.task = none := by simpa using hq.begins
  refine ⟨h.kept.renew hq, hidle, ?_, rfl, h.keyed⟩
  show q.state.value.polling = false
  rw [hq.polling, hidle]
  rfl

/-- A post without a task stays one, unless it is switched on. -/
theorem Resting.step (h : Resting s on) (hstays : e.2.Stays s.2.target)
    (hswitch : e.2.switch? = some true → on = true) :
    Resting (PollingPost.step s e) (e.2.switch?.getD on) ∧ Quiet s.1 (PollingPost.step s e).1 := by
  obtain ⟨now, e⟩ := e
  cases e with
  | target call enabled =>
    obtain rfl : call = s.2.target := hstays
    by_cases hsame : enabled = on
    · -- The poller is told what it was told before.
      subst hsame
      have hpoller : s.1.poller.setTarget s.2.target enabled now = s.1.poller :=
        Poller.setTarget_of_same ⟨h.kept.target.symm, by rw [h.kept.enabled, h.enabled]⟩ now
      have hstep : PollingPost.step s (now, .target s.2.target enabled) = s := by
        simp [PollingPost.step, handle, Dossier.note, hpoller, h.enabled]
      rw [hstep]
      exact ⟨h, rfl, h.unpolled⟩
    · obtain rfl : enabled = false := by
        cases enabled with
        | false => rfl
        | true => exact absurd (hswitch rfl).symm hsame
      have hchange : ¬ (s.2.target = s.1.poller.target ∧ false = s.1.poller.enabled) := by
        rw [h.kept.enabled, h.enabled]
        exact fun hboth => hsame hboth.2
      have hrest := h.renew (Poller.renewed_setTarget hchange now)
      have hstep : PollingPost.step s (now, .target s.2.target false) =
          ({ s.1 with poller := s.1.poller.setTarget s.2.target false now },
            s.2.renew s.2.target false) := by
        simp [PollingPost.step, handle, Dossier.note, h.enabled, hsame]
      rw [hstep]
      exact ⟨hrest, rfl, hrest.unpolled⟩
  | stop =>
    have hrest := h.renew (q := s.1.poller.stop) (by rw [← h.kept.target]; exact s.1.poller.renewed_stop)
    exact ⟨hrest, rfl, hrest.unpolled⟩
  | wake =>
    have hstep : PollingPost.step s (now, .wake) = s := by
      simp [PollingPost.step, handle, Dossier.note, Poller.tick, h.idle]
    rw [hstep]
    exact ⟨h, rfl, h.unpolled⟩
  | reply i reply =>
    have hunasked : s.2.asked ≠ some i := by simp [h.asked_eq_none]
    have hpoller := h.kept.answer_of_unasked hunasked now reply
    have hdossier : s.2.note s.1 now (.reply i reply) = s.2 := by
      simp [Dossier.note, Inquiry.answer, hunasked]
    have hlength : (s.1.handle now (.reply i reply)).fetches.length = s.1.fetches.length := by
      simp only [handle]
      split <;> simp
    have hunpolled : (s.1.handle now (.reply i reply)).poller.state.value.polling = false := by
      rw [hpoller]
      exact h.unpolled
    refine ⟨⟨h.kept.reply now i reply, ?_, hunpolled, ?_, ?_⟩, hlength, hunpolled⟩
    · show (s.1.handle now (.reply i reply)).poller.task = none
      rw [hpoller]
      exact h.idle
    · show (s.2.note s.1 now (.reply i reply)).enabled = on
      rw [hdossier]
      exact h.enabled
    · show (s.2.note s.1 now (.reply i reply)).target.isSome = true
      rw [hdossier]
      exact h.keyed

/-- A post without a task that is switched on polls. -/
theorem Resting.polls (h : Resting s false) (hstays : e.2.Stays s.2.target)
    (hswitch : e.2.switch? = some true) :
    (PollingPost.step s e).1.poller.state.value.polling = true := by
  obtain ⟨now, e⟩ := e
  cases e with
  | target call enabled =>
    obtain rfl : call = s.2.target := hstays
    obtain rfl : enabled = true := Option.some.inj hswitch
    have hchange : ¬ (s.2.target = s.1.poller.target ∧ true = s.1.poller.enabled) := by
      rw [h.kept.enabled, h.enabled]
      simp
    have hq := Poller.renewed_setTarget hchange now
    show (s.1.poller.setTarget s.2.target true now).state.value.polling = true
    rw [hq.polling, hq.begins, h.keyed]
    rfl
  | _ => cases hswitch

/-- Switching off what is off, or on what is on, is not switching on again. -/
private theorem off_on_sublist_cons {b : Bool} (h : b = true → on = true) (l : List Bool) :
    [false, true].Sublist (on :: b :: l) ↔ [false, true].Sublist (b :: l) := by
  cases on with
  | true => simp [List.sublist_cons_iff]
  | false =>
    cases b with
    | false => simp [List.sublist_cons_iff]
    | true => cases h rfl

/-- **A post without a task stays quiet** just as long as it is not switched off and then on. -/
theorem Resting.quiet_iff (h : Resting s on) {es : List (Nat × Event)}
    (hstays : ∀ e ∈ es, e.2.Stays s.2.target) :
    (∀ before, before <+: es → Quiet s.1 (run s before).1) ↔
      ¬ [false, true].Sublist (on :: switches es) := by
  -- By induction on the events: how the poller stands now counts as the first of the switches.
  induction es generalizing s on with
  | nil =>
    constructor
    · exact fun _ hsub => absurd hsub.length_le (by simp [switches])
    · rintro - before hbefore
      obtain rfl := List.prefix_nil.mp hbefore
      exact ⟨rfl, h.unpolled⟩
  | cons e es ih =>
    obtain ⟨he, hes⟩ := List.forall_mem_cons.mp hstays
    by_cases hswitch : e.2.switch? = some true → on = true
    · obtain ⟨hrest, hlength, hunpolled⟩ := h.step he hswitch
      -- Quiet so far, it is quiet just if it is so from here on.
      have hlater : (∀ before, before <+: e :: es → Quiet s.1 (run s before).1) ↔
          ∀ before, before <+: es →
            Quiet (PollingPost.step s e).1 (run (PollingPost.step s e) before).1 := by
        constructor
        · intro hquiet before hbefore
          obtain ⟨hsame, hunpolled'⟩ := hquiet (e :: before) (List.cons_prefix_cons.mpr ⟨rfl, hbefore⟩)
          exact ⟨hsame.trans hlength.symm, hunpolled'⟩
        · intro hquiet before hbefore
          rcases List.prefix_cons_iff.mp hbefore with rfl | ⟨rest, rfl, hrest⟩
          · exact ⟨rfl, h.unpolled⟩
          · obtain ⟨hsame, hunpolled'⟩ := hquiet rest hrest
            exact ⟨hsame.trans hlength, hunpolled'⟩
      have hswitches : [false, true].Sublist (on :: switches (e :: es)) ↔
          [false, true].Sublist (e.2.switch?.getD on :: switches es) := by
        cases hb : e.2.switch? with
        | none => simp [switches, hb]
        | some b =>
          have hcons : switches (e :: es) = b :: switches es := by simp [switches, hb]
          rw [hcons]
          exact off_on_sublist_cons (fun h => hswitch (hb.trans (congrArg some h))) _
      rw [hlater, hswitches]
      exact ih hrest (by rwa [(stays_step he).1])
    · obtain ⟨hon, hoff⟩ := Classical.not_imp.mp hswitch
      obtain rfl := eq_false_of_ne_true hoff
      have hcons : switches (e :: es) = true :: switches es := by simp [switches, hon]
      rw [hcons]
      -- It polls at once.
      refine iff_of_false (fun hquiet => ?_) (not_not_intro ?_)
      · have hunpolled := (hquiet [e] (by simp)).2
        rw [show (run s [e]).1 = (PollingPost.step s e).1 from rfl, h.polls he hon] at hunpolled
        cases hunpolled
      · exact (List.nil_sublist _).cons_cons true |>.cons_cons false

/-- The answer that ends polling leaves no task. -/
theorem Kept.resting (h : Kept s.1 s.2) {i : Nat} {r : Report} (hasked : s.2.asked = some i)
    (haccepts : s.1.poller.state.value.accepts r = true) (hfinal : r.phase.isTerminal = true)
    (now : Nat) :
    let next := PollingPost.step s (now, .reply i (.ok (some r)))
    Resting next true ∧ next.1.poller.state.value.report = some r := by
  intro next
  obtain ⟨task, call, htask, hfetching, hget⟩ := h.awaits hasked
  have hpoller : next.1.poller =
      { s.1.poller with
        state := s.1.poller.state.edit (Poller.absorb (.ok (some r)))
        task := none } := by
    simp only [next, PollingPost.step, handle, hget]
    rw [Poller.answer_of_awaited htask hfetching]
    simp [Poller.isFinal, haccepts, hfinal]
  have hknown : next.1.poller.state.value = s.1.poller.state.value.learn r := by
    rw [hpoller]
    simp [Poller.absorb, haccepts]
  obtain ⟨henabled, htarget, -⟩ := h.task htask
  refine ⟨⟨h.reply now i _, by rw [hpoller], ?_, henabled, ?_⟩, by rw [hknown]; rfl⟩
  · rw [hknown]
    simp [PollState.learn, hfinal]
  · show s.2.target.isSome = true
    rw [htarget]
    rfl

/-- **When a poller rests**: from the answer that ends polling on, and as long as it stays on its call,
a poller neither asks nor polls just if it is not switched off and then on again. -/
theorem final_report_ends_polling_unless_switched_on_again (interval : Nat) (es : List (Nat × Event))
    (now : Nat) {i : Nat} {r : Report} {more : List (Nat × Event)}
    (hasked : (afterAll interval es).2.asked = some i)
    (haccepts : (afterAll interval es).1.poller.state.value.accepts r = true)
    (hfinal : r.phase.isTerminal = true)
    (hstays : ∀ e ∈ more, e.2.Stays (afterAll interval es).2.target) :
    let s := step (afterAll interval es) (now, .reply i (.ok (some r)))
    s.1.poller.state.value.report = some r ∧
      ((∀ before, before <+: more → Quiet s.1 (run s before).1) ↔
        ¬ [false, true].Sublist (switches more)) := by
  intro s
  obtain ⟨hrest, hreport⟩ := (kept_afterAll interval es).resting hasked haccepts hfinal now
  refine ⟨hreport, (hrest.quiet_iff hstays).trans (not_congr ?_)⟩
  simp [List.sublist_cons_iff]

/-- A poller that waits for its first answer. -/
private def firstFetch : List (Nat × Event) := [(0, .target (some ⟨.ofNat 42⟩) true), (0, .wake)]

private def readyReport : Report := { call := ⟨.ofNat 42⟩, phase := .ready }

/-- It is switched off, and then on again. -/
private def offAndOn : List (Nat × Event) := [(2, .stop), (3, .target (some ⟨.ofNat 42⟩) true), (3, .wake)]

theorem final_report_ends_polling_unless_switched_on_again_off :
    let s := step (afterAll 2000 firstFetch) (1, .reply 0 (.ok (some readyReport)))
    (afterAll 2000 firstFetch).2.asked = some 0 ∧
      (afterAll 2000 firstFetch).1.poller.state.value.accepts readyReport = true ∧
      readyReport.phase.isTerminal = true ∧
      (∀ before, before <+: [(2, .stop), (2001, .wake)] → Quiet s.1 (run s before).1) ∧
      ¬ ∀ before, before <+: offAndOn → Quiet s.1 (run s before).1 := by
  intro s
  have hasked : (afterAll 2000 firstFetch).2.asked = some 0 := by decide
  have haccepts : (afterAll 2000 firstFetch).1.poller.state.value.accepts readyReport = true := by decide
  have hstays : ∀ e ∈ [(2, .stop), (2001, .wake)], Event.Stays (some ⟨.ofNat 42⟩) e.2 := by
    simp [Event.Stays]
  have hstays' : ∀ e ∈ offAndOn, Event.Stays (some ⟨.ofNat 42⟩) e.2 := by
    simp [offAndOn, Event.Stays]
  obtain ⟨-, hquiet⟩ := final_report_ends_polling_unless_switched_on_again 2000 firstFetch 1
    hasked haccepts rfl hstays
  obtain ⟨-, hloud⟩ := final_report_ends_polling_unless_switched_on_again 2000 firstFetch 1
    hasked haccepts rfl hstays'
  exact ⟨hasked, haccepts, rfl, hquiet.mpr (by decide), fun h => hloud.mp h (by decide)⟩

/-- A final report does not end polling for good: a poller that is stopped and pointed at the same call
again asks and polls, with the final report at hand. -/
theorem final_report_does_not_end_polling :
    ¬ ∀ (interval : Nat) (es : List (Nat × Event)) (now i : Nat) (r : Report)
        (more : List (Nat × Event)),
      (afterAll interval es).2.asked = some i →
      (afterAll interval es).1.poller.state.value.accepts r = true → r.phase.isTerminal = true →
      (∀ e ∈ more, e.2.Stays (afterAll interval es).2.target) →
      let s := step (afterAll interval es) (now, .reply i (.ok (some r)))
      (run s more).1.fetches.length = s.1.fetches.length ∧
        (run s more).1.poller.state.value.polling = false := by
  intro h
  have htarget : (afterAll 2000 firstFetch).2.target = some ⟨.ofNat 42⟩ := by decide
  obtain ⟨hlength, -⟩ := h 2000 firstFetch 1 0 readyReport offAndOn (by decide) (by decide) rfl
    (by simp [offAndOn, Event.Stays, htarget])
  revert hlength
  decide

end PollingPost

end ChainProvision
