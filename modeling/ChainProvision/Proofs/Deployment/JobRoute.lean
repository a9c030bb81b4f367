import ChainProvision.Proofs.Deployment.Wait

/-!
# The route of a job is a fold

The outcome of an attempt by a job is what the operator's answers come to, folded in their order.
Neither the time that the answers take nor how often the deployer looks has a part in it: the last
accepted report is all that is kept, and one that is final is kept for good.

## Main statements

- `Inquiry.tally`: the lookout of a job keeps to the answers.
- `Relay.job_outcome_is_fold`: what an attempt by a job comes to.
-/

namespace ChainProvision

open Deployer

namespace Inquiry

/-! ## The answers to an attempt -/

/-- What passes between an attempt and the operator. -/
def ledger (g : Nat) : Ledger Inquiry where
  start := {}
  heard
    | x, .fetched generation epoch reply => if generation = g then x.answer epoch reply else x
    | x, _ => x
  sent
    | x, .fetch generation epoch _ => if generation = g then x.ask epoch else x
    | x, _ => x
  sent_of_silent := by
    intro x effect h
    cases effect <;> first | rfl | cases h

/-- What has passed between an attempt and the operator. -/
def of (g : Nat) (trace : List (Event × List Effect)) : Inquiry := (ledger g).of trace

variable {g : Nat} {x : Inquiry} {e : Event} {effects : List Effect}

theorem of_concat (g : Nat) (trace : List (Event × List Effect)) (entry : Event × List Effect) :
    of g (trace ++ [entry]) = (ledger g).after (of g trace) entry :=
  (ledger g).of_concat trace entry

theorem heard_beside (htold : e.told? ≠ some g) : (ledger g).heard x e = x := by
  cases e with
  | fetched generation epoch reply => exact if_neg fun heq => htold (congrArg some heq)
  | _ => rfl

theorem heard_of_unasked (hasked : x.asked = none) (e : Event) : (ledger g).heard x e = x := by
  cases e with
  | fetched generation epoch reply =>
    -- While nothing is asked no answer counts, whichever attempt it is for.
    have hanswer : x.answer epoch reply = x := by simp [answer, hasked]
    exact (congrArg (ite _ · x) hanswer).trans (ite_self x)
  | _ => rfl

theorem answers_mono (g : Nat) {trace more : List (Event × List Effect)} (h : trace <+: more) :
    (of g trace).answers <+: (of g more).answers := by
  refine (ledger g).of_mono (f := answers) ?_ ?_ h
  · intro x e
    cases e with
    | fetched generation epoch reply =>
      simp only [ledger, answer]
      split
      · split
        · exact List.prefix_append _ _
        · exact List.prefix_refl _
      · exact List.prefix_refl _
    | _ => exact List.prefix_refl _
  · intro x effect
    cases effect with
    | fetch generation epoch call =>
      simp only [ledger, ask]
      split <;> exact List.prefix_refl _
    | _ => exact List.prefix_refl _

/-! ## The lookout of a job -/

/-- What the operator's lookout decides is what the answers come to. -/
theorem verdict?_eq {p : Poller} {call : CallId} (h : p.Follows call x) :
    (Lookout.operator call p).verdict? =
      match Tidings.of x.answers with
      | .open _ => none
      | .closed r =>
        some (if r.isReady then .ok ⟨r.resource.getD call.text, r.endpoint⟩
          else .error (.provisionFailed (r.message.getD "operator reported failure"))) := by
  have hreport := h.report_eq
  have hproper := Tidings.proper_of x.answers
  cases hof : Tidings.of x.answers with
  | «open» last =>
    rw [hof] at hreport hproper
    replace hreport : p.state.value.report = last := hreport
    simp only [Lookout.verdict?, hreport]
    cases last with
    | none => rfl
    | some r =>
      -- A report that is not final is neither of success nor of failure.
      have hphase : ¬ (r.phase = .ready ∨ r.phase = .failed) := by
        rw [← Phase.isTerminal_iff, hproper r rfl]
        simp
      have hready : ¬ r.isReady = true := fun hr => hphase (Or.inl (Report.isReady_iff.mp hr))
      have hfailed : ¬ r.isFailed = true := fun hr => hphase (Or.inr (Report.isFailed_iff.mp hr))
      simp only [hready, hfailed]
      rfl
  | closed r =>
    rw [hof] at hreport hproper
    replace hreport : p.state.value.report = some r := hreport
    simp only [Lookout.verdict?, hreport]
    by_cases hready : r.isReady = true
    · simp only [hready, if_true]
    · -- What is final and no success is a failure.
      have hphase : r.phase ≠ .ready := fun hr => hready (Report.isReady_iff.mpr hr)
      have hfailed : r.isFailed = true :=
        Report.isFailed_iff.mpr ((Phase.isTerminal_iff.mp hproper).resolve_left hphase)
      simp only [hready, hfailed, if_true, if_false, Bool.false_eq_true]

/-- A lookout has learned what the answers to an attempt come to. -/
def Agrees (g : Nat) (call : CallId) (interval : Nat) (lookout : Lookout)
    (trace : List (Event × List Effect)) : Prop :=
  ∃ p, lookout = .operator call p ∧ p.interval = interval ∧ p.Follows call (of g trace) ∧ (of g trace).Ends

theorem closed_of_decided {p : Poller} {call : CallId} (h : p.Follows call x)
    (hdecided : (Lookout.operator call p).verdict?.isSome = true) :
    ∃ r, Tidings.of x.answers = .closed r := by
  rw [verdict?_eq h] at hdecided
  cases hof : Tidings.of x.answers with
  | «open» last => simp [hof] at hdecided
  | closed r => exact ⟨r, rfl⟩

/-- **The lookout of a job keeps to the answers.** -/
theorem tally (g : Nat) (call : CallId) (interval : Nat) : Tally g (Agrees g call interval) where
  wake := by
    rintro m _ trace ⟨p, rfl, hinterval, hfollows, hends⟩
    have htick := hfollows.tick m.clock
    refine ⟨(p.tick m.clock).1, rfl, (p.tick_interval _).trans hinterval, ?_⟩
    rw [of_concat]
    simp only [Ledger.after, Lookout.wake]
    cases hasked : (p.tick m.clock).2 with
    | none =>
      rw [hasked] at htick
      exact ⟨htick, hends⟩
    | some asked =>
      -- The fetch that the tick asks for is the one under way from now on.
      rw [hasked] at htick
      have hsent : (ledger g).sent (of g trace) (.fetch g asked.1 asked.2) = (of g trace).ask asked.1 :=
        if_pos rfl
      simp only [Option.toList_some, List.map_cons, List.map_nil, List.foldl_cons, List.foldl_nil]
      exact ⟨hsent ▸ htick, hsent ▸ hends⟩
  told := by
    rintro m e _ trace htold ⟨p, rfl, hinterval, hfollows, hends⟩
    rw [Agrees, of_concat, Ledger.after_of_silent _ (by simp)]
    cases e with
    | fetched generation epoch reply =>
      obtain rfl := Option.some.inj htold
      have hheard : (ledger generation).heard (of generation trace) (.fetched generation epoch reply) =
          (of generation trace).answer epoch reply := if_pos rfl
      rw [hheard]
      refine ⟨p.answer epoch reply, rfl, (p.answer_interval _ _).trans hinterval,
        hfollows.answer epoch reply, ?_⟩
      -- An answer after the deciding one would not count.
      cases hof : Tidings.of (of generation trace).answers with
      | «open» last => exact hends.answer hof epoch reply
      | closed r =>
        have hasked := (hfollows.asked_eq_none hof).1
        rw [answer, if_neg (by simp [hasked])]
        exact hends
    -- Nothing that a watcher is told reaches a poller.
    | subscribed => exact ⟨p, rfl, hinterval, hfollows, hends⟩
    | batch => exact ⟨p, rfl, hinterval, hfollows, hends⟩
    | closed => exact ⟨p, rfl, hinterval, hfollows, hends⟩
    | _ => cases htold
  beside := by
    rintro e effects _ trace htold hsilent ⟨p, rfl, hinterval, hfollows, hends⟩
    rw [Agrees, of_concat, Ledger.after_of_silent _ hsilent, heard_beside htold]
    exact ⟨p, rfl, hinterval, hfollows, hends⟩
  after := by
    rintro e effects _ trace hdecided hsilent ⟨p, rfl, hinterval, hfollows, hends⟩
    obtain ⟨r, hclosed⟩ := closed_of_decided hfollows hdecided
    rw [Agrees, of_concat, Ledger.after_of_silent _ hsilent,
      heard_of_unasked (hfollows.asked_eq_none hclosed).1]
    exact ⟨p, rfl, hinterval, hfollows, hends⟩
  spent := by
    rintro m _ trace hdecided ⟨p, rfl, hinterval, hfollows, hends⟩
    obtain ⟨r, hclosed⟩ := closed_of_decided hfollows hdecided
    simp [Lookout.wake, Poller.tick, (hfollows.asked_eq_none hclosed).2]

end Inquiry

/-! ## The outcome -/

/-- What the state shows of what the answers come to. -/
def Tidings.Shown (t : Tidings) (number : Nat) (s : DeployState) : Prop :=
  match t with
  | .open last => s.status = .provisioning ∧ s.provision = none ∧ s.progress = last
  | .closed r =>
    s.progress = some r ∧
      (r.phase = .ready ∧ s.status = .ready ∧
          s.provision = some ⟨r.resource.getD (Text.numeral number), r.endpoint⟩ ∨
        r.phase = .failed ∧ s.status = .failed ∧
          s.error = some (.provisionFailed (r.message.getD "operator reported failure")))

theorem Tidings.shown_of_reflected {p : Poller} {number : Word64} {x : Inquiry} {s : DeployState}
    (h : p.Follows ⟨number⟩ x) (hreflected : (Lookout.operator ⟨number⟩ p).Reflected s) :
    (Tidings.of x.answers).Shown number.val s := by
  obtain ⟨hshown, hverdict⟩ := hreflected
  have hprogress : s.progress = p.state.value.report := (congrArg DeployState.progress hshown).symm
  have hreport := h.report_eq
  have hproper := Tidings.proper_of x.answers
  rw [Inquiry.verdict?_eq h] at hverdict
  cases hof : Tidings.of x.answers with
  | «open» last =>
    rw [hof] at hreport hverdict
    exact ⟨hverdict.1, hverdict.2, hprogress.trans hreport⟩
  | closed r =>
    rw [hof] at hreport hproper hverdict
    refine ⟨hprogress.trans hreport, ?_⟩
    by_cases hready : r.isReady = true
    · simp only [hready, if_true] at hverdict
      exact Or.inl ⟨Report.isReady_iff.mp hready, hverdict⟩
    · simp only [hready, if_false, Bool.false_eq_true] at hverdict
      have hphase : r.phase ≠ .ready := fun hr => hready (Report.isReady_iff.mpr hr)
      exact Or.inr ⟨(Phase.isTerminal_iff.mp hproper).resolve_left hphase, hverdict⟩

namespace Relay

variable {m : Moment} {g interval : Nat} {number : Word64} {terms : Terms} {r : Relay}

theorem Wait.shown (hwait : Wait (Inquiry.Agrees g ⟨number⟩ interval) terms r) :
    (Tidings.of (Inquiry.of g r.seen).answers).Shown number.val r.deployer.state.value := by
  obtain ⟨_, ⟨p, rfl, -, hfollows, -⟩, hreflected, -⟩ := hwait.at_look
  exact Tidings.shown_of_reflected hfollows hreflected

theorem Wait.ends (hwait : Wait (Inquiry.Agrees g ⟨number⟩ interval) terms r) :
    (Inquiry.of g r.trace).Ends := by
  obtain ⟨_, p, rfl, -, -, hends⟩ := hwait.at_trace
  exact hends

theorem Wait.asked_eq_none (hwait : Wait (Inquiry.Agrees g ⟨number⟩ interval) terms r) {report : Report}
    (hclosed : Tidings.of (Inquiry.of g r.trace).answers = .closed report) :
    (Inquiry.of g r.trace).asked = none := by
  obtain ⟨_, p, rfl, -, hfollows, -⟩ := hwait.at_trace
  exact (hfollows.asked_eq_none hclosed).1

/-- After the answer that closes the matter the operator is not asked. -/
theorem Wait.unasked {e : Event} (hwait : Wait (Inquiry.Agrees g ⟨number⟩ interval) terms r)
    (hg : terms.generation = g) {report : Report}
    (hclosed : Tidings.of (Inquiry.of g r.trace).answers = .closed report)
    (hx : terms.Allow r (m, .event e)) : ∀ effect ∈ (r.take m e).2, effect.attempt? = none := by
  subst hg
  refine hwait.silent (Inquiry.tally _ _ _) ?_ hx
  rintro _ ⟨p, rfl, -, hfollows, -⟩
  rw [Inquiry.verdict?_eq hfollows, hclosed]
  rfl

/-- As long as the matter is open the operator is asked again, in time. -/
theorem Wait.asks (hwait : Wait (Inquiry.Agrees g ⟨number⟩ interval) terms r)
    (hg : terms.generation = g) (hgone : r.deployer.isGone = false) (hinterval : interval ≠ 0)
    {last : Option Report} (hopen : Tidings.of (Inquiry.of g r.trace).answers = .open last)
    (hidle : (Inquiry.of g r.trace).asked = none) :
    ∃ due, ∀ m : Moment, due ≤ m.clock → terms.Allow r (m, .event .wake) →
      ∃ epoch, (r.take m .wake).2 = [.fetch g epoch ⟨number⟩] := by
  subst hg
  obtain ⟨_, ⟨p, rfl, rfl, hfollows, -⟩, hwakes⟩ := hwait.wakes hgone fun lookout hagrees => by
    obtain ⟨p, rfl, -, hfollows, -⟩ := hagrees
    rw [Inquiry.verdict?_eq hfollows, hopen]
  obtain ⟨due, hdue⟩ := hfollows.asks hinterval hopen hidle
  refine ⟨due, fun m hm hx => ?_⟩
  obtain ⟨epoch, hasked⟩ := hdue m.clock hm
  refine ⟨epoch, ?_⟩
  rw [hwakes m hx]
  simp [Lookout.wake, hasked]

theorem agrees_start (g : Nat) (settings : Settings) (now : Nat) (number : Word64) :
    Inquiry.Agrees g ⟨number⟩ settings.pollInterval.timerMillis
      (.start settings now (.call ⟨number⟩)) [] :=
  ⟨_, rfl, rfl, Poller.follows_setTarget _ _ _, Inquiry.ends_empty⟩

/-- **What an attempt by a job comes to**: from the receipt on the deployer shows the fold of the
answers that it knows of, which by its next look are all of them; the answer that closes the matter
is the last one that the operator is asked for, and until then it is asked again. -/
theorem job_outcome_is_fold (settings : Settings) (encoder : Encoder) (mode : ResourceKind)
    (es : List (Moment × Event)) {m : Moment} {i : Nat} {a : Attempt} {t : Ticket} {hash : TxHash}
    {receipt : Receipt} {number : Word64} {service : ServiceId} {xs : List (Moment × Occurrence)}
    (hc : Confirms (afterAll settings encoder mode es) i a t hash receipt number)
    (hroute : a.route = .job service)
    (hxs : Undisturbed settings m
      (Relay.of (confirmed m (afterAll settings encoder mode es) i receipt)) xs) :
    let start := confirmed m (afterAll settings encoder mode es) i receipt
    let r := (Relay.of start).run xs
    let seen := Inquiry.of a.generation r.seen
    let given := Inquiry.of a.generation r.trace
    (Tidings.of seen.answers).Shown number.val r.deployer.state.value ∧
    seen.answers <+: given.answers ∧
    (r.deployer.isGone = false → ∀ m',
      (Tidings.of given.answers).Shown number.val (r.look m').deployer.state.value) ∧
    given.Ends ∧
    (∀ report, Tidings.of given.answers = .closed report →
      given.asked = none ∧
        ∀ m' e, Undisturbed settings m r [(m', .event e)] →
          ∀ effect ∈ (r.take m' e).2, effect.attempt? = none) ∧
    (∀ last, Tidings.of given.answers = .open last → given.asked = none →
      r.deployer.isGone = false → settings.pollInterval.timerMillis ≠ 0 →
        ∃ due, ∀ m' : Moment, due ≤ m'.clock → Undisturbed settings m r [(m', .event .wake)] →
          ∃ epoch, (r.take m' .wake).2 = [.fetch a.generation epoch ⟨number⟩]) ∧
    (∀ later, xs = prompt later → r.deployer = start.run later) := by
  intro start r seen given
  let terms := termsOf m settings a hash number False
  have hbegin : Wait (Inquiry.Agrees a.generation ⟨number⟩ settings.pollInterval.timerMillis) terms
      (Relay.of start) := by
    refine wait_afterAll hc False.elim ?_
    rw [hroute]
    exact agrees_start _ _ _ _
  have htally := Inquiry.tally a.generation ⟨number⟩ settings.pollInterval.timerMillis
  have hwait : Wait _ terms r := hbegin.run htally (hxs.allow False.elim)
  -- One more event may happen if nothing is disturbed by it.
  have hallow : ∀ {m' e}, Undisturbed settings m r [(m', .event e)] →
      terms.Allow r (m', .event e) := fun hx =>
    hx.allow False.elim [] _ [] rfl
  refine ⟨hwait.shown, Inquiry.answers_mono _ (seen_prefix_run (List.prefix_refl _) xs), ?_, hwait.ends,
    ?_, ?_, ?_⟩
  · -- A look brings the deployer up to all that has happened.
    intro hgone m'
    have hlook := (hwait.step htally (x := (m', .look)) ⟨by simp, by simp, False.elim⟩).shown
    have hseen : (r.step (m', .look)).seen = r.trace := look_seen hgone m'
    rw [hseen] at hlook
    exact hlook
  · intro report hclosed
    exact ⟨hwait.asked_eq_none hclosed, fun m' e hx => hwait.unasked rfl hclosed (hallow hx)⟩
  · intro last hopen hidle hgone hinterval
    obtain ⟨due, hdue⟩ := hwait.asks rfl hgone hinterval hopen hidle
    exact ⟨due, fun m' hm hx => hdue m' hm (hallow hx)⟩
  · rintro later rfl
    exact run_prompt hbegin.coherent rfl later

/-- The operator reports out of order, and the deployer looks only at the end. -/
private def lateLook : List (Moment × Occurrence) := [
  (⟨6, .epoch, {}⟩, .event .wake),
  (⟨7, .epoch, {}⟩, .event (.fetched 1 2 (.ok (some { call := ⟨.ofNat 7⟩, phase := .healthCheck })))),
  (⟨60000, .epoch, {}⟩, .event .wake),
  (⟨60001, .epoch, {}⟩, .event (.fetched 1 2 (.ok (some { call := ⟨.ofNat 7⟩, phase := .queued })))),
  (⟨120000, .epoch, {}⟩, .event .wake),
  (⟨120001, .epoch, {}⟩, .event (.fetched 1 2 (.ok (some { call := ⟨.ofNat 7⟩, phase := .ready })))),
  (⟨180000, .epoch, {}⟩, .look)]

theorem job_outcome_is_fold_lateLook :
    let d := afterAll (.sampleWithin (.ofSeconds 3600)) .json .sandbox (boxSent ⟨[1], by decide, by decide⟩)
    let start := confirmed ⟨5, .epoch, {}⟩ d 0 jobReceipt
    (∃ a t hash, Confirms d 0 a t hash jobReceipt (.ofNat 7) ∧ a.route = .job ⟨.ofNat 3⟩) ∧
      Undisturbed (.sampleWithin (.ofSeconds 3600)) ⟨5, .epoch, {}⟩ (Relay.of start) lateLook ∧
      start.state.value.status = .provisioning ∧
      ((Relay.of start).run lateLook).deployer.state.value.provision = some ⟨"7", none⟩ := by
  intro d start
  have hc : ∃ a t hash, Confirms d 0 a t hash jobReceipt (.ofNat 7) ∧ a.route = .job ⟨.ofNat 3⟩ ∧
      a.generation = 1 := ⟨_, _, _, ⟨rfl, rfl, rfl, rfl, by decide⟩, rfl, rfl⟩
  have hxs : Undisturbed (.sampleWithin (.ofSeconds 3600)) ⟨5, .epoch, {}⟩ (Relay.of start) lateLook := by
    refine undisturbed_of_clock (by simp [lateLook]) ?_
    rintro _ ⟨⟩
    decide
  obtain ⟨a, t, hash, hc, hroute, hg⟩ := hc
  obtain ⟨hshown, -⟩ := job_outcome_is_fold (.sampleWithin (.ofSeconds 3600)) .json .sandbox _ hc hroute hxs
  have hclosed : Tidings.of (Inquiry.of 1 ((Relay.of start).run lateLook).seen).answers =
      .closed { call := ⟨.ofNat 7⟩, phase := .ready } := by decide
  rw [hg, hclosed] at hshown
  refine ⟨⟨a, t, hash, hc, hroute⟩, hxs, by decide, ?_⟩
  obtain ⟨-, ⟨-, -, hprovision⟩ | ⟨hfailed, -⟩⟩ := hshown
  · have hnumeral : Text.numeral (Word64.ofNat 7).val = "7" := by decide
    rw [hprovision, hnumeral]
    rfl
  · cases hfailed

end Relay

end ChainProvision
