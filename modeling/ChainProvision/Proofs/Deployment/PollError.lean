import ChainProvision.Proofs.Deployment.JobRoute
import ChainProvision.Proofs.Follow.Post

/-!
# What a transient failure tells

A failure to fetch a report is shown until the operator answers, be it that the call is not tracked
yet.  One answer is passed over: a report that comes out of order leaves a failure shown that it has
put an end to.  A deployer that follows a job shows the failures of its poller, as of its last look.

## Main definitions

- `TellsLatest`: a failure shown is that of the latest answer, but for a report out of order;
- `Inquiry.Heeds`: a lookout knows what the answers to an attempt leave behind.

## Main statements

- `Relay.error_tells_latest_unless_out_of_order`: what the failures that are shown tell.
-/

namespace ChainProvision

open Deployer

/-! ## Pollers -/

/-- A failure that is shown after some answers is that of the last of them, unless that one is a report
out of order and something was wrong before. -/
structure TellsLatest (error : Option String) (answers : List FetchReply) : Prop where
  eq : error = complaint answers
  iff : ∀ earlier reply, answers = earlier ++ [reply] →
    (error = reply.failure? ↔
      ¬ (reply.outOfOrder (Report.latest earlier) = true ∧ complaint earlier ≠ none))

theorem PollState.Sums.tellsLatest {s : PollState} {answers : List FetchReply} (h : s.Sums answers) :
    TellsLatest s.error answers where
  eq := h.error
  iff := by
    rintro earlier reply rfl
    rw [h.error]
    exact complaint_eq_failure?_iff earlier reply

/-- A poller that follows the answers knows what they leave behind. -/
theorem Poller.Follows.sums {p : Poller} {call : CallId} {x : Inquiry} (h : p.Follows call x)
    (hsums : p.state.value.Sums x.answers) (epoch : Nat) (reply : FetchReply) :
    (p.answer epoch reply).state.value.Sums (x.answer epoch reply).answers := by
  by_cases hasked : x.asked = some epoch
  · obtain ⟨task, htask, hfetching, rfl⟩ := h.asked_iff.mp hasked
    rw [answer_of_awaited htask hfetching, Inquiry.answer, if_pos hasked]
    show (p.state.edit (absorb reply)).value.Sums _
    rw [Observed.value_edit]
    exact hsums.absorb reply
  · obtain ⟨hpoller, hinquiry⟩ := h.answer_of_unasked hasked reply
    rw [hpoller, hinquiry]
    exact hsums

/-! ## The lookout of a job -/

namespace Lookout

/-- A lookout that polls knows what answers leave behind. -/
def Sums (answers : List FetchReply) : Lookout → Prop
  | .operator _ p => p.state.value.Sums answers
  | .contract _ => True

end Lookout

namespace Inquiry

variable {g : Nat} {x : Inquiry} {e : Event} {effects : List Effect}

/-- Nothing that is asked for is an answer. -/
theorem answers_after (g : Nat) (x : Inquiry) (e : Event) (effects : List Effect) :
    ((ledger g).after x (e, effects)).answers = ((ledger g).heard x e).answers := by
  have hsent : ∀ y : Inquiry, (effects.foldl (ledger g).sent y).answers = y.answers := by
    induction effects with
    | nil => exact fun y => rfl
    | cons effect effects ih =>
      intro y
      rw [List.foldl_cons, ih]
      cases effect with
      | fetch generation epoch call =>
        simp only [ledger, ask]
        split <;> rfl
      | _ => rfl
  exact hsent _

/-- A lookout has learned what the answers to an attempt come to, and knows what they leave behind. -/
structure Heeds (g : Nat) (call : CallId) (interval : Nat) (lookout : Lookout)
    (trace : List (Event × List Effect)) : Prop where
  agrees : Agrees g call interval lookout trace
  sums : lookout.Sums (of g trace).answers

/-- **The lookout of a job heeds the answers.** -/
theorem tally_heeds (g : Nat) (call : CallId) (interval : Nat) : Tally g (Heeds g call interval) where
  wake := by
    rintro m lookout trace ⟨hagrees, hsums⟩
    refine ⟨(tally g call interval).wake hagrees, ?_⟩
    obtain ⟨p, rfl, -⟩ := hagrees
    rw [of_concat, answers_after]
    show (p.tick m.clock).1.state.value.Sums _
    rw [Poller.tick_state]
    exact hsums
  told := by
    rintro m e lookout trace htold ⟨hagrees, hsums⟩
    refine ⟨(tally g call interval).told htold hagrees, ?_⟩
    obtain ⟨p, rfl, -, hfollows, -⟩ := hagrees
    rw [of_concat, answers_after]
    cases e with
    | fetched generation epoch reply =>
      obtain rfl := Option.some.inj htold
      have hheard : (ledger generation).heard (of generation trace) (.fetched generation epoch reply) =
          (of generation trace).answer epoch reply := if_pos rfl
      rw [hheard]
      exact hfollows.sums hsums epoch reply
    | subscribed => exact hsums
    | batch => exact hsums
    | closed => exact hsums
    | _ => cases htold
  beside := by
    rintro e effects lookout trace htold hsilent ⟨hagrees, hsums⟩
    refine ⟨(tally g call interval).beside htold hsilent hagrees, ?_⟩
    rw [of_concat, answers_after, heard_beside htold]
    exact hsums
  after := by
    rintro e effects lookout trace hdecided hsilent ⟨hagrees, hsums⟩
    refine ⟨(tally g call interval).after hdecided hsilent hagrees, ?_⟩
    obtain ⟨p, rfl, -, hfollows, -⟩ := hagrees
    obtain ⟨r, hclosed⟩ := closed_of_decided hfollows hdecided
    rw [of_concat, answers_after, heard_of_unasked (hfollows.asked_eq_none hclosed).1]
    exact hsums
  spent := fun hdecided hheeds => (tally g call interval).spent hdecided hheeds.agrees

end Inquiry

/-! ## What is shown -/

namespace Relay

variable {g interval : Nat} {call : CallId} {terms : Terms} {r : Relay}

theorem heeds_start (g : Nat) (settings : Settings) (now : Nat) (number : Word64) :
    Inquiry.Heeds g ⟨number⟩ settings.pollInterval.timerMillis
      (.start settings now (.call ⟨number⟩)) [] where
  agrees := agrees_start g settings now number
  sums := ⟨rfl, rfl⟩

/-- A deployer in a wait shows what is wrong after the answers that it knows of. -/
theorem Wait.tellsLatest (hwait : Wait (Inquiry.Heeds g call interval) terms r) :
    TellsLatest r.deployer.state.value.pollError (Inquiry.of g r.seen).answers := by
  obtain ⟨_, ⟨⟨p, rfl, -⟩, hsums⟩, ⟨hshown, -⟩, -⟩ := hwait.at_look
  have herror : r.deployer.state.value.pollError = p.state.value.error :=
    (congrArg DeployState.pollError hshown).symm
  rw [herror]
  exact PollState.Sums.tellsLatest hsums

/-- **What the failures that are shown tell**: after every answer a poller shows its failure, or none
if it is none, unless it is a report out of order after a failure; and so does the deployer of a job,
by its next look. -/
theorem error_tells_latest_unless_out_of_order (interval : Nat) (es : List (Nat × PollingPost.Event))
    (settings : Settings) (encoder : Encoder) (mode : ResourceKind) (before : List (Moment × Event)) :
    let s := PollingPost.afterAll interval es
    let d := afterAll settings encoder mode before
    TellsLatest s.1.poller.state.value.error s.2.answers ∧
    ∀ {m : Moment} {i : Nat} {a : Attempt} {t : Ticket} {hash : TxHash} {receipt : Receipt}
      {number : Word64} {service : ServiceId} {xs : List (Moment × Occurrence)},
      Confirms d i a t hash receipt number → a.route = .job service →
      Undisturbed settings m (Relay.of (confirmed m d i receipt)) xs →
      let start := confirmed m d i receipt
      let r := (Relay.of start).run xs
      TellsLatest r.deployer.state.value.pollError (Inquiry.of a.generation r.seen).answers ∧
      (r.deployer.isGone = false → ∀ m',
        TellsLatest (r.look m').deployer.state.value.pollError (Inquiry.of a.generation r.trace).answers) ∧
      ∀ later, xs = prompt later → r.deployer = start.run later := by
  refine ⟨(PollingPost.kept_afterAll interval es).sums.tellsLatest, ?_⟩
  intro m i a t hash receipt number service xs hc hroute hxs start r
  have hbegin : Wait (Inquiry.Heeds a.generation ⟨number⟩ settings.pollInterval.timerMillis)
      (termsOf m settings a hash number False) (Relay.of start) := by
    refine wait_afterAll hc False.elim ?_
    rw [hroute]
    exact heeds_start _ _ _ _
  have htally := Inquiry.tally_heeds a.generation ⟨number⟩ settings.pollInterval.timerMillis
  have hwait : Wait _ (termsOf m settings a hash number False) r :=
    hbegin.run htally (hxs.allow False.elim)
  refine ⟨hwait.tellsLatest, fun hgone m' => ?_, ?_⟩
  · -- A look brings the deployer up to all that has happened.
    have hlook := (hwait.step htally (x := (m', .look)) ⟨by simp, by simp, False.elim⟩).tellsLatest
    have hseen : (r.step (m', .look)).seen = r.trace := look_seen hgone m'
    rw [hseen] at hlook
    exact hlook
  · rintro later rfl
    exact run_prompt hbegin.coherent rfl later

/-- The operator fails once, and then reports what was long before. -/
private def lateReport : List (Moment × Occurrence) := [
  (⟨6, .epoch, {}⟩, .event .wake),
  (⟨7, .epoch, {}⟩, .event (.fetched 1 2 (.ok (some { call := ⟨.ofNat 7⟩, phase := .healthCheck })))),
  (⟨3000, .epoch, {}⟩, .event .wake),
  (⟨3001, .epoch, {}⟩, .event (.fetched 1 2 (.error (.status (.ofNat 503) "unavailable")))),
  (⟨6000, .epoch, {}⟩, .event .wake),
  (⟨6001, .epoch, {}⟩, .event (.fetched 1 2 (.ok (some { call := ⟨.ofNat 7⟩, phase := .queued })))),
  (⟨6002, .epoch, {}⟩, .look)]

theorem error_tells_latest_unless_out_of_order_lateReport :
    let d := afterAll (.sampleWithin (.ofSeconds 3600)) .json .sandbox (boxSent ⟨[1], by decide, by decide⟩)
    let start := confirmed ⟨5, .epoch, {}⟩ d 0 jobReceipt
    (∃ a t hash, Confirms d 0 a t hash jobReceipt (.ofNat 7) ∧ a.route = .job ⟨.ofNat 3⟩) ∧
      Undisturbed (.sampleWithin (.ofSeconds 3600)) ⟨5, .epoch, {}⟩ (Relay.of start) lateReport ∧
      ((Relay.of start).run lateReport).deployer.state.value.pollError =
        some (FetchError.status (.ofNat 503) "unavailable").message := by
  intro d start
  have hc : ∃ a t hash, Confirms d 0 a t hash jobReceipt (.ofNat 7) ∧ a.route = .job ⟨.ofNat 3⟩ ∧
      a.generation = 1 := ⟨_, _, _, ⟨rfl, rfl, rfl, rfl, by decide⟩, rfl, rfl⟩
  have hxs : Undisturbed (.sampleWithin (.ofSeconds 3600)) ⟨5, .epoch, {}⟩ (Relay.of start) lateReport := by
    refine undisturbed_of_clock (by simp [lateReport]) ?_
    rintro _ ⟨⟩
    decide
  obtain ⟨a, t, hash, hc, hroute, hg⟩ := hc
  obtain ⟨-, hwait⟩ := error_tells_latest_unless_out_of_order 2000 [] (.sampleWithin (.ofSeconds 3600)) .json
    .sandbox (boxSent ⟨[1], by decide, by decide⟩)
  obtain ⟨⟨herror, -⟩, -⟩ := hwait hc hroute hxs
  have hcomplaint : complaint (Inquiry.of 1 ((Relay.of start).run lateReport).seen).answers =
      some (FetchError.status (.ofNat 503) "unavailable").message := by decide
  refine ⟨⟨a, t, hash, hc, hroute⟩, hxs, ?_⟩
  rw [herror, hg, hcomplaint]

/-- A failure outlives the next answer of the operator: a report that comes out of order leaves it. -/
theorem failure_outlives_answer :
    ¬ ∀ (interval : Nat) (es : List (Nat × PollingPost.Event)) (earlier : List FetchReply)
        (reply : FetchReply),
      let s := PollingPost.afterAll interval es
      s.2.answers = earlier ++ [reply] → s.1.poller.state.value.error = reply.failure? := by
  intro h
  have hclear := h 2000 [
      (0, .target (some ⟨.ofNat 42⟩) true), (0, .wake),
      (1, .reply 0 (.ok (some { call := ⟨.ofNat 42⟩, phase := .healthCheck }))), (2000, .wake),
      (2001, .reply 1 (.error (.status (.ofNat 503) "unavailable"))), (4000, .wake),
      (4001, .reply 2 (.ok (some { call := ⟨.ofNat 42⟩, phase := .queued })))]
    [.ok (some { call := ⟨.ofNat 42⟩, phase := .healthCheck }),
      .error (.status (.ofNat 503) "unavailable")]
    (.ok (some { call := ⟨.ofNat 42⟩, phase := .queued })) rfl
  cases hclear

end Relay

end ChainProvision
