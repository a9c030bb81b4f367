import ChainProvision.Proofs.Calls
import ChainProvision.Proofs.Follow.Inquiry

/-!
# A poller and all its fetches

The owner of a poller points it at calls and switches it on and off; the fetches that its tasks begin
are answered at any later time, in any order, or not at all.  A dossier follows this from outside:
what the poller was told, which fetch its present task waits for, and how the fetches about the
present call were answered.  It knows nothing of the epochs by which a poller tells its tasks apart,
so that what the poller records can be measured against it.

## Main definitions

- `Report.latest`, `complaint`: the report and the failure that answers leave behind;
- `PollingPost`: a poller with all its fetches;
- `PollingPost.Dossier`: what a run of it looks like from outside;
- `PollingPost.Kept`: how a post stands to its dossier.

## Main statements

- `PollingPost.kept_afterAll`: every run keeps to its dossier.
- `PollingPost.asked_of_asked_run`: a fetch that is not waited for any more never will be.
-/

namespace ChainProvision

/-! ## What answers leave behind -/

/-- The report that is kept after one more answer: a new one if there was none, or if it may follow. -/
def Report.keep (last : Option Report) : FetchReply → Option Report
  | .ok (some r) => if Tidings.accepts last r then some r else last
  | _ => last

/-- The report that is kept of some answers, in order. -/
def Report.latest (answers : List FetchReply) : Option Report := answers.foldl keep none

theorem Report.latest_concat (answers : List FetchReply) (reply : FetchReply) :
    latest (answers ++ [reply]) = keep (latest answers) reply := by
  simp [latest]

namespace FetchReply

/-- The failure that an answer tells of. -/
def failure? : FetchReply → Option String
  | .error e => some e.message
  | .ok _ => none

/-- Whether an answer is a report that may not follow the one before. -/
def outOfOrder (last : Option Report) : FetchReply → Bool
  | .ok (some r) => !Tidings.accepts last r
  | _ => false

end FetchReply

/-- What is wrong after more answers: what the last of them says, but a report out of order says
nothing. -/
def complaintAfter (last : Option Report) (wrong : Option String) : List FetchReply → Option String
  | [] => wrong
  | reply :: answers =>
    complaintAfter (Report.keep last reply)
      (if reply.outOfOrder last then wrong else reply.failure?) answers

/-- What is wrong after some answers. -/
def complaint (answers : List FetchReply) : Option String := complaintAfter none none answers

theorem complaint_concat (answers : List FetchReply) (reply : FetchReply) :
    complaint (answers ++ [reply]) =
      if reply.outOfOrder (Report.latest answers) then complaint answers else reply.failure? := by
  have hafter : ∀ last wrong, complaintAfter last wrong (answers ++ [reply]) =
      if reply.outOfOrder (answers.foldl Report.keep last) then complaintAfter last wrong answers
      else reply.failure? := by
    induction answers with
    | nil => exact fun last wrong => rfl
    | cons first answers ih => exact fun last wrong => ih _ _
  exact hafter none none

/-- The latest answer tells what is wrong, unless it is a report out of order that comes when
something is. -/
theorem complaint_eq_failure?_iff (answers : List FetchReply) (reply : FetchReply) :
    complaint (answers ++ [reply]) = reply.failure? ↔
      ¬ (reply.outOfOrder (Report.latest answers) = true ∧ complaint answers ≠ none) := by
  rw [complaint_concat]
  cases hfits : reply.outOfOrder (Report.latest answers) with
  | false => simp
  | true =>
    -- A report tells of no failure.
    have hnone : reply.failure? = none := by
      rcases reply with e | _ | r
      · cases hfits
      · cases hfits
      · rfl
    simp [hnone]

/-- A poller knows what answers leave behind. -/
structure PollState.Sums (s : PollState) (answers : List FetchReply) : Prop where
  report : s.report = Report.latest answers
  error : s.error = complaint answers

theorem PollState.Sums.absorb {s : PollState} {answers : List FetchReply} (h : s.Sums answers)
    (reply : FetchReply) : (Poller.absorb reply s).1.Sums (answers ++ [reply]) := by
  obtain ⟨hreport, herror⟩ := h
  constructor
  · rw [Report.latest_concat, ← hreport]
    rcases reply with e | _ | r
    · rfl
    · rfl
    · simp only [Poller.absorb, Report.keep, accepts_eq]
      split <;> rfl
  · rw [complaint_concat, ← hreport, ← herror]
    rcases reply with e | _ | r
    · rfl
    · rfl
    · simp only [Poller.absorb, FetchReply.outOfOrder, accepts_eq]
      by_cases haccepts : Tidings.accepts s.report r = true
      · simp [haccepts, FetchReply.failure?, PollState.learn]
      · simp [haccepts]

/-! ## What happens to a poller -/

namespace Poller

variable {p q : Poller} {call : Option CallId} {on : Bool}

/-- A poller after its owner has changed something: it was pointed at a call, and switched on or off.
What it knows is kept with the call; no task goes on, and at most one begins. -/
structure Renewed (p q : Poller) (call : Option CallId) (on : Bool) : Prop where
  target : q.target = call
  enabled : q.enabled = on
  epoch : p.epoch < q.epoch
  report : q.state.value.report = if call = p.target then p.state.value.report else none
  error : q.state.value.error = if call = p.target then p.state.value.error else none
  polling : q.state.value.polling = q.task.isSome
  begins : q.task.isSome = (on && call.isSome)
  task : ∀ {task : PollTask}, q.task = some task →
    call = some task.call ∧ task.epoch = q.epoch ∧ task.fetching = false

theorem setTarget_of_same (h : call = p.target ∧ on = p.enabled) (now : Nat) :
    p.setTarget call on now = p := if_pos h

theorem renewed_setTarget (h : ¬ (call = p.target ∧ on = p.enabled)) (now : Nat) :
    p.Renewed (p.setTarget call on now) call on := by
  unfold setTarget
  rw [if_neg h]
  -- What was known is kept or forgotten; a task begins for a call that is to be polled.
  by_cases hsame : call = p.target
  · rcases on with _ | _ <;> rcases call with _ | call <;> constructor <;>
      simp [stopTask, startTask, Nat.add_assoc, ← hsame]
  · rcases on with _ | _ <;> rcases call with _ | call <;> constructor <;>
      simp [stopTask, startTask, Nat.add_assoc, hsame]

theorem renewed_stop (p : Poller) : p.Renewed p.stop p.target false := by
  constructor <;> simp [stop, stopTask]

/-- What a wake leads to: nothing, the loss of a task without a span between its ticks, or a fetch. -/
theorem tick_cases (p : Poller) (now : Nat) :
    p.tick now = (p, none) ∨
    ∃ task, p.task = some task ∧ task.fetching = false ∧ task.ticker.due ≤ now ∧
      (p.interval = 0 ∧ p.tick now = ({ p with task := none }, none) ∨
        p.interval ≠ 0 ∧ p.tick now =
          ({ p with
              task := some { task with ticker := task.ticker.tick p.interval now, fetching := true } },
            some (task.epoch, task.call))) := by
  unfold Poller.tick
  cases htask : p.task with
  | none => exact Or.inl rfl
  | some task =>
    by_cases hdue : (!task.fetching && task.ticker.due ≤ now) = true
    · obtain ⟨hidle, hdue'⟩ : task.fetching = false ∧ task.ticker.due ≤ now := by simpa using hdue
      simp only [hdue, if_true]
      refine Or.inr ⟨task, rfl, hidle, hdue', ?_⟩
      by_cases hinterval : p.interval = 0
      · exact Or.inl ⟨hinterval, if_pos hinterval⟩
      · exact Or.inr ⟨hinterval, if_neg hinterval⟩
    · exact Or.inl (by simp only [hdue, if_false, Bool.false_eq_true])

end Poller

/-! ## Posts and their dossiers -/

/-- A fetch: the epoch of the task that has begun it, its call, and whether it was answered. -/
structure Fetch where
  epoch : Nat
  call : CallId
  answered : Bool := false
  deriving DecidableEq

/-- A poller with all the fetches that it has begun, in order. -/
structure PollingPost where
  poller : Poller
  fetches : List Fetch := []

namespace PollingPost

/-- What can happen at a post. -/
inductive Event where
  | target (call : Option CallId) (enabled : Bool)
  | stop
  /-- Time has passed. -/
  | wake
  /-- A fetch is answered, be it still waited for or not. -/
  | reply (fetch : Nat) (reply : FetchReply)

/-- The post after an event. -/
def handle (now : Nat) (p : PollingPost) : Event → PollingPost
  | .target call enabled => { p with poller := p.poller.setTarget call enabled now }
  | .stop => { p with poller := p.poller.stop }
  | .wake =>
    let (poller, begun) := p.poller.tick now
    { poller, fetches := p.fetches ++ begun.toList.map fun (epoch, call) => { epoch, call } }
  | .reply i reply =>
    match p.fetches[i]? with
    | some ⟨epoch, call, false⟩ =>
      { poller := p.poller.answer epoch reply, fetches := p.fetches.set i ⟨epoch, call, true⟩ }
    | _ => p

/-- What a run of a post looks like from outside: what the poller was told, the fetch that its present
task waits for, and the answers to the fetches of its tasks since its call was changed last. -/
structure Dossier extends Inquiry where
  target : Option CallId := none
  enabled : Bool := false

namespace Dossier

/-- The dossier after the owner has changed something: the fetch under way is given up, and the answers
about another call are put away. -/
def renew (x : Dossier) (call : Option CallId) (enabled : Bool) : Dossier where
  asked := none
  answers := if call = x.target then x.answers else []
  target := call
  enabled := enabled

/-- The dossier after an event at a post. -/
def note (x : Dossier) (p : PollingPost) (now : Nat) : Event → Dossier
  | .target call enabled => if call = x.target ∧ enabled = x.enabled then x else x.renew call enabled
  | .stop => x.renew x.target false
  | .wake =>
    match (p.poller.tick now).2 with
    -- A fetch goes by its place among all of them.
    | some _ => { x with toInquiry := x.ask p.fetches.length }
    | none => x
  | .reply i reply => { x with toInquiry := x.answer i reply }

end Dossier

/-- A post and its dossier after an event. -/
def step (s : PollingPost × Dossier) (e : Nat × Event) : PollingPost × Dossier :=
  (s.1.handle e.1 e.2, s.2.note s.1 e.1 e.2)

/-- A post and its dossier after events, each with its time. -/
def run (s : PollingPost × Dossier) (es : List (Nat × Event)) : PollingPost × Dossier := es.foldl step s

/-- A new poller and its dossier after events. -/
def afterAll (interval : Nat) (es : List (Nat × Event)) : PollingPost × Dossier :=
  run ({ poller := { interval } }, {}) es

/-! ## How a post stands to its dossier -/

/-- A post does as its dossier says. -/
structure Kept (p : PollingPost) (x : Dossier) : Prop where
  target : p.poller.target = x.target
  enabled : p.poller.enabled = x.enabled
  sums : p.poller.state.value.Sums x.answers
  /-- A task is for the target, and of the present epoch. -/
  task : ∀ {task : PollTask}, p.poller.task = some task →
    x.enabled = true ∧ x.target = some task.call ∧ task.epoch = p.poller.epoch
  /-- A fetch is under way just if the task waits for it. -/
  fetching : x.asked.isSome = p.poller.task.any PollTask.fetching
  /-- The fetch under way is the only one of the present epoch without an answer. -/
  asked : ∀ {i : Nat}, x.asked = some i ↔
    ∃ fetch, p.fetches[i]? = some fetch ∧ fetch.epoch = p.poller.epoch ∧ fetch.answered = false
  past : ∀ {i : Nat} {fetch : Fetch}, p.fetches[i]? = some fetch → fetch.epoch ≤ p.poller.epoch
  /-- The fetches of the present epoch are about the target. -/
  present : ∀ {i : Nat} {fetch : Fetch}, p.fetches[i]? = some fetch → fetch.epoch = p.poller.epoch →
    x.target = some fetch.call

variable {p : PollingPost} {x : Dossier} {s : PollingPost × Dossier}

theorem kept_start (interval : Nat) : Kept { poller := { interval } } {} where
  target := rfl
  enabled := rfl
  sums := ⟨rfl, rfl⟩
  task := by simp
  fetching := rfl
  asked := by simp
  past := by simp
  present := by simp

/-- When the owner changes something, all fetches are of epochs that have passed. -/
theorem Kept.renew (h : Kept p x) {q : Poller} {call : Option CallId} {enabled : Bool}
    (hq : p.poller.Renewed q call enabled) : Kept { p with poller := q } (x.renew call enabled) where
  target := hq.target
  enabled := hq.enabled
  sums := by
    refine ⟨hq.report.trans ?_, hq.error.trans ?_⟩
    · rw [h.target, Dossier.renew]
      split
      · exact h.sums.report
      · rfl
    · rw [h.target, Dossier.renew]
      split
      · exact h.sums.error
      · rfl
  task := by
    intro task htask
    obtain ⟨hcall, hepoch, -⟩ := hq.task htask
    have hbegins := hq.begins
    rw [htask, hcall] at hbegins
    exact ⟨by simpa [Dossier.renew] using hbegins.symm, hcall, hepoch⟩
  fetching := by
    cases htask : q.task with
    | none => rfl
    | some task => exact (hq.task htask).2.2.symm
  asked := by
    intro i
    constructor
    · intro hasked
      cases hasked
    · -- What was under way is of an epoch that has passed.
      rintro ⟨fetch, hget, hepoch, -⟩
      exact absurd hepoch (Nat.ne_of_lt (Nat.lt_of_le_of_lt (h.past hget) hq.epoch))
  past := fun hget => Nat.le_trans (h.past hget) (Nat.le_of_lt hq.epoch)
  present := fun hget hepoch =>
    absurd hepoch (Nat.ne_of_lt (Nat.lt_of_le_of_lt (h.past hget) hq.epoch))

/-- No fetch is waited for while the task waits for its ticker. -/
private theorem Kept.asked_eq_none (h : Kept p x) {task : PollTask} (htask : p.poller.task = some task)
    (hidle : task.fetching = false) : x.asked = none := by
  have hfetching := h.fetching
  rw [htask] at hfetching
  simpa [hidle] using hfetching

/-- What is waited for is the fetch of the task. -/
theorem Kept.awaits (h : Kept p x) {i : Nat} (hasked : x.asked = some i) :
    ∃ task call, p.poller.task = some task ∧ task.fetching = true ∧
      p.fetches[i]? = some ⟨task.epoch, call, false⟩ := by
  have hfetching := h.fetching
  rw [hasked] at hfetching
  obtain ⟨task, htask, hfetching⟩ := (Option.any_eq_true _ _).mp hfetching.symm
  obtain ⟨⟨epoch, call, answered⟩, hget, hepoch, hopen⟩ := h.asked.mp hasked
  obtain rfl : epoch = task.epoch := hepoch.trans (h.task htask).2.2.symm
  obtain rfl : answered = false := hopen
  exact ⟨task, call, htask, hfetching, hget⟩

/-- A wake may begin a fetch, of the present epoch. -/
theorem Kept.wake (h : Kept p x) (now : Nat) : Kept (p.handle now .wake) (x.note p now .wake) := by
  unfold handle Dossier.note
  rcases p.poller.tick_cases now with
    htick | ⟨task, htask, hidle, -, ⟨-, htick⟩ | ⟨-, htick⟩⟩
  · rw [htick]
    simpa using h
  · -- The task is lost before it has begun a fetch.
    have hunasked := h.asked_eq_none htask hidle
    rw [htick]
    simp only [Option.toList_none, List.map_nil, List.append_nil]
    exact { h with
      task := fun hnone => nomatch hnone
      fetching := by simp [hunasked] }
  · obtain ⟨henabled, htarget, hepoch⟩ := h.task htask
    have hunasked := h.asked_eq_none htask hidle
    rw [htick]
    simp only [Option.toList_some, List.map_cons, List.map_nil]
    refine { h with task := ?_, fetching := rfl, asked := ?_, past := ?_, present := ?_ }
    · rintro _ ⟨⟩
      exact ⟨henabled, htarget, hepoch⟩
    · intro i
      constructor
      · rintro ⟨⟩
        exact ⟨_, List.getElem?_concat_length, hepoch, rfl⟩
      · rintro ⟨fetch, hget, hfetch, hopen⟩
        rcases Calls.get_of_concat hget with hold | ⟨rfl, -⟩
        · -- No fetch of the epoch was open before.
          have hasked := h.asked.mpr ⟨fetch, hold, hfetch, hopen⟩
          rw [hunasked] at hasked
          cases hasked
        · rfl
    · intro i fetch hget
      rcases Calls.get_of_concat hget with hold | ⟨-, rfl⟩
      · exact h.past hold
      · exact Nat.le_of_eq hepoch
    · intro i fetch hget hfetch
      rcases Calls.get_of_concat hget with hold | ⟨-, rfl⟩
      · exact h.present hold hfetch
      · exact htarget

/-- A fetch that counts as answered keeps its epoch and its call. -/
private theorem Kept.fetch_of_set (h : Kept p x) {i j : Nat} {epoch : Nat} {call : CallId} {fetch : Fetch}
    (hget : p.fetches[i]? = some ⟨epoch, call, false⟩)
    (hset : (p.fetches.set i ⟨epoch, call, true⟩)[j]? = some fetch) :
    fetch.epoch ≤ p.poller.epoch ∧ (fetch.epoch = p.poller.epoch → x.target = some fetch.call) := by
  rcases Calls.get_of_set hset with ⟨hold, -⟩ | ⟨-, rfl⟩
  · exact ⟨h.past hold, h.present hold⟩
  · exact ⟨(h.past hget : epoch ≤ _), (h.present hget : epoch = _ → _)⟩

/-- The answer to the fetch under way is recorded. -/
private theorem Kept.answered (h : Kept p x) {i : Nat} {task : PollTask} {call : CallId}
    (htask : p.poller.task = some task) (hfetching : task.fetching = true)
    (hget : p.fetches[i]? = some ⟨task.epoch, call, false⟩) (reply : FetchReply) :
    Kept
      { poller := p.poller.answer task.epoch reply, fetches := p.fetches.set i ⟨task.epoch, call, true⟩ }
      { x with asked := none, answers := x.answers ++ [reply] } := by
  obtain ⟨henabled, htarget, hepoch⟩ := h.task htask
  rw [Poller.answer_of_awaited htask hfetching]
  refine ⟨h.target, h.enabled, ?_, ?_, ?_, ?_, fun hset => (h.fetch_of_set hget hset).1,
    fun hset => (h.fetch_of_set hget hset).2⟩
  · show (p.poller.state.edit (Poller.absorb reply)).value.Sums _
    rw [Observed.value_edit]
    exact h.sums.absorb reply
  · intro task' htask'
    dsimp only at htask'
    split at htask'
    · cases htask'
    · obtain rfl := Option.some.inj htask'
      exact ⟨henabled, htarget, hepoch⟩
  · -- Whether the task goes on or has ended, it waits for nothing.
    dsimp only
    split <;> rfl
  · intro j
    constructor
    · intro hasked
      cases hasked
    · rintro ⟨fetch, hset, hfetch, hopen⟩
      rcases Calls.get_of_set hset with ⟨hold, hne⟩ | ⟨-, rfl⟩
      · -- The fetch under way was the only one.
        have hj := h.asked.mpr ⟨fetch, hold, hfetch, hopen⟩
        have hi := h.asked.mpr ⟨_, hget, hepoch, rfl⟩
        exact absurd (Option.some.inj (hj.symm.trans hi)) hne
      · cases hopen

/-- An answer that nobody waits for leaves the poller as it is. -/
theorem Kept.answer_of_unasked (h : Kept p x) {i : Nat} (hunasked : x.asked ≠ some i) (now : Nat)
    (reply : FetchReply) : (p.handle now (.reply i reply)).poller = p.poller := by
  simp only [handle]
  split
  · rename_i epoch call hget
    refine Poller.answer_of_other (fun task htask _ hepoch => hunasked ?_) reply
    obtain ⟨-, -, hpresent⟩ := h.task htask
    exact h.asked.mpr ⟨_, hget, hepoch.symm.trans hpresent, rfl⟩
  · rfl

theorem Kept.reply (h : Kept p x) (now i : Nat) (reply : FetchReply) :
    Kept (p.handle now (.reply i reply)) (x.note p now (.reply i reply)) := by
  by_cases hasked : x.asked = some i
  · obtain ⟨task, call, htask, hfetching, hget⟩ := h.awaits hasked
    have hdossier : x.note p now (.reply i reply) =
        { x with asked := none, answers := x.answers ++ [reply] } := by
      simp [Dossier.note, Inquiry.answer, hasked]
    rw [hdossier]
    simp only [handle, hget]
    exact h.answered htask hfetching hget reply
  · -- Nobody waits for the answer; at most the fetch counts as answered from now on.
    have hpoller := h.answer_of_unasked hasked now reply
    have hdossier : x.note p now (.reply i reply) = x := by
      simp [Dossier.note, Inquiry.answer, hasked]
    rw [hdossier]
    simp only [handle] at hpoller ⊢
    split at hpoller
    · rename_i epoch call hget
      replace hpoller : p.poller.answer epoch reply = p.poller := hpoller
      rw [hpoller]
      refine { h with
        asked := ?_
        past := fun hset => (h.fetch_of_set hget hset).1
        present := fun hset => (h.fetch_of_set hget hset).2 }
      intro j
      rw [h.asked]
      constructor
      · rintro ⟨fetch, hold, hfetch, hopen⟩
        have hne : i ≠ j := by
          rintro rfl
          exact hasked (h.asked.mpr ⟨fetch, hold, hfetch, hopen⟩)
        exact ⟨fetch, (List.getElem?_set_ne hne).trans hold, hfetch, hopen⟩
      · rintro ⟨fetch, hset, hfetch, hopen⟩
        rcases Calls.get_of_set hset with ⟨hold, -⟩ | ⟨-, rfl⟩
        · exact ⟨fetch, hold, hfetch, hopen⟩
        · cases hopen
    · exact h

/-- **A post keeps to its dossier**, whatever happens. -/
theorem Kept.step (h : Kept s.1 s.2) (e : Nat × Event) :
    Kept (PollingPost.step s e).1 (PollingPost.step s e).2 := by
  obtain ⟨now, e⟩ := e
  cases e with
  | target call enabled =>
    show Kept { s.1 with poller := s.1.poller.setTarget call enabled now }
      (if call = s.2.target ∧ enabled = s.2.enabled then s.2 else s.2.renew call enabled)
    rw [← h.target, ← h.enabled]
    by_cases hsame : call = s.1.poller.target ∧ enabled = s.1.poller.enabled
    · rw [if_pos hsame, Poller.setTarget_of_same hsame]
      exact h
    · rw [if_neg hsame]
      exact h.renew (Poller.renewed_setTarget hsame now)
  | stop =>
    have hstop := h.renew s.1.poller.renewed_stop
    rw [h.target] at hstop
    exact hstop
  | wake => exact h.wake now
  | reply i reply => exact h.reply now i reply

theorem Kept.run (h : Kept s.1 s.2) (es : List (Nat × Event)) :
    Kept (PollingPost.run s es).1 (PollingPost.run s es).2 := by
  induction es generalizing s with
  | nil => exact h
  | cons e es ih => exact ih (h.step e)

theorem kept_afterAll (interval : Nat) (es : List (Nat × Event)) :
    Kept (afterAll interval es).1 (afterAll interval es).2 :=
  Kept.run (s := ({ poller := { interval } }, {})) (kept_start interval) es

/-! ## What only grows -/

theorem length_fetches_le_step (s : PollingPost × Dossier) (e : Nat × Event) :
    s.1.fetches.length ≤ (step s e).1.fetches.length := by
  obtain ⟨now, e⟩ := e
  cases e with
  | target call enabled => exact Nat.le_refl _
  | stop => exact Nat.le_refl _
  | wake => simp [step, handle]
  | reply i reply =>
    simp only [step, handle]
    split
    · simp
    · exact Nat.le_refl _

/-- The fetch that is waited for is the one that was, or a new one. -/
theorem asked_step {i : Nat} {e : Nat × Event} (hasked : (step s e).2.asked = some i) :
    s.2.asked = some i ∨ s.1.fetches.length ≤ i := by
  obtain ⟨now, e⟩ := e
  cases e with
  | target call enabled =>
    simp only [step, Dossier.note] at hasked
    split at hasked
    · exact Or.inl hasked
    · cases hasked
  | stop => cases hasked
  | wake =>
    simp only [step, Dossier.note] at hasked
    split at hasked
    · exact Or.inr (Nat.le_of_eq (Option.some.inj hasked))
    · exact Or.inl hasked
  | reply j reply =>
    simp only [step, Dossier.note, Inquiry.answer] at hasked
    split at hasked
    · cases hasked
    · exact Or.inl hasked

/-- A fetch that was begun is waited for only if it has been all along. -/
theorem asked_of_asked_run {i : Nat} {es : List (Nat × Event)} (hi : i < s.1.fetches.length)
    (hasked : (run s es).2.asked = some i) : s.2.asked = some i := by
  induction es generalizing s with
  | nil => exact hasked
  | cons e es ih =>
    have hnext : (step s e).2.asked = some i :=
      ih (Nat.lt_of_lt_of_le hi (length_fetches_le_step s e)) hasked
    exact (asked_step hnext).resolve_right (Nat.not_le_of_lt hi)

end PollingPost

end ChainProvision
