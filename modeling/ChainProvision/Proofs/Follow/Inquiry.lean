import ChainProvision.Follow.Poller

/-!
# What the answers of the operator come to

The answers about a call are folded in the order in which they come: a report is accepted if it may
follow the report accepted before it, and the first one accepted that is final closes the matter.  A
poller knows just what the fold says, and once the matter is closed it does not ask again.

## Main definitions

* `Tidings`, `Tidings.of`: what a sequence of answers comes to;
* `Inquiry`: what has passed between a poller and the operator;
* `Poller.Follows`: how a poller stands to it.
-/

namespace ChainProvision

/-! ## The fold -/

/-- What answers come to: the last accepted report while none was final, or the first that was. -/
inductive Tidings where
  | open (last : Option Report)
  | closed (r : Report)
  deriving DecidableEq

namespace Tidings

/-- Whether a report is accepted after another one, or as the first. -/
def accepts (last : Option Report) (r : Report) : Bool :=
  match last with
  | some p => p.phase.canAdvanceTo r.phase
  | none => true

/-- What one more answer adds.  A call that is not tracked yet, a failure and a report that comes
out of order add nothing. -/
def next : Tidings → FetchReply → Tidings
  | .open last, .ok (some r) =>
    if accepts last r then
      if r.phase.isTerminal then .closed r else .open (some r)
    else .open last
  | t, _ => t

/-- What answers come to, in order. -/
def of (answers : List FetchReply) : Tidings := answers.foldl next (.open none)

theorem of_concat (answers : List FetchReply) (reply : FetchReply) :
    of (answers ++ [reply]) = (of answers).next reply := by
  simp [of]

theorem foldl_closed (r : Report) (answers : List FetchReply) :
    answers.foldl next (.closed r) = .closed r := by
  induction answers with
  | nil => rfl
  | cons reply answers ih => exact ih

theorem of_append_of_closed {answers : List FetchReply} {r : Report} (h : of answers = .closed r)
    (more : List FetchReply) : of (answers ++ more) = .closed r := by
  unfold of at h ⊢
  rw [List.foldl_append, h]
  exact foldl_closed r more

/-- What closes the matter is final, and as long as it is open nothing was. -/
def Proper : Tidings → Prop
  | .open last => ∀ r, last = some r → r.phase.isTerminal = false
  | .closed r => r.phase.isTerminal = true

theorem Proper.next {t : Tidings} (h : t.Proper) (reply : FetchReply) : (t.next reply).Proper := by
  cases t with
  | closed r => exact h
  | «open» last =>
    rcases reply with e | _ | r
    · exact h
    · exact h
    · simp only [Tidings.next]
      split
      · split
        · assumption
        · rename_i hphase
          rintro r' ⟨⟩
          exact eq_false_of_ne_true hphase
      · exact h

theorem proper_of (answers : List FetchReply) : (of answers).Proper := by
  have hfold : ∀ t : Tidings, t.Proper → (answers.foldl next t).Proper := by
    induction answers with
    | nil => exact fun t ht => ht
    | cons reply answers ih => exact fun t ht => ih _ (ht.next reply)
  exact hfold (.open none) (by simp [Proper])

end Tidings

/-! ## Questions and answers -/

/-- What has passed between a poller and the operator: the fetch under way, if there is one, and the
answers to those before it. -/
structure Inquiry where
  asked : Option Nat := none
  answers : List FetchReply := []

namespace Inquiry

/-- A fetch begins. -/
def ask (x : Inquiry) (epoch : Nat) : Inquiry := { x with asked := some epoch }

/-- An answer comes; it counts if it is to the fetch under way. -/
def answer (x : Inquiry) (epoch : Nat) (reply : FetchReply) : Inquiry :=
  if x.asked = some epoch then ⟨none, x.answers ++ [reply]⟩ else x

/-- Whatever closes the matter is the last answer. -/
def Ends (x : Inquiry) : Prop :=
  ∀ before after r, x.answers = before ++ after → Tidings.of before = .closed r → after = []

theorem ends_empty : Ends {} := by
  intro before after r h _
  exact (List.append_eq_nil_iff.mp h.symm).2

theorem Ends.answer {x : Inquiry} {last : Option Report} (hopen : Tidings.of x.answers = .open last)
    (epoch : Nat) (reply : FetchReply) (h : x.Ends) : (x.answer epoch reply).Ends := by
  unfold Inquiry.answer
  split
  · intro before after r heq hclosed
    rcases List.eq_nil_or_concat after with hnil | ⟨after', reply', rfl⟩
    · exact hnil
    · -- What closed the matter before the last answer would have closed it then.
      have heq' : x.answers ++ [reply] = (before ++ after') ++ [reply'] := by simpa using heq
      obtain ⟨hbefore, -⟩ := List.append_inj' heq' rfl
      have hclosed' := Tidings.of_append_of_closed hclosed after'
      rw [← hbefore, hopen] at hclosed'
      cases hclosed'
  · exact h

end Inquiry

/-! ## Pollers -/

/-- A poller knows what the answers come to, and asks as long as they have not closed the matter. -/
inductive Poller.Follows (p : Poller) (call : CallId) (x : Inquiry) : Prop where
  | polling {task : PollTask} {last : Option Report} :
      p.task = some task → task.call = call →
      x.asked = (if task.fetching then some task.epoch else none) →
      Tidings.of x.answers = .open last → p.state.value.report = last →
      (p.interval = 0 → task.fetching = false ∧ x.answers = []) →
      Follows p call x
  /-- No ticker runs without a span between its ticks. -/
  | stalled :
      p.interval = 0 → p.task = none → x.asked = none → x.answers = [] → p.state.value.report = none →
      Follows p call x
  | closed {r : Report} :
      p.task = none → x.asked = none → Tidings.of x.answers = .closed r →
      p.state.value.report = some r →
      Follows p call x

theorem PollState.accepts_eq (s : PollState) (r : Report) : s.accepts r = Tidings.accepts s.report r := by
  cases hreport : s.report <;> simp [accepts, phase, Tidings.accepts, hreport]

namespace Poller

variable {p : Poller} {call : CallId} {x : Inquiry}

theorem answer_of_awaited {task : PollTask} (htask : p.task = some task)
    (hfetching : task.fetching = true) (reply : FetchReply) :
    p.answer task.epoch reply =
      { p with
        state := p.state.edit (absorb reply)
        task :=
          if isFinal reply p.state.value then none else some { task with fetching := false } } := by
  simp [answer, htask, hfetching]

/-- An answer that no task waits for does nothing. -/
theorem answer_of_other {epoch : Nat}
    (h : ∀ task, p.task = some task → task.fetching = true → task.epoch ≠ epoch) (reply : FetchReply) :
    p.answer epoch reply = p := by
  unfold answer
  split
  · rename_i task htask
    rw [if_neg]
    simpa using h task htask
  · rfl

/-- A fetch is under way just if the task waits for it. -/
theorem Follows.asked_iff (h : p.Follows call x) {epoch : Nat} :
    x.asked = some epoch ↔ ∃ task, p.task = some task ∧ task.fetching = true ∧ task.epoch = epoch := by
  cases h with
  | polling htask _ hasked _ _ _ => simp [hasked, htask]
  | stalled _ htask hasked _ _ => simp [hasked, htask]
  | closed htask hasked _ _ => simp [hasked, htask]

/-- An answer to another fetch than the one under way does nothing. -/
theorem Follows.answer_of_unasked (h : p.Follows call x) {epoch : Nat} (hasked : x.asked ≠ some epoch)
    (reply : FetchReply) : p.answer epoch reply = p ∧ x.answer epoch reply = x :=
  ⟨answer_of_other (fun task htask hfetching hepoch =>
    hasked (h.asked_iff.mpr ⟨task, htask, hfetching, hepoch⟩)) reply, if_neg hasked⟩

theorem Follows.report_eq (h : p.Follows call x) :
    p.state.value.report =
      match Tidings.of x.answers with
      | .open last => last
      | .closed r => some r := by
  cases h with
  | polling _ _ _ hopen hreport _ => rw [hopen, hreport]
  | stalled _ _ _ hanswers hreport =>
    rw [hanswers, hreport]
    rfl
  | closed _ _ hclosed hreport => rw [hclosed, hreport]

theorem Follows.asked_eq_none (h : p.Follows call x) {r : Report}
    (hclosed : Tidings.of x.answers = .closed r) : x.asked = none ∧ p.task = none := by
  cases h with
  | polling _ _ _ hopen =>
    rw [hopen] at hclosed
    cases hclosed
  | stalled _ htask hasked _ _ => exact ⟨hasked, htask⟩
  | closed htask hasked _ _ => exact ⟨hasked, htask⟩

theorem follows_setTarget (interval : Nat) (call : CallId) (now : Nat) :
    Follows (({ interval } : Poller).setTarget (some call) true now) call {} :=
  .polling rfl rfl rfl rfl rfl fun _ => ⟨rfl, rfl⟩

theorem Follows.tick (h : p.Follows call x) (now : Nat) :
    (p.tick now).1.Follows call
      (match (p.tick now).2 with
      | some (epoch, _) => x.ask epoch
      | none => x) := by
  unfold Poller.tick
  cases h with
  | @polling task last htask hcall hasked hopen hreport hstalls =>
    simp only [htask]
    split
    · split
      · -- The task is lost at its first tick, before there was any answer.
        rename_i hzero
        obtain ⟨hidle, hanswers⟩ := hstalls hzero
        rw [hanswers] at hopen
        cases hopen
        exact .stalled hzero rfl (by simp [hasked, hidle]) hanswers hreport
      · rename_i hpositive
        exact .polling rfl hcall rfl hopen hreport fun hzero => absurd hzero hpositive
    · exact .polling htask hcall hasked hopen hreport hstalls
  | stalled hzero htask hasked hanswers hreport =>
    simp only [htask]
    exact .stalled hzero htask hasked hanswers hreport
  | closed htask hasked hclosed hreport =>
    simp only [htask]
    exact .closed htask hasked hclosed hreport

/-- What one reply does to what is known is what it does to the tidings. -/
theorem report_absorb {s : PollState} {last : Option Report} (hreport : s.report = last)
    (reply : FetchReply) :
    match (Tidings.open last).next reply with
    | .open next => (absorb reply s).1.report = next ∧ isFinal reply s = false
    | .closed r => (absorb reply s).1.report = some r ∧ isFinal reply s = true := by
  subst hreport
  rcases reply with e | _ | r
  · exact ⟨rfl, rfl⟩
  · exact ⟨rfl, rfl⟩
  · simp only [Tidings.next, absorb, isFinal, PollState.accepts_eq]
    cases Tidings.accepts s.report r with
    | false => exact ⟨rfl, rfl⟩
    | true => cases r.phase.isTerminal <;> exact ⟨rfl, rfl⟩

/-- The answer to the fetch under way is folded in; any other answer comes too late. -/
theorem Follows.answer (h : p.Follows call x) (epoch : Nat) (reply : FetchReply) :
    (p.answer epoch reply).Follows call (x.answer epoch reply) := by
  by_cases hasked : x.asked = some epoch
  · obtain ⟨task, htask, hfetching, rfl⟩ := h.asked_iff.mp hasked
    have hinquiry : x.answer task.epoch reply = ⟨none, x.answers ++ [reply]⟩ := if_pos hasked
    rw [answer_of_awaited htask hfetching, hinquiry]
    cases h with
    | @polling task' last htask' hcall _ hopen hreport hstalls =>
      obtain rfl : task = task' := Option.some.inj (htask.symm.trans htask')
      have hpositive : p.interval ≠ 0 := by
        intro hzero
        simp [(hstalls hzero).1] at hfetching
      have hknown := report_absorb hreport reply
      have hof := Tidings.of_concat x.answers reply
      rw [hopen] at hof
      -- The task goes on just if the reply has not closed the matter.
      cases hnext : (Tidings.open last).next reply with
      | «open» next =>
        rw [hnext] at hknown hof
        rw [hknown.2]
        refine .polling rfl hcall rfl hof ?_ fun hzero => absurd hzero hpositive
        rw [Observed.value_edit]
        exact hknown.1
      | closed r =>
        rw [hnext] at hknown hof
        rw [hknown.2]
        refine .closed rfl rfl hof ?_
        rw [Observed.value_edit]
        exact hknown.1
    | stalled _ hnone _ _ _ => cases hnone.symm.trans htask
    | closed hnone _ _ _ => cases hnone.symm.trans htask
  · obtain ⟨hpoller, hinquiry⟩ := h.answer_of_unasked hasked reply
    rw [hpoller, hinquiry]
    exact h

/-- A poller that follows the answers asks again as long as the matter is open. -/
theorem Follows.asks (h : p.Follows call x) (hinterval : p.interval ≠ 0) {last : Option Report}
    (hopen : Tidings.of x.answers = .open last) (hidle : x.asked = none) :
    ∃ due, ∀ now, due ≤ now → ∃ epoch, (p.tick now).2 = some (epoch, call) := by
  cases h with
  | @polling task _ htask hcall hasked _ _ _ =>
    have hfetching : task.fetching = false := by
      cases hfetching : task.fetching with
      | false => rfl
      | true => simp [hasked, hfetching] at hidle
    refine ⟨task.ticker.due, fun now hdue => ⟨task.epoch, ?_⟩⟩
    simp [Poller.tick, htask, hfetching, hdue, hinterval, hcall]
  | stalled hzero _ _ _ _ => exact absurd hzero hinterval
  | closed _ _ hclosed _ =>
    rw [hopen] at hclosed
    cases hclosed

/-- Whatever a poller asks is about the call that it follows. -/
theorem Follows.asked_call (h : p.Follows call x) {now epoch : Nat} {asked : CallId}
    (htick : (p.tick now).2 = some (epoch, asked)) : asked = call := by
  unfold Poller.tick at htick
  cases h with
  | polling htask hcall _ _ _ _ =>
    simp only [htask] at htick
    split at htick
    · split at htick
      · cases htick
      · obtain ⟨-, rfl⟩ := Prod.mk.inj (Option.some.inj htick)
        exact hcall
    · cases htick
  | stalled _ htask _ _ _ => simp [htask] at htick
  | closed htask _ _ _ => simp [htask] at htick

private theorem absorb_quiet {s : PollState} {reply : FetchReply} (h : (absorb reply s).2 = false) :
    (absorb reply s).1 = s := by
  rcases reply with e | _ | r
  · cases h
  · obtain ⟨report, error, polling⟩ := s
    have herror : error = none := by simpa [absorb] using h
    rw [herror]
    rfl
  · simp only [absorb] at h ⊢
    split at h
    · cases h
    · rename_i hrefused
      rw [if_neg hrefused]

/-- What a reply changes is announced. -/
theorem answer_state (p : Poller) (epoch : Nat) (reply : FetchReply) :
    (p.answer epoch reply).state = p.state ∨
      p.state.version < (p.answer epoch reply).state.version := by
  unfold Poller.answer
  split
  · split
    · cases hannounced : (absorb reply p.state.value).2 with
      | false =>
        left
        simp [Observed.edit, hannounced, absorb_quiet hannounced]
      | true =>
        right
        simp [Observed.edit, hannounced, Observed.set]
    · exact Or.inl rfl
  · exact Or.inl rfl

end Poller

end ChainProvision
