import ChainProvision.Proofs.Follow.Rounds

/-!
# What a poller says of itself

A poller shows whether it is polling, and has a task or none; its owner knows what it was told.  The
three agree at all times: a task is alive exactly while its poller is switched on, has a call and has
heard nothing final in its latest round.  The one exception is a poller without a span between its
ticks, whose task is lost at the first of them and leaves the flag behind.

## Main definitions

- `Round.tidings`: what the answers of a round come to;
- `Chronicle.Truthful`: the flags of a poller agree.

## Main statements

- `Chronicle.flags_agree`: the flags of a poller with a positive interval agree after all events.
- `Chronicle.flag_outlives_task`: those of a poller without one need not.
-/

namespace ChainProvision

/-- What the answers of a round come to, from the report that was kept before it. -/
def Round.tidings (x : Round) : Tidings := x.answers.foldl Tidings.next (.open x.known)

theorem Round.answers_ask (x : Round) (i now : Nat) : (x.ask i now).answers = x.answers := by
  simp [answers, ask]

theorem Round.answers_last {x : Round} {earlier : List Visit} {i begun now : Nat}
    (h : x.visits = earlier ++ [⟨i, begun, none⟩]) (reply : FetchReply) :
    ({ x with visits := earlier ++ [⟨i, begun, some (now, reply)⟩] } : Round).answers =
      x.answers ++ [reply] := by
  simp [answers, h]

namespace Chronicle

open PollingPost (Event)

variable {c c' : Chronicle} {now : Nat}

/-- A poller is on a round: its task goes on as long as the answers have left the matter open. -/
inductive Attends (p : Poller) (x : Round) : Prop where
  | polling : p.task.isSome = true → x.tidings = .open p.state.value.report → Attends p x
  | settled {r : Report} : p.task = none → x.tidings = .closed r → Attends p x

/-- The flags of a poller agree: it shows whether it has a task, and while it is switched on and has a
call it attends to its latest round. -/
structure Truthful (c : Chronicle) : Prop where
  flag : c.post.poller.state.value.polling = c.post.poller.task.isSome
  round : c.post.poller.enabled = true → c.post.poller.target.isSome = true →
    ∃ x, c.rounds.latest = some x ∧ Attends c.post.poller x

/-- An answer closes the matter just if it ends the task. -/
private theorem attends_answered {p : Poller} {x y : Round} {task : PollTask} {reply : FetchReply}
    (hopen : x.tidings = .open p.state.value.report) (hanswers : y.answers = x.answers ++ [reply])
    (hknown : y.known = x.known) :
    Attends
      { p with
        state := p.state.edit (Poller.absorb reply)
        task := if Poller.isFinal reply p.state.value then none
          else some { task with fetching := false } } y := by
  have hy : y.tidings = (Tidings.open p.state.value.report).next reply := by
    rw [← hopen]
    simp [Round.tidings, hanswers, hknown]
  have habsorb := Poller.report_absorb (s := p.state.value) rfl reply
  cases hnext : (Tidings.open p.state.value.report).next reply with
  | «open» last =>
    rw [hnext] at habsorb hy
    refine .polling (by simp [habsorb.2]) ?_
    rw [hy, Observed.value_edit, habsorb.1]
  | closed r =>
    rw [hnext] at habsorb hy
    exact .settled (by simp [habsorb.2]) hy

/-- The flag is put down just when a reply ends the task. -/
private theorem polling_absorb (reply : FetchReply) (s : PollState) :
    (Poller.absorb reply s).1.polling = (s.polling && !Poller.isFinal reply s) := by
  rcases reply with e | _ | r
  · simp [Poller.absorb, Poller.isFinal]
  · simp [Poller.absorb, Poller.isFinal]
  · simp only [Poller.absorb, Poller.isFinal]
    split <;> simp_all [PollState.learn]

/-- **Every move leaves the flags in agreement**, unless it loses the task. -/
theorem Truthful.move (h : c.Truthful) (hinterval : c.post.poller.interval ≠ 0)
    (hmove : c.Move now c') : c'.Truthful := by
  cases hmove with
  | rests hpoller hrounds =>
    refine ⟨?_, ?_⟩
    · rw [hpoller]
      exact h.flag
    · rw [hpoller, hrounds]
      exact h.round
  | pointed hrenewed _ hrounds =>
    refine ⟨hrenewed.polling, fun henabled htarget => ?_⟩
    rw [hrenewed.enabled] at henabled
    rw [hrenewed.target] at htarget
    have hbegins := hrenewed.begins
    rw [henabled, htarget] at hbegins
    rw [hrounds, henabled, htarget]
    exact ⟨_, rfl, .polling hbegins rfl⟩
  | stopped hrenewed _ =>
    refine ⟨hrenewed.polling, fun henabled => ?_⟩
    rw [hrenewed.enabled] at henabled
    cases henabled
  | lost hzero _ _ => exact absurd hzero hinterval
  | asked _ htask _ _ hpoller hlatest _ hrounds =>
    have hflag := h.flag
    rw [htask] at hflag
    refine ⟨by rw [hpoller]; exact hflag, fun henabled htarget => ?_⟩
    rw [hpoller] at henabled htarget ⊢
    rw [hrounds]
    obtain ⟨x, hx, hattends⟩ := h.round henabled htarget
    obtain rfl := Option.some.inj (hlatest.symm.trans hx)
    refine ⟨_, rfl, ?_⟩
    cases hattends with
    | polling _ hopen =>
      refine .polling rfl ?_
      unfold Round.tidings
      rw [Round.answers_ask]
      exact hopen
    | settled hnone _ => cases hnone.symm.trans htask
  | @answered task x earlier i begun reply htask _ hpoller hlatest hvisits _ hrounds =>
    have hflag := h.flag
    rw [htask] at hflag
    refine ⟨?_, fun henabled htarget => ?_⟩
    · rw [hpoller, Observed.value_edit, polling_absorb, hflag]
      cases Poller.isFinal reply c.post.poller.state.value <;> rfl
    · rw [hpoller] at henabled htarget ⊢
      rw [hrounds]
      obtain ⟨x, hx, hattends⟩ := h.round henabled htarget
      obtain rfl := Option.some.inj (hlatest.symm.trans hx)
      refine ⟨_, rfl, ?_⟩
      cases hattends with
      | polling _ hopen => exact attends_answered hopen (Round.answers_last hvisits reply) rfl
      | settled hnone _ => cases hnone.symm.trans htask

theorem truthful_afterAll {interval : Nat} (hinterval : 0 < interval) (es : List (Nat × Event)) :
    (afterAll interval es).Truthful :=
  afterAll_induction ⟨rfl, fun henabled => nomatch henabled⟩
    (fun _ _ _ hkept htruthful hmove =>
      htruthful.move (hkept ▸ Nat.ne_of_gt hinterval) hmove) es

/-- A poller that is told what it was told before does nothing, and announces nothing. -/
theorem step_target_same (h : c.Sound) (now : Nat) :
    c.step (now, .target c.post.poller.target c.post.poller.enabled) = { c with clock := now } := by
  have hsame : c.post.poller.target = c.dossier.target ∧ c.post.poller.enabled = c.dossier.enabled :=
    ⟨h.kept.target, h.kept.enabled⟩
  have hpoller := Poller.setTarget_of_same (p := c.post.poller) ⟨rfl, rfl⟩ now
  simp only [step, PollingPost.handle, PollingPost.Dossier.note, Rounds.note, hpoller, if_pos hsame]

/-- **The flags of a poller with a positive interval agree** after all events.  It shows that it is
polling exactly while it has a task; it has one exactly while it is switched on, has a call, and no
answer of the round that began with the last change has closed the matter.  To be told the same again
changes nothing: no announcement is made, and no round begins or ends. -/
theorem flags_agree {interval : Nat} (hinterval : 0 < interval) (es : List (Nat × Event)) :
    let c := afterAll interval es
    c.post.poller.state.value.polling = c.post.poller.isPolling ∧
    (c.post.poller.isPolling = true ↔
      c.post.poller.enabled = true ∧ c.post.poller.target.isSome = true ∧
      ∃ x, c.rounds.latest = some x ∧ ∀ r, x.tidings ≠ .closed r) ∧
    (c.post.poller.enabled = true → c.post.poller.target.isSome = true → c.rounds.latest.isSome = true) ∧
    ∀ now, c.step (now, .target c.post.poller.target c.post.poller.enabled) = { c with clock := now } := by
  intro c
  have hsound : c.Sound := sound_afterAll interval es
  have htruthful : c.Truthful := truthful_afterAll hinterval es
  refine ⟨htruthful.flag, ⟨fun hpolling => ?_, ?_⟩, fun henabled htarget => ?_, step_target_same hsound⟩
  · obtain ⟨task, htask⟩ := Option.isSome_iff_exists.mp hpolling
    obtain ⟨henabled, htarget, -⟩ := hsound.kept.task htask
    rw [← hsound.kept.enabled] at henabled
    rw [← hsound.kept.target] at htarget
    have htarget : c.post.poller.target.isSome = true := by rw [htarget]; rfl
    obtain ⟨x, hx, hattends⟩ := htruthful.round henabled htarget
    refine ⟨henabled, htarget, x, hx, fun r hclosed => ?_⟩
    cases hattends with
    | polling _ hopen => cases hopen.symm.trans hclosed
    | settled hnone _ => cases hnone.symm.trans htask
  · rintro ⟨henabled, htarget, x, hx, hopen⟩
    obtain ⟨x', hx', hattends⟩ := htruthful.round henabled htarget
    obtain rfl := Option.some.inj (hx.symm.trans hx')
    cases hattends with
    | polling htask _ => exact htask
    | settled _ hclosed => exact absurd hclosed (hopen _)
  · obtain ⟨x, hx, -⟩ := htruthful.round henabled htarget
    rw [hx]
    rfl

/-- A poller hears something final, and is told the same again. -/
private def heardAll : List (Nat × Event) := [
  (0, .target (some ⟨.ofNat 42⟩) true), (0, .wake),
  (3, .reply 0 (.ok (some { call := ⟨.ofNat 42⟩, phase := .ready })))]

theorem flags_agree_heardAll :
    let c := afterAll 2000 heardAll
    c.post.poller.enabled = true ∧ c.post.poller.isPolling = false ∧
      c.post.poller.state.value.polling = false ∧
      c.step (5, .target (some ⟨.ofNat 42⟩) true) = { c with clock := 5 } := by
  intro c
  obtain ⟨hflag, -, -, hsame⟩ := flags_agree (by decide : 0 < 2000) heardAll
  have hidle : c.post.poller.isPolling = false := by decide
  exact ⟨by decide, hidle, hflag.trans hidle, hsame 5⟩

/-- A poller without a span between its ticks. -/
private def spanless : Chronicle := afterAll 0 [(0, .target (some ⟨.ofNat 42⟩) true), (0, .wake)]

/-- The task of a poller without a span between its ticks is lost at the first of them: it is not alive
although nothing final was heard, and the poller goes on to show that it is polling. -/
theorem flag_outlives_task :
    spanless.post.poller.isPolling = false ∧ spanless.post.poller.state.value.polling = true ∧
      spanless.post.poller.enabled = true ∧ spanless.post.poller.target = some ⟨.ofNat 42⟩ ∧
      spanless.rounds.latest = some { since := 0, known := none } := by
  decide

end Chronicle

end ChainProvision
