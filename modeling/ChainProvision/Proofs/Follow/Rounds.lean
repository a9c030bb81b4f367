import ChainProvision.Proofs.Follow.Post
import Mathlib.Data.List.Nodup

/-!
# The rounds of a poller

Each time its owner points a poller at a call that is to be polled, a new task makes its round: it
asks about the call again and again, until a report is final or it is called off.  A chronicle writes
down, beside a post and its dossier, when each round began and when each of its fetches was begun and
answered; so it knows the past of every task, of which the poller itself keeps only when the next
fetch is due.

## Main definitions

- `Visit`, `Round`: a fetch and a task in time;
- `Chronicle`: a post with its dossier and all its rounds;
- `Chronicle.Sound`: how the post stands to its rounds;
- `Chronicle.Move`: what an event comes to for the present round.

## Main statements

- `Chronicle.Sound.step`: a chronicle stays sound, and every event is a move.
- `Chronicle.afterAll_induction`: what moves preserve holds after all events.
- `Chronicle.visits_afterAll`: the rounds leave out none of the fetches.
-/

namespace ChainProvision

/-! ## Visits and rounds -/

/-- A fetch in time. -/
structure Visit where
  /-- Its place among all fetches of the post. -/
  fetch : Nat
  begun : Nat
  /-- When and how it was answered. -/
  answer : Option (Nat × FetchReply) := none
  deriving DecidableEq

/-- The visit after a fetch was answered. -/
def Visit.after (i now : Nat) (reply : FetchReply) (v : Visit) : Visit :=
  if v.fetch = i then { v with answer := some (now, reply) } else v

/-- A task in time: when its poller was pointed at the call, and the fetches of the task in order. -/
structure Round where
  since : Nat
  /-- The report that was kept of earlier rounds about the call. -/
  known : Option Report
  visits : List Visit := []
  deriving DecidableEq

namespace Round

/-- A fetch begins. -/
def ask (x : Round) (i now : Nat) : Round := { x with visits := x.visits ++ [{ fetch := i, begun := now }] }

/-- A fetch is answered. -/
def answer (x : Round) (i now : Nat) (reply : FetchReply) : Round :=
  { x with visits := x.visits.map (Visit.after i now reply) }

/-- The answers of a round, in order. -/
def answers (x : Round) : List FetchReply := x.visits.filterMap fun v => v.answer.map Prod.snd

/-- All fetches of a round but the one that is waited for are answered, and that one is the last. -/
inductive Awaits (x : Round) : Option Nat → Prop where
  | nothing : (∀ v ∈ x.visits, v.answer.isSome = true) → Awaits x none
  | fetch {earlier : List Visit} {i begun : Nat} :
      x.visits = earlier ++ [⟨i, begun, none⟩] → (∀ v ∈ earlier, v.answer.isSome = true) →
      Awaits x (some i)

end Round

/-- The rounds of a poller in order.  The latest is the one that began when the poller was told of a
change the last time; there is none if no task began then. -/
structure Rounds where
  past : List Round := []
  latest : Option Round := none
  deriving DecidableEq

namespace Rounds

/-- Every round that has begun. -/
def all (x : Rounds) : List Round := x.past ++ x.latest.toList

/-- A change of the latest round. -/
def change (x : Rounds) (f : Round → Round) : Rounds := { x with latest := x.latest.map f }

/-- The rounds after an event at a post. -/
def note (x : Rounds) (p : PollingPost) (d : PollingPost.Dossier) (now : Nat) : PollingPost.Event → Rounds
  | .target call enabled =>
    if call = d.target ∧ enabled = d.enabled then x
    else
      { past := x.all
        latest :=
          if enabled && call.isSome then
            some { since := now, known := Report.latest (d.renew call enabled).answers }
          else none }
  | .stop => x
  | .wake =>
    match (p.poller.tick now).2 with
    | some _ => x.change (·.ask p.fetches.length now)
    | none => x
  | .reply i reply => if d.asked = some i then x.change (·.answer i now reply) else x

/-- The visits of all rounds. -/
def visits (x : Rounds) : List Visit := x.all.flatMap Round.visits

theorem visits_eq {x : Rounds} {r : Round} (h : x.latest = some r) :
    x.visits = x.past.flatMap Round.visits ++ r.visits := by
  simp [visits, all, h]

end Rounds

/-- A post with its dossier, all its rounds, and the time of the latest event. -/
structure Chronicle where
  post : PollingPost
  dossier : PollingPost.Dossier := {}
  rounds : Rounds := {}
  clock : Nat := 0

namespace Chronicle

open PollingPost (Event)

/-- A new poller, of which there is nothing to tell yet. -/
def start (interval : Nat) : Chronicle where
  post := { poller := { interval } }

/-- The chronicle after an event. -/
def step (c : Chronicle) (e : Nat × Event) : Chronicle where
  post := c.post.handle e.1 e.2
  dossier := c.dossier.note c.post e.1 e.2
  rounds := c.rounds.note c.post c.dossier e.1 e.2
  clock := e.1

/-- The chronicle after events, each with its time. -/
def run (c : Chronicle) (es : List (Nat × Event)) : Chronicle := es.foldl step c

/-- The chronicle of a new poller after events. -/
def afterAll (interval : Nat) (es : List (Nat × Event)) : Chronicle := (start interval).run es

/-! ## What an event comes to -/

/-- A post does as its dossier says, and its task is on the latest round. -/
structure Sound (c : Chronicle) : Prop where
  kept : PollingPost.Kept c.post c.dossier
  /-- The rounds leave out none of the fetches. -/
  visits : c.rounds.visits.map Visit.fetch = List.range c.post.fetches.length
  present : c.post.poller.task.isSome = true →
    ∃ x, c.rounds.latest = some x ∧ x.Awaits c.dossier.asked

/-- What an event comes to for the task and its round. -/
inductive Move (c : Chronicle) (now : Nat) (c' : Chronicle) : Prop where
  /-- For the poller nothing has happened. -/
  | rests : c'.post.poller = c.post.poller → c'.rounds = c.rounds → Move c now c'
  | pointed {call : Option CallId} {enabled : Bool} :
      c.post.poller.Renewed c'.post.poller call enabled →
      (∀ task, c'.post.poller.task = some task → task.ticker = ⟨now⟩) →
      c'.rounds =
        { past := c.rounds.all
          latest :=
            if enabled && call.isSome then
              some { since := now, known := c'.post.poller.state.value.report }
            else none } →
      Move c now c'
  | stopped :
      c.post.poller.Renewed c'.post.poller c.post.poller.target false → c'.rounds = c.rounds →
      Move c now c'
  /-- A task is lost that has no span between its ticks. -/
  | lost : c.post.poller.interval = 0 → c'.post.poller = { c.post.poller with task := none } →
      c'.rounds = c.rounds → Move c now c'
  | asked {task : PollTask} {x : Round} {i : Nat} :
      c.post.poller.interval ≠ 0 →
      c.post.poller.task = some task → task.fetching = false → task.ticker.due ≤ now →
      c'.post.poller =
        { c.post.poller with
          task := some
            { task with ticker := task.ticker.tick c.post.poller.interval now, fetching := true } } →
      c.rounds.latest = some x → (∀ v ∈ x.visits, v.answer.isSome = true) →
      c'.rounds = { c.rounds with latest := some (x.ask i now) } →
      Move c now c'
  | answered {task : PollTask} {x : Round} {earlier : List Visit} {i begun : Nat} {reply : FetchReply} :
      c.post.poller.task = some task → task.fetching = true →
      c'.post.poller =
        { c.post.poller with
          state := c.post.poller.state.edit (Poller.absorb reply)
          task := if Poller.isFinal reply c.post.poller.state.value then none
            else some { task with fetching := false } } →
      c.rounds.latest = some x →
      x.visits = earlier ++ [⟨i, begun, none⟩] → (∀ v ∈ earlier, v.answer.isSome = true) →
      c'.rounds =
        { c.rounds with
          latest := some { x with visits := earlier ++ [⟨i, begun, some (now, reply)⟩] } } →
      Move c now c'

variable {c : Chronicle}

theorem sound_start (interval : Nat) : (start interval).Sound where
  kept := PollingPost.kept_start interval
  visits := rfl
  present := by simp [start]

/-- A task that begins is due at once. -/
private theorem due_setTarget {p : Poller} {call : Option CallId} {enabled : Bool}
    (h : ¬ (call = p.target ∧ enabled = p.enabled)) {now : Nat} {task : PollTask}
    (htask : (p.setTarget call enabled now).task = some task) : task.ticker = ⟨now⟩ := by
  unfold Poller.setTarget at htask
  rw [if_neg h] at htask
  rcases enabled with _ | _ <;> rcases call with _ | call
  · cases htask
  · cases htask
  · cases htask
  · obtain rfl := Option.some.inj htask
    rfl

private theorem Sound.target (h : c.Sound) (now : Nat) (call : Option CallId) (enabled : Bool) :
    (c.step (now, .target call enabled)).Sound ∧ c.Move now (c.step (now, .target call enabled)) := by
  have hkept := h.kept.step (s := (c.post, c.dossier)) (now, .target call enabled)
  by_cases hsame : call = c.dossier.target ∧ enabled = c.dossier.enabled
  · have hpoller : c.post.poller.setTarget call enabled now = c.post.poller := by
      rw [← h.kept.target, ← h.kept.enabled] at hsame
      exact Poller.setTarget_of_same hsame now
    have hrounds : (c.step (now, .target call enabled)).rounds = c.rounds := if_pos hsame
    refine ⟨⟨hkept, ?_, ?_⟩, .rests hpoller hrounds⟩
    · rw [hrounds]
      exact h.visits
    · intro htask
      obtain ⟨x, hx, hawaits⟩ := h.present (hpoller ▸ htask)
      refine ⟨x, (congrArg Rounds.latest hrounds).trans hx, ?_⟩
      show x.Awaits (if _ then c.dossier else _ : PollingPost.Dossier).asked
      rw [if_pos hsame]
      exact hawaits
  · have hrenewed : c.post.poller.Renewed (c.post.poller.setTarget call enabled now) call enabled :=
      Poller.renewed_setTarget (by rwa [h.kept.target, h.kept.enabled]) now
    have hdossier : (c.step (now, .target call enabled)).dossier = c.dossier.renew call enabled :=
      if_neg hsame
    have hknown := hkept.sums.report
    change (c.post.poller.setTarget call enabled now).state.value.report =
      Report.latest (c.step (now, .target call enabled)).dossier.answers at hknown
    rw [hdossier] at hknown
    have hrounds : (c.step (now, .target call enabled)).rounds =
        { past := c.rounds.all
          latest :=
            if enabled && call.isSome then
              some { since := now,
                     known := (c.post.poller.setTarget call enabled now).state.value.report }
            else none } := by
      rw [hknown]
      exact if_neg hsame
    refine ⟨⟨hkept, ?_, ?_⟩, .pointed hrenewed (fun task htask => ?_) hrounds⟩
    · -- The round that begins has no visits yet.
      have hvisits : (c.step (now, .target call enabled)).rounds.visits = c.rounds.visits := by
        rw [hrounds]
        unfold Rounds.visits
        split <;> simp [Rounds.all]
      rw [hvisits]
      exact h.visits
    · intro htask
      have hbegins := hrenewed.begins.symm.trans htask
      rw [hrounds, hdossier]
      simp only [hbegins, if_true]
      exact ⟨_, rfl, .nothing (by simp)⟩
    · exact due_setTarget (by rwa [h.kept.target, h.kept.enabled]) htask

private theorem Sound.stop (h : c.Sound) (now : Nat) :
    (c.step (now, .stop)).Sound ∧ c.Move now (c.step (now, .stop)) :=
  ⟨⟨h.kept.step (s := (c.post, c.dossier)) (now, .stop), h.visits, fun htask => nomatch htask⟩,
    .stopped c.post.poller.renewed_stop rfl⟩

private theorem Sound.wake (h : c.Sound) (now : Nat) :
    (c.step (now, .wake)).Sound ∧ c.Move now (c.step (now, .wake)) := by
  have hkept := h.kept.step (s := (c.post, c.dossier)) (now, .wake)
  rcases c.post.poller.tick_cases now with
    htick | ⟨task, htask, hidle, hdue, ⟨hinterval, htick⟩ | ⟨hinterval, htick⟩⟩
  · have hpost : c.post.handle now .wake = c.post := by simp [PollingPost.handle, htick]
    have hdossier : c.dossier.note c.post now .wake = c.dossier := by
      simp [PollingPost.Dossier.note, htick]
    have hrounds : c.rounds.note c.post c.dossier now .wake = c.rounds := by
      simp [Rounds.note, htick]
    simp only [step, hpost, hdossier, hrounds]
    exact ⟨⟨h.kept, h.visits, h.present⟩, .rests rfl rfl⟩
  · have hpost : c.post.handle now .wake = { c.post with poller := { c.post.poller with task := none } } := by
      simp [PollingPost.handle, htick]
    have hrounds : c.rounds.note c.post c.dossier now .wake = c.rounds := by
      simp [Rounds.note, htick]
    refine ⟨⟨hkept, ?_, ?_⟩, .lost hinterval ?_ hrounds⟩
    · simp only [step, hpost, hrounds]
      exact h.visits
    · intro htask
      rw [show (c.step (now, .wake)).post = _ from hpost] at htask
      cases htask
    · exact congrArg PollingPost.poller hpost
  · have hpost : c.post.handle now .wake =
        { poller :=
            { c.post.poller with
              task := some
                { task with ticker := task.ticker.tick c.post.poller.interval now, fetching := true } }
          fetches := c.post.fetches ++ [{ epoch := task.epoch, call := task.call }] } := by
      simp [PollingPost.handle, htick]
    have hdossier : (c.dossier.note c.post now .wake).asked = some c.post.fetches.length := by
      simp [PollingPost.Dossier.note, htick, Inquiry.ask]
    obtain ⟨x, hx, hawaits⟩ := h.present (by simp [htask])
    have hrounds : c.rounds.note c.post c.dossier now .wake =
        { c.rounds with latest := some (x.ask c.post.fetches.length now) } := by
      simp [Rounds.note, htick, Rounds.change, hx]
    -- The task waits for its ticker, so that its round waits for no answer.
    have hanswered : ∀ v ∈ x.visits, v.answer.isSome = true := by
      have hfetching := h.kept.fetching
      rw [htask] at hfetching
      have hasked : c.dossier.asked = none := by simpa [hidle] using hfetching
      rw [hasked] at hawaits
      cases hawaits with
      | nothing hanswered => exact hanswered
    refine ⟨⟨hkept, ?_, fun _ => ⟨_, congrArg Rounds.latest hrounds, ?_⟩⟩,
      .asked hinterval htask hidle hdue (congrArg PollingPost.poller hpost) hx hanswered hrounds⟩
    · simp only [step, hpost, hrounds]
      have hvisits := h.visits
      rw [Rounds.visits_eq hx] at hvisits
      rw [Rounds.visits_eq rfl]
      simp only [Round.ask, ← List.append_assoc, List.map_append, hvisits]
      simp [List.range_succ]
    · simp only [step, hdossier]
      exact .fetch rfl hanswered

/-- The answer to the last visit is written down there and nowhere else. -/
private theorem map_after {earlier : List Visit} {i begun : Nat}
    (hnodup : (List.map Visit.fetch (earlier ++ [⟨i, begun, none⟩])).Nodup) (now : Nat)
    (reply : FetchReply) :
    List.map (Visit.after i now reply) (earlier ++ [⟨i, begun, none⟩]) =
      earlier ++ [⟨i, begun, some (now, reply)⟩] := by
  have hne : ∀ v ∈ earlier, v.fetch ≠ i := by
    intro v hv heq
    simp only [List.map_append, List.nodup_append] at hnodup
    exact hnodup.2.2 v.fetch (List.mem_map_of_mem hv) i (by simp) heq
  rw [List.map_append]
  congr 1
  · refine (List.map_congr_left fun v hv => ?_).trans (List.map_id _)
    exact if_neg (hne v hv)
  · simp [Visit.after]

private theorem Sound.reply (h : c.Sound) (now i : Nat) (reply : FetchReply) :
    (c.step (now, .reply i reply)).Sound ∧ c.Move now (c.step (now, .reply i reply)) := by
  have hkept := h.kept.step (s := (c.post, c.dossier)) (now, .reply i reply)
  have hlength : (c.post.handle now (.reply i reply)).fetches.length = c.post.fetches.length := by
    simp only [PollingPost.handle]
    split <;> simp
  by_cases hasked : c.dossier.asked = some i
  · obtain ⟨task, call, htask, hfetching, hget⟩ := h.kept.awaits hasked
    obtain ⟨x, hx, hawaits⟩ := h.present (by simp [htask])
    rw [hasked] at hawaits
    obtain - | ⟨hvisits, hanswered⟩ := hawaits
    rename_i earlier begun
    have hpoller : (c.post.handle now (.reply i reply)).poller = c.post.poller.answer task.epoch reply := by
      simp [PollingPost.handle, hget]
    have hdossier : (c.dossier.note c.post now (.reply i reply)).asked = none := by
      simp [PollingPost.Dossier.note, Inquiry.answer, hasked]
    have hfetches := h.visits
    rw [Rounds.visits_eq hx, hvisits] at hfetches
    have hafter : (x.answer i now reply).visits = earlier ++ [⟨i, begun, some (now, reply)⟩] := by
      unfold Round.answer
      rw [hvisits]
      refine map_after (List.Nodup.sublist ?_ (List.nodup_range (n := c.post.fetches.length))) now reply
      rw [← hfetches]
      exact (List.sublist_append_right _ _).map _
    have hrounds : c.rounds.note c.post c.dossier now (.reply i reply) =
        { c.rounds with
          latest := some { x with visits := earlier ++ [⟨i, begun, some (now, reply)⟩] } } := by
      simp only [Rounds.note, hasked, if_true, Rounds.change, hx, Option.map_some, ← hafter]
      rfl
    refine ⟨⟨hkept, ?_, fun _ => ⟨_, congrArg Rounds.latest hrounds, ?_⟩⟩,
      .answered htask hfetching (hpoller.trans (Poller.answer_of_awaited htask hfetching reply)) hx
        hvisits hanswered hrounds⟩
    · simp only [step, hlength, hrounds, ← hfetches]
      rw [Rounds.visits_eq rfl]
      simp
    · simp only [step, hdossier]
      refine .nothing fun v hv => ?_
      rcases List.mem_append.mp hv with hv | hv
      · exact hanswered v hv
      · obtain rfl := List.mem_singleton.mp hv
        rfl
  · -- Nobody waits for the answer.
    have hpoller := h.kept.answer_of_unasked hasked now reply
    have hdossier : c.dossier.note c.post now (.reply i reply) = c.dossier := by
      simp [PollingPost.Dossier.note, Inquiry.answer, hasked]
    have hrounds : c.rounds.note c.post c.dossier now (.reply i reply) = c.rounds := if_neg hasked
    refine ⟨⟨hkept, ?_, ?_⟩, .rests hpoller hrounds⟩
    · simp only [step, hlength, hrounds]
      exact h.visits
    · simp only [step, hpoller, hdossier, hrounds]
      exact h.present

/-- **A chronicle stays sound, and every event is a move**. -/
theorem Sound.step (h : c.Sound) (e : Nat × Event) : (c.step e).Sound ∧ c.Move e.1 (c.step e) := by
  obtain ⟨now, e⟩ := e
  cases e with
  | target call enabled => exact h.target now call enabled
  | stop => exact h.stop now
  | wake => exact h.wake now
  | reply i reply => exact h.reply now i reply

theorem interval_step (c : Chronicle) (e : Nat × Event) :
    (c.step e).post.poller.interval = c.post.poller.interval := by
  obtain ⟨now, e⟩ := e
  cases e with
  | target call enabled =>
    simp only [step, PollingPost.handle, Poller.setTarget]
    split
    · rfl
    · split <;> rfl
  | stop => rfl
  | wake => exact c.post.poller.tick_interval now
  | reply i reply =>
    simp only [step, PollingPost.handle]
    split
    · exact c.post.poller.answer_interval _ reply
    · rfl

/-- What holds at the start and is preserved by every move holds after all events. -/
theorem afterAll_induction {interval : Nat} {P : Chronicle → Prop} (hstart : P (start interval))
    (hstep : ∀ c e, c.Sound → c.post.poller.interval = interval → P c → c.Move e.1 (c.step e) →
      P (c.step e))
    (es : List (Nat × Event)) : P (afterAll interval es) := by
  have hrun : ∀ c : Chronicle, c.Sound → c.post.poller.interval = interval → P c → P (c.run es) := by
    induction es with
    | nil => exact fun c _ _ hc => hc
    | cons e es ih =>
      intro c hsound hinterval hc
      obtain ⟨hnext, hmove⟩ := hsound.step e
      exact ih _ hnext ((c.interval_step e).trans hinterval) (hstep c e hsound hinterval hc hmove)
  exact hrun _ (sound_start interval) rfl hstart

theorem interval_afterAll (interval : Nat) (es : List (Nat × Event)) :
    (afterAll interval es).post.poller.interval = interval :=
  afterAll_induction (P := fun c => c.post.poller.interval = interval) rfl
    (fun c e _ hinterval _ _ => (c.interval_step e).trans hinterval) es

theorem sound_afterAll (interval : Nat) (es : List (Nat × Event)) : (afterAll interval es).Sound :=
  afterAll_induction (sound_start interval) (fun _ e hsound _ _ _ => (hsound.step e).1) es

/-- The rounds leave out none of the fetches, and name each of them once. -/
theorem visits_afterAll (interval : Nat) (es : List (Nat × Event)) :
    (afterAll interval es).rounds.visits.map Visit.fetch =
      List.range (afterAll interval es).post.fetches.length :=
  (sound_afterAll interval es).visits

end Chronicle

end ChainProvision
