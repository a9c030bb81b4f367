import ChainProvision.Deployment.Crew
import ChainProvision.Proofs.Deployment.Strategy

/-!
# One way of waiting at a time

Whatever has become of the attempts before, a deployer that waits has one task, which asks the operator about a
call or watches the contract for a request.  A vigil that the deployer gave up may still have one, until the
runtime has dropped it; it is for what the receipt of its own attempt named.

## Main definitions

* `Crew.run`, `Crew.afterAll`: runs of a crew;
* `Vigil.Remains`: a vigil is what is left of another one;
* `Crew.Tidy`: a vigil that the deployer does not hold has ended, or is going to be dropped;
* `Crew.Lingers`: the task of an attempt that was given up has a turn before it is dropped;
* `Crew.Received`: a receipt named what an attempt waits for;
* `Crew.Quiescent`: nothing is left to be done without an event.

## Main statements

- `Crew.Tidy.run`: every crew is tidy.
- `Crew.handle_prompt`: a crew that runs whatever is ready at once is the deployer by itself.
- `Crew.one_way_of_waiting`: which tasks are alive, and what they ask for.
-/

namespace ChainProvision

open Deployer

/-! ## Vigils that are no more -/

namespace Lookout

variable {settings : Settings} {quarry : Quarry} {lookout : Lookout}

/-- No task of a lookout is alive. -/
structure Ended (lookout : Lookout) : Prop where
  polls : lookout.pollTask? = none
  watches : lookout.watchTask? = none

theorem ended_drop (lookout : Lookout) : lookout.drop.Ended := by
  cases lookout <;> exact ⟨rfl, rfl⟩

/-- What comes for a task that is no more is lost. -/
theorem Ended.hear (h : lookout.Ended) (m : Moment) (g : Nat) (news : News) :
    lookout.hear m g news = (lookout, []) := by
  cases lookout with
  | operator call poller =>
    have htask : poller.task = none := h.polls
    cases news <;>
      simp [Lookout.hear, News.event, Event.tell, stepPoller, stepWatcher, wake, Poller.answer, Poller.tick, htask]
  | contract watcher =>
    have htask : watcher.task = none := h.watches
    cases news <;>
      simp [Lookout.hear, News.event, Event.tell, stepPoller, stepWatcher, wake, Watcher.subscribed,
        Watcher.batch, Watcher.closed, Watcher.wake, htask]

theorem Seeks.hear (h : lookout.Seeks settings quarry) (m : Moment) (g : Nat) (news : News) :
    (lookout.hear m g news).1.Seeks settings quarry := (h.tell m _).wake m g

theorem Seeks.hear_asks (h : lookout.Seeks settings quarry) (m : Moment) (g : Nat) (news : News) :
    ∀ effect ∈ (lookout.hear m g news).2, effect.Seeks settings g quarry := (h.tell m _).asks m g

end Lookout

namespace Vigil

variable {v : Vigil} {m : Moment} {g : Nat} {news : News}

@[simp] theorem hear_generation (v : Vigil) (m : Moment) (g : Nat) (news : News) :
    (v.hear m g news).1.generation = v.generation := by
  unfold hear
  split <;> rfl

theorem hear_of_ended (h : v.lookout.Ended) (m : Moment) (g : Nat) (news : News) :
    v.hear m g news = (v, []) := by
  unfold hear
  split
  · rw [h.hear]
  · rfl

theorem mem_hear {effect : Effect} (h : effect ∈ (v.hear m g news).2) :
    v.generation = g ∧ effect ∈ (v.lookout.hear m g news).2 := by
  unfold hear at h
  split at h
  · rename_i hgen
    exact ⟨hgen, h⟩
  · cases h

/-- What a vigil has heard of does not wake a task that has ended. -/
theorem ended_hear (h : v.lookout.Ended) (m : Moment) (g : Nat) (news : News) :
    (v.hear m g news).1.lookout.Ended := by
  rw [hear_of_ended h]
  exact h

/-- A vigil is what is left of another one: it does not begin again, and it is for the same. -/
structure Remains (settings : Settings) (w v : Vigil) : Prop where
  generation : w.generation = v.generation
  ended : w.lookout.Ended → v.lookout.Ended
  seeks {quarry : Quarry} : w.lookout.Seeks settings quarry → v.lookout.Seeks settings quarry

theorem Remains.refl {settings : Settings} (v : Vigil) : v.Remains settings v := ⟨rfl, id, id⟩

theorem Remains.hear {settings : Settings} (v : Vigil) (m : Moment) (g : Nat) (news : News) :
    v.Remains settings (v.hear m g news).1 where
  generation := (hear_generation v m g news).symm
  ended hended := ended_hear hended m g news
  seeks hseeks := by
    unfold Vigil.hear
    split
    · exact hseeks.hear m g news
    · exact hseeks

end Vigil

/-! ## Runs -/

namespace Crew

variable {settings : Settings} {m : Moment} {c c' : Crew} {h : Happening} {effects : List Effect} {effect : Effect}
  {g : Nat} {v : Vigil}

/-- The crew after a run. -/
def run (c : Crew) (xs : List (Moment × Happening)) : Crew :=
  xs.foldl (fun c x => (c.handle x.1 x.2).1) c

/-- A crew after a run from the start. -/
def afterAll (settings : Settings) (encoder : Encoder) (mode : ResourceKind)
    (xs : List (Moment × Happening)) : Crew := (of (new settings encoder mode)).run xs

theorem run_append (c : Crew) (xs ys : List (Moment × Happening)) :
    c.run (xs ++ ys) = (c.run xs).run ys := List.foldl_append

/-- What becomes of the vigil that the deployer held before it went on. -/
inductive Follows (c : Crew) (relay : Relay) : Crew → Prop where
  /-- There was none, or it is kept. -/
  | kept : Follows c relay { c with relay }
  /-- It has ended by itself. -/
  | ended {v : Vigil} :
      c.relay.ahead = some v →
      Follows c relay { c with relay, former := c.former ++ [v.drop] }
  /-- Its task is told to end. -/
  | discarded {v : Vigil} :
      c.relay.ahead = some v →
      Follows c relay { relay, former := c.former ++ [v], ready := c.ready ++ [.drop v.generation] }

theorem follows_follow (c : Crew) (relay : Relay) : c.Follows relay (c.follow relay) := by
  unfold follow
  split
  · exact .kept
  · rename_i v hv
    split
    · exact .kept
    · split
      · exact .ended hv
      · exact .discarded hv

@[simp] theorem follow_relay (c : Crew) (relay : Relay) : (c.follow relay).relay = relay := by
  have hfollows := follows_follow c relay
  generalize c.follow relay = next at hfollows
  cases hfollows <;> rfl

/-- Nothing is ready behind what was, or a task that was told to end. -/
theorem follow_ready (c : Crew) (relay : Relay) :
    (c.follow relay).ready = c.ready ∨
      ∃ v, c.relay.ahead = some v ∧ (c.follow relay).ready = c.ready ++ [.drop v.generation] := by
  have hfollows := follows_follow c relay
  generalize c.follow relay = next at hfollows ⊢
  cases hfollows with
  | kept => exact Or.inl rfl
  | ended _ => exact Or.inl rfl
  | discarded hv => exact Or.inr ⟨_, hv, rfl⟩

/-- No vigil is given up but the one that the deployer held. -/
theorem mem_follow_former {relay : Relay} (hv : v ∈ (c.follow relay).former) :
    v ∈ c.former ∨ v.lookout.Ended ∨ c.relay.ahead = some v := by
  have hfollows := follows_follow c relay
  generalize c.follow relay = next at hfollows hv
  cases hfollows with
  | kept => exact Or.inl hv
  | ended _ =>
    refine (List.mem_append.mp hv).imp_right fun hlast => Or.inl ?_
    obtain rfl := List.mem_singleton.mp hlast
    exact Lookout.ended_drop _
  | discarded hahead =>
    refine (List.mem_append.mp hv).imp_right fun hlast => Or.inr ?_
    obtain rfl := List.mem_singleton.mp hlast
    exact hahead

/-- All that may happen to a crew. -/
inductive Step (m : Moment) (c : Crew) : Happening → Crew → List Effect → Prop where
  | took {e : Event} :
      Step m c (.event e) (c.follow (c.relay.take m e).1) (c.relay.take m e).2
  | noted {g : Nat} {news : News} :
      Step m c (.news g news) { c with ready := c.ready ++ [.news g news] } []
  | looked :
      Step m c .look (c.follow (c.relay.look m)) []
  | idled {place : Nat} :
      c.ready[place]? = none →
      Step m c (.turn place) c []
  /-- The task of the deployer's vigil has its turn. -/
  | ran {place g : Nat} {news : News} :
      c.ready[place]? = some (.news g news) → c.relay.ahead.map Vigil.generation = some g →
      Step m c (.turn place)
        ({ c with ready := c.ready.eraseIdx place }.follow (c.relay.take m (news.event g)).1)
        (c.relay.take m (news.event g)).2
  /-- The task of a vigil that the deployer does not hold any more has its turn. -/
  | heard {place g : Nat} {news : News} :
      c.ready[place]? = some (.news g news) → c.relay.ahead.map Vigil.generation ≠ some g →
      Step m c (.turn place)
        { c with
          former := c.former.map fun v => (v.hear m g news).1
          ready := c.ready.eraseIdx place }
        (c.former.flatMap fun v => (v.hear m g news).2)
  | dropped {place g : Nat} :
      c.ready[place]? = some (.drop g) →
      Step m c (.turn place)
        { c with
          former := c.former.map fun v => if v.generation = g then v.drop else v
          ready := c.ready.eraseIdx place }
        []

theorem step_handle (m : Moment) (c : Crew) (h : Happening) :
    Step m c h (c.handle m h).1 (c.handle m h).2 := by
  cases h with
  | event e => exact .took
  | news g news => exact .noted
  | look => exact .looked
  | turn place =>
    cases hjob : c.ready[place]? with
    | none =>
      simp only [handle, hjob]
      exact .idled hjob
    | some job =>
      simp only [handle, hjob]
      cases job with
      | news g news =>
        by_cases hahead : c.relay.ahead.map Vigil.generation = some g
        · simp only [perform, hahead, if_true]
          exact .ran hjob hahead
        · simp only [perform, hahead, if_false, List.map_map, List.flatMap_map]
          exact .heard hjob hahead
      | drop g => exact .dropped hjob

/-- A crew goes on by one step of its relay, if it does; the answers that come are those that the crew takes. -/
theorem Step.relay (hstep : Step m c h c' effects) :
    c'.relay = c.relay ∨
      ∃ o, c'.relay = c.relay.step (m, o) ∧
        ∀ i answer, o = .event (.answer i answer) → h = .event (.answer i answer) := by
  cases hstep with
  | took => exact Or.inr ⟨.event _, follow_relay _ _, by simp⟩
  | looked => exact Or.inr ⟨.look, follow_relay _ _, by simp⟩
  | @ran _ g news _ _ =>
    refine Or.inr ⟨.event (news.event g), follow_relay _ _, ?_⟩
    cases news <;> simp [News.event]
  | noted | idled | heard | dropped => exact Or.inl rfl

/-! ## Tidiness -/

/-- The deployer's own vigil is as its task has left it.  Every other one has ended, or its task is going to be
dropped. -/
structure Tidy (settings : Settings) (c : Crew) : Prop where
  level : c.relay.Level settings
  former : ∀ v ∈ c.former, v.lookout.Ended ∨ Job.drop v.generation ∈ c.ready

theorem tidy_of {d : Deployer} (h : Relay.Level settings (.of d)) : Tidy settings (.of d) where
  level := h
  former := by simp [of]

theorem Tidy.follow (h : c.Tidy settings) {relay : Relay} (hlevel : relay.Level settings) :
    (c.follow relay).Tidy settings := by
  have hfollows := follows_follow c relay
  generalize c.follow relay = next at hfollows ⊢
  cases hfollows with
  | kept => exact ⟨hlevel, h.former⟩
  | @ended v _ =>
    refine ⟨hlevel, fun w hw => ?_⟩
    rcases List.mem_append.mp hw with hw | hw
    · exact h.former w hw
    · obtain rfl := List.mem_singleton.mp hw
      exact Or.inl (Lookout.ended_drop _)
  | @discarded v _ =>
    refine ⟨hlevel, fun w hw => ?_⟩
    rcases List.mem_append.mp hw with hw | hw
    · exact (h.former w hw).imp_right (List.mem_append_left _)
    · obtain rfl := List.mem_singleton.mp hw
      exact Or.inr (List.mem_append_right _ (List.mem_singleton_self _))

/-- The other jobs stay ready. -/
theorem mem_eraseIdx_of_ne {jobs : List Job} {place : Nat} {job : Job} (hmem : job ∈ jobs)
    (hne : jobs[place]? ≠ some job) : job ∈ jobs.eraseIdx place := by
  obtain ⟨i, hi⟩ := List.mem_iff_getElem?.mp hmem
  refine List.mem_eraseIdx_iff_getElem?.mpr ⟨i, ?_, hi⟩
  rintro rfl
  exact hne hi

theorem Tidy.without (h : c.Tidy settings) {place g : Nat} {news : News}
    (hjob : c.ready[place]? = some (.news g news)) :
    Tidy settings { c with ready := c.ready.eraseIdx place } where
  level := h.level
  former v hv := (h.former v hv).imp_right (mem_eraseIdx_of_ne · (by simp [hjob]))

/-- **Whatever happens, a crew stays tidy.** -/
theorem Tidy.step (htidy : c.Tidy settings) (hstep : Step m c h c' effects) : c'.Tidy settings := by
  cases hstep with
  | took => exact htidy.follow (htidy.level.step (m, .event _))
  | noted => exact ⟨htidy.level, fun v hv => (htidy.former v hv).imp_right (List.mem_append_left _)⟩
  | looked => exact htidy.follow (htidy.level.step (m, .look))
  | idled => exact htidy
  | ran hjob => exact (htidy.without hjob).follow (htidy.level.step (m, .event _))
  | heard hjob =>
    refine ⟨htidy.level, fun v hv => ?_⟩
    obtain ⟨w, hw, rfl⟩ := List.mem_map.mp hv
    rw [Vigil.hear_generation]
    exact ((htidy.without hjob).former w hw).imp_left (Vigil.ended_hear · _ _ _)
  | @dropped place g hjob =>
    refine ⟨htidy.level, fun v hv => ?_⟩
    obtain ⟨w, hw, rfl⟩ := List.mem_map.mp hv
    split
    · exact Or.inl (Lookout.ended_drop _)
    · -- The job was for another attempt.
      rename_i hother
      refine (htidy.former w hw).imp_right (mem_eraseIdx_of_ne · ?_)
      simpa [hjob] using Ne.symm hother

theorem Tidy.run (h : c.Tidy settings) (xs : List (Moment × Happening)) : (c.run xs).Tidy settings := by
  induction xs generalizing c with
  | nil => exact h
  | cons x xs ih => exact ih (h.step (step_handle x.1 c x.2))

theorem tidy_afterAll (settings : Settings) (encoder : Encoder) (mode : ResourceKind)
    (xs : List (Moment × Happening)) : (afterAll settings encoder mode xs).Tidy settings :=
  (tidy_of (Relay.level_new settings encoder mode)).run xs

/-! ## Who asks -/

/-- The task of an attempt that was given up has a turn before it is dropped. -/
def Lingers (c : Crew) (g : Nat) (h : Happening) : Prop :=
  Job.drop g ∈ c.ready ∧ ∃ place news, h = .turn place ∧ c.ready[place]? = some (.news g news)

/-- **Only the current attempt asks after its resource**, or one that is going to be dropped. -/
theorem Tidy.asks (htidy : c.Tidy settings) (hstep : Step m c h c' effects) (hmem : effect ∈ effects)
    (hattempt : effect.attempt? = some g) :
    (g = c.deployer.generation ∧ ∃ v, c.relay.ahead = some v ∧ v.generation = g ∧
      ∀ quarry, v.lookout.Seeks settings quarry → effect.Seeks settings g quarry) ∨
    (c.Lingers g h ∧ ∃ v ∈ c.former, ¬ v.lookout.Ended ∧ v.generation = g ∧
      ∀ quarry, v.lookout.Seeks settings quarry → effect.Seeks settings g quarry) := by
  have hown : ∀ {e : Event}, effect ∈ (c.relay.take m e).2 →
      g = c.deployer.generation ∧ ∃ v, c.relay.ahead = some v ∧ v.generation = g ∧
        ∀ quarry, v.lookout.Seeks settings quarry → effect.Seeks settings g quarry := by
    intro e htaken
    obtain ⟨v, hv, hcurrent, hgen, hasks⟩ := htidy.level.asks htaken (by simp [hattempt])
    obtain rfl : v.generation = g := Option.some.inj (hgen.symm.trans hattempt)
    exact ⟨hcurrent, v, hv, rfl, hasks⟩
  cases hstep with
  | took => exact Or.inl (hown hmem)
  | ran => exact Or.inl (hown hmem)
  | @heard place g' news hjob =>
    obtain ⟨v, hv, hasked⟩ := List.mem_flatMap.mp hmem
    -- It asks, so it has not ended; then it is going to be dropped, since the crew is tidy.
    have halive : ¬ v.lookout.Ended := fun hended => by simp [Vigil.hear_of_ended hended] at hasked
    obtain ⟨hgen, hasked⟩ := Vigil.mem_hear hasked
    obtain rfl : g = g' := Option.some.inj (hattempt.symm.trans (Lookout.attempt?_wake hasked))
    exact Or.inr ⟨⟨hgen ▸ (htidy.former v hv).resolve_left halive, place, news, rfl, hjob⟩,
      v, hv, halive, hgen, fun quarry hseeks => hseeks.hear_asks _ _ _ _ hasked⟩
  | noted | looked | idled | dropped => cases hmem

/-! ## What is waited for -/

section Runs

variable (settings : Settings) (encoder : Encoder) (mode : ResourceKind)

/-- A receipt named what the attempt of a generation waits for, when the attempt was the current one. -/
def Received (xs : List (Moment × Happening)) (generation : Nat) (quarry : Quarry) : Prop :=
  ∃ before m i receipt after a t hash number,
    xs = before ++ (m, .event (.answer i (.receipt (.ok receipt)))) :: after ∧
      Relay.Confirms (afterAll settings encoder mode before).deployer i a t hash receipt number ∧
      a.generation = generation ∧ quarryOf a.route number = quarry

variable {settings encoder mode} {xs : List (Moment × Happening)}

theorem afterAll_concat (x : Moment × Happening) :
    afterAll settings encoder mode (xs ++ [x]) = ((afterAll settings encoder mode xs).handle x.1 x.2).1 :=
  run_append _ _ _

theorem Received.concat {quarry : Quarry} (h : Received settings encoder mode xs g quarry)
    (x : Moment × Happening) : Received settings encoder mode (xs ++ [x]) g quarry := by
  obtain ⟨before, m, i, receipt, after, a, t, hash, number, rfl, hreceipt⟩ := h
  exact ⟨before, m, i, receipt, after ++ [x], a, t, hash, number, by simp, hreceipt⟩

/-- **What is waited for was named by the receipt** of the attempt that waits. -/
theorem received_of_ahead (hv : (afterAll settings encoder mode xs).relay.ahead = some v) :
    ∃ quarry, Received settings encoder mode xs v.generation quarry ∧ v.lookout.Seeks settings quarry := by
  -- From the end of the run: what has not just begun was there before.
  induction xs using List.reverseRecOn generalizing v with
  | nil => cases hv
  | append_singleton xs x ih =>
    have hlevel := (tidy_afterAll settings encoder mode xs).level
    have hkept : ∀ w, (afterAll settings encoder mode xs).relay.ahead = some w →
        w.generation = v.generation →
        (∀ quarry, w.lookout.Seeks settings quarry → v.lookout.Seeks settings quarry) →
        ∃ quarry, Received settings encoder mode (xs ++ [x]) v.generation quarry ∧
          v.lookout.Seeks settings quarry := by
      intro w hw hgen hseeks
      obtain ⟨quarry, hreceived, hquarry⟩ := ih hw
      exact ⟨quarry, hgen ▸ hreceived.concat x, hseeks _ hquarry⟩
    rw [afterAll_concat] at hv
    rcases (step_handle x.1 (afterAll settings encoder mode xs) x.2).relay with hsame | ⟨o, hnext, hanswer⟩
    · rw [hsame] at hv
      exact hkept v hv rfl fun _ => id
    · rw [hnext] at hv
      rcases hlevel.ahead_step hv with ⟨w, hw, hgen, hseeks⟩ | hbegins
      · exact hkept w hw hgen hseeks
      · obtain ⟨i, receipt, a, t, hash, number, ho, hc, rfl⟩ := hbegins
        have hx : x.2 = .event (.answer i (.receipt (.ok receipt))) := hanswer _ _ ho
        have hreceived : Received settings encoder mode (xs ++ [x]) a.generation (quarryOf a.route number) :=
          ⟨xs, x.1, i, receipt, [], a, t, hash, number, by rw [← hx], hc, rfl, rfl⟩
        exact ⟨_, hreceived, Lookout.seeks_start _ _ _⟩

/-- A vigil that the deployer does not hold any more was its own before, or it was given up before. -/
theorem Step.former (settings : Settings) (hstep : Step m c h c' effects) (hv : v ∈ c'.former) :
    v.lookout.Ended ∨ c.relay.ahead = some v ∨ ∃ w ∈ c.former, w.Remains settings v := by
  have hold : v ∈ c.former → ∃ w ∈ c.former, w.Remains settings v := fun hmem => ⟨v, hmem, .refl v⟩
  cases hstep with
  | took | looked | ran =>
    rcases mem_follow_former hv with hmem | hended | hahead
    · exact Or.inr (Or.inr (hold hmem))
    · exact Or.inl hended
    · exact Or.inr (Or.inl hahead)
  | noted | idled => exact Or.inr (Or.inr (hold hv))
  | heard =>
    obtain ⟨w, hw, rfl⟩ := List.mem_map.mp hv
    exact Or.inr (Or.inr ⟨w, hw, .hear w _ _ _⟩)
  | dropped =>
    obtain ⟨w, hw, rfl⟩ := List.mem_map.mp hv
    split
    · exact Or.inl (Lookout.ended_drop _)
    · exact Or.inr (Or.inr ⟨w, hw, .refl w⟩)

/-- A vigil that was given up does not wait for anything else. -/
theorem received_of_former (hv : v ∈ (afterAll settings encoder mode xs).former) :
    v.lookout.Ended ∨
      ∃ quarry, Received settings encoder mode xs v.generation quarry ∧ v.lookout.Seeks settings quarry := by
  induction xs using List.reverseRecOn generalizing v with
  | nil => cases hv
  | append_singleton xs x ih =>
    -- What was just given up had been named while it was the deployer's own.
    rw [afterAll_concat] at hv
    rcases (step_handle x.1 _ x.2).former settings hv with hended | hahead | ⟨w, hw, hremains⟩
    · exact Or.inl hended
    · obtain ⟨quarry, hreceived, hquarry⟩ := received_of_ahead hahead
      exact Or.inr ⟨quarry, hreceived.concat x, hquarry⟩
    · rcases ih hw with hended | ⟨quarry, hreceived, hquarry⟩
      · exact Or.inl (hremains.ended hended)
      · exact Or.inr ⟨quarry, hremains.generation ▸ hreceived.concat x, hremains.seeks hquarry⟩

/-- **Whoever asks, asks for what the receipt of its attempt named.** -/
theorem asks_for_received
    (hmem : effect ∈ ((afterAll settings encoder mode xs).handle m h).2) (hattempt : effect.attempt? = some g) :
    ∃ quarry, Received settings encoder mode xs g quarry ∧ effect.Seeks settings g quarry := by
  rcases (tidy_afterAll settings encoder mode xs).asks (step_handle m _ h) hmem hattempt with
    ⟨-, v, hv, rfl, hasks⟩ | ⟨-, v, hv, halive, rfl, hasks⟩
  · obtain ⟨quarry, hreceived, hseeks⟩ := received_of_ahead hv
    exact ⟨quarry, hreceived, hasks _ hseeks⟩
  · obtain ⟨quarry, hreceived, hseeks⟩ := (received_of_former hv).resolve_left halive
    exact ⟨quarry, hreceived, hasks _ hseeks⟩

end Runs

/-! ## Which tasks are alive -/

/-- All vigils, the deployer's own first. -/
def vigils (c : Crew) : List Vigil := c.relay.ahead.toList ++ c.former

/-- The tasks that ask the operator. -/
def pollTasks (c : Crew) : List PollTask := c.vigils.filterMap (·.lookout.pollTask?)

/-- The tasks that watch the contract. -/
def watchTasks (c : Crew) : List WatchTask := c.vigils.filterMap (·.lookout.watchTask?)

/-- Nothing is ready to run, and nothing that a task has decided is left for the deployer to take over. -/
structure Quiescent (c : Crew) : Prop where
  ready : c.ready = []
  relay : c.relay.Quiescent

/-- At rest, only the deployer's own vigil may have a task. -/
theorem Tidy.tasks (htidy : c.Tidy settings) (hquiet : c.Quiescent) :
    c.pollTasks = (c.relay.ahead.bind (·.lookout.pollTask?)).toList ∧
      c.watchTasks = (c.relay.ahead.bind (·.lookout.watchTask?)).toList := by
  have hended : ∀ v ∈ c.former, v.lookout.Ended := by
    intro v hv
    refine (htidy.former v hv).resolve_right ?_
    simp [hquiet.ready]
  have hpolls : c.former.filterMap (·.lookout.pollTask?) = [] :=
    List.filterMap_eq_nil_iff.mpr fun v hv => (hended v hv).polls
  have hwatches : c.former.filterMap (·.lookout.watchTask?) = [] :=
    List.filterMap_eq_nil_iff.mpr fun v hv => (hended v hv).watches
  simp only [pollTasks, watchTasks, vigils, List.filterMap_append, hpolls, hwatches, List.append_nil]
  cases c.relay.ahead with
  | none => exact ⟨rfl, rfl⟩
  | some v =>
    simp only [Option.toList_some, List.filterMap_cons, List.filterMap_nil, Option.bind_some]
    constructor
    · cases v.lookout.pollTask? <;> rfl
    · cases v.lookout.watchTask? <;> rfl

/-- **One way of waiting at a time.**  In every run, whatever has become of the attempts before: a deployer at rest
that waits has one task, on the route of a job one that asks the operator, if there is a span between the polls,
and on that of a new service one that watches the contract.  In every other status, and when the deployer is no
more, there is none.  All that is asked for is what the receipt of the asking attempt named.  That attempt is the
current one, or its vigil was given up, and its task has a turn before the runtime has dropped it. -/
theorem one_way_of_waiting (settings : Settings) (encoder : Encoder) (mode : ResourceKind)
    (xs : List (Moment × Happening)) :
    let c := afterAll settings encoder mode xs
    let s := c.deployer.state.value
    (c.Quiescent → s.status = .provisioning → c.deployer.isGone = false →
      (s.isNewService = false →
        c.watchTasks = [] ∧ (settings.pollInterval.isZero = false → c.pollTasks.length = 1)) ∧
      (s.isNewService = true → c.pollTasks = [] ∧ c.watchTasks.length = 1)) ∧
    (c.Quiescent → s.status ≠ .provisioning ∨ c.deployer.isGone = true →
      c.pollTasks = [] ∧ c.watchTasks = []) ∧
    (∀ m h g epoch call, .fetch g epoch call ∈ (c.handle m h).2 →
      (g = c.deployer.generation ∨ c.Lingers g h) ∧ Received settings encoder mode xs g (.call call)) ∧
    (∀ m h g subscription filter, .subscribe g subscription filter ∈ (c.handle m h).2 →
      (g = c.deployer.generation ∨ c.Lingers g h) ∧
        ∃ request, Received settings encoder mode xs g (.request request) ∧
          filter = ⟨settings.contract, settings.events.serviceInitialized, some request.text⟩) := by
  intro c s
  have htidy : c.Tidy settings := tidy_afterAll settings encoder mode xs
  have hasker : ∀ {m h g effect}, effect ∈ (c.handle m h).2 → effect.attempt? = some g →
      g = c.deployer.generation ∨ c.Lingers g h := fun hmem hattempt =>
    (htidy.asks (step_handle _ c _) hmem hattempt).imp And.left And.left
  refine ⟨fun hquiet hs hgone => ?_, fun hquiet hrest => ?_, fun m h g epoch call hmem => ?_,
    fun m h g subscription filter hmem => ?_⟩
  · obtain ⟨v, hv, hpolls⟩ := htidy.level.lookout_of_waiting hgone hs
    obtain ⟨quarry, -, hseeks⟩ := received_of_ahead hv
    have hopen := hquiet.relay v hv
    obtain ⟨hpollTasks, hwatchTasks⟩ := htidy.tasks hquiet
    rw [hpollTasks, hwatchTasks, hv]
    refine ⟨fun hjob => ?_, fun hnew => ?_⟩
    · replace hpolls : v.lookout.polls = true := hpolls.trans (congrArg not hjob)
      refine ⟨by simp [Lookout.watchTask?_of_polls hpolls], fun hspan => ?_⟩
      obtain ⟨task, htask⟩ := Option.isSome_iff_exists.mp (hseeks.pollTask hpolls hopen hspan)
      simp [htask]
    · replace hpolls : v.lookout.polls = false := hpolls.trans (congrArg not hnew)
      obtain ⟨task, htask⟩ := Option.isSome_iff_exists.mp (hseeks.watchTask hpolls hopen)
      simp [Lookout.pollTask?_of_not_polls hpolls, htask]
  · obtain ⟨hpollTasks, hwatchTasks⟩ := htidy.tasks hquiet
    have hv : c.deployer.vigil = none := by
      rcases hrest with hs | hgone
      · cases hv : c.deployer.vigil with
        | none => rfl
        | some v => exact absurd (htidy.level.coherent.vigil hv).status hs
      · exact htidy.level.vigilant.gone hgone
    simp [hpollTasks, hwatchTasks, htidy.level.ahead_eq_none hv]
  · obtain ⟨quarry, hreceived, hseeks⟩ := asks_for_received hmem rfl
    cases hseeks
    exact ⟨hasker hmem rfl, hreceived⟩
  · obtain ⟨quarry, hreceived, hseeks⟩ := asks_for_received hmem rfl
    cases hseeks
    exact ⟨hasker hmem rfl, _, hreceived, rfl⟩

/-- An attempt that waits for its sandbox. -/
def boxWaiting (hash : TxHash) : List (Moment × Happening) :=
  let sent := (boxSent hash).map fun x => (x.1, .event x.2)
  sent ++ [(⟨5, .epoch, {}⟩, .event (.answer 0 (.receipt (.ok jobReceipt))))]

/-- Without a span between the polls the task is lost, and the deployer waits for nobody.  And a task that is due
when its attempt is discarded asks once more, before it is dropped. -/
theorem waits_without_poll_task :
    let waiting := boxWaiting ⟨[1], by decide, by decide⟩
    let lost := afterAll { Settings.sample with pollInterval := ⟨0⟩ } .json .sandbox
      (waiting ++ [(⟨6, .epoch, {}⟩, .event .wake), (⟨7, .epoch, {}⟩, .look)])
    let overtaken := afterAll .sample .json .sandbox
      (waiting ++ [(⟨6, .epoch, {}⟩, .news 1 .wake), (⟨6, .epoch, {}⟩, .event .reset)])
    (lost.Quiescent ∧ lost.deployer.isGone = false ∧ lost.deployer.state.value.status = .provisioning ∧
      lost.deployer.state.value.isNewService = false ∧ lost.pollTasks = []) ∧
    overtaken.deployer.generation = 2 ∧
      (overtaken.handle ⟨6, .epoch, {}⟩ (.turn 0)).2 = [.fetch 1 2 ⟨.ofNat 7⟩] := by
  refine ⟨⟨⟨rfl, ?_⟩, by decide, by decide, by decide, by decide⟩, by decide, by decide⟩
  rintro v ⟨⟩
  decide

/-! ## Crews that run at once -/

/-- Turns that only drop what was told to end leave the deployer alone. -/
private theorem turns_of_drops (m : Moment) (n : Nat) {c : Crew} (h : ∀ job ∈ c.ready, ∃ g, job = .drop g) :
    (turns m n c).1.relay = c.relay ∧ (turns m n c).1.ready = c.ready.drop n ∧ (turns m n c).2 = [] := by
  induction n generalizing c with
  | zero => exact ⟨rfl, rfl, rfl⟩
  | succ n ih =>
    cases hready : c.ready with
    | nil =>
      have hnext : c.handle m (.turn 0) = (c, []) := by simp [handle, hready]
      obtain ⟨hrelay, hrest, hnone⟩ := ih h
      simp [turns, hnext, hrelay, hrest, hnone, hready]
    | cons job jobs =>
      obtain ⟨g, rfl⟩ := h job (by simp [hready])
      have hnext : c.handle m (.turn 0) =
          ({ c with
              former := c.former.map fun v => if v.generation = g then v.drop else v
              ready := jobs }, []) := by
        simp [handle, hready, perform]
      obtain ⟨hrelay, hrest, hnone⟩ := ih (c := (c.handle m (.turn 0)).1) (by
        rw [hnext]
        exact fun job hjob => h job (by simp [hready, hjob]))
      simp only [hnext] at hrelay hrest hnone
      simp [turns, hnext, hrelay, hrest, hnone]

/-- What a relay that has just looked asks for is what its deployer asks for. -/
private theorem take_of_effects {d : Deployer} (h : d.Coherent) (m : Moment) (e : Event) :
    ((Relay.of d).take m e).2 = (d.handle m e).2 := by
  rcases Relay.take_cases m (.of d) e with ⟨htake, hgone⟩ | ⟨v, w, effects, hgone, hv, hreact, htake⟩ |
    ⟨-, -, htake⟩
  · replace hgone : d.isGone = true := hgone
    simp [htake, Deployer.handle, hgone]
  · rw [htake, handle_of_react h hgone hv hreact]
  · rw [htake]
    rfl

/-- **A crew that runs at once whatever is ready is the deployer by itself**, and it comes to rest. -/
theorem handle_prompt {d : Deployer} (h : Relay.Level settings (.of d)) (m : Moment) (e : Event) :
    ((of d).prompt m e).1.deployer = (d.handle m e).1 ∧ ((of d).prompt m e).2 = (d.handle m e).2 ∧
      ((of d).prompt m e).1.Quiescent := by
  obtain ⟨hdeployer, -⟩ := Relay.look_take (r := .of d) h.coherent rfl m e
  have hasked : ((Relay.of d).take m e).2 = (d.handle m e).2 := take_of_effects h.coherent m e
  -- After the event and the look, all that is ready was told to end.
  have hdrops : ∀ {c : Crew} {relay : Relay}, (∀ job ∈ c.ready, ∃ g, job = Job.drop g) →
      ∀ job ∈ (c.follow relay).ready, ∃ g, job = Job.drop g := by
    intro c relay hready job hjob
    rcases follow_ready c relay with hsame | ⟨v, -, hnext⟩
    · exact hready job (hsame ▸ hjob)
    · rw [hnext, List.mem_append, List.mem_singleton] at hjob
      exact hjob.elim (hready job) fun heq => ⟨_, heq⟩
  let looked := (((of d).handle m (.event e)).1.handle m .look).1
  have hready : ∀ job ∈ looked.ready, ∃ g, job = Job.drop g := hdrops (hdrops (by simp [of]))
  obtain ⟨hrelay, hrest, hnone⟩ := turns_of_drops m looked.ready.length hready
  have hlooked : looked.relay = ((Relay.of d).take m e).1.look m := by
    simp [looked, handle, of]
  refine ⟨?_, ?_, ?_, ?_⟩
  · show (turns m looked.ready.length looked).1.relay.deployer = _
    rw [hrelay, hlooked, hdeployer]
    rfl
  · show ((Relay.of d).take m e).2 ++ (turns m looked.ready.length looked).2 = _
    rw [hnone, List.append_nil, hasked]
  · show (turns m looked.ready.length looked).1.ready = []
    rw [hrest, List.drop_length]
  · show (turns m looked.ready.length looked).1.relay.Quiescent
    rw [hrelay, hlooked]
    exact (h.step (m, .event e)).quiescent_look m

end Crew

end ChainProvision
