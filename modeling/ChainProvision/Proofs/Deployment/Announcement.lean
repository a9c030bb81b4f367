import ChainProvision.Proofs.Deployment.Turn
import ChainProvision.Proofs.Signal.Announcement

/-!
# No change goes unannounced

A deployer, a poller and a watcher each show an observed value.  Every step that changes it announces it,
so those who follow it never wait for a change that has happened already.

## Main definitions

- `Deployer.refreshing`, `Deployer.switching`, `Deployer.beginning`: the changes of a deployer that decide
  by themselves whether they are announced.

## Main statements

- `Deployer.announces_handle`: one step of a deployer.
- `Deployer.change_is_announced`: no step and no run of any of the three changes a value quietly.
-/

namespace ChainProvision.Deployer

open Observed (Honest)

variable {d : Deployer} {g : Nat}

/-! ## Changes that decide by themselves -/

/-- What follows from the inputs, as a change of what is shown. -/
def refreshing (d : Deployer) (s : DeployState) : DeployState × Bool :=
  let next := d.derive s
  (next, next.isNewService != s.isNewService || next.canDeploy != s.canDeploy)

/-- The switch to another kind of resource, as a change of what is shown. -/
def switching (d : Deployer) (mode : ResourceKind) (s : DeployState) : DeployState × Bool :=
  if s.status ≠ .idle ∨ s.mode = mode then (s, false) else (d.derive { s with mode }, true)

/-- The start of an attempt, as a change of what is shown. -/
def beginning (d : Deployer) (s : DeployState) : DeployState × Bool :=
  match d.opening with
  | .notReady => (s, false)
  | .noOperators => ({ s with error := some .noOperators, canDeploy := false }, true)
  | .refused route reason =>
    ({ claim route s with error := some (.encode (Encoder.refusal reason)) }.advance .fail, true)
  | .open route _ _ => ((claim route s).advance .sign, true)

theorem honest_refreshing (d : Deployer) : Honest d.refreshing := by
  intro s hchange
  refine Classical.byContradiction fun hquiet => hchange ?_
  -- Only the two fields that are compared can change.
  have hfields : ∃ isNewService canDeploy, d.derive s = { s with isNewService, canDeploy } := by
    unfold derive
    split <;> exact ⟨_, _, rfl⟩
  obtain ⟨isNewService, canDeploy, hderive⟩ := hfields
  simp only [refreshing, hderive, Bool.not_eq_true, Bool.or_eq_false_iff, bne_eq_false_iff_eq] at hquiet ⊢
  rw [hquiet.1, hquiet.2]

theorem honest_switching (d : Deployer) (mode : ResourceKind) : Honest (d.switching mode) := by
  intro s hchange
  unfold switching at hchange ⊢
  split
  · rename_i hstays
    rw [if_pos hstays] at hchange
    exact absurd rfl hchange
  · rfl

theorem honest_beginning (d : Deployer) : Honest d.beginning := by
  intro s hchange
  unfold beginning at hchange ⊢
  cases hopening : d.opening with
  | notReady =>
    rw [hopening] at hchange
    exact absurd rfl hchange
  | noOperators => rfl
  | refused route reason => rfl
  | «open» route name submission => rfl

/-! ## Parts of a step -/

section Parts

variable {o : Observed DeployState}

theorem announces_refresh (h : o.Announces d.state) : o.Announces d.refresh.state :=
  h.trans (d.honest_refreshing.announces d.state)

theorem announces_setMode (h : o.Announces d.state) (mode : ResourceKind) :
    o.Announces (d.setMode mode).state := h.trans ((d.honest_switching mode).announces d.state)

theorem announces_chooseService (h : o.Announces d.state)
    (outcome : Option (Except ValidationError Validation)) :
    o.Announces (d.chooseService outcome).state := h.trans (Observed.announces_set d.state _)

theorem announces_update (h : o.Announces d.state) (f : DeployState → DeployState)
    (raised : Option DeployEvent) : o.Announces (d.update g f raised).state := by
  unfold update
  split
  · cases raised <;> exact h.trans (Observed.announces_set d.state _)
  · exact h

theorem announces_showTx (h : o.Announces d.state) (snapshot : TxSnapshot) :
    o.Announces (d.showTx g snapshot).state := by
  unfold showTx
  split <;> exact announces_update h _ _

theorem announces_showAll (h : o.Announces d.state) (seen : List TxSnapshot) :
    o.Announces (seen.foldl (fun d snapshot => d.showTx g snapshot) d).state := by
  induction seen generalizing d with
  | nil => exact h
  | cons snapshot rest ih => exact ih (announces_showTx h snapshot)

theorem announces_conclude (h : o.Announces d.state) (m : Moment) (v : Vigil)
    (verdict : Except DeployError Completion) : o.Announces (d.conclude m v verdict).state := by
  unfold conclude
  cases verdict with
  | ok found =>
    dsimp only
    apply announces_update
    exact h
  | error e =>
    dsimp only
    apply announces_update
    exact h

/-- What a poller has learned is shown, and announced with it. -/
theorem announces_observe (h : o.Announces d.state) (m : Moment) (v : Vigil) (announced : Bool) :
    o.Announces (d.observe m v announced).state := by
  have hshown : o.Announces (d.mirrored v announced).state := by
    unfold mirrored
    dsimp only
    split
    · split
      · apply announces_update
        exact h
      · exact h
    · exact h
  rw [observe_eq_mirrored]
  split
  · exact announces_conclude hshown m v _
  · exact hshown

theorem announces_confirmed (h : o.Announces d.state) (m : Moment) (a : Attempt) (hash : TxHash) :
    o.Announces (d.confirmed m a hash).state := by
  have hupsert : o.Announces (if m.outage.upsert then d
      else { d with shelf := d.shelf.upsert (confirmedRecord a hash d.tracker.snapshot.correlation) }).state := by
    split <;> exact h
  unfold confirmed
  dsimp only
  split
  · apply announces_update
    exact hupsert
  · apply announces_observe
    exact announces_update hupsert _ _

theorem announces_answered (h : o.Announces d.state) (m : Moment) (i : Nat) (a : Answer) :
    o.Announces (d.answered m i a).1.state := by
  unfold answered
  split
  · rename_i attempt ticket _
    dsimp only
    generalize d.tracker.resume m d.journal ticket a = p
    have hshown := announces_showAll (g := attempt.generation)
      (d := { d with tracker := p.tracker, journal := p.journal }) h p.seen
    split
    · exact hshown
    · exact hshown
    · split
      · apply announces_confirmed
        exact hshown
      · exact hshown
  · exact h

/-- An attempt that starts is shown at once, and then what its transaction has published. -/
theorem begin_state (m : Moment) (d : Deployer) :
    ∃ begun : Deployer, begun.state = d.state.edit d.beginning ∧
      ((d.begin m).1.state = begun.state ∨
        ∃ g snapshot, (d.begin m).1 = begun.showTx g snapshot) := by
  unfold begin
  dsimp only
  split
  · rename_i hopening
    exact ⟨d, by simp [Observed.edit_eq, beginning, hopening], Or.inl rfl⟩
  · rename_i hopening
    exact ⟨_, by simp [Observed.edit_eq, beginning, hopening], Or.inl rfl⟩
  · rename_i route reason hopening
    exact ⟨_, by simp [Observed.edit_eq, beginning, hopening, raise], Or.inl rfl⟩
  · rename_i route name submission hopening
    dsimp only
    refine ⟨_, ?_, Or.inr ⟨_, _, rfl⟩⟩
    simp [Observed.edit_eq, beginning, hopening, raise]

theorem announces_begin (h : o.Announces d.state) (m : Moment) : o.Announces (d.begin m).1.state := by
  obtain ⟨begun, hbegun, hstate⟩ := d.begin_state m
  have hshown : o.Announces begun.state := by
    rw [hbegun]
    exact h.trans (d.honest_beginning.announces d.state)
  rcases hstate with hstate | ⟨g, snapshot, hstate⟩
  · rw [hstate]
    exact hshown
  · rw [hstate]
    exact announces_showTx hshown snapshot

theorem announces_reset (h : o.Announces d.state) : o.Announces d.reset.state := by
  unfold reset
  split
  · exact h
  · exact h.trans (Observed.announces_set d.state _)

theorem announces_stepVigil (h : o.Announces d.state) (m : Moment) (step : Lookout → Lookout × Bool) :
    o.Announces (d.stepVigil m g step).state := by
  unfold stepVigil
  split
  · split
    · exact announces_observe h m _ _
    · exact h
  · exact h

theorem announces_wake (h : o.Announces d.state) (m : Moment) : o.Announces (d.wake m).1.state := by
  unfold wake
  split
  · exact h
  · split
    · exact announces_conclude h m _ _
    · split <;> exact h

end Parts

/-! ## Every event -/

theorem announces_step (m : Moment) (d : Deployer) (e : Event) :
    d.state.Announces (d.step m e).1.state := by
  have hsame : d.state.Announces d.state := .refl d.state
  cases e with
  | form form => exact announces_refresh (d := { d with inputs := { d.inputs with form } }) hsame
  | account account => exact announces_refresh (d := { d with inputs := { d.inputs with account } }) hsame
  | mode mode => exact announces_setMode hsame mode
  | service service =>
    cases service with
    | none => exact announces_chooseService (d := { d with checks := d.checks ++ [none] }) hsame none
    | some service => exact hsame
  | serviceRead check reads =>
    simp only [step]
    split
    · apply announces_chooseService
      exact hsame
    · exact hsame
  | discover =>
    simp only [step]
    apply announces_refresh
    exact hsame
  | operatorsRead discovery reply =>
    simp only [step]
    split
    · apply announces_refresh
      exact hsame
    · exact hsame
  | deploy => exact announces_begin hsame m
  | answer call answer => exact announces_answered hsame m call answer
  | reset => exact announces_reset hsame
  | release => exact hsame
  | wake => exact announces_wake hsame m
  | fetched generation epoch reply => exact announces_stepVigil hsame m _
  | subscribed generation subscription outcome => exact announces_stepVigil hsame m _
  | batch generation subscription logs => exact announces_stepVigil hsame m _
  | closed generation subscription => exact announces_stepVigil hsame m _

theorem announces_handle (m : Moment) (d : Deployer) (e : Event) :
    d.state.Announces (d.handle m e).1.state := by
  unfold handle
  split
  · exact .refl d.state
  · dsimp only
    unfold settleRelease
    split
    · exact announces_step m d e
    · exact announces_step m d e

theorem announces_run (d : Deployer) (es : List (Moment × Event)) :
    d.state.Announces (d.run es).state := by
  induction es generalizing d with
  | nil => exact .refl d.state
  | cons e es ih => exact (announces_handle e.1 d e.2).trans (ih _)

/-- **No change goes unannounced.**  A step of a deployer, a poller or a watcher that changes what it shows
announces it, so whoever has followed any of them up to its latest announcement knows what it shows.
Each change that decides by itself whether it is announced is announced whenever it changes anything. -/
theorem change_is_announced :
    (∀ (m : Moment) (d : Deployer) (e : Event),
      (d.handle m e).1.state.value ≠ d.state.value →
        d.state.version < (d.handle m e).1.state.version) ∧
    (∀ (now : Nat) (p : PollingPost) (e : PollingPost.Event),
      (p.handle now e).poller.state.value ≠ p.poller.state.value →
        p.poller.state.version < (p.handle now e).poller.state.version) ∧
    (∀ (now : Nat) (w : Watcher) (e : Watcher.Event),
      (w.handle now e).result.value ≠ w.result.value →
        w.result.version < (w.handle now e).result.version) ∧
    (∀ (d : Deployer) es, d.state.Announces (d.run es).state) ∧
    (∀ (s : PollingPost × PollingPost.Dossier) (es : List (Nat × PollingPost.Event)),
      s.1.poller.state.Announces (PollingPost.run s es).1.poller.state) ∧
    (∀ (s : Watcher × Reception) (es : List (Nat × Watcher.Event)),
      s.1.result.Announces (Watcher.run s es).1.result) ∧
    (∀ d : Deployer, d.refresh.state = d.state.edit d.refreshing ∧ Honest d.refreshing) ∧
    (∀ (d : Deployer) mode, (d.setMode mode).state = d.state.edit (d.switching mode) ∧
      Honest (d.switching mode)) ∧
    (∀ d : Deployer, Honest d.beginning ∧ ∀ m, ∃ begun : Deployer,
      begun.state = d.state.edit d.beginning ∧
        ((d.begin m).1.state = begun.state ∨ ∃ g snapshot, (d.begin m).1 = begun.showTx g snapshot)) ∧
    (∀ p : Poller, p.stopTask.state = p.state.edit Poller.ceasing ∧ Honest Poller.ceasing) ∧
    ∀ (p : Poller) epoch reply, Honest (Poller.absorb reply) ∧
      ((p.answer epoch reply).state = p.state ∨
        (p.answer epoch reply).state = p.state.edit (Poller.absorb reply)) := by
  refine ⟨fun m d e => (announces_handle m d e).version_lt,
    fun now p e => (p.announces_handle now e).version_lt,
    fun now w e => (w.announces_handle now e).version_lt,
    announces_run, PollingPost.announces_run, Watcher.announces_run, ?_, ?_, ?_, ?_, ?_⟩
  · exact fun d => ⟨rfl, d.honest_refreshing⟩
  · exact fun d mode => ⟨rfl, d.honest_switching mode⟩
  · exact fun d => ⟨d.honest_beginning, fun m => d.begin_state m⟩
  · exact fun p => ⟨rfl, Poller.honest_ceasing⟩
  · exact fun p epoch reply => ⟨Poller.honest_absorb reply, p.answer_state_cases epoch reply⟩

/-- A deployer of instances, before anything has happened. -/
private def fresh : Deployer :=
  .new { contract := .zero, blueprint := ⟨.ofNat 1⟩, sandboxService := ⟨.ofNat 2⟩ } .json .dedicated

/-- A poller that is pointed at a call for the first time. -/
private def unaimed : PollingPost := { poller := { interval := 2000 } }

/-- A watcher that listens for the completion of the call 77. -/
private def listening : Watcher :=
  (Watcher.afterAll ⟨.zero, "ServiceInitialized"⟩ 2000
    [(0, .target (some "77") true), (0, .wake), (1, .answer 1 (.ok ()))]).1

theorem change_is_announced_firstSteps :
    fresh.state.version < (fresh.handle ⟨0, .epoch, {}⟩ (.mode .sandbox)).1.state.version ∧
    unaimed.poller.state.version <
      (unaimed.handle 0 (.target (some ⟨.ofNat 42⟩) true)).poller.state.version ∧
    listening.result.version < (listening.handle 2 (.batch 1 [⟨.zero, "ServiceInitialized", some "77",
      some "5", none, none, none⟩])).result.version := by
  obtain ⟨hdeployer, hpoller, hwatcher, -⟩ := change_is_announced
  exact ⟨hdeployer _ _ _ (by decide), hpoller _ _ _ (by decide), hwatcher _ _ _ (by decide)⟩

end ChainProvision.Deployer
