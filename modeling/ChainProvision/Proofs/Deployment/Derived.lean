import ChainProvision.Proofs.Deployment.Opening
import ChainProvision.Proofs.Deployment.Turn

/-!
# What a deployer shows of its inputs

Two things in the state follow from the inputs: whether a deployment could start, and, while idle,
by which route it would go.  Every function that touches the state or the inputs brings both in
line, whatever the generations say.

## Main statements

- `Deployer.Derived`: the state is in line with the inputs.
- `Deployer.Derived.update`: a change made for an attempt leaves it in line.
- `Deployer.derived_afterAll`: every deployer that can be reached is in line.
-/

namespace ChainProvision

/-! ## What the state has to do with it -/

theorem Inputs.canDeploy_of_not_idle {s : DeployState} (h : s.status ≠ .idle) (i : Inputs)
    (settings : Settings) : i.canDeploy s settings = false := by
  simp [Inputs.canDeploy, h]

theorem Inputs.canDeploy_congr {s s' : DeployState} (hstatus : s'.status = s.status)
    (hmode : s'.mode = s.mode) (i : Inputs) (settings : Settings) :
    i.canDeploy s' settings = i.canDeploy s settings := by
  simp [Inputs.canDeploy, hstatus, hmode]

/-- Only a reset leads back to `idle`. -/
theorem DeployStatus.eq_reset_of_advance {s : DeployStatus} {e : DeployEvent}
    (h : s.advance e = .ok .idle) : e = .reset := by
  cases s <;> cases e <;> first | rfl | cases h

theorem DeployState.idle_of_advance {s : DeployState} {e : DeployEvent} (he : e ≠ .reset)
    (h : (s.advance e).status = .idle) : s.status = .idle := by
  unfold DeployState.advance at h
  split at h
  · rename_i next hnext
    rw [show next = .idle from h] at hnext
    exact absurd (DeployStatus.eq_reset_of_advance hnext) he
  · exact h

theorem DeployState.advance_eq (s : DeployState) (e : DeployEvent) :
    s.advance e = { s with status := (s.advance e).status } := by
  unfold DeployState.advance
  split <;> rfl

namespace Deployer

variable {m : Moment} {d : Deployer} {g : Nat}

/-- What the state shows of the inputs is in line with them. -/
structure Derived (d : Deployer) : Prop where
  canDeploy : d.state.value.canDeploy = d.inputs.canDeploy d.state.value d.settings
  route : d.state.value.status = .idle →
    d.state.value.isNewService = (d.inputs.route d.state.value.mode d.settings).isNewService

theorem Derived.congr {d' : Deployer} (h : d.Derived) (hstate : d'.state.value = d.state.value)
    (hinputs : d'.inputs = d.inputs) (hsettings : d'.settings = d.settings) : d'.Derived where
  canDeploy := by
    rw [hstate, hinputs, hsettings]
    exact h.canDeploy
  route := by
    rw [hstate, hinputs, hsettings]
    exact h.route

theorem derived_new (settings : Settings) (encoder : Encoder) (mode : ResourceKind) :
    Derived (new settings encoder mode) where
  canDeploy := by simp [new, DeployState.initial, Inputs.canDeploy]
  route := by
    intro _
    cases mode <;> rfl

/-! ## Changes of the inputs -/

theorem derived_of_derive {s : DeployState} (h : d.state.value = d.derive s) : d.Derived := by
  unfold derive at h
  split at h
  · -- While idle the route is derived, too.
    constructor
    · rw [h]
      exact Inputs.canDeploy_congr rfl rfl _ _
    · intro _
      rw [h]
  · rename_i hs
    constructor
    · rw [h]
      exact Inputs.canDeploy_congr rfl rfl _ _
    · intro hidle
      rw [h] at hidle
      exact absurd hidle hs

theorem derived_refresh (d : Deployer) : d.refresh.Derived :=
  derived_of_derive (s := d.state.value) (Observed.value_edit _ _)

theorem Derived.setMode (h : d.Derived) (mode : ResourceKind) : (d.setMode mode).Derived := by
  have hvalue : (d.setMode mode).state.value =
      if d.state.value.status ≠ .idle ∨ d.state.value.mode = mode then d.state.value
      else d.derive { d.state.value with mode } := by
    unfold Deployer.setMode
    rw [Observed.value_edit]
    split <;> rfl
  split at hvalue
  · exact ⟨by rw [hvalue]; exact h.canDeploy, by rw [hvalue]; exact h.route⟩
  · exact derived_of_derive hvalue

theorem derived_chooseService (d : Deployer) (outcome : Option (Except ValidationError Validation)) :
    (d.chooseService outcome).Derived :=
  derived_of_derive rfl

/-! ## Changes for an attempt -/

theorem derived_display {s : DeployState}
    (hroute : s.status = .idle → s.isNewService = (d.inputs.route s.mode d.settings).isNewService) :
    (d.display s).Derived where
  canDeploy := Inputs.canDeploy_congr rfl rfl _ _
  route := hroute

/-- A change that has nothing to do with the inputs. -/
structure Unrelated (f : DeployState → DeployState) : Prop where
  status : ∀ s, (f s).status = s.status := by exact fun _ => rfl
  mode : ∀ s, (f s).mode = s.mode := by exact fun _ => rfl
  isNewService : ∀ s, (f s).isNewService = s.isNewService := by exact fun _ => rfl

/-- A change made for an attempt leaves the state in line with the inputs, also if the event that is
raised with it does not fit. -/
theorem Derived.update (h : d.Derived) {f : DeployState → DeployState} (hf : Unrelated f)
    {raised : Option DeployEvent} (hraised : raised ≠ some .reset) : (d.update g f raised).Derived := by
  have hroute : (f d.state.value).status = .idle → (f d.state.value).isNewService =
      (d.inputs.route (f d.state.value).mode d.settings).isNewService := by
    intro hidle
    rw [hf.status] at hidle
    rw [hf.mode, hf.isNewService]
    exact h.route hidle
  unfold Deployer.update
  split
  · cases raised with
    | none => exact derived_display hroute
    | some e =>
      -- Without a reset no event leads back to a state in which the route is chosen.
      refine derived_display (d := { d with log := _ }) fun hidle => ?_
      rw [DeployState.advance_eq]
      exact hroute (DeployState.idle_of_advance (fun he => hraised (he ▸ rfl)) hidle)
  · exact h

private theorem unrelated_awaiting (quarry : Quarry) : Unrelated (awaiting quarry) := by
  cases quarry <;> exact ⟨fun _ => rfl, fun _ => rfl, fun _ => rfl⟩

theorem Derived.showTx (h : d.Derived) (snapshot : TxSnapshot) : (d.showTx g snapshot).Derived := by
  unfold Deployer.showTx
  split
  all_goals
    apply h.update
    · exact {}
    · nofun

theorem Derived.showAll (h : d.Derived) (seen : List TxSnapshot) :
    (seen.foldl (fun d snapshot => d.showTx g snapshot) d).Derived := by
  induction seen generalizing d with
  | nil => exact h
  | cons snapshot rest ih => exact ih (h.showTx snapshot)

theorem Derived.conclude (h : d.Derived) (m : Moment) (v : Vigil)
    (verdict : Except DeployError Completion) : (d.conclude m v verdict).Derived := by
  unfold Deployer.conclude
  cases verdict with
  | ok found =>
    dsimp only
    apply Derived.update
    · exact h.congr rfl rfl rfl
    · exact {}
    · nofun
  | error e =>
    dsimp only
    apply Derived.update
    · exact h.congr rfl rfl rfl
    · exact {}
    · nofun

theorem Derived.mirrored (h : d.Derived) (v : Vigil) (announced : Bool) :
    (d.mirrored v announced).Derived := by
  have hv : Derived { d with vigil := some v } := h.congr rfl rfl rfl
  unfold Deployer.mirrored
  dsimp only
  split
  · split
    · apply hv.update
      · exact {}
      · nofun
    · exact hv
  · exact hv

theorem Derived.observe (h : d.Derived) (m : Moment) (v : Vigil) (announced : Bool) :
    (d.observe m v announced).Derived := by
  rw [observe_eq_mirrored]
  split
  · exact (h.mirrored v announced).conclude m v _
  · exact h.mirrored v announced

theorem Derived.confirmed (h : d.Derived) (m : Moment) (a : Attempt) (hash : TxHash) :
    (d.confirmed m a hash).Derived := by
  have hupsert : Derived (if m.outage.upsert then d
      else { d with shelf := d.shelf.upsert (confirmedRecord a hash d.tracker.snapshot.correlation) }) := by
    split
    · exact h
    · exact h.congr rfl rfl rfl
  unfold Deployer.confirmed
  dsimp only
  split
  · apply Derived.update
    · exact hupsert.congr rfl rfl rfl
    · exact {}
    · nofun
  · apply Derived.observe
    apply hupsert.update
    · exact unrelated_awaiting _
    · nofun

theorem Derived.answered (h : d.Derived) (m : Moment) (i : Nat) (a : Answer) :
    (d.answered m i a).1.Derived := by
  unfold Deployer.answered
  split
  · rename_i attempt ticket _
    dsimp only
    generalize d.tracker.resume m d.journal ticket a = p
    have hshown := Derived.showAll (g := attempt.generation)
      (d := { d with tracker := p.tracker, journal := p.journal }) (h.congr rfl rfl rfl) p.seen
    split
    · exact hshown.congr rfl rfl rfl
    · exact hshown.congr rfl rfl rfl
    · split
      · apply Derived.confirmed
        exact hshown.congr rfl rfl rfl
      · exact hshown.congr rfl rfl rfl
  · exact h

/-! ## The start of an attempt -/

theorem Derived.begin (h : d.Derived) (m : Moment) : (d.begin m).1.Derived := by
  unfold Deployer.begin
  dsimp only
  split
  · exact h.congr rfl rfl rfl
  · -- Where operators are missing none could start.
    rename_i hopening
    have hshut : d.inputs.canDeploy d.state.value d.settings = false := by
      rw [← opening_starts, hopening]
      rfl
    constructor
    · exact ((Inputs.canDeploy_congr rfl rfl _ _).trans hshut).symm
    · exact h.route
  · rename_i route reason hopening
    -- An attempt that is refused has failed, and nothing can start after it.
    have hs : ({ claim route d.state.value with
        error := some (.encode (Encoder.refusal reason)) }.advance .fail).status ≠ .idle := by
      show DeployStatus.failed ≠ .idle
      decide
    exact ⟨(Inputs.canDeploy_of_not_idle hs _ _).symm, fun hidle => absurd hidle hs⟩
  · -- Nor while one is under way.
    rename_i route name submission hopening
    have hs : ((claim route d.state.value).advance .sign).status ≠ .idle := by
      show DeployStatus.signing ≠ .idle
      decide
    dsimp only
    apply Derived.showTx
    exact ⟨(Inputs.canDeploy_of_not_idle hs _ _).symm, fun hidle => absurd hidle hs⟩

/-! ## Every event -/

theorem derived_reset (h : d.Derived) : d.reset.Derived := by
  unfold reset
  split
  · exact h
  · exact derived_of_derive rfl

theorem Derived.stepVigil (h : d.Derived) (m : Moment) (step : Lookout → Lookout × Bool) :
    (d.stepVigil m g step).Derived := by
  unfold Deployer.stepVigil
  split
  · split
    · exact h.observe m _ _
    · exact h
  · exact h

theorem Derived.wake (h : d.Derived) (m : Moment) : (d.wake m).1.Derived := by
  unfold Deployer.wake
  split
  · exact h
  · split
    · dsimp only
      exact h.conclude m _ _
    · split
      · exact h.congr rfl rfl rfl
      · exact h.congr rfl rfl rfl

theorem Derived.step (h : d.Derived) (m : Moment) (e : Event) : (d.step m e).1.Derived := by
  cases e with
  | form form => exact derived_refresh _
  | account account => exact derived_refresh _
  | mode mode => exact h.setMode mode
  | service service =>
    cases service with
    | none =>
      simp only [Deployer.step]
      exact derived_chooseService _ _
    | some service => exact h.congr rfl rfl rfl
  | serviceRead check reads =>
    simp only [Deployer.step]
    split
    · exact derived_chooseService _ _
    · exact h
  | discover => exact derived_refresh _
  | operatorsRead discovery reply =>
    simp only [Deployer.step]
    split
    · exact derived_refresh _
    · exact h
  | deploy => exact h.begin m
  | answer call answer => exact h.answered m call answer
  | reset => exact derived_reset h
  | release => exact h.congr rfl rfl rfl
  | wake => exact h.wake m
  | fetched generation epoch reply =>
    simp only [Deployer.step]
    exact h.stepVigil m _
  | subscribed generation subscription outcome =>
    simp only [Deployer.step]
    exact h.stepVigil m _
  | batch generation subscription logs =>
    simp only [Deployer.step]
    exact h.stepVigil m _
  | closed generation subscription =>
    simp only [Deployer.step]
    exact h.stepVigil m _

theorem Derived.handle (h : d.Derived) (m : Moment) (e : Event) : (d.handle m e).1.Derived := by
  unfold Deployer.handle
  split
  · exact h
  · dsimp only
    unfold settleRelease
    split
    · exact (h.step m e).congr rfl rfl rfl
    · exact h.step m e

theorem Derived.run (h : d.Derived) (es : List (Moment × Event)) : (d.run es).Derived := by
  induction es generalizing d with
  | nil => exact h
  | cons e es ih => exact ih (h.handle e.1 e.2)

/-- **Every deployer that can be reached is in line with its inputs.** -/
theorem derived_afterAll (settings : Settings) (encoder : Encoder) (mode : ResourceKind)
    (es : List (Moment × Event)) : (afterAll settings encoder mode es).Derived :=
  (derived_new settings encoder mode).run es

end Deployer

end ChainProvision
