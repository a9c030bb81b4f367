import ChainProvision.Proofs.Deployment.Wait

/-!
# Deployers without a limit

The limit of a wait is looked at in one place only, when the deployer is woken.  So a deployer that
loses its limit goes on as before, and so does one that waits with a limit, as long as it is not woken
after its time: taking the limit away commutes with everything that happens to it.

## Main definitions

- `Deployer.unlimited`, `Relay.unlimited`: the same without a limit.

## Main statements

- `Deployer.handle_unlimited`: the limit has a part in nothing but a late wake.
- `Relay.Wait.run_unlimited`: nor has it in a whole wait that keeps to its time.
-/

namespace ChainProvision

open Deployer

/-- The settings without a limit for the wait. -/
def Settings.unlimited (s : Settings) : Settings := { s with provisionTimeout := none }

/-! ## Vigils -/

namespace Vigil

variable {v : Vigil} {m : Moment} {e : Event}

/-- A vigil that is never given up. -/
def unlimited (v : Vigil) : Vigil := { v with limit := none }

theorem react?_unlimited (hintime : e = .wake → v.expiry? m.clock = none) :
    v.unlimited.react? m e = (v.react? m e).map fun taken => (taken.1.unlimited, taken.2) := by
  unfold react?
  split
  · -- Only a wake looks at the limit, and this one is in time.
    have hunlimited : v.unlimited.expiry? m.clock = none := rfl
    rw [hintime rfl, hunlimited]
    rfl
  · show (if e.told? = some v.generation then _ else _) = _
    split <;> rfl

end Vigil

/-! ## Deployers -/

namespace Deployer

variable {m : Moment} {d d' : Deployer} {v : Vigil} {e : Event}

/-- A deployer without a limit, also for the wait that it may be in. -/
def unlimited (d : Deployer) : Deployer :=
  { d with settings := d.settings.unlimited, vigil := d.vigil.map .unlimited }

/-! Each part of the step is taken with the deployer that has no limit given by an equation, so that it
can be read off where the part is used. -/

theorem update_unlimited (h : d' = d.unlimited) (g : Nat) (f : DeployState → DeployState)
    (raised : Option DeployEvent) : d'.update g f raised = (d.update g f raised).unlimited := by
  subst h
  show (if d.generation = g then _ else _) = _
  unfold update
  split
  · cases raised <;> rfl
  · rfl

theorem showTx_unlimited (h : d' = d.unlimited) (g : Nat) (snapshot : TxSnapshot) :
    d'.showTx g snapshot = (d.showTx g snapshot).unlimited := by
  unfold showTx
  cases snapshot.status <;> exact update_unlimited h _ _ _

theorem showAll_unlimited (h : d' = d.unlimited) (g : Nat) (seen : List TxSnapshot) :
    seen.foldl (fun d snapshot => d.showTx g snapshot) d' =
      (seen.foldl (fun d snapshot => d.showTx g snapshot) d).unlimited := by
  induction seen generalizing d d' with
  | nil => exact h
  | cons snapshot seen ih => exact ih (showTx_unlimited h g snapshot)

theorem begin_unlimited (m : Moment) (d : Deployer) :
    d.unlimited.begin m = ((d.begin m).1.unlimited, (d.begin m).2) := by
  -- What an attempt is begun with does not depend on how long it may wait.
  have hopening : d.unlimited.opening = d.opening := rfl
  unfold begin
  rw [hopening]
  dsimp only
  split
  · rfl
  · rfl
  · rfl
  · refine Prod.ext ?_ rfl
    dsimp only
    exact showTx_unlimited (by rfl) _ _

theorem chooseService_unlimited (h : d' = d.unlimited)
    (outcome : Option (Except ValidationError Validation)) :
    d'.chooseService outcome = (d.chooseService outcome).unlimited := by
  subst h
  rcases outcome with _ | (e | validation) <;> rfl

/-! ### The wait -/

theorem conclude_unlimited (h : d' = d.unlimited) (m : Moment) (v : Vigil)
    (verdict : Except DeployError Completion) :
    d'.conclude m v.unlimited verdict = (d.conclude m v verdict).unlimited := by
  subst h
  unfold conclude
  cases verdict with
  | ok found => exact update_unlimited (by rfl) _ _ _
  | error loss => exact update_unlimited (by rfl) _ _ _

theorem mirrored_unlimited (h : d' = d.unlimited) (v : Vigil) (announced : Bool) :
    d'.mirrored v.unlimited announced = (d.mirrored v announced).unlimited := by
  subst h
  obtain ⟨generation, key, since, limit, lookout⟩ := v
  dsimp only [mirrored, Vigil.unlimited]
  cases lookout with
  | operator call poller =>
    cases announced with
    | true =>
      dsimp only
      rw [if_pos rfl, if_pos rfl]
      exact update_unlimited (by rfl) _ _ _
    | false => rfl
  | contract watcher => rfl

theorem observe_unlimited (h : d' = d.unlimited) (m : Moment) (v : Vigil) (announced : Bool) :
    d'.observe m v.unlimited announced = (d.observe m v announced).unlimited := by
  have hmirrored := mirrored_unlimited h v announced
  have hverdict : v.unlimited.lookout = v.lookout := rfl
  rw [observe_eq_mirrored, observe_eq_mirrored, hverdict]
  cases v.lookout.verdict? with
  | some verdict => exact conclude_unlimited hmirrored m v verdict
  | none => exact hmirrored

theorem wait_unlimited (h : d' = d.unlimited) (m : Moment) (g : Nat) (key : String) (quarry : Quarry) :
    d'.wait m g key quarry = (d.wait m g key quarry).unlimited := by
  have hobserve := observe_unlimited h m
    { generation := g, key, since := m.clock, limit := d.settings.provisionTimeout
      lookout := .start d.settings m.clock quarry } true
  subst h
  cases quarry <;> exact hobserve

theorem stepVigil_unlimited (m : Moment) (d : Deployer) (g : Nat) (step : Lookout → Lookout × Bool) :
    d.unlimited.stepVigil m g step = (d.stepVigil m g step).unlimited := by
  cases hv : d.vigil with
  | none =>
    have hunlimited : d.unlimited.vigil = none := by simp [unlimited, hv]
    simp only [stepVigil, hv, hunlimited]
  | some v =>
    have hunlimited : d.unlimited.vigil = some v.unlimited := by simp [unlimited, hv]
    simp only [stepVigil, hv, hunlimited]
    show (if v.generation = g then _ else _) = _
    split
    · exact observe_unlimited (by rfl) m { v with lookout := (step v.lookout).1 } _
    · rfl

/-- The limit is looked at when the deployer is woken. -/
theorem wake_unlimited (hintime : ∀ v, d.vigil = some v → v.expiry? m.clock = none) :
    d.unlimited.wake m = ((d.wake m).1.unlimited, (d.wake m).2) := by
  cases hv : d.vigil with
  | none =>
    have hunlimited : d.unlimited.vigil = none := by simp [unlimited, hv]
    simp only [Deployer.wake, hv, hunlimited]
  | some v =>
    have hunlimited : d.unlimited.vigil = some v.unlimited := by simp [unlimited, hv]
    have hnever : v.unlimited.expiry? m.clock = none := rfl
    simp only [Deployer.wake, hv, hunlimited, hintime v hv, hnever]
    obtain ⟨generation, key, since, limit, lookout⟩ := v
    cases lookout <;> rfl

/-! ### The step -/

theorem confirmed_unlimited (h : d' = d.unlimited) (m : Moment) (a : Attempt) (hash : TxHash) :
    d'.confirmed m a hash = (d.confirmed m a hash).unlimited := by
  subst h
  have hcorrelation : d.unlimited.tracker.snapshot.correlation = d.tracker.snapshot.correlation := rfl
  unfold Deployer.confirmed
  dsimp only
  rw [hcorrelation]
  cases d.tracker.snapshot.correlation with
  | none =>
    dsimp only
    split <;> exact update_unlimited (by rfl) _ _ _
  | some number =>
    dsimp only
    split <;> exact wait_unlimited (update_unlimited (by rfl) _ _ _) _ _ _ _

theorem answered_unlimited (m : Moment) (d : Deployer) (i : Nat) (answer : Answer) :
    d.unlimited.answered m i answer = ((d.answered m i answer).1.unlimited, (d.answered m i answer).2) := by
  have hdeploys : d.unlimited.deploys[i]? = d.deploys[i]? := rfl
  unfold answered
  rw [hdeploys]
  cases d.deploys[i]? with
  | none => rfl
  | some call =>
    cases call with
    | ended result => rfl
    | underway a t =>
      have hresume : d.unlimited.tracker.resume m d.unlimited.journal t answer =
          d.tracker.resume m d.journal t answer := rfl
      dsimp only
      rw [hresume]
      generalize d.tracker.resume m d.journal t answer = p
      -- What the submission has published is shown first, then the call goes on or ends.
      have hshown : p.seen.foldl (fun (d : Deployer) snapshot => d.showTx a.generation snapshot)
            { d.unlimited with tracker := p.tracker, journal := p.journal } =
          (p.seen.foldl (fun (d : Deployer) snapshot => d.showTx a.generation snapshot)
            { d with tracker := p.tracker, journal := p.journal }).unlimited :=
        showAll_unlimited (by rfl) _ _
      dsimp only at hshown
      rw [hshown]
      generalize p.seen.foldl (fun (d : Deployer) snapshot => d.showTx a.generation snapshot)
        { d with tracker := p.tracker, journal := p.journal } = shown
      have hgeneration : shown.unlimited.generation = shown.generation := rfl
      cases p.course with
      | suspended next => rfl
      | ended hash =>
        cases hash with
        | none => rfl
        | some hash =>
          dsimp only
          rw [hgeneration]
          split
          · refine Prod.ext ?_ rfl
            dsimp only
            exact confirmed_unlimited (by rfl) m a hash
          · rfl

theorem reset_unlimited (d : Deployer) : d.unlimited.reset = d.reset.unlimited := by
  have hstate : d.unlimited.state = d.state := rfl
  unfold reset
  rw [hstate]
  split <;> rfl

theorem settleRelease_unlimited (d : Deployer) :
    d.unlimited.settleRelease = d.settleRelease.unlimited := by
  have hgone : d.unlimited.isGone = d.isGone := rfl
  unfold settleRelease
  rw [hgone]
  split <;> rfl

theorem step_unlimited (d : Deployer)
    (hintime : e = .wake → ∀ v, d.vigil = some v → v.expiry? m.clock = none) :
    d.unlimited.step m e = ((d.step m e).1.unlimited, (d.step m e).2) := by
  cases e with
  | form | account | mode | discover | release => rfl
  | service service => cases service <;> rfl
  | serviceRead i reads =>
    have hchecks : d.unlimited.checks = d.checks := rfl
    simp only [step, hchecks]
    split
    · refine Prod.ext ?_ rfl
      dsimp only
      exact chooseService_unlimited (by rfl) _
    · rfl
  | operatorsRead i reply =>
    have hdiscoveries : d.unlimited.discoveries = d.discoveries := rfl
    simp only [step, hdiscoveries]
    split <;> rfl
  | deploy => exact begin_unlimited m d
  | answer i answer => exact answered_unlimited m d i answer
  | reset => exact congrArg (·, []) (reset_unlimited d)
  | wake => exact wake_unlimited (hintime rfl)
  | fetched g epoch reply => exact congrArg (·, []) (stepVigil_unlimited m d g _)
  | subscribed g subscription outcome => exact congrArg (·, []) (stepVigil_unlimited m d g _)
  | batch g subscription logs => exact congrArg (·, []) (stepVigil_unlimited m d g _)
  | closed g subscription => exact congrArg (·, []) (stepVigil_unlimited m d g _)

/-- **The limit has a part in nothing but a late wake.** -/
theorem handle_unlimited (d : Deployer)
    (hintime : e = .wake → ∀ v, d.vigil = some v → v.expiry? m.clock = none) :
    d.unlimited.handle m e = ((d.handle m e).1.unlimited, (d.handle m e).2) := by
  have hgone : d.unlimited.isGone = d.isGone := rfl
  unfold handle
  rw [hgone, step_unlimited d hintime]
  split
  · rfl
  · exact Prod.ext (settleRelease_unlimited _) rfl

end Deployer

/-! ## Relays -/

namespace Relay

variable {m : Moment} {r : Relay} {e : Event} {x : Moment × Occurrence}

/-- A relay whose deployer has no limit. -/
def unlimited (r : Relay) : Relay :=
  { r with deployer := r.deployer.unlimited, ahead := r.ahead.map .unlimited }

theorem carry_unlimited (ahead kept : Option Vigil) :
    carry (ahead.map .unlimited) (kept.map .unlimited) = (carry ahead kept).map .unlimited := by
  have hgeneration : ∀ v : Option Vigil,
      (v.map .unlimited).map Vigil.generation = v.map Vigil.generation := by
    intro v
    cases v <;> rfl
  unfold carry
  rw [hgeneration, hgeneration]
  split <;> rfl

/-- No time has run out for a relay. -/
def InTime (r : Relay) (now : Nat) : Prop :=
  r.deployer.isGone = false → ∀ v, r.deployer.vigil = some v ∨ r.ahead = some v → v.expiry? now = none

theorem take_unlimited (hintime : e = .wake → r.InTime m.clock) :
    r.unlimited.take m e = ((r.take m e).1.unlimited, (r.take m e).2) := by
  have hgone : r.unlimited.deployer.isGone = r.deployer.isGone := rfl
  unfold take
  rw [hgone]
  split
  · rfl
  · rename_i hthere
    replace hthere := eq_false_of_ne_true hthere
    have hreact : r.unlimited.ahead.bind (·.react? m e) =
        (r.ahead.bind (·.react? m e)).map fun taken => (taken.1.unlimited, taken.2) := by
      unfold unlimited
      cases hahead : r.ahead with
      | none => rfl
      | some v => exact v.react?_unlimited fun he => hintime he hthere v (Or.inr hahead)
    have hhandle : r.unlimited.deployer.handle m e =
        ((r.deployer.handle m e).1.unlimited, (r.deployer.handle m e).2) :=
      r.deployer.handle_unlimited fun he v hv => hintime he hthere v (Or.inl hv)
    rw [hreact]
    -- The task of the vigil takes the event, or the deployer does.
    cases r.ahead.bind (·.react? m e) with
    | some taken => rfl
    | none =>
      dsimp only [Option.map_none]
      rw [hhandle]
      refine Prod.ext ?_ rfl
      exact congrArg (fun ahead => { r.unlimited with
          deployer := (r.deployer.handle m e).1.unlimited
          ahead
          trace := r.trace ++ [(e, (r.deployer.handle m e).2)] })
        (carry_unlimited r.ahead (r.deployer.handle m e).1.vigil)

theorem look_unlimited (m : Moment) (r : Relay) : r.unlimited.look m = (r.look m).unlimited := by
  have hgone : r.unlimited.deployer.isGone = r.deployer.isGone := rfl
  have hvigil : r.unlimited.deployer.vigil = r.deployer.vigil.map .unlimited := rfl
  have hahead : r.unlimited.ahead = r.ahead.map .unlimited := rfl
  unfold look
  rw [hgone, hvigil, hahead]
  split
  · rfl
  · cases r.deployer.vigil with
    | none => rfl
    | some v =>
      cases r.ahead with
      | none => rfl
      | some w =>
        have hobserved : r.unlimited.deployer.observe m w.unlimited
            (w.lookout.version != v.lookout.version) =
            (r.deployer.observe m w (w.lookout.version != v.lookout.version)).unlimited :=
          observe_unlimited rfl m w _
        have hversion : (w.unlimited.lookout.version != v.unlimited.lookout.version) =
            (w.lookout.version != v.lookout.version) := rfl
        dsimp only [Option.map_some]
        rw [hversion, hobserved]
        generalize r.deployer.observe m w (w.lookout.version != v.lookout.version) = looked
        exact congrArg
          (fun ahead => { r.unlimited with deployer := looked.unlimited, ahead, seen := r.trace })
          (carry_unlimited (some w) looked.vigil)

/-- What happens to a relay whose time has not run out goes on as without a limit. -/
theorem step_unlimited (r : Relay) (hintime : x.2 = .event .wake → r.InTime x.1.clock) :
    r.unlimited.step x = (r.step x).unlimited := by
  obtain ⟨m, occurrence⟩ := x
  cases occurrence with
  | event e =>
    exact congrArg Prod.fst (take_unlimited fun he => hintime (congrArg _ he))
  | look => exact look_unlimited m r

variable {Q : Lookout → List (Event × List Effect) → Prop} {terms : Terms}

/-- The time of a wait that may be woken has not run out. -/
theorem Wait.inTime (hwait : Wait Q terms r) (hx : terms.Allow r (m, .event .wake)) :
    r.InTime m.clock := by
  intro hthere v hv
  cases hwait.phase with
  | @waiting w next _ hvigil hahead _ _ hdeadline =>
    -- The vigil and what has become of it have the same limit.
    have hlimit : v.deadline = terms.deadline := by
      rcases hv with hv | hv
      · rw [← Option.some.inj (hvigil.symm.trans hv)]
        exact hdeadline
      · rw [← Option.some.inj (hahead.symm.trans hv)]
        exact hdeadline
    refine expiry?_eq_none fun time htime => ?_
    exact (hx.intime rfl time (hlimit.symm.trans htime)).resolve_right (by simp [hvigil])
  | ended hahead hdecided _ _ hreflected _ =>
    have hvigil := hwait.coherent.vigil_eq_none_of_terminal (hreflected.isTerminal hdecided)
    simp [hahead, hvigil] at hv
  | gone hgone =>
    rw [hthere] at hgone
    cases hgone

/-- **A wait that keeps to its time goes on as without a limit.** -/
theorem Wait.run_unlimited (hwait : Wait Q terms r) (hQ : Tally terms.generation Q)
    {xs : List (Moment × Occurrence)}
    (hxs : ∀ before x after, xs = before ++ x :: after → terms.Allow (r.run before) x) :
    r.unlimited.run xs = (r.run xs).unlimited := by
  induction xs generalizing r with
  | nil => rfl
  | cons x xs ih =>
    -- Each step is one that the wait allows, so it finds a relay whose time has not run out.
    have hx : terms.Allow r x := hxs [] x xs rfl
    rw [run_cons, run_cons, step_unlimited r fun hwake => ?_]
    · exact ih (hwait.step hQ hx) fun before y after heq =>
        hxs (x :: before) y after (congrArg (x :: ·) heq)
    · obtain ⟨m, occurrence⟩ := x
      obtain rfl : occurrence = .event .wake := hwake
      exact hwait.inTime hx

end Relay

end ChainProvision
