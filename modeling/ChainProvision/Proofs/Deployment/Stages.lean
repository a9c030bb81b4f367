import ChainProvision.Proofs.Deployment.Reachable

/-!
# What a state holds at each status

Everything in the state that belongs to an attempt is there from a certain status on: the hash from
the broadcast, the number of the receipt and the operator's reports from the beginning of the wait,
the resource at its end.  Inputs that change in the middle of an attempt leave it alone.

## Main statements

- `DeployState.Stage`: what there is at each status.
- `Deployer.Staged.turn`: every turn leads to such a state.
- `Deployer.state_sound`: so does every run, also in what is shown in passing.
-/

namespace ChainProvision

namespace DeployState

/-! ## States -/

/-- What a state holds fits its status. -/
structure Sound (s : DeployState) : Prop where
  unsent : s.status = .idle ∨ s.status = .signing →
    s.txHash = none ∧ s.call = none ∧ s.request = none ∧ s.provision = none ∧ s.progress = none ∧
      s.pollError = none
  idle : s.status = .idle → s.error = none ∨ s.error = some .noOperators
  signing : s.status = .signing → s.error = none
  sent : s.status = .pending ∨ s.status = .confirmed ∨ s.status = .provisioning ∨ s.status = .ready →
    s.txHash.isSome = true ∧ s.error = none
  /-- The number that the receipt gave is that of a call or of a request, by the route. -/
  named : s.status = .provisioning ∨ s.status = .ready →
    (s.isNewService = false → s.call.isSome = true ∧ s.request = none) ∧
      (s.isNewService = true → s.request.isSome = true ∧ s.call = none)
  /-- Only on the route of a job is the operator asked. -/
  reported : s.progress.isSome = true ∨ s.pollError.isSome = true → s.isNewService = false
  provided : s.provision.isSome = true ↔ s.status = .ready
  failed : s.status = .failed → s.error.isSome = true

/-- Nothing is known of the resource or of the wait for it. -/
def Blank (s : DeployState) : Prop :=
  s.call = none ∧ s.request = none ∧ s.provision = none ∧ s.progress = none ∧ s.pollError = none

/-- The number that the receipt gave is known. -/
def Named (s : DeployState) : Prop :=
  s.isNewService = false ∧ s.call.isSome = true ∧ s.request = none ∨
    s.isNewService = true ∧ s.call = none ∧ s.request.isSome = true

/-- Nothing was reported on the route of a new service. -/
def Reported (s : DeployState) : Prop :=
  s.isNewService = true → s.progress = none ∧ s.pollError = none

/-- What there is at each status. -/
inductive Stage (s : DeployState) : Prop where
  | idle :
      s.status = .idle → s.Blank → s.txHash = none → (s.error = none ∨ s.error = some .noOperators) →
      Stage s
  | signing : s.status = .signing → s.Blank → s.txHash = none → s.error = none → Stage s
  | sent :
      s.status = .pending ∨ s.status = .confirmed → s.Blank → s.txHash.isSome = true → s.error = none →
      Stage s
  | waiting :
      s.status = .provisioning → s.txHash.isSome = true → s.error = none → s.Named → s.Reported →
      s.provision = none →
      Stage s
  | ready :
      s.status = .ready → s.txHash.isSome = true → s.error = none → s.Named → s.Reported →
      s.provision.isSome = true →
      Stage s
  | failed : s.status = .failed → s.error.isSome = true → s.Reported → s.provision = none → Stage s

variable {s s' : DeployState}

theorem Blank.reported (h : s.Blank) : s.Reported := fun _ => h.2.2.2

theorem reported_of_job (h : s.isNewService = false) : s.Reported := by
  intro hnew
  rw [h] at hnew
  cases hnew

theorem Named.by_route (h : s.Named) :
    (s.isNewService = false → s.call.isSome = true ∧ s.request = none) ∧
      (s.isNewService = true → s.request.isSome = true ∧ s.call = none) := by
  rcases h with ⟨hroute, hcall, hrequest⟩ | ⟨hroute, hcall, hrequest⟩
  · exact ⟨fun _ => ⟨hcall, hrequest⟩, by simp [hroute]⟩
  · exact ⟨by simp [hroute], fun _ => ⟨hrequest, hcall⟩⟩

theorem Reported.job (h : s.Reported) (hreport : s.progress.isSome = true ∨ s.pollError.isSome = true) :
    s.isNewService = false := by
  cases hroute : s.isNewService with
  | false => rfl
  | true =>
    obtain ⟨hprogress, herror⟩ := h hroute
    simp [hprogress, herror] at hreport

/-- **A state that holds what there is at its status is sound.** -/
theorem Stage.sound (h : s.Stage) : s.Sound := by
  cases h with
  | idle hs hblank hhash herror =>
    obtain ⟨hcall, hrequest, hprovision, hprogress, hpoll⟩ := id hblank
    exact { unsent := fun _ => ⟨hhash, hcall, hrequest, hprovision, hprogress, hpoll⟩
            idle := fun _ => herror
            signing := by simp [hs]
            sent := by simp [hs]
            named := by simp [hs]
            reported := hblank.reported.job
            provided := by simp [hs, hprovision]
            failed := by simp [hs] }
  | signing hs hblank hhash herror =>
    obtain ⟨hcall, hrequest, hprovision, hprogress, hpoll⟩ := id hblank
    exact { unsent := fun _ => ⟨hhash, hcall, hrequest, hprovision, hprogress, hpoll⟩
            idle := by simp [hs]
            signing := fun _ => herror
            sent := by simp [hs]
            named := by simp [hs]
            reported := hblank.reported.job
            provided := by simp [hs, hprovision]
            failed := by simp [hs] }
  | sent hs hblank hhash herror =>
    obtain ⟨-, -, hprovision, -⟩ := id hblank
    have hstatus : s.status ≠ .idle ∧ s.status ≠ .signing ∧ s.status ≠ .provisioning ∧
        s.status ≠ .ready ∧ s.status ≠ .failed := by
      rcases hs with hs | hs <;> simp [hs]
    exact { unsent := by simp [hstatus]
            idle := by simp [hstatus]
            signing := by simp [hstatus]
            sent := fun _ => ⟨hhash, herror⟩
            named := by simp [hstatus]
            reported := hblank.reported.job
            provided := by simp [hstatus, hprovision]
            failed := by simp [hstatus] }
  | waiting hs hhash herror hnamed hreported hprovision =>
    exact { unsent := by simp [hs]
            idle := by simp [hs]
            signing := by simp [hs]
            sent := fun _ => ⟨hhash, herror⟩
            named := fun _ => hnamed.by_route
            reported := hreported.job
            provided := by simp [hs, hprovision]
            failed := by simp [hs] }
  | ready hs hhash herror hnamed hreported hprovision =>
    exact { unsent := by simp [hs]
            idle := by simp [hs]
            signing := by simp [hs]
            sent := fun _ => ⟨hhash, herror⟩
            named := fun _ => hnamed.by_route
            reported := hreported.job
            provided := by simp [hs, hprovision]
            failed := by simp [hs] }
  | failed hs herror hreported hprovision =>
    exact { unsent := by simp [hs]
            idle := by simp [hs]
            signing := by simp [hs]
            sent := by simp [hs]
            named := by simp [hs]
            reported := hreported.job
            provided := by simp [hs, hprovision]
            failed := fun _ => herror }

/-- Inputs do not matter, also if the route changes while idle. -/
theorem Stage.sameAttempt (h : s.Stage) (hsame : s.SameAttempt s') : s'.Stage := by
  obtain ⟨mode, serviceError, isNewService, canDeploy, rfl, hroute⟩ := hsame
  by_cases hidle : s.status = .idle
  · cases h with
    | idle hs hblank hhash herror => exact .idle hs hblank hhash herror
    | sent hs => simp [hidle] at hs
    | _ hs => simp [hidle] at hs
  · obtain ⟨rfl, rfl⟩ := hroute hidle
    cases h with
    | idle hs => exact absurd hs hidle
    | signing hs hblank hhash herror => exact .signing hs hblank hhash herror
    | sent hs hblank hhash herror => exact .sent hs hblank hhash herror
    | waiting hs hhash herror hnamed hreported hprovision =>
      exact .waiting hs hhash herror hnamed hreported hprovision
    | ready hs hhash herror hnamed hreported hprovision =>
      exact .ready hs hhash herror hnamed hreported hprovision
    | failed hs herror hreported hprovision => exact .failed hs herror hreported hprovision

/-! ## What follows at a status -/

theorem Stage.of_signing (h : s.Stage) (hs : s.status = .signing) :
    s.Blank ∧ s.txHash = none ∧ s.error = none := by
  cases h with
  | signing _ hblank hhash herror => exact ⟨hblank, hhash, herror⟩
  | sent hs' => simp [hs] at hs'
  | _ hs' => simp [hs] at hs'

theorem Stage.of_pending (h : s.Stage) (hs : s.status = .pending) :
    s.Blank ∧ s.txHash.isSome = true ∧ s.error = none := by
  cases h with
  | sent _ hblank hhash herror => exact ⟨hblank, hhash, herror⟩
  | _ hs' => simp [hs] at hs'

theorem Stage.of_provisioning (h : s.Stage) (hs : s.status = .provisioning) :
    s.txHash.isSome = true ∧ s.error = none ∧ s.Named ∧ s.Reported ∧ s.provision = none := by
  cases h with
  | waiting _ hhash herror hnamed hreported hprovision =>
    exact ⟨hhash, herror, hnamed, hreported, hprovision⟩
  | sent hs' => simp [hs] at hs'
  | _ hs' => simp [hs] at hs'

end DeployState

namespace Deployer

variable {m : Moment} {d d' : Deployer} {e : Event} {effects : List Effect}

/-! ## Deployers -/

/-- The state holds what there is at its status, and the current attempt goes by its route. -/
structure Staged (d : Deployer) : Prop where
  stage : d.state.value.Stage
  calls : ∀ {i : Nat} {a : Attempt} {t : Ticket}, d.deploys[i]? = some (.underway a t) →
    a.generation = d.generation → a.route.isNewService = d.state.value.isNewService
  vigil : ∀ {v : Vigil}, d.vigil = some v → v.lookout.polls = !d.state.value.isNewService

theorem staged_new (settings : Settings) (encoder : Encoder) (mode : ResourceKind) :
    Staged (new settings encoder mode) where
  stage := .idle rfl ⟨rfl, rfl, rfl, rfl, rfl⟩ rfl (Or.inl rfl)
  calls := by simp [new]
  vigil := by simp [new]

theorem polls_start (settings : Settings) (now : Nat) (route : Route) (number : Word64) :
    (Lookout.start settings now (quarryOf route number)).polls = !route.isNewService := by
  cases route <;> rfl

/-- The route stays, and so does every call that is still under way. -/
private theorem Staged.keep (hstaged : Staged d) (hstage : d'.state.value.Stage)
    (hgeneration : d'.generation = d.generation)
    (hroute : d'.state.value.isNewService = d.state.value.isNewService)
    (hcalls : ∀ {i : Nat} {a : Attempt} {t : Ticket}, d'.deploys[i]? = some (.underway a t) →
      ∃ u, d.deploys[i]? = some (.underway a u))
    (hvigil : ∀ {v : Vigil}, d'.vigil = some v → v.lookout.polls = !d.state.value.isNewService) :
    Staged d' where
  stage := hstage
  calls hget hgen := by
    obtain ⟨u, hold⟩ := hcalls hget
    rw [hroute]
    exact hstaged.calls hold (hgen.trans hgeneration)
  vigil hv := by
    rw [hroute]
    exact hvigil hv

/-- What a vigil has to show leaves the state one that waits. -/
private theorem Staged.course {v : Vigil} (hstaged : Staged d) (hv : d.vigil = some v)
    (hs : d.state.value.status = .provisioning) {progress : Option Report}
    {pollError : Option String}
    (hreports : v.lookout.polls = false →
      progress = d.state.value.progress ∧ pollError = d.state.value.pollError)
    (canDeploy : Bool) :
    ({ d.state.value with progress, pollError, canDeploy } : DeployState).Stage := by
  obtain ⟨hhash, herror, hnamed, hreported, hprovision⟩ := hstaged.stage.of_provisioning hs
  refine .waiting hs hhash herror hnamed (fun hnew => ?_) hprovision
  -- The lookout of a new service has nothing to show.
  have hroute : d.state.value.isNewService = true := hnew
  have hquiet : v.lookout.polls = false := by
    rw [hstaged.vigil hv, hroute]
    rfl
  obtain ⟨rfl, rfl⟩ := hreports hquiet
  exact hreported hnew

private theorem stage_awaiting {s : DeployState} {route : Route} (hroute : route.isNewService = s.isNewService)
    (hblank : s.Blank) (hhash : s.txHash.isSome = true) (herror : s.error = none) (number : Word64)
    (canDeploy : Bool) :
    ({ awaiting (quarryOf route number) s with status := .provisioning, canDeploy } : DeployState).Stage := by
  obtain ⟨hcall, hrequest, hprovision, hreports⟩ := hblank
  cases route with
  | job service =>
    exact .waiting rfl hhash herror (Or.inl ⟨hroute.symm, rfl, hrequest⟩) (fun _ => hreports) hprovision
  | newService =>
    exact .waiting rfl hhash herror (Or.inr ⟨hroute.symm, hcall, rfl⟩) (fun _ => hreports) hprovision

/-- What a lookout has to show is shown on its own route. -/
private theorem stage_shown {s : DeployState} {lookout : Lookout} (h : s.Stage)
    (hs : s.status = .provisioning) (hpolls : lookout.polls = !s.isNewService) (canDeploy : Bool) :
    ({ lookout.shown s with canDeploy } : DeployState).Stage := by
  obtain ⟨hhash, herror, hnamed, hreported, hprovision⟩ := h.of_provisioning hs
  cases lookout with
  | operator call poller =>
    have hjob : s.isNewService = false := by simpa [Lookout.polls] using hpolls
    exact .waiting hs hhash herror hnamed (DeployState.reported_of_job hjob) hprovision
  | contract watcher => exact .waiting hs hhash herror hnamed hreported hprovision

/-- **Every turn leads to a state that holds what there is at its status.** -/
theorem Staged.turn (hstaged : Staged d) (h : d.Coherent) (hturn : Turn m d e d' effects) :
    Staged d' := by
  -- No call is current in a generation that has just begun.
  have hlater : ∀ {i : Nat} {a : Attempt} {t : Ticket}, d.deploys[i]? = some (.underway a t) →
      a.generation ≠ d.generation + 1 := by
    intro i a t hget
    exact Nat.ne_of_lt (Nat.lt_succ_of_le (h.generation_le hget))
  cases hturn with
  | ignored => exact hstaged
  | entered _ _ _ hsame _ _ =>
    have hstage := hstaged.stage.sameAttempt hsame
    obtain ⟨mode, serviceError, isNewService, canDeploy, hstate, hroute⟩ := hsame
    refine ⟨hstage, ?_, ?_⟩
    · intro i a t hget hgen
      -- While a call is current the route stays.
      have hs : d.state.value.status ≠ .idle := by
        intro hidle
        exact absurd hgen (Nat.ne_of_lt (h.superseded_of_idle hidle hget).attempt)
      simp [hstate, (hroute hs).2, hstaged.calls hget hgen]
    · intro v hv
      have hs : d.state.value.status ≠ .idle := by simp [(h.vigil hv).status]
      simp [hstate, (hroute hs).2, hstaged.vigil hv]
  | declined _ =>
    exact hstaged.keep hstaged.stage rfl rfl (fun hget => ⟨_, underway_of_concat_ended hget⟩) hstaged.vigil
  | @unmanned state _ hidle hstate =>
    have hstage : state.value.Stage := by
      rw [hstate]
      cases hstaged.stage with
      | idle hs hblank hhash _ => exact .idle hs hblank hhash (Or.inr rfl)
      | sent hs => simp [hidle] at hs
      | _ hs => simp [hidle] at hs
    exact hstaged.keep hstage rfl (by simp [hstate]) (fun hget => ⟨_, underway_of_concat_ended hget⟩)
      hstaged.vigil
  | refused _ hidle hstate =>
    refine ⟨?_, fun hget hgen => ?_, ?_⟩
    · rw [hstate]
      exact .failed rfl rfl (fun _ => ⟨rfl, rfl⟩) rfl
    · exact absurd hgen (hlater (underway_of_concat_ended hget))
    · simp [h.vigil_eq_none_of_idle hidle]
  | opened _ hidle hstate =>
    refine ⟨?_, fun hget hgen => ?_, ?_⟩
    · rw [hstate]
      exact .signing rfl ⟨rfl, rfl, rfl, rfl, rfl⟩ rfl rfl
    · rcases Calls.get_of_concat hget with hold | ⟨-, hnew⟩
      · exact absurd hgen (hlater hold)
      · obtain ⟨rfl, rfl⟩ := DeployCall.underway.inj hnew
        rw [hstate]
        rfl
    · simp [h.vigil_eq_none_of_idle hidle]
  | signed hget _ =>
    exact hstaged.keep hstaged.stage rfl rfl (underway_of_set_underway hget) hstaged.vigil
  | lapsed =>
    exact hstaged.keep hstaged.stage rfl rfl (fun hget => ⟨_, (underway_of_set_ended hget).1⟩)
      hstaged.vigil
  | @sent _ _ _ hash _ canDeploy state hget hengaged hawait hstate =>
    obtain ⟨hblank, -, herror⟩ := hstaged.stage.of_signing (hengaged.signing hawait)
    have hstage : state.value.Stage := by
      rw [hstate]
      exact .sent (Or.inl rfl) hblank rfl herror
    exact hstaged.keep hstage rfl (by simp [hstate]) (underway_of_set_underway hget)
      (by simp [hengaged.unwatched])
  | @fell _ _ _ _ _ _ _ state hget hengaged hfail hstate =>
    have hblank : d.state.value.Blank := by
      rcases hengaged.status with hs | hs
      · exact (hstaged.stage.of_signing hs).1
      · exact (hstaged.stage.of_pending hs).1
    have hstage : state.value.Stage := by
      rw [hstate]
      exact .failed rfl rfl hblank.reported hblank.2.2.1
    exact hstaged.keep hstage rfl (by simp [hstate]) (fun hget' => ⟨_, (underway_of_set_ended hget').1⟩)
      (by simp [hengaged.unwatched])
  | @unnumbered _ _ _ _ _ _ _ state hget hengaged hawait hstate _ =>
    obtain ⟨hblank, -⟩ := hstaged.stage.of_pending (hengaged.pending hawait)
    have hstage : state.value.Stage := by
      rw [hstate]
      exact .failed rfl rfl hblank.reported hblank.2.2.1
    exact hstaged.keep hstage rfl (by simp [hstate]) (fun hget' => ⟨_, (underway_of_set_ended hget').1⟩)
      (by simp [hengaged.unwatched])
  | @awaited i a t hash r number journal v s canDeploy state hget hengaged hawait hv hs hstate _ =>
    obtain ⟨hblank, hhash, herror⟩ := hstaged.stage.of_pending (hengaged.pending hawait)
    have hroute := hstaged.calls hget hengaged.attempt
    have hstage : s.Stage :=
      hs ▸ stage_awaiting hroute hblank hhash herror number (awaiting _ d.state.value).canDeploy
    have hsame : s.isNewService = d.state.value.isNewService := by
      rw [hs]
      cases a.route <;> rfl
    have hpolls : v.lookout.polls = !s.isNewService := by
      rw [hv, hsame, ← hroute]
      exact polls_start _ _ _ _
    have hshown : state.value.isNewService = s.isNewService := by
      rw [hstate]
      cases v.lookout <;> rfl
    have hstage' : state.value.Stage := by
      rw [hstate]
      exact stage_shown hstage (by rw [hs]) hpolls canDeploy
    refine hstaged.keep hstage' rfl (hshown.trans hsame) (fun hget' => ⟨_, (underway_of_set_ended hget').1⟩) ?_
    rintro w ⟨⟩
    rw [← hsame]
    exact hpolls
  | @looked _ v v' state _ hv he hgen hkey hopen hstate heffects hpolls hreports =>
    obtain ⟨progress, pollError, canDeploy, hstate⟩ := hstate
    rw [hstate] at hreports
    have hstage : state.value.Stage := by
      rw [hstate]
      exact hstaged.course hv (h.vigil hv).status hreports canDeploy
    refine hstaged.keep hstage rfl (by simp [hstate]) (fun hget => ⟨_, hget⟩) ?_
    rintro w ⟨⟩
    exact hpolls.trans (hstaged.vigil hv)
  | @found _ v found service s state hv he hs hstate hreports =>
    -- The state as it would be if the vigil were kept, made ready.
    obtain ⟨progress, pollError, canDeploy, hstate⟩ := hstate
    subst hs
    rw [hstate] at hreports
    obtain ⟨hhash, herror, hnamed, hreported, hprovision⟩ :=
      (hstaged.course hv (h.vigil hv).status hreports canDeploy).of_provisioning (h.vigil hv).status
    replace hprovision : d.state.value.provision = none := hprovision
    have hstage : state.value.Stage := by
      rw [hstate]
      exact .ready rfl hhash herror hnamed hreported (by simp [hprovision])
    exact hstaged.keep hstage rfl (by simp [hstate]) (fun hget => ⟨_, hget⟩) (by simp)
  | @lost _ v loss s state hv he hloss hs hstate hreports =>
    obtain ⟨progress, pollError, canDeploy, hstate⟩ := hstate
    subst hs
    rw [hstate] at hreports
    obtain ⟨-, -, -, hreported, hprovision⟩ :=
      (hstaged.course hv (h.vigil hv).status hreports canDeploy).of_provisioning (h.vigil hv).status
    have hstage : state.value.Stage := by
      rw [hstate]
      exact .failed rfl rfl hreported hprovision
    exact hstaged.keep hstage rfl (by simp [hstate]) (fun hget => ⟨_, hget⟩) (by simp)
  | atRest => exact hstaged
  | discarded hstate =>
    refine ⟨?_, fun hget hgen => ?_, by simp⟩
    · rw [hstate]
      exact .idle rfl ⟨rfl, rfl, rfl, rfl, rfl⟩ rfl (Or.inl rfl)
    · exact absurd hgen (hlater hget)

/-! ## What is shown in passing -/

/-- The states that a deployer shows while it takes an event, before the one that it keeps.  A
transaction is confirmed before the wait for the resource begins, and the report that ends the wait
is shown before the verdict is taken. -/
def passing (m : Moment) (d : Deployer) : Event → List DeployState
  | .answer index answer =>
    match d.deploys[index]? with
    | some (.underway a t) =>
      let p := d.tracker.resume m d.journal t answer
      match p.course with
      | .ended (some _) =>
        let shown := p.seen.foldl (fun d snapshot => d.showTx a.generation snapshot)
          { d with tracker := p.tracker, journal := p.journal }
        shown.state.value ::
          p.tracker.snapshot.correlation.toList.map fun number =>
            (shown.update a.generation (awaiting (quarryOf a.route number))
              (some .startProvisioning)).state.value
      | _ => []
    | _ => []
  | .fetched generation epoch reply =>
    match d.vigil with
    | some v =>
      if v.generation = generation then
        let (lookout, announced) := stepPoller (·.answer epoch reply) v.lookout
        [(d.mirrored { v with lookout } announced).state.value]
      else []
    | none => []
  | _ => []

private theorem stage_started {a : Attempt} (number : Word64) (hgen : d.generation = a.generation)
    (hs : d.state.value.status = .confirmed) (hroute : a.route.isNewService = d.state.value.isNewService)
    (hblank : d.state.value.Blank) (hhash : d.state.value.txHash.isSome = true)
    (herror : d.state.value.error = none) :
    let s := (d.update a.generation (awaiting (quarryOf a.route number))
      (some .startProvisioning)).state.value
    s.Stage ∧ s.provision = d.state.value.provision := by
  have hfits : (awaiting (quarryOf a.route number) d.state.value).status.advance .startProvisioning =
      .ok .provisioning := by
    cases a.route <;> simp [quarryOf, awaiting, hs] <;> rfl
  obtain ⟨state, canDeploy, hupdate, hstate⟩ := update_raise hgen _ hfits
  rw [hupdate]
  show state.value.Stage ∧ state.value.provision = d.state.value.provision
  rw [hstate]
  refine ⟨stage_awaiting hroute hblank hhash herror number canDeploy, ?_⟩
  cases a.route <;> rfl

private theorem stage_passing_answer (hstaged : Staged d) (h : d.Coherent) (m : Moment) (i : Nat)
    (answer : Answer) {s : DeployState} (hmem : s ∈ d.passing m (.answer i answer)) :
    s.Stage ∧ s.provision = d.state.value.provision := by
  simp only [passing] at hmem
  split at hmem
  · rename_i a t hget
    have hp := Tracker.resumed_resume m d.tracker d.journal t answer
    generalize d.tracker.resume m d.journal t answer = p at hp hmem
    -- Only a receipt of success shows anything in passing.
    cases hp with
    | @confirmed hash r hcur hawait hr =>
      have hengaged := (h.engaged_iff hget).mpr hcur
      have hs := hengaged.pending hawait
      obtain ⟨hblank, hhash, herror⟩ := hstaged.stage.of_pending hs
      have hroute := hstaged.calls hget hengaged.attempt
      generalize correlationOf r.logs t.submission.request.contract t.submission.event = numbers at hmem
      -- First the deployment is shown as confirmed.
      obtain ⟨state, canDeploy, hupdate, hstate⟩ := update_raise (e := .confirm) (n := .confirmed)
        (d := { d with
          tracker := d.tracker.showing
            { d.tracker.snapshot with status := .confirmed, correlation := numbers }
          journal := Tracker.journalAfter m d.journal t (.receipt (.ok r)) })
        hengaged.attempt.symm id (by simp [hs]; rfl)
      simp only [List.foldl_cons, List.foldl_nil, showTx, hupdate] at hmem
      rcases List.mem_cons.mp hmem with rfl | hmem
      · rw [hstate]
        exact ⟨.sent (Or.inr rfl) hblank hhash herror, rfl⟩
      · -- Then, if the receipt gives a number, as provisioning.
        obtain ⟨number, -, rfl⟩ := List.mem_map.mp hmem
        have hblank' : state.value.Blank := by
          rw [hstate]
          exact hblank
        have hstarted := stage_started (a := a) number
          (d := { d with
            tracker := d.tracker.showing
              { d.tracker.snapshot with status := .confirmed, correlation := numbers }
            journal := Tracker.journalAfter m d.journal t (.receipt (.ok r))
            state
            log := d.log ++ [⟨d.state.value.status, .confirm⟩] })
          hengaged.attempt.symm (by simp [hstate]) (by simp [hstate, hroute]) hblank'
          (by simp [hstate, hhash]) (by simp [hstate, herror])
        rw [show d.state.value.provision = state.value.provision by simp [hstate]]
        exact hstarted
    | _ => cases hmem
  · cases hmem

private theorem stage_passing_fetched (hstaged : Staged d) (h : d.Coherent) (m : Moment)
    (generation epoch : Nat) (reply : FetchReply) {s : DeployState}
    (hmem : s ∈ d.passing m (.fetched generation epoch reply)) :
    s.Stage ∧ s.provision = d.state.value.provision := by
  simp only [passing] at hmem
  split at hmem
  · rename_i v hv
    split at hmem
    · rename_i hgen
      have hwatch := h.vigil hv
      generalize hlookout : stepPoller (·.answer epoch reply) v.lookout = next at hmem
      obtain ⟨state, canDeploy, hmirrored, hstate⟩ :=
        mirrored_eq (d := d) (w := { v with lookout := next.1 }) hwatch.attempt.symm next.2
      have hpolls : next.1.polls = !d.state.value.isNewService := by
        rw [← hlookout, polls_stepPoller]
        exact hstaged.vigil hv
      obtain rfl := List.mem_singleton.mp hmem
      rw [hmirrored]
      show state.value.Stage ∧ state.value.provision = d.state.value.provision
      rw [hstate]
      -- What is not announced is not shown either.
      split
      · refine ⟨stage_shown hstaged.stage hwatch.status hpolls canDeploy, ?_⟩
        cases next.1 <;> rfl
      · exact ⟨hstaged.stage.sameAttempt ⟨_, _, _, canDeploy, rfl, fun _ => ⟨rfl, rfl⟩⟩, rfl⟩
    · cases hmem
  · cases hmem

/-- **What is shown in passing** holds what there is at its status, too, and nothing is provided in
passing. -/
theorem stage_passing (hstaged : Staged d) (h : d.Coherent) (m : Moment) (e : Event) {s : DeployState}
    (hmem : s ∈ d.passing m e) : s.Stage ∧ s.provision = d.state.value.provision := by
  cases e with
  | answer i answer => exact stage_passing_answer hstaged h m i answer hmem
  | fetched generation epoch reply => exact stage_passing_fetched hstaged h m generation epoch reply hmem
  | _ => cases hmem

/-! ## The resource that is provided -/

theorem provision_turn (hstaged : Staged d) (h : d.Coherent) (hreset : e ≠ .reset) {found : Completion}
    (hfound : d.state.value.provision = some found) (hturn : Turn m d e d' effects) :
    d'.state.value.provision = some found := by
  have hready : d.state.value.status = .ready :=
    hstaged.stage.sound.provided.mp (by simp [hfound])
  have hfinal : d.state.value.status.isTerminal = true := by rw [hready]; rfl
  -- A deployer that is ready has no call of the current attempt, and no vigil.
  have hengaged : ∀ {a : Attempt} {t : Ticket}, ¬ d.Engaged a t := by
    intro a t hengaged
    rw [hengaged.not_terminal] at hfinal
    cases hfinal
  have hwatching : ∀ {v : Vigil}, d.vigil ≠ some v := by simp [h.vigil_eq_none_of_terminal hfinal]
  cases hturn with
  | entered _ _ _ hsame _ _ =>
    obtain ⟨mode, serviceError, isNewService, canDeploy, hstate, -⟩ := hsame
    simp [hstate, hfound]
  | unmanned _ hidle _ => simp [hready] at hidle
  | refused _ hidle _ => simp [hready] at hidle
  | opened _ hidle _ => simp [hready] at hidle
  | sent _ hcur => exact absurd hcur hengaged
  | fell _ hcur => exact absurd hcur hengaged
  | unnumbered _ hcur => exact absurd hcur hengaged
  | awaited _ hcur => exact absurd hcur hengaged
  | looked hv => exact absurd hv hwatching
  | found hv => exact absurd hv hwatching
  | lost hv => exact absurd hv hwatching
  | discarded _ => exact absurd rfl hreset
  | _ => exact hfound

/-! ## Runs -/

theorem Staged.handle (hstaged : Staged d) (h : d.Coherent) (m : Moment) (e : Event) :
    Staged (d.handle m e).1 := by
  rcases handled h m e with ⟨-, heq⟩ | ⟨-, d', effects, hturn, heq⟩
  · rw [heq]
    exact hstaged
  · rw [heq]
    have hstaged' := hstaged.turn h hturn
    unfold settleRelease
    split
    · rename_i hgone
      refine ⟨hstaged'.stage, fun hget _ => ?_, by simp⟩
      exact absurd hget (not_underway_of_isGone hgone _ _ _)
    · exact hstaged'

theorem Staged.run (hstaged : Staged d) (h : d.Coherent) (es : List (Moment × Event)) :
    Staged (d.run es) := by
  induction es generalizing d with
  | nil => exact hstaged
  | cons e es ih => exact ih (hstaged.handle h e.1 e.2) (h.handle e.1 e.2)

theorem provision_handle (hstaged : Staged d) (h : d.Coherent) (m : Moment) (hreset : e ≠ .reset)
    {found : Completion} (hfound : d.state.value.provision = some found) :
    (d.handle m e).1.state.value.provision = some found := by
  rcases handled h m e with ⟨-, heq⟩ | ⟨-, d', effects, hturn, heq⟩
  · rw [heq]
    exact hfound
  · rw [heq, settleRelease_state]
    exact provision_turn hstaged h hreset hfound hturn

theorem provision_run {es : List (Moment × Event)} (hstaged : Staged d) (h : d.Coherent)
    (hreset : ∀ x ∈ es, x.2 ≠ .reset) {found : Completion}
    (hfound : d.state.value.provision = some found) :
    (d.run es).state.value.provision = some found := by
  induction es generalizing d with
  | nil => exact hfound
  | cons e es ih =>
    obtain ⟨he, hes⟩ := List.forall_mem_cons.mp hreset
    exact ih (hstaged.handle h e.1 e.2) (h.handle e.1 e.2) hes (provision_handle hstaged h e.1 he hfound)

theorem provision_reset (hstaged : Staged d) (h : d.Coherent) (hgone : d.isGone = false) (m : Moment) :
    (d.handle m .reset).1.state.value.provision = none := by
  rcases handled h m .reset with ⟨hgone', -⟩ | ⟨-, d', effects, hturn, heq⟩
  · rw [hgone] at hgone'
    cases hgone'
  · rw [heq, settleRelease_state]
    cases hturn with
    | ignored _ hreset _ => exact absurd rfl hreset
    | entered _ hreset => exact absurd rfl hreset
    | looked _ he => cases he
    | found _ he => cases he
    | lost _ he => cases he
    | atRest hidle _ => exact (hstaged.stage.sound.unsent (Or.inl hidle)).2.2.2.1
    | discarded hstate => simp [hstate, DeployState.clearAttempt]

/-- **The state is sound** in every run, also where it is shown in passing.  What was provided stays
until a reset, which clears it. -/
theorem state_sound (settings : Settings) (encoder : Encoder) (mode : ResourceKind)
    (es : List (Moment × Event)) :
    let d := afterAll settings encoder mode es
    d.state.value.Sound ∧
    (∀ m e, ∀ s ∈ d.passing m e, s.Sound ∧ s.provision = d.state.value.provision) ∧
    (∀ found, d.state.value.provision = some found →
      ∀ later : List (Moment × Event), (∀ x ∈ later, x.2 ≠ .reset) →
        (d.run later).state.value.provision = some found) ∧
    (d.isGone = false → ∀ m, (d.handle m .reset).1.state.value.provision = none) := by
  intro d
  have h : d.Coherent := coherent_afterAll settings encoder mode es
  have hstaged : Staged d :=
    (staged_new settings encoder mode).run (coherent_new settings encoder mode) es
  refine ⟨hstaged.stage.sound, ?_, ?_, ?_⟩
  · intro m e s hmem
    obtain ⟨hstage, hprovision⟩ := stage_passing hstaged h m e hmem
    exact ⟨hstage.sound, hprovision⟩
  · exact fun found hfound later hreset => provision_run hstaged h hreset hfound
  · exact fun hgone m => provision_reset hstaged h hgone m

end Deployer

end ChainProvision
