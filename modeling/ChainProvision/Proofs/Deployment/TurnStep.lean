import ChainProvision.Proofs.Deployment.Turn

/-!
# Which turn an event takes

## Main statements

- `Deployer.turn_deploy`, `Deployer.turn_answered`, `Deployer.turn_wake`, `Deployer.turn_reset`: the
  turns of the parts of the step.
- `Deployer.turn_step`: the step of a coherent deployer is a turn.
-/

namespace ChainProvision

namespace Deployer

/-! ## Changes of the state -/

section Changes

variable {m : Moment} {d : Deployer} {g : Nat}

private theorem derive_eq (d : Deployer) (s : DeployState) :
    ∃ isNewService canDeploy, d.derive s = { s with isNewService, canDeploy } ∧
      (s.status ≠ .idle → isNewService = s.isNewService) := by
  unfold derive
  split
  · rename_i hidle
    exact ⟨_, _, rfl, fun hs => absurd hidle hs⟩
  · exact ⟨_, _, rfl, fun _ => rfl⟩

private theorem refresh_eq (d : Deployer) :
    ∃ state, d.refresh = { d with state } ∧ d.state.value.SameAttempt state.value := by
  obtain ⟨isNewService, canDeploy, hderive, hroute⟩ := derive_eq d d.state.value
  refine ⟨_, rfl, ?_⟩
  rw [Observed.value_edit]
  exact ⟨_, _, isNewService, canDeploy, hderive, fun hs => ⟨rfl, hroute hs⟩⟩

private theorem setMode_eq (d : Deployer) (mode : ResourceKind) :
    ∃ state, d.setMode mode = { d with state } ∧ d.state.value.SameAttempt state.value := by
  refine ⟨_, rfl, ?_⟩
  rw [Observed.value_edit]
  split
  · exact ⟨_, _, _, _, rfl, fun _ => ⟨rfl, rfl⟩⟩
  · -- The kind of resource is taken only while idle.
    rename_i hidle
    obtain ⟨isNewService, canDeploy, hderive, -⟩ := derive_eq d { d.state.value with mode }
    refine ⟨_, _, isNewService, canDeploy, hderive, fun hs => ?_⟩
    exact absurd (Or.inl hs) hidle

private theorem chooseService_eq (d : Deployer) (outcome : Option (Except ValidationError Validation)) :
    ∃ inputs state, d.chooseService outcome = { d with inputs, state } ∧
      d.state.value.SameAttempt state.value := by
  refine ⟨_, _, rfl, ?_⟩
  simp only [Observed.modify, Observed.set]
  generalize hd : Deployer.mk _ _ _ _ _ _ _ _ _ _ _ _ _ _ = d'
  generalize hs : DeployState.mk _ _ _ _ _ _ _ _ _ _ _ _ = s
  obtain ⟨isNewService, canDeploy, hderive, hroute⟩ := derive_eq d' s
  rw [hderive, ← hs]
  rw [← hs] at hroute
  exact ⟨_, _, isNewService, canDeploy, rfl, fun hidle => ⟨rfl, hroute hidle⟩⟩

/-- An update for the current attempt that raises nothing. -/
theorem update_quiet (h : d.generation = g) (f : DeployState → DeployState) :
    ∃ state canDeploy, d.update g f none = { d with state } ∧
      state.value = { f d.state.value with canDeploy } := by
  refine ⟨d.state.set { f d.state.value with
    canDeploy := d.inputs.canDeploy (f d.state.value) d.settings }, _, ?_, rfl⟩
  simp [update, h, display]

/-- An update for the current attempt that raises an event which fits. -/
theorem update_raise {e : DeployEvent} {n : DeployStatus} (h : d.generation = g)
    (f : DeployState → DeployState) (hfits : (f d.state.value).status.advance e = .ok n) :
    ∃ state canDeploy,
      d.update g f (some e) =
        { d with state, log := d.log ++ [⟨(f d.state.value).status, e⟩] } ∧
      state.value = { f d.state.value with status := n, canDeploy } := by
  refine ⟨d.state.set { f d.state.value with
    status := n
    canDeploy := d.inputs.canDeploy { f d.state.value with status := n } d.settings }, _, ?_, rfl⟩
  simp [update, h, raise, display, DeployState.advance, hfits]

end Changes

/-! ## The start of an attempt -/

section Opening

variable {m : Moment} {d : Deployer}

/-- An attempt begins from `idle` only. -/
theorem status_eq_idle_of_opening (h : d.opening ≠ .notReady) :
    d.state.value.status = .idle := by
  unfold opening at h
  dsimp only at h
  split at h
  · assumption
  · exact absurd rfl h

theorem turn_deploy (m : Moment) (d : Deployer) : Turn m d .deploy (d.begin m).1 (d.begin m).2 := by
  unfold begin
  dsimp only
  split
  · rename_i hopening
    exact .declined hopening
  · rename_i hopening
    exact .unmanned hopening (status_eq_idle_of_opening (by simp [hopening])) rfl
  · rename_i route reason hopening
    exact .refused hopening (status_eq_idle_of_opening (by simp [hopening])) rfl
  · rename_i route name submission hopening
    -- The status goes to `signing` before the tracker is mirrored, which changes nothing more.
    obtain ⟨state, canDeploy, hupdate, hstate⟩ :=
      update_quiet (d := { d with
          generation := d.generation + 1
          tracker := ⟨d.tracker.generation + 1, { status := .signing }⟩
          state := d.state.set { claim route d.state.value with status := .signing }
          deploys := d.deploys ++
            [.underway
              ⟨d.generation + 1, route,
                .creating name d.state.value.mode (Text.trim d.inputs.form.image) m.wall⟩
              ⟨d.tracker.generation + 1, submission, .signature⟩]
          log := d.log ++ [⟨.idle, .sign⟩] }) (g := d.generation + 1) rfl id
    have hidle := status_eq_idle_of_opening (by simp [hopening] : d.opening ≠ .notReady)
    have hturn := Turn.opened (m := m) (d := d) hopening hidle hstate
    rw [← hupdate] at hturn
    exact hturn

end Opening

/-! ## The vigil -/

section Vigil

variable {m : Moment} {d : Deployer} {e : Event} {v w : Vigil}

/-- A lookout that has just begun has found out nothing. -/
theorem verdict?_start (settings : Settings) (now : Nat) (quarry : Quarry) :
    (Lookout.start settings now quarry).verdict? = none := by
  cases quarry with
  | call id =>
    simp [Lookout.start, Lookout.verdict?, Poller.setTarget, Poller.stopTask, Poller.startTask,
      Observed.modify, Observed.set]
  | request id => simp [Lookout.start, Lookout.verdict?, Watcher.setTarget]

/-- What a lookout finds out to be a failure is a loss. -/
theorem isLoss_of_verdict? {lookout : Lookout} {loss : DeployError}
    (h : lookout.verdict? = some (.error loss)) : loss.IsLoss := by
  cases lookout with
  | operator call poller =>
    simp only [Lookout.verdict?] at h
    split at h
    · split at h
      · simp at h
      · split at h
        · simp only [Option.some.injEq, Except.error.injEq] at h
          simp [← h, DeployError.IsLoss]
        · simp at h
    · simp at h
  | contract watcher => simp [Lookout.verdict?] at h

theorem isLoss_of_expiry? {now : Nat} {loss : DeployError} (h : v.expiry? now = some loss) :
    loss.IsLoss := by
  unfold Vigil.expiry? at h
  split at h
  · split at h
    · simp only [Option.some.injEq] at h
      simp [← h, DeployError.IsLoss]
    · simp at h
  · simp at h

/-- The end of a vigil of the current attempt by a resource. -/
theorem conclude_ok (m : Moment) (hgen : d.generation = w.generation)
    (hs : d.state.value.status = .provisioning) (found : Completion) :
    ∃ state canDeploy,
      d.conclude m w (.ok found) =
        { d with
          vigil := none
          shelf := shelved m d.shelf w.key .running
            ⟨some found.resource, found.endpoint, w.lookout.serviceOf found⟩
          state
          log := d.log ++ [⟨.provisioning, .resolve⟩] } ∧
      state.value =
        { d.state.value with
          provision := d.state.value.provision.or (some found), status := .ready, canDeploy } := by
  obtain ⟨state, canDeploy, hupdate, hstate⟩ := update_raise (e := .resolve) (n := .ready)
    (d := { d with
      vigil := none
      shelf := shelved m d.shelf w.key .running
        ⟨some found.resource, found.endpoint, w.lookout.serviceOf found⟩ })
    hgen (fun s => { s with provision := s.provision.or (some found) }) (by simp [hs]; rfl)
  simp only [hs] at hupdate
  exact ⟨state, canDeploy, hupdate, hstate⟩

/-- The end of a vigil of the current attempt by a failure. -/
theorem conclude_error (m : Moment) (hgen : d.generation = w.generation)
    (hs : d.state.value.status = .provisioning) (loss : DeployError) :
    ∃ state canDeploy,
      d.conclude m w (.error loss) =
        { d with
          vigil := none
          shelf := shelved m d.shelf w.key .failed {}
          state
          log := d.log ++ [⟨.provisioning, .fail⟩] } ∧
      state.value = { d.state.value with error := some loss, status := .failed, canDeploy } := by
  obtain ⟨state, canDeploy, hupdate, hstate⟩ := update_raise (e := .fail) (n := .failed)
    (d := { d with vigil := none, shelf := shelved m d.shelf w.key .failed {} })
    hgen (fun s => { s with error := some loss }) (by simp [hs]; rfl)
  simp only [hs] at hupdate
  exact ⟨state, canDeploy, hupdate, hstate⟩

/-- A vigil of the current attempt ends by its verdict, whatever was shown of it before. -/
private theorem turn_conclude {state : Observed DeployState} {verdict : Except DeployError Completion}
    (hv : d.vigil = some v) (hwatch : d.Watching v) (he : d.attemptOf e = some v.generation)
    (hstate : d.state.value.SameCourse state.value)
    (hreports : v.lookout.polls = false → d.state.value.SameReports state.value)
    (hgen : w.generation = v.generation) (hkey : w.key = v.key)
    (hloss : ∀ loss, verdict = .error loss → loss.IsLoss) :
    Turn m d e (({ d with vigil := some w, state }).conclude m w verdict) [] := by
  obtain ⟨progress, pollError, canDeploy, hstate⟩ := hstate
  have hcurrent : d.generation = w.generation := by rw [hgen, hwatch.attempt]
  have hs : state.value.status = .provisioning := by
    rw [hstate]
    exact hwatch.status
  cases verdict with
  | ok found =>
    obtain ⟨state', canDeploy', hconclude, hstate'⟩ :=
      conclude_ok m (d := { d with vigil := some w, state }) hcurrent hs found
    rw [hconclude, hkey]
    refine .found hv he rfl ⟨progress, pollError, canDeploy', ?_⟩ fun hpolls => ?_
    · rw [hstate', hstate]
    · rw [hstate']
      exact hreports hpolls
  | error loss =>
    obtain ⟨state', canDeploy', hconclude, hstate'⟩ :=
      conclude_error m (d := { d with vigil := some w, state }) hcurrent hs loss
    rw [hconclude, hkey]
    refine .lost hv he (hloss loss rfl) rfl ⟨progress, pollError, canDeploy', ?_⟩ fun hpolls => ?_
    · rw [hstate', hstate]
    · rw [hstate']
      exact hreports hpolls

/-- What is shown of a vigil of the current attempt, before its verdict is taken. -/
theorem mirrored_eq (hgen : d.generation = w.generation) (announced : Bool) :
    ∃ (state : Observed DeployState) (canDeploy : Bool),
      d.mirrored w announced = { d with vigil := some w, state } ∧
      state.value =
        { (if announced then w.lookout.shown d.state.value else d.state.value) with canDeploy } := by
  unfold mirrored
  cases hlookout : w.lookout with
  | contract watcher => exact ⟨d.state, d.state.value.canDeploy, rfl, by simp [Lookout.shown]⟩
  | operator call poller =>
    -- Only a report that the poller has announced is shown.
    cases announced with
    | false => exact ⟨d.state, d.state.value.canDeploy, rfl, rfl⟩
    | true =>
      obtain ⟨state, canDeploy, hupdate, hstate⟩ := update_quiet (d := { d with vigil := some w }) hgen
        fun s => { s with progress := poller.state.value.report, pollError := poller.state.value.error }
      exact ⟨state, canDeploy, hupdate, hstate⟩

/-- A look at the lookout of a vigil is a turn. -/
theorem turn_observe (hv : d.vigil = some v) (hwatch : d.Watching v)
    (he : d.attemptOf e = some v.generation) (hgen : w.generation = v.generation)
    (hkey : w.key = v.key) (hpolls : w.lookout.polls = v.lookout.polls) (announced : Bool) :
    Turn m d e (d.observe m w announced) [] := by
  obtain ⟨state, canDeploy, hmirrored, hshown⟩ :=
    mirrored_eq (hwatch.attempt.symm.trans hgen.symm) announced
  have hstate : d.state.value.SameCourse state.value := by
    rw [hshown]
    cases announced with
    | false => exact ⟨_, _, canDeploy, rfl⟩
    | true => exact w.lookout.sameCourse_shown _ canDeploy
  have hreports : v.lookout.polls = false → d.state.value.SameReports state.value := by
    intro hlogs
    rw [hshown, Lookout.shown_of_not_polls (hpolls.trans hlogs), ite_self]
    exact ⟨rfl, rfl⟩
  rw [observe_eq_mirrored, hmirrored]
  cases hverdict : w.lookout.verdict? with
  | none => exact .looked hv he hgen hkey hverdict hstate (by simp) hpolls hreports
  | some verdict =>
    refine turn_conclude hv hwatch he hstate hreports hgen hkey ?_
    rintro loss rfl
    exact isLoss_of_verdict? hverdict

private theorem turn_stepVigil {generation : Nat} (h : d.Coherent) (hdeploy : e ≠ .deploy)
    (hreset : e ≠ .reset) (hanswer : ∀ i answer, e ≠ .answer i answer)
    (he : d.attemptOf e = some generation) {step : Lookout → Lookout × Bool}
    (hpolls : ∀ lookout, (step lookout).1.polls = lookout.polls) :
    Turn m d e (d.stepVigil m generation step) [] := by
  unfold stepVigil
  split
  · rename_i v hv
    split
    · -- The report is for this vigil; otherwise it is that of an attempt before.
      rename_i hgen
      rw [← hgen] at he
      exact turn_observe (w := { v with lookout := (step v.lookout).1 }) hv (h.vigil hv) he rfl rfl
        (hpolls v.lookout) _
    · exact .ignored hdeploy hreset fun h => absurd h (hanswer _ _)
  · exact .ignored hdeploy hreset fun h => absurd h (hanswer _ _)

theorem polls_stepPoller (f : Poller → Poller) (lookout : Lookout) :
    (stepPoller f lookout).1.polls = lookout.polls := by
  cases lookout <;> rfl

theorem polls_stepWatcher (f : Watcher → Watcher) (lookout : Lookout) :
    (stepWatcher f lookout).1.polls = lookout.polls := by
  cases lookout <;> rfl

theorem turn_wake (m : Moment) (h : d.Coherent) : Turn m d .wake (d.wake m).1 (d.wake m).2 := by
  unfold wake
  cases hv : d.vigil with
  | none => exact .ignored (by simp) (by simp) (by simp)
  | some v =>
    have hwatch := h.vigil hv
    have he : d.attemptOf .wake = some v.generation := by simp [attemptOf, hv]
    dsimp only
    cases hexpiry : v.expiry? m.clock with
    | some loss =>
      -- The deadline has passed, and the lookout is not asked any more.
      have hturn : Turn m d .wake
          (({ d with vigil := some v, state := d.state }).conclude m v (.error loss)) [] := by
        refine turn_conclude hv hwatch he (.refl _) (fun _ => ⟨rfl, rfl⟩) rfl rfl ?_
        rintro _ ⟨⟩
        exact isLoss_of_expiry? hexpiry
      rw [← hv] at hturn
      exact hturn
    | none =>
      -- Neither lookout finds out anything by itself.
      have hopen := hwatch.undecided
      cases hlookout : v.lookout with
      | operator call poller =>
        rw [hlookout] at hopen
        refine .looked hv he rfl rfl ?_ (.refl _) ?_ (by rw [hlookout]; rfl) fun _ => ⟨rfl, rfl⟩
        · simpa [Lookout.verdict?, Poller.tick_state] using hopen
        · intro effect heffect
          obtain ⟨asked, _, rfl⟩ := List.mem_map.mp heffect
          rfl
      | contract watcher =>
        rw [hlookout] at hopen
        refine .looked hv he rfl rfl ?_ (.refl _) ?_ (by rw [hlookout]; rfl) fun _ => ⟨rfl, rfl⟩
        · simpa [Lookout.verdict?, Watcher.wake_result] using hopen
        · intro effect heffect
          obtain ⟨asked, _, rfl⟩ := List.mem_map.mp heffect
          rfl

end Vigil

/-! ## Answers -/

section Answers

variable {m : Moment} {d : Deployer} {a : Attempt} {t : Ticket} {hash : TxHash} {i : Nat}

/-- Putting the record of a confirmed attempt on the shelf. -/
theorem upsert_eq (m : Moment) (d : Deployer) (record : Record) :
    (if m.outage.upsert then d else { d with shelf := d.shelf.upsert record }) =
      { d with shelf := upserted m d.shelf record } := by
  unfold upserted
  split
  · rfl
  · rfl

/-- What is left to do for a confirmed transaction whose receipt gave no number. -/
private theorem confirmed_eq_of_unnumbered (m : Moment) (hcur : d.generation = a.generation)
    (hs : d.state.value.status = .confirmed) (hnumber : d.tracker.snapshot.correlation = none)
    (hash : TxHash) :
    ∃ state canDeploy,
      d.confirmed m a hash =
        { d with
          shelf := shelved m (upserted m d.shelf (confirmedRecord a hash none))
            (confirmedRecord a hash none).key .failed {}
          state
          log := d.log ++ [⟨.confirmed, .fail⟩] } ∧
      state.value =
        { d.state.value with error := some .missingCallId, status := .failed, canDeploy } := by
  obtain ⟨state, canDeploy, hupdate, hstate⟩ := update_raise (e := .fail) (n := .failed)
    (d := { d with
      shelf := shelved m (upserted m d.shelf (confirmedRecord a hash none))
        (confirmedRecord a hash none).key .failed {} })
    hcur (fun s => { s with error := some .missingCallId }) (by simp [hs]; rfl)
  simp only [hs] at hupdate
  refine ⟨state, canDeploy, ?_, hstate⟩
  simp only [confirmed, hnumber, upsert_eq]
  exact hupdate

/-- What is left to do for a confirmed transaction whose receipt gave a number. -/
private theorem confirmed_eq_of_number (m : Moment) (hcur : d.generation = a.generation)
    (hs : d.state.value.status = .confirmed) {number : Word64}
    (hnumber : d.tracker.snapshot.correlation = some number) (hash : TxHash) :
    ∃ state s canDeploy,
      d.confirmed m a hash =
        { d with
          shelf := upserted m d.shelf (confirmedRecord a hash (some number))
          vigil := some (vigilOf m d.settings a hash number)
          state
          log := d.log ++ [⟨.confirmed, .startProvisioning⟩] } ∧
      s = { awaiting (quarryOf a.route number) d.state.value with status := .provisioning } ∧
      state.value =
        { (vigilOf m d.settings a hash number).lookout.shown s with canDeploy } := by
  have hstatus : ∀ quarry, (awaiting quarry d.state.value).status = .confirmed := by
    intro quarry
    cases quarry <;> exact hs
  obtain ⟨state, canDeploy, hupdate, hstate⟩ := update_raise (e := .startProvisioning)
    (n := .provisioning)
    (d := { d with shelf := upserted m d.shelf (confirmedRecord a hash (some number)) })
    hcur (awaiting (quarryOf a.route number)) (by simp [hstatus]; rfl)
  simp only [hstatus] at hupdate
  obtain ⟨state', canDeploy', hmirrored, hstate'⟩ := mirrored_eq
    (d := { d with
      shelf := upserted m d.shelf (confirmedRecord a hash (some number))
      state
      log := d.log ++ [⟨.confirmed, .startProvisioning⟩] })
    (w := vigilOf m d.settings a hash number) hcur true
  have hundecided : (vigilOf m d.settings a hash number).lookout.verdict? = none :=
    verdict?_start _ _ _
  refine ⟨state', _, canDeploy', ?_, rfl, ?_⟩
  · -- The vigil that begins is looked at once.
    simp only [confirmed, hnumber, upsert_eq, hupdate, wait]
    show Deployer.observe m _ (vigilOf m d.settings a hash number) true = _
    rw [observe_eq_mirrored, hundecided, hmirrored]
  · rw [hstate', if_pos rfl, hstate]
    generalize (vigilOf m d.settings a hash number).lookout = lookout
    cases lookout <;> rfl

theorem turn_answered (m : Moment) (h : d.Coherent) (i : Nat) (answer : Answer) :
    Turn m d (.answer i answer) (d.answered m i answer).1 (d.answered m i answer).2 := by
  unfold answered
  split
  · rename_i a t hget
    have hp := Tracker.resumed_resume m d.tracker d.journal t answer
    dsimp only
    generalize d.tracker.resume m d.journal t answer = p at hp
    cases hp with
    | unasked hfits =>
      -- The call is put where it was, and the ticket is not consulted again.
      show Turn m d _ { d with deploys := d.deploys.set i (.underway a t) } (if t = t then [] else _)
      rw [Calls.set_get hget, if_pos rfl]
      refine .ignored (by simp) (by simp) ?_
      rintro _ b u _ ⟨⟩ hget'
      have hu : t = u := by grind
      exact hu ▸ hfits
    | signed hawait =>
      have hnext : { t with awaiting := .broadcast } ≠ t := by
        intro heq
        have := congrArg Ticket.awaiting heq
        simp [hawait] at this
      show Turn m d _
        { d with deploys := d.deploys.set i (.underway a { t with awaiting := .broadcast }) }
        (if { t with awaiting := .broadcast } = t then [] else _)
      rw [if_neg hnext]
      exact .signed hget hawait
    | unseen hlate hfits hsign =>
      -- A submission that is not the current one belongs to an attempt that is not, either.
      have hold := (h.calls hget).resolve_right fun hcur => hlate hcur.ticket.symm
      exact .lapsed hget hold hfits hsign
    | @sent hash hcur hawait =>
      have hengaged := (h.engaged_iff hget).mpr hcur
      have hshows := hengaged.shows
      rw [hawait] at hshows
      obtain ⟨hs, hsnapshot⟩ := hshows
      have hnext : { t with awaiting := .receipt hash } ≠ t := by
        intro heq
        have := congrArg Ticket.awaiting heq
        simp [hawait] at this
      obtain ⟨state, canDeploy, hupdate, hstate⟩ := update_raise (e := .broadcast) (n := .pending)
        (d := { d with
          tracker := d.tracker.showing { d.tracker.snapshot with status := .pending, hash := some hash }
          journal := Tracker.journalAfter m d.journal t (.broadcast (.ok hash)) })
        hengaged.attempt.symm (fun s => { s with txHash := some hash }) (by simp [hs]; rfl)
      simp only [List.foldl_cons, List.foldl_nil, showTx, hupdate, if_neg hnext]
      simp only [hs, hsnapshot]
      exact .sent hget hengaged hawait hstate
    | @failed _ e hcur hfail =>
      have hengaged := (h.engaged_iff hget).mpr hcur
      have hfits : d.state.value.status.advance .fail = .ok .failed := by
        rcases hengaged.status with hs | hs <;> rw [hs] <;> rfl
      obtain ⟨state, canDeploy, hupdate, hstate⟩ := update_raise (e := .fail) (n := .failed)
        (d := { d with
          tracker := d.tracker.showing { d.tracker.snapshot with status := .failed, error := some e }
          journal := Tracker.journalAfter m d.journal t answer })
        hengaged.attempt.symm (fun s => { s with error := some (DeployError.ofTx e) }) hfits
      simp only [List.foldl_cons, List.foldl_nil, showTx, Option.map_some, hupdate]
      exact .fell hget hengaged hfail hstate
    | @confirmed hash r hcur hawait hr =>
      have hengaged := (h.engaged_iff hget).mpr hcur
      have hshows := hengaged.shows
      rw [hawait] at hshows
      obtain ⟨hs, -, hsnapshot⟩ := hshows
      have hcurrent := hengaged.attempt.symm
      generalize hnumber : correlationOf r.logs t.submission.request.contract t.submission.event = number
      obtain ⟨state, canDeploy, hupdate, hstate⟩ := update_raise (e := .confirm) (n := .confirmed)
        (d := { d with
          tracker := d.tracker.showing
            { d.tracker.snapshot with status := .confirmed, correlation := number }
          journal := Tracker.journalAfter m d.journal t (.receipt (.ok r)) })
        hcurrent id (by simp [hs]; rfl)
      simp only [id_eq, hs] at hupdate hstate
      simp only [List.foldl_cons, List.foldl_nil, showTx, hupdate, if_pos hcurrent]
      simp only [hsnapshot]
      -- Two events are raised in one turn: the confirmation, and what follows from the number.
      cases number with
      | none =>
        obtain ⟨state', canDeploy', hconfirmed, hstate'⟩ := confirmed_eq_of_unnumbered m (a := a)
          (d := { d with
            tracker := d.tracker.showing { status := .confirmed, hash := some hash }
            journal := Tracker.journalAfter m d.journal t (.receipt (.ok r))
            state
            deploys := d.deploys.set i (.ended (some hash))
            log := d.log ++ [⟨.pending, .confirm⟩] })
          hcurrent (by simp [hstate]) rfl hash
        simp only [hconfirmed, List.append_assoc, List.cons_append, List.nil_append]
        refine @Turn.unnumbered m d i a t hash r _ canDeploy' state' hget hengaged hawait ?_ hnumber
        rw [hstate', hstate]
      | some number =>
        obtain ⟨state', s, canDeploy', hconfirmed, rfl, hstate'⟩ := confirmed_eq_of_number m (a := a)
          (d := { d with
            tracker := d.tracker.showing
              { status := .confirmed, hash := some hash, correlation := some number }
            journal := Tracker.journalAfter m d.journal t (.receipt (.ok r))
            state
            deploys := d.deploys.set i (.ended (some hash))
            log := d.log ++ [⟨.pending, .confirm⟩] })
          hcurrent (by simp [hstate]) rfl hash
        simp only [hconfirmed, List.append_assoc, List.cons_append, List.nil_append]
        refine @Turn.awaited m d i a t hash r number _ _ _ canDeploy' state' hget hengaged hawait rfl
          rfl ?_ hnumber
        rw [hstate', hstate]
        generalize (vigilOf m d.settings a hash number).lookout = lookout
        cases a.route <;> cases lookout <;> rfl
  · rename_i hnone
    refine .ignored (by simp) (by simp) ?_
    rintro _ b u _ ⟨⟩ hget
    exact absurd hget (hnone b u)

end Answers

/-! ## The step -/

theorem turn_reset (m : Moment) (d : Deployer) : Turn m d .reset d.reset [] := by
  unfold reset
  split
  · rename_i hrest
    exact .atRest hrest.1 hrest.2
  · obtain ⟨isNewService, canDeploy, hderive, -⟩ := derive_eq
      { d with
        generation := d.generation + 1
        tracker := d.tracker.reset
        vigil := none
        log := d.log ++ [⟨.idle, .reset⟩] }
      (d.state.value.clearAttempt.advance .reset)
    exact .discarded hderive

/-- **The step of a deployer**: it is one of the turns. -/
theorem turn_step {d : Deployer} (m : Moment) (h : d.Coherent) (e : Event) :
    Turn m d e (d.step m e).1 (d.step m e).2 := by
  cases e with
  | form form =>
    obtain ⟨state, hrefresh, hstate⟩ := refresh_eq { d with inputs := { d.inputs with form } }
    simp only [step, hrefresh]
    exact .entered (by simp) (by simp) rfl hstate (by simp) rfl
  | account account =>
    obtain ⟨state, hrefresh, hstate⟩ := refresh_eq { d with inputs := { d.inputs with account } }
    simp only [step, hrefresh]
    exact .entered (by simp) (by simp) rfl hstate (by simp) rfl
  | mode mode =>
    obtain ⟨state, hmode, hstate⟩ := setMode_eq d mode
    simp only [step, hmode]
    exact .entered (by simp) (by simp) rfl hstate (by simp) rfl
  | service service =>
    cases service with
    | none =>
      obtain ⟨inputs, state, hchoose, hstate⟩ :=
        chooseService_eq { d with checks := d.checks ++ [none] } none
      simp only [step, hchoose]
      exact .entered (by simp) (by simp) rfl hstate (by simp) rfl
    | some service =>
      simp only [step]
      exact .entered (by simp) (by simp) rfl (.refl _) (by simp [Effect.attempt?]) rfl
  | serviceRead check reads =>
    simp only [step]
    split
    · rename_i c hcheck
      obtain ⟨inputs, state, hchoose, hstate⟩ :=
        chooseService_eq { d with checks := d.checks.set check none }
          (some (Validation.judge c.service c.caller reads))
      simp only [hchoose]
      exact .entered (by simp) (by simp) rfl hstate (by simp) rfl
    · exact .ignored (by simp) (by simp) (by simp)
  | discover =>
    obtain ⟨state, hrefresh, hstate⟩ := refresh_eq { d with
      inputs := { d.inputs with discovering := true }
      discoveries := d.discoveries ++ [none] }
    simp only [step, hrefresh]
    exact .entered (by simp) (by simp) rfl hstate (by simp [Effect.attempt?]) rfl
  | operatorsRead discovery reply =>
    simp only [step]
    split
    · obtain ⟨state, hrefresh, hstate⟩ := refresh_eq { d with
        inputs := { d.inputs with operators := some (Validation.readOr [] reply), discovering := false }
        discoveries := d.discoveries.set discovery (some (Validation.readOr [] reply)) }
      simp only [hrefresh]
      exact .entered (by simp) (by simp) rfl hstate (by simp) rfl
    · exact .ignored (by simp) (by simp) (by simp)
  | deploy => exact turn_deploy m d
  | answer i answer => exact turn_answered m h i answer
  | reset => exact turn_reset m d
  | release =>
    simp only [step]
    exact .entered (by simp) (by simp) rfl (.refl _) (by simp) rfl
  | wake => exact turn_wake m h
  | fetched generation epoch reply =>
    simp only [step]
    exact turn_stepVigil h (by simp) (by simp) (by simp) rfl (polls_stepPoller _)
  | subscribed generation subscription outcome =>
    simp only [step]
    exact turn_stepVigil h (by simp) (by simp) (by simp) rfl (polls_stepWatcher _)
  | batch generation subscription logs =>
    simp only [step]
    exact turn_stepVigil h (by simp) (by simp) (by simp) rfl (polls_stepWatcher _)
  | closed generation subscription =>
    simp only [step]
    exact turn_stepVigil h (by simp) (by simp) (by simp) rfl (polls_stepWatcher _)

end Deployer

end ChainProvision
