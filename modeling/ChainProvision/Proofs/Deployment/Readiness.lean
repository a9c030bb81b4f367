import ChainProvision.Proofs.Deployment.Derived
import ChainProvision.Proofs.Deployment.Opening
import ChainProvision.Proofs.Deployment.Origin

/-!
# When a deployment starts

The state tells beforehand whether a call of `deploy` would claim an attempt.  A call that does leaves
`idle` and asks the wallet, unless the arguments cannot be encoded; a call that does not returns at
once and leaves everything as it is, or says that there are no operators.

## Main definitions

- `Deployer.Claimed`: what a call of `deploy` does that claims an attempt.
- `Deployer.Declined`: what a call does that claims none.
- `Deployer.Unmanned`: all that an attempt needs is there but operators.

## Main statements

- `Deployer.claimed_of_starts`, `Deployer.declined_of_not_starts`: which of the two a call does.
- `Deployer.deploy_starts_iff_canDeploy`: the state tells which, in every run.
-/

namespace ChainProvision

namespace Deployer

variable {m : Moment} {d d' : Deployer} {e : Event} {asked : List Effect}

/-! ## Claimed and declined calls -/

/-- All that an attempt needs is there, but there is nobody to ask for the new service. -/
structure Unmanned (d : Deployer) : Prop where
  idle : d.state.value.status = .idle
  account : d.inputs.account.isSome = true
  complete : d.inputs.form.isComplete = true
  route : d.currentRoute = .newService
  quiet : d.inputs.discovering = false
  nobody : d.inputs.hasOperators = false

/-- A call of `deploy` claims an attempt: the deployer leaves `idle`. -/
inductive Claimed (d d' : Deployer) (asked : List Effect) : Prop where
  /-- The wallet is asked to sign. -/
  | signing {name : Name} {arguments : String} {attempt : Attempt} {ticket : Ticket} :
      d.inputs.form.resourceName = .ok name →
      d.encoder.encode (d.inputs.form.arguments name) = .ok arguments →
      d'.state.value.status = .signing →
      d'.deploys = d.deploys ++ [.underway attempt ticket] →
      ticket.awaiting = .signature →
      asked = [.consult d.deploys.length ticket] →
      Claimed d d' asked
  /-- The arguments cannot be encoded, and the attempt has failed. -/
  | unencoded {name : Name} {reason : String} :
      d.inputs.form.resourceName = .ok name →
      d.encoder.encode (d.inputs.form.arguments name) = .error reason →
      d'.state.value.status = .failed →
      d'.deploys = d.deploys ++ [.ended none] →
      asked = [] →
      Claimed d d' asked

/-- A call of `deploy` returns without having claimed an attempt.  Nothing but the call itself is
noted, and the failure if there are no operators. -/
structure Declined (d d' : Deployer) (asked : List Effect) : Prop where
  asks : asked = []
  alone : ¬ d.Unmanned → d' = { d with deploys := d.deploys ++ [.ended none] }
  failure : d.Unmanned → ∃ state : Observed DeployState,
    state.value = { d.state.value with error := some .noOperators } ∧
      d' = { d with state, deploys := d.deploys ++ [.ended none] }

theorem Claimed.left (h : Claimed d d' asked) : d'.state.value.status ≠ .idle := by
  intro hidle
  cases h with
  | signing _ _ hstatus => cases hstatus.symm.trans hidle
  | unencoded _ _ hstatus => cases hstatus.symm.trans hidle

theorem Declined.status_eq (h : Declined d d' asked) : d'.state.value.status = d.state.value.status := by
  by_cases hunmanned : d.Unmanned
  · obtain ⟨state, hstate, rfl⟩ := h.failure hunmanned
    dsimp only
    rw [hstate]
  · rw [h.alone hunmanned]

/-- Either way the call is one more. -/
theorem Claimed.length_deploys (h : Claimed d d' asked) : d'.deploys.length = d.deploys.length + 1 := by
  cases h with
  | signing _ _ _ hdeploys => simp [hdeploys]
  | unencoded _ _ _ hdeploys => simp [hdeploys]

theorem Declined.length_deploys (h : Declined d d' asked) : d'.deploys.length = d.deploys.length + 1 := by
  by_cases hunmanned : d.Unmanned
  · obtain ⟨state, -, rfl⟩ := h.failure hunmanned
    simp
  · simp [h.alone hunmanned]

/-! ## A call of `deploy` -/

/-- An attempt does not start for want of operators just if only they are missing. -/
theorem opening_eq_noOperators_iff : d.opening = .noOperators ↔ d.Unmanned := by
  have hopens := opens_opening d
  constructor
  · intro hopening
    rw [hopening] at hopens
    cases hopens with
    | unmanned hready hroute hquiet hnobody =>
      exact ⟨hready.idle, by simp [hready.account], hready.complete, hroute, hquiet, hnobody⟩
  · intro h
    obtain ⟨account, haccount⟩ := Option.isSome_iff_exists.mp h.account
    obtain ⟨name, hname⟩ := Form.exists_name_of_isComplete h.complete
    have hready : d.Ready account name := ⟨h.idle, haccount, hname, h.complete⟩
    have hshort : ¬ d.Manned := by
      intro hmanned
      simpa [h.nobody] using (hmanned h.route).2
    -- Every other outcome needs something else.
    generalize d.opening = o at hopens
    cases hopens with
    | unready hnone => exact absurd hready (hnone _ _)
    | looking _ _ hflag => simp [h.quiet] at hflag
    | unmanned _ _ _ _ => rfl
    | refused _ hmanned _ => exact absurd hmanned hshort
    | job _ hroute _ => cases h.route.symm.trans hroute
    | fresh _ _ _ hoperators _ =>
      have hsome := Inputs.hasOperators_of_eq hoperators
      simp [h.nobody] at hsome

theorem settleRelease_of_not_isGone (hgone : d.isGone = false) : d.settleRelease = d := by
  simp [settleRelease, hgone]

/-- A call that returns at once does not end the deployer. -/
private theorem isGone_returned (hgone : d.isGone = false) (state : Observed DeployState) :
    isGone { d with state, deploys := d.deploys ++ [.ended none] } = false := by
  simpa [isGone, isBusy] using hgone

/-- **A call that finds the opening it needs** claims an attempt. -/
theorem claimed_of_starts (h : d.Coherent) (hgone : d.isGone = false) (hstarts : d.opening.starts = true)
    (m : Moment) : Claimed d (d.handle m .deploy).1 (d.handle m .deploy).2 := by
  -- The turn that is taken names the opening, and the opening what was checked for it.
  have hopens := opens_opening d
  rcases handled h m .deploy with ⟨hnone, -⟩ | ⟨-, d', effects, hturn, heq⟩
  · simp [hgone] at hnone
  · rw [heq]
    cases hturn with
    | declined hopening => simp [hopening, Opening.starts] at hstarts
    | unmanned hopening => simp [hopening, Opening.starts] at hstarts
    | refused hopening _ hstate =>
      rw [hopening] at hopens
      cases hopens with
      | refused hready _ hencode =>
        exact .unencoded hready.name hencode (by simp [hstate]) (settleRelease_deploys _) rfl
    | opened hopening _ hstate =>
      rw [hopening] at hopens
      -- By either route the same is done, with other submissions.
      cases hopens with
      | job hready _ hencode =>
        exact .signing hready.name hencode (by simp [hstate]) (settleRelease_deploys _) rfl rfl
      | fresh hready _ _ _ hencode =>
        exact .signing hready.name hencode (by simp [hstate]) (settleRelease_deploys _) rfl rfl
    | ignored hdeploy _ _ => exact absurd rfl hdeploy
    | entered hdeploy _ _ _ _ _ => exact absurd rfl hdeploy
    | looked _ hattempt | found _ hattempt | lost _ hattempt => cases hattempt

/-- **A call that does not** declines, if the state has said so. -/
theorem declined_of_not_starts (h : d.Coherent) (hgone : d.isGone = false)
    (hstarts : d.opening.starts = false) (hflag : d.state.value.canDeploy = false) (m : Moment) :
    Declined d (d.handle m .deploy).1 (d.handle m .deploy).2 := by
  rcases handled h m .deploy with ⟨hnone, -⟩ | ⟨-, d', effects, hturn, heq⟩
  · simp [hgone] at hnone
  · rw [heq]
    cases hturn with
    | declined hopening =>
      rw [settleRelease_of_not_isGone (isGone_returned hgone d.state)]
      refine ⟨rfl, fun _ => rfl, fun hunmanned => ?_⟩
      cases hopening.symm.trans (opening_eq_noOperators_iff.mpr hunmanned)
    | unmanned hopening _ hstate =>
      rw [settleRelease_of_not_isGone (isGone_returned hgone _)]
      refine ⟨rfl, fun hnot => absurd (opening_eq_noOperators_iff.mp hopening) hnot, fun _ => ⟨_, ?_, rfl⟩⟩
      rw [hstate, ← hflag]
    | refused hopening => simp [hopening, Opening.starts] at hstarts
    | opened hopening => simp [hopening, Opening.starts] at hstarts
    | ignored hdeploy _ _ => exact absurd rfl hdeploy
    | entered hdeploy _ _ _ _ _ => exact absurd rfl hdeploy
    | looked _ hattempt | found _ hattempt | lost _ hattempt => cases hattempt

/-! ## Runs -/

/-- Nobody is asked again to sign for a call that was made before. -/
theorem not_asked_to_sign_again {call : Nat} (h : d.Coherent) (hcall : call < d.deploys.length)
    {es : List (Moment × Event)} {ticket : Ticket}
    (hmem : Effect.consult call ticket ∈ ((d.run es).handle m e).2) : ticket.awaiting ≠ .signature := by
  intro hsign
  obtain ⟨-, hlast⟩ := (consulted (h.run es) hmem).2 hsign
  have hle := length_deploys_le_run h es
  omega

/-- **The state tells when a deployment starts**, in every run.  Its flag is that of the inputs and,
while idle, so is its route.  A call of `deploy` leaves `idle` just if the flag is up; then it claims
an attempt, and else it declines.  The wallet is asked at once or never. -/
theorem deploy_starts_iff_canDeploy (settings : Settings) (encoder : Encoder) (mode : ResourceKind)
    (es : List (Moment × Event)) :
    let d := afterAll settings encoder mode es
    d.state.value.canDeploy = d.inputs.canDeploy d.state.value d.settings ∧
    (d.state.value.status = .idle → d.state.value.isNewService = d.currentRoute.isNewService) ∧
    (d.isGone = false → ∀ m : Moment,
      let d' := (d.handle m .deploy).1
      let asked := (d.handle m .deploy).2
      (d.state.value.canDeploy = true ↔
        d.state.value.status = .idle ∧ d'.state.value.status ≠ .idle) ∧
      (d.state.value.canDeploy = true → Claimed d d' asked) ∧
      (d.state.value.canDeploy = false → Declined d d' asked) ∧
      (∀ later m' e ticket, Effect.consult d.deploys.length ticket ∈ ((d'.run later).handle m' e).2 →
        ticket.awaiting ≠ .signature)) := by
  intro d
  have hcoherent : d.Coherent := coherent_afterAll settings encoder mode es
  have hderived : d.Derived := derived_afterAll settings encoder mode es
  refine ⟨hderived.canDeploy, hderived.route, ?_⟩
  intro hgone m d' asked
  -- The flag and the opening come to the same.
  have hsame : d.opening.starts = d.state.value.canDeploy :=
    (opening_starts d).trans hderived.canDeploy.symm
  have hclaimed : d.state.value.canDeploy = true → Claimed d d' asked := fun hflag =>
    claimed_of_starts hcoherent hgone (hsame.trans hflag) m
  have hdeclined : d.state.value.canDeploy = false → Declined d d' asked := fun hflag =>
    declined_of_not_starts hcoherent hgone (hsame.trans hflag) hflag m
  refine ⟨?_, hclaimed, hdeclined, ?_⟩
  · constructor
    · intro hflag
      obtain ⟨⟨_, _, hready⟩, -⟩ := canDeploy_iff.mp (hderived.canDeploy.symm.trans hflag)
      exact ⟨hready.idle, (hclaimed hflag).left⟩
    · rintro ⟨hidle, hleft⟩
      by_contra hflag
      have hstatus := (hdeclined (Bool.not_eq_true _ ▸ hflag)).status_eq
      exact hleft (hstatus.trans hidle)
  · intro later m' e ticket hmem
    have hlength : d'.deploys.length = d.deploys.length + 1 := by
      cases hflag : d.state.value.canDeploy with
      | true => exact (hclaimed hflag).length_deploys
      | false => exact (hdeclined hflag).length_deploys
    have hcall : d.deploys.length < d'.deploys.length :=
      Nat.lt_of_lt_of_eq (Nat.lt_succ_self _) hlength.symm
    exact not_asked_to_sign_again (hcoherent.handle m .deploy) hcall hmem

/-- For an instance operators were looked up, and none found. -/
private def nobodyFound : List (Moment × Event) :=
  boxInputs ++ [(⟨2, .epoch, {}⟩, .discover), (⟨3, .epoch, {}⟩, .operatorsRead 0 (.ok []))]

theorem deploy_starts_iff_canDeploy_entered_nobodyFound :
    let d := afterAll .sample .json .sandbox boxInputs
    let d' := afterAll .sample .json .dedicated nobodyFound
    let m : Moment := ⟨4, .epoch, {}⟩
    (d.isGone = false ∧ d.state.value.canDeploy = true ∧
      Claimed d (d.handle m .deploy).1 (d.handle m .deploy).2) ∧
    (d'.isGone = false ∧ d'.state.value.canDeploy = false ∧
      Declined d' (d'.handle m .deploy).1 (d'.handle m .deploy).2) := by
  intro d d' m
  have hthere : d.isGone = false := by decide
  have hthere' : d'.isGone = false := by decide
  have hup : d.state.value.canDeploy = true := by decide
  have hdown : d'.state.value.canDeploy = false := by decide
  have hclaims := (deploy_starts_iff_canDeploy .sample .json .sandbox boxInputs).2.2 hthere m
  have hdeclines := (deploy_starts_iff_canDeploy .sample .json .dedicated nobodyFound).2.2 hthere' m
  exact ⟨⟨hthere, hup, hclaims.2.1 hup⟩, hthere', hdown, hdeclines.2.2.1 hdown⟩

end Deployer

end ChainProvision
