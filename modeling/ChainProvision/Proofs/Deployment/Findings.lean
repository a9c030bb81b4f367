import ChainProvision.Proofs.Deployment.Runs

/-!
# What is found out for the inputs

Beside what is typed in, the inputs hold what was found out: the service that was chosen, if it can
be used, and the operators.  Both are asked for, and both may take their time.  An event either has
nothing to do with them, or it asks, or it brings an answer that is taken over as it comes.

## Main definitions

- `Choice`: a choice of a service as it was made.
- `Deployer.Findings`: what was found out, and what is under way for it.
- `Deployer.Learns`: everything that an event can do to them.

## Main statements

- `Deployer.learns_handle`: every event does one of these.
- `Deployer.last_learned`: what was learned last stands.
-/

namespace ChainProvision

/-! ## Choices -/

/-- A choice of a service as it was made: none, or one that was validated by what was read. -/
inductive Choice where
  | none
  | validated (check : ServiceCheck) (reads : ServiceReads)

namespace Choice

/-- What a choice comes to. -/
def outcome : Choice → Option (Except ValidationError Validation)
  | .none => Option.none
  | .validated check reads => some (Validation.judge check.service check.caller reads)

/-- The service that a choice leads to. -/
def service (c : Choice) : Option Validation :=
  match c.outcome with
  | some (.ok validation) => some validation
  | _ => Option.none

/-- The failure that a choice leads to. -/
def error (c : Choice) : Option ValidationError :=
  match c.outcome with
  | some (.error e) => some e
  | _ => Option.none

end Choice

namespace Deployer

variable {m : Moment} {d d' : Deployer} {e : Event} {effects : List Effect}

/-! ## Findings -/

/-- What was found out for the inputs, and what is under way for it. -/
structure Findings where
  service : Option Validation
  serviceError : Option ValidationError
  operators : Option (List Address)
  discovering : Bool
  checks : List (Option ServiceCheck)
  discoveries : List (Option (List Address))

/-- What was found out so far. -/
def findings (d : Deployer) : Findings where
  service := d.inputs.service
  serviceError := d.state.value.serviceError
  operators := d.inputs.operators
  discovering := d.inputs.discovering
  checks := d.checks
  discoveries := d.discoveries

/-- The findings with those of a choice. -/
def Findings.choose (f : Findings) (c : Choice) : Findings :=
  { f with service := c.service, serviceError := c.error }

/-- Whether an event asks for a service or for operators, or answers a call that did. -/
def inquires (d : Deployer) : Event → Bool
  | .service _ => true
  | .serviceRead i _ =>
    match d.checks[i]? with
    | some (some _) => true
    | _ => false
  | .discover => true
  | .operatorsRead i _ =>
    match d.discoveries[i]? with
    | some none => true
    | _ => false
  | _ => false

/-- What an event can do to the findings. -/
inductive Learns (d : Deployer) : Event → Findings → Prop where
  /-- It has nothing to do with them. -/
  | nothing {e : Event} :
      d.inquires e = false →
      Learns d e d.findings
  /-- No service is chosen, and the call returns at once. -/
  | dropped :
      Learns d (.service none) { d.findings.choose .none with checks := d.checks ++ [none] }
  /-- A service is chosen, and has to be validated for the account that is connected. -/
  | asked {service : ServiceId} :
      Learns d (.service (some service))
        { d.findings with checks := d.checks ++ [some ⟨service, d.inputs.account⟩] }
  /-- The contract was read, and the call returns. -/
  | judged {i : Nat} {check : ServiceCheck} {reads : ServiceReads} :
      d.checks[i]? = some (some check) →
      Learns d (.serviceRead i reads)
        { d.findings.choose (.validated check reads) with checks := d.checks.set i none }
  /-- Operators are looked up. -/
  | sought :
      Learns d .discover
        { d.findings with discovering := true, discoveries := d.discoveries ++ [none] }
  /-- Operators were found, or none. -/
  | found {i : Nat} {reply : Except ChainError (List Address)} :
      d.discoveries[i]? = some none →
      Learns d (.operatorsRead i reply)
        { d.findings with
          operators := some (Validation.readOr [] reply)
          discovering := false
          discoveries := d.discoveries.set i (some (Validation.readOr [] reply)) }

/-! ## What the inputs are brought in line by -/

private theorem serviceError_derive (d : Deployer) (s : DeployState) :
    (d.derive s).serviceError = s.serviceError := by
  unfold derive
  split <;> rfl

private theorem findings_refresh (d : Deployer) : d.refresh.findings = d.findings := by
  have herror : d.refresh.state.value.serviceError = d.state.value.serviceError := by
    unfold refresh
    rw [Observed.value_edit]
    exact serviceError_derive _ _
  unfold findings
  rw [herror]
  rfl

private theorem findings_setMode (d : Deployer) (mode : ResourceKind) :
    (d.setMode mode).findings = d.findings := by
  have herror : (d.setMode mode).state.value.serviceError = d.state.value.serviceError := by
    unfold setMode
    rw [Observed.value_edit]
    split
    · rfl
    · exact serviceError_derive _ _
  unfold findings
  rw [herror]
  rfl

private theorem findings_chooseService (d : Deployer) (c : Choice) :
    (d.chooseService c.outcome).findings = d.findings.choose c := by
  unfold findings Findings.choose chooseService Choice.service Choice.error
  cases c.outcome with
  | none => simp [serviceError_derive]
  | some outcome => cases outcome <;> simp [serviceError_derive]

private theorem findings_settleRelease (d : Deployer) : d.settleRelease.findings = d.findings := by
  unfold settleRelease
  split <;> rfl

/-! ## Attempts -/

private theorem serviceError_of_sameCourse {s s' : DeployState} (h : s.SameCourse s') :
    s'.serviceError = s.serviceError := by
  obtain ⟨progress, pollError, canDeploy, rfl⟩ := h
  rfl

/-- An attempt goes on without touching what was found out. -/
private theorem Turn.findings_eq (hturn : Turn m d e d' effects) (hentry : e.isEntry = false) :
    d'.findings = d.findings := by
  -- Only the failure is part of the state, and no turn of an attempt changes it.
  have hsame : ∀ {d' : Deployer}, d'.inputs = d.inputs → d'.checks = d.checks →
      d'.discoveries = d.discoveries →
        d'.state.value.serviceError = d.state.value.serviceError → d'.findings = d.findings := by
    intro d' hinputs hchecks hdiscoveries herror
    simp [findings, hinputs, hchecks, hdiscoveries, herror]
  cases hturn with
  | entered _ _ _ _ _ hin => simp [hentry] at hin
  | ignored | declined | signed | lapsed | atRest => exact hsame rfl rfl rfl rfl
  | unmanned _ _ hstate | refused _ _ hstate | opened _ _ hstate | sent _ _ _ hstate
  | fell _ _ _ hstate | unnumbered _ _ _ hstate | discarded hstate =>
    have herror := congrArg DeployState.serviceError hstate
    exact hsame rfl rfl rfl herror
  | @awaited _ a _ _ _ number _ v s canDeploy _ _ _ _ _ hs hstate =>
    refine hsame rfl rfl rfl ?_
    have hcourse := v.lookout.sameCourse_shown s canDeploy
    rw [← hstate] at hcourse
    rw [serviceError_of_sameCourse hcourse, hs]
    cases a.route <;> rfl
  | looked _ _ _ _ _ hstate => exact hsame rfl rfl rfl (serviceError_of_sameCourse hstate)
  | found _ _ hs hstate | lost _ _ _ hs hstate =>
    refine hsame rfl rfl rfl ?_
    rw [serviceError_of_sameCourse hstate, hs]

/-! ## Every event -/

private theorem learns_step (h : d.Coherent) (m : Moment) (e : Event) :
    Learns d e (d.step m e).1.findings := by
  cases hentry : e.isEntry with
  | false =>
    -- What goes on with an attempt has nothing to do with the findings.
    rw [(turn_step m h e).findings_eq hentry]
    refine .nothing ?_
    cases e with
    | form | account | mode | service | serviceRead | discover | operatorsRead | release => cases hentry
    | _ => rfl
  | true =>
    cases e with
    | form form =>
      show Learns d _ (refresh _).findings
      rw [findings_refresh]
      exact .nothing rfl
    | account account =>
      show Learns d _ (refresh _).findings
      rw [findings_refresh]
      exact .nothing rfl
    | mode mode =>
      show Learns d _ (d.setMode mode).findings
      rw [findings_setMode]
      exact .nothing rfl
    | release => exact .nothing rfl
    | service service =>
      cases service with
      | none =>
        show Learns d _ (chooseService _ (Choice.outcome .none)).findings
        rw [findings_chooseService]
        exact .dropped
      | some service => exact .asked
    | serviceRead i reads =>
      simp only [step]
      split
      · rename_i check hcheck
        show Learns d _ (chooseService _ (Choice.outcome (.validated check reads))).findings
        rw [findings_chooseService]
        exact .judged hcheck
      · rename_i hnone
        refine .nothing ?_
        simp only [inquires]
    | discover =>
      show Learns d _ (refresh _).findings
      rw [findings_refresh]
      exact .sought
    | operatorsRead i reply =>
      simp only [step]
      split
      · rename_i hasked
        rw [findings_refresh]
        exact .found hasked
      · rename_i hnone
        refine .nothing ?_
        simp only [inquires]
    | _ => cases hentry

/-- **What an event does to the findings** of a deployer that is still there. -/
theorem learns_handle (h : d.Coherent) (hgone : d.isGone = false) (m : Moment) (e : Event) :
    Learns d e (d.handle m e).1.findings := by
  simp only [handle, hgone, Bool.false_eq_true, if_false, findings_settleRelease]
  exact learns_step h m e

/-- **What was learned last stands**: if an event that teaches something replaces a part of the
findings, and every other event leaves that part alone, then after a run the part is what was
gathered last. -/
theorem last_learned {α β : Type} {f : Deployer → Event → Option α} {g : Findings → β} {k : α → β}
    (hstep : ∀ {d : Deployer} {e : Event} {learned : Findings}, Learns d e learned →
      g learned = ((f d e).map k).getD (g d.findings))
    (h : d.Coherent) (es : List (Moment × Event)) :
    g (d.run es).findings = ((d.gather f es).getLast?.map k).getD (g d.findings) := by
  refine last_gathered (g := fun d => g d.findings) ?_ h es
  intro d h m e
  unfold amount
  cases hgone : d.isGone with
  | true => simp [isGone_handle hgone]
  | false => exact hstep (learns_handle h hgone m e)

end Deployer

end ChainProvision
