import ChainProvision.Deployment.Deployer

/-!
# What the inputs lead to

Whether an attempt can start is decided twice: by the flag that is shown, and by the checks that are
made when one is to start.  Both are said here once, check by check.

## Main definitions

- `Deployer.Ready`: what an attempt needs by any route.
- `Deployer.Manned`: what it needs beside that to ask for a new service.
- `Deployer.Opens`: what the inputs lead to, with the checks that decide it.

## Main statements

- `Deployer.opens_opening`: the checks as they are made at the start of an attempt.
- `Deployer.canDeploy_iff`: the checks as the flag makes them.
-/

namespace ChainProvision

/-! ## Forms and operators -/

/-- A form that lacks nothing gives a name. -/
theorem Form.exists_name_of_isComplete {f : Form} (h : f.isComplete = true) :
    ∃ name, f.resourceName = .ok name := by
  cases hname : f.resourceName with
  | ok name => exact ⟨name, rfl⟩
  | error e => simp [isComplete, missing, hname] at h

theorem Operators.ofList?_eq_some_iff {l : List Address} {o : Operators} :
    Operators.ofList? l = some o ↔ l = o.toList := by
  obtain ⟨first, others⟩ := o
  cases l with
  | nil => simp [ofList?, toList]
  | cons a rest => simp [ofList?, toList]

/-- There are operators to ask just if some were found. -/
theorem Inputs.hasOperators_iff {i : Inputs} :
    i.hasOperators = true ↔ ∃ o, i.operators.bind Operators.ofList? = some o := by
  unfold hasOperators
  split
  · rename_i first others hsome
    simp [hsome, Operators.ofList?]
  · rename_i hnone
    simp only [Bool.false_eq_true, false_iff, not_exists, Option.bind_eq_some_iff, not_and]
    rintro o l hl ho
    rw [Operators.ofList?_eq_some_iff] at ho
    exact hnone _ _ (hl.trans (congrArg some ho))

theorem Inputs.hasOperators_of_eq {i : Inputs} {o : Operators} (h : i.operators = some o.toList) :
    i.hasOperators = true := by
  simp [hasOperators, h, Operators.toList]

namespace Deployer

variable {d : Deployer}

/-! ## The checks -/

/-- What an attempt needs by any route. -/
structure Ready (d : Deployer) (account : Address) (name : Name) : Prop where
  idle : d.state.value.status = .idle
  account : d.inputs.account = some account
  name : d.inputs.form.resourceName = .ok name
  complete : d.inputs.form.isComplete = true

/-- The route that the inputs lead to. -/
def currentRoute (d : Deployer) : Route := d.inputs.route d.state.value.mode d.settings

/-- There are operators to ask, and none are being looked up, if a new service has to be asked for. -/
def Manned (d : Deployer) : Prop :=
  d.currentRoute = .newService → d.inputs.discovering = false ∧ d.inputs.hasOperators = true

theorem manned_of_job {service : ServiceId} (h : d.currentRoute = .job service) : d.Manned :=
  fun hnew => nomatch h.symm.trans hnew

/-- What the inputs lead to, with the checks that decide it. -/
inductive Opens (d : Deployer) : Opening → Prop where
  /-- Something is missing whatever the route. -/
  | unready :
      (∀ account name, ¬ d.Ready account name) →
      Opens d .notReady
  /-- Operators are being looked up. -/
  | looking {account : Address} {name : Name} :
      d.Ready account name → d.currentRoute = .newService → d.inputs.discovering = true →
      Opens d .notReady
  /-- There are no operators to ask. -/
  | unmanned {account : Address} {name : Name} :
      d.Ready account name → d.currentRoute = .newService → d.inputs.discovering = false →
      d.inputs.hasOperators = false →
      Opens d .noOperators
  /-- The arguments cannot be encoded. -/
  | refused {account : Address} {name : Name} {reason : String} :
      d.Ready account name → d.Manned →
      d.encoder.encode (d.inputs.form.arguments name) = .error reason →
      Opens d (.refused d.currentRoute reason)
  /-- A job for an existing service. -/
  | job {account : Address} {name : Name} {service : ServiceId} {arguments : String} :
      d.Ready account name → d.currentRoute = .job service →
      d.encoder.encode (d.inputs.form.arguments name) = .ok arguments →
      Opens d (.open (.job service) name
        (.of (.submitJob d.settings.contract service (jobOf d.settings d.state.value.mode) arguments
          d.settings.jobValue) d.settings.events.jobSubmitted))
  /-- A request for a new service. -/
  | fresh {account : Address} {name : Name} {operators : Operators} {arguments : String} :
      d.Ready account name → d.currentRoute = .newService → d.inputs.discovering = false →
      d.inputs.operators = some operators.toList →
      d.encoder.encode (d.inputs.form.arguments name) = .ok arguments →
      Opens d (.open .newService name
        (.of (.requestService d.settings.contract d.settings.blueprint operators arguments [account]
          d.settings.ttlBlocks) d.settings.events.serviceRequested))

/-- **The checks at the start of an attempt**, in their order: status, account and name, then the
form, then what a new service needs, then the arguments. -/
theorem opens_opening (d : Deployer) : Opens d d.opening := by
  unfold opening
  dsimp only
  split
  · rename_i account name hidle haccount hname
    cases hcomplete : d.inputs.form.isComplete with
    | false => exact .unready fun _ _ h => by simp [h.complete] at hcomplete
    | true =>
      have hready : d.Ready account name := ⟨hidle, haccount, hname, hcomplete⟩
      simp only [Bool.not_true, Bool.false_eq_true, if_false]
      cases hroute : d.inputs.route d.state.value.mode d.settings with
      | job service =>
        have hmanned : d.Manned := manned_of_job hroute
        cases hencode : d.encoder.encode (d.inputs.form.arguments name) with
        | ok arguments => exact .job hready hroute hencode
        | error reason =>
          have hopens := Opens.refused hready hmanned hencode
          rwa [currentRoute, hroute] at hopens
      | newService =>
        cases hflag : d.inputs.discovering with
        | true => exact .looking hready hroute hflag
        | false =>
          cases hfound : d.inputs.operators.bind Operators.ofList? with
          | none =>
            refine .unmanned hready hroute hflag ?_
            cases hhas : d.inputs.hasOperators with
            | false => rfl
            | true =>
              obtain ⟨o, ho⟩ := Inputs.hasOperators_iff.mp hhas
              simp [hfound] at ho
          | some operators =>
            have hmanned : d.Manned := fun _ => ⟨hflag, Inputs.hasOperators_iff.mpr ⟨_, hfound⟩⟩
            cases hencode : d.encoder.encode (d.inputs.form.arguments name) with
            | ok arguments =>
              obtain ⟨l, hl, hlist⟩ := Option.bind_eq_some_iff.mp hfound
              rw [Operators.ofList?_eq_some_iff.mp hlist] at hl
              exact .fresh hready hroute hflag hl hencode
            | error reason =>
              have hopens := Opens.refused hready hmanned hencode
              rwa [currentRoute, hroute] at hopens
  · rename_i hnone
    exact .unready fun account name h => hnone account name h.idle h.account h.name

/-- **The checks of the flag.**  It is up just if an attempt has what it needs. -/
theorem canDeploy_iff :
    d.inputs.canDeploy d.state.value d.settings = true ↔
      (∃ account name, d.Ready account name) ∧ d.Manned := by
  unfold Inputs.canDeploy
  split
  · -- One of the three checks that come before the route has failed.
    rename_i hfailed
    simp only [Bool.false_eq_true, false_iff, not_and]
    rintro ⟨account, name, hready⟩
    rcases hfailed with h | h | h
    · exact absurd hready.idle h
    · simp [hready.account] at h
    · simp [hready.complete] at h
  · rename_i hpassed
    simp only [ne_eq, not_or, Decidable.not_not, Bool.not_eq_true, Bool.not_eq_false',
      Option.isNone_eq_false_iff] at hpassed
    obtain ⟨hidle, haccount, hcomplete⟩ := hpassed
    obtain ⟨account, haccount⟩ := Option.isSome_iff_exists.mp haccount
    obtain ⟨name, hname⟩ := Form.exists_name_of_isComplete hcomplete
    have hready : ∃ account name, d.Ready account name :=
      ⟨account, name, hidle, haccount, hname, hcomplete⟩
    unfold Manned currentRoute
    cases hroute : d.inputs.route d.state.value.mode d.settings with
    | job service => simp [hready]
    | newService => simp [hready]

/-! ## What follows from an outcome -/

/-- Whether an attempt starts, if only to fail at its arguments. -/
def Opening.starts : Opening → Bool
  | .notReady => false
  | .noOperators => false
  | .refused _ _ => true
  | .open _ _ _ => true

/-- **Both decisions agree**: an attempt starts just if the flag is up. -/
theorem opening_starts (d : Deployer) :
    d.opening.starts = d.inputs.canDeploy d.state.value d.settings := by
  rw [Bool.eq_iff_iff, canDeploy_iff]
  have hopens := opens_opening d
  generalize d.opening = o at hopens
  cases hopens with
  | unready hnone => exact iff_of_false nofun fun ⟨⟨_, _, h⟩, _⟩ => hnone _ _ h
  | looking _ hroute hflag => exact iff_of_false nofun fun h => by simp [(h.2 hroute).1] at hflag
  | unmanned _ hroute _ hnone => exact iff_of_false nofun fun h => by simp [(h.2 hroute).2] at hnone
  | refused hready hmanned _ => exact iff_of_true rfl ⟨⟨_, _, hready⟩, hmanned⟩
  | job hready hroute _ => exact iff_of_true rfl ⟨⟨_, _, hready⟩, manned_of_job hroute⟩
  | fresh hready _ hflag hoperators _ =>
    exact iff_of_true rfl ⟨⟨_, _, hready⟩, fun _ => ⟨hflag, Inputs.hasOperators_of_eq hoperators⟩⟩

end Deployer

end ChainProvision
