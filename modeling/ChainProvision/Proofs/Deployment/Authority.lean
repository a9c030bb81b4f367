import ChainProvision.Proofs.Deployment.Opening
import ChainProvision.Proofs.Deployment.Origin
import ChainProvision.Proofs.Deployment.Selection
import ChainProvision.Proofs.Service.Verdict

/-!
# What a request rests on

A request goes to the wallet, and then to the chain, as it was made when its attempt began.  It says
what the inputs said then: an existing service is given a job only if the contract has vouched for
it, for the account that was connected, and operators are asked for a new one only if it has not.

## Main definitions

- `Deployer.Vouched`: the validation that returned last found a service usable by an account.
- `Deployer.Enquired`: the contract was asked about a service and an account.
- `Deployer.finds`: the operators found in a run, discovery by discovery.
- `Deployer.Authorised`: a request that rests on what a run has found out.

## Main statements

- `Deployer.currentRoute_eq_job_iff`: an instance reuses a service just if the contract vouched for it.
- `Deployer.operators_eq_last_found`: the operators are those of the discovery that was answered last.
- `Deployer.submitted_request_authorised`: whatever is submitted was authorised when it was begun.
-/

namespace ChainProvision

/-! ## Reads that approve -/

/-- A choice leads to a service that an account can use just if the contract approves. -/
theorem Choice.usable_iff {c : Choice} {service : ServiceId} {account : Address} :
    (∃ v, c.service = some v ∧ v.isUsableBy (some account) = true ∧ v.service = service) ↔
      ∃ reads, c = .validated ⟨service, some account⟩ reads ∧ reads.Approve := by
  cases c with
  | none => simp [Choice.service, Choice.outcome]
  | validated check reads =>
    obtain ⟨asked, caller⟩ := check
    have hservice : ∀ v, (Choice.validated ⟨asked, caller⟩ reads).service = some v ↔
        Validation.judge asked caller reads = .ok v := by
      intro v
      simp only [Choice.service, Choice.outcome]
      split <;> simp_all
    simp only [hservice]
    constructor
    · rintro ⟨v, hjudge, husable, rfl⟩
      obtain ⟨rfl, happrove⟩ := Validation.judge_usable_iff.mp ⟨v, hjudge, husable⟩
      obtain ⟨_, _, _, _, rfl⟩ := Validation.judge_eq_ok_iff.mp hjudge
      exact ⟨reads, rfl, happrove⟩
    · rintro ⟨_, heq, happrove⟩
      cases heq
      obtain ⟨v, hjudge, husable⟩ := Validation.judge_usable_iff.mpr ⟨rfl, happrove⟩
      obtain ⟨_, _, _, _, heq⟩ := Validation.judge_eq_ok_iff.mp hjudge
      exact ⟨v, hjudge, husable, congrArg Validation.service heq⟩

/-- An instance reuses the service that was chosen, if the account that is connected can use it. -/
theorem Inputs.route_dedicated_iff {i : Inputs} {settings : Settings} {service : ServiceId}
    {account : Address} (haccount : i.account = some account) :
    i.route .dedicated settings = .job service ↔
      ∃ v, i.service = some v ∧ v.isUsableBy (some account) = true ∧ v.service = service := by
  unfold route Route.select
  rw [haccount]
  cases i.service with
  | none => simp
  | some v =>
    cases husable : v.isUsableBy (some account) with
    | false => simp [Option.filter, husable]
    | true =>
      have hcan : v.isUsable = true := by
        simp only [Validation.isUsableBy, Bool.and_eq_true] at husable
        exact husable.2
      simp [Option.filter, husable, hcan]

namespace Deployer

variable {m : Moment} {d : Deployer} {e : Event}

/-! ## The operators that were found last -/

/-- The operators that an event brings. -/
def found? (d : Deployer) : Event → Option (List Address)
  | .operatorsRead i reply =>
    match d.discoveries[i]? with
    | some none => some (Validation.readOr [] reply)
    | _ => none
  | _ => none

private theorem found?_of_not_inquires (h : d.inquires e = false) : d.found? e = none := by
  cases e with
  | operatorsRead i reply =>
    simp only [inquires] at h
    simp only [found?]
    split
    · rename_i hget
      simp [hget] at h
    · rfl
  | _ => rfl

private theorem Learns.operators {learned : Findings} (hlearns : Learns d e learned) :
    learned.operators = ((d.found? e).map some).getD d.findings.operators := by
  cases hlearns with
  | nothing hquiet => simp [found?_of_not_inquires hquiet]
  | found hget => simp [found?, hget]
  | dropped | asked | judged | sought => rfl

section Runs

variable (settings : Settings) (encoder : Encoder) (mode : ResourceKind)

/-- The operators found in a run from the start, discovery by discovery, in the order of the answers;
a discovery that failed has found none. -/
def finds (es : List (Moment × Event)) : List (List Address) :=
  (new settings encoder mode).gather found? es

variable {settings encoder mode} {es : List (Moment × Event)}

/-- **The operators are those of the discovery that was answered last.** -/
theorem operators_eq_last_found :
    (afterAll settings encoder mode es).inputs.operators = (finds settings encoder mode es).getLast? := by
  calc (afterAll settings encoder mode es).inputs.operators
      = ((finds settings encoder mode es).getLast?.map some).getD none :=
        last_learned Learns.operators (coherent_new settings encoder mode) es
    _ = (finds settings encoder mode es).getLast? := by
        cases (finds settings encoder mode es).getLast? <;> rfl

/-! ## The service that was vouched for -/

variable (settings encoder mode)

/-- The validation that returned last is that of a service, for an account, and all its reads approve. -/
def Vouched (es : List (Moment × Event)) (call : Nat) (service : ServiceId) (account : Address) : Prop :=
  ∃ reads, (returns settings encoder mode es).getLast? =
    some ⟨call, .validated ⟨service, some account⟩ reads⟩ ∧ reads.Approve

/-- The contract was asked in a run about a service and an account. -/
def Enquired (es : List (Moment × Event)) (call : Nat) (service : ServiceId) (account : Address) : Prop :=
  ∃ before m after, es = before ++ (m, .service (some service)) :: after ∧
    Effect.readService call service (some account) ∈
      ((afterAll settings encoder mode before).handle m (.service (some service))).2

variable {settings encoder mode} {call : Nat} {service : ServiceId} {account : Address}

/-- A validation returns when the contract has answered. -/
theorem checks_of_returned? {check : ServiceCheck} {reads : ServiceReads}
    (h : d.returned? e = some ⟨call, .validated check reads⟩) : d.checks[call]? = some (some check) := by
  cases e with
  | service service => cases service <;> simp [returned?] at h
  | serviceRead i reads =>
    simp only [returned?] at h
    split at h
    · rename_i hget
      simp only [Option.some.injEq, Returned.mk.injEq, Choice.validated.injEq] at h
      obtain ⟨rfl, rfl, -⟩ := h
      exact hget
    · cases h
  | _ => cases h

/-- The contract was asked about a service that it has vouched for. -/
theorem Vouched.enquired (h : Vouched settings encoder mode es call service account) :
    Enquired settings encoder mode es call service account := by
  obtain ⟨reads, hlast, -⟩ := h
  -- The call has returned with an answer, so its validation was under way before.
  obtain ⟨before, m, e, after, rfl, hreturned⟩ := mem_gather (List.mem_of_getLast? hlast)
  obtain ⟨before', m', after', rfl, hasks⟩ := asked_of_check (checks_of_returned? hreturned)
  exact ⟨before', m', after' ++ (m, e) :: after, by simp, hasks.readService m'⟩

/-- **An instance reuses a service** just if the validation that returned last vouches for it, for
the account that is connected. -/
theorem currentRoute_eq_job_iff
    (hmode : (afterAll settings encoder mode es).state.value.mode = .dedicated)
    (haccount : (afterAll settings encoder mode es).inputs.account = some account) :
    (afterAll settings encoder mode es).currentRoute = .job service ↔
      ∃ call, Vouched settings encoder mode es call service account := by
  unfold currentRoute
  rw [hmode, Inputs.route_dedicated_iff haccount]
  -- The service that is selected is that of the call which returned last.
  cases hlast : (returns settings encoder mode es).getLast? with
  | none => simp [Vouched, hlast, service_of_none_returned hlast]
  | some r =>
    obtain ⟨call, choice⟩ := r
    rw [(selects_last_returned hlast).1, Choice.usable_iff]
    constructor
    · rintro ⟨reads, rfl, happrove⟩
      exact ⟨call, reads, hlast, happrove⟩
    · rintro ⟨call', reads, hlast', happrove⟩
      obtain ⟨-, rfl⟩ := Returned.mk.inj (Option.some.inj (hlast.symm.trans hlast'))
      exact ⟨reads, rfl, happrove⟩

/-! ## Requests -/

variable (settings encoder mode)

/-- The arguments of a request are those of the form. -/
def Conveys (es : List (Moment × Event)) (arguments : String) : Prop :=
  ∃ name, (afterAll settings encoder mode es).inputs.form.resourceName = .ok name ∧
    encoder.encode ((afterAll settings encoder mode es).inputs.form.arguments name) = .ok arguments

/-- A request that rests on what a run has led to. -/
inductive Authorised (es : List (Moment × Event)) : TxRequest → Prop where
  /-- A sandbox is made by a job on the shared service. -/
  | sandbox {arguments : String} :
      (afterAll settings encoder mode es).state.value.mode = .sandbox →
      Conveys settings encoder mode es arguments →
      Authorised es
        ⟨settings.contract, .submitJob settings.sandboxService settings.sandboxJob arguments,
          settings.jobValue⟩
  /-- An instance is made by a job on a service that the contract vouches for. -/
  | reuse {arguments : String} {call : Nat} {service : ServiceId} {account : Address} :
      (afterAll settings encoder mode es).state.value.mode = .dedicated →
      (afterAll settings encoder mode es).inputs.account = some account →
      Vouched settings encoder mode es call service account →
      Enquired settings encoder mode es call service account →
      Conveys settings encoder mode es arguments →
      Authorised es
        ⟨settings.contract, .submitJob service settings.instanceJob arguments, settings.jobValue⟩
  /-- Without such a service operators are asked for a new one. -/
  | fresh {arguments : String} {operators : Operators} {account : Address} :
      (afterAll settings encoder mode es).state.value.mode = .dedicated →
      (afterAll settings encoder mode es).inputs.account = some account →
      (∀ call service, ¬ Vouched settings encoder mode es call service account) →
      (finds settings encoder mode es).getLast? = some operators.toList →
      Conveys settings encoder mode es arguments →
      Authorised es
        ⟨settings.contract,
          .requestService settings.blueprint operators arguments [account] settings.ttlBlocks .zero,
          .zero⟩

variable {settings encoder mode} {a : Attempt} {s : Submission}

/-- An attempt begins with a request that the inputs authorise. -/
theorem Begins.authorised (hbegins : Begins m (afterAll settings encoder mode es) call a s) :
    Authorised settings encoder mode es s.request := by
  obtain ⟨name, hopening, -⟩ := hbegins.opening
  have hsettings : (afterAll settings encoder mode es).settings = settings :=
    settings_run (coherent_new settings encoder mode) es
  have hencoder : (afterAll settings encoder mode es).encoder = encoder :=
    encoder_run (coherent_new settings encoder mode) es
  have hopens := opens_opening (afterAll settings encoder mode es)
  rw [hopening] at hopens
  generalize a.route = route at hopens
  cases hopens with
  | @job account _ service arguments hready hroute hencode =>
    rw [hencoder] at hencode
    rw [hsettings]
    have hconveys : Conveys settings encoder mode es arguments := ⟨name, hready.name, hencode⟩
    cases hmode : (afterAll settings encoder mode es).state.value.mode with
    | sandbox =>
      -- A sandbox goes to the shared service whatever was chosen.
      have hshared : Route.job settings.sandboxService = .job service := by
        rw [← hroute, currentRoute, hmode, hsettings]
        rfl
      obtain rfl := Route.job.inj hshared
      exact .sandbox hmode hconveys
    | dedicated =>
      obtain ⟨call, hvouched⟩ := (currentRoute_eq_job_iff hmode hready.account).mp hroute
      exact .reuse hmode hready.account hvouched hvouched.enquired hconveys
  | @fresh account _ operators arguments hready hroute _ hoperators hencode =>
    rw [hencoder] at hencode
    rw [hsettings]
    have hmode : (afterAll settings encoder mode es).state.value.mode = .dedicated := by
      cases hmode : (afterAll settings encoder mode es).state.value.mode with
      | sandbox => simp [currentRoute, hmode, Inputs.route, Route.select] at hroute
      | dedicated => rfl
    refine .fresh hmode hready.account ?_ (operators_eq_last_found.symm.trans hoperators)
      ⟨name, hready.name, hencode⟩
    intro call service hvouched
    have hjob := (currentRoute_eq_job_iff hmode hready.account).mpr ⟨call, hvouched⟩
    cases hroute.symm.trans hjob

end Runs

/-- **Whatever is submitted was authorised when it was begun**: who is consulted about a request, be
it the wallet or the chain, is consulted for a call of `deploy` that the run holds, and the request
rests on what the run had led to when that call began.  The wallet is asked to sign at once. -/
theorem submitted_request_authorised (settings : Settings) (encoder : Encoder) (mode : ResourceKind)
    (es : List (Moment × Event)) (m : Moment) (e : Event) (call : Nat) (ticket : Ticket)
    (hmem : Effect.consult call ticket ∈ ((afterAll settings encoder mode es).handle m e).2) :
    ∃ before m' after, es ++ [(m, e)] = before ++ (m', .deploy) :: after ∧
      (afterAll settings encoder mode before).deploys.length = call ∧
      Authorised settings encoder mode before ticket.submission.request ∧
      (ticket.awaiting = .signature → after = []) := by
  have hcoherent := coherent_afterAll settings encoder mode es
  obtain ⟨⟨a, hget⟩, hsign⟩ := consulted hcoherent hmem
  by_cases hawaiting : ticket.awaiting = .signature
  · -- The call has just begun.
    obtain ⟨rfl, rfl⟩ := hsign hawaiting
    rcases underway_handle hcoherent hget with ⟨u, hold, -⟩ | ⟨-, hbegins⟩
    · exact absurd (Calls.lt_of_get hold) (Nat.lt_irrefl _)
    · exact ⟨es, m, [], rfl, rfl, hbegins.authorised, fun _ => rfl⟩
  · rw [← afterAll_concat settings encoder mode es (m, e)] at hget
    obtain ⟨before, m', after, heq, hbegins⟩ := begun_of_underway hget
    exact ⟨before, m', after, heq, hbegins.place.symm, hbegins.authorised,
      fun h => absurd h hawaiting⟩

/-- Settings with jobs of different numbers. -/
private def jobSettings : Settings :=
  { Settings.sample with instanceJob := .ofNat 7 }

/-- An encoder that gives the name only. -/
private def nameEncoder : Encoder := ⟨fun a => .ok a.name⟩

/-- A service is found usable by the account that is connected. -/
private def vouchedFor : List (Moment × Event) := boxInputs ++ [
  (⟨2, .epoch, {}⟩, .service (some ⟨.ofNat 9⟩)),
  (⟨3, .epoch, {}⟩, .serviceRead 0
    ⟨.ok true, .ok (some ⟨⟨.ofNat 9⟩, ⟨.ofNat 1⟩, .zero, [], .ofNat 0⟩), .ok [], .ok true⟩)]

theorem submitted_request_authorised_vouchedFor :
    let request : TxRequest := .submitJob .zero ⟨.ofNat 9⟩ (.ofNat 7) "box" .zero
    let ticket : Ticket := ⟨1, .of request "JobSubmitted", .signature⟩
    Effect.consult 0 ticket ∈
        ((afterAll jobSettings nameEncoder .dedicated vouchedFor).handle ⟨4, .epoch, {}⟩ .deploy).2 ∧
      Authorised jobSettings nameEncoder .dedicated vouchedFor request := by
  intro request ticket
  have hmem : Effect.consult 0 ticket ∈
      ((afterAll jobSettings nameEncoder .dedicated vouchedFor).handle ⟨4, .epoch, {}⟩ .deploy).2 := by
    decide
  obtain ⟨before, m, after, heq, -, hauthorised, hafter⟩ :=
    submitted_request_authorised jobSettings nameEncoder .dedicated vouchedFor ⟨4, .epoch, {}⟩ .deploy 0
      ticket hmem
  obtain rfl := hafter rfl
  obtain ⟨rfl, -⟩ := List.append_inj' heq rfl
  exact ⟨hmem, hauthorised⟩

end Deployer

end ChainProvision
