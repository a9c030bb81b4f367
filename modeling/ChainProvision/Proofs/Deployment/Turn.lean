import ChainProvision.Proofs.Deployment.Coherence
import ChainProvision.Proofs.Records.Shelf
import ChainProvision.Proofs.Transaction.Answer

/-!
# What an event does to a deployer

The step of a coherent deployer is one of eighteen turns.  Each says what becomes of every part of
the deployer, and what it finds when it is taken.

## Main definitions

* `DeployState.SameAttempt`, `DeployState.SameCourse`, `DeployState.SameReports`: what the inputs and
  the reports of the operator leave alone in the state, and the state without new reports;
* `Lookout.shown`: what is shown of a lookout;
* `Deployer.Turn`: everything that an event can lead to.
-/

namespace ChainProvision

/-! ## Parts of the state -/

/-- A state that differs only in what follows from the inputs; the kind of resource and the route
change only while idle. -/
def DeployState.SameAttempt (s s' : DeployState) : Prop :=
  ∃ mode serviceError isNewService canDeploy,
    s' = { s with mode, serviceError, isNewService, canDeploy } ∧
      (s.status ≠ .idle → mode = s.mode ∧ isNewService = s.isNewService)

theorem DeployState.SameAttempt.refl (s : DeployState) : s.SameAttempt s :=
  ⟨_, _, _, _, rfl, fun _ => ⟨rfl, rfl⟩⟩

/-- A state that differs only in what the operator has reported so far. -/
def DeployState.SameCourse (s s' : DeployState) : Prop :=
  ∃ progress pollError canDeploy, s' = { s with progress, pollError, canDeploy }

theorem DeployState.SameCourse.refl (s : DeployState) : s.SameCourse s := ⟨_, _, _, rfl⟩

/-- A state with the same reports of the operator. -/
def DeployState.SameReports (s s' : DeployState) : Prop :=
  s'.progress = s.progress ∧ s'.pollError = s.pollError

namespace Lookout

/-- Whether a lookout asks the operator. -/
def polls : Lookout → Bool
  | .operator _ _ => true
  | .contract _ => false

/-- A state with what a lookout has to show. -/
def shown (lookout : Lookout) (s : DeployState) : DeployState :=
  match lookout with
  | .operator _ poller =>
    { s with progress := poller.state.value.report, pollError := poller.state.value.error }
  | .contract _ => s

theorem sameCourse_shown (lookout : Lookout) (s : DeployState) (canDeploy : Bool) :
    s.SameCourse { lookout.shown s with canDeploy } := by
  cases lookout with
  | operator call poller => exact ⟨_, _, canDeploy, rfl⟩
  | contract watcher => exact ⟨_, _, canDeploy, rfl⟩

/-- A lookout for logs shows nothing. -/
theorem shown_of_not_polls {lookout : Lookout} (h : lookout.polls = false) (s : DeployState) :
    lookout.shown s = s := by
  cases lookout with
  | operator call poller => cases h
  | contract watcher => rfl

end Lookout

/-- A failure by which a vigil ends. -/
def DeployError.IsLoss : DeployError → Prop
  | .provisionFailed _ => True
  | .provisionTimeout _ => True
  | _ => False

namespace Deployer

/-- A deployer that shows what the lookout of a vigil has learned, before it takes the verdict. -/
def mirrored (d : Deployer) (v : Vigil) (announced : Bool) : Deployer :=
  let d := { d with vigil := some v }
  match v.lookout with
  | .operator _ poller =>
    if announced then
      d.update v.generation
        (fun s => { s with progress := poller.state.value.report, pollError := poller.state.value.error })
        none
    else d
  | .contract _ => d

theorem observe_eq_mirrored (m : Moment) (d : Deployer) (v : Vigil) (announced : Bool) :
    d.observe m v announced =
      match v.lookout.verdict? with
      | some verdict => (d.mirrored v announced).conclude m v verdict
      | none => d.mirrored v announced := rfl

/-- The shelf with a record put on it, unless the call fails. -/
def upserted (m : Moment) (shelf : Shelf) (record : Record) : Shelf :=
  if m.outage.upsert then shelf else shelf.upsert record

theorem get?_upserted_of_ne {record : Record} {key : String} (hne : key ≠ record.key) (m : Moment)
    (shelf : Shelf) : (upserted m shelf record).get? key = shelf.get? key := by
  unfold upserted
  split
  · rfl
  · exact Shelf.get?_upsert_of_ne hne shelf

theorem get?_shelved {m : Moment} {shelf : Shelf} {key : String} {record : Record}
    (hget : shelf.get? key = some record) (hworks : m.outage.update = false) (status : ResourceStatus)
    (patch : Patch) :
    (shelved m shelf key status patch).get? key = some (record.apply status patch m.wall) := by
  obtain ⟨shelf', hupdate, -, hthere, -⟩ := Shelf.updateStatus_of_get? hget status patch m.wall
  simp [shelved, hworks, hupdate, hthere]

theorem get?_shelved_of_ne {key key' : String} (hne : key' ≠ key) (m : Moment) (shelf : Shelf)
    (status : ResourceStatus) (patch : Patch) :
    (shelved m shelf key status patch).get? key' = shelf.get? key' := by
  unfold shelved
  split
  · rfl
  · split
    · rename_i shelf' hupdate
      exact Shelf.get?_updateStatus_of_ne hupdate hne
    · rfl

/-- The vigil of a confirmed attempt when it begins. -/
def vigilOf (m : Moment) (settings : Settings) (a : Attempt) (hash : TxHash) (number : Word64) : Vigil :=
  { generation := a.generation
    key := (confirmedRecord a hash (some number)).key
    since := m.clock
    limit := settings.provisionTimeout
    lookout := .start settings m.clock (quarryOf a.route number) }

/-- Whether an event is about the inputs or the handle. -/
def Event.isEntry : Event → Bool
  | .form _ => true
  | .account _ => true
  | .mode _ => true
  | .service _ => true
  | .serviceRead _ _ => true
  | .discover => true
  | .operatorsRead _ _ => true
  | .release => true
  | _ => false

/-! ## Turns -/

/-- What an event can lead to. -/
inductive Turn (m : Moment) (d : Deployer) : Event → Deployer → List Effect → Prop where
  /-- The event comes too late, or to the wrong place. -/
  | ignored {e : Event} :
      e ≠ .deploy → e ≠ .reset →
      (∀ {i : Nat} {a : Attempt} {t : Ticket} {answer : Answer}, e = .answer i answer →
        d.deploys[i]? = some (.underway a t) → t.awaiting.fits answer = false) →
      Turn m d e d []
  /-- An input changes, or the handle is released. -/
  | entered {e : Event} {inputs : Inputs} {checks : List (Option ServiceCheck)}
      {discoveries : List (Option (List Address))} {released : Bool} {state : Observed DeployState}
      {effects : List Effect} :
      e ≠ .deploy → e ≠ .reset → d.attemptOf e = none →
      d.state.value.SameAttempt state.value →
      (∀ effect ∈ effects, effect.attempt? = none) →
      e.isEntry = true →
      Turn m d e { d with inputs, checks, discoveries, released, state } effects
  /-- Something is missing for an attempt. -/
  | declined :
      d.opening = .notReady →
      Turn m d .deploy { d with deploys := d.deploys ++ [.ended none] } []
  /-- Nobody is there to ask for a service. -/
  | unmanned {state : Observed DeployState} :
      d.opening = .noOperators → d.state.value.status = .idle →
      state.value = { d.state.value with error := some .noOperators, canDeploy := false } →
      Turn m d .deploy { d with state, deploys := d.deploys ++ [.ended none] } []
  /-- The arguments cannot be encoded. -/
  | refused {route : Route} {reason : String} {state : Observed DeployState} :
      d.opening = .refused route reason → d.state.value.status = .idle →
      state.value =
        { claim route d.state.value with
          status := .failed, error := some (.encode (Encoder.refusal reason)) } →
      Turn m d .deploy
        { d with
          generation := d.generation + 1
          state
          deploys := d.deploys ++ [.ended none]
          log := d.log ++ [⟨.idle, .fail⟩] } []
  /-- An attempt begins. -/
  | opened {route : Route} {name : Name} {submission : Submission} {canDeploy : Bool}
      {state : Observed DeployState} :
      d.opening = .open route name submission → d.state.value.status = .idle →
      state.value = { claim route d.state.value with status := .signing, canDeploy } →
      Turn m d .deploy
        { d with
          generation := d.generation + 1
          tracker := ⟨d.tracker.generation + 1, { status := .signing }⟩
          state
          deploys := d.deploys ++
            [.underway
              ⟨d.generation + 1, route,
                .creating name d.state.value.mode (Text.trim d.inputs.form.image) m.wall⟩
              ⟨d.tracker.generation + 1, submission, .signature⟩]
          log := d.log ++ [⟨.idle, .sign⟩] }
        [.consult d.deploys.length ⟨d.tracker.generation + 1, submission, .signature⟩]
  /-- The wallet has signed. -/
  | signed {i : Nat} {a : Attempt} {t : Ticket} :
      d.deploys[i]? = some (.underway a t) → t.awaiting = .signature →
      Turn m d (.answer i (.signature (.ok ())))
        { d with deploys := d.deploys.set i (.underway a { t with awaiting := .broadcast }) }
        [.consult i { t with awaiting := .broadcast }]
  /-- A superseded call ends. -/
  | lapsed {i : Nat} {a : Attempt} {t : Ticket} {answer : Answer} {journal : Journal} :
      d.deploys[i]? = some (.underway a t) → d.Superseded a t →
      t.awaiting.fits answer = true →
      (t.awaiting = .signature → ∃ e, answer = .signature (.error e)) →
      Turn m d (.answer i answer) { d with journal, deploys := d.deploys.set i (.ended none) } []
  /-- The transaction is broadcast. -/
  | sent {i : Nat} {a : Attempt} {t : Ticket} {hash : TxHash} {journal : Journal} {canDeploy : Bool}
      {state : Observed DeployState} :
      d.deploys[i]? = some (.underway a t) → d.Engaged a t → t.awaiting = .broadcast →
      state.value = { d.state.value with txHash := some hash, status := .pending, canDeploy } →
      Turn m d (.answer i (.broadcast (.ok hash)))
        { d with
          tracker := d.tracker.showing { status := .pending, hash := some hash }
          journal
          state
          deploys := d.deploys.set i (.underway a { t with awaiting := .receipt hash })
          log := d.log ++ [⟨.signing, .broadcast⟩] }
        [.consult i { t with awaiting := .receipt hash }]
  /-- The transaction fails. -/
  | fell {i : Nat} {a : Attempt} {t : Ticket} {answer : Answer} {e : TxError} {journal : Journal}
      {canDeploy : Bool} {state : Observed DeployState} :
      d.deploys[i]? = some (.underway a t) → d.Engaged a t →
      Tracker.failureOf? t.awaiting answer = some e →
      state.value =
        { d.state.value with error := some (DeployError.ofTx e), status := .failed, canDeploy } →
      Turn m d (.answer i answer)
        { d with
          tracker := d.tracker.showing { d.tracker.snapshot with status := .failed, error := some e }
          journal
          state
          deploys := d.deploys.set i (.ended none)
          log := d.log ++ [⟨d.state.value.status, .fail⟩] } []
  /-- The transaction is confirmed, but the receipt gives no number to wait for. -/
  | unnumbered {i : Nat} {a : Attempt} {t : Ticket} {hash : TxHash} {r : Receipt} {journal : Journal}
      {canDeploy : Bool} {state : Observed DeployState} :
      d.deploys[i]? = some (.underway a t) → d.Engaged a t → t.awaiting = .receipt hash →
      state.value =
        { d.state.value with error := some .missingCallId, status := .failed, canDeploy } →
      correlationOf r.logs t.submission.request.contract t.submission.event = none →
      Turn m d (.answer i (.receipt (.ok r)))
        { d with
          tracker := d.tracker.showing { status := .confirmed, hash := some hash }
          journal
          shelf := shelved m (upserted m d.shelf (confirmedRecord a hash none))
            (confirmedRecord a hash none).key .failed {}
          state
          deploys := d.deploys.set i (.ended (some hash))
          log := d.log ++ [⟨.pending, .confirm⟩, ⟨.confirmed, .fail⟩] } []
  /-- The transaction is confirmed, and the wait for the resource begins. -/
  | awaited {i : Nat} {a : Attempt} {t : Ticket} {hash : TxHash} {r : Receipt} {number : Word64}
      {journal : Journal} {v : Vigil} {s : DeployState} {canDeploy : Bool}
      {state : Observed DeployState} :
      d.deploys[i]? = some (.underway a t) → d.Engaged a t → t.awaiting = .receipt hash →
      v = vigilOf m d.settings a hash number →
      s = { awaiting (quarryOf a.route number) d.state.value with status := .provisioning } →
      state.value = { v.lookout.shown s with canDeploy } →
      correlationOf r.logs t.submission.request.contract t.submission.event = some number →
      Turn m d (.answer i (.receipt (.ok r)))
        { d with
          tracker :=
            d.tracker.showing { status := .confirmed, hash := some hash, correlation := some number }
          journal
          shelf := upserted m d.shelf (confirmedRecord a hash (some number))
          vigil := some v
          state
          deploys := d.deploys.set i (.ended (some hash))
          log := d.log ++ [⟨.pending, .confirm⟩, ⟨.confirmed, .startProvisioning⟩] } []
  /-- The vigil goes on without a verdict. -/
  | looked {e : Event} {v v' : Vigil} {state : Observed DeployState} {effects : List Effect} :
      d.vigil = some v → d.attemptOf e = some v.generation →
      v'.generation = v.generation → v'.key = v.key → v'.lookout.verdict? = none →
      d.state.value.SameCourse state.value →
      (∀ effect ∈ effects, effect.attempt? = some v.generation) →
      v'.lookout.polls = v.lookout.polls →
      (v.lookout.polls = false → d.state.value.SameReports state.value) →
      Turn m d e { d with vigil := some v', state } effects
  /-- The resource is there. -/
  | found {e : Event} {v : Vigil} {found : Completion} {service : Option ServiceId} {s : DeployState}
      {state : Observed DeployState} :
      d.vigil = some v → d.attemptOf e = some v.generation →
      s = { d.state.value with
        provision := d.state.value.provision.or (some found), status := .ready } →
      s.SameCourse state.value →
      (v.lookout.polls = false → d.state.value.SameReports state.value) →
      Turn m d e
        { d with
          vigil := none
          shelf := shelved m d.shelf v.key .running ⟨some found.resource, found.endpoint, service⟩
          state
          log := d.log ++ [⟨.provisioning, .resolve⟩] } []
  /-- The vigil is given up. -/
  | lost {e : Event} {v : Vigil} {loss : DeployError} {s : DeployState} {state : Observed DeployState} :
      d.vigil = some v → d.attemptOf e = some v.generation → loss.IsLoss →
      s = { d.state.value with error := some loss, status := .failed } →
      s.SameCourse state.value →
      (v.lookout.polls = false → d.state.value.SameReports state.value) →
      Turn m d e
        { d with
          vigil := none
          shelf := shelved m d.shelf v.key .failed {}
          state
          log := d.log ++ [⟨.provisioning, .fail⟩] } []
  /-- There is nothing to reset. -/
  | atRest :
      d.state.value.status = .idle → d.state.value.error = none →
      Turn m d .reset d []
  /-- The current attempt is discarded. -/
  | discarded {isNewService canDeploy : Bool} {state : Observed DeployState} :
      state.value = { d.state.value.clearAttempt with isNewService, canDeploy } →
      Turn m d .reset
        { d with
          generation := d.generation + 1
          tracker := ⟨d.tracker.generation + 1, {}⟩
          vigil := none
          state
          log := d.log ++ [⟨.idle, .reset⟩] } []

end Deployer

end ChainProvision
