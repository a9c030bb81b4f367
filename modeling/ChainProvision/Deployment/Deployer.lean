import ChainProvision.Deployment.State
import ChainProvision.Deployment.Vigil
import ChainProvision.Number.Word
import ChainProvision.Transaction.Tracker

/-!
# The deployer

A deployer takes one deployment at a time from the form to the running resource.  It is a machine: an event
comes in, the deployer moves on, and it may ask for something, whose answer is another event.  Answers may
come in any order and at any time.

Each attempt has a generation.  A reset begins a new one, and what an attempt of an earlier generation
still learns is not shown any more.  The transaction of an attempt is tracked by a tracker, whose
publications are shown in the deployer's state; after the confirmation a vigil waits for the resource.

The vigil of an attempt is a task of its own, of which the deployer holds the handle.  A reset gives the
handle up, and so does the end of the deployer: the task is told to end, and the deployer hears no more of
it.  Until the task is dropped it is a former one of the deployer's crew.

The handle of a deployer may be released while calls are still under way; the deployer lives on until the
last of them has ended, and no longer.

## Main definitions

* `Deployer`, `Deployer.Event`, `Deployer.Effect`: the machine's state, what happens to it, what it asks for;
* `Deployer.begin`: the preconditions of a deployment and what it signs;
* `Deployer.handle`: the step of the machine.
-/

namespace ChainProvision

/-- What a deployment decided before the wallet was asked. -/
structure Attempt where
  generation : Nat
  route : Route
  record : Record
  deriving DecidableEq

/-- A call of `deploy`: under way, or ended with the hash of the confirmed transaction. -/
inductive DeployCall where
  | underway (attempt : Attempt) (ticket : Ticket)
  | ended (result : Option TxHash)
  deriving DecidableEq

/-- A validation of a service that is under way, for the account connected when it began. -/
structure ServiceCheck where
  service : ServiceId
  caller : Option Address
  deriving DecidableEq

/-- A machine that takes one deployment at a time from the form to the running resource. -/
structure Deployer where
  settings : Settings
  encoder : Encoder
  state : Observed DeployState
  inputs : Inputs := {}
  generation : Nat := 0
  tracker : Tracker := {}
  journal : Journal := {}
  shelf : Shelf := .empty
  /-- The vigil whose task the deployer holds the handle of. -/
  vigil : Option Vigil := none
  /-- All calls of `deploy`, in order. -/
  deploys : List DeployCall := []
  /-- All choices of a service, in order; none when one is done. -/
  checks : List (Option ServiceCheck) := []
  /-- All discoveries, in order, with the operators found by those that are done. -/
  discoveries : List (Option (List Address)) := []
  /-- Whether the handle was released. -/
  released : Bool := false
  /-- All events raised, in order, each with the status that it found. -/
  log : List Move := []

namespace Deployer

/-- What happens to a deployer. -/
inductive Event where
  | form (form : Form)
  | account (account : Option Address)
  | mode (mode : ResourceKind)
  /-- An existing service is chosen, or none. -/
  | service (service : Option ServiceId)
  | serviceRead (check : Nat) (reads : ServiceReads)
  | discover
  | operatorsRead (discovery : Nat) (reply : Except ChainError (List Address))
  | deploy
  | answer (call : Nat) (answer : Answer)
  | reset
  /-- The handle is given up. -/
  | release
  /-- Time has passed. -/
  | wake
  | fetched (generation epoch : Nat) (reply : FetchReply)
  | subscribed (generation subscription : Nat) (outcome : Except ChainError Unit)
  | batch (generation subscription : Nat) (logs : List Log)
  | closed (generation subscription : Nat)

/-- What a deployer asks for. -/
inductive Effect where
  /-- The answer that a submission waits for. -/
  | consult (call : Nat) (ticket : Ticket)
  | readService (check : Nat) (service : ServiceId) (caller : Option Address)
  | readOperators (discovery : Nat) (blueprint : BlueprintId)
  | fetch (generation epoch : Nat) (call : CallId)
  | subscribe (generation subscription : Nat) (filter : LogFilter)
  deriving DecidableEq

/-- A deployer before anything was entered. -/
def new (settings : Settings) (encoder : Encoder) (mode : ResourceKind) : Deployer :=
  { settings, encoder, state := ⟨.initial mode, 0⟩ }

/-! ## Changes of the state -/

/-- Raise an event in a state: it is noted in the log, and the state moves on if the event fits. -/
def raise (d : Deployer) (s : DeployState) (e : DeployEvent) : Deployer × DeployState :=
  ({ d with log := d.log ++ [⟨s.status, e⟩] }, s.advance e)

/-- Show a state, with what follows from it for the next deployment.  This is always announced. -/
def display (d : Deployer) (s : DeployState) : Deployer :=
  { d with state := d.state.set { s with canDeploy := d.inputs.canDeploy s d.settings } }

/-- Change the state for an attempt and then raise an event, if the attempt is the current one. -/
def update (d : Deployer) (generation : Nat) (f : DeployState → DeployState)
    (raised : Option DeployEvent) : Deployer :=
  if d.generation = generation then
    let s := f d.state.value
    match raised with
    | some e =>
      let (d, s) := d.raise s e
      d.display s
    | none => d.display s
  else d

/-- The state with what follows from the inputs.  The route moves only while idle. -/
def derive (d : Deployer) (s : DeployState) : DeployState :=
  let s :=
    if s.status = .idle then
      { s with isNewService := (d.inputs.route s.mode d.settings).isNewService }
    else s
  { s with canDeploy := d.inputs.canDeploy s d.settings }

/-- Bring the state in line with the inputs; this is announced if anything changes. -/
def refresh (d : Deployer) : Deployer :=
  { d with
    state := d.state.edit fun s =>
      let next := d.derive s
      (next, next.isNewService != s.isNewService || next.canDeploy != s.canDeploy) }

/-! ## Inputs -/

/-- Switch between sandbox and instance, which only an idle deployer does. -/
def setMode (d : Deployer) (mode : ResourceKind) : Deployer :=
  { d with
    state := d.state.edit fun s =>
      if s.status ≠ .idle ∨ s.mode = mode then (s, false)
      else (d.derive { s with mode }, true) }

/-- Take the outcome of a choice of a service: none chosen, or one that was validated. -/
def chooseService (d : Deployer) (outcome : Option (Except ValidationError Validation)) : Deployer :=
  let (service, serviceError) : Option Validation × Option ValidationError :=
    match outcome with
    | some (.ok validation) => (some validation, none)
    | some (.error e) => (none, some e)
    | none => (none, none)
  let d := { d with inputs := { d.inputs with service } }
  { d with state := d.state.modify fun s => d.derive { s with serviceError } }

/-! ## The start of an attempt -/

/-- Why no attempt starts, or what the wallet is to sign for one. -/
inductive Opening where
  /-- Something is missing; the state stays as it is. -/
  | notReady
  | noOperators
  | refused (route : Route) (reason : String)
  | open (route : Route) (name : Name) (submission : Submission)

/-- The job that a kind of resource is made by. -/
def jobOf (settings : Settings) : ResourceKind → Word8
  | .sandbox => settings.sandboxJob
  | .dedicated => settings.instanceJob

/-- What the current inputs lead to. -/
def opening (d : Deployer) : Opening :=
  let s := d.state.value
  let settings := d.settings
  match s.status, d.inputs.account, d.inputs.form.resourceName with
  | .idle, some account, .ok name =>
    if !d.inputs.form.isComplete then .notReady
    else
      let route := d.inputs.route s.mode settings
      let sign (request : TxRequest) (event : String) : Opening :=
        .open route name (.of request event)
      let payload := d.encoder.encode (d.inputs.form.arguments name)
      match route with
      | .job service =>
        match payload with
        | .ok arguments =>
          sign (.submitJob settings.contract service (jobOf settings s.mode) arguments settings.jobValue)
            settings.events.jobSubmitted
        | .error reason => .refused route reason
      | .newService =>
        if d.inputs.discovering then .notReady
        else
          match d.inputs.operators.bind Operators.ofList? with
          | none => .noOperators
          | some operators =>
            match payload with
            | .ok arguments =>
              sign (.requestService settings.contract settings.blueprint operators arguments [account]
                settings.ttlBlocks) settings.events.serviceRequested
            | .error reason => .refused route reason
  | _, _, _ => .notReady

/-- The state at the claim of an attempt by a route. -/
def claim (route : Route) (s : DeployState) : DeployState :=
  { s.clearAttempt with isNewService := route.isNewService, canDeploy := false }

/-- Show what a submission has published, for the attempt it belongs to. -/
def showTx (d : Deployer) (generation : Nat) (snapshot : TxSnapshot) : Deployer :=
  match snapshot.status with
  | .idle => d.update generation id none
  | .signing => d.update generation id none
  | .pending => d.update generation (fun s => { s with txHash := snapshot.hash }) (some .broadcast)
  | .confirmed => d.update generation id (some .confirm)
  | .failed =>
    d.update generation (fun s => { s with error := snapshot.error.map DeployError.ofTx }) (some .fail)

/-- Start an attempt if the inputs allow it. -/
def begin (m : Moment) (d : Deployer) : Deployer × List Effect :=
  let s := d.state.value
  let endedAt (d : Deployer) : Deployer := { d with deploys := d.deploys ++ [.ended none] }
  match d.opening with
  | .notReady => (endedAt d, [])
  | .noOperators =>
    (endedAt { d with state := d.state.set { s with error := some .noOperators, canDeploy := false } },
      [])
  | .refused route reason =>
    let (d, failed) := d.raise { claim route s with error := some (.encode (Encoder.refusal reason)) } .fail
    (endedAt { d with generation := d.generation + 1, state := d.state.set failed }, [])
  | .open route name submission =>
    let generation := d.generation + 1
    let record := Record.creating name s.mode (Text.trim d.inputs.form.image) m.wall
    let (tracker, ticket) := d.tracker.submit submission
    let (d, signing) := d.raise (claim route s) .sign
    let claimed := { d with
      generation
      tracker
      state := d.state.set signing
      deploys := d.deploys ++ [DeployCall.underway ⟨generation, route, record⟩ ticket] }
    (claimed.showTx generation tracker.snapshot, [.consult d.deploys.length ticket])

/-! ## The wait for the resource -/

/-- The shelf with a record's status changed, unless the call fails. -/
def shelved (m : Moment) (shelf : Shelf) (key : String) (status : ResourceStatus) (patch : Patch) :
    Shelf :=
  if m.outage.update then shelf
  else
    match shelf.updateStatus key status patch m.wall with
    | .ok shelf => shelf
    | .error _ => shelf

/-- End a vigil by a verdict: the record and the state get their final values. -/
def conclude (m : Moment) (d : Deployer) (v : Vigil) (verdict : Except DeployError Completion) :
    Deployer :=
  let d := { d with vigil := none }
  match verdict with
  | .ok found =>
    let patch : Patch := ⟨some found.resource, found.endpoint, v.lookout.serviceOf found⟩
    { d with shelf := shelved m d.shelf v.key .running patch }.update v.generation
      (fun s => { s with provision := s.provision.or (some found) }) (some .resolve)
  | .error e =>
    { d with shelf := shelved m d.shelf v.key .failed {} }.update v.generation
      (fun s => { s with error := some e }) (some .fail)

/-- Show what a vigil's lookout has learned, and end the vigil if it has a verdict.  The state of a poller
    is shown whenever it was announced. -/
def observe (m : Moment) (d : Deployer) (v : Vigil) (announced : Bool) : Deployer :=
  let d := { d with vigil := some v }
  let d :=
    match v.lookout with
    | .operator _ poller =>
      if announced then
        d.update v.generation
          (fun s => { s with progress := poller.state.value.report, pollError := poller.state.value.error })
          none
      else d
    | .contract _ => d
  match v.lookout.verdict? with
  | some verdict => d.conclude m v verdict
  | none => d

/-- Begin to wait for the resource of an attempt. -/
def wait (m : Moment) (d : Deployer) (generation : Nat) (key : String) (quarry : Quarry) : Deployer :=
  d.observe m
    { generation
      key
      since := m.clock
      limit := d.settings.provisionTimeout
      lookout := .start d.settings m.clock quarry }
    true

/-! ## The confirmation of a transaction -/

/-- What an attempt waits for when the receipt gave a number. -/
def quarryOf (route : Route) (number : Word64) : Quarry :=
  match route with
  | .job _ => .call ⟨number⟩
  | .newService => .request ⟨number⟩

/-- The record of an attempt whose transaction is confirmed. -/
def confirmedRecord (attempt : Attempt) (hash : TxHash) (number : Option Word64) : Record :=
  let record := { attempt.record with txHash := some hash }
  match attempt.route with
  | .job service => { record with service := some service, call := number.map Id.mk }
  | .newService => record

/-- The state of an attempt that knows what it waits for. -/
def awaiting (quarry : Quarry) (s : DeployState) : DeployState :=
  match quarry with
  | .call id => { s with call := some id }
  | .request id => { s with request := some id }

/-- Go on with an attempt whose transaction is confirmed: put its record on the shelf, and wait for the
    resource if the receipt gave a number to wait for. -/
def confirmed (m : Moment) (d : Deployer) (attempt : Attempt) (hash : TxHash) : Deployer :=
  let number := d.tracker.snapshot.correlation
  let record := confirmedRecord attempt hash number
  let d := if m.outage.upsert then d else { d with shelf := d.shelf.upsert record }
  match number with
  | none =>
    { d with shelf := shelved m d.shelf record.key .failed {} }.update attempt.generation
      (fun s => { s with error := some .missingCallId }) (some .fail)
  | some number =>
    let quarry := quarryOf attempt.route number
    (d.update attempt.generation (awaiting quarry) (some .startProvisioning)).wait m attempt.generation
      record.key quarry

/-- Go on with a deployment on an answer to its submission. -/
def answered (m : Moment) (d : Deployer) (index : Nat) (a : Answer) : Deployer × List Effect :=
  match d.deploys[index]? with
  | some (.underway attempt ticket) =>
    let p := d.tracker.resume m d.journal ticket a
    let d := { d with tracker := p.tracker, journal := p.journal }
    let d := p.seen.foldl (fun d snapshot => d.showTx attempt.generation snapshot) d
    match p.course with
    | .suspended next =>
      let d := { d with deploys := d.deploys.set index (DeployCall.underway attempt next) }
      (d, if next = ticket then [] else [.consult index next])
    | .ended none => ({ d with deploys := d.deploys.set index (DeployCall.ended none) }, [])
    | .ended (some hash) =>
      if d.generation = attempt.generation then
        ({ d with deploys := d.deploys.set index (DeployCall.ended (some hash)) }.confirmed m attempt hash, [])
      else ({ d with deploys := d.deploys.set index (DeployCall.ended none) }, [])
  | _ => (d, [])

/-! ## Reset and release -/

/-- Discard the current attempt and return to idle.  The task of its vigil is told to end.  An idle
    deployer without an error is left alone. -/
def reset (d : Deployer) : Deployer :=
  if d.state.value.status = .idle ∧ d.state.value.error = none then d
  else
    let d := { d with generation := d.generation + 1, vigil := none, tracker := d.tracker.reset }
    let (d, idle) := d.raise d.state.value.clearAttempt .reset
    { d with state := d.state.set (d.derive idle) }

/-- Whether a call is under way, so that the deployer has to live on. -/
def isBusy (d : Deployer) : Bool :=
  d.deploys.any (fun | .underway _ _ => true | .ended _ => false) ||
    d.checks.any Option.isSome || d.discoveries.any Option.isNone

/-- Whether the deployer is no more. -/
def isGone (d : Deployer) : Bool := d.released && !d.isBusy

/-- End a deployer that nobody holds any more.  The task of its vigil is told to end. -/
def settleRelease (d : Deployer) : Deployer :=
  if d.isGone then { d with generation := d.generation + 1, vigil := none } else d

/-! ## The step -/

/-- Step the vigil of a generation. -/
def stepVigil (m : Moment) (d : Deployer) (generation : Nat) (step : Lookout → Lookout × Bool) :
    Deployer :=
  match d.vigil with
  | some v =>
    if v.generation = generation then
      let (lookout, announced) := step v.lookout
      d.observe m { v with lookout } announced
    else d
  | none => d

/-- Let the vigil go on by itself when it is due. -/
def wake (m : Moment) (d : Deployer) : Deployer × List Effect :=
  match d.vigil with
  | none => (d, [])
  | some v =>
    match v.expiry? m.clock with
    | some e => (d.conclude m v (.error e), [])
    | none =>
      match v.lookout with
      | .operator call poller =>
        let (poller, asked) := poller.tick m.clock
        ({ d with vigil := some { v with lookout := .operator call poller } },
          asked.toList.map fun (epoch, call) => .fetch v.generation epoch call)
      | .contract watcher =>
        let (watcher, asked) := watcher.wake m.clock
        ({ d with vigil := some { v with lookout := .contract watcher } },
          asked.toList.map fun (subscription, filter) => .subscribe v.generation subscription filter)

/-- When the deployer wants to go on by itself. -/
def nextDue (d : Deployer) : Option Nat := d.vigil.bind Vigil.nextDue

/-- A step of a poller, and whether its state was announced; another lookout is left alone. -/
def stepPoller (f : Poller → Poller) : Lookout → Lookout × Bool
  | .operator call poller =>
    let next := f poller
    (.operator call next, next.state.version != poller.state.version)
  | .contract watcher => (.contract watcher, false)

/-- A step of a watcher; another lookout is left alone. -/
def stepWatcher (f : Watcher → Watcher) : Lookout → Lookout × Bool
  | .operator call poller => (.operator call poller, false)
  | .contract watcher => (.contract (f watcher), false)

/-- The deployer after an event, before the end of a released one, and what it asks for. -/
def step (m : Moment) (d : Deployer) : Event → Deployer × List Effect
  | .form form => ({ d with inputs := { d.inputs with form } }.refresh, [])
  | .account account => ({ d with inputs := { d.inputs with account } }.refresh, [])
  | .mode mode => (d.setMode mode, [])
  | .service none => ({ d with checks := d.checks ++ [none] }.chooseService none, [])
  | .service (some service) =>
    let caller := d.inputs.account
    ({ d with checks := d.checks ++ [some ⟨service, caller⟩] },
      [.readService d.checks.length service caller])
  | .serviceRead index reads =>
    match d.checks[index]? with
    | some (some check) =>
      let outcome := Validation.judge check.service check.caller reads
      ({ d with checks := d.checks.set index none }.chooseService (some outcome), [])
    | _ => (d, [])
  | .discover =>
    let asking := { d with
      inputs := { d.inputs with discovering := true }
      discoveries := d.discoveries ++ [none] }
    (asking.refresh, [.readOperators d.discoveries.length d.settings.blueprint])
  | .operatorsRead index reply =>
    match d.discoveries[index]? with
    | some none =>
      let operators := Validation.readOr [] reply
      let found := { d with
        inputs := { d.inputs with operators := some operators, discovering := false }
        discoveries := d.discoveries.set index (some operators) }
      (found.refresh, [])
    | _ => (d, [])
  | .deploy => d.begin m
  | .answer index a => d.answered m index a
  | .reset => (d.reset, [])
  | .release => ({ d with released := true }, [])
  | .wake => d.wake m
  | .fetched generation epoch reply =>
    (d.stepVigil m generation (stepPoller (·.answer epoch reply)), [])
  | .subscribed generation subscription outcome =>
    (d.stepVigil m generation (stepWatcher (·.subscribed subscription outcome m.clock)), [])
  | .batch generation subscription logs =>
    (d.stepVigil m generation (stepWatcher (·.batch subscription logs)), [])
  | .closed generation subscription =>
    (d.stepVigil m generation (stepWatcher (·.closed subscription m.clock)), [])

/-- The deployer after an event and what it asks for.  Nothing happens to a deployer that is no more. -/
def handle (m : Moment) (d : Deployer) (e : Event) : Deployer × List Effect :=
  if d.isGone then (d, [])
  else
    let (next, effects) := d.step m e
    (next.settleRelease, effects)

end Deployer

end ChainProvision
