import ChainProvision.Deployment.Crew
import ChainProvision.Rehearsal.Watching

/-!
# Rehearsing deployments

A deployer against its whole cast: wallet, chain, contract and operator.  For tests only.
-/

namespace ChainProvision.Rehearsal

/-- The event that an item of a deployer's stream is. -/
def streamEvent (generation subscription : Nat) : Cast.StreamItem → Deployer.Event
  | .outcome outcome => .subscribed generation subscription outcome
  | .batch logs => .batch generation subscription logs
  | .closed => .closed generation subscription

/-- A call of the cast by a deployer. -/
def askForDeployer (cast : Cast Deployer.Event) :
    Deployer.Effect → Cast Deployer.Event × List (Nat × Deployer.Event)
  | .consult call ticket =>
    let (cast, answers) := cast.consult ticket (.answer call)
    (cast, atOnce answers)
  | .readService check service caller =>
    let (cast, answers) := cast.readService service caller (.serviceRead check)
    (cast, atOnce answers)
  | .readOperators discovery _ =>
    let (cast, answers) := cast.listOperators (.operatorsRead discovery)
    (cast, atOnce answers)
  | .fetch generation epoch call =>
    let (cast, answer) := cast.fetch call (.fetched generation epoch)
    (cast, [answer])
  | .subscribe generation subscription filter =>
    let (cast, answers) :=
      cast.subscribe generation subscription filter (streamEvent generation subscription)
    (cast, atOnce answers)

/-- How a deployer takes part: whatever it has told to end is dropped at once, since no time passes. -/
def deployerPart : Part Deployer Deployer.Event Deployer.Effect where
  handle m d e :=
    let (crew, effects) := (Crew.of d).prompt m e
    (crew.deployer, effects)
  nextDue := Deployer.nextDue
  wake := .wake
  ask := askForDeployer

/-- What is done with a deployer. -/
inductive DeployerStep where
  | form (form : Form)
  | account (account : Option Address)
  | mode (mode : ResourceKind)
  | service (service : Option ServiceId)
  | discover
  | deploy
  | release (gate : Gate)
  | logs (batch : List Log)
  | close
  | advance (ms : Nat)
  | reset
  | drop

/-- What a deployer shows after a step. -/
structure DeployerScene where
  /-- Whether the mode changed, or the logs were delivered. -/
  result : Option Bool
  /-- None once the handle was given up. -/
  state : Option DeployState
  changed : Bool
  deploys : List DeployCall
  discoveries : List (Option (List Address))
  /-- For every choice of a service whether it is done. -/
  checks : List Bool
  records : List Record
  upserts : Nat
  journal : List Entry
  signatures : Nat
  broadcasts : Nat
  fetches : Nat
  subscriptions : Nat

/-- Whether a deployer listens to a stream. -/
def deployerListens (d : Deployer) (s : Stream) : Bool :=
  match d.vigil with
  | some v =>
    match v.lookout with
    | .contract watcher => v.generation == s.generation && watcher.isListening s.subscription
    | .operator _ _ => false
  | none => false

/-- The performance after a step, and the step's result. -/
def DeployerStep.perform (p : Performance Deployer Deployer.Event) :
    DeployerStep → Performance Deployer Deployer.Event × Option Bool
  | .form entered => (p.act deployerPart (.form entered), none)
  | .account holder => (p.act deployerPart (.account holder), none)
  | .mode kind =>
    let next := p.act deployerPart (.mode kind)
    (next, some (next.machine.state.version != p.machine.state.version))
  | .service chosen => (p.act deployerPart (.service chosen), none)
  | .discover => (p.act deployerPart .discover, none)
  | .deploy => (p.act deployerPart .deploy, none)
  | .release gate => (p.release deployerPart gate, none)
  | .logs batch =>
    match openStream? p.cast (deployerListens p.machine) with
    | some s => (p.act deployerPart (.batch s.generation s.subscription batch), some true)
    | none => (p, some false)
  | .close =>
    match p.cast.stream with
    | some s =>
      if s.isOpen then
        ({ p with cast := p.cast.closeStream }.act deployerPart (.closed s.generation s.subscription),
          none)
      else (p, none)
    | none => (p, none)
  | .advance ms => (p.advance deployerPart ms, none)
  | .reset => (p.act deployerPart .reset, none)
  | .drop => (p.act deployerPart .release, none)

/-- What a deployer shows after a step from `before` to `p`.  Nobody is notified by a deployer that is no
    more. -/
def deployerScene (before p : Performance Deployer Deployer.Event) (result : Option Bool) :
    DeployerScene :=
  let d := p.machine
  { result
    state := if d.released then none else some d.state.value
    changed := !d.isGone && d.state.version != before.machine.state.version
    deploys := d.deploys
    discoveries := d.discoveries
    checks := d.checks.map Option.isNone
    records := d.shelf.sorted
    upserts := d.shelf.upserts
    journal := d.journal.entries
    signatures := p.cast.requests.length
    broadcasts := p.cast.broadcasts
    fetches := p.cast.fetched.length
    subscriptions := p.cast.filters.length }

/-- The scenes of steps, and the performance after them. -/
def rehearseDeployer (p : Performance Deployer Deployer.Event) :
    List DeployerStep → List DeployerScene × Performance Deployer Deployer.Event
  | [] => ([], p)
  | step :: steps =>
    let (next, result) := step.perform p
    let (scenes, last) := rehearseDeployer next steps
    (deployerScene p next result :: scenes, last)

end ChainProvision.Rehearsal
