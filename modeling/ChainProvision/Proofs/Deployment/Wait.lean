import ChainProvision.Proofs.Deployment.Relay
import ChainProvision.Proofs.Deployment.Stages
import ChainProvision.Proofs.Records.Shelf

/-!
# The wait of an attempt for its resource

From its confirmation on an attempt waits for what its lookout finds out.  The wait is followed
through everything that may happen to a deployer that looks late: what the lookout has learned is a
matter between it and those it asks; the deployer shows what the lookout had learned at the last
look, and whatever is decided is taken over unchanged by the next one.

## Main definitions

* `Lookout.Reflected`, `Lookout.Recorded`: the state, and the record, say what a lookout has learned;
* `Ledger`: what is kept of all that happens to an attempt;
* `Tally`: an account of a lookout that everything in a wait keeps to;
* `Relay.Wait`: where a wait stands;
* `Relay.Confirms`, `Relay.Undisturbed`: how a wait begins, and what may happen in it.

## Main statements

- `Relay.Wait.run`: a wait goes on like this whatever happens, save a reset and the deadline.
- `Relay.Wait.silent`: once the lookout has decided nobody is asked any more.
- `Relay.wait_afterAll`: every receipt that gives a number begins a wait.
-/

namespace ChainProvision

open Deployer

/-! ## What a lookout has learned -/

namespace Lookout

/-- The state shows what a lookout has learned. -/
def Reflected (lookout : Lookout) (s : DeployState) : Prop :=
  lookout.shown s = s ∧
    match lookout.verdict? with
    | none => s.status = .provisioning ∧ s.provision = none
    | some (.ok found) => s.status = .ready ∧ s.provision = some found
    | some (.error e) => s.status = .failed ∧ s.error = some e

/-- The shelf has the record of an attempt, patched by what a lookout has learned. -/
def Recorded (lookout : Lookout) (record : Record) (shelf : Shelf) : Prop :=
  ∃ r, shelf.get? record.key = some r ∧
    match lookout.verdict? with
    | none => r = record
    | some (.ok found) =>
      ∃ now, r = record.apply .running ⟨some found.resource, found.endpoint, lookout.serviceOf found⟩ now
    | some (.error _) => ∃ now, r = record.apply .failed {} now

variable {lookout : Lookout} {s s' : DeployState}

private theorem shown_with (lookout : Lookout) (s : DeployState) (mode : ResourceKind)
    (serviceError : Option ValidationError) (isNewService canDeploy : Bool) :
    lookout.shown { s with mode, serviceError, isNewService, canDeploy } =
      { lookout.shown s with mode, serviceError, isNewService, canDeploy } := by
  cases lookout <;> rfl

private theorem shown_shown (lookout : Lookout) (s : DeployState) (status : DeployStatus)
    (provision : Option Completion) (error : Option DeployError) (canDeploy : Bool) :
    lookout.shown { lookout.shown s with status, provision, error, canDeploy } =
      { lookout.shown s with status, provision, error, canDeploy } := by
  cases lookout <;> rfl

theorem shown_status (lookout : Lookout) (s : DeployState) : (lookout.shown s).status = s.status := by
  cases lookout <;> rfl

theorem shown_provision (lookout : Lookout) (s : DeployState) :
    (lookout.shown s).provision = s.provision := by
  cases lookout <;> rfl

/-! The three states in which a look may leave a deployer: without a verdict, with the resource, and
without hope of it. -/

theorem reflected_of_open (hopen : lookout.verdict? = none) (hs : s.status = .provisioning)
    (hprovision : s.provision = none) (canDeploy : Bool) :
    lookout.Reflected { lookout.shown s with canDeploy } := by
  refine ⟨lookout.shown_shown s _ _ _ canDeploy, ?_⟩
  rw [hopen]
  exact ⟨(lookout.shown_status s).trans hs, (lookout.shown_provision s).trans hprovision⟩

theorem reflected_of_found {found : Completion} (hfound : lookout.verdict? = some (.ok found))
    (hprovision : s.provision = none) (canDeploy : Bool) :
    lookout.Reflected
      { lookout.shown s with
        provision := (lookout.shown s).provision.or (some found), status := .ready, canDeploy } := by
  refine ⟨lookout.shown_shown s .ready _ _ canDeploy, ?_⟩
  rw [hfound]
  refine ⟨rfl, ?_⟩
  -- What was provided first would stay, but nothing was.
  show (lookout.shown s).provision.or (some found) = some found
  rw [lookout.shown_provision, hprovision, Option.none_or]

theorem reflected_of_loss {loss : DeployError} (hloss : lookout.verdict? = some (.error loss))
    (s : DeployState) (canDeploy : Bool) :
    lookout.Reflected { lookout.shown s with error := some loss, status := .failed, canDeploy } := by
  refine ⟨lookout.shown_shown s .failed _ _ canDeploy, ?_⟩
  rw [hloss]
  exact ⟨rfl, rfl⟩

theorem Reflected.sameAttempt (h : lookout.Reflected s) (hsame : s.SameAttempt s') :
    lookout.Reflected s' := by
  obtain ⟨mode, serviceError, isNewService, canDeploy, rfl, -⟩ := hsame
  obtain ⟨hshown, hverdict⟩ := h
  exact ⟨by rw [shown_with, hshown], hverdict⟩

/-- A lookout that has decided has ended the attempt. -/
theorem Reflected.isTerminal (h : lookout.Reflected s) (hdecided : lookout.verdict?.isSome = true) :
    s.status.isTerminal = true := by
  have hverdict := h.2
  split at hverdict
  · rename_i hopen
    simp [hopen] at hdecided
  · rw [hverdict.1]
    rfl
  · rw [hverdict.1]
    rfl

end Lookout

/-! ## Ledgers -/

/-- What is kept of all that happens to an attempt: of the events, and of what is asked for. -/
structure Ledger (α : Type) where
  start : α
  heard : α → Event → α
  sent : α → Effect → α
  /-- What is asked for beside the attempts is not kept. -/
  sent_of_silent : ∀ x effect, effect.attempt? = none → sent x effect = x

namespace Ledger

variable {α β : Type} (l : Ledger α)

/-- One more entry: an event, and then what was asked for on it. -/
def after (x : α) (entry : Event × List Effect) : α := entry.2.foldl l.sent (l.heard x entry.1)

/-- What is kept of a trace. -/
def of (trace : List (Event × List Effect)) : α := trace.foldl l.after l.start

theorem of_concat (trace : List (Event × List Effect)) (entry : Event × List Effect) :
    l.of (trace ++ [entry]) = l.after (l.of trace) entry := by
  simp [of]

theorem after_of_silent {effects : List Effect} (h : ∀ effect ∈ effects, effect.attempt? = none)
    (x : α) (e : Event) : l.after x (e, effects) = l.heard x e := by
  have hsent : ∀ y : α, effects.foldl l.sent y = y := by
    induction effects with
    | nil => exact fun y => rfl
    | cons effect effects ih =>
      obtain ⟨heffect, heffects⟩ := List.forall_mem_cons.mp h
      intro y
      rw [List.foldl_cons, l.sent_of_silent y effect heffect]
      exact ih heffects y
  exact hsent _

/-- A list that no entry shortens only grows. -/
theorem of_mono {f : α → List β} (hheard : ∀ x e, f x <+: f (l.heard x e))
    (hsent : ∀ x effect, f x <+: f (l.sent x effect)) {trace more : List (Event × List Effect)}
    (h : trace <+: more) : f (l.of trace) <+: f (l.of more) := by
  have hfold : ∀ (effects : List Effect) (x : α), f x <+: f (effects.foldl l.sent x) := by
    intro effects
    induction effects with
    | nil => exact fun x => List.prefix_refl _
    | cons effect effects ih => exact fun x => (hsent x effect).trans (ih _)
  have hafter : ∀ (rest : List (Event × List Effect)) (x : α), f x <+: f (rest.foldl l.after x) := by
    intro rest
    induction rest with
    | nil => exact fun x => List.prefix_refl _
    | cons entry rest ih =>
      exact fun x => ((hheard x entry.1).trans (hfold entry.2 _)).trans (ih _)
  obtain ⟨rest, rfl⟩ := h
  unfold of
  rw [List.foldl_append]
  exact hafter rest _

end Ledger

/-! ## Accounts of a lookout -/

/-- An account of a lookout by what has happened to an attempt: whatever may happen in a wait keeps
to it, and a lookout that has decided asks for nothing more. -/
structure Tally (generation : Nat) (Q : Lookout → List (Event × List Effect) → Prop) : Prop where
  wake : ∀ {m lookout trace}, Q lookout trace →
    Q (lookout.wake m generation).1 (trace ++ [(.wake, (lookout.wake m generation).2)])
  told : ∀ {m e lookout trace}, e.told? = some generation → Q lookout trace →
    Q (e.tell m lookout) (trace ++ [(e, [])])
  beside : ∀ {e effects lookout trace}, e.told? ≠ some generation →
    (∀ effect ∈ effects, effect.attempt? = none) → Q lookout trace → Q lookout (trace ++ [(e, effects)])
  after : ∀ {e effects lookout trace}, lookout.verdict?.isSome = true →
    (∀ effect ∈ effects, effect.attempt? = none) → Q lookout trace → Q lookout (trace ++ [(e, effects)])
  spent : ∀ {m lookout trace}, lookout.verdict?.isSome = true → Q lookout trace →
    (lookout.wake m generation).2 = []

namespace Relay

/-- The terms of a wait: its attempt, the time at which it is given up, the record as the wait
begins, and whether the calls of the shelf succeed. -/
structure Terms where
  generation : Nat
  deadline : Option Nat
  record : Record
  works : Prop

variable {Q : Lookout → List (Event × List Effect) → Prop} {terms : Terms} {m : Moment} {r : Relay}
  {e : Event}

/-- Where a wait stands. -/
inductive Phase (Q : Lookout → List (Event × List Effect) → Prop) (terms : Terms) (r : Relay) :
    Prop where
  /-- The vigil is kept, and its lookout may have gone on. -/
  | waiting {v : Vigil} {next : Lookout} :
      r.deployer.isGone = false → r.deployer.vigil = some v →
      r.ahead = some { v with lookout := next } → v.generation = terms.generation →
      v.key = terms.record.key → v.deadline = terms.deadline → v.lookout.Leads next →
      Q v.lookout r.seen → Q next r.trace →
      v.lookout.Reflected r.deployer.state.value →
      (terms.works → v.lookout.Recorded terms.record r.deployer.shelf) →
      Phase Q terms r
  /-- The verdict was taken. -/
  | ended {lookout : Lookout} :
      r.ahead = none → lookout.verdict?.isSome = true →
      Q lookout r.seen → Q lookout r.trace →
      lookout.Reflected r.deployer.state.value →
      (terms.works → lookout.Recorded terms.record r.deployer.shelf) →
      Phase Q terms r
  /-- The deployer has ended before the verdict. -/
  | gone {lookout next : Lookout} :
      r.deployer.isGone = true → Q lookout r.seen → Q next r.trace →
      lookout.Reflected r.deployer.state.value →
      (terms.works → lookout.Recorded terms.record r.deployer.shelf) →
      Phase Q terms r

theorem expiry?_eq_none {v : Vigil} {now : Nat} (h : ∀ time, v.deadline = some time → now < time) :
    v.expiry? now = none := by
  unfold Vigil.expiry?
  split
  · rename_i limit hlimit
    have hnow := h (v.since + limit.timerMillis) (by simp [Vigil.deadline, hlimit])
    rw [if_neg (Nat.not_le_of_lt hnow)]
  · rfl

private theorem recorded_beside {d d' : Deployer} {effects : List Effect} {lookout : Lookout}
    (h : Beside d d' effects) (hrecorded : terms.works → lookout.Recorded terms.record d.shelf) :
    terms.works → lookout.Recorded terms.record d'.shelf := by
  rw [h.shelf]
  exact hrecorded

/-- **An event in a wait**: the lookout learns of it, or the wait stays where it stands. -/
theorem Phase.take (hphase : Phase Q terms r) (hQ : Tally terms.generation Q)
    (h : r.deployer.Coherent) (m : Moment) (hreset : e ≠ .reset)
    (hintime : e = .wake → ∀ time, terms.deadline = some time →
      m.clock < time ∨ r.deployer.vigil = none) : Phase Q terms (r.take m e).1 := by
  cases hphase with
  | @waiting v next hgone hv hahead hgen hkey hdeadline hleads hseen htrace hreflected hrecorded =>
    cases hreact : ({ v with lookout := next } : Vigil).react? m e with
    | some taken =>
      -- The task of the vigil takes the event, and the deployer is none the wiser.
      obtain ⟨w, effects⟩ := taken
      have htake : (r.take m e).1 = { r with ahead := some w, trace := r.trace ++ [(e, effects)] } := by
        simp [Relay.take, hgone, hahead, hreact]
      obtain ⟨hw, hleads'⟩ := Vigil.react?_eq hreact
      have hnext : Q w.lookout (r.trace ++ [(e, effects)]) := by
        rcases Vigil.react?_cases hreact with ⟨rfl, -, rfl, rfl⟩ | ⟨htold, rfl, rfl⟩
        · rw [hgen]
          exact hQ.wake htrace
        · exact hQ.told (hgen ▸ htold) htrace
      rw [htake]
      exact .waiting hgone hv (congrArg some hw) hgen hkey hdeadline (hleads.trans hleads') hseen hnext
        hreflected hrecorded
    | none =>
      -- The event goes to the deployer, and it is beside the vigil: a wake would have been late.
      have htake : (r.take m e).1 =
          { r with
            deployer := (r.deployer.handle m e).1
            ahead := carry r.ahead (r.deployer.handle m e).1.vigil
            trace := r.trace ++ [(e, (r.deployer.handle m e).2)] } := by
        simp [Relay.take, hgone, hahead, hreact]
      have hattempt : r.deployer.attemptOf e ≠ some v.generation :=
        attemptOf_ne_of_react? (w := { v with lookout := next }) h hv rfl hreact fun hwake =>
          expiry?_eq_none (v := { v with lookout := next }) fun time htime =>
            (hintime hwake time (hdeadline.symm.trans htime)).resolve_right (by simp [hv])
      obtain ⟨hbeside, hvigil⟩ := beside_handle h hgone hv hattempt hreset m
      have htrace' := hQ.beside (hgen ▸ Vigil.told?_ne_of_react? hreact) hbeside.silent htrace
      have hreflected' := hreflected.sameAttempt hbeside.state
      have hrecorded' := recorded_beside hbeside hrecorded
      rw [htake]
      cases hgone' : (r.deployer.handle m e).1.isGone with
      | true => exact .gone hgone' hseen htrace' hreflected' hrecorded'
      | false =>
        rw [hgone'] at hvigil
        refine .waiting hgone' hvigil ?_ hgen hkey hdeadline hleads hseen htrace' hreflected' hrecorded'
        simp [hvigil, hahead, carry]
  | @ended lookout hahead hdecided hseen htrace hreflected hrecorded =>
    cases hgone : r.deployer.isGone with
    | true =>
      have htake : (r.take m e).1 = r := by simp [Relay.take, hgone]
      rw [htake]
      exact .ended hahead hdecided hseen htrace hreflected hrecorded
    | false =>
      -- Without a reset nothing follows the end of an attempt.
      obtain ⟨hbeside, hvigil⟩ := beside_handle_of_final h (hreflected.isTerminal hdecided) hreset m
      have htake : (r.take m e).1 =
          { r with
            deployer := (r.deployer.handle m e).1
            ahead := none
            trace := r.trace ++ [(e, (r.deployer.handle m e).2)] } := by
        simp [Relay.take, hgone, hahead, hvigil]
      rw [htake]
      exact .ended rfl hdecided hseen (hQ.after hdecided hbeside.silent htrace)
        (hreflected.sameAttempt hbeside.state) (recorded_beside hbeside hrecorded)
  | gone hgone hseen htrace hreflected hrecorded =>
    have htake : (r.take m e).1 = r := by simp [Relay.take, hgone]
    rw [htake]
    exact .gone hgone hseen htrace hreflected hrecorded

/-- What a look shows of a lookout that has gone on, announced or not. -/
private theorem mirrored_of_leads {v : Vigil} {next : Lookout} (h : r.deployer.Coherent)
    (hv : r.deployer.vigil = some v) (hleads : v.lookout.Leads next)
    (hshown : v.lookout.shown r.deployer.state.value = r.deployer.state.value) :
    ∃ state canDeploy,
      r.deployer.mirrored { v with lookout := next } (next.version != v.lookout.version) =
        { r.deployer with vigil := some { v with lookout := next }, state } ∧
      state.value = { next.shown r.deployer.state.value with canDeploy } := by
  obtain ⟨state, canDeploy, hmirrored, hstate⟩ :=
    mirrored_eq (w := { v with lookout := next }) (h.vigil hv).attempt.symm
      (next.version != v.lookout.version)
  refine ⟨state, canDeploy, hmirrored, ?_⟩
  rw [hstate]
  split
  · rfl
  · -- What was not announced is not new.
    rename_i hquiet
    rcases hleads.shows with hnew | ⟨-, hsame⟩
    · exact absurd (bne_iff_ne.mpr (Nat.ne_of_gt hnew)) hquiet
    · rw [hsame, hshown]

/-- A verdict ends the attempt: the state first, and then the record, if the shelf works. -/
private theorem conclude_takes {d : Deployer} {w : Vigil} {verdict : Except DeployError Completion}
    {s : DeployState} {canDeploy : Bool} (hgen : d.generation = w.generation)
    (hs : d.state.value.status = .provisioning) (hdecided : w.lookout.verdict? = some verdict)
    (hstate : d.state.value = { w.lookout.shown s with canDeploy }) (hprovision : s.provision = none)
    (m : Moment) :
    w.lookout.Reflected (d.conclude m w verdict).state.value ∧
      ∀ record : Record, w.key = record.key → d.shelf.get? record.key = some record →
        m.outage.update = false → w.lookout.Recorded record (d.conclude m w verdict).shelf := by
  cases verdict with
  | ok found =>
    obtain ⟨state, canDeploy', hconclude, hstate'⟩ := conclude_ok m hgen hs found
    rw [hconclude]
    refine ⟨?_, fun record hkey hget hworks => ⟨_, ?_, by rw [hdecided]; exact ⟨m.wall, rfl⟩⟩⟩
    · show w.lookout.Reflected state.value
      rw [hstate', hstate]
      exact Lookout.reflected_of_found hdecided hprovision canDeploy'
    · rw [hkey]
      exact get?_shelved hget hworks _ _
  | error loss =>
    obtain ⟨state, canDeploy', hconclude, hstate'⟩ := conclude_error m hgen hs loss
    rw [hconclude]
    refine ⟨?_, fun record hkey hget hworks => ⟨_, ?_, by rw [hdecided]; exact ⟨m.wall, rfl⟩⟩⟩
    · show w.lookout.Reflected state.value
      rw [hstate', hstate]
      exact Lookout.reflected_of_loss hdecided _ canDeploy'
    · rw [hkey]
      exact get?_shelved hget hworks _ _

/-- A look takes over what the lookout has learned. -/
private theorem look_waiting {v : Vigil} {next : Lookout} (h : r.deployer.Coherent)
    (hv : r.deployer.vigil = some v) (hkey : v.key = terms.record.key) (hleads : v.lookout.Leads next)
    (hreflected : v.lookout.Reflected r.deployer.state.value)
    (hrecorded : terms.works → v.lookout.Recorded terms.record r.deployer.shelf)
    (hworks : terms.works → m.outage.update = false) :
    let d := r.deployer.observe m { v with lookout := next } (next.version != v.lookout.version)
    next.Reflected d.state.value ∧ (terms.works → next.Recorded terms.record d.shelf) := by
  have hopen : v.lookout.verdict? = none := (h.vigil hv).undecided
  obtain ⟨hshown, hverdict⟩ := id hreflected
  rw [hopen] at hverdict
  obtain ⟨hs, hprovision⟩ := hverdict
  have hget : terms.works → r.deployer.shelf.get? terms.record.key = some terms.record := by
    intro hw
    obtain ⟨record, hget, hrecord⟩ := hrecorded hw
    rw [hopen] at hrecord
    rw [hget, hrecord]
  obtain ⟨state, canDeploy, hmirrored, hstate⟩ := mirrored_of_leads h hv hleads hshown
  have hgen : r.deployer.generation = v.generation := (h.vigil hv).attempt.symm
  have hs' : state.value.status = .provisioning := by
    rw [hstate]
    exact (next.shown_status _).trans hs
  intro d
  cases hnext : next.verdict? with
  | none =>
    -- The lookout is only taken over; the record is left alone.
    have hd : d = { r.deployer with vigil := some { v with lookout := next }, state } := by
      show Deployer.observe _ _ _ _ = _
      rw [observe_eq_mirrored, hnext]
      exact hmirrored
    rw [hd]
    refine ⟨?_, fun hw => ⟨terms.record, hget hw, by rw [hnext]⟩⟩
    show next.Reflected state.value
    rw [hstate]
    exact Lookout.reflected_of_open hnext hs hprovision canDeploy
  | some verdict =>
    have hd : d = ({ r.deployer with vigil := some { v with lookout := next }, state }).conclude m
        { v with lookout := next } verdict := by
      show Deployer.observe _ _ _ _ = _
      rw [observe_eq_mirrored, hnext]
      exact congrArg (Deployer.conclude m · _ verdict) hmirrored
    obtain ⟨hreflected', hrecorded'⟩ := conclude_takes
      (d := { r.deployer with vigil := some { v with lookout := next }, state })
      (w := { v with lookout := next }) hgen hs' hnext hstate hprovision m
    rw [hd]
    exact ⟨hreflected', fun hw => hrecorded' terms.record hkey (hget hw) (hworks hw)⟩

/-- **A look** takes over what the lookout has learned, and its verdict if it has one. -/
theorem Phase.look (hphase : Phase Q terms r) (h : r.deployer.Coherent)
    (hworks : terms.works → m.outage.update = false) : Phase Q terms (r.look m) := by
  cases hphase with
  | @waiting v next hgone hv hahead hgen hkey hdeadline hleads hseen htrace hreflected hrecorded =>
    obtain ⟨hreflected', hrecorded'⟩ :=
      look_waiting h hv hkey hleads hreflected hrecorded hworks
    have hvigil := observe_vigil m r.deployer { v with lookout := next }
      (next.version != v.lookout.version)
    have hthere := observe_isGone m r.deployer { v with lookout := next }
      (next.version != v.lookout.version)
    simp only [Relay.look, hgone, hv, hahead, Bool.false_eq_true, if_false]
    cases hnext : next.verdict? with
    | none =>
      rw [hnext] at hvigil
      exact .waiting (hthere.trans hgone) hvigil (by simp [hvigil, carry]) hgen hkey hdeadline (.refl _)
        htrace htrace hreflected' hrecorded'
    | some verdict =>
      rw [hnext] at hvigil
      exact .ended (by simp [hvigil]) (by rw [hnext]; rfl) htrace htrace hreflected' hrecorded'
  | @ended lookout hahead hdecided hseen htrace hreflected hrecorded =>
    have hv := h.vigil_eq_none_of_terminal (hreflected.isTerminal hdecided)
    unfold Relay.look
    split
    · exact .ended hahead hdecided hseen htrace hreflected hrecorded
    · rw [hv]
      exact .ended hahead hdecided htrace htrace hreflected hrecorded
  | gone hgone hseen htrace hreflected hrecorded =>
    have hlook : r.look m = r := by simp [Relay.look, hgone]
    rw [hlook]
    exact .gone hgone hseen htrace hreflected hrecorded

/-- Where a wait stands, with a deployer that can be reached. -/
structure Wait (Q : Lookout → List (Event × List Effect) → Prop) (terms : Terms) (r : Relay) :
    Prop where
  coherent : r.deployer.Coherent
  phase : Phase Q terms r

/-- What may happen in a wait: anything but a reset and the deadline.  A wake may come late when the
deployer does not wait any more. -/
structure Terms.Allow (terms : Terms) (r : Relay) (x : Moment × Occurrence) : Prop where
  kept : x.2 ≠ .event .reset
  intime : x.2 = .event .wake → ∀ time, terms.deadline = some time →
    x.1.clock < time ∨ r.deployer.vigil = none
  works : terms.works → x.1.outage.update = false

theorem coherent_take (h : r.deployer.Coherent) (m : Moment) (e : Event) :
    (r.take m e).1.deployer.Coherent := by
  unfold Relay.take
  split
  · exact h
  · split
    · exact h
    · exact h.handle m e

theorem Phase.coherent_look (hphase : Phase Q terms r) (h : r.deployer.Coherent) (m : Moment) :
    (r.look m).deployer.Coherent := by
  cases hphase with
  | @waiting v next hgone hv hahead hgen hkey hdeadline hleads hseen htrace hreflected hrecorded =>
    simp only [Relay.look, hgone, hv, hahead, Bool.false_eq_true, if_false]
    have he : r.deployer.attemptOf .wake = some v.generation := by simp [attemptOf, hv]
    exact h.turn (turn_observe (m := m) (w := { v with lookout := next }) hv (h.vigil hv) he rfl rfl
      hleads.polls _)
  | ended hahead hdecided hseen htrace hreflected hrecorded =>
    have hv := h.vigil_eq_none_of_terminal (hreflected.isTerminal hdecided)
    unfold Relay.look
    split
    · exact h
    · rw [hv]
      exact h
  | gone hgone hseen htrace hreflected hrecorded =>
    have hlook : r.look m = r := by simp [Relay.look, hgone]
    rw [hlook]
    exact h

theorem Wait.step (hwait : Wait Q terms r) (hQ : Tally terms.generation Q) {x : Moment × Occurrence}
    (hx : terms.Allow r x) : Wait Q terms (r.step x) := by
  obtain ⟨m, occurrence⟩ := x
  cases occurrence with
  | event e =>
    refine ⟨coherent_take hwait.coherent m e, ?_⟩
    exact hwait.phase.take hQ hwait.coherent m (fun he => hx.kept (congrArg _ he)) fun he =>
      hx.intime (congrArg _ he)
  | look =>
    exact ⟨hwait.phase.coherent_look hwait.coherent m, hwait.phase.look hwait.coherent hx.works⟩

/-- **A wait goes on**, whatever happens in it. -/
theorem Wait.run (hwait : Wait Q terms r) (hQ : Tally terms.generation Q)
    {xs : List (Moment × Occurrence)}
    (hxs : ∀ before x after, xs = before ++ x :: after → terms.Allow (r.run before) x) :
    Wait Q terms (r.run xs) := by
  induction xs generalizing r with
  | nil => exact hwait
  | cons x xs ih =>
    have hx : terms.Allow r x := hxs [] x xs rfl
    refine ih (hwait.step hQ hx) fun before y after heq => ?_
    exact hxs (x :: before) y after (congrArg (x :: ·) heq)

/-! ## Where it has come to -/

/-- The deployer shows what some lookout had learned at the last look. -/
theorem Wait.at_look (hwait : Wait Q terms r) :
    ∃ lookout, Q lookout r.seen ∧ lookout.Reflected r.deployer.state.value ∧
      (terms.works → lookout.Recorded terms.record r.deployer.shelf) := by
  cases hwait.phase with
  | waiting _ _ _ _ _ _ _ hseen _ hreflected hrecorded => exact ⟨_, hseen, hreflected, hrecorded⟩
  | ended _ _ hseen _ hreflected hrecorded => exact ⟨_, hseen, hreflected, hrecorded⟩
  | gone _ hseen _ hreflected hrecorded => exact ⟨_, hseen, hreflected, hrecorded⟩

/-- All that has happened is accounted for. -/
theorem Wait.at_trace (hwait : Wait Q terms r) : ∃ next, Q next r.trace := by
  cases hwait.phase with
  | waiting _ _ _ _ _ _ _ _ htrace _ _ => exact ⟨_, htrace⟩
  | ended _ _ _ htrace _ _ => exact ⟨_, htrace⟩
  | gone _ _ htrace _ _ => exact ⟨_, htrace⟩

/-- As long as the lookout has not decided it goes on when it is woken. -/
theorem Wait.wakes (hwait : Wait Q terms r) (hgone : r.deployer.isGone = false)
    (hopen : ∀ lookout, Q lookout r.trace → lookout.verdict? = none) :
    ∃ next, Q next r.trace ∧
      ∀ m, terms.Allow r (m, .event .wake) →
        (r.take m .wake).2 = (next.wake m terms.generation).2 := by
  cases hwait.phase with
  | @waiting v next _ hv hahead hgen _ hdeadline _ _ htrace _ _ =>
    refine ⟨next, htrace, fun m hx => ?_⟩
    have hlimit : ({ v with lookout := next } : Vigil).expiry? m.clock = none :=
      expiry?_eq_none fun time htime =>
        (hx.intime rfl time (hdeadline.symm.trans htime)).resolve_right (by simp [hv])
    rw [← hgen]
    simp [Relay.take, hgone, hahead, Vigil.react?, hlimit]
  | ended _ hdecided _ htrace _ _ =>
    rw [hopen _ htrace] at hdecided
    cases hdecided
  | gone hgone' =>
    rw [hgone] at hgone'
    cases hgone'

/-! ## After the verdict -/

/-- Once the lookout has decided nobody is asked after the resource, also before the deployer has
looked. -/
theorem Wait.silent (hwait : Wait Q terms r) (hQ : Tally terms.generation Q)
    (hdecided : ∀ lookout, Q lookout r.trace → lookout.verdict?.isSome = true)
    (hx : terms.Allow r (m, .event e)) : ∀ effect ∈ (r.take m e).2, effect.attempt? = none := by
  have hreset : e ≠ .reset := fun he => hx.kept (congrArg _ he)
  cases hwait.phase with
  | @waiting v next hgone hv hahead hgen hkey hdeadline hleads hseen htrace hreflected hrecorded =>
    cases hreact : ({ v with lookout := next } : Vigil).react? m e with
    | some taken =>
      obtain ⟨w, effects⟩ := taken
      have htake : (r.take m e).2 = effects := by simp [Relay.take, hgone, hahead, hreact]
      have hnone : effects = [] := by
        rcases Vigil.react?_cases hreact with ⟨-, -, -, rfl⟩ | ⟨-, -, rfl⟩
        · rw [hgen]
          exact hQ.spent (hdecided next htrace) htrace
        · rfl
      simp [htake, hnone]
    | none =>
      have htake : (r.take m e).2 = (r.deployer.handle m e).2 := by
        simp [Relay.take, hgone, hahead, hreact]
      have hattempt : r.deployer.attemptOf e ≠ some v.generation :=
        attemptOf_ne_of_react? (w := { v with lookout := next }) hwait.coherent hv rfl hreact
          fun hwake => expiry?_eq_none (v := { v with lookout := next }) fun time htime =>
            (hx.intime (congrArg _ hwake) time (hdeadline.symm.trans htime)).resolve_right (by simp [hv])
      rw [htake]
      exact (beside_handle hwait.coherent hgone hv hattempt hreset m).1.silent
  | @ended lookout hahead hdecided' hseen htrace hreflected hrecorded =>
    cases hgone : r.deployer.isGone with
    | true => simp [Relay.take, hgone]
    | false =>
      have htake : (r.take m e).2 = (r.deployer.handle m e).2 := by simp [Relay.take, hgone, hahead]
      rw [htake]
      exact (beside_handle_of_final hwait.coherent (hreflected.isTerminal hdecided') hreset m).1.silent
  | gone hgone => simp [Relay.take, hgone]

/-- What the deployer has seen is the beginning of what has happened. -/
theorem seen_prefix_run (h : r.seen <+: r.trace) (xs : List (Moment × Occurrence)) :
    (r.run xs).seen <+: (r.run xs).trace := by
  induction xs generalizing r with
  | nil => exact h
  | cons x xs ih =>
    refine ih (r := r.step x) ?_
    obtain ⟨m, occurrence⟩ := x
    cases occurrence with
    | event e =>
      simp only [Relay.step, Relay.take]
      split
      · exact h
      · split
        · exact h.trans (List.prefix_append _ _)
        · exact h.trans (List.prefix_append _ _)
    | look =>
      simp only [Relay.step, Relay.look]
      split
      · exact h
      · split
        · exact List.prefix_refl _
        · exact List.prefix_refl _

/-- A look sees all that has happened, unless the deployer has ended. -/
theorem look_seen (hgone : r.deployer.isGone = false) (m : Moment) : (r.look m).seen = r.trace := by
  simp only [Relay.look, hgone, Bool.false_eq_true, if_false]
  split <;> rfl

/-! ## The beginning -/

/-- The receipt of the current attempt comes, and gives the number by which its resource is known. -/
structure Confirms (d : Deployer) (i : Nat) (a : Attempt) (t : Ticket) (hash : TxHash)
    (receipt : Receipt) (number : Word64) : Prop where
  underway : d.deploys[i]? = some (.underway a t)
  current : a.generation = d.generation
  awaits : t.awaiting = .receipt hash
  succeeded : receipt.succeeded = true
  numbered :
    correlationOf receipt.logs t.submission.request.contract t.submission.event = some number

/-- A deployer that a receipt has just reached. -/
def confirmed (m : Moment) (d : Deployer) (i : Nat) (receipt : Receipt) : Deployer :=
  (d.handle m (.answer i (.receipt (.ok receipt)))).1

/-- The wait of an attempt whose receipt gives a number. -/
def termsOf (m : Moment) (settings : Settings) (a : Attempt) (hash : TxHash) (number : Word64)
    (works : Prop) : Terms where
  generation := a.generation
  deadline := (vigilOf m settings a hash number).deadline
  record := confirmedRecord a hash (some number)
  works := works

/-- Nobody resets an attempt whose receipt came at the moment `m`, and its time does not run out: a
wake may come late when the deployer does not wait any more. -/
structure Undisturbed (settings : Settings) (m : Moment) (r : Relay) (xs : List (Moment × Occurrence)) :
    Prop where
  kept : ∀ x ∈ xs, x.2 ≠ .event .reset
  intime : ∀ before m' after, xs = before ++ (m', .event .wake) :: after →
    ∀ limit, settings.provisionTimeout = some limit →
      m'.clock < m.clock + limit.timerMillis ∨ (r.run before).deployer.vigil = none

/-- An attempt is undisturbed as long as its time has not run out. -/
theorem undisturbed_of_clock {settings : Settings} {xs : List (Moment × Occurrence)}
    (hkept : ∀ x ∈ xs, x.2 ≠ .event .reset)
    (hclock : ∀ limit, settings.provisionTimeout = some limit →
      ∀ x ∈ xs, x.1.clock < m.clock + limit.timerMillis) : Undisturbed settings m r xs where
  kept := hkept
  intime := fun before m' after heq limit hlimit =>
    Or.inl (hclock limit hlimit (m', .event .wake) (by simp [heq]))

theorem Undisturbed.allow {settings : Settings} {a : Attempt} {hash : TxHash} {number : Word64}
    {works : Prop} {xs : List (Moment × Occurrence)} (hxs : Undisturbed settings m r xs)
    (hworks : works → ∀ x ∈ xs, x.1.outage.update = false) (before : List (Moment × Occurrence))
    (x : Moment × Occurrence) (after : List (Moment × Occurrence)) (heq : xs = before ++ x :: after) :
    (termsOf m settings a hash number works).Allow (r.run before) x where
  kept := hxs.kept x (by simp [heq])
  intime := by
    obtain ⟨m', occurrence⟩ := x
    rintro rfl time htime
    obtain ⟨limit, hlimit, rfl⟩ := Option.map_eq_some_iff.mp htime
    exact hxs.intime before m' after heq limit hlimit
  works := fun hw => hworks hw x (by simp [heq])

/-- What a receipt that gives a number leads to. -/
theorem Confirms.turn {d d' : Deployer} {i : Nat} {a : Attempt} {t : Ticket} {hash : TxHash}
    {receipt : Receipt} {number : Word64} {effects : List Effect}
    (hc : Confirms d i a t hash receipt number) (h : d.Coherent)
    (hturn : Turn m d (.answer i (.receipt (.ok receipt))) d' effects) :
    d.Engaged a t ∧ d'.vigil = some (vigilOf m d.settings a hash number) ∧
      d'.shelf = upserted m d.shelf (confirmedRecord a hash (some number)) ∧
      ∃ canDeploy, d'.state.value =
        { (Lookout.start d.settings m.clock (quarryOf a.route number)).shown
            { awaiting (quarryOf a.route number) d.state.value with status := .provisioning } with
          canDeploy } := by
  obtain ⟨hget, hcurrent, hawait, hsucceeded, hnumber⟩ := hc
  -- The call and its ticket are those of every turn on this answer.
  have hsame : ∀ {a' : Attempt} {t' : Ticket}, d.deploys[i]? = some (.underway a' t') → a = a' ∧ t = t' :=
    fun hget' => DeployCall.underway.inj (Option.some.inj (hget.symm.trans hget'))
  have hunwatched : d.vigil = none := by
    cases hv : d.vigil with
    | none => rfl
    | some v =>
      have hold := (h.superseded_of_vigil hv hget).attempt
      exact absurd hcurrent (Nat.ne_of_lt hold)
  cases hturn with
  | @awaited _ a' t' hash' _ number' _ v s canDeploy state hget' hengaged hawait' hv hs hstate hnumber' =>
    obtain ⟨rfl, rfl⟩ := hsame hget'
    obtain rfl : hash = hash' := Awaiting.receipt.inj (hawait.symm.trans hawait')
    obtain rfl : number = number' := Option.some.inj (hnumber.symm.trans hnumber')
    subst hv hs
    exact ⟨hengaged, rfl, rfl, canDeploy, hstate⟩
  | ignored _ _ hfits =>
    have hunfit := hfits rfl hget
    rw [hawait] at hunfit
    cases hunfit
  | entered _ _ hnone => simp [attemptOf, hget] at hnone
  | lapsed hget' hold =>
    obtain ⟨rfl, rfl⟩ := hsame hget'
    exact absurd hcurrent (Nat.ne_of_lt hold.attempt)
  | fell hget' hengaged hfail =>
    obtain ⟨rfl, rfl⟩ := hsame hget'
    simp [hawait, Tracker.failureOf?, hsucceeded] at hfail
  | unnumbered hget' hengaged hawait' hstate hnumber' =>
    obtain ⟨rfl, rfl⟩ := hsame hget'
    rw [hnumber] at hnumber'
    cases hnumber'
  | looked hv => simp [hunwatched] at hv
  | found hv => simp [hunwatched] at hv
  | lost hv => simp [hunwatched] at hv

/-- **A receipt that gives a number begins a wait.** -/
theorem wait_of_receipt {d : Deployer} {i : Nat} {a : Attempt} {t : Ticket} {hash : TxHash}
    {receipt : Receipt} {number : Word64} {works : Prop} (h : d.Coherent) (hstaged : Staged d)
    (hc : Confirms d i a t hash receipt number) (hworks : works → m.outage.upsert = false)
    (hQ : Q (Lookout.start d.settings m.clock (quarryOf a.route number)) []) :
    Wait Q (termsOf m d.settings a hash number works) (Relay.of (confirmed m d i receipt)) := by
  refine ⟨h.handle m (.answer i (.receipt (.ok receipt))), ?_⟩
  rcases handled h m (.answer i (.receipt (.ok receipt))) with ⟨hgone, -⟩ | ⟨-, d', effects, hturn, heq⟩
  · exact absurd hc.underway (not_underway_of_isGone hgone i a t)
  · obtain ⟨hengaged, hvigil, hshelf, canDeploy, hstate⟩ := hc.turn h hturn
    have hopen : (vigilOf m d.settings a hash number).lookout.verdict? = none := verdict?_start _ _ _
    have hprovision : d.state.value.provision = none :=
      (hstaged.stage.of_pending (hengaged.pending hc.awaits)).1.2.2.1
    have hreflected : (vigilOf m d.settings a hash number).lookout.Reflected d'.state.value := by
      rw [hstate]
      refine Lookout.reflected_of_open hopen rfl ?_ canDeploy
      cases a.route <;> exact hprovision
    have hrecorded : works → (vigilOf m d.settings a hash number).lookout.Recorded
        (confirmedRecord a hash (some number)) d'.shelf := by
      intro hw
      refine ⟨confirmedRecord a hash (some number), ?_, by rw [hopen]⟩
      rw [hshelf, upserted, if_neg (by simp [hworks hw])]
      exact Shelf.get?_upsert _ _
    unfold confirmed
    rw [heq]
    unfold Deployer.settleRelease
    split
    · -- The handle was given up, and nothing but the receipt kept the deployer.
      rename_i hgone
      exact .gone hgone hQ hQ hreflected hrecorded
    · rename_i hgone
      exact .waiting (eq_false_of_ne_true hgone) hvigil hvigil rfl rfl rfl (.refl _) hQ hQ hreflected
        hrecorded

/-- **Every receipt that gives a number begins a wait**, whatever happened before. -/
theorem wait_afterAll {settings : Settings} {encoder : Encoder} {mode : ResourceKind}
    {es : List (Moment × Event)} {i : Nat} {a : Attempt} {t : Ticket} {hash : TxHash}
    {receipt : Receipt} {number : Word64} {works : Prop}
    (hc : Confirms (afterAll settings encoder mode es) i a t hash receipt number)
    (hworks : works → m.outage.upsert = false)
    (hQ : Q (Lookout.start settings m.clock (quarryOf a.route number)) []) :
    Wait Q (termsOf m settings a hash number works)
      (Relay.of (confirmed m (afterAll settings encoder mode es) i receipt)) := by
  have hcoherent := coherent_afterAll settings encoder mode es
  have hstaged : Staged (afterAll settings encoder mode es) :=
    (staged_new settings encoder mode).run (coherent_new settings encoder mode) es
  have hsettings : (afterAll settings encoder mode es).settings = settings :=
    settings_run (coherent_new settings encoder mode) es
  have hwait : Wait Q (termsOf m (afterAll settings encoder mode es).settings a hash number works) _ :=
    wait_of_receipt hcoherent hstaged hc hworks (by rw [hsettings]; exact hQ)
  rw [hsettings] at hwait
  exact hwait

end Relay

end ChainProvision
