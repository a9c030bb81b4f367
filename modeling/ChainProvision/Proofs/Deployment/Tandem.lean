import ChainProvision.Proofs.Deployment.Relay
import ChainProvision.Proofs.Deployment.Stages
import Mathlib.Data.List.Forall2

/-!
# Two deployers in tandem

An attempt goes by what was fixed at its beginning and by the answers to it.  So two deployers with
the same attempt, whatever was entered into them since and whatever their stores have lost, take
every event of the attempt alike: what they show stays as alike as it was, and they ask for the same.

## Main definitions

* `Deployer.Front`: the part of a deployer that is not an attempt's;
* `Deployer.Likeness`: a likeness of fronts that no attempt ends;
* `Deployer.Tandem`: two deployers with the same attempt, and fronts that are alike.

## Main statements

- `Deployer.Tandem.update`, `Deployer.Tandem.answered`, `Deployer.Tandem.observe`,
  `Deployer.Tandem.wake`: each part of the step keeps two deployers in tandem.
-/

namespace ChainProvision

open Deployer

/-- What goes on with a submission does not depend on the journal. -/
theorem Tracker.resume_eq (m m' : Moment) (t : Tracker) (journal journal' : Journal) (ticket : Ticket)
    (a : Answer) :
    t.resume m' journal' ticket a =
      { t.resume m journal ticket a with journal := (t.resume m' journal' ticket a).journal } := by
  have hfail : ∀ (journal journal' : Journal) (e : TxError), t.fail journal' ticket.generation e =
      { t.fail journal ticket.generation e with
        journal := (t.fail journal' ticket.generation e).journal } := by
    intro journal journal' e
    unfold fail
    split <;> rfl
  -- Each stage goes by the answer, and the journal is only written to.
  obtain ⟨generation, submission, awaiting⟩ := ticket
  cases awaiting with
  | signature =>
    rcases a with (e | ⟨⟩) | _ | _
    · exact hfail _ _ _
    all_goals rfl
  | broadcast =>
    rcases a with _ | (e | hash) | _
    · rfl
    · exact hfail _ _ _
    · simp only [resume]
      split <;> rfl
    · rfl
  | receipt hash =>
    rcases a with _ | _ | (e | r)
    · rfl
    · rfl
    · exact hfail _ _ _
    · simp only [resume]
      split
      · split <;> rfl
      · exact hfail _ _ _

/-- Two moments at the same time; if the stores are to be alike, the same of their calls fail. -/
structure Moment.Like (works : Prop) (m m' : Moment) : Prop where
  clock : m'.clock = m.clock
  wall : m'.wall = m.wall
  outage : works → m'.outage = m.outage

theorem Moment.Like.eq {works : Prop} {m m' : Moment} (hm : m.Like works m') (hworks : works) :
    m' = m := by
  obtain ⟨clock, wall, outage⟩ := m
  obtain ⟨clock', wall', outage'⟩ := m'
  obtain ⟨rfl, rfl, houtage⟩ := hm
  obtain rfl : outage' = outage := houtage hworks
  rfl

namespace Deployer

/-! ## Fronts -/

/-- The part of a deployer that is not an attempt's: what is shown, what was entered, and the calls
for it. -/
structure Front where
  state : Observed DeployState
  inputs : Inputs
  checks : List (Option ServiceCheck)
  discoveries : List (Option (List Address))
  released : Bool

/-- The front of a deployer. -/
def front (d : Deployer) : Front := ⟨d.state, d.inputs, d.checks, d.discoveries, d.released⟩

/-- A state changed for an attempt, with the event that is raised then. -/
def moved (f : DeployState → DeployState) (raised : Option DeployEvent) (s : DeployState) :
    DeployState :=
  match raised with
  | some e => (f s).advance e
  | none => f s

/-- A front with the state changed for an attempt. -/
def Front.change (x : Front) (settings : Settings) (f : DeployState → DeployState)
    (raised : Option DeployEvent) : Front :=
  let s := moved f raised x.state.value
  { x with state := x.state.set { s with canDeploy := x.inputs.canDeploy s settings } }

/-- A change of the state that has nothing to do with its status and with the choice of a service. -/
structure Pertains (f : DeployState → DeployState) : Prop where
  status : ∀ s, (f s).status = s.status := by exact fun _ => rfl
  serviceError : ∀ s serviceError, f { s with serviceError } = { f s with serviceError } := by
    exact fun _ _ => rfl

/-- A likeness of fronts that no attempt ends. -/
structure Likeness (F : Front → Front → Prop) : Prop where
  status : ∀ {x y}, F x y → y.state.value.status = x.state.value.status
  change : ∀ {x y settings f raised}, F x y → Pertains f → raised ≠ some .reset →
    F (x.change settings f raised) (y.change settings f raised)

/-- Two states that fronts which are alike may show. -/
def Likeness.Shown (F : Front → Front → Prop) (s s' : DeployState) : Prop :=
  ∃ x y, F x y ∧ x.state.value = s ∧ y.state.value = s'

theorem pertains_awaiting (quarry : Quarry) : Pertains (awaiting quarry) := by
  cases quarry <;> exact {}

/-! ## Deployers -/

/-- Whether an event is of an attempt: an answer to it, or something that its vigil waits for. -/
def Event.isOfAttempt : Event → Bool
  | .answer _ _ => true
  | .wake => true
  | .fetched _ _ _ => true
  | .subscribed _ _ _ => true
  | .batch _ _ _ => true
  | .closed _ _ => true
  | _ => false

/-- Two deployers with the same attempt and fronts that are alike; their stores are the same if they
are to be alike. -/
structure Tandem (F : Front → Front → Prop) (works : Prop) (d d' : Deployer) : Prop where
  settings : d'.settings = d.settings
  encoder : d'.encoder = d.encoder
  generation : d'.generation = d.generation
  tracker : d'.tracker = d.tracker
  vigil : d'.vigil = d.vigil
  deploys : d'.deploys = d.deploys
  log : d'.log = d.log
  front : F d.front d'.front
  journal : works → d'.journal = d.journal
  shelf : works → d'.shelf = d.shelf

variable {F : Front → Front → Prop} {works : Prop} {m m' : Moment} {d d' : Deployer} {g : Nat}

theorem Tandem.shown (h : Tandem F works d d') : Likeness.Shown F d.state.value d'.state.value :=
  ⟨_, _, h.front, rfl, rfl⟩

theorem shelved_like (hm : m.Like works m') {shelf shelf' : Shelf} (h : works → shelf' = shelf)
    (key : String) (status : ResourceStatus) (patch : Patch) (hworks : works) :
    shelved m' shelf' key status patch = shelved m shelf key status patch := by
  rw [hm.eq hworks, h hworks]

theorem upserted_like (hm : m.Like works m') {shelf shelf' : Shelf} (h : works → shelf' = shelf)
    (record : Record) (hworks : works) : upserted m' shelf' record = upserted m shelf record := by
  rw [hm.eq hworks, h hworks]

section Parts

variable (hF : Likeness F)

include hF

theorem Tandem.update (h : Tandem F works d d') {f : DeployState → DeployState} (hf : Pertains f)
    {e : Option DeployEvent} (hraised : e ≠ some .reset) :
    Tandem F works (d.update g f e) (d'.update g f e) := by
  have hfront : F (d.front.change d.settings f e) (d'.front.change d'.settings f e) := by
    rw [h.settings]
    exact hF.change h.front hf hraised
  have hstatus : (f d'.state.value).status = (f d.state.value).status := by
    rw [hf.status, hf.status]
    exact hF.status h.front
  unfold Deployer.update
  rw [h.generation]
  split
  · cases e with
    | none => exact { h with front := hfront }
    | some e =>
      -- The log notes the status that the event found, which fronts that are alike share.
      refine { h with log := ?_, front := hfront }
      simp [raise, display, h.log, hstatus]
  · exact h

theorem Tandem.showTx (h : Tandem F works d d') (snapshot : TxSnapshot) :
    Tandem F works (d.showTx g snapshot) (d'.showTx g snapshot) := by
  unfold Deployer.showTx
  split
  all_goals exact h.update hF {} nofun

theorem Tandem.showAll (h : Tandem F works d d') (seen : List TxSnapshot) :
    Tandem F works (seen.foldl (fun d snapshot => d.showTx g snapshot) d)
      (seen.foldl (fun d snapshot => d.showTx g snapshot) d') := by
  induction seen generalizing d d' with
  | nil => exact h
  | cons snapshot rest ih => exact ih (h.showTx hF snapshot)

/-! ## The vigil -/

theorem Tandem.conclude (h : Tandem F works d d') (hm : m.Like works m') (v : Vigil)
    (verdict : Except DeployError Completion) :
    Tandem F works (d.conclude m v verdict) (d'.conclude m' v verdict) := by
  unfold Deployer.conclude
  cases verdict with
  | ok found =>
    have hended : Tandem F works
        { d with
          vigil := none
          shelf := shelved m d.shelf v.key .running
            ⟨some found.resource, found.endpoint, v.lookout.serviceOf found⟩ }
        { d' with
          vigil := none
          shelf := shelved m' d'.shelf v.key .running
            ⟨some found.resource, found.endpoint, v.lookout.serviceOf found⟩ } :=
      { h with vigil := rfl, shelf := shelved_like hm h.shelf _ _ _ }
    exact hended.update hF {} nofun
  | error e =>
    have hended : Tandem F works
        { d with vigil := none, shelf := shelved m d.shelf v.key .failed {} }
        { d' with vigil := none, shelf := shelved m' d'.shelf v.key .failed {} } :=
      { h with vigil := rfl, shelf := shelved_like hm h.shelf _ _ _ }
    exact hended.update hF {} nofun

theorem Tandem.mirrored (h : Tandem F works d d') (v : Vigil) (announced : Bool) :
    Tandem F works (d.mirrored v announced) (d'.mirrored v announced) := by
  have hv : Tandem F works { d with vigil := some v } { d' with vigil := some v } :=
    { h with vigil := rfl }
  unfold Deployer.mirrored
  dsimp only
  split
  · split
    · exact hv.update hF {} nofun
    · exact hv
  · exact hv

theorem Tandem.observe (h : Tandem F works d d') (hm : m.Like works m') (v : Vigil) (announced : Bool) :
    Tandem F works (d.observe m v announced) (d'.observe m' v announced) := by
  rw [observe_eq_mirrored, observe_eq_mirrored]
  split
  · exact (h.mirrored hF v announced).conclude hF hm v _
  · exact h.mirrored hF v announced

theorem Tandem.stepVigil (h : Tandem F works d d') (hm : m.Like works m')
    (step : Lookout → Lookout × Bool) :
    Tandem F works (d.stepVigil m g step) (d'.stepVigil m' g step) := by
  unfold Deployer.stepVigil
  rw [h.vigil]
  split
  · split
    · exact h.observe hF hm _ _
    · exact h
  · exact h

theorem Tandem.wake (h : Tandem F works d d') (hm : m.Like works m') :
    Tandem F works (d.wake m).1 (d'.wake m').1 ∧ (d'.wake m').2 = (d.wake m).2 := by
  unfold Deployer.wake
  rw [h.vigil, hm.clock]
  split
  · exact ⟨h, rfl⟩
  · split
    · dsimp only
      exact ⟨h.conclude hF hm _ _, rfl⟩
    · split
      · exact ⟨{ h with vigil := rfl }, rfl⟩
      · exact ⟨{ h with vigil := rfl }, rfl⟩

/-! ## The answers to an attempt -/

theorem Tandem.confirmed (h : Tandem F works d d') (hm : m.Like works m') (a : Attempt)
    (hash : TxHash) : Tandem F works (d.confirmed m a hash) (d'.confirmed m' a hash) := by
  have hupsert : ∀ record, Tandem F works { d with shelf := upserted m d.shelf record }
      { d' with shelf := upserted m' d'.shelf record } := fun record =>
    { h with shelf := upserted_like hm h.shelf record }
  have hnumber : d'.tracker.snapshot.correlation = d.tracker.snapshot.correlation := by rw [h.tracker]
  unfold Deployer.confirmed
  simp only [upsert_eq, hnumber]
  generalize d.tracker.snapshot.correlation = number
  have hrecorded := hupsert (confirmedRecord a hash number)
  cases number with
  | none =>
    have hfailed : Tandem F works
        { d with
          shelf := shelved m (upserted m d.shelf (confirmedRecord a hash none))
            (confirmedRecord a hash none).key .failed {} }
        { d' with
          shelf := shelved m' (upserted m' d'.shelf (confirmedRecord a hash none))
            (confirmedRecord a hash none).key .failed {} } :=
      { h with shelf := shelved_like hm hrecorded.shelf _ _ _ }
    exact hfailed.update hF {} nofun
  | some number =>
    have hstarted := hrecorded.update hF (g := a.generation) (e := some .startProvisioning)
      (pertains_awaiting (quarryOf a.route number)) (by simp)
    unfold Deployer.wait
    dsimp only
    rw [hstarted.settings, hm.clock]
    exact hstarted.observe hF hm _ _

theorem Tandem.answered (h : Tandem F works d d') (hm : m.Like works m') (i : Nat) (a : Answer) :
    Tandem F works (d.answered m i a).1 (d'.answered m' i a).1 ∧
      (d'.answered m' i a).2 = (d.answered m i a).2 := by
  have hget : d'.deploys[i]? = d.deploys[i]? := by rw [h.deploys]
  unfold Deployer.answered
  rw [hget]
  split
  · rename_i attempt ticket _
    have hresume := Tracker.resume_eq m m' d.tracker d.journal d'.journal ticket a
    have hjournal : works → (d.tracker.resume m' d'.journal ticket a).journal =
        (d.tracker.resume m d.journal ticket a).journal := by
      intro hworks
      rw [hm.eq hworks, h.journal hworks]
    rw [h.tracker]
    dsimp only
    rw [hresume]
    generalize d.tracker.resume m d.journal ticket a = p at hjournal
    generalize (d.tracker.resume m' d'.journal ticket a).journal = journal at hjournal
    have hbegun : Tandem F works { d with tracker := p.tracker, journal := p.journal }
        { d' with tracker := p.tracker, journal } := { h with tracker := rfl, journal := hjournal }
    have hshown := hbegun.showAll hF (g := attempt.generation) p.seen
    dsimp only
    generalize p.seen.foldl (fun d snapshot => d.showTx attempt.generation snapshot)
      { d with tracker := p.tracker, journal := p.journal } = shown at hshown
    generalize p.seen.foldl (fun d snapshot => d.showTx attempt.generation snapshot)
      { d' with tracker := p.tracker, journal } = shown' at hshown
    -- The call goes on, or it ends, in the same place of both.
    have hset : ∀ call, Tandem F works { shown with deploys := shown.deploys.set i call }
        { shown' with deploys := shown'.deploys.set i call } := fun call =>
      { hshown with deploys := congrArg (List.set · i call) hshown.deploys }
    split
    · exact ⟨hset _, rfl⟩
    · exact ⟨hset _, rfl⟩
    · have hsame := hshown.generation
      by_cases hcurrent : shown.generation = attempt.generation
      · simp only [if_pos hcurrent, if_pos (hsame.trans hcurrent)]
        exact ⟨(hset _).confirmed hF hm _ _, trivial⟩
      · simp only [if_neg hcurrent, if_neg (hsame ▸ hcurrent)]
        exact ⟨hset _, trivial⟩
  · exact ⟨h, rfl⟩

/-- Two deployers in tandem show alike states in passing. -/
theorem Tandem.passing (h : Tandem F works d d') (m m' : Moment) (e : Event) :
    List.Forall₂ (Likeness.Shown F) (d.passing m e) (d'.passing m' e) := by
  cases e with
  | answer i answer =>
    have hget : d'.deploys[i]? = d.deploys[i]? := by rw [h.deploys]
    simp only [Deployer.passing, hget]
    split
    · rename_i a t _
      have hresume := Tracker.resume_eq m m' d.tracker d.journal d'.journal t answer
      rw [h.tracker, hresume]
      generalize d.tracker.resume m d.journal t answer = p
      generalize (d.tracker.resume m' d'.journal t answer).journal = journal
      -- What the stores have kept is not shown.
      have hbegun : Tandem F False { d with tracker := p.tracker, journal := p.journal }
          { d' with tracker := p.tracker, journal } :=
        { h with tracker := rfl, journal := False.elim, shelf := False.elim }
      have hshown := hbegun.showAll hF (g := a.generation) p.seen
      dsimp only
      split
      · refine .cons hshown.shown ?_
        cases p.tracker.snapshot.correlation with
        | none => exact .nil
        | some number =>
          have hstarted := hshown.update hF (g := a.generation) (e := some .startProvisioning)
            (pertains_awaiting (quarryOf a.route number)) (by simp)
          exact .cons hstarted.shown .nil
      · exact .nil
    · exact .nil
  | fetched generation epoch reply =>
    simp only [Deployer.passing, h.vigil]
    split
    · split
      · exact .cons (h.mirrored hF _ _).shown .nil
      · exact .nil
    · exact .nil
  | _ => exact .nil

/-! ## Every event of an attempt -/

/-- **Two deployers in tandem take an event of the attempt alike**, and ask for the same on it. -/
theorem Tandem.step (h : Tandem F works d d') (hm : m.Like works m') {e : Event}
    (he : e.isOfAttempt = true) :
    Tandem F works (d.step m e).1 (d'.step m' e).1 ∧ (d'.step m' e).2 = (d.step m e).2 := by
  cases e with
  | answer i answer => exact h.answered hF hm i answer
  | wake => exact h.wake hF hm
  | fetched | subscribed | batch | closed =>
    simp only [Deployer.step, hm.clock]
    exact ⟨h.stepVigil hF hm _, trivial⟩
  | _ => cases he

end Parts

theorem Tandem.settleRelease (h : Tandem F works d d') (hgone : d'.isGone = d.isGone) :
    Tandem F works d.settleRelease d'.settleRelease := by
  unfold Deployer.settleRelease
  rw [hgone]
  split
  · exact { h with generation := congrArg (· + 1) h.generation, vigil := rfl }
  · exact h

end Deployer

/-- What an event does to a vigil depends on the clock only. -/
theorem Vigil.react?_like {works : Prop} {m m' : Moment} (hm : m.Like works m') (v : Vigil) (e : Event) :
    v.react? m' e = v.react? m e := by
  have hwake : ∀ lookout : Lookout, lookout.wake m' v.generation = lookout.wake m v.generation := by
    intro lookout
    cases lookout <;> simp only [Lookout.wake, hm.clock]
  have htell : ∀ lookout, e.tell m' lookout = e.tell m lookout := by
    intro lookout
    cases e <;> simp only [Event.tell, hm.clock]
  unfold react?
  split
  · rw [hm.clock, hwake]
  · rw [htell]

/-! ## Relays -/

namespace Relay

/-- The states that a relay shows on an occurrence before the one that it keeps. -/
def passing (m : Moment) (r : Relay) (x : Occurrence) : List DeployState :=
  if r.deployer.isGone then []
  else
    match x with
    | .event e => if (r.ahead.bind (·.react? m e)).isSome then [] else r.deployer.passing m e
    | .look =>
      match r.deployer.vigil, r.ahead with
      | some v, some w => [(r.deployer.mirrored w (w.lookout.version != v.lookout.version)).state.value]
      | _, _ => []

/-- The states that a relay shows on an occurrence. -/
def shows (r : Relay) (x : Moment × Occurrence) : List DeployState :=
  r.passing x.1 x.2 ++ [(r.step x).deployer.state.value]

/-- All that a relay shows, occurrence by occurrence. -/
def film (r : Relay) : List (Moment × Occurrence) → List (List DeployState)
  | [] => []
  | x :: xs => r.shows x :: (r.step x).film xs

/-- Two relays whose deployers are in tandem, with the same task ahead of them. -/
structure Tandem (F : Front → Front → Prop) (works : Prop) (r r' : Relay) : Prop where
  deployer : Deployer.Tandem F works r.deployer r'.deployer
  ahead : r'.ahead = r.ahead

variable {F : Front → Front → Prop} {works : Prop} {m m' : Moment} {r r' : Relay} {e : Event}

theorem trace_take (hgone : r.deployer.isGone = false) (m : Moment) (e : Event) :
    (r.take m e).1.trace = r.trace ++ [(e, (r.take m e).2)] := by
  simp only [Relay.take, hgone, Bool.false_eq_true, if_false]
  split <;> rfl

theorem seen_take (m : Moment) (r : Relay) (e : Event) : (r.take m e).1.seen = r.seen := by
  unfold Relay.take
  split
  · rfl
  · split <;> rfl

theorem Tandem.react?_eq (h : Tandem F works r r') (hm : m.Like works m') (e : Event) :
    r'.ahead.bind (·.react? m' e) = r.ahead.bind (·.react? m e) := by
  rw [h.ahead]
  exact congrArg _ (funext fun v => v.react?_like hm e)

/-- An event that two deployers take alike is taken alike by their relays, unless it ends one of the
deployers only. -/
theorem Tandem.take (h : Tandem F works r r') (hm : m.Like works m')
    (hgone : r'.deployer.isGone = r.deployer.isGone)
    (hstep : Deployer.Tandem F works (r.deployer.step m e).1 (r'.deployer.step m' e).1)
    (heffects : (r'.deployer.step m' e).2 = (r.deployer.step m e).2)
    (hnext : (r'.take m' e).1.deployer.isGone = (r.take m e).1.deployer.isGone) :
    Tandem F works (r.take m e).1 (r'.take m' e).1 ∧ (r'.take m' e).2 = (r.take m e).2 := by
  unfold Relay.take at hnext ⊢
  rw [hgone, h.react?_eq hm] at hnext ⊢
  split
  · exact ⟨h, rfl⟩
  · rename_i hthere
    rw [if_neg hthere, if_neg hthere] at hnext
    split
    · exact ⟨⟨h.deployer, rfl⟩, rfl⟩
    · rename_i hnone
      simp only [hnone] at hnext
      have hthere' : r'.deployer.isGone = false := hgone.trans (eq_false_of_ne_true hthere)
      simp only [Deployer.handle, hthere', eq_false_of_ne_true hthere, Bool.false_eq_true, if_false,
        settleRelease_isGone] at hnext ⊢
      have hsettled := hstep.settleRelease hnext
      exact ⟨⟨hsettled, by rw [h.ahead, hsettled.vigil]⟩, heffects⟩

theorem trace_look (m : Moment) (r : Relay) : (r.look m).trace = r.trace := by
  unfold Relay.look
  split
  · rfl
  · split <;> rfl

theorem Tandem.look (hF : Likeness F) (h : Tandem F works r r') (hm : m.Like works m')
    (hgone : r'.deployer.isGone = r.deployer.isGone) : Tandem F works (r.look m) (r'.look m') := by
  unfold Relay.look
  rw [hgone, h.deployer.vigil, h.ahead]
  split
  · exact h
  · split
    · rename_i v w _ _
      have hlooked := h.deployer.observe hF hm w (w.lookout.version != v.lookout.version)
      exact ⟨hlooked, congrArg (carry r.ahead) hlooked.vigil⟩
    · exact ⟨h.deployer, rfl⟩

/-! ## What is shown -/

/-- What a relay shows in the end of an event is what its deployer has stepped to, if it has. -/
private theorem shown_take (h : Tandem F works r r') (hm : m.Like works m')
    (hgone : r'.deployer.isGone = r.deployer.isGone)
    (hstep : Deployer.Tandem F works (r.deployer.step m e).1 (r'.deployer.step m' e).1) :
    Likeness.Shown F (r.take m e).1.deployer.state.value (r'.take m' e).1.deployer.state.value := by
  unfold Relay.take
  rw [hgone, h.react?_eq hm]
  split
  · exact h.deployer.shown
  · rename_i hthere
    have hthere' : r'.deployer.isGone = false := hgone.trans (eq_false_of_ne_true hthere)
    split
    · exact h.deployer.shown
    · simp only [Deployer.handle, hthere', eq_false_of_ne_true hthere, Bool.false_eq_true, if_false,
        settleRelease_state]
      exact hstep.shown

theorem Tandem.shows_event (hF : Likeness F) (h : Tandem F works r r') (hm : m.Like works m')
    (hgone : r'.deployer.isGone = r.deployer.isGone)
    (hstep : Deployer.Tandem F works (r.deployer.step m e).1 (r'.deployer.step m' e).1) :
    List.Forall₂ (Likeness.Shown F) (r.shows (m, .event e)) (r'.shows (m', .event e)) := by
  refine List.rel_append ?_ (.cons (shown_take h hm hgone hstep) .nil)
  simp only [Relay.passing, hgone, h.react?_eq hm]
  split
  · exact .nil
  · split
    · exact .nil
    · exact h.deployer.passing hF m m' e

theorem Tandem.shows_look (hF : Likeness F) (h : Tandem F works r r') (hm : m.Like works m')
    (hgone : r'.deployer.isGone = r.deployer.isGone) :
    List.Forall₂ (Likeness.Shown F) (r.shows (m, .look)) (r'.shows (m', .look)) := by
  refine List.rel_append ?_ (.cons (h.look hF hm hgone).deployer.shown .nil)
  simp only [Relay.passing, hgone, h.deployer.vigil, h.ahead]
  split
  · exact .nil
  · split
    · exact .cons (h.deployer.mirrored hF _ _).shown .nil
    · exact .nil

end Relay

end ChainProvision
