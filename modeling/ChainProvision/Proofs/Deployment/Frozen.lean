import ChainProvision.Proofs.Deployment.Derived
import ChainProvision.Proofs.Deployment.Strategy
import ChainProvision.Proofs.Deployment.Tandem

/-!
# Inputs do not reach a running attempt

An attempt goes by what was entered before it began.  What is entered while it runs, and what is found
out on that, shows in the state only as the outcome of the choice of a service, and goes no further:
neither into what is asked for, nor into what the stores keep.

## Main definitions

* `DeployState.SaveServiceError`: states that differ at most in the outcome of that choice;
* `Deployer.Front.Frozen`, `Relay.Frozen`: two fronts, two relays, with the same running attempt.

## Main statements

- `Deployer.frozen_of_input`: an input changes the front of a running attempt only.
- `Relay.Frozen.run`: what is entered on the way leaves two relays as alike as they were.
- `Relay.running_attempt_is_frozen`: two runs of an attempt that differ in what is entered.
-/

namespace ChainProvision

open Deployer

/-- States that differ at most in the outcome of the choice of a service. -/
def DeployState.SaveServiceError (s s' : DeployState) : Prop :=
  ∃ serviceError, s' = { s with serviceError }

namespace Deployer

variable {m m' : Moment} {d d' : Deployer} {e : Event} {works : Prop}

/-! ## The fronts of a running attempt -/

/-- Two fronts of a running attempt, which differ at most in what was entered and found out. -/
structure Front.Frozen (x y : Front) : Prop where
  running : x.state.value.status ≠ .idle
  shut : x.state.value.canDeploy = false
  same : x.state.value.SaveServiceError y.state.value

theorem Front.Frozen.symm {x y : Front} (h : x.Frozen y) : y.Frozen x := by
  obtain ⟨hrunning, hshut, serviceError, hsame⟩ := h
  exact ⟨by rw [hsame]; exact hrunning, by rw [hsame]; exact hshut, _, by rw [hsame]⟩

theorem Front.Frozen.trans {x y z : Front} (hxy : x.Frozen y) (hyz : y.Frozen z) : x.Frozen z := by
  obtain ⟨hrunning, hshut, serviceError, hsame⟩ := hxy
  obtain ⟨-, -, serviceError', hsame'⟩ := hyz
  exact ⟨hrunning, hshut, serviceError', by rw [hsame', hsame]⟩

theorem moved_with {f : DeployState → DeployState} (hf : Pertains f) (raised : Option DeployEvent)
    (s : DeployState) (serviceError : Option ValidationError) :
    moved f raised { s with serviceError } = { moved f raised s with serviceError } := by
  cases raised with
  | none => exact hf.serviceError s serviceError
  | some e =>
    unfold moved
    dsimp only
    rw [hf.serviceError]
    cases hnext : (f s).status.advance e <;> simp [DeployState.advance, hnext]

theorem moved_running {f : DeployState → DeployState} (hf : Pertains f) {raised : Option DeployEvent}
    (hraised : raised ≠ some .reset) {s : DeployState} (h : s.status ≠ .idle) :
    (moved f raised s).status ≠ .idle := by
  have hf' : (f s).status ≠ .idle := by rwa [hf.status]
  cases raised with
  | none => exact hf'
  | some e =>
    intro hidle
    exact hf' (DeployState.idle_of_advance (fun he => hraised (congrArg some he)) hidle)

/-- **Nothing that an attempt does ends the likeness**: it goes on from the state, and no change of it
reads what was entered since. -/
theorem likeness_frozen : Likeness Front.Frozen where
  status := by
    rintro x y ⟨-, -, serviceError, hsame⟩
    rw [hsame]
  change := by
    rintro x y settings f raised ⟨hrunning, -, serviceError, hsame⟩ hf hraised
    have hrunning := moved_running hf hraised hrunning
    -- Whatever was entered, nothing can start beside what is running.
    have hshut := Inputs.canDeploy_of_not_idle hrunning x.inputs settings
    have hshut' : y.inputs.canDeploy (moved f raised y.state.value) settings = false := by
      rw [hsame, moved_with hf]
      exact Inputs.canDeploy_of_not_idle hrunning y.inputs settings
    refine ⟨hrunning, hshut, serviceError, ?_⟩
    simp only [Front.change, Observed.value_set, hshut, hshut']
    rw [hsame, moved_with hf]

theorem Tandem.symm (h : Tandem Front.Frozen works d d') : Tandem Front.Frozen works d' d where
  settings := h.settings.symm
  encoder := h.encoder.symm
  generation := h.generation.symm
  tracker := h.tracker.symm
  vigil := h.vigil.symm
  deploys := h.deploys.symm
  log := h.log.symm
  front := h.front.symm
  journal hworks := (h.journal hworks).symm
  shelf hworks := (h.shelf hworks).symm

theorem Tandem.trans {d'' : Deployer} (h : Tandem Front.Frozen works d d')
    (h' : Tandem Front.Frozen works d' d'') : Tandem Front.Frozen works d d'' where
  settings := h'.settings.trans h.settings
  encoder := h'.encoder.trans h.encoder
  generation := h'.generation.trans h.generation
  tracker := h'.tracker.trans h.tracker
  vigil := h'.vigil.trans h.vigil
  deploys := h'.deploys.trans h.deploys
  log := h'.log.trans h.log
  front := h.front.trans h'.front
  journal hworks := (h'.journal hworks).trans (h.journal hworks)
  shelf hworks := (h'.shelf hworks).trans (h.shelf hworks)

/-! ## What is entered -/

/-- Whether an event is of the inputs: something is entered, or found out for it. -/
def Event.isInput : Event → Bool
  | .form _ => true
  | .account _ => true
  | .mode _ => true
  | .service _ => true
  | .serviceRead _ _ => true
  | .discover => true
  | .operatorsRead _ _ => true
  | _ => false


/-- **An input changes the front of a running attempt only**, and there the outcome of the choice of a
service. -/
theorem frozen_of_input (h : d.Coherent) (hderived : d.Derived)
    (hrunning : d.state.value.status ≠ .idle) (he : e.isInput = true) (m : Moment) :
    Tandem Front.Frozen works d (d.step m e).1 := by
  have hnext := hderived.step m e
  have hturn := turn_step m h e
  generalize (d.step m e).1 = d' at hnext hturn
  generalize (d.step m e).2 = effects at hturn
  have hshut : d.state.value.canDeploy = false :=
    hderived.canDeploy.trans (Inputs.canDeploy_of_not_idle hrunning _ _)
  have hnone : d.attemptOf e = none := by
    cases e <;> first | rfl | cases he
  cases hturn with
  | ignored =>
    exact ⟨rfl, rfl, rfl, rfl, rfl, rfl, rfl, ⟨hrunning, hshut, _, rfl⟩, fun _ => rfl, fun _ => rfl⟩
  | @entered e inputs checks discoveries released state effects _ _ _ hsame _ _ =>
    -- The kind and the route move only while idle, and nothing can start before or after.
    obtain ⟨mode, serviceError, isNewService, canDeploy, hstate, hkept⟩ := hsame
    obtain ⟨rfl, rfl⟩ := hkept hrunning
    have hshut' : state.value.canDeploy = false := by
      refine hnext.canDeploy.trans (Inputs.canDeploy_of_not_idle ?_ _ _)
      show state.value.status ≠ .idle
      rw [hstate]
      exact hrunning
    have hfront : state.value = { d.state.value with serviceError } := by
      rw [hstate] at hshut' ⊢
      obtain rfl : canDeploy = false := hshut'
      rw [← hshut]
    exact ⟨rfl, rfl, rfl, rfl, rfl, rfl, rfl, ⟨hrunning, hshut, serviceError, hfront⟩, fun _ => rfl,
      fun _ => rfl⟩
  | looked _ hattempt => simp [hnone] at hattempt
  | found _ hattempt => simp [hnone] at hattempt
  | lost _ hattempt => simp [hnone] at hattempt
  | _ => cases he

/-- A running attempt is not begun again. -/
theorem begin_of_running (hrunning : d.state.value.status ≠ .idle) (m : Moment) :
    d.begin m = ({ d with deploys := d.deploys ++ [.ended none] }, []) := by
  have hopening : d.opening = .notReady :=
    Classical.not_not.mp fun hopening => hrunning (status_eq_idle_of_opening hopening)
  unfold begin
  rw [hopening]

/-- **Two deployers with the same running attempt take every event alike** that is no input, up to the
reset. -/
theorem Tandem.step_of_running (h : Tandem Front.Frozen works d d') (hm : m.Like works m')
    (he : e.isInput = false) (hreset : e ≠ .reset) :
    Tandem Front.Frozen works (d.step m e).1 (d'.step m' e).1 ∧ (d'.step m' e).2 = (d.step m e).2 := by
  cases hattempt : e.isOfAttempt with
  | true => exact h.step likeness_frozen hm hattempt
  | false =>
    cases e with
    | deploy =>
      simp only [Deployer.step, begin_of_running h.front.running,
        begin_of_running h.symm.front.running]
      exact ⟨{ h with deploys := congrArg (· ++ [.ended none]) h.deploys }, trivial⟩
    | release =>
      -- Whether the handle is held is of the front, and no attempt reads it.
      simp only [Deployer.step]
      exact ⟨{ h with front := ⟨h.front.running, h.front.shut, h.front.same⟩ }, trivial⟩
    | reset => exact absurd rfl hreset
    | form | account | mode | service | serviceRead | discover | operatorsRead => cases he
    | _ => cases hattempt

end Deployer

/-! ## Relays -/

namespace Relay

variable {settings : Settings} {m : Moment} {e : Event} {r r' : Relay} {x : Moment × Occurrence}
  {xs ys : List (Moment × Occurrence)}

/-- Whether an input happens. -/
def Occurrence.isInput : Occurrence → Bool
  | .event e => e.isInput
  | .look => false

/-- Nothing happens to a relay whose deployer is no more. -/
theorem step_of_isGone (hgone : r.deployer.isGone = true) (x : Moment × Occurrence) : r.step x = r := by
  obtain ⟨m, occurrence⟩ := x
  cases occurrence with
  | event e => simp [Relay.step, Relay.take, hgone]
  | look => simp [Relay.step, Relay.look, hgone]

theorem isGone_of_step (h : (r.step x).deployer.isGone = false) : r.deployer.isGone = false := by
  cases hgone : r.deployer.isGone with
  | false => rfl
  | true =>
    rw [step_of_isGone hgone, hgone] at h
    cases h

theorem isGone_of_run (h : (r.run xs).deployer.isGone = false) : r.deployer.isGone = false := by
  induction xs generalizing r with
  | nil => exact h
  | cons x xs ih => exact isGone_of_step (ih h)

theorem derived_look (h : r.deployer.Derived) (m : Moment) : (r.look m).deployer.Derived := by
  unfold Relay.look
  split
  · exact h
  · split
    · exact h.observe m _ _
    · exact h

theorem derived_step (h : r.deployer.Derived) (x : Moment × Occurrence) :
    (r.step x).deployer.Derived := by
  obtain ⟨m, occurrence⟩ := x
  cases occurrence with
  | event e =>
    show (r.take m e).1.deployer.Derived
    rcases take_cases m r e with ⟨htake, -⟩ | ⟨v, w, effects, -, -, -, htake⟩ | ⟨-, -, htake⟩
    · rw [htake]
      exact h
    · rw [htake]
      exact h
    · rw [htake]
      exact h.handle m e
  | look => exact derived_look h m

theorem derived_run (h : r.deployer.Derived) (xs : List (Moment × Occurrence)) :
    (r.run xs).deployer.Derived := by
  induction xs generalizing r with
  | nil => exact h
  | cons x xs ih => exact ih (derived_step h x)

/-- States of a running attempt that differ at most in the outcome of the choice of a service. -/
def SameShown (s s' : DeployState) : Prop := s.canDeploy = false ∧ s.SaveServiceError s'

/-- Two relays with the same running attempt; they have asked for the same, inputs apart. -/
structure Frozen (settings : Settings) (r r' : Relay) : Prop where
  level : r.Level settings
  derived : r.deployer.Derived
  level' : r'.Level settings
  derived' : r'.deployer.Derived
  tandem : Tandem Front.Frozen True r r'
  trace : r'.trace.filter (!·.1.isInput) = r.trace.filter (!·.1.isInput)

theorem Frozen.refl (h : r.Level settings) (hderived : r.deployer.Derived)
    (hrunning : r.deployer.state.value.status ≠ .idle) : Frozen settings r r where
  level := h
  derived := hderived
  level' := h
  derived' := hderived
  tandem :=
    have hshut : r.deployer.state.value.canDeploy = false :=
      hderived.canDeploy.trans (Inputs.canDeploy_of_not_idle hrunning _ _)
    ⟨⟨rfl, rfl, rfl, rfl, rfl, rfl, rfl, ⟨hrunning, hshut, _, rfl⟩, fun _ => rfl, fun _ => rfl⟩, rfl⟩
  trace := rfl

theorem Frozen.symm (h : Frozen settings r r') : Frozen settings r' r where
  level := h.level'
  derived := h.derived'
  level' := h.level
  derived' := h.derived
  tandem := ⟨h.tandem.deployer.symm, h.tandem.ahead.symm⟩
  trace := h.trace.symm

theorem Frozen.running (h : Frozen settings r r') : r.deployer.state.value.status ≠ .idle :=
  h.tandem.deployer.front.running

private theorem react?_of_isInput (he : e.isInput = true) (m : Moment) (v : Vigil) :
    v.react? m e = none := by
  cases e <;> first | rfl | cases he

/-- A relay leaves an input to its deployer, whose task it does not reach. -/
private theorem tandem_take (h : r.Level settings) (hderived : r.deployer.Derived)
    (hrunning : r.deployer.state.value.status ≠ .idle) (he : e.isInput = true)
    (hgone : (r.take m e).1.deployer.isGone = false) :
    Tandem Front.Frozen True r (r.take m e).1 := by
  rcases take_cases m r e with ⟨htake, hgone'⟩ | ⟨v, w, effects, -, -, hreact, -⟩ | ⟨hthere, -, htake⟩
  · rw [htake, hgone'] at hgone
    cases hgone
  · simp [react?_of_isInput he] at hreact
  · -- The vigil is kept, so its task goes on from where it was.
    have hstep : Deployer.Tandem Front.Frozen True r.deployer (r.deployer.step m e).1 :=
      frozen_of_input h.coherent hderived hrunning he m
    rw [htake] at hgone ⊢
    simp only [handle, hthere, Bool.false_eq_true, if_false, settleRelease_isGone] at hgone ⊢
    have hkept : (r.deployer.step m e).1.settleRelease = (r.deployer.step m e).1 := by
      simp [settleRelease, hgone]
    rw [hkept]
    exact ⟨hstep, by rw [hstep.vigil, h.carry_vigil]⟩

/-- **An input on the way is no matter**, as long as the deployer lives on. -/
theorem Frozen.input (h : Frozen settings r r') (hx : x.2.isInput = true)
    (hgone : (r'.step x).deployer.isGone = false) : Frozen settings r (r'.step x) := by
  have hnext := derived_step h.derived' x
  have hlevel := h.level'.step x
  obtain ⟨m, occurrence⟩ := x
  cases occurrence with
  | look => cases hx
  | event e =>
    have he : e.isInput = true := hx
    have hthere := isGone_of_step hgone
    have htaken := tandem_take h.level' h.derived' h.symm.running he hgone
    have htrace : (r'.take m e).1.trace.filter (!·.1.isInput) = r.trace.filter (!·.1.isInput) := by
      rw [trace_take hthere, List.filter_append, h.trace]
      simp [he]
    exact ⟨h.level, h.derived, hlevel, hnext,
      ⟨h.tandem.deployer.trans htaken.deployer, htaken.ahead.trans h.tandem.ahead⟩, htrace⟩

private theorem sameShown_of_shown {shown shown' : List DeployState}
    (h : List.Forall₂ (Likeness.Shown Front.Frozen) shown shown') :
    List.Forall₂ SameShown shown shown' := by
  refine h.imp fun s s' ⟨x, y, hfront, hs, hs'⟩ => ?_
  rw [← hs, ← hs']
  exact ⟨hfront.shut, hfront.same⟩

/-- What else happens shows the same. -/
theorem Frozen.shows (h : Frozen settings r r') (hx : x.2.isInput = false)
    (hreset : x.2 ≠ .event .reset) (hgone : r.deployer.isGone = false)
    (hgone' : r'.deployer.isGone = false) : List.Forall₂ SameShown (r.shows x) (r'.shows x) := by
  apply sameShown_of_shown
  have hsame : r'.deployer.isGone = r.deployer.isGone := hgone'.trans hgone.symm
  obtain ⟨m, occurrence⟩ := x
  have hm : m.Like True m := ⟨rfl, rfl, fun _ => rfl⟩
  cases occurrence with
  | look => exact h.tandem.shows_look likeness_frozen hm hsame
  | event e =>
    have he : e ≠ .reset := fun he => hreset (congrArg _ he)
    exact h.tandem.shows_event likeness_frozen hm hsame
      (h.tandem.deployer.step_of_running hm hx he).1

private theorem Frozen.take (h : Frozen settings r r') (he : e.isInput = false) (hreset : e ≠ .reset)
    (hgone : (r.take m e).1.deployer.isGone = false)
    (hgone' : (r'.take m e).1.deployer.isGone = false) :
    Tandem Front.Frozen True (r.take m e).1 (r'.take m e).1 ∧
      (r'.take m e).1.trace.filter (!·.1.isInput) = (r.take m e).1.trace.filter (!·.1.isInput) := by
  have hm : m.Like True m := ⟨rfl, rfl, fun _ => rfl⟩
  have hthere : r.deployer.isGone = false := isGone_of_step (x := ⟨m, .event e⟩) hgone
  have hthere' : r'.deployer.isGone = false := isGone_of_step (x := ⟨m, .event e⟩) hgone'
  obtain ⟨hstep, heffects⟩ := h.tandem.deployer.step_of_running hm he hreset
  obtain ⟨htandem, hasked⟩ := h.tandem.take hm (hthere'.trans hthere.symm) hstep heffects
    (hgone'.trans hgone.symm)
  refine ⟨htandem, ?_⟩
  rw [trace_take hthere, trace_take hthere', List.filter_append, List.filter_append, h.trace, hasked]

/-- **What else happens leaves two relays as alike as they were**, as long as the deployers live on. -/
theorem Frozen.step (h : Frozen settings r r') (hx : x.2.isInput = false)
    (hreset : x.2 ≠ .event .reset) (hgone : (r.step x).deployer.isGone = false)
    (hgone' : (r'.step x).deployer.isGone = false) : Frozen settings (r.step x) (r'.step x) := by
  obtain ⟨htandem, htrace⟩ : Tandem Front.Frozen True (r.step x) (r'.step x) ∧
      (r'.step x).trace.filter (!·.1.isInput) = (r.step x).trace.filter (!·.1.isInput) := by
    obtain ⟨m, occurrence⟩ := x
    cases occurrence with
    | event e =>
      have hreset' : e ≠ .reset := fun he => hreset (congrArg _ he)
      exact h.take hx hreset' hgone hgone'
    | look =>
      have hsame : r'.deployer.isGone = r.deployer.isGone :=
        (isGone_of_step hgone').trans (isGone_of_step hgone).symm
      refine ⟨h.tandem.look likeness_frozen ⟨rfl, rfl, fun _ => rfl⟩ hsame, ?_⟩
      simp only [Relay.step, trace_look, h.trace]
  exact ⟨h.level.step x, derived_step h.derived x, h.level'.step x, derived_step h.derived' x, htandem,
    htrace⟩

theorem Frozen.inputs (h : Frozen settings r r') (hxs : ∀ x ∈ xs, x.2.isInput = true)
    (hgone : (r'.run xs).deployer.isGone = false) : Frozen settings r (r'.run xs) := by
  induction xs generalizing r' with
  | nil => exact h
  | cons x xs ih =>
    have hstep := h.input (hxs x List.mem_cons_self) (isGone_of_run hgone)
    exact ih hstep (fun y hy => hxs y (List.mem_cons_of_mem _ hy)) hgone

/-- **Two runs of an attempt that differ in inserted inputs.**  The induction is on the one; what the
other has more of stands before what both have. -/
theorem Frozen.run (h : Frozen settings r r') (hreset : ∀ x ∈ xs, x.2 ≠ .event .reset)
    (hsame : xs.filter (!·.2.isInput) = ys.filter (!·.2.isInput))
    (hgone : (r.run xs).deployer.isGone = false) (hgone' : (r'.run ys).deployer.isGone = false) :
    Frozen settings (r.run xs) (r'.run ys) := by
  induction xs generalizing r r' ys with
  | nil =>
    -- All that the other run still has is entered.
    refine h.inputs (fun y hy => ?_) hgone'
    have hnone := List.filter_eq_nil_iff.mp hsame.symm y hy
    simpa using hnone
  | cons x xs ih =>
    have hreset' : ∀ y ∈ xs, y.2 ≠ .event .reset := fun y hy => hreset y (List.mem_cons_of_mem _ hy)
    cases hx : x.2.isInput with
    | true =>
      rw [List.filter_cons_of_neg (by simp [hx])] at hsame
      have hstep := (h.symm.input hx (isGone_of_run hgone)).symm
      exact ih hstep hreset' hsame hgone hgone'
    | false =>
      -- The other run has the same after what it enters before.
      rw [List.filter_cons_of_pos (by simp [hx])] at hsame
      obtain ⟨before, after, rfl, hbefore, -, hafter⟩ := List.filter_eq_cons_iff.mp hsame.symm
      simp only [run_append, run_cons] at hgone hgone' ⊢
      have hthere' := isGone_of_run hgone'
      have hbefore' := h.inputs (fun y hy => by simpa using hbefore y hy) (isGone_of_step hthere')
      have hstep := hbefore'.step hx (hreset x List.mem_cons_self) (isGone_of_run hgone) hthere'
      exact ih hstep hreset' hafter.symm hgone hgone'

/-- **A running attempt is frozen.**  Two runs coincide until an attempt is under way; from then on,
until the next reset, they differ only in what is entered and found out for the inputs.  As long as
the deployers live on they show the same states at corresponding points but for the outcome of the
choice of a service, ask for the same and keep the same in their stores, and no deployment can
start. -/
theorem running_attempt_is_frozen (settings : Settings) (encoder : Encoder) (mode : ResourceKind)
    {xs ys ys' : List (Moment × Occurrence)}
    (hrunning : ((Relay.of (new settings encoder mode)).run xs).deployer.state.value.status ≠ .idle)
    (hreset : ∀ x ∈ ys, x.2 ≠ .event .reset)
    (hsame : ys.filter (!·.2.isInput) = ys'.filter (!·.2.isInput))
    (hgone : ((Relay.of (new settings encoder mode)).run (xs ++ ys)).deployer.isGone = false)
    (hgone' : ((Relay.of (new settings encoder mode)).run (xs ++ ys')).deployer.isGone = false) :
    let r := (Relay.of (new settings encoder mode)).run (xs ++ ys)
    let r' := (Relay.of (new settings encoder mode)).run (xs ++ ys')
    SameShown r.deployer.state.value r'.deployer.state.value ∧
    r'.deployer.journal = r.deployer.journal ∧
    r'.deployer.shelf = r.deployer.shelf ∧
    r'.deployer.deploys = r.deployer.deploys ∧
    r'.trace.filter (!·.1.isInput) = r.trace.filter (!·.1.isInput) ∧
    ∀ x : Moment × Occurrence, x.2.isInput = false → x.2 ≠ .event .reset →
      List.Forall₂ SameShown (r.shows x) (r'.shows x) := by
  intro r r'
  have h : Frozen settings r r' := by
    have hlevel := (level_new settings encoder mode).run xs
    have hderived := derived_run (r := .of (new settings encoder mode))
      (derived_new settings encoder mode) xs
    simp only [r, r', run_append] at hgone hgone' ⊢
    exact (Frozen.refl hlevel hderived hrunning).run hreset hsame hgone hgone'
  have hd := h.tandem.deployer
  exact ⟨⟨hd.front.shut, hd.front.same⟩, hd.journal trivial, hd.shelf trivial, hd.deploys, h.trace,
    fun x hx hx' => h.shows hx hx' hgone hgone'⟩

/-- The start of all that happens to it. -/
private def calm : Relay := .of (new .sample .json .sandbox)

/-- A sandbox that the wallet is asked for. -/
private def askedSandbox : List (Moment × Occurrence) := [
  (⟨0, .epoch, {}⟩, .event (.form { name := "box", image := "debian" })),
  (⟨1, .epoch, {}⟩, .event (.account (some .zero))),
  (⟨2, .epoch, {}⟩, .event .deploy)]

/-- The answers to it, with what is entered before two of them. -/
private def answeredSandbox (hash : TxHash) (first second : List Event) : List (Moment × Occurrence) :=
  first.map (⟨⟨3, .epoch, {}⟩, .event ·⟩) ++
    (⟨4, .epoch, {}⟩, .event (.answer 0 (.signature (.ok ())))) ::
    second.map (⟨⟨5, .epoch, {}⟩, .event ·⟩) ++ [
    (⟨6, .epoch, {}⟩, .event (.answer 0 (.broadcast (.ok hash)))),
    (⟨7, .epoch, {}⟩, .event (.answer 0 (.receipt (.ok jobReceipt))))]

private def quietSandbox (hash : TxHash) : List (Moment × Occurrence) := answeredSandbox hash [] []

/-- Another form is entered, the wallet leaves, and a service is chosen that nobody knows. -/
private def busySandbox (hash : TxHash) : List (Moment × Occurrence) :=
  answeredSandbox hash [.form {}, .service (some ⟨.ofNat 9⟩), .discover]
    [.account none, .mode .dedicated, .serviceRead 0 ⟨.ok true, .ok none, .ok [], .ok true⟩]

theorem running_attempt_is_frozen_busySandbox :
    let hash : TxHash := ⟨[1], by decide, by decide⟩
    let quiet := calm.run (askedSandbox ++ quietSandbox hash)
    let busy := calm.run (askedSandbox ++ busySandbox hash)
    ((calm.run askedSandbox).deployer.state.value.status ≠ .idle ∧
      (∀ x ∈ quietSandbox hash, x.2 ≠ .event .reset) ∧
      (quietSandbox hash).filter (!·.2.isInput) = (busySandbox hash).filter (!·.2.isInput) ∧
      quiet.deployer.isGone = false ∧ busy.deployer.isGone = false) ∧
    SameShown quiet.deployer.state.value busy.deployer.state.value ∧
      quiet.deployer.state.value.status = .provisioning ∧
      quiet.deployer.state.value.serviceError = none ∧
      busy.deployer.state.value.serviceError = some .notFound := by
  intro hash quiet busy
  have hrunning : (calm.run askedSandbox).deployer.state.value.status ≠ .idle := by decide
  have hreset : ∀ x ∈ quietSandbox hash, x.2 ≠ .event .reset := by
    simp [quietSandbox, answeredSandbox]
  have hsame : (quietSandbox hash).filter (!·.2.isInput) = (busySandbox hash).filter (!·.2.isInput) :=
    rfl
  have hgone : quiet.deployer.isGone = false := by decide
  have hgone' : busy.deployer.isGone = false := by decide
  have hcalm : Relay.of (new .sample .json .sandbox) = calm := rfl
  have hfrozen := @running_attempt_is_frozen .sample .json .sandbox askedSandbox
    (quietSandbox hash) (busySandbox hash) hrunning hreset hsame hgone hgone'
  rw [hcalm] at hfrozen
  exact ⟨⟨hrunning, hreset, hsame, hgone, hgone'⟩, hfrozen.1, by decide, by decide, by decide⟩

end Relay

end ChainProvision
