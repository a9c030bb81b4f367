import ChainProvision.Proofs.Deployment.JobRoute
import ChainProvision.Proofs.Deployment.Runs
import ChainProvision.Proofs.Deployment.ServiceRoute

/-!
# The task of a vigil

A deployer that waits has a vigil, whose task asks the operator about a call or watches the contract for a
request.  The task may be ahead of what the deployer has seen of it, but it is the one of the vigil, it is for
what the receipt of the attempt named, and it asks for nothing else.

## Main definitions

* `Lookout.Seeks`, `Effect.Seeks`: a lookout, and what it asks for, are for a quarry;
* `Deployer.Vigilant`: a deployer that waits has a vigil;
* `Relay.Level`: the task of a vigil is ahead of what the deployer has seen.

## Main statements

- `Relay.Level.run`: whatever happens, the task is that of the vigil.
- `Relay.Level.ahead_step`: what it is for does not change, and was named by a receipt.
- `Relay.Level.asks`: only the vigil of the current attempt asks, and only for what it is for.
-/

namespace ChainProvision

open Deployer

/-! ## What a lookout is for -/

namespace Lookout

/-- The task that asks the operator. -/
def pollTask? : Lookout → Option PollTask
  | .operator _ poller => poller.task
  | .contract _ => none

/-- The task that watches the contract. -/
def watchTask? : Lookout → Option WatchTask
  | .operator _ _ => none
  | .contract watcher => watcher.task

/-- A lookout is for a quarry: it follows the answers about the call, or the logs of the request. -/
inductive Seeks (settings : Settings) : Quarry → Lookout → Prop where
  | call {id : CallId} {poller : Poller} {x : Inquiry} :
      poller.interval = settings.pollInterval.timerMillis → poller.Follows id x →
      Seeks settings (.call id) (.operator id poller)
  | request {id : RequestId} {watcher : Watcher} {x : Delivery} :
      watcher.Follows ⟨settings.contract, settings.events.serviceInitialized⟩ id.val.val x →
      Seeks settings (.request id) (.contract watcher)

end Lookout

/-- What may be asked for by an attempt that waits for a quarry. -/
inductive Deployer.Effect.Seeks (settings : Settings) (generation : Nat) : Quarry → Effect → Prop where
  | fetch {epoch : Nat} {id : CallId} :
      Seeks settings generation (.call id) (.fetch generation epoch id)
  | subscribe {subscription : Nat} {id : RequestId} :
      Seeks settings generation (.request id)
        (.subscribe generation subscription
          ⟨settings.contract, settings.events.serviceInitialized, some id.text⟩)

namespace Lookout

variable {settings : Settings} {quarry : Quarry} {lookout : Lookout}

theorem seeks_start (settings : Settings) (now : Nat) (quarry : Quarry) :
    (start settings now quarry).Seeks settings quarry := by
  cases quarry with
  | call id => exact .call rfl (Poller.follows_setTarget _ _ _)
  | request id => exact .request (Watcher.follows_setTarget _ _ _ _)

theorem Seeks.wake (h : lookout.Seeks settings quarry) (m : Moment) (g : Nat) :
    (lookout.wake m g).1.Seeks settings quarry := by
  cases h with
  | @call id poller x hinterval hfollows =>
    exact .call ((poller.tick_interval _).trans hinterval) (hfollows.tick m.clock)
  | request hfollows => exact .request (hfollows.wake m.clock)

theorem Seeks.tell (h : lookout.Seeks settings quarry) (m : Moment) (e : Event) :
    (e.tell m lookout).Seeks settings quarry := by
  cases h with
  | @call id poller x hinterval hfollows =>
    cases e with
    | fetched _ epoch reply =>
      exact .call ((poller.answer_interval _ _).trans hinterval) (hfollows.answer epoch reply)
    | _ => exact .call hinterval hfollows
  | request hfollows =>
    cases e with
    | subscribed _ subscription outcome =>
      exact .request (hfollows.subscribed subscription outcome m.clock)
    | batch _ subscription logs => exact .request (hfollows.batch subscription logs)
    | closed _ subscription => exact .request (hfollows.closed subscription m.clock)
    | _ => exact .request hfollows

/-- A lookout asks on behalf of its attempt. -/
theorem attempt?_wake {m : Moment} {g : Nat} {effect : Effect} (h : effect ∈ (lookout.wake m g).2) :
    effect.attempt? = some g := by
  cases lookout with
  | operator call poller =>
    obtain ⟨asked, -, rfl⟩ := List.mem_map.mp h
    rfl
  | contract watcher =>
    obtain ⟨asked, -, rfl⟩ := List.mem_map.mp h
    rfl

/-- A lookout asks for its quarry only. -/
theorem Seeks.asks (h : lookout.Seeks settings quarry) (m : Moment) (g : Nat) :
    ∀ effect ∈ (lookout.wake m g).2, effect.Seeks settings g quarry := by
  intro effect hmem
  cases h with
  | call _ hfollows =>
    obtain ⟨⟨epoch, asked⟩, hasked, rfl⟩ := List.mem_map.mp hmem
    obtain rfl := hfollows.asked_call (Option.mem_toList.mp hasked)
    exact .fetch
  | request hfollows =>
    obtain ⟨⟨subscription, filter⟩, hasked, rfl⟩ := List.mem_map.mp hmem
    obtain rfl := hfollows.asked_filter (Option.mem_toList.mp hasked)
    exact .subscribe

/-- A lookout for a call has a task as long as the operator has not decided.  Without a span between
the polls it has lost it. -/
theorem Seeks.pollTask (h : lookout.Seeks settings quarry) (hpolls : lookout.polls = true)
    (hopen : lookout.verdict? = none) (hinterval : settings.pollInterval.isZero = false) :
    lookout.pollTask?.isSome = true := by
  cases h with
  | @call id poller x hsame hfollows =>
    have hpositive : poller.interval ≠ 0 := by
      simp only [hsame, Span.timerMillis, Span.isZero, beq_eq_false_iff_ne] at hinterval ⊢
      omega
    have hverdict := Inquiry.verdict?_eq hfollows
    rw [hopen] at hverdict
    -- The task is there while it polls; it is lost without a span, and done with a final answer.
    cases hfollows with
    | polling htask _ _ _ _ _ => simp [pollTask?, htask]
    | stalled hzero _ _ _ _ => exact absurd hzero hpositive
    | closed _ _ hclosed _ => simp [hclosed] at hverdict
  | request _ => cases hpolls

/-- A lookout for a request has a task as long as no log has completed it. -/
theorem Seeks.watchTask (h : lookout.Seeks settings quarry) (hpolls : lookout.polls = false)
    (hopen : lookout.verdict? = none) : lookout.watchTask?.isSome = true := by
  cases h with
  | call _ _ => cases hpolls
  | request hfollows =>
    have hverdict := Delivery.verdict?_eq hfollows
    rw [hopen] at hverdict
    cases hfollows with
    | watching _ htask _ _ _ _ => simp [watchTask?, htask]
    | resolved _ hfirst _ =>
      obtain ⟨resource, -, hcompletion⟩ := Log.completion?_of_first? hfirst
      simp [hfirst, hcompletion] at hverdict

theorem pollTask?_of_not_polls (h : lookout.polls = false) : lookout.pollTask? = none := by
  cases lookout with
  | operator call poller => cases h
  | contract watcher => rfl

theorem watchTask?_of_polls (h : lookout.polls = true) : lookout.watchTask? = none := by
  cases lookout with
  | operator call poller => rfl
  | contract watcher => cases h

end Lookout

/-! ## Deployers -/

namespace Deployer

variable {m : Moment} {d d' : Deployer} {e : Event} {effects : List Effect} {v : Vigil}

/-- A deployer that waits has a vigil, and one that is no more has none. -/
structure Vigilant (d : Deployer) : Prop where
  waits : d.isGone = false → d.state.value.status = .provisioning → d.vigil.isSome = true
  gone : d.isGone = true → d.vigil = none

theorem vigilant_new (settings : Settings) (encoder : Encoder) (mode : ResourceKind) :
    Vigilant (new settings encoder mode) where
  waits _ hs := nomatch hs
  gone hgone := nomatch hgone

/-- The wait begins with the vigil and ends with it. -/
theorem Turn.waits (hturn : Turn m d e d' effects)
    (hwaits : d.state.value.status = .provisioning → d.vigil.isSome = true)
    (hs : d'.state.value.status = .provisioning) : d'.vigil.isSome = true := by
  cases hturn with
  | ignored | declined | signed | lapsed | atRest => exact hwaits hs
  | awaited | looked => rfl
  | entered _ _ _ hsame _ _ =>
    obtain ⟨mode, serviceError, isNewService, canDeploy, hstate, -⟩ := hsame
    exact hwaits (by simpa [hstate] using hs)
  | unmanned _ hidle hstate => simp [hstate, hidle] at hs
  | refused _ _ hstate => simp [hstate] at hs
  | opened _ _ hstate => simp [hstate] at hs
  | sent _ _ _ hstate => simp [hstate] at hs
  | fell _ _ _ hstate => simp [hstate] at hs
  | unnumbered _ _ _ hstate _ => simp [hstate] at hs
  | found _ _ hnext hstate _ =>
    obtain ⟨progress, pollError, canDeploy, hstate⟩ := hstate
    simp [hstate, hnext] at hs
  | lost _ _ _ hnext hstate _ =>
    obtain ⟨progress, pollError, canDeploy, hstate⟩ := hstate
    simp [hstate, hnext] at hs
  | discarded hstate => simp [hstate, DeployState.clearAttempt] at hs

theorem Vigilant.handle (hvigilant : d.Vigilant) (h : d.Coherent) (m : Moment) (e : Event) :
    (d.handle m e).1.Vigilant := by
  rcases handled h m e with ⟨-, heq⟩ | ⟨hgone, d', effects, hturn, heq⟩
  · rw [heq]
    exact hvigilant
  · rw [heq]
    constructor
    · intro hgone' hs
      rw [settleRelease_isGone] at hgone'
      rw [settleRelease_state] at hs
      simpa [settleRelease_vigil, hgone'] using hturn.waits (hvigilant.waits hgone) hs
    · intro hgone'
      rw [settleRelease_isGone] at hgone'
      simp [settleRelease_vigil, hgone']

theorem Vigilant.run (hvigilant : d.Vigilant) (h : d.Coherent) (es : List (Moment × Event)) :
    (d.run es).Vigilant := by
  induction es generalizing d with
  | nil => exact hvigilant
  | cons x es ih => exact ih (hvigilant.handle h x.1 x.2) (h.handle x.1 x.2)

theorem showTx_vigil (d : Deployer) (g : Nat) (snapshot : TxSnapshot) :
    (d.showTx g snapshot).vigil = d.vigil := by
  unfold showTx
  cases snapshot.status <;> exact update_vigil _ _ _ _

/-- A receipt of a transaction that was reverted begins no vigil. -/
private theorem vigil_of_reverted {i : Nat} {a : Attempt} {t : Ticket} {receipt : Receipt}
    (hget : d.deploys[i]? = some (.underway a t)) (hreverted : receipt.succeeded = false) (m : Moment) :
    (d.answered m i (.receipt (.ok receipt))).1.vigil = d.vigil := by
  have hp := Tracker.resumed_resume m d.tracker d.journal t (.receipt (.ok receipt))
  unfold answered
  rw [hget]
  dsimp only
  generalize d.tracker.resume m d.journal t (.receipt (.ok receipt)) = p at hp
  cases hp with
  | unasked | unseen => rfl
  | failed => simp [showTx_vigil]
  | confirmed _ _ hsucceeded => simp [hreverted] at hsucceeded

/-- A vigil is kept with its attempt, or it begins with a receipt that gives a number. -/
theorem vigil_of_handle (h : d.Coherent) (hv : (d.handle m e).1.vigil = some v) :
    (∃ w, d.vigil = some w ∧ w.generation = v.generation) ∨
      ∃ i receipt a t hash number, e = .answer i (.receipt (.ok receipt)) ∧
        Relay.Confirms d i a t hash receipt number ∧ v = vigilOf m d.settings a hash number := by
  rcases handled h m e with ⟨-, heq⟩ | ⟨hgone, d', effects, hturn, heq⟩
  · rw [heq] at hv
    exact Or.inl ⟨v, hv, rfl⟩
  · have hv' : d'.vigil = some v := by
      rw [heq, settleRelease_vigil] at hv
      split at hv
      · cases hv
      · exact hv
    cases hturn with
    | found | lost | discarded => cases hv'
    | looked hold _ hgen _ _ _ _ _ _ =>
      obtain rfl := Option.some.inj hv'
      exact Or.inl ⟨_, hold, hgen.symm⟩
    | @awaited i a t hash receipt number _ w _ _ _ hget hengaged hawait hw _ _ hnumber =>
      obtain rfl := Option.some.inj hv'
      have hsucceeded : receipt.succeeded = true := by
        cases hreverted : receipt.succeeded with
        | true => rfl
        | false =>
          -- Nothing would have begun then.
          have hstep : (d.handle m (.answer i (.receipt (.ok receipt)))).1 =
              (d.answered m i (.receipt (.ok receipt))).1.settleRelease := by
            simp [handle, hgone, step]
          rw [hstep, settleRelease_vigil, vigil_of_reverted hget hreverted, hengaged.unwatched,
            ite_self] at hv
          cases hv
      exact Or.inr ⟨i, receipt, a, t, hash, number, rfl,
        ⟨hget, hengaged.attempt, hawait, hsucceeded, hnumber⟩, hw⟩
    | _ => exact Or.inl ⟨v, hv', rfl⟩

end Deployer

/-! ## Relays -/

/-- A vigil has gone on: only its lookout is another. -/
inductive Vigil.Leads (v : Vigil) : Vigil → Prop where
  | intro {next : Lookout} : v.lookout.Leads next → Leads v { v with lookout := next }

namespace Vigil

variable {u v w : Vigil} {m : Moment} {e : Event} {effects : List Effect}

theorem Leads.refl (v : Vigil) : v.Leads v := .intro (.refl _)

theorem Leads.generation_eq (h : v.Leads w) : w.generation = v.generation := by
  cases h
  rfl

theorem Leads.trans (huv : u.Leads v) (hvw : v.Leads w) : u.Leads w := by
  obtain ⟨huv⟩ := huv
  obtain ⟨hvw⟩ := hvw
  exact .intro (huv.trans hvw)

theorem Leads.react? (h : v.Leads w) {next : Vigil} (hreact : w.react? m e = some (next, effects)) :
    v.Leads next := by
  obtain ⟨hnext, hleads⟩ := react?_eq hreact
  rw [hnext]
  exact h.trans (.intro hleads)

/-- Whether an event is for a vigil does not depend on what its lookout has learned. -/
theorem Leads.react?_eq_none (h : v.Leads w) (hreact : w.react? m e = none) : v.react? m e = none := by
  cases h with
  | @intro next hleads =>
    cases hv : v.react? m e with
    | none => rfl
    | some taken =>
      rcases react?_cases hv with ⟨rfl, hintime, -⟩ | ⟨htold, -⟩
      · have hintime' : ({ v with lookout := next } : Vigil).expiry? m.clock = none := hintime
        simp [Vigil.react?, hintime'] at hreact
      · exact absurd htold (told?_ne_of_react? (v := { v with lookout := next }) hreact)

end Vigil

namespace Relay

variable {settings : Settings} {m : Moment} {r : Relay} {e : Event} {x : Moment × Occurrence} {v : Vigil}

/-- How the task of the vigil stands to the deployer: it is ahead of what was seen of it. -/
structure Level (settings : Settings) (r : Relay) : Prop where
  settings : r.deployer.settings = settings
  coherent : r.deployer.Coherent
  staged : Staged r.deployer
  vigilant : r.deployer.Vigilant
  ahead : Option.Rel Vigil.Leads r.deployer.vigil r.ahead

theorem level_new (settings : Settings) (encoder : Encoder) (mode : ResourceKind) :
    Level settings (.of (new settings encoder mode)) where
  settings := rfl
  coherent := coherent_new settings encoder mode
  staged := staged_new settings encoder mode
  vigilant := vigilant_new settings encoder mode
  ahead := .none

/-- A deployer that looked after every event so far may look late from now on. -/
theorem level_afterAll (settings : Settings) (encoder : Encoder) (mode : ResourceKind)
    (es : List (Moment × Event)) : Level settings (.of (afterAll settings encoder mode es)) where
  settings := settings_run (coherent_new settings encoder mode) es
  coherent := coherent_afterAll settings encoder mode es
  staged := (staged_new settings encoder mode).run (coherent_new settings encoder mode) es
  vigilant := (vigilant_new settings encoder mode).run (coherent_new settings encoder mode) es
  ahead := by
    have hrefl : ∀ vigil : Option Vigil, Option.Rel Vigil.Leads vigil vigil
      | none => .none
      | some v => .some (.refl v)
    exact hrefl _

theorem Level.ahead_eq_none (h : r.Level settings) (hv : r.deployer.vigil = none) : r.ahead = none := by
  have hahead := h.ahead
  rw [hv] at hahead
  generalize r.ahead = ahead at hahead
  cases hahead
  rfl

theorem Level.ahead_of_vigil (h : r.Level settings) (hv : r.deployer.vigil = some v) :
    ∃ w, r.ahead = some w ∧ v.Leads w := by
  have hahead := h.ahead
  rw [hv] at hahead
  generalize r.ahead = ahead at hahead
  cases hahead with
  | some hleads => exact ⟨_, rfl, hleads⟩

theorem Level.vigil_of_ahead (h : r.Level settings) (hv : r.ahead = some v) :
    ∃ w, r.deployer.vigil = some w ∧ w.Leads v := by
  have hahead := h.ahead
  rw [hv] at hahead
  generalize r.deployer.vigil = kept at hahead
  cases hahead with
  | some hleads => exact ⟨_, rfl, hleads⟩

/-- The task of a vigil that is kept goes on. -/
theorem Level.carry_vigil (h : r.Level settings) : carry r.ahead r.deployer.vigil = r.ahead := by
  cases hv : r.deployer.vigil with
  | none => rw [h.ahead_eq_none hv, carry_none]
  | some v =>
    obtain ⟨w, hw, hleads⟩ := h.ahead_of_vigil hv
    simp [carry, hw, hleads.generation_eq]

/-- The two ways in which a relay takes an event: its vigil takes it, or its deployer does. -/
theorem take_cases (m : Moment) (r : Relay) (e : Event) :
    (r.take m e = (r, []) ∧ r.deployer.isGone = true) ∨
    (∃ v w effects, r.deployer.isGone = false ∧ r.ahead = some v ∧ v.react? m e = some (w, effects) ∧
      r.take m e = ({ r with ahead := some w, trace := r.trace ++ [(e, effects)] }, effects)) ∨
    (r.deployer.isGone = false ∧ (∀ v, r.ahead = some v → v.react? m e = none) ∧
      r.take m e =
        ({ deployer := (r.deployer.handle m e).1
           ahead := carry r.ahead (r.deployer.handle m e).1.vigil
           trace := r.trace ++ [(e, (r.deployer.handle m e).2)]
           seen := r.seen }, (r.deployer.handle m e).2)) := by
  unfold Relay.take
  split
  · rename_i hgone
    exact Or.inl ⟨rfl, hgone⟩
  · rename_i hgone
    replace hgone := eq_false_of_ne_true hgone
    split
    · rename_i w effects hreact
      obtain ⟨v, hahead, hreact⟩ := Option.bind_eq_some_iff.mp hreact
      exact Or.inr (Or.inl ⟨v, w, effects, hgone, hahead, hreact, rfl⟩)
    · rename_i hreact
      refine Or.inr (Or.inr ⟨hgone, fun v hv => ?_, rfl⟩)
      rw [hv] at hreact
      exact hreact

/-- What a look takes over: the vigil as its task has left it, and its end if the task has decided. -/
theorem Level.look_cases (h : r.Level settings) (m : Moment) :
    ((r.look m).deployer = r.deployer ∧ (r.look m).ahead = r.ahead ∧
      (r.deployer.isGone = true ∨ r.ahead = none)) ∨
    ∃ w, r.deployer.isGone = false ∧ r.ahead = some w ∧ (r.look m).deployer.isGone = false ∧
      Turn m r.deployer .wake (r.look m).deployer [] ∧
      ((r.look m).deployer.vigil = some w ∧ (r.look m).ahead = some w ∧ w.lookout.verdict? = none ∨
        (r.look m).deployer.vigil = none ∧ (r.look m).ahead = none) := by
  unfold Relay.look
  split
  · rename_i hgone
    exact Or.inl ⟨rfl, rfl, Or.inl hgone⟩
  · rename_i hgone
    replace hgone := eq_false_of_ne_true hgone
    cases hv : r.deployer.vigil with
    | none =>
      have hnone := h.ahead_eq_none hv
      exact Or.inl ⟨rfl, rfl, Or.inr hnone⟩
    | some v =>
      obtain ⟨w, hw, ⟨hleads⟩⟩ := h.ahead_of_vigil hv
      rename_i next
      have hvigil := observe_vigil m r.deployer { v with lookout := next }
        (next.version != v.lookout.version)
      have hthere := observe_isGone m r.deployer { v with lookout := next }
        (next.version != v.lookout.version)
      have he : r.deployer.attemptOf .wake = some v.generation := by simp [attemptOf, hv]
      rw [hw]
      refine Or.inr ⟨{ v with lookout := next }, hgone, rfl, hthere.trans hgone,
        turn_observe (w := { v with lookout := next }) hv (h.coherent.vigil hv) he rfl rfl hleads.polls _,
        ?_⟩
      dsimp only
      cases hverdict : next.verdict? with
      | none =>
        rw [hverdict] at hvigil
        exact Or.inl ⟨hvigil, by simp [hvigil, carry], rfl⟩
      | some verdict =>
        rw [hverdict] at hvigil
        exact Or.inr ⟨hvigil, by simp [hvigil]⟩

/-- **Whatever happens, the task is that of the vigil**: it may be ahead of what the deployer has
seen, and it ends with the vigil. -/
theorem Level.step (h : r.Level settings) (x : Moment × Occurrence) : (r.step x).Level settings := by
  obtain ⟨m, occurrence⟩ := x
  cases occurrence with
  | event e =>
    show (r.take m e).1.Level settings
    rcases take_cases m r e with ⟨htake, -⟩ | ⟨w, next, effects, -, hw, hreact, htake⟩ |
      ⟨hgone, hreact, htake⟩
    · rw [htake]
      exact h
    · obtain ⟨v, hv, hleads⟩ := h.vigil_of_ahead hw
      rw [htake]
      refine { h with ahead := ?_ }
      show Option.Rel Vigil.Leads r.deployer.vigil (some next)
      rw [hv]
      exact .some (hleads.react? hreact)
    · rw [htake]
      refine ⟨(settings_run h.coherent [(m, e)]).trans h.settings, h.coherent.handle m e,
        h.staged.handle h.coherent m e, h.vigilant.handle h.coherent m e, ?_⟩
      show Option.Rel Vigil.Leads (r.deployer.handle m e).1.vigil
        (carry r.ahead (r.deployer.handle m e).1.vigil)
      -- A vigil that begins has not been ahead of anything; one that is kept stays as far ahead.
      cases hv : r.deployer.vigil with
      | none =>
        rw [h.ahead_eq_none hv, carry_none]
        cases (r.deployer.handle m e).1.vigil with
        | none => exact .none
        | some v => exact .some (.refl v)
      | some v =>
        obtain ⟨w, hw, hleads⟩ := h.ahead_of_vigil hv
        rw [hw]
        rcases vigil_handle_of_react? h.coherent hgone hv (hleads.react?_eq_none (hreact w hw)) with
          hnone | hsame
        · rw [hnone]
          exact .none
        · rw [hsame]
          simp only [carry, Option.map_some, hleads.generation_eq, if_true]
          exact .some hleads
  | look =>
    show (r.look m).Level settings
    rcases h.look_cases m with ⟨hdeployer, hahead, -⟩ | ⟨w, hgone, -, hgone', hturn, hnext⟩
    · exact ⟨hdeployer ▸ h.settings, hdeployer ▸ h.coherent, hdeployer ▸ h.staged,
        hdeployer ▸ h.vigilant, by rw [hdeployer, hahead]; exact h.ahead⟩
    · refine ⟨hturn.settings_eq.trans h.settings, h.coherent.turn hturn, h.staged.turn h.coherent hturn,
        ⟨?_, ?_⟩, ?_⟩
      · exact fun _ => hturn.waits (h.vigilant.waits hgone)
      · exact fun hgone => by simp [hgone'] at hgone
      · rcases hnext with ⟨hvigil, hahead, -⟩ | ⟨hvigil, hahead⟩
        · rw [hvigil, hahead]
          exact .some (.refl w)
        · rw [hvigil, hahead]
          exact .none

theorem Level.run (h : r.Level settings) (xs : List (Moment × Occurrence)) :
    (r.run xs).Level settings := by
  induction xs generalizing r with
  | nil => exact h
  | cons x xs ih => exact ih (h.step x)

/-- A step does nothing to the deployer, or the deployer takes one turn. -/
theorem Level.step_cases (h : r.Level settings) (x : Moment × Occurrence) :
    (r.step x).deployer = r.deployer ∨
      r.deployer.isGone = false ∧ ∃ e d' effects, Turn x.1 r.deployer e d' effects ∧
        (r.step x).deployer = d'.settleRelease := by
  obtain ⟨m, occurrence⟩ := x
  cases occurrence with
  | event e =>
    rcases take_cases m r e with ⟨htake, -⟩ | ⟨v, w, effects, -, -, -, htake⟩ | ⟨-, -, htake⟩
    · exact Or.inl (congrArg (·.1.deployer) htake)
    · exact Or.inl (congrArg (·.1.deployer) htake)
    · have hnext : (r.step (m, .event e)).deployer = (r.deployer.handle m e).1 :=
        congrArg (·.1.deployer) htake
      rw [hnext]
      rcases handled h.coherent m e with ⟨-, heq⟩ | ⟨hgone, d', effects, hturn, heq⟩
      · exact Or.inl (congrArg Prod.fst heq)
      · exact Or.inr ⟨hgone, e, d', effects, hturn, congrArg Prod.fst heq⟩
  | look =>
    rcases h.look_cases m with ⟨hdeployer, -⟩ | ⟨w, hgone, -, hgone', hturn, -⟩
    · exact Or.inl hdeployer
    · -- A look does not end the deployer.
      have hsettled : (r.look m).deployer.settleRelease = (r.look m).deployer := by
        simp [settleRelease, hgone']
      exact Or.inr ⟨hgone, .wake, _, [], hturn, hsettled.symm⟩

/-- What every turn keeps, and the end of a released deployer, holds after every run. -/
theorem Level.keeps_run {P : Deployer → Prop} (h : r.Level settings) (hp : P r.deployer)
    (hsettle : ∀ d : Deployer, P d → P d.settleRelease)
    (hturn : ∀ {m : Moment} {d d' : Deployer} {e : Event} {effects : List Effect},
      d.Coherent → d.isGone = false → Turn m d e d' effects → P d → P d')
    (xs : List (Moment × Occurrence)) : P (r.run xs).deployer := by
  induction xs generalizing r with
  | nil => exact hp
  | cons x xs ih =>
    refine ih (h.step x) ?_
    rcases h.step_cases x with heq | ⟨hgone, e, d', effects, ht, heq⟩
    · rw [heq]
      exact hp
    · rw [heq]
      exact hsettle d' (hturn h.coherent hgone ht hp)

/-! ## What is waited for -/

/-- The task of a vigil goes on for what it is for, or it begins with the receipt that names it. -/
theorem Level.ahead_step (h : r.Level settings) (hv : (r.step x).ahead = some v) :
    (∃ w, r.ahead = some w ∧ w.generation = v.generation ∧
      ∀ quarry, w.lookout.Seeks settings quarry → v.lookout.Seeks settings quarry) ∨
    ∃ i receipt a t hash number, x.2 = .event (.answer i (.receipt (.ok receipt))) ∧
      Confirms r.deployer i a t hash receipt number ∧
      v = vigilOf x.1 settings a hash number := by
  obtain ⟨m, occurrence⟩ := x
  cases occurrence with
  | event e =>
    replace hv : (r.take m e).1.ahead = some v := hv
    rcases take_cases m r e with ⟨htake, -⟩ | ⟨w, next, effects, -, hw, hreact, htake⟩ | ⟨-, -, htake⟩
    · rw [htake] at hv
      exact Or.inl ⟨v, hv, rfl, fun _ => id⟩
    · rw [htake] at hv
      obtain rfl := Option.some.inj hv
      refine Or.inl ⟨w, hw, ?_⟩
      rcases Vigil.react?_cases hreact with ⟨-, -, rfl, -⟩ | ⟨-, rfl, -⟩
      · exact ⟨rfl, fun _ hseeks => hseeks.wake _ _⟩
      · exact ⟨rfl, fun _ hseeks => hseeks.tell _ _⟩
    · rw [htake] at hv
      replace hv : carry r.ahead (r.deployer.handle m e).1.vigil = some v := hv
      unfold carry at hv
      split at hv
      · exact Or.inl ⟨v, hv, rfl, fun _ => id⟩
      · -- Another vigil is kept than before, so it has just begun.
        rename_i hother
        rcases vigil_of_handle h.coherent hv with ⟨w, hw, hgen⟩ | hbegins
        · obtain ⟨next, hnext, hleads⟩ := h.ahead_of_vigil hw
          simp [hnext, hv, hleads.generation_eq, hgen] at hother
        · obtain ⟨i, receipt, a, t, hash, number, rfl, hc, rfl⟩ := hbegins
          exact Or.inr ⟨i, receipt, a, t, hash, number, rfl, hc, by rw [h.settings]⟩
  | look =>
    replace hv : (r.look m).ahead = some v := hv
    rcases h.look_cases m with ⟨-, hahead, -⟩ | ⟨w, -, hw, -, -, ⟨-, hahead, -⟩ | ⟨-, hahead⟩⟩
    · rw [hahead] at hv
      exact Or.inl ⟨v, hv, rfl, fun _ => id⟩
    · rw [hahead] at hv
      obtain rfl := Option.some.inj hv
      exact Or.inl ⟨w, hw, rfl, fun _ => id⟩
    · rw [hahead] at hv
      cases hv

theorem run_append (r : Relay) (xs ys : List (Moment × Occurrence)) :
    r.run (xs ++ ys) = (r.run xs).run ys := List.foldl_append

/-! ## What is asked for -/

/-- A deployer asks for nothing on behalf of a vigil that does not take the event. -/
private theorem silent_of_react? {d : Deployer} (h : d.Coherent) (hgone : d.isGone = false)
    (hreact : ∀ w, d.vigil = some w → w.react? m e = none) :
    ∀ effect ∈ (d.handle m e).2, effect.attempt? = none := by
  intro effect hmem
  rcases handled h m e with ⟨-, heq⟩ | ⟨-, d', effects, hturn, heq⟩
  · simp [heq] at hmem
  · have hasked : effect ∈ effects := by simpa [heq] using hmem
    cases hturn with
    | entered _ _ _ _ hsilent _ => exact hsilent _ hasked
    | opened | signed | sent =>
      obtain rfl := List.mem_singleton.mp hasked
      rfl
    | @looked _ v _ _ _ hv he =>
      refine absurd he (attemptOf_ne_of_react? h hv rfl (hreact v hv) ?_)
      rintro rfl
      cases hexpiry : v.expiry? m.clock with
      | none => rfl
      | some loss =>
        -- A wake after the deadline ends the vigil.
        have hnone : (d.handle m .wake).2 = [] := by
          simp [handle, hgone, Deployer.step, Deployer.wake, hv, hexpiry]
        simp [hnone] at hmem
    | _ => cases hasked

/-- Only the vigil of the current attempt asks, and only for what it is for. -/
theorem Level.asks (h : r.Level settings) {effect : Effect} (hmem : effect ∈ (r.take m e).2)
    (hattempt : effect.attempt? ≠ none) :
    ∃ v, r.ahead = some v ∧ v.generation = r.deployer.generation ∧
      effect.attempt? = some v.generation ∧
      ∀ quarry, v.lookout.Seeks settings quarry → effect.Seeks settings v.generation quarry := by
  rcases take_cases m r e with ⟨htake, -⟩ | ⟨v, w, effects, -, hv, hreact, htake⟩ | ⟨hgone, hreact, htake⟩
  · simp [htake] at hmem
  · rw [htake] at hmem
    obtain ⟨kept, hkept, hleads⟩ := h.vigil_of_ahead hv
    have hcurrent := hleads.generation_eq.trans (h.coherent.vigil hkept).attempt
    rcases Vigil.react?_cases hreact with ⟨-, -, -, rfl⟩ | ⟨-, -, rfl⟩
    · exact ⟨v, hv, hcurrent, Lookout.attempt?_wake hmem, fun quarry hseeks => hseeks.asks _ _ _ hmem⟩
    · cases hmem
  · rw [htake] at hmem
    refine absurd (silent_of_react? h.coherent hgone ?_ effect hmem) hattempt
    intro v hv
    obtain ⟨w, hw, hleads⟩ := h.ahead_of_vigil hv
    exact hleads.react?_eq_none (hreact w hw)

/-! ## Rest -/

/-- Nothing that a task has decided is left for the deployer to take over. -/
def Quiescent (r : Relay) : Prop := ∀ v, r.ahead = some v → v.lookout.verdict? = none

/-- After a look nothing is left. -/
theorem Level.quiescent_look (h : r.Level settings) (m : Moment) : (r.look m).Quiescent := by
  intro v hv
  rcases h.look_cases m with ⟨-, hahead, hrest⟩ | ⟨w, -, -, -, -, ⟨-, hahead, hopen⟩ | ⟨-, hahead⟩⟩
  · have hnone : r.ahead = none := hrest.elim (fun hgone => h.ahead_eq_none (h.vigilant.gone hgone)) id
    rw [hahead, hnone] at hv
    cases hv
  · rw [hahead] at hv
    obtain rfl := Option.some.inj hv
    exact hopen
  · rw [hahead] at hv
    cases hv

/-- The task of a deployer that waits is one of a lookout on the route of its attempt. -/
theorem Level.lookout_of_waiting (h : r.Level settings) (hgone : r.deployer.isGone = false)
    (hs : r.deployer.state.value.status = .provisioning) :
    ∃ v, r.ahead = some v ∧ v.lookout.polls = !r.deployer.state.value.isNewService := by
  obtain ⟨v, hv⟩ := Option.isSome_iff_exists.mp (h.vigilant.waits hgone hs)
  obtain ⟨w, hw, ⟨hleads⟩⟩ := h.ahead_of_vigil hv
  exact ⟨_, hw, hleads.polls.trans (h.staged.vigil hv)⟩

end Relay

end ChainProvision
