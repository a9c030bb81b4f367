import ChainProvision.Deployment.Relay
import ChainProvision.Proofs.Deployment.Reachable
import ChainProvision.Proofs.Follow.Inquiry

/-!
# What looking late changes

## Main definitions

* `Lookout.Leads`: a lookout has gone on;
* `Relay.run`, `Relay.prompt`: runs of a relay, and those in which it looks after every event.

## Main statements

- `Deployer.handle_of_react`: a deployer takes an event of its vigil and looks at once.
- `Relay.run_prompt`: a relay that looks after every event is the deployer by itself.
-/

namespace ChainProvision

open Deployer

/-! ## What an event does to a vigil -/

namespace Lookout

/-- A lookout has gone on: it shows the same, or has announced something since. -/
structure Leads (lookout next : Lookout) : Prop where
  polls : next.polls = lookout.polls
  shows : lookout.version < next.version ∨
    next.version = lookout.version ∧ ∀ s, next.shown s = lookout.shown s

theorem Leads.refl (lookout : Lookout) : lookout.Leads lookout := ⟨rfl, Or.inr ⟨rfl, fun _ => rfl⟩⟩

theorem Leads.trans {a b c : Lookout} (hab : a.Leads b) (hbc : b.Leads c) : a.Leads c where
  polls := hbc.polls.trans hab.polls
  shows := by
    rcases hab.shows with hab | ⟨hab, hsame⟩
    · refine Or.inl (Nat.lt_of_lt_of_le hab ?_)
      rcases hbc.shows with hbc | ⟨hbc, -⟩
      · exact Nat.le_of_lt hbc
      · exact Nat.le_of_eq hbc.symm
    · rcases hbc.shows with hbc | ⟨hbc, hsame'⟩
      · exact Or.inl (hab ▸ hbc)
      · exact Or.inr ⟨hbc.trans hab, fun s => (hsame' s).trans (hsame s)⟩

theorem leads_stepPoller (lookout : Lookout) (epoch : Nat) (reply : FetchReply) :
    lookout.Leads (stepPoller (·.answer epoch reply) lookout).1 := by
  cases lookout with
  | operator call poller =>
    refine ⟨rfl, ?_⟩
    rcases poller.answer_state epoch reply with hsame | hnew
    · exact Or.inr ⟨congrArg Observed.version hsame, fun s => by simp [stepPoller, shown, hsame]⟩
    · exact Or.inl hnew
  | contract watcher => exact .refl _

theorem leads_stepWatcher (lookout : Lookout) (f : Watcher → Watcher) :
    lookout.Leads (stepWatcher f lookout).1 := by
  cases lookout with
  | operator call poller => exact .refl _
  | contract watcher => exact ⟨rfl, Or.inr ⟨rfl, fun _ => rfl⟩⟩

end Lookout

section React

variable {m : Moment} {v w : Vigil} {e : Event} {effects : List Effect}

theorem Lookout.leads_tell (m : Moment) (e : Event) (lookout : Lookout) :
    lookout.Leads (e.tell m lookout) := by
  cases e with
  | fetched g epoch reply => exact leads_stepPoller _ _ _
  | subscribed g subscription outcome => exact leads_stepWatcher _ _
  | batch g subscription logs => exact leads_stepWatcher _ _
  | closed g subscription => exact leads_stepWatcher _ _
  | _ => exact .refl _

/-- A wake has nothing to show. -/
theorem Lookout.wake_shows (m : Moment) (g : Nat) (lookout : Lookout) :
    (lookout.wake m g).1.polls = lookout.polls ∧ (lookout.wake m g).1.version = lookout.version ∧
      (lookout.wake m g).1.verdict? = lookout.verdict? ∧
      ∀ s, (lookout.wake m g).1.shown s = lookout.shown s := by
  cases lookout with
  | operator call poller =>
    simp [wake, polls, version, verdict?, shown, Poller.tick_state]
  | contract watcher => simp [wake, polls, version, verdict?, shown, Watcher.wake_result]

/-- The two ways in which a vigil takes an event. -/
theorem Vigil.react?_cases (h : v.react? m e = some (w, effects)) :
    (e = .wake ∧ v.expiry? m.clock = none ∧ w = { v with lookout := (v.lookout.wake m v.generation).1 } ∧
        effects = (v.lookout.wake m v.generation).2) ∨
      (e.told? = some v.generation ∧ w = { v with lookout := e.tell m v.lookout } ∧ effects = []) := by
  unfold react? at h
  split at h
  · split at h
    · cases h
    · rename_i hintime
      obtain ⟨rfl, rfl⟩ := Prod.mk.inj (Option.some.inj h)
      exact Or.inl ⟨rfl, by simpa using hintime, rfl, rfl⟩
  · split at h
    · rename_i htold
      obtain ⟨rfl, rfl⟩ := Prod.mk.inj (Option.some.inj h)
      exact Or.inr ⟨htold, rfl, rfl⟩
    · cases h

theorem Vigil.told?_ne_of_react? (h : v.react? m e = none) : e.told? ≠ some v.generation := by
  intro htold
  unfold react? at h
  split at h
  · cases htold
  · rw [if_pos htold] at h
    cases h

/-- Only the lookout of a vigil goes on. -/
theorem Vigil.react?_eq (h : v.react? m e = some (w, effects)) :
    w = { v with lookout := w.lookout } ∧ v.lookout.Leads w.lookout := by
  rcases react?_cases h with ⟨-, -, rfl, -⟩ | ⟨-, rfl, -⟩
  · obtain ⟨hpolls, hversion, -, hshown⟩ := v.lookout.wake_shows m v.generation
    exact ⟨rfl, hpolls, Or.inr ⟨hversion, hshown⟩⟩
  · exact ⟨rfl, Lookout.leads_tell m e _⟩

end React

namespace Deployer

variable {m : Moment} {d : Deployer} {e : Event} {v w : Vigil} {effects : List Effect}

/-! ## Looks -/

theorem update_isGone (d : Deployer) (g : Nat) (f : DeployState → DeployState)
    (raised : Option DeployEvent) : (d.update g f raised).isGone = d.isGone := by
  unfold update
  split
  · cases raised <;> rfl
  · rfl

theorem observe_isGone (m : Moment) (d : Deployer) (w : Vigil) (announced : Bool) :
    (d.observe m w announced).isGone = d.isGone := by
  have hmirrored : (d.mirrored w announced).isGone = d.isGone := by
    unfold mirrored
    split
    · split
      · exact update_isGone _ _ _ _
      · rfl
    · rfl
  rw [observe_eq_mirrored]
  split
  · unfold conclude
    split
    · exact (update_isGone _ _ _ _).trans hmirrored
    · exact (update_isGone _ _ _ _).trans hmirrored
  · exact hmirrored

theorem update_vigil (d : Deployer) (g : Nat) (f : DeployState → DeployState)
    (raised : Option DeployEvent) : (d.update g f raised).vigil = d.vigil := by
  unfold update
  split
  · cases raised <;> rfl
  · rfl

theorem conclude_vigil (m : Moment) (d : Deployer) (w : Vigil)
    (verdict : Except DeployError Completion) : (d.conclude m w verdict).vigil = none := by
  unfold conclude
  split <;> exact update_vigil _ _ _ _

theorem observe_vigil (m : Moment) (d : Deployer) (w : Vigil) (announced : Bool) :
    (d.observe m w announced).vigil = if w.lookout.verdict?.isSome then none else some w := by
  rw [observe_eq_mirrored]
  cases hverdict : w.lookout.verdict? with
  | some verdict => exact conclude_vigil _ _ _ _
  | none =>
    show (d.mirrored w announced).vigil = some w
    unfold mirrored
    split
    · split
      · exact update_vigil _ _ _ _
      · rfl
    · rfl

theorem observe_quiet (hv : d.vigil = some v) (hopen : v.lookout.verdict? = none) (m : Moment) :
    d.observe m v false = d := by
  have hmirrored : d.mirrored v false = d := by
    have hsame : { d with vigil := some v } = d := by rw [← hv]
    unfold mirrored
    rw [hsame]
    split <;> rfl
  rw [observe_eq_mirrored, hopen, hmirrored]

theorem stepVigil_stepPoller (hv : d.vigil = some v) (m : Moment) (f : Poller → Poller) :
    let lookout := (stepPoller f v.lookout).1
    d.stepVigil m v.generation (stepPoller f) =
      d.observe m { v with lookout } (lookout.version != v.lookout.version) := by
  unfold stepVigil
  rw [hv]
  simp only [if_true]
  cases v.lookout with
  | operator call poller => rfl
  | contract watcher => rfl

theorem stepVigil_stepWatcher (hv : d.vigil = some v) (m : Moment) (f : Watcher → Watcher) :
    let lookout := (stepWatcher f v.lookout).1
    d.stepVigil m v.generation (stepWatcher f) =
      d.observe m { v with lookout } (lookout.version != v.lookout.version) := by
  unfold stepVigil
  rw [hv]
  simp only [if_true]
  cases v.lookout with
  | operator call poller => simp [stepWatcher]
  | contract watcher => rfl

private theorem step_of_told (hv : d.vigil = some v) (htold : e.told? = some v.generation)
    (m : Moment) :
    d.step m e =
      (d.observe m { v with lookout := e.tell m v.lookout }
          ((e.tell m v.lookout).version != v.lookout.version), []) := by
  cases e with
  | fetched g epoch reply =>
    obtain rfl := Option.some.inj htold
    exact congrArg (·, []) (stepVigil_stepPoller hv m _)
  | subscribed g subscription outcome =>
    obtain rfl := Option.some.inj htold
    exact congrArg (·, []) (stepVigil_stepWatcher hv m _)
  | batch g subscription logs =>
    obtain rfl := Option.some.inj htold
    exact congrArg (·, []) (stepVigil_stepWatcher hv m _)
  | closed g subscription =>
    obtain rfl := Option.some.inj htold
    exact congrArg (·, []) (stepVigil_stepWatcher hv m _)
  | _ => cases htold

private theorem wake_of_intime (hv : d.vigil = some v) (hopen : v.lookout.verdict? = none)
    (hintime : v.expiry? m.clock = none) :
    d.wake m =
      (d.observe m { v with lookout := (v.lookout.wake m v.generation).1 }
          ((v.lookout.wake m v.generation).1.version != v.lookout.version),
        (v.lookout.wake m v.generation).2) := by
  obtain ⟨-, hversion, hverdict, -⟩ := v.lookout.wake_shows m v.generation
  -- Nothing was announced, so the look only takes the lookout over.
  rw [observe_eq_mirrored, hverdict, hopen, hversion, bne_self_eq_false]
  unfold Deployer.wake mirrored
  rw [hv]
  simp only [hintime]
  cases v.lookout with
  | operator call poller => rfl
  | contract watcher => rfl

/-- **A deployer takes an event of its vigil and looks at once.** -/
theorem handle_of_react (h : d.Coherent) (hgone : d.isGone = false) (hv : d.vigil = some v)
    (hreact : v.react? m e = some (w, effects)) :
    d.handle m e = (d.observe m w (w.lookout.version != v.lookout.version), effects) := by
  have hstep : d.step m e = (d.observe m w (w.lookout.version != v.lookout.version), effects) := by
    rcases Vigil.react?_cases hreact with ⟨rfl, hintime, rfl, rfl⟩ | ⟨htold, rfl, rfl⟩
    · exact wake_of_intime hv (h.vigil hv).undecided hintime
    · exact step_of_told hv htold m
  have hthere : (d.observe m w (w.lookout.version != v.lookout.version)).isGone = false := by
    rw [observe_isGone]
    exact hgone
  simp [handle, hgone, hstep, settleRelease, hthere]

/-! ## Events beside a vigil -/

/-- An event for which the vigil of the current attempt has no use is none of the attempt. -/
theorem attemptOf_ne_of_react? (h : d.Coherent) (hv : d.vigil = some v)
    (hgen : w.generation = v.generation) (hreact : w.react? m e = none)
    (hintime : e = .wake → w.expiry? m.clock = none) : d.attemptOf e ≠ some v.generation := by
  have htold : e.told? ≠ some v.generation := hgen ▸ Vigil.told?_ne_of_react? hreact
  cases e with
  | wake => simp [Vigil.react?, hintime rfl] at hreact
  | answer i answer =>
    -- Beside the vigil all calls are of earlier attempts.
    simp only [attemptOf]
    split
    · rename_i a t hget
      have hold := (h.superseded_of_vigil hv hget).attempt
      rw [← (h.vigil hv).attempt] at hold
      exact fun heq => Nat.ne_of_lt hold (Option.some.inj heq)
    · simp
  | fetched g epoch reply => exact htold
  | subscribed g subscription outcome => exact htold
  | batch g subscription logs => exact htold
  | closed g subscription => exact htold
  | _ => simp [attemptOf]

/-- Nothing of an attempt has changed beside it, and nobody was asked after a resource. -/
structure Beside (d d' : Deployer) (effects : List Effect) : Prop where
  state : d.state.value.SameAttempt d'.state.value
  shelf : d'.shelf = d.shelf
  silent : ∀ effect ∈ effects, effect.attempt? = none

private theorem beside_turn {d' : Deployer} (hturn : Turn m d e d' effects)
    (hidle : d.state.value.status ≠ .idle)
    (hengaged : ∀ {a : Attempt} {t : Ticket}, ¬ d.Engaged a t)
    (hwatching : ∀ {v : Vigil}, d.vigil = some v → d.attemptOf e ≠ some v.generation)
    (hreset : e ≠ .reset) : Beside d d' effects ∧ d'.vigil = d.vigil := by
  cases hturn with
  | ignored => exact ⟨⟨.refl _, rfl, by simp⟩, rfl⟩
  | entered _ _ _ hsame hsilent _ => exact ⟨⟨hsame, rfl, hsilent⟩, rfl⟩
  | declined => exact ⟨⟨.refl _, rfl, by simp⟩, rfl⟩
  | unmanned _ hs => exact absurd hs hidle
  | refused _ hs => exact absurd hs hidle
  | opened _ hs => exact absurd hs hidle
  | signed => exact ⟨⟨.refl _, rfl, by simp [Effect.attempt?]⟩, rfl⟩
  | lapsed => exact ⟨⟨.refl _, rfl, by simp⟩, rfl⟩
  | sent _ hcur => exact absurd hcur hengaged
  | fell _ hcur => exact absurd hcur hengaged
  | unnumbered _ hcur => exact absurd hcur hengaged
  | awaited _ hcur => exact absurd hcur hengaged
  | looked hv he => exact absurd he (hwatching hv)
  | found hv he => exact absurd he (hwatching hv)
  | lost hv he => exact absurd he (hwatching hv)
  | atRest => exact absurd rfl hreset
  | discarded => exact absurd rfl hreset

theorem Beside.settleRelease {d' : Deployer} (h : Beside d d' effects) :
    Beside d d'.settleRelease effects where
  state := by
    rw [settleRelease_state]
    exact h.state
  shelf := by
    rw [settleRelease_shelf]
    exact h.shelf
  silent := h.silent

theorem settleRelease_vigil (d : Deployer) :
    d.settleRelease.vigil = if d.isGone then none else d.vigil := by
  unfold settleRelease
  split <;> rfl

theorem settleRelease_isGone (d : Deployer) : d.settleRelease.isGone = d.isGone := by
  unfold settleRelease
  split <;> rfl

/-- An event beside a vigil leaves the vigil as it is, unless the deployer ends. -/
theorem beside_handle (h : d.Coherent) (hgone : d.isGone = false) (hv : d.vigil = some v)
    (hattempt : d.attemptOf e ≠ some v.generation) (hreset : e ≠ .reset) (m : Moment) :
    Beside d (d.handle m e).1 (d.handle m e).2 ∧
      (d.handle m e).1.vigil = if (d.handle m e).1.isGone then none else some v := by
  rcases handled h m e with ⟨hgone', -⟩ | ⟨-, d', effects, hturn, heq⟩
  · rw [hgone] at hgone'
    cases hgone'
  · obtain ⟨hbeside, hv'⟩ : Beside d d' effects ∧ d'.vigil = d.vigil := by
      apply beside_turn hturn
      · simp [(h.vigil hv).status]
      · intro a t hcur
        simp [hcur.unwatched] at hv
      · intro v' hv'
        rw [hv] at hv'
        exact Option.some.inj hv' ▸ hattempt
      · exact hreset
    rw [heq, settleRelease_vigil, settleRelease_isGone, hv', hv]
    exact ⟨hbeside.settleRelease, rfl⟩

/-- An event after the end of the current attempt changes nothing of it. -/
theorem beside_handle_of_final (h : d.Coherent) (hfinal : d.state.value.status.isTerminal = true)
    (hreset : e ≠ .reset) (m : Moment) :
    Beside d (d.handle m e).1 (d.handle m e).2 ∧ (d.handle m e).1.vigil = none := by
  have hv := h.vigil_eq_none_of_terminal hfinal
  rcases handled h m e with ⟨-, heq⟩ | ⟨-, d', effects, hturn, heq⟩
  · rw [heq]
    exact ⟨⟨.refl _, rfl, by simp⟩, hv⟩
  · obtain ⟨hbeside, hv'⟩ : Beside d d' effects ∧ d'.vigil = d.vigil := by
      apply beside_turn hturn
      · intro hidle
        rw [hidle] at hfinal
        cases hfinal
      · intro a t hcur
        rw [hcur.not_terminal] at hfinal
        cases hfinal
      · simp [hv]
      · exact hreset
    rw [heq, settleRelease_vigil, hv', hv, ite_self]
    exact ⟨hbeside.settleRelease, rfl⟩

/-- What becomes of a vigil on an event that it does not take. -/
theorem vigil_handle_of_react? (h : d.Coherent) (hgone : d.isGone = false) (hv : d.vigil = some v)
    (hreact : v.react? m e = none) :
    (d.handle m e).1.vigil = none ∨ (d.handle m e).1.vigil = some v := by
  by_cases hreset : e = .reset
  · -- A reset discards the attempt, and its vigil with it.
    subst hreset
    left
    rcases handled h m .reset with ⟨hgone', -⟩ | ⟨-, d', effects, hturn, heq⟩
    · rw [hgone] at hgone'
      cases hgone'
    · rw [heq, settleRelease_vigil]
      cases hturn with
      | ignored _ hreset _ => exact absurd rfl hreset
      | entered _ hreset => exact absurd rfl hreset
      | looked _ he => cases he
      | found _ he => cases he
      | lost _ he => cases he
      | atRest hidle _ => simp [(h.vigil hv).status] at hidle
      | discarded _ => simp
  · by_cases hlate : e = .wake ∧ v.expiry? m.clock ≠ none
    · obtain ⟨rfl, hlate⟩ := hlate
      obtain ⟨loss, hloss⟩ := Option.ne_none_iff_exists'.mp hlate
      left
      have hstep : (d.step m .wake).1.vigil = none := by
        simp only [step, Deployer.wake, hv, hloss]
        exact conclude_vigil _ _ _ _
      simp [handle, hgone, settleRelease_vigil, hstep]
    · have hattempt : d.attemptOf e ≠ some v.generation := by
        refine attemptOf_ne_of_react? h hv rfl hreact fun hwake => ?_
        exact Classical.not_not.mp fun hexpired => hlate ⟨hwake, hexpired⟩
      rw [(beside_handle h hgone hv hattempt hreset m).2]
      split
      · exact Or.inl rfl
      · exact Or.inr rfl

end Deployer

/-! ## Relays -/

namespace Relay

def run (r : Relay) (xs : List (Moment × Occurrence)) : Relay := xs.foldl step r

theorem run_cons (r : Relay) (x : Moment × Occurrence) (xs : List (Moment × Occurrence)) :
    r.run (x :: xs) = (r.step x).run xs := rfl

/-- Events with a look after each of them. -/
def prompt (es : List (Moment × Event)) : List (Moment × Occurrence) :=
  es.flatMap fun x => [(x.1, .event x.2), (x.1, .look)]

variable {m : Moment} {r : Relay} {e : Event}

@[simp] theorem carry_none (kept : Option Vigil) : carry none kept = kept := by
  cases kept <;> rfl

@[simp] theorem carry_some_none (w : Vigil) : carry (some w) none = none := rfl

@[simp] theorem carry_self (ahead : Option Vigil) : carry ahead ahead = ahead := by simp [carry]

private theorem look_of_level (h : r.deployer.Coherent) (hlevel : r.ahead = r.deployer.vigil)
    (m : Moment) :
    (r.look m).deployer = r.deployer ∧ (r.look m).ahead = r.deployer.vigil := by
  unfold look
  split
  · exact ⟨rfl, hlevel⟩
  · rw [hlevel]
    cases hv : r.deployer.vigil with
    | none => exact ⟨rfl, rfl⟩
    | some v =>
      have hquiet : r.deployer.observe m v false = r.deployer :=
        observe_quiet hv (h.vigil hv).undecided m
      simp [hquiet, hv]

/-- A look right after an event leaves the deployer as it is by itself. -/
theorem look_take (h : r.deployer.Coherent) (hlevel : r.ahead = r.deployer.vigil) (m : Moment)
    (e : Event) :
    ((r.take m e).1.look m).deployer = (r.deployer.handle m e).1 ∧
      ((r.take m e).1.look m).ahead = (r.deployer.handle m e).1.vigil := by
  cases hgone : r.deployer.isGone with
  | true => simp [take, look, handle, hgone, hlevel]
  | false =>
    cases hreact : r.ahead.bind (·.react? m e) with
    | some next =>
      -- The look after the event sees what the task has just learned.
      obtain ⟨w, effects⟩ := next
      obtain ⟨v, hahead, hreact'⟩ := Option.bind_eq_some_iff.mp hreact
      have hv : r.deployer.vigil = some v := hlevel.symm.trans hahead
      have hlooked := handle_of_react h hgone hv hreact'
      have hvigil := observe_vigil m r.deployer w (w.lookout.version != v.lookout.version)
      simp only [take, hgone, hreact, look, hv, hlooked, hvigil, Bool.false_eq_true, if_false]
      refine ⟨trivial, ?_⟩
      split <;> simp
    | none =>
      have hnext : carry r.ahead (r.deployer.handle m e).1.vigil = (r.deployer.handle m e).1.vigil := by
        rw [hlevel]
        cases hv : r.deployer.vigil with
        | none => simp
        | some v =>
          have hreact' : v.react? m e = none := by simpa [hlevel, hv] using hreact
          rcases vigil_handle_of_react? h hgone hv hreact' with hnone | hsame
          · simp [hnone]
          · simp [hsame]
      have htake : (r.take m e).1 =
          { r with
            deployer := (r.deployer.handle m e).1
            ahead := (r.deployer.handle m e).1.vigil
            trace := r.trace ++ [(e, (r.deployer.handle m e).2)] } := by
        simp [take, hgone, hreact, hnext]
      rw [htake]
      exact look_of_level (h.handle m e) rfl m

/-- **A relay that looks after every event is the deployer by itself.** -/
theorem run_prompt (h : r.deployer.Coherent) (hlevel : r.ahead = r.deployer.vigil)
    (es : List (Moment × Event)) : (r.run (prompt es)).deployer = r.deployer.run es := by
  induction es generalizing r with
  | nil => rfl
  | cons x es ih =>
    obtain ⟨hdeployer, hahead⟩ := look_take h hlevel x.1 x.2
    have hnext := ih (r := (r.take x.1 x.2).1.look x.1) (hdeployer ▸ h.handle x.1 x.2)
      (hahead.trans (congrArg Deployer.vigil hdeployer.symm))
    rw [Deployer.run_cons, ← hdeployer]
    exact hnext

end Relay

end ChainProvision
