import ChainProvision.Proofs.Deployment.Crew

/-!
# The silence of superseded attempts

A reset discards the current attempt at whatever it waits for: the wallet, the broadcast, the receipt, a report of
the operator, a subscription, a pause or the deadline.  What still comes for the attempt after that is taken, so
that a call which is under way can end; but it does not show, and the shelf is left alone.

The task of its vigil is only told to end.  If it was ready to run when the reset came, it may have its turn
before it is dropped, and ask once more for what it waits for.  Whatever comes after the reset does not let it
ask, as long as the runtime turns to its tasks in the order in which they became ready; and in any order it asks
for nothing once it was dropped.

## Main definitions

* `Deployer.Past`: no attempt up to a generation is current;
* `Crew.Concerns`: what happens is about the attempt of a generation;
* `Crew.Happening.InOrder`: the runtime turns to what is ready first.

## Main statements

- `Crew.past_run`: an attempt that has passed does not come back.
- `Crew.ready_run`: what is ready after a run in order.
- `Crew.discarded_attempt_silent`: what becomes of an attempt that was discarded.
-/

namespace ChainProvision

open Deployer

namespace Deployer

variable {m : Moment} {d d' : Deployer} {e : Event} {effects : List Effect} {g : Nat}

/-! ## Attempts that have passed -/

/-- No attempt up to a generation is current: the deployer is no more, or a later attempt has begun,
or there is no attempt. -/
def Past (g : Nat) (d : Deployer) : Prop :=
  d.isGone = true ∨ g < d.generation ∨ g ≤ d.generation ∧ d.state.value.status = .idle

/-- An attempt of which something is shown is not one that has passed. -/
theorem Past.lt_of_status (hpast : Past g d) (hgone : d.isGone = false)
    (hs : d.state.value.status ≠ .idle) : g < d.generation := by
  rcases hpast with h | h | ⟨-, h⟩
  · rw [hgone] at h
    cases h
  · exact h
  · exact absurd h hs

theorem Past.le (hpast : Past g d) (hgone : d.isGone = false) : g ≤ d.generation := by
  rcases hpast with h | h | ⟨h, -⟩
  · rw [hgone] at h
    cases h
  · exact Nat.le_of_lt h
  · exact h

theorem Past.lt_of_engaged {a : Attempt} {t : Ticket} (hpast : Past g d) (hgone : d.isGone = false)
    (hengaged : d.Engaged a t) : g < d.generation := by
  apply hpast.lt_of_status hgone
  rcases hengaged.status with hs | hs <;> simp [hs]

theorem Past.lt_of_watching {v : Vigil} (hpast : Past g d) (hgone : d.isGone = false)
    (hwatch : d.Watching v) : g < d.generation := by
  apply hpast.lt_of_status hgone
  simp [hwatch.status]

/-- The call of the current attempt is not of one that has passed. -/
theorem Past.ne_of_engaged {a : Attempt} {t : Ticket} (hpast : Past g d) (hgone : d.isGone = false)
    (hengaged : d.Engaged a t) : a.generation ≠ g := by
  rw [hengaged.attempt]
  exact Nat.ne_of_gt (hpast.lt_of_engaged hgone hengaged)

/-- The vigil is not of an attempt that has passed. -/
theorem Past.ne_of_watching {v : Vigil} (hpast : Past g d) (hgone : d.isGone = false)
    (hwatch : d.Watching v) : v.generation ≠ g := by
  rw [hwatch.attempt]
  exact Nat.ne_of_gt (hpast.lt_of_watching hgone hwatch)

/-- Every turn leaves an attempt in the past. -/
theorem Past.turn (hpast : Past g d) (h : d.Coherent) (hgone : d.isGone = false)
    (hturn : Turn m d e d' effects) : Past g d' := by
  have hle := hpast.le hgone
  -- Where the status stays, so does the reason for which the attempt has passed.
  have hkeep : ∀ {d' : Deployer}, d'.generation = d.generation →
      d'.state.value.status = d.state.value.status → Past g d' := by
    intro d' hgeneration hstatus
    rcases hpast with hp | hp | ⟨-, hp⟩
    · rw [hgone] at hp
      cases hp
    · exact Or.inr (Or.inl (hgeneration ▸ hp))
    · exact Or.inr (Or.inr ⟨hgeneration ▸ hle, hstatus.trans hp⟩)
  -- Where something of the current attempt goes on, the attempt that has passed is an earlier one.
  cases hturn with
  | ignored _ _ _ => exact hpast
  | entered _ _ _ hsame _ =>
    obtain ⟨mode, serviceError, isNewService, canDeploy, hstate, -⟩ := hsame
    exact hkeep rfl (by simp [hstate])
  | declined hopening => exact hkeep rfl rfl
  | unmanned hopening hidle hstate => exact hkeep rfl (by simp [hstate])
  | refused hopening hidle hstate => exact Or.inr (Or.inl (Nat.lt_succ_of_le hle))
  | opened hopening hidle hstate => exact Or.inr (Or.inl (Nat.lt_succ_of_le hle))
  | signed hget hawait => exact hkeep rfl rfl
  | lapsed hget hold hfits hsign => exact hkeep rfl rfl
  | sent hget hengaged hawait hstate => exact Or.inr (Or.inl (hpast.lt_of_engaged hgone hengaged))
  | fell hget hengaged hfail hstate => exact Or.inr (Or.inl (hpast.lt_of_engaged hgone hengaged))
  | unnumbered hget hengaged hawait hstate =>
    exact Or.inr (Or.inl (hpast.lt_of_engaged hgone hengaged))
  | awaited hget hengaged hawait hv hs hstate =>
    exact Or.inr (Or.inl (hpast.lt_of_engaged hgone hengaged))
  | looked hv he hgen hkey hopen hstate heffects =>
    exact Or.inr (Or.inl (hpast.lt_of_watching hgone (h.vigil hv)))
  | found hv he hs hstate => exact Or.inr (Or.inl (hpast.lt_of_watching hgone (h.vigil hv)))
  | lost hv he hloss hs hstate => exact Or.inr (Or.inl (hpast.lt_of_watching hgone (h.vigil hv)))
  | atRest hidle herror => exact hpast
  | discarded hstate => exact Or.inr (Or.inl (Nat.lt_succ_of_le hle))

theorem Past.settleRelease (hpast : Past g d) : Past g d.settleRelease := by
  unfold Deployer.settleRelease
  split
  · rename_i hgone
    exact Or.inl hgone
  · exact hpast

/-- An event of an attempt that has passed does not show, and asks for nothing. -/
theorem Past.unchanged (hpast : Past g d) (h : d.Coherent) (hgone : d.isGone = false)
    (he : d.attemptOf e = some g) (hturn : Turn m d e d' effects) :
    d'.state = d.state ∧ d'.shelf = d.shelf ∧ ∀ effect ∈ effects, effect.attempt? = none := by
  have hcall : ∀ {i : Nat} {a : Attempt} {t : Ticket} {answer : Answer},
      d.deploys[i]? = some (.underway a t) → d.attemptOf (.answer i answer) = some a.generation := by
    intro i a t answer hget
    simp [attemptOf, hget]
  have hengaged : ∀ {i : Nat} {a : Attempt} {t : Ticket} {answer : Answer},
      d.deploys[i]? = some (.underway a t) → d.Engaged a t →
        d.attemptOf (.answer i answer) ≠ some g := by
    intro i a t answer hget hengaged heq
    rw [hcall hget, Option.some.injEq] at heq
    exact hpast.ne_of_engaged hgone hengaged heq
  have hwatching : ∀ {v : Vigil}, d.vigil = some v → d.attemptOf e ≠ some v.generation := by
    intro v hv heq
    rw [he, Option.some.injEq] at heq
    exact hpast.ne_of_watching hgone (h.vigil hv) heq.symm
  cases hturn with
  | ignored _ _ _ => exact ⟨rfl, rfl, by simp⟩
  | entered _ _ hnone _ _ =>
    rw [he] at hnone
    cases hnone
  | declined hopening => cases he
  | unmanned hopening hidle hstate => cases he
  | refused hopening hidle hstate => cases he
  | opened hopening hidle hstate => cases he
  | signed hget hawait => exact ⟨rfl, rfl, by simp [Effect.attempt?]⟩
  | lapsed hget hold hfits hsign => exact ⟨rfl, rfl, by simp⟩
  | sent hget hcur hawait hstate => exact absurd he (hengaged hget hcur)
  | fell hget hcur hfail hstate => exact absurd he (hengaged hget hcur)
  | unnumbered hget hcur hawait hstate => exact absurd he (hengaged hget hcur)
  | awaited hget hcur hawait hv hs hstate => exact absurd he (hengaged hget hcur)
  | looked hv he' _ _ _ _ _ => exact absurd he' (hwatching hv)
  | found hv he' _ _ => exact absurd he' (hwatching hv)
  | lost hv he' _ _ _ => exact absurd he' (hwatching hv)
  | atRest hidle herror => cases he
  | discarded hstate => cases he

/-- Nobody is asked after the resource of an attempt that has passed, whatever the event. -/
theorem Past.not_asked (hpast : Past g d) (h : d.Coherent) (hgone : d.isGone = false)
    (hturn : Turn m d e d' effects) : ∀ effect ∈ effects, effect.attempt? ≠ some g := by
  intro effect heffect
  cases hturn with
  | entered _ _ _ _ hnone => simp [hnone effect heffect]
  | opened hopening hidle hstate =>
    obtain rfl := List.mem_singleton.mp heffect
    simp [Effect.attempt?]
  | signed hget hawait =>
    obtain rfl := List.mem_singleton.mp heffect
    simp [Effect.attempt?]
  | sent hget hcur hawait hstate =>
    obtain rfl := List.mem_singleton.mp heffect
    simp [Effect.attempt?]
  | looked hv he hgen hkey hopen hstate hasked =>
    rw [hasked effect heffect]
    exact fun heq => hpast.ne_of_watching hgone (h.vigil hv) (Option.some.inj heq)
  | _ => cases heffect

/-! ## What becomes of its call -/

/-- The step of a deployer for which an attempt has passed, on any event. -/
private theorem Past.silent (hpast : Past g d) (h : d.Coherent) (m : Moment) (e : Event) :
    (∀ effect ∈ (d.handle m e).2, effect.attempt? ≠ some g) ∧
      (d.attemptOf e = some g →
        (d.handle m e).1.state = d.state ∧ (d.handle m e).1.shelf = d.shelf ∧
          ∀ effect ∈ (d.handle m e).2, effect.attempt? = none) := by
  rcases handled h m e with ⟨-, heq⟩ | ⟨hgone, d', effects, hturn, heq⟩
  · simp [heq]
  · rw [heq]
    refine ⟨hpast.not_asked h hgone hturn, fun he => ?_⟩
    rw [settleRelease_state, settleRelease_shelf]
    exact hpast.unchanged h hgone he hturn

/-- A call that has ended stays as it is. -/
theorem Turn.ended {i : Nat} {result : Option TxHash} (hturn : Turn m d e d' effects)
    (hget : d.deploys[i]? = some (.ended result)) : d'.deploys[i]? = some (.ended result) := by
  have hset : ∀ {j : Nat} {a : Attempt} {t : Ticket} (c : DeployCall),
      d.deploys[j]? = some (.underway a t) → (d.deploys.set j c)[i]? = some (.ended result) := by
    intro j a t c hj
    rw [List.getElem?_set_ne]
    · exact hget
    · rintro rfl
      rw [hget] at hj
      cases hj
  cases hturn with
  | declined _ => exact Calls.get_concat hget _
  | unmanned _ _ _ => exact Calls.get_concat hget _
  | refused _ _ _ => exact Calls.get_concat hget _
  | opened _ _ _ => exact Calls.get_concat hget _
  | signed hj _ => exact hset _ hj
  | lapsed hj _ _ _ => exact hset _ hj
  | sent hj _ _ _ => exact hset _ hj
  | fell hj _ _ _ => exact hset _ hj
  | unnumbered hj _ _ _ => exact hset _ hj
  | awaited hj _ _ _ _ _ => exact hset _ hj
  | _ => exact hget

theorem ended_handle {i : Nat} {result : Option TxHash} (h : d.Coherent)
    (hget : d.deploys[i]? = some (.ended result)) (m : Moment) (e : Event) :
    (d.handle m e).1.deploys[i]? = some (.ended result) := by
  rcases handled h m e with ⟨-, heq⟩ | ⟨-, d', effects, hturn, heq⟩
  · rw [heq]
    exact hget
  · rw [heq]
    show d'.settleRelease.deploys[i]? = some (.ended result)
    rw [settleRelease_deploys]
    exact hturn.ended hget

end Deployer

/-! ## Crews -/

namespace Crew

variable {settings : Settings} {m : Moment} {c c' : Crew} {h : Happening} {effects : List Effect} {effect : Effect}
  {g : Nat} {v : Vigil}

/-- The deployer of a crew is left alone, or it takes one turn. -/
theorem Step.turn (hstep : Step m c h c' effects) (htidy : c.Tidy settings) :
    c'.deployer = c.deployer ∨
      c.deployer.isGone = false ∧ ∃ e d' effects', Turn m c.deployer e d' effects' ∧
        c'.deployer = d'.settleRelease := by
  rcases hstep.relay with hsame | ⟨o, hnext, -⟩
  · exact Or.inl (congrArg Relay.deployer hsame)
  · rw [deployer, hnext]
    exact htidy.level.step_cases (m, o)

end Crew

end ChainProvision
