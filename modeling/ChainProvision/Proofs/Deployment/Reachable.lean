import ChainProvision.Proofs.Deployment.TurnStep

/-!
# Reachable deployers are coherent

## Main statements

- `Deployer.Coherent.turn`: every turn of a coherent deployer leads to a coherent one.
- `Deployer.coherent_afterAll`: so is every deployer that can be reached.
- `Deployer.handled`: an event is lost on a deployer that is no more; any other takes its turn.
-/

namespace ChainProvision

namespace Deployer

variable {m : Moment} {d d' : Deployer} {e : Event} {effects : List Effect}

/-! ## Calls that stay superseded -/

theorem Superseded.mono {a : Attempt} {t : Ticket} (h : d.Superseded a t)
    (hgeneration : d.generation ≤ d'.generation)
    (htracker : d.tracker.generation ≤ d'.tracker.generation) : d'.Superseded a t where
  attempt := Nat.lt_of_lt_of_le h.attempt hgeneration
  ticket := Nat.lt_of_lt_of_le h.ticket htracker

/-- Beside a call of the current attempt there are only superseded ones. -/
theorem Coherent.others_superseded {i j : Nat} {a b : Attempt} {t u : Ticket} (h : d.Coherent)
    (hget : d.deploys[i]? = some (.underway a t)) (hengaged : d.Engaged a t)
    (hother : d.deploys[j]? = some (.underway b u)) (hne : j ≠ i) : d.Superseded b u := by
  rcases h.calls hother with hold | hcur
  · exact hold
  · exact absurd (h.sole hother hget hcur.attempt hengaged.attempt) hne

/-- While a vigil is kept there are only superseded calls. -/
theorem Coherent.superseded_of_vigil {i : Nat} {a : Attempt} {t : Ticket} {v : Vigil} (h : d.Coherent)
    (hv : d.vigil = some v) (hget : d.deploys[i]? = some (.underway a t)) : d.Superseded a t := by
  rcases h.calls hget with hold | hcur
  · exact hold
  · simp [hcur.unwatched] at hv

/-- Whatever its generation, a call is not of a later one. -/
theorem Coherent.superseded_of_lt {i : Nat} {a : Attempt} {t : Ticket} (h : d.Coherent)
    (hgeneration : d.generation < d'.generation)
    (htracker : d.tracker.generation < d'.tracker.generation)
    (hget : d.deploys[i]? = some (.underway a t)) : d'.Superseded a t := by
  rcases h.calls hget with hold | hcur
  · exact hold.mono (Nat.le_of_lt hgeneration) (Nat.le_of_lt htracker)
  · exact ⟨hcur.attempt ▸ hgeneration, hcur.ticket ▸ htracker⟩

/-! ## Ways to stay coherent -/

/-- A deployer is coherent if all its calls but one are superseded. -/
private theorem coherent_of_sole (i : Nat)
    (hcalls : ∀ {j : Nat} {a : Attempt} {t : Ticket}, d.deploys[j]? = some (.underway a t) →
      d.Superseded a t ∨ j = i ∧ d.Engaged a t)
    (hvigil : ∀ {v : Vigil}, d.vigil = some v → d.Watching v) : d.Coherent where
  calls hget := (hcalls hget).imp id And.right
  sole := by
    intro j k a b t u hj hk hja hkb
    rcases hcalls hj with hold | ⟨rfl, -⟩
    · exact absurd hja (Nat.ne_of_lt hold.attempt)
    · rcases hcalls hk with hold | ⟨rfl, -⟩
      · exact absurd hkb (Nat.ne_of_lt hold.attempt)
      · rfl
  vigil := hvigil

private theorem coherent_of_superseded
    (hcalls : ∀ {j : Nat} {a : Attempt} {t : Ticket}, d.deploys[j]? = some (.underway a t) →
      d.Superseded a t)
    (hvigil : ∀ {v : Vigil}, d.vigil = some v → d.Watching v) : d.Coherent :=
  coherent_of_sole 0 (fun hget => Or.inl (hcalls hget)) hvigil

/-- Nothing changes for the calls and the vigil, save that some calls may have ended. -/
private theorem Coherent.settle (h : d.Coherent) (hgeneration : d'.generation = d.generation)
    (htracker : d'.tracker = d.tracker) (hvigil : d'.vigil = d.vigil)
    (hstatus : d'.state.value.status = d.state.value.status)
    (hhash : d'.state.value.txHash = d.state.value.txHash)
    (hcalls : ∀ {i : Nat} {a : Attempt} {t : Ticket}, d'.deploys[i]? = some (.underway a t) →
      d.deploys[i]? = some (.underway a t)) : d'.Coherent where
  calls := by
    intro i a t hget
    rcases h.calls (hcalls hget) with hold | hcur
    · exact Or.inl ⟨hgeneration ▸ hold.attempt, htracker ▸ hold.ticket⟩
    · refine Or.inr ⟨hgeneration ▸ hcur.attempt, htracker ▸ hcur.ticket, hvigil ▸ hcur.unwatched, ?_⟩
      have hshows := hcur.shows
      cases hawait : t.awaiting <;> simpa [hawait, Shows, hstatus, hhash, htracker] using hshows
  sole hi hj ha hb := h.sole (hcalls hi) (hcalls hj) (hgeneration ▸ ha) (hgeneration ▸ hb)
  vigil := by
    intro v hv
    have hwatch := h.vigil (hvigil ▸ hv)
    exact ⟨hgeneration ▸ hwatch.attempt, hstatus ▸ hwatch.status, htracker ▸ hwatch.confirmed,
      hwatch.undecided⟩

/-- The call of the current attempt ends, and all others are superseded. -/
private theorem Coherent.finish {i : Nat} {a : Attempt} {t : Ticket} {result : Option TxHash}
    (h : d.Coherent) (hget : d.deploys[i]? = some (.underway a t)) (hengaged : d.Engaged a t)
    (hgeneration : d'.generation = d.generation)
    (htracker : d'.tracker.generation = d.tracker.generation)
    (hdeploys : d'.deploys = d.deploys.set i (.ended result))
    (hvigil : ∀ {v : Vigil}, d'.vigil = some v → d'.Watching v) : d'.Coherent := by
  refine coherent_of_superseded ?_ hvigil
  intro j b u hj
  rw [hdeploys] at hj
  obtain ⟨hj, hne⟩ := underway_of_set_ended hj
  exact (h.others_superseded hget hengaged hj hne).mono (Nat.le_of_eq hgeneration.symm)
    (Nat.le_of_eq htracker.symm)

/-! ## Every turn -/

/-- **Every turn keeps to the generations.** -/
theorem Coherent.turn (h : d.Coherent) (hturn : Turn m d e d' effects) : d'.Coherent := by
  cases hturn with
  | ignored => exact h
  | entered _ _ _ hsame _ =>
    obtain ⟨mode, serviceError, isNewService, canDeploy, hstate, -⟩ := hsame
    exact h.settle rfl rfl rfl (by simp [hstate]) (by simp [hstate]) id
  | declined hopening =>
    exact h.settle rfl rfl rfl rfl rfl fun hget => underway_of_concat_ended hget
  | unmanned hopening hidle hstate =>
    exact h.settle rfl rfl rfl (by simp [hstate]) (by simp [hstate]) fun hget =>
      underway_of_concat_ended hget
  | refused hopening hidle hstate =>
    -- The attempt has failed before there was a call of it.
    refine coherent_of_superseded ?_ ?_
    · intro j b u hj
      have hj := underway_of_concat_ended hj
      exact (h.superseded_of_idle hidle hj).mono (Nat.le_succ _) (Nat.le_refl _)
    · simp [h.vigil_eq_none_of_idle hidle]
  | opened hopening hidle hstate =>
    -- All other calls fall behind the new generations, and the new one is current.
    refine coherent_of_sole d.deploys.length ?_ ?_
    · intro j b u hj
      rcases Calls.get_of_concat hj with hold | ⟨rfl, hnew⟩
      · exact Or.inl (h.superseded_of_lt (Nat.lt_succ_self _) (Nat.lt_succ_self _) hold)
      · obtain ⟨rfl, rfl⟩ := DeployCall.underway.inj hnew
        exact Or.inr ⟨rfl, rfl, rfl, h.vigil_eq_none_of_idle hidle, by simp [Shows, hstate]⟩
    · simp [h.vigil_eq_none_of_idle hidle]
  | @signed i a t hget hawait =>
    -- The call stays what it is: both stages before the broadcast are shown alike.
    have hnext : ∀ {j : Nat} {b : Attempt} {u : Ticket},
        (d.deploys.set i (.underway a { t with awaiting := .broadcast }))[j]? = some (.underway b u) →
          ∃ u', d.deploys[j]? = some (.underway b u') ∧ u.generation = u'.generation ∧
            (d.Shows u'.awaiting → d.Shows u.awaiting) := by
      intro j b u hj
      rcases Calls.get_of_set hj with ⟨hold, -⟩ | ⟨rfl, hnew⟩
      · exact ⟨u, hold, rfl, id⟩
      · obtain ⟨rfl, rfl⟩ := DeployCall.underway.inj hnew
        refine ⟨t, hget, rfl, ?_⟩
        rw [hawait]
        exact id
    constructor
    · intro j b u hj
      obtain ⟨u', hj', hgen, hshows⟩ := hnext hj
      rcases h.calls hj' with hold | hcur
      · exact Or.inl ⟨hold.attempt, hgen ▸ hold.ticket⟩
      · exact Or.inr ⟨hcur.attempt, hgen.trans hcur.ticket, hcur.unwatched, hshows hcur.shows⟩
    · intro j k b c u w hj hk
      obtain ⟨u', hj', -⟩ := hnext hj
      obtain ⟨w', hk', -⟩ := hnext hk
      exact h.sole hj' hk'
    · intro v hv
      have hwatch := h.vigil hv
      exact ⟨hwatch.attempt, hwatch.status, hwatch.confirmed, hwatch.undecided⟩
  | lapsed hget hold hfits hsign =>
    exact h.settle rfl rfl rfl rfl rfl fun hget => (underway_of_set_ended hget).1
  | @sent i a t hash journal canDeploy state hget hengaged hawait hstate =>
    refine coherent_of_sole i ?_ ?_
    · intro j b u hj
      rcases Calls.get_of_set hj with ⟨hold, hne⟩ | ⟨rfl, hnew⟩
      · have hothers := h.others_superseded hget hengaged hold hne
        exact Or.inl (hothers.mono (Nat.le_refl _) (Nat.le_refl _))
      · obtain ⟨rfl, rfl⟩ := DeployCall.underway.inj hnew
        exact Or.inr ⟨rfl, hengaged.attempt, hengaged.ticket, hengaged.unwatched,
          by simp [Shows, hstate]⟩
    · simp [hengaged.unwatched]
  | fell hget hengaged hfail hstate =>
    exact h.finish hget hengaged rfl rfl rfl (by simp [hengaged.unwatched])
  | unnumbered hget hengaged hawait hstate =>
    exact h.finish hget hengaged rfl rfl rfl (by simp [hengaged.unwatched])
  | @awaited i a t hash r number journal v s canDeploy state hget hengaged hawait hv hs hstate =>
    refine h.finish hget hengaged rfl rfl rfl ?_
    -- The call has ended, and the vigil of the same attempt takes its place.
    intro w hw
    obtain rfl := Option.some.inj hw
    have hcourse : s.SameCourse state.value := hstate ▸ v.lookout.sameCourse_shown s canDeploy
    obtain ⟨progress, pollError, _, hcourse⟩ := hcourse
    exact ⟨hv ▸ hengaged.attempt, by simp [hcourse, hs], rfl, hv ▸ verdict?_start _ _ _⟩
  | looked hv he hgen hkey hopen hstate heffects =>
    have hwatch := h.vigil hv
    obtain ⟨progress, pollError, canDeploy, hstate⟩ := hstate
    refine coherent_of_superseded ?_ ?_
    · intro j b u hj
      exact (h.superseded_of_vigil hv hj).mono (Nat.le_refl _) (Nat.le_refl _)
    · intro w hw
      obtain rfl := Option.some.inj hw
      exact ⟨hgen.trans hwatch.attempt, by simp [hstate, hwatch.status], hwatch.confirmed, hopen⟩
  | found hv he hs hstate =>
    refine coherent_of_superseded ?_ (by simp)
    intro j b u hj
    exact (h.superseded_of_vigil hv hj).mono (Nat.le_refl _) (Nat.le_refl _)
  | lost hv he hloss hs hstate =>
    refine coherent_of_superseded ?_ (by simp)
    intro j b u hj
    exact (h.superseded_of_vigil hv hj).mono (Nat.le_refl _) (Nat.le_refl _)
  | atRest => exact h
  | discarded hstate =>
    -- Both generations move on together, so no call is current.
    refine coherent_of_superseded ?_ (by simp)
    intro j b u hj
    exact h.superseded_of_lt (Nat.lt_succ_self _) (Nat.lt_succ_self _) hj

/-! ## Runs -/

/-- A deployer that is no more has no calls under way. -/
theorem not_underway_of_isGone (hgone : d.isGone = true) (i : Nat) (a : Attempt) (t : Ticket) :
    d.deploys[i]? ≠ some (.underway a t) := by
  intro hget
  have hmem : DeployCall.underway a t ∈ d.deploys := List.mem_of_getElem? hget
  have hbusy : d.isBusy = true := by
    simp only [isBusy, Bool.or_eq_true, List.any_eq_true]
    exact Or.inl (Or.inl ⟨_, hmem, rfl⟩)
  simp [isGone, hbusy] at hgone

@[simp] theorem settleRelease_state (d : Deployer) : d.settleRelease.state = d.state := by
  unfold settleRelease
  split <;> rfl

@[simp] theorem settleRelease_tracker (d : Deployer) : d.settleRelease.tracker = d.tracker := by
  unfold settleRelease
  split <;> rfl

@[simp] theorem settleRelease_shelf (d : Deployer) : d.settleRelease.shelf = d.shelf := by
  unfold settleRelease
  split <;> rfl

@[simp] theorem settleRelease_deploys (d : Deployer) : d.settleRelease.deploys = d.deploys := by
  unfold settleRelease
  split <;> rfl

@[simp] theorem settleRelease_log (d : Deployer) : d.settleRelease.log = d.log := by
  unfold settleRelease
  split <;> rfl

@[simp] theorem settleRelease_settings (d : Deployer) : d.settleRelease.settings = d.settings := by
  unfold settleRelease
  split <;> rfl

@[simp] theorem settleRelease_encoder (d : Deployer) : d.settleRelease.encoder = d.encoder := by
  unfold settleRelease
  split <;> rfl

/-- The end of a released deployer ends its vigil and nothing else that is seen. -/
theorem Coherent.settleRelease (h : d.Coherent) : d.settleRelease.Coherent := by
  unfold Deployer.settleRelease
  split
  · rename_i hgone
    refine coherent_of_superseded ?_ (by simp)
    intro j a t hget
    exact absurd hget (not_underway_of_isGone hgone j a t)
  · exact h

/-- **What becomes of an event**: it is lost on a deployer that is no more; any other takes its
turn, after which it ends if nobody holds it. -/
theorem handled (h : d.Coherent) (m : Moment) (e : Event) :
    d.isGone = true ∧ d.handle m e = (d, []) ∨
      d.isGone = false ∧
        ∃ d' effects, Turn m d e d' effects ∧ d.handle m e = (d'.settleRelease, effects) := by
  unfold handle
  split
  · rename_i hgone
    exact Or.inl ⟨hgone, rfl⟩
  · rename_i hgone
    exact Or.inr ⟨by simpa using hgone, _, _, turn_step m h e, rfl⟩

theorem Coherent.handle (h : d.Coherent) (m : Moment) (e : Event) : (d.handle m e).1.Coherent := by
  rcases handled h m e with ⟨-, heq⟩ | ⟨-, d', effects, hturn, heq⟩
  · rw [heq]
    exact h
  · rw [heq]
    exact (h.turn hturn).settleRelease

theorem Coherent.run (h : d.Coherent) (es : List (Moment × Event)) : (d.run es).Coherent := by
  induction es generalizing d with
  | nil => exact h
  | cons e es ih => exact ih (h.handle e.1 e.2)

/-- **Every deployer that can be reached is coherent.** -/
theorem coherent_afterAll (settings : Settings) (encoder : Encoder) (mode : ResourceKind)
    (es : List (Moment × Event)) : (afterAll settings encoder mode es).Coherent :=
  (coherent_new settings encoder mode).run es

/-- What no turn changes stays as it is. -/
theorem const_run {α : Type} {f : Deployer → α} (hsettle : ∀ d : Deployer, f d.settleRelease = f d)
    (hturn : ∀ {m : Moment} {d d' : Deployer} {e : Event} {effects : List Effect},
      Turn m d e d' effects → f d' = f d)
    (h : d.Coherent) (es : List (Moment × Event)) : f (d.run es) = f d := by
  induction es generalizing d with
  | nil => rfl
  | cons x es ih =>
    obtain ⟨m, e⟩ := x
    have hhandle : f (d.handle m e).1 = f d := by
      rcases handled h m e with ⟨-, heq⟩ | ⟨-, d', effects, ht, heq⟩
      · rw [heq]
      · rw [heq]
        exact (hsettle d').trans (hturn ht)
    exact (ih (h.handle m e)).trans hhandle

theorem Turn.settings_eq (hturn : Turn m d e d' effects) : d'.settings = d.settings := by
  cases hturn <;> rfl

/-- Nothing changes the settings. -/
theorem settings_run (h : d.Coherent) (es : List (Moment × Event)) : (d.run es).settings = d.settings :=
  const_run settleRelease_settings Turn.settings_eq h es

/-- Nothing changes the encoder. -/
theorem encoder_run (h : d.Coherent) (es : List (Moment × Event)) : (d.run es).encoder = d.encoder := by
  refine const_run settleRelease_encoder ?_ h es
  intro m d d' e effects hturn
  cases hturn <;> rfl

end Deployer

end ChainProvision
