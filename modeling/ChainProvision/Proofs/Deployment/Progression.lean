import ChainProvision.Proofs.Deployment.Reachable

/-!
# The progression of a deployment

The log of a deployer holds every event that was raised, with the status that it found.  It is a
walk: each event goes one step on towards `ready`, or from a status that is not final to `failed`,
or it is a reset, which finds a state that was cleared just before.  Thus no event that is raised is
ever ignored.  The walk goes back to `idle` only when the deployer is reset.

## Main definitions

- `Walk`: the statuses that a deployment goes through.

## Main statements

- `Deployer.walk_turn`: what one event adds to the walk.
- `Deployer.walk_afterAll`: every run is a walk from `idle`.
- `Deployer.status_runs_legal`: no raised event is ignored, and only a reset leads back to `idle`.
-/

namespace ChainProvision

/-! ## Walks -/

/-- The statuses that a deployment goes through by the events raised, each with the status that it
finds.  It goes back to `idle` only if it was reset. -/
inductive Walk (wasReset : Prop) : DeployStatus → List Move → DeployStatus → Prop where
  | stay (s : DeployStatus) :
      Walk wasReset s [] s
  /-- One step towards `ready`. -/
  | onward {s n t : DeployStatus} {e : DeployEvent} {k : Nat} {moves : List Move} :
      s.advance e = .ok n → s.rank = some k → n.rank = some (k + 1) →
      Walk wasReset n moves t →
      Walk wasReset s (⟨s, e⟩ :: moves) t
  | fall {s t : DeployStatus} {moves : List Move} :
      s.isTerminal = false →
      Walk wasReset .failed moves t →
      Walk wasReset s (⟨s, .fail⟩ :: moves) t
  /-- The state is cleared before a reset is raised. -/
  | reset {s t : DeployStatus} {moves : List Move} :
      wasReset →
      Walk wasReset .idle moves t →
      Walk wasReset s (⟨.idle, .reset⟩ :: moves) t

namespace Walk

variable {p q : Prop} {s t u : DeployStatus} {moves moves' : List Move}

theorem append (h : Walk p s moves t) (h' : Walk p t moves' u) : Walk p s (moves ++ moves') u := by
  induction h with
  | stay s => exact h'
  | onward hadvance hs hn _ ih => exact .onward hadvance hs hn (ih h')
  | fall hs _ ih => exact .fall hs (ih h')
  | reset hp _ ih => exact .reset hp (ih h')

theorem mono (h : Walk p s moves t) (hpq : p → q) : Walk q s moves t := by
  induction h with
  | stay s => exact .stay s
  | onward hadvance hs hn _ ih => exact .onward hadvance hs hn ih
  | fall hs _ ih => exact .fall hs ih
  | reset hp _ ih => exact .reset (hpq hp) ih

/-- A walk that ends at `idle` begins there, unless there was a reset. -/
theorem of_idle (h : Walk p s moves t) (ht : t = .idle) : s = .idle ∨ p := by
  induction h with
  | stay s => exact Or.inl ht
  | onward _ _ hn _ ih =>
    rcases ih ht with rfl | hp
    · simp [DeployStatus.rank] at hn
    · exact Or.inr hp
  | fall _ _ ih =>
    rcases ih ht with hfailed | hp
    · cases hfailed
    · exact Or.inr hp
  | reset hp _ _ => exact Or.inr hp

/-- Every event on a walk fits the status that it finds. -/
theorem fits (h : Walk p s moves t) :
    ∀ move ∈ moves, ∃ next, move.status.advance move.event = .ok next := by
  induction h with
  | stay s => simp
  | onward hadvance _ _ _ ih =>
    intro move hmove
    rcases List.mem_cons.mp hmove with rfl | hmove
    · exact ⟨_, hadvance⟩
    · exact ih move hmove
  | @fall s t moves hs _ ih =>
    intro move hmove
    rcases List.mem_cons.mp hmove with rfl | hmove
    · -- Failure fits every status that is not final.
      refine ⟨.failed, ?_⟩
      cases s <;> first | rfl | cases hs
    · exact ih move hmove
  | reset _ _ ih =>
    intro move hmove
    rcases List.mem_cons.mp hmove with rfl | hmove
    · exact ⟨.idle, rfl⟩
    · exact ih move hmove

end Walk

namespace Deployer

variable {m : Moment} {d d' : Deployer} {e : Event} {effects : List Effect}

/-! ## What an event adds to the log -/

/-- **Every turn is a walk** from the status before to the status after, by the events that it
raises, and back to `idle` if the turn is a reset. -/
theorem walk_turn (h : d.Coherent) (hturn : Turn m d e d' effects) :
    ∃ moves, d'.log = d.log ++ moves ∧
      Walk (e = .reset) d.state.value.status moves d'.state.value.status := by
  -- A turn that raises nothing leaves the status alone.
  have hnone : ∀ {d' : Deployer}, d'.log = d.log → d'.state.value.status = d.state.value.status →
      ∃ moves, d'.log = d.log ++ moves ∧
        Walk (e = .reset) d.state.value.status moves d'.state.value.status := by
    intro d' hlog hstatus
    refine ⟨[], by simp [hlog], ?_⟩
    rw [hstatus]
    exact .stay _
  cases hturn with
  | ignored _ _ _ => exact hnone rfl rfl
  | entered _ _ _ hsame _ =>
    obtain ⟨mode, serviceError, isNewService, canDeploy, hstate, -⟩ := hsame
    exact hnone rfl (by simp [hstate])
  | declined hopening => exact hnone rfl rfl
  | unmanned hopening hidle hstate => exact hnone rfl (by simp [hstate])
  | refused hopening hidle hstate =>
    refine ⟨_, rfl, ?_⟩
    simp only [hidle, hstate]
    exact .fall rfl (.stay _)
  | opened hopening hidle hstate =>
    refine ⟨_, rfl, ?_⟩
    simp only [hidle, hstate]
    exact .onward rfl rfl rfl (.stay _)
  | signed hget hawait => exact hnone rfl rfl
  | lapsed hget hold hfits hsign => exact hnone rfl rfl
  | sent hget hengaged hawait hstate =>
    refine ⟨_, rfl, ?_⟩
    simp only [hengaged.signing hawait, hstate]
    exact .onward rfl rfl rfl (.stay _)
  | fell hget hengaged hfail hstate =>
    refine ⟨_, rfl, ?_⟩
    simp only [hstate]
    refine .fall ?_ (.stay _)
    rcases hengaged.status with hs | hs <;> rw [hs] <;> rfl
  | unnumbered hget hengaged hawait hstate =>
    -- The attempt is confirmed and fails in one turn.
    refine ⟨_, rfl, ?_⟩
    simp only [hengaged.pending hawait, hstate]
    exact .onward rfl rfl rfl (.fall rfl (.stay _))
  | @awaited i a t hash r number journal v s canDeploy state hget hengaged hawait hv hs hstate =>
    have hcourse : s.SameCourse state.value := hstate ▸ v.lookout.sameCourse_shown s canDeploy
    obtain ⟨progress, pollError, _, hcourse⟩ := hcourse
    refine ⟨_, rfl, ?_⟩
    simp only [hengaged.pending hawait, hcourse, hs]
    exact .onward rfl rfl rfl (.onward rfl rfl rfl (.stay _))
  | looked hv he hgen hkey hopen hstate heffects =>
    obtain ⟨progress, pollError, canDeploy, hstate⟩ := hstate
    exact hnone rfl (by simp [hstate])
  | found hv he hs hstate =>
    obtain ⟨progress, pollError, canDeploy, hstate⟩ := hstate
    refine ⟨_, rfl, ?_⟩
    simp only [(h.vigil hv).status, hstate, hs]
    exact .onward rfl rfl rfl (.stay _)
  | lost hv he hloss hs hstate =>
    obtain ⟨progress, pollError, canDeploy, hstate⟩ := hstate
    refine ⟨_, rfl, ?_⟩
    simp only [(h.vigil hv).status, hstate, hs]
    exact .fall rfl (.stay _)
  | atRest hidle herror => exact hnone rfl rfl
  | discarded hstate =>
    refine ⟨_, rfl, ?_⟩
    simp only [hstate]
    exact .reset trivial (.stay _)

/-- A final status is left by a reset only. -/
theorem terminal_turn (h : d.Coherent) (hfinal : d.state.value.status.isTerminal = true)
    (hturn : Turn m d e d' effects) :
    d'.state.value.status = d.state.value.status ∨ e = .reset ∧ d'.state.value.status = .idle := by
  have hnotIdle : d.state.value.status ≠ .idle := by
    intro hidle
    rw [hidle] at hfinal
    cases hfinal
  -- Once the status is final, nothing of the current attempt goes on.
  have hengaged : ∀ {a : Attempt} {t : Ticket}, ¬ d.Engaged a t := by
    intro a t hengaged
    rw [hengaged.not_terminal] at hfinal
    cases hfinal
  have hwatching : ∀ {v : Vigil}, d.vigil ≠ some v := by simp [h.vigil_eq_none_of_terminal hfinal]
  cases hturn with
  | entered _ _ _ hsame _ =>
    obtain ⟨mode, serviceError, isNewService, canDeploy, hstate, -⟩ := hsame
    exact Or.inl (by simp [hstate])
  | unmanned _ hidle _ => exact absurd hidle hnotIdle
  | refused _ hidle _ => exact absurd hidle hnotIdle
  | opened _ hidle _ => exact absurd hidle hnotIdle
  | sent hget hcur hawait hstate => exact absurd hcur hengaged
  | fell hget hcur hfail hstate => exact absurd hcur hengaged
  | unnumbered hget hcur hawait hstate => exact absurd hcur hengaged
  | awaited hget hcur hawait hv hs hstate => exact absurd hcur hengaged
  | looked hv _ _ _ _ _ _ => exact absurd hv hwatching
  | found hv _ _ _ => exact absurd hv hwatching
  | lost hv _ _ _ _ => exact absurd hv hwatching
  | discarded hstate => exact Or.inr ⟨rfl, by simp [hstate, DeployState.clearAttempt]⟩
  | _ => exact Or.inl rfl

/-! ## Runs -/

theorem walk_handle (h : d.Coherent) (m : Moment) (e : Event) :
    ∃ moves, (d.handle m e).1.log = d.log ++ moves ∧
      Walk (e = .reset) d.state.value.status moves (d.handle m e).1.state.value.status := by
  rcases handled h m e with ⟨-, heq⟩ | ⟨-, d', effects, hturn, heq⟩
  · exact ⟨[], by simp [heq], by rw [heq]; exact .stay _⟩
  · simp only [heq, settleRelease_log, settleRelease_state]
    exact walk_turn h hturn

theorem walk_run (h : d.Coherent) (es : List (Moment × Event)) :
    ∃ moves, (d.run es).log = d.log ++ moves ∧
      Walk (∃ x ∈ es, x.2 = .reset) d.state.value.status moves (d.run es).state.value.status := by
  induction es generalizing d with
  | nil => exact ⟨[], by simp, .stay _⟩
  | cons x es ih =>
    obtain ⟨moves, hlog, hwalk⟩ := walk_handle h x.1 x.2
    obtain ⟨moves', hlog', hwalk'⟩ := ih (h.handle x.1 x.2)
    replace hwalk : Walk (∃ y ∈ x :: es, y.2 = .reset) _ _ _ :=
      hwalk.mono fun hx => ⟨x, List.mem_cons_self, hx⟩
    replace hwalk' : Walk (∃ y ∈ x :: es, y.2 = .reset) _ _ _ :=
      hwalk'.mono fun ⟨y, hmem, hy⟩ => ⟨y, List.mem_cons_of_mem _ hmem, hy⟩
    refine ⟨moves ++ moves', ?_, hwalk.append hwalk'⟩
    rw [run_cons, hlog', hlog, List.append_assoc]

/-- **Every run is a walk from `idle`.** -/
theorem walk_afterAll (settings : Settings) (encoder : Encoder) (mode : ResourceKind)
    (es : List (Moment × Event)) :
    Walk (∃ x ∈ es, x.2 = .reset) .idle (afterAll settings encoder mode es).log
      (afterAll settings encoder mode es).state.value.status := by
  obtain ⟨moves, hlog, hwalk⟩ := walk_run (coherent_new settings encoder mode) es
  have hmoves : (afterAll settings encoder mode es).log = moves := hlog
  rw [hmoves]
  exact hwalk

/-- **Statuses run legally.**  In every run, what was raised is a walk from `idle` to the status
shown, and no event was raised that did not fit the status that it found.  Whatever comes next goes
on with the walk.  Nothing but a reset leads back to `idle`, from whatever status, and nothing else
changes a status that is final. -/
theorem status_runs_legal (settings : Settings) (encoder : Encoder) (mode : ResourceKind)
    (es : List (Moment × Event)) :
    let d := afterAll settings encoder mode es
    Walk (∃ x ∈ es, x.2 = .reset) .idle d.log d.state.value.status ∧
    (∀ move ∈ d.log, ∃ next, move.status.advance move.event = .ok next) ∧
    ∀ m e,
      (∃ moves, (d.handle m e).1.log = d.log ++ moves ∧
        Walk (e = .reset) d.state.value.status moves (d.handle m e).1.state.value.status) ∧
      ((d.handle m e).1.state.value.status = .idle → d.state.value.status = .idle ∨ e = .reset) ∧
      (d.state.value.status.isTerminal = true →
        (d.handle m e).1.state.value.status = d.state.value.status ∨
          e = .reset ∧ (d.handle m e).1.state.value.status = .idle) := by
  intro d
  have h : d.Coherent := coherent_afterAll settings encoder mode es
  have hwalk := walk_afterAll settings encoder mode es
  refine ⟨hwalk, hwalk.fits, fun m e => ⟨walk_handle h m e, fun hidle => ?_, fun hfinal => ?_⟩⟩
  · obtain ⟨moves, -, hwalk⟩ := walk_handle h m e
    exact hwalk.of_idle hidle
  · rcases handled h m e with ⟨-, heq⟩ | ⟨-, d', effects, hturn, heq⟩
    · rw [heq]
      exact Or.inl rfl
    · simp only [heq, settleRelease_state]
      exact terminal_turn h hfinal hturn

end Deployer

end ChainProvision
