import ChainProvision.Proofs.Deployment.Relay
import ChainProvision.Proofs.Deployment.Supersession
import ChainProvision.Proofs.Deployment.Tandem

/-!
# After the end of an attempt

Once an attempt has ended, and as long as it is not reset, nothing changes of what is shown of it, the
shelf is left alone and nobody is asked after a resource, whatever else happens to the deployer.

## Main definitions

- `Deployer.requests`: what is asked for along a run;
- `Relay.Rests`: nothing of an attempt goes on between two relays.

## Main statements

- `Deployer.final_run`: a run after the end of an attempt.
- `Deployer.ended_run`: a call that has ended stays as it is.
- `Relay.final_rests`: the same of a deployer that looks late.
-/

namespace ChainProvision

open Deployer

theorem DeployState.SameAttempt.trans {s s' s'' : DeployState} (h : s.SameAttempt s')
    (h' : s'.SameAttempt s'') : s.SameAttempt s'' := by
  obtain ⟨mode, serviceError, isNewService, canDeploy, rfl, hkeep⟩ := h
  obtain ⟨mode', serviceError', isNewService', canDeploy', rfl, hkeep'⟩ := h'
  refine ⟨mode', serviceError', isNewService', canDeploy', rfl, fun hidle => ?_⟩
  obtain ⟨hmode, hroute⟩ := hkeep hidle
  obtain ⟨hmode', hroute'⟩ := hkeep' hidle
  exact ⟨hmode'.trans hmode, hroute'.trans hroute⟩

theorem DeployState.SameAttempt.status_eq {s s' : DeployState} (h : s.SameAttempt s') :
    s'.status = s.status := by
  obtain ⟨_, _, _, _, rfl, -⟩ := h
  rfl

namespace Deployer

variable {d : Deployer} {i : Nat}

/-- What is asked for along a run. -/
def requests (d : Deployer) : List (Moment × Event) → List Effect
  | [] => []
  | x :: es => (d.handle x.1 x.2).2 ++ (d.handle x.1 x.2).1.requests es

theorem requests_append (d : Deployer) (es fs : List (Moment × Event)) :
    d.requests (es ++ fs) = d.requests es ++ (d.run es).requests fs := by
  induction es generalizing d with
  | nil => rfl
  | cons x es ih => simp [requests, ih, run_cons]

/-- Nobody is asked after a resource. -/
def Silent (effects : List Effect) : Prop := ∀ effect ∈ effects, effect.attempt? = none

theorem Silent.append {effects effects' : List Effect} (h : Silent effects) (h' : Silent effects') :
    Silent (effects ++ effects') := fun effect hmem =>
  (List.mem_append.mp hmem).elim (h effect) (h' effect)

theorem ended_run {result : Option TxHash} (h : d.Coherent)
    (hget : d.deploys[i]? = some (.ended result)) (es : List (Moment × Event)) :
    (d.run es).deploys[i]? = some (.ended result) := by
  induction es generalizing d with
  | nil => exact hget
  | cons x es ih => exact ih (h.handle x.1 x.2) (ended_handle h hget x.1 x.2)

/-- A call that is under way after a run was so before, if it was there. -/
theorem underway_of_run {es : List (Moment × Event)} {a : Attempt} {t : Ticket} (h : d.Coherent)
    (hlt : i < d.deploys.length) (hget : (d.run es).deploys[i]? = some (.underway a t)) :
    ∃ a t, d.deploys[i]? = some (.underway a t) := by
  cases hcall : d.deploys[i] with
  | underway a t => exact ⟨a, t, (List.getElem?_eq_getElem hlt).trans (congrArg some hcall)⟩
  | ended result =>
    have hended := ended_run h ((List.getElem?_eq_getElem hlt).trans (congrArg some hcall)) es
    cases hended.symm.trans hget

/-- **After its end nothing of an attempt changes**, and nobody is asked after a resource, until it is
reset. -/
theorem final_run (h : d.Coherent) (hfinal : d.state.value.status.isTerminal = true)
    {es : List (Moment × Event)} (hes : ∀ x ∈ es, x.2 ≠ .reset) :
    Beside d (d.run es) (d.requests es) := by
  induction es generalizing d with
  | nil => exact ⟨.refl _, rfl, fun _ hmem => nomatch hmem⟩
  | cons x es ih =>
    obtain ⟨hbeside, -⟩ := beside_handle_of_final h hfinal (hes x List.mem_cons_self) x.1
    have hfinal' : (d.handle x.1 x.2).1.state.value.status.isTerminal = true := by
      rw [hbeside.state.status_eq]
      exact hfinal
    obtain ⟨hstate, hshelf, hsilent⟩ := ih (h.handle x.1 x.2) hfinal'
      fun y hy => hes y (List.mem_cons_of_mem _ hy)
    exact ⟨hbeside.state.trans hstate, hshelf.trans hbeside.shelf,
      Silent.append hbeside.silent hsilent⟩

/-- What still comes of an attempt that has ended is not even announced. -/
theorem state_handle_of_final {e : Event} (h : d.Coherent)
    (hfinal : d.state.value.status.isTerminal = true) (he : e.isOfAttempt = true) (m : Moment) :
    (d.handle m e).1.state = d.state := by
  have hunwatched := h.vigil_eq_none_of_terminal hfinal
  have hengaged : ∀ {a : Attempt} {t : Ticket}, ¬ d.Engaged a t := by
    intro a t hcur
    simp [hcur.not_terminal] at hfinal
  rcases handled h m e with ⟨-, heq⟩ | ⟨-, d', effects, hturn, heq⟩
  · rw [heq]
  · rw [heq, settleRelease_state]
    cases hturn with
    | ignored | signed | lapsed => rfl
    | entered _ _ _ _ _ hentry => cases e <;> simp [Event.isEntry, Event.isOfAttempt] at hentry he
    | sent _ hcur | fell _ hcur | unnumbered _ hcur | awaited _ hcur => exact absurd hcur hengaged
    | looked hv | found hv | lost hv => simp [hunwatched] at hv
    | _ => cases he

end Deployer

namespace Relay

variable {r r' r'' : Relay}

/-- Nothing of an attempt goes on between two relays: what is shown of it and the shelf stay, and
nobody is asked after a resource. -/
structure Rests (r r' : Relay) : Prop where
  state : r.deployer.state.value.SameAttempt r'.deployer.state.value
  shelf : r'.deployer.shelf = r.deployer.shelf
  silent : ∃ more, r'.trace = r.trace ++ more ∧ ∀ entry ∈ more, Silent entry.2

theorem Rests.refl (r : Relay) : r.Rests r := ⟨.refl _, rfl, [], by simp, by simp⟩

theorem Rests.trans (h : r.Rests r') (h' : r'.Rests r'') : r.Rests r'' := by
  obtain ⟨hstate, hshelf, more, htrace, hmore⟩ := h
  obtain ⟨hstate', hshelf', more', htrace', hmore'⟩ := h'
  refine ⟨hstate.trans hstate', hshelf'.trans hshelf, more ++ more', by simp [htrace, htrace'], ?_⟩
  exact fun entry hmem => (List.mem_append.mp hmem).elim (hmore entry) (hmore' entry)

/-- A relay whose attempt has ended. -/
structure Final (r : Relay) : Prop where
  coherent : r.deployer.Coherent
  terminal : r.deployer.state.value.status.isTerminal = true
  ahead : r.ahead = none

theorem Final.take (h : r.Final) {e : Event} (hreset : e ≠ .reset) (m : Moment) :
    (r.take m e).1.Final ∧ r.Rests (r.take m e).1 ∧
      (e.isOfAttempt = true → (r.take m e).1.deployer.state = r.deployer.state) := by
  cases hgone : r.deployer.isGone with
  | true =>
    have htake : (r.take m e).1 = r := by simp [Relay.take, hgone]
    rw [htake]
    exact ⟨h, .refl r, fun _ => rfl⟩
  | false =>
    obtain ⟨hbeside, hvigil⟩ := beside_handle_of_final h.coherent h.terminal hreset m
    have htake : (r.take m e).1 =
        { r with
          deployer := (r.deployer.handle m e).1
          ahead := none
          trace := r.trace ++ [(e, (r.deployer.handle m e).2)] } := by
      simp [Relay.take, hgone, h.ahead, hvigil]
    rw [htake]
    refine ⟨⟨h.coherent.handle m e, ?_, rfl⟩, ⟨hbeside.state, hbeside.shelf, _, rfl, ?_⟩,
      fun he => state_handle_of_final h.coherent h.terminal he m⟩
    · show (r.deployer.handle m e).1.state.value.status.isTerminal = true
      rw [hbeside.state.status_eq]
      exact h.terminal
    · intro entry hmem
      obtain rfl := List.mem_singleton.mp hmem
      exact hbeside.silent

theorem Final.look (h : r.Final) (m : Moment) :
    (r.look m).Final ∧ r.Rests (r.look m) ∧ (r.look m).deployer.state = r.deployer.state := by
  have hvigil := h.coherent.vigil_eq_none_of_terminal h.terminal
  unfold Relay.look
  split
  · exact ⟨h, .refl r, rfl⟩
  · rw [hvigil]
    exact ⟨⟨h.coherent, h.terminal, h.ahead⟩, ⟨.refl _, rfl, [], by simp, by simp⟩, rfl⟩

/-- **After the end of an attempt nothing of it goes on**, however late the deployer looks; what is not
an input does not even touch the state. -/
theorem final_rests (h : r.Final) {xs : List (Moment × Occurrence)}
    (hxs : ∀ x ∈ xs, x.2 ≠ .event .reset) :
    r.Rests (r.run xs) ∧
      ((∀ x ∈ xs, ∀ e, x.2 = .event e → e.isOfAttempt = true) →
        (r.run xs).deployer.state = r.deployer.state) := by
  induction xs generalizing r with
  | nil => exact ⟨.refl r, fun _ => rfl⟩
  | cons x xs ih =>
    obtain ⟨hreset, hrest⟩ := List.forall_mem_cons.mp hxs
    obtain ⟨hfinal, hrests, hstate⟩ : (r.step x).Final ∧ r.Rests (r.step x) ∧
        ((∀ e, x.2 = .event e → e.isOfAttempt = true) → (r.step x).deployer.state = r.deployer.state) := by
      obtain ⟨m, occurrence⟩ := x
      cases occurrence with
      | event e =>
        obtain ⟨hfinal, hrests, hstate⟩ := h.take (fun he => hreset (congrArg _ he)) m
        exact ⟨hfinal, hrests, fun he => hstate (he e rfl)⟩
      | look =>
        obtain ⟨hfinal, hrests, hstate⟩ := h.look m
        exact ⟨hfinal, hrests, fun _ => hstate⟩
    obtain ⟨hrests', hstate'⟩ := ih hfinal hrest
    refine ⟨hrests.trans hrests', fun hmem => ?_⟩
    obtain ⟨he, hmore⟩ := List.forall_mem_cons.mp hmem
    exact (hstate' hmore).trans (hstate he)

end Relay

end ChainProvision
