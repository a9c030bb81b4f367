import ChainProvision.Proofs.Deployment.Reachable
import Mathlib.Data.List.Induction

/-!
# What can be told from a run

A deployer shows what has become of it; how it came to that is told by the run.  What it holds was
begun by some event of the run, and what it has taken over last stands.

## Main definitions

- `Deployer.gather`: what the events of a run amount to, each for the deployer that it finds.

## Main statements

- `Deployer.last_gathered`: what follows the last of something is told by the last one gathered.
- `Deployer.begun_of_afterAll`: what is there at the end of a run was begun by one of its events.
- `Deployer.generation_le_run`, `Deployer.length_deploys_le_run`: what only grows.
-/

namespace ChainProvision

namespace Deployer

variable {m : Moment} {d d' : Deployer} {e : Event} {effects : List Effect}

theorem isGone_handle (hgone : d.isGone = true) (m : Moment) (e : Event) : d.handle m e = (d, []) := by
  simp [handle, hgone]

/-! ## What only grows -/

theorem generation_le_settleRelease (d : Deployer) : d.generation ≤ d.settleRelease.generation := by
  unfold settleRelease
  split
  · exact Nat.le_succ _
  · exact Nat.le_refl _

theorem generation_le_handle (h : d.Coherent) (m : Moment) (e : Event) :
    d.generation ≤ (d.handle m e).1.generation := by
  rcases handled h m e with ⟨-, heq⟩ | ⟨-, d', effects, hturn, heq⟩
  · exact Nat.le_of_eq (by rw [heq])
  · rw [heq]
    refine Nat.le_trans ?_ (generation_le_settleRelease d')
    -- A turn keeps the generation or begins the next one.
    cases hturn with
    | refused | opened | discarded => exact Nat.le_succ _
    | _ => exact Nat.le_refl _

theorem generation_le_run (h : d.Coherent) (es : List (Moment × Event)) :
    d.generation ≤ (d.run es).generation := by
  induction es generalizing d with
  | nil => exact Nat.le_refl _
  | cons x es ih => exact Nat.le_trans (generation_le_handle h x.1 x.2) (ih (h.handle x.1 x.2))

theorem length_deploys_le_handle (h : d.Coherent) (m : Moment) (e : Event) :
    d.deploys.length ≤ (d.handle m e).1.deploys.length := by
  rcases handled h m e with ⟨-, heq⟩ | ⟨-, d', effects, hturn, heq⟩
  · exact Nat.le_of_eq (by rw [heq])
  · rw [heq, settleRelease_deploys]
    -- Calls are added at the end or changed in their place.
    cases hturn <;> simp

theorem length_deploys_le_run (h : d.Coherent) (es : List (Moment × Event)) :
    d.deploys.length ≤ (d.run es).deploys.length := by
  induction es generalizing d with
  | nil => exact Nat.le_refl _
  | cons x es ih => exact Nat.le_trans (length_deploys_le_handle h x.1 x.2) (ih (h.handle x.1 x.2))

/-! ## What is gathered -/

section Gather

variable {α β : Type} (f : Deployer → Event → Option α)

/-- What an event amounts to, if the deployer is still there. -/
def amount (d : Deployer) (e : Event) : Option α := if d.isGone then none else f d e

/-- What the events of a run amount to, in order. -/
def gather (d : Deployer) : List (Moment × Event) → List α
  | [] => []
  | x :: es => (amount f d x.2).toList ++ (d.handle x.1 x.2).1.gather es

theorem gather_concat (d : Deployer) (es : List (Moment × Event)) (x : Moment × Event) :
    d.gather f (es ++ [x]) = d.gather f es ++ (amount f (d.run es) x.2).toList := by
  induction es generalizing d with
  | nil => simp [gather]
  | cons y es ih => simp [gather, ih, run_cons]

variable {f}

theorem amount_eq_some_iff {a : α} : amount f d e = some a ↔ d.isGone = false ∧ f d e = some a := by
  unfold amount
  cases d.isGone with
  | true => simp
  | false => simp

/-- Whatever is gathered is what some event amounts to. -/
theorem mem_gather {es : List (Moment × Event)} {a : α} (hmem : a ∈ d.gather f es) :
    ∃ before m e after, es = before ++ (m, e) :: after ∧ f (d.run before) e = some a := by
  induction es using List.reverseRecOn with
  | nil => cases hmem
  | append_singleton es x ih =>
    rw [gather_concat] at hmem
    rcases List.mem_append.mp hmem with hold | hnew
    · obtain ⟨before, m, e, after, rfl, ha⟩ := ih hold
      exact ⟨before, m, e, after ++ [x], by simp, ha⟩
    · have hamount : amount f (d.run es) x.2 = some a := by simpa using hnew
      exact ⟨es, x.1, x.2, [], rfl, (amount_eq_some_iff.mp hamount).2⟩

/-- **The last one stands**: if a step takes over what its event amounts to and leaves it alone
otherwise, then after a run it is what was gathered last. -/
theorem last_gathered {g : Deployer → β} {k : α → β}
    (hstep : ∀ {d : Deployer}, d.Coherent → ∀ m e, g (d.handle m e).1 = ((amount f d e).map k).getD (g d))
    (h : d.Coherent) (es : List (Moment × Event)) :
    g (d.run es) = ((d.gather f es).getLast?.map k).getD (g d) := by
  -- From the end of the run: the last event brings something, or what came before it stands.
  induction es using List.reverseRecOn with
  | nil => rfl
  | append_singleton es x ih =>
    rw [run_append, run_cons, run_nil, hstep (h.run es), gather_concat]
    cases amount f (d.run es) x.2 with
    | none => simpa using ih
    | some a => simp

end Gather

/-! ## Where things come from -/

section Runs

variable (settings : Settings) (encoder : Encoder) (mode : ResourceKind)

theorem afterAll_concat (es : List (Moment × Event)) (x : Moment × Event) :
    afterAll settings encoder mode (es ++ [x]) =
      ((afterAll settings encoder mode es).handle x.1 x.2).1 :=
  run_append _ _ _

/-- **Nothing comes from nowhere**: if a step only keeps what there is and begins what its event
says, then all that there is at the end of a run was begun by one of its events. -/
theorem begun_of_afterAll {α : Type} (Holds : Deployer → α → Prop)
    (Begins : Moment → Deployer → Event → α → Prop)
    (hnew : ∀ x, ¬ Holds (new settings encoder mode) x)
    (hstep : ∀ {d : Deployer}, d.Coherent → ∀ m e x, Holds (d.handle m e).1 x →
      Holds d x ∨ Begins m d e x)
    (es : List (Moment × Event)) (x : α) (h : Holds (afterAll settings encoder mode es) x) :
    ∃ before m e after, es = before ++ (m, e) :: after ∧
      Begins m (afterAll settings encoder mode before) e x := by
  -- From the end of the run: what the last event has not begun was there before it.
  induction es using List.reverseRecOn with
  | nil => exact absurd h (hnew x)
  | append_singleton es y ih =>
    rw [afterAll_concat] at h
    rcases hstep (coherent_afterAll settings encoder mode es) y.1 y.2 x h with hold | hbegins
    · obtain ⟨before, m, e, after, rfl, hbegins⟩ := ih hold
      exact ⟨before, m, e, after ++ [y], by simp, hbegins⟩
    · exact ⟨es, y.1, y.2, [], rfl, hbegins⟩

end Runs

end Deployer

end ChainProvision
