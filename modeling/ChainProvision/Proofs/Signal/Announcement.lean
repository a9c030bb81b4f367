import ChainProvision.Proofs.Follow.Post
import ChainProvision.Proofs.Follow.Reception

/-!
# Announcements

Those who follow an observed value look only when it was announced.  If every change is announced, whoever
has seen the latest announcement knows the value as it is.  Pollers and watchers keep to that, also where a
change decides by itself whether it is announced.

## Main definitions

- `Observed.Announces`: what becomes of a value that is never changed quietly;
- `Observed.Honest`: a change that is announced whenever it changes anything.

## Main statements

- `Poller.honest_ceasing`, `Poller.honest_absorb`: the changes of a poller that decide by themselves.
- `PollingPost.announces_handle`, `Watcher.announces_handle`: a poller and a watcher in one step.
-/

namespace ChainProvision

/-! ## Observed values -/

namespace Observed

variable {α : Type} {o o' o'' : Observed α}

/-- What becomes of an observed value that is never changed quietly: announcements only come on top, and
without a new one the value is the same. -/
structure Announces (o o' : Observed α) : Prop where
  version_le : o.version ≤ o'.version
  value_eq : o'.version = o.version → o'.value = o.value

theorem Announces.refl (o : Observed α) : o.Announces o := ⟨Nat.le_refl _, fun _ => rfl⟩

theorem Announces.trans (h : o.Announces o') (h' : o'.Announces o'') : o.Announces o'' where
  version_le := Nat.le_trans h.version_le h'.version_le
  value_eq hsame := by
    -- Nothing was announced in either part.
    have hle := h.version_le
    have hle' := h'.version_le
    rw [h'.value_eq (by omega), h.value_eq (by omega)]

/-- Whoever follows the value is told of a change. -/
theorem Announces.version_lt (h : o.Announces o') (hchange : o'.value ≠ o.value) :
    o.version < o'.version :=
  Nat.lt_of_le_of_ne h.version_le fun hsame => hchange (h.value_eq hsame.symm)

theorem announces_set (o : Observed α) (a : α) : o.Announces (o.set a) :=
  ⟨Nat.le_succ _, fun hsame => absurd hsame (Nat.succ_ne_self _)⟩

theorem announces_modify (o : Observed α) (f : α → α) : o.Announces (o.modify f) := o.announces_set _

/-- A change that is announced whenever it changes anything. -/
def Honest (f : α → α × Bool) : Prop := ∀ a, (f a).1 ≠ a → (f a).2 = true

theorem edit_eq (o : Observed α) (f : α → α × Bool) :
    o.edit f = if (f o.value).2 then o.set (f o.value).1 else ⟨(f o.value).1, o.version⟩ := rfl

theorem Honest.announces {f : α → α × Bool} (hf : Honest f) (o : Observed α) : o.Announces (o.edit f) := by
  rw [edit_eq]
  split
  · exact o.announces_set _
  · rename_i hquiet
    exact ⟨Nat.le_refl _, fun _ => Classical.byContradiction fun hchange => hquiet (hf o.value hchange)⟩

end Observed

open Observed (Honest)

/-! ## Pollers -/

namespace Poller

/-- The end of a task, as a change of what is shown. -/
def ceasing (s : PollState) : PollState × Bool := ({ s with polling := false }, s.polling)

theorem honest_ceasing : Honest ceasing := by
  intro s hchange
  cases hpolling : s.polling with
  | true => exact hpolling
  | false => exact absurd (by simp [ceasing, ← hpolling]) hchange

/-- An answer that says the operator does not know the call clears a failure, and nothing else. -/
theorem honest_absorb (reply : FetchReply) : Honest (absorb reply) := by
  intro s hchange
  rcases reply with e | _ | r
  · rfl
  · cases herror : s.error with
    | some e => simp [absorb, herror]
    | none => exact absurd (by simp [absorb, ← herror]) hchange
  · by_cases haccepts : s.accepts r = true
    · simp [absorb, haccepts]
    · exact absurd (by simp [absorb, haccepts]) hchange

theorem announces_stopTask (p : Poller) : p.state.Announces p.stopTask.state := honest_ceasing.announces _

theorem announces_startTask (p : Poller) (call : CallId) (now : Nat) :
    p.state.Announces (p.startTask call now).state :=
  p.state.announces_modify fun s => { s with polling := true }

theorem announces_setTarget (p : Poller) (call : Option CallId) (enabled : Bool) (now : Nat) :
    p.state.Announces (p.setTarget call enabled now).state := by
  unfold setTarget
  split
  · exact .refl _
  · -- The task ends, what was known may be forgotten, and a task may begin.
    have hkept : p.state.Announces
        (if call = p.target then p.stopTask.state else p.stopTask.state.set {}) := by
      split
      · exact p.announces_stopTask
      · exact p.announces_stopTask.trans (Observed.announces_set _ _)
    dsimp only
    split
    · exact hkept.trans (announces_startTask { p.stopTask with target := _, enabled := _, state := _ } _ now)
    · exact hkept

/-- An answer comes too late, or it is taken in as it is. -/
theorem answer_state_cases (p : Poller) (epoch : Nat) (reply : FetchReply) :
    (p.answer epoch reply).state = p.state ∨
      (p.answer epoch reply).state = p.state.edit (absorb reply) := by
  unfold answer
  split
  · split
    · exact Or.inr rfl
    · exact Or.inl rfl
  · exact Or.inl rfl

theorem announces_answer (p : Poller) (epoch : Nat) (reply : FetchReply) :
    p.state.Announces (p.answer epoch reply).state := by
  rcases p.answer_state_cases epoch reply with hstate | hstate
  · rw [hstate]
    exact .refl _
  · rw [hstate]
    exact (honest_absorb reply).announces _

end Poller

namespace PollingPost

theorem announces_handle (p : PollingPost) (now : Nat) (e : Event) :
    p.poller.state.Announces (p.handle now e).poller.state := by
  cases e with
  | target call enabled => exact p.poller.announces_setTarget call enabled now
  | stop => exact Poller.announces_stopTask { p.poller with enabled := false }
  | wake =>
    rw [show (p.handle now .wake).poller = (p.poller.tick now).1 from rfl, Poller.tick_state]
    exact .refl _
  | reply i reply =>
    simp only [handle]
    split
    · exact p.poller.announces_answer _ reply
    · exact .refl _

theorem announces_run (s : PollingPost × Dossier) (es : List (Nat × Event)) :
    s.1.poller.state.Announces (run s es).1.poller.state := by
  induction es generalizing s with
  | nil => exact .refl _
  | cons e es ih => exact (s.1.announces_handle e.1 e.2).trans (ih (step s e))

end PollingPost

/-! ## Watchers -/

namespace Watcher

theorem announces_handle (w : Watcher) (now : Nat) (e : Event) :
    w.result.Announces (w.handle now e).result := by
  cases e with
  | target key enabled =>
    by_cases hsame : key.map Text.trim = w.key ∧ enabled = w.enabled
    · rw [handle, setTarget_of_same hsame]
      exact .refl _
    · rw [handle, setTarget_of_change hsame]
      exact .refl _
  | reset => exact w.result.announces_set none
  | wake =>
    rw [handle, wake_result]
    exact .refl _
  | answer subscription outcome =>
    simp only [handle, subscribed]
    split
    · split
      · cases outcome <;> exact .refl _
      · exact .refl _
    · exact .refl _
  | batch subscription logs =>
    simp only [handle, Watcher.batch]
    split
    · split
      · split
        · exact .refl _
        · split
          · exact w.result.announces_set _
          · exact .refl _
      · exact .refl _
    · exact .refl _
  | close subscription =>
    simp only [handle, closed]
    split
    · split <;> exact .refl _
    · exact .refl _

theorem announces_run (s : Watcher × Reception) (es : List (Nat × Event)) :
    s.1.result.Announces (run s es).1.result := by
  induction es generalizing s with
  | nil => exact .refl _
  | cons e es ih => exact (s.1.announces_handle e.1 e.2).trans (ih (step s e))

end Watcher

end ChainProvision
