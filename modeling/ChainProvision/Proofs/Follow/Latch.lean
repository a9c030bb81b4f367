import ChainProvision.Proofs.Follow.Finding

/-!
# When a watcher watches

A watcher watches just while it is switched on, has a key and has found nothing.  What it has found is
latched: no change of the key lets it go, and nothing is asked for any more until a reset.  Of all the
subscriptions that were ever asked for, the watcher heeds at most the last one.

## Main definitions

- `Watcher.calls`: the subscriptions that are asked for during a run;
- `Watcher.Heeds`: whether anything about a subscription still makes a difference.

## Main statements

- `Watcher.latched_run`: the latch, the result and the task go together in every run.
- `Watcher.watches_just_while_unresolved`: when a watcher watches, and what stays between two resets.
-/

namespace ChainProvision.Watcher

variable {t : WatchTarget} {w : Watcher} {x : Reception} {s : Watcher × Reception} {e : Event}

/-! ## Subscriptions that are asked for -/

/-- The subscription that a watcher asks for at an event. -/
def call? (w : Watcher) (now : Nat) : Event → Option (Nat × LogFilter)
  | .wake => (w.wake now).2
  | _ => none

/-- The subscriptions that are asked for during a run, in order. -/
def calls (w : Watcher) : List (Nat × Event) → List (Nat × LogFilter)
  | [] => []
  | e :: es => (w.call? e.1 e.2).toList ++ (w.handle e.1 e.2).calls es

theorem setTarget_keeps (w : Watcher) (key : Option String) (enabled : Bool) (now : Nat) :
    (w.setTarget key enabled now).result = w.result ∧
      (w.setTarget key enabled now).resolved = w.resolved ∧
      (w.setTarget key enabled now).asked = w.asked := by
  by_cases hsame : key.map Text.trim = w.key ∧ enabled = w.enabled
  · rw [setTarget_of_same hsame]
    exact ⟨rfl, rfl, rfl⟩
  · rw [setTarget_of_change hsame]
    exact ⟨rfl, rfl, rfl⟩

/-- A subscription that is asked for gets the next number, and without one no number is used up. -/
theorem call?_cases (w : Watcher) (now : Nat) (e : Event) :
    (w.call? now e = none ∧ (w.handle now e).asked = w.asked) ∨
      ∃ filter, w.call? now e = some (w.asked + 1, filter) ∧ (w.handle now e).asked = w.asked + 1 := by
  cases e with
  | target key enabled => exact Or.inl ⟨rfl, (w.setTarget_keeps key enabled now).2.2⟩
  | reset => exact Or.inl ⟨rfl, rfl⟩
  | wake =>
    simp only [call?, handle, wake]
    grind
  | answer subscription outcome =>
    refine Or.inl ⟨rfl, ?_⟩
    simp only [handle, subscribed]
    grind
  | batch subscription logs =>
    refine Or.inl ⟨rfl, ?_⟩
    simp only [handle, Watcher.batch]
    grind
  | close subscription =>
    refine Or.inl ⟨rfl, ?_⟩
    simp only [handle, closed]
    grind

/-- The subscriptions of a run are numbered in order, and the watcher has counted them. -/
theorem calls_numbered (s : Watcher × Reception) (es : List (Nat × Event)) :
    (s.1.calls es).map Prod.fst = List.range' (s.1.asked + 1) (s.1.calls es).length ∧
      (run s es).1.asked = s.1.asked + (s.1.calls es).length := by
  induction es generalizing s with
  | nil => exact ⟨rfl, rfl⟩
  | cons e es ih =>
    obtain ⟨hnumbers, hasked⟩ := ih (step s e)
    have hstep : (step s e).1 = s.1.handle e.1 e.2 := rfl
    rw [hstep] at hnumbers hasked
    have hrun : (run s (e :: es)).1.asked = (run (step s e) es).1.asked := rfl
    rw [hrun, hasked, calls]
    rcases s.1.call?_cases e.1 e.2 with ⟨hcall, hsame⟩ | ⟨filter, hcall, hnext⟩
    · rw [hcall]
      rw [hsame] at hnumbers ⊢
      exact ⟨hnumbers, rfl⟩
    · rw [hcall]
      rw [hnext] at hnumbers ⊢
      simp only [Option.toList_some, List.cons_append, List.nil_append, List.map_cons,
        List.length_cons, List.range'_succ, hnumbers]
      exact ⟨trivial, by omega⟩

/-! ## Subscriptions that are heeded -/

/-- The subscription that an event is about. -/
def Event.subscription? : Event → Option Nat
  | .answer subscription _ => some subscription
  | .batch subscription _ => some subscription
  | .close subscription => some subscription
  | _ => none

/-- Whether anything about a subscription still makes a difference to a watcher. -/
def Heeds (w : Watcher) (subscription : Nat) : Prop :=
  ∃ now e, Event.subscription? e = some subscription ∧ w.handle now e ≠ w

/-- A subscription is heeded only by a task that waits for it or listens to it. -/
theorem Heeds.task {subscription : Nat} (h : w.Heeds subscription) :
    ∃ key stage, w.task = some ⟨key, stage⟩ ∧
      (stage = .subscribing subscription ∨ stage = .listening subscription) := by
  obtain ⟨now, e, habout, hchange⟩ := h
  refine Classical.byContradiction fun hother => hchange ?_
  -- Whatever the event is, it is about a subscription that the task knows nothing of.
  cases e with
  | target key enabled => cases habout
  | reset => cases habout
  | wake => cases habout
  | answer current outcome =>
    cases habout
    simp only [handle, subscribed]
    grind
  | batch current logs =>
    cases habout
    exact batch_of_not_listening (fun key htask => hother ⟨key, _, htask, Or.inr rfl⟩) logs
  | close current =>
    cases habout
    simp only [handle, closed]
    grind

/-! ## The latch -/

/-- The latch, the result and the task of a watcher go together. -/
structure Latched (w : Watcher) : Prop where
  watching : w.isWatching = (w.enabled && w.key.isSome && !w.resolved)
  resolved : w.resolved = w.result.value.isSome

theorem latched_start (t : WatchTarget) (retryDelay : Nat) : Latched { target := t, retryDelay } := ⟨rfl, rfl⟩

/-- A watcher that is told something new watches if there is something to watch for. -/
theorem Latched.setTarget (h : w.Latched) (key : Option String) (enabled : Bool) (now : Nat) :
    (w.setTarget key enabled now).Latched := by
  by_cases hsame : key.map Text.trim = w.key ∧ enabled = w.enabled
  · rw [setTarget_of_same hsame]
    exact h
  · rw [setTarget_of_change hsame]
    refine ⟨?_, h.resolved⟩
    cases enabled <;> cases key <;> cases w.resolved <;> rfl

/-- The task goes on in another stage. -/
private theorem Latched.move (h : w.Latched) {task next : WatchTask} (htask : w.task = some task)
    (asked : Nat) : Latched { w with task := some next, asked } := by
  refine ⟨?_, h.resolved⟩
  show true = _
  rw [← h.watching, isWatching, htask]
  rfl

theorem Latched.batch (h : w.Latched) (subscription : Nat) (logs : List Log) :
    (w.batch subscription logs).Latched := by
  by_cases hlive : ∃ key, w.task = some ⟨key, .listening subscription⟩
  · obtain ⟨key, htask⟩ := hlive
    -- A task is never found with the latch closed.
    have hopen : w.resolved = false := by
      have hwatching := h.watching
      simp only [isWatching, htask, Option.isSome_some] at hwatching
      simpa using (Bool.and_eq_true_iff.mp hwatching.symm).2
    rw [batch_of_listening htask hopen]
    cases w.target.firstMatch key logs with
    | none => exact h
    | some found => exact ⟨by simp [isWatching], rfl⟩
  · rw [batch_of_not_listening fun key htask => hlive ⟨key, htask⟩]
    exact h

theorem Latched.handle (h : w.Latched) (now : Nat) (e : Event) : (w.handle now e).Latched := by
  cases e with
  | target key enabled => exact h.setTarget key enabled now
  | reset => exact ⟨rfl, rfl⟩
  | wake =>
    simp only [Watcher.handle, wake]
    split
    · rename_i key wakeAt htask
      split
      · split
        · rename_i hresolved
          exact ⟨by simp [isWatching, hresolved], h.resolved⟩
        · exact h.move htask _
      · exact h
    · exact h
  | answer subscription outcome =>
    simp only [Watcher.handle, subscribed]
    split
    · rename_i key current htask
      split
      · cases outcome with
        | ok _ => exact h.move htask _
        | error _ => exact h.move htask _
      · exact h
    · exact h
  | batch subscription logs => exact h.batch subscription logs
  | close subscription =>
    simp only [Watcher.handle, closed]
    split
    · rename_i key current htask
      split
      · exact h.move htask _
      · exact h
    · exact h

theorem latched_run (h : s.1.Latched) (es : List (Nat × Event)) : (run s es).1.Latched := by
  induction es generalizing s with
  | nil => exact h
  | cons e es ih => exact ih (h.handle e.1 e.2)

/-! ## From one reset to the next -/

/-- Whether an event resets a watcher. -/
def Event.isReset : Event → Bool
  | .reset => true
  | _ => false

/-- What was found stays until a reset, and nothing is asked for. -/
theorem Latched.keeps (h : w.Latched) (hresolved : w.resolved = true) (now : Nat)
    (he : e.isReset = false) :
    (w.handle now e).result = w.result ∧ (w.handle now e).resolved = true ∧ w.call? now e = none := by
  -- Without a task only the owner can do something.
  have hidle : w.task = none := by
    have hwatching := h.watching
    rw [hresolved] at hwatching
    simpa [isWatching] using hwatching
  cases e with
  | target key enabled =>
    obtain ⟨hresult, hstill, -⟩ := w.setTarget_keeps key enabled now
    exact ⟨hresult, hstill.trans hresolved, rfl⟩
  | reset => cases he
  | wake => simp [Watcher.handle, call?, wake, hidle, hresolved]
  | answer subscription outcome => simp [Watcher.handle, call?, subscribed, hidle, hresolved]
  | batch subscription logs => simp [Watcher.handle, call?, Watcher.batch, hidle, hresolved]
  | close subscription => simp [Watcher.handle, call?, closed, hidle, hresolved]

theorem Latched.keeps_run (h : s.1.Latched) (hresolved : s.1.resolved = true) {es : List (Nat × Event)}
    (hes : ∀ e ∈ es, e.2.isReset = false) : (run s es).1.result = s.1.result ∧ s.1.calls es = [] := by
  induction es generalizing s with
  | nil => exact ⟨rfl, rfl⟩
  | cons e es ih =>
    obtain ⟨he, hes⟩ := List.forall_mem_cons.mp hes
    obtain ⟨hresult, hstill, hcall⟩ := h.keeps hresolved e.1 he
    obtain ⟨hresult', hcalls⟩ := ih (s := step s e) (h.handle e.1 e.2) hstill hes
    refine ⟨hresult'.trans hresult, ?_⟩
    rw [calls, hcall]
    exact hcalls

/-- **When a watcher watches**: just while it is told to, with a key, and has found nothing.  It is
resolved just if there is a result, and no subscription but the last one that was asked for is heeded, by
a watcher that watches.  From one reset to the next a result stays as it is, and nothing is asked for
once it is there, whatever the watcher is told. -/
theorem watches_just_while_unresolved (t : WatchTarget) (retryDelay : Nat) (es : List (Nat × Event)) :
    let start : Watcher := { target := t, retryDelay }
    let s := afterAll t retryDelay es
    (s.1.isWatching = true ↔ s.2.enabled = true ∧ s.2.key ≠ none ∧ s.1.resolved = false) ∧
    (s.1.resolved = true ↔ s.1.result.value ≠ none) ∧
    (start.calls es).map Prod.fst = List.range' 1 (start.calls es).length ∧
    (∀ subscription, s.1.Heeds subscription →
      s.1.isWatching = true ∧ subscription = (start.calls es).length) ∧
    ∀ found more, s.1.result.value = some found → (∀ e ∈ more, e.2.isReset = false) →
      (run s more).1.result = s.1.result ∧ s.1.calls more = [] := by
  intro start s
  have hkept : Kept t s.1 s.2 := kept_afterAll t retryDelay es
  have hlatched : s.1.Latched := latched_run (s := (start, {})) (latched_start t retryDelay) es
  obtain ⟨hnumbers, hasked⟩ := calls_numbered (start, {}) es
  have hcount : s.1.asked = (start.calls es).length := hasked.trans (Nat.zero_add _)
  refine ⟨?_, ?_, hnumbers, ?_, ?_⟩
  · rw [hlatched.watching, hkept.key, hkept.enabled]
    simp [and_assoc, Option.isSome_iff_ne_none]
  · rw [hlatched.resolved, Option.isSome_iff_ne_none]
  · intro subscription hheeds
    obtain ⟨key, stage, htask, hstage⟩ := hheeds.task
    refine ⟨by simp [isWatching, htask], ?_⟩
    rw [hkept.asked htask hstage, hcount]
  · intro found more hfound hmore
    refine hlatched.keeps_run ?_ hmore
    rw [hlatched.resolved, hfound]
    rfl

/-- A watcher is pointed at another key while it listens, and listens to its second subscription. -/
private def secondKey : List (Nat × Event) := [
  (0, .target (some "76") true), (0, .wake), (1, .answer 1 (.ok ())), (2, .target (some " 77 ") true),
  (2, .wake), (3, .answer 2 (.ok ())), (4, .close 1)]

/-- The log that completes the second key. -/
private def completed : Log :=
  { address := .zero, event := "ServiceInitialized", key := some "77", resource := some "5" }

/-- It is switched off, pointed at further keys and left alone for a while. -/
private def furtherKeys : List (Nat × Event) := [
  (6, .target (some "77") false), (7, .target (some "78") true), (7, .wake), (8, .answer 3 (.ok ())),
  (9, .batch 3 [completed]), (10, .target none true), (60010, .wake)]

theorem watches_just_while_unresolved_secondKey :
    let start : Watcher := { target := ⟨.zero, "ServiceInitialized"⟩, retryDelay := 2000 }
    let s := afterAll ⟨.zero, "ServiceInitialized"⟩ 2000 secondKey
    let found := afterAll ⟨.zero, "ServiceInitialized"⟩ 2000 (secondKey ++ [(5, .batch 2 [completed])])
    s.1.Heeds 2 ∧ ¬ s.1.Heeds 1 ∧ s.1.isWatching = true ∧ (start.calls secondKey).length = 2 ∧
      found.1.result.value = some ⟨"5", none⟩ ∧ (∀ e ∈ furtherKeys, e.2.isReset = false) ∧
      (run found furtherKeys).1.result.value = some ⟨"5", none⟩ ∧ found.1.calls furtherKeys = [] := by
  intro start s found
  obtain ⟨-, -, -, hheeds, -⟩ :=
    watches_just_while_unresolved ⟨.zero, "ServiceInitialized"⟩ 2000 secondKey
  obtain ⟨-, -, -, -, hstays⟩ :=
    watches_just_while_unresolved ⟨.zero, "ServiceInitialized"⟩ 2000
      (secondKey ++ [(5, .batch 2 [completed])])
  have hsecond : s.1.Heeds 2 := ⟨5, .close 2, rfl, by decide⟩
  obtain ⟨hwatching, hcount⟩ := hheeds 2 hsecond
  have hresult : found.1.result.value = some ⟨"5", none⟩ := by decide
  have hmore : ∀ e ∈ furtherKeys, e.2.isReset = false := by decide
  obtain ⟨hsame, hsilent⟩ := hstays _ furtherKeys hresult hmore
  refine ⟨hsecond, fun hfirst => ?_, hwatching, hcount.symm, hresult, hmore, ?_, hsilent⟩
  · have hfirst' := (hheeds 1 hfirst).2
    rw [← hcount] at hfirst'
    cases hfirst'
  · rw [show (run found furtherKeys).1.result = found.1.result from hsame]
    exact hresult

end ChainProvision.Watcher
