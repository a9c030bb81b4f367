import ChainProvision.Proofs.Follow.Reception

/-!
# What a watcher finds

A watcher finds the first log that fits, of all the logs that live subscriptions have brought.  How the
logs are put into batches, and by which of many subscriptions they come, has no part in it.

## Main definitions

- `Watcher.deliveries`: batches that come one after the other;
- `Watcher.later`: the numbers of subscriptions after some more.

## Main statements

- `Watcher.run_deliveries`: batches that come one after the other are as good as one.
- `Watcher.run_later`: subscriptions are as good under later numbers.
- `Watcher.result_is_first_fit_however_delivered`: what a watcher finds.
-/

namespace ChainProvision

/-- A stage under other numbers of subscriptions. -/
def WatchStage.renumber (f : Nat → Nat) : WatchStage → WatchStage
  | .pausing wakeAt => .pausing wakeAt
  | .subscribing subscription => .subscribing (f subscription)
  | .listening subscription => .listening (f subscription)

namespace Watcher

variable {t : WatchTarget} {w : Watcher} {x : Reception} {s : Watcher × Reception} {e : Event}

/-! ## Batches -/

/-- Batches of a subscription that come one after the other, each with its time. -/
def deliveries (subscription : Nat) (batches : List (Nat × List Log)) : List (Nat × Event) :=
  batches.map fun b => (b.1, .batch subscription b.2)

/-- A batch is as good as its parts. -/
theorem batch_append (w : Watcher) (subscription : Nat) (logs more : List Log) :
    w.batch subscription (logs ++ more) = (w.batch subscription logs).batch subscription more := by
  by_cases hlive : ∃ key, w.task = some ⟨key, .listening subscription⟩
  · obtain ⟨key, htask⟩ := hlive
    cases hresolved : w.resolved with
    | true =>
      -- The task ends at the first of them.
      simp [Watcher.batch, htask, hresolved]
    | false =>
      have hmatch : w.target.firstMatch key (logs ++ more) =
          (w.target.firstMatch key logs).or (w.target.firstMatch key more) :=
        List.findSome?_append
      rw [batch_of_listening htask hresolved, batch_of_listening htask hresolved, hmatch]
      cases w.target.firstMatch key logs with
      | none => rw [Option.none_or, ← batch_of_listening htask hresolved]
      | some found => exact (batch_of_not_listening (by simp) more).symm
  · have hidle : ∀ key, w.task ≠ some ⟨key, .listening subscription⟩ := fun key htask =>
      hlive ⟨key, htask⟩
    rw [batch_of_not_listening hidle, batch_of_not_listening hidle, batch_of_not_listening hidle]

theorem Kept.batch_nil (h : Kept t w x) (subscription : Nat) : w.batch subscription [] = w := by
  by_cases hlive : ∃ key, w.task = some ⟨key, .listening subscription⟩
  · obtain ⟨key, htask⟩ := hlive
    exact batch_of_listening htask (h.task htask).2.1 []
  · exact batch_of_not_listening (fun key htask => hlive ⟨key, htask⟩) []

theorem bring_nil (x : Reception) (subscription : Nat) : x.bring subscription [] = x := by
  unfold Reception.bring
  split <;> simp

theorem bring_append (x : Reception) (subscription : Nat) (logs more : List Log) :
    x.bring subscription (logs ++ more) = (x.bring subscription logs).bring subscription more := by
  unfold Reception.bring
  by_cases hfeed : x.feed = .live subscription <;> simp [hfeed]

/-- **Batches that come one after the other are as good as one.** -/
theorem run_deliveries (h : Kept t s.1 s.2) (now subscription : Nat) (batches : List (Nat × List Log)) :
    run s (deliveries subscription batches) =
      step s (now, .batch subscription (batches.flatMap Prod.snd)) := by
  induction batches generalizing s with
  | nil => exact Prod.ext (h.batch_nil subscription).symm (bring_nil _ subscription).symm
  | cons b batches ih =>
    -- The first batch comes by itself, and then all the others as one.
    show run (step s (b.1, .batch subscription b.2)) (deliveries subscription batches) = _
    rw [ih (h.step _), List.flatMap_cons]
    exact Prod.ext (batch_append _ _ _ _).symm (bring_append _ _ _ _).symm

/-! ## The numbers of subscriptions -/

/-- A watcher that has given other numbers to its subscriptions. -/
def renumber (f : Nat → Nat) (w : Watcher) : Watcher :=
  { w with
    asked := f w.asked
    task := w.task.map fun task => { task with stage := task.stage.renumber f } }

/-- An event about a subscription, under another number. -/
def Event.renumber (f : Nat → Nat) : Event → Event
  | .answer subscription outcome => .answer (f subscription) outcome
  | .batch subscription logs => .batch (f subscription) logs
  | .close subscription => .close (f subscription)
  | e => e

section Renumber

variable {f : Nat → Nat}

theorem wake_renumber (hnext : f (w.asked + 1) = f w.asked + 1) (now : Nat) :
    ((w.renumber f).wake now).1 = (w.wake now).1.renumber f := by
  unfold wake
  rcases htask : w.task with _ | ⟨key, _ | current | current⟩
  · simp [renumber, htask]
  · simp only [renumber, htask, Option.map_some, WatchStage.renumber]
    split
    · split
      · rfl
      · simp [hnext]
    · simp [htask]
  · simp [renumber, htask, WatchStage.renumber]
  · simp [renumber, htask, WatchStage.renumber]

theorem subscribed_renumber (hf : ∀ i j, f i = f j ↔ i = j) (subscription : Nat)
    (outcome : Except ChainError Unit) (now : Nat) :
    (w.renumber f).subscribed (f subscription) outcome now =
      (w.subscribed subscription outcome now).renumber f := by
  unfold subscribed
  rcases htask : w.task with _ | ⟨key, _ | current | current⟩
  · simp [renumber, htask]
  · simp [renumber, htask, WatchStage.renumber]
  · simp only [renumber, htask, Option.map_some, WatchStage.renumber, hf]
    split
    · cases outcome <;> rfl
    · simp [htask]
  · simp [renumber, htask, WatchStage.renumber]

theorem batch_renumber (hf : ∀ i j, f i = f j ↔ i = j) (subscription : Nat) (logs : List Log) :
    (w.renumber f).batch (f subscription) logs = (w.batch subscription logs).renumber f := by
  unfold Watcher.batch
  rcases htask : w.task with _ | ⟨key, _ | current | current⟩
  · simp [renumber, htask]
  · simp [renumber, htask, WatchStage.renumber]
  · simp [renumber, htask, WatchStage.renumber]
  · simp only [renumber, htask, Option.map_some, WatchStage.renumber, hf]
    split
    · split
      · rfl
      · cases w.target.firstMatch key logs with
        | none => simp [htask]
        | some found => rfl
    · simp [htask]

theorem closed_renumber (hf : ∀ i j, f i = f j ↔ i = j) (subscription now : Nat) :
    (w.renumber f).closed (f subscription) now = (w.closed subscription now).renumber f := by
  unfold closed
  rcases htask : w.task with _ | ⟨key, _ | current | current⟩
  · simp [renumber, htask]
  · simp [renumber, htask, WatchStage.renumber]
  · simp [renumber, htask, WatchStage.renumber]
  · simp only [renumber, htask, Option.map_some, WatchStage.renumber, hf]
    split
    · rfl
    · simp [htask]

theorem setTarget_renumber (key : Option String) (enabled : Bool) (now : Nat) :
    (w.renumber f).setTarget key enabled now = (w.setTarget key enabled now).renumber f := by
  by_cases hsame : key.map Text.trim = w.key ∧ enabled = w.enabled
  · rw [setTarget_of_same hsame, setTarget_of_same (w := w.renumber f) hsame]
  · rw [setTarget_of_change hsame, setTarget_of_change (w := w.renumber f) hsame]
    by_cases hstart : (enabled && !w.resolved) = true
    · simp only [renumber, hstart, if_true]
      cases key.map Text.trim <;> rfl
    · simp only [renumber, hstart, if_false, Bool.false_eq_true, Option.map_none]

/-- **A watcher goes by its own numbers**, as long as they differ and the next one is the next. -/
theorem handle_renumber (hf : ∀ i j, f i = f j ↔ i = j) (hnext : f (w.asked + 1) = f w.asked + 1)
    (now : Nat) (e : Event) : (w.renumber f).handle now (e.renumber f) = (w.handle now e).renumber f := by
  cases e with
  | target key enabled => exact setTarget_renumber key enabled now
  | reset => rfl
  | wake => exact wake_renumber hnext now
  | answer subscription outcome => exact subscribed_renumber hf subscription outcome now
  | batch subscription logs => exact batch_renumber hf subscription logs
  | close subscription => exact closed_renumber hf subscription now

end Renumber

/-- The number of a subscription if there have been more of them, from the first one on. -/
def later (first more i : Nat) : Nat := if first ≤ i then i + more else i

theorem later_inj (first more i j : Nat) : later first more i = later first more j ↔ i = j := by
  unfold later
  split <;> split <;> omega

theorem asked_le_handle (w : Watcher) (now : Nat) (e : Event) : w.asked ≤ (w.handle now e).asked := by
  cases e with
  | target key enabled =>
    by_cases hsame : key.map Text.trim = w.key ∧ enabled = w.enabled
    · exact Nat.le_of_eq (congrArg asked (setTarget_of_same hsame now)).symm
    · exact Nat.le_of_eq (congrArg asked (setTarget_of_change hsame now)).symm
  | reset => exact Nat.le_refl _
  | wake =>
    simp only [handle, wake]
    grind
  | answer subscription outcome =>
    simp only [handle, subscribed]
    grind
  | batch subscription logs =>
    simp only [handle, Watcher.batch]
    grind
  | close subscription =>
    simp only [handle, closed]
    grind

/-- **Subscriptions are as good under later numbers.** -/
theorem run_later {first more : Nat} {s s' : Watcher × Reception}
    (hs : s'.1 = s.1.renumber (later first more)) (hfirst : first ≤ s.1.asked)
    (es : List (Nat × Event)) :
    (run s' (es.map fun e => (e.1, e.2.renumber (later first more)))).1 =
      (run s es).1.renumber (later first more) := by
  -- No watcher takes a number back, so the next one is always among the later ones.
  induction es generalizing s s' with
  | nil => exact hs
  | cons e es ih =>
    refine ih (s := step s e) ?_ (Nat.le_trans hfirst (asked_le_handle _ _ _))
    have hnext : later first more (s.1.asked + 1) = later first more s.1.asked + 1 := by
      unfold later
      rw [if_pos hfirst, if_pos (Nat.le_succ_of_le hfirst)]
      omega
    show s'.1.handle e.1 _ = _
    rw [hs]
    exact handle_renumber (later_inj first more) hnext e.1 e.2

/-! ## Between the logs -/

/-- Whether an event is the owner's doing. -/
def Event.isOwners : Event → Bool
  | .target _ _ => true
  | .reset => true
  | _ => false

/-- As long as the owner does nothing and nothing is found, only the task goes on. -/
theorem handle_of_open {now : Nat} (he : e.isOwners = false) (hopen : (w.handle now e).resolved = false) :
    ∃ task asked, w.handle now e = { w with task, asked } := by
  cases e with
  | target key enabled => cases he
  | reset => cases he
  | wake =>
    simp only [handle, wake]
    split
    · split
      · split <;> exact ⟨_, _, rfl⟩
      · exact ⟨_, _, rfl⟩
    · exact ⟨_, _, rfl⟩
  | answer subscription outcome =>
    simp only [handle, subscribed]
    split
    · split
      · cases outcome <;> exact ⟨_, _, rfl⟩
      · exact ⟨_, _, rfl⟩
    · exact ⟨_, _, rfl⟩
  | batch subscription logs =>
    simp only [handle] at hopen ⊢
    by_cases hlive : ∃ key, w.task = some ⟨key, .listening subscription⟩
    · obtain ⟨key, htask⟩ := hlive
      by_cases hresolved : w.resolved = true
      · simp [Watcher.batch, htask, hresolved] at hopen
      · rw [batch_of_listening htask (eq_false_of_ne_true hresolved)] at hopen ⊢
        cases hmatch : w.target.firstMatch key logs with
        | none => exact ⟨_, _, rfl⟩
        | some found => simp [hmatch] at hopen
    · rw [batch_of_not_listening fun key htask => hlive ⟨key, htask⟩]
      exact ⟨_, _, rfl⟩
  | close subscription =>
    simp only [handle, closed]
    split
    · split <;> exact ⟨_, _, rfl⟩
    · exact ⟨_, _, rfl⟩

theorem run_of_open {es : List (Nat × Event)} (hes : ∀ e ∈ es, e.2.isOwners = false)
    (hopen : (run s es).1.resolved = false) : ∃ task asked, (run s es).1 = { s.1 with task, asked } := by
  induction es generalizing s with
  | nil => exact ⟨_, _, rfl⟩
  | cons e es ih =>
    obtain ⟨he, hes⟩ := List.forall_mem_cons.mp hes
    obtain ⟨task, asked, hrun⟩ := ih (s := step s e) hes hopen
    -- What was found would have been kept, so nothing was found at the first event.
    have hopen' : (step s e).1.resolved = false := by
      rw [← hopen]
      exact (congrArg resolved hrun).symm
    obtain ⟨task', asked', hstep⟩ := handle_of_open he hopen'
    refine ⟨task, asked, hrun.trans ?_⟩
    rw [show (step s e).1 = s.1.handle e.1 e.2 from rfl, hstep]

theorem isListening_iff {subscription : Nat} :
    w.isListening subscription = true ↔ ∃ key, w.task = some ⟨key, .listening subscription⟩ := by
  unfold isListening
  rcases w.task with _ | ⟨key, _ | current | current⟩ <;> simp

/-- **A subscription that was lost and had again** is as good as one that was kept, under a later
number. -/
theorem run_of_reopened (h : Kept t s.1 s.2) {first more : Nat} {gap : List (Nat × Event)}
    (hgap : ∀ e ∈ gap, e.2.isOwners = false) (hbefore : s.1.isListening first = true)
    (hafter : (run s gap).1.isListening (first + more) = true) :
    (run s gap).1 = s.1.renumber (later first more) := by
  obtain ⟨key, htask⟩ := isListening_iff.mp hbefore
  obtain ⟨key', htask'⟩ := isListening_iff.mp hafter
  have hkept := h.run gap
  obtain ⟨hkey, hopen, -⟩ := hkept.task htask'
  obtain ⟨task, asked, hrun⟩ := run_of_open hgap hopen
  -- The key has stayed, and the task waits for the subscription that was asked for last.
  have hsame : key' = key := by
    have hkey' : (run s gap).1.key = s.1.key := by rw [hrun]
    rw [hkept.key, hkey, h.key, (h.task htask).1] at hkey'
    exact Option.some.inj hkey'
  have hnumber : first = s.1.asked := h.asked htask (Or.inr rfl)
  have hasked : first + more = asked := by
    rw [hkept.asked htask' (Or.inr rfl), hrun]
  have htask'' : task = some ⟨key, .listening (first + more)⟩ := by
    rw [← hsame, ← htask', hrun]
  rw [hrun, htask'', ← hasked]
  simp [renumber, htask, WatchStage.renumber, later, ← hnumber]

/-- **What a watcher finds**: the first log that fits the key of its time, of all the logs that live
subscriptions have brought since the last reset.  Neither how the logs were put into batches nor how
often the subscription was lost between them has a part in it. -/
theorem result_is_first_fit_however_delivered (t : WatchTarget) (retryDelay : Nat)
    (es : List (Nat × Event)) :
    let s := afterAll t retryDelay es
    s.1.result.value = (firstFit? t s.2.logs).bind (fun entry => entry.2.completion?) ∧
    (∀ subscription batches batches' rest,
      batches.flatMap Prod.snd = batches'.flatMap Prod.snd →
      (run s (deliveries subscription batches ++ rest)).1 =
        (run s (deliveries subscription batches' ++ rest)).1) ∧
    ∀ first more gap rest, (∀ e ∈ gap, e.2.isOwners = false) →
      s.1.isListening first = true → (run s gap).1.isListening (first + more) = true →
      (run s (gap ++ rest.map fun e => (e.1, e.2.renumber (later first more)))).1.result =
        (run s rest).1.result := by
  intro s
  have hkept : Kept t s.1 s.2 := kept_afterAll t retryDelay es
  refine ⟨hkept.result, ?_, ?_⟩
  · intro subscription batches batches' rest hsame
    rw [run_append, run_append, run_deliveries hkept 0, run_deliveries hkept 0, hsame]
  · intro first more gap rest hgap hbefore hafter
    obtain ⟨key, htask⟩ := isListening_iff.mp hbefore
    have hnumber : first = s.1.asked := hkept.asked htask (Or.inr rfl)
    rw [run_append, run_later (run_of_reopened hkept hgap hbefore hafter) (Nat.le_of_eq hnumber)]
    rfl

/-- The event of a new service, by its key and its number. -/
private def announced (key : String) (resource : Option String) : Log :=
  { address := .zero, event := "ServiceInitialized", key := some key, resource }

/-- A watcher that has listened to its first subscription without success. -/
private def firstFeed : List (Nat × Event) := [
  (0, .target (some " 77 ") true), (0, .wake), (1, .answer 1 (.ok ())),
  (2, .batch 1 [announced "76" (some "4"), announced "77" none])]

/-- The subscription is lost, refused once, and granted again. -/
private def lostFeed : List (Nat × Event) := [
  (3, .close 1), (2003, .wake), (2004, .answer 2 (.error (.subscription "busy"))), (4004, .wake),
  (4005, .answer 3 (.ok ()))]

/-- Two logs for the key, in one batch and in two. -/
private def oneBatch : List (Nat × List Log) :=
  [(5000, [announced "77 " (some "5"), announced "77" (some "6")])]

private def twoBatches : List (Nat × List Log) :=
  [(5000, [announced "77 " (some "5")]), (5001, [announced "77" (some "6")])]

theorem result_is_first_fit_however_delivered_lostFeed :
    let s := afterAll ⟨.zero, "ServiceInitialized"⟩ 2000 firstFeed
    s.1.isListening 1 = true ∧ (run s lostFeed).1.isListening (1 + 2) = true ∧
      (run s (deliveries 1 oneBatch)).1.result.value = some ⟨"5", none⟩ ∧
      (run s (deliveries 1 twoBatches)).1.result.value = some ⟨"5", none⟩ ∧
      (run s (lostFeed ++ deliveries (later 1 2 1) oneBatch)).1.result.value = some ⟨"5", none⟩ := by
  intro s
  have hbefore : s.1.isListening 1 = true := by decide
  have hafter : (run s lostFeed).1.isListening (1 + 2) = true := by decide
  obtain ⟨-, hbatches, hgap⟩ :=
    result_is_first_fit_however_delivered ⟨.zero, "ServiceInitialized"⟩ 2000 firstFeed
  obtain ⟨hresult, -⟩ := result_is_first_fit_however_delivered ⟨.zero, "ServiceInitialized"⟩ 2000
    (firstFeed ++ deliveries 1 oneBatch)
  rw [afterAll, run_append] at hresult
  have hfound : (run s (deliveries 1 oneBatch)).1.result.value = some ⟨"5", none⟩ :=
    hresult.trans (by decide)
  refine ⟨hbefore, hafter, hfound, ?_, ?_⟩
  · have hsplit := hbatches 1 twoBatches oneBatch [] rfl
    rw [List.append_nil, List.append_nil] at hsplit
    rw [hsplit]
    exact hfound
  · have hsame := hgap 1 2 lostFeed (deliveries 1 oneBatch) (by decide) hbefore hafter
    rw [← hfound, ← hsame]
    rfl

end Watcher

end ChainProvision
