import ChainProvision.Proofs.Follow.Delivery

/-!
# A watcher over whole runs

The owner of a watcher changes its key and switches it on and off; subscriptions are granted and
refused, bring logs in batches, and end.  A reception follows this from outside: which subscription is
live, and which logs it has brought, each under the key of its time.  Whatever a watcher has found is
told by these logs alone.

## Main definitions

- `Reception`: what a run of a watcher looks like from outside;
- `Watcher.Kept`: how a watcher stands to its reception.

## Main statements

- `Watcher.Kept.step`: whatever happens, a watcher keeps to its reception.
- `Watcher.kept_afterAll`: every run does.
-/

namespace ChainProvision

/-! ## Logs under their keys -/

/-- The first of some logs, each under the key of its time, that fits its key. -/
def firstFit? (t : WatchTarget) (logs : List (String × Log)) : Option (String × Log) :=
  logs.find? fun entry => entry.2.Fits t entry.1

theorem firstFit?_append (t : WatchTarget) (logs more : List (String × Log)) :
    firstFit? t (logs ++ more) = (firstFit? t logs).or (firstFit? t more) := List.find?_append

theorem firstFit?_map (t : WatchTarget) (key : String) (logs : List Log) :
    firstFit? t (logs.map (key, ·)) = (logs.find? fun log => log.Fits t key).map (key, ·) :=
  List.find?_map

/-- Logs that come under the key of a watcher, if it has one. -/
def underKey (key : Option String) (logs : List Log) : List (String × Log) :=
  match key with
  | some key => logs.map (key, ·)
  | none => []

@[simp] theorem underKey_nil (key : Option String) : underKey key [] = [] := by
  cases key <;> rfl

@[simp] theorem underKey_append (key : Option String) (logs more : List Log) :
    underKey key (logs ++ more) = underKey key logs ++ underKey key more := by
  cases key with
  | none => rfl
  | some key => exact List.map_append

/-! ## Receptions -/

namespace Feed

/-- What becomes of a subscription on the answer to one. -/
def grant (f : Feed) (subscription : Nat) (outcome : Except ChainError Unit) : Feed :=
  if f = .asked subscription then
    match outcome with
    | .ok () => .live subscription
    | .error _ => .silent
  else f

/-- What becomes of a subscription on the end of one. -/
def close (f : Feed) (subscription : Nat) : Feed := if f = .live subscription then .silent else f

@[simp] theorem grant_silent (subscription : Nat) (outcome : Except ChainError Unit) :
    silent.grant subscription outcome = .silent := rfl

@[simp] theorem grant_live (current subscription : Nat) (outcome : Except ChainError Unit) :
    (live current).grant subscription outcome = .live current := rfl

@[simp] theorem close_silent (subscription : Nat) : silent.close subscription = .silent := rfl

@[simp] theorem close_asked (current subscription : Nat) :
    (asked current).close subscription = .asked current := rfl

end Feed

/-- What a run of a watcher looks like from outside: what it was told, its subscription, and the logs
that live subscriptions have brought since the last reset, each under the key of its time. -/
structure Reception where
  key : Option String := none
  enabled : Bool := false
  feed : Feed := .silent
  logs : List (String × Log) := []

namespace Watcher

/-- What can happen to a watcher. -/
inductive Event where
  | target (key : Option String) (enabled : Bool)
  | reset
  /-- Time has passed. -/
  | wake
  | answer (subscription : Nat) (outcome : Except ChainError Unit)
  | batch (subscription : Nat) (logs : List Log)
  | close (subscription : Nat)

/-- The watcher after an event. -/
def handle (now : Nat) (w : Watcher) : Event → Watcher
  | .target key enabled => w.setTarget key enabled now
  | .reset => w.reset
  | .wake => (w.wake now).1
  | .answer subscription outcome => w.subscribed subscription outcome now
  | .batch subscription logs => w.batch subscription logs
  | .close subscription => w.closed subscription now

end Watcher

/-- A batch comes; it is received if its subscription is live. -/
def Reception.bring (x : Reception) (subscription : Nat) (logs : List Log) : Reception :=
  if x.feed = .live subscription then { x with logs := x.logs ++ underKey x.key logs } else x

/-- The reception after an event of a watcher.  A change of what the watcher is told puts an end to its
subscription; a reset forgets everything. -/
def Reception.note (x : Reception) (w : Watcher) (now : Nat) : Watcher.Event → Reception
  | .target key enabled =>
    if key.map Text.trim = x.key ∧ enabled = x.enabled then x
    else { x with key := key.map Text.trim, enabled, feed := .silent }
  | .reset => {}
  | .wake =>
    match (w.wake now).2 with
    | some (subscription, _) => { x with feed := .asked subscription }
    | none => x
  | .answer subscription outcome => { x with feed := x.feed.grant subscription outcome }
  | .batch subscription logs => x.bring subscription logs
  | .close subscription => { x with feed := x.feed.close subscription }

namespace Watcher

/-- A watcher and its reception after an event. -/
def step (s : Watcher × Reception) (e : Nat × Event) : Watcher × Reception :=
  (s.1.handle e.1 e.2, s.2.note s.1 e.1 e.2)

/-- A watcher and its reception after events, each with its time. -/
def run (s : Watcher × Reception) (es : List (Nat × Event)) : Watcher × Reception := es.foldl step s

/-- A new watcher and its reception after events. -/
def afterAll (t : WatchTarget) (retryDelay : Nat) (es : List (Nat × Event)) : Watcher × Reception :=
  run ({ target := t, retryDelay }, {}) es

theorem run_append (s : Watcher × Reception) (es fs : List (Nat × Event)) :
    run s (es ++ fs) = run (run s es) fs := List.foldl_append

/-! ## How a watcher stands to its reception -/

/-- A watcher does as its reception says. -/
structure Kept (t : WatchTarget) (w : Watcher) (x : Reception) : Prop where
  target : w.target = t
  key : w.key = x.key
  enabled : w.enabled = x.enabled
  result : w.result.value = (firstFit? t x.logs).bind fun entry => entry.2.completion?
  resolved : w.resolved = (firstFit? t x.logs).isSome
  /-- A task is for the key, and goes on as long as nothing was found. -/
  task : ∀ {task : WatchTask}, w.task = some task →
    x.key = some task.key ∧ w.resolved = false ∧ x.feed = task.stage.feed
  idle : w.task = none → w.resolved = false → x.feed = .silent
  /-- The subscription of a task is the one that was asked for last. -/
  asked : ∀ {task : WatchTask} {subscription : Nat}, w.task = some task →
    task.stage = .subscribing subscription ∨ task.stage = .listening subscription →
    subscription = w.asked

variable {t : WatchTarget} {w : Watcher} {x : Reception} {s : Watcher × Reception}

theorem kept_start (t : WatchTarget) (retryDelay : Nat) : Kept t { target := t, retryDelay } {} where
  target := rfl
  key := rfl
  enabled := rfl
  result := rfl
  resolved := rfl
  task := by simp
  idle := fun _ _ => rfl
  asked := by simp

/-- The task goes on in another stage. -/
private theorem Kept.move (h : Kept t w x) {key : String} {stage : WatchStage} {asked : Nat}
    (htask : w.task = some ⟨key, stage⟩) (next : WatchStage)
    (hasked : ∀ subscription, next = .subscribing subscription ∨ next = .listening subscription →
      subscription = asked) :
    Kept t { w with task := some ⟨key, next⟩, asked } { x with feed := next.feed } := by
  obtain ⟨hkey, hresolved, -⟩ := h.task htask
  refine { h with task := ?_, idle := fun hnone => (nomatch hnone), asked := ?_ }
  · rintro _ ⟨⟩
    exact ⟨hkey, hresolved, rfl⟩
  · rintro _ subscription ⟨⟩ hstage
    exact hasked subscription hstage

theorem setTarget_of_same {key : Option String} {enabled : Bool}
    (h : key.map Text.trim = w.key ∧ enabled = w.enabled) (now : Nat) :
    w.setTarget key enabled now = w := if_pos h

/-- A watcher that is told something new starts over, unless it has found something. -/
theorem setTarget_of_change {key : Option String} {enabled : Bool}
    (h : ¬ (key.map Text.trim = w.key ∧ enabled = w.enabled)) (now : Nat) :
    w.setTarget key enabled now =
      { w with
        key := key.map Text.trim
        enabled
        task :=
          if enabled && !w.resolved then (key.map Text.trim).map fun k => ⟨k, .pausing now⟩
          else none } := by
  refine (if_neg h).trans ?_
  cases key.map Text.trim with
  | none => simp
  | some k => cases enabled && !w.resolved <;> rfl

theorem Kept.setTarget (h : Kept t w x) (key : Option String) (enabled : Bool) (now : Nat) :
    Kept t (w.setTarget key enabled now) (x.note w now (.target key enabled)) := by
  simp only [Reception.note, ← h.key, ← h.enabled]
  by_cases hsame : key.map Text.trim = w.key ∧ enabled = w.enabled
  · rw [if_pos hsame, setTarget_of_same hsame]
    exact h
  · rw [if_neg hsame, setTarget_of_change hsame]
    -- Whatever task was under way has ended; a new one has no subscription yet.
    have htask : ∀ {task : WatchTask},
        (if enabled && !w.resolved then (key.map Text.trim).map fun k => ⟨k, .pausing now⟩
          else none) = some task →
        w.resolved = false ∧ key.map Text.trim = some task.key ∧ task.stage = .pausing now := by
      intro task hsome
      split at hsome
      · rename_i hstart
        obtain ⟨k, hk, rfl⟩ := Option.map_eq_some_iff.mp hsome
        exact ⟨by simpa using (Bool.and_eq_true_iff.mp hstart).2, hk, rfl⟩
      · cases hsome
    refine { h with
      key := rfl
      enabled := rfl
      task := fun hsome => ?_
      idle := fun _ _ => rfl
      asked := fun hsome hstage => ?_ }
    · obtain ⟨hopen, hkey, hpausing⟩ := htask hsome
      exact ⟨hkey, hopen, by rw [hpausing]; rfl⟩
    · rw [(htask hsome).2.2] at hstage
      rcases hstage with hstage | hstage <;> cases hstage

theorem kept_reset (t : WatchTarget) {w : Watcher} (htarget : w.target = t) : Kept t w.reset {} where
  target := htarget
  key := rfl
  enabled := rfl
  result := rfl
  resolved := rfl
  task := by simp [Watcher.reset]
  idle := fun _ _ => rfl
  asked := by simp [Watcher.reset]

theorem Kept.wake (h : Kept t w x) (now : Nat) : Kept t (w.wake now).1 (x.note w now .wake) := by
  unfold Reception.note Watcher.wake
  rcases htask : w.task with _ | ⟨key, _ | subscription | subscription⟩
  · exact h
  · dsimp only
    split
    · rw [if_neg (by simp [(h.task htask).2.1])]
      refine h.move htask (.subscribing _) fun subscription hstage => ?_
      rcases hstage with hstage | hstage <;> cases hstage
      rfl
    · exact h
  · exact h
  · exact h

/-- What becomes of a subscription does not matter to a watcher without a task. -/
private theorem Kept.unwatched (h : Kept t w x) (htask : w.task = none) {feed : Feed}
    (hfeed : x.feed = .silent → feed = .silent) : Kept t w { x with feed } :=
  { h with
    task := fun hsome => by simp [htask] at hsome
    idle := fun _ hopen => hfeed (h.idle htask hopen) }

theorem Kept.answer (h : Kept t w x) (subscription : Nat) (outcome : Except ChainError Unit)
    (now : Nat) :
    Kept t (w.subscribed subscription outcome now) (x.note w now (.answer subscription outcome)) := by
  simp only [Reception.note, Watcher.subscribed]
  rcases htask : w.task with _ | ⟨key, stage⟩
  · exact h.unwatched htask fun hfeed => by rw [hfeed, Feed.grant_silent]
  · obtain ⟨-, -, hfeed⟩ := h.task htask
    have hsame : { x with feed := stage.feed } = x := by rw [← hfeed]
    cases stage with
    | pausing wakeAt =>
      rw [hfeed, WatchStage.feed, Feed.grant_silent]
      exact hsame ▸ h
    | subscribing current =>
      rw [hfeed, WatchStage.feed]
      by_cases hcurrent : current = subscription
      · subst hcurrent
        rcases outcome with e | ⟨⟩
        · simp only [Feed.grant, if_true]
          exact h.move htask (.pausing _) (by simp)
        · simp only [Feed.grant, if_true]
          exact h.move htask (.listening current) fun subscription hstage =>
            h.asked htask (by simpa using hstage)
      · simp only [Feed.grant, Feed.asked.injEq, hcurrent, if_false]
        exact hsame ▸ h
    | listening current =>
      rw [hfeed, WatchStage.feed, Feed.grant_live]
      exact hsame ▸ h

theorem Kept.close (h : Kept t w x) (subscription now : Nat) :
    Kept t (w.closed subscription now) (x.note w now (.close subscription)) := by
  simp only [Reception.note, Watcher.closed]
  rcases htask : w.task with _ | ⟨key, stage⟩
  · exact h.unwatched htask fun hfeed => by rw [hfeed, Feed.close_silent]
  · obtain ⟨-, -, hfeed⟩ := h.task htask
    have hsame : { x with feed := stage.feed } = x := by rw [← hfeed]
    cases stage with
    | pausing wakeAt =>
      rw [hfeed, WatchStage.feed, Feed.close_silent]
      exact hsame ▸ h
    | subscribing current =>
      rw [hfeed, WatchStage.feed, Feed.close_asked]
      exact hsame ▸ h
    | listening current =>
      rw [hfeed, WatchStage.feed]
      by_cases hcurrent : current = subscription
      · subst hcurrent
        simp only [Feed.close, if_true]
        exact h.move htask (.pausing _) (by simp)
      · simp only [Feed.close, Feed.live.injEq, hcurrent, if_false]
        exact hsame ▸ h

/-- Logs after the first that fits change nothing. -/
private theorem Kept.extend (h : Kept t w x) (htask : w.task = none) (hresolved : w.resolved = true)
    (more : List (String × Log)) : Kept t w { x with logs := x.logs ++ more } := by
  obtain ⟨entry, hfirst⟩ := Option.isSome_iff_exists.mp (h.resolved.symm.trans hresolved)
  have hall : firstFit? t (x.logs ++ more) = firstFit? t x.logs := by
    rw [firstFit?_append, hfirst, Option.some_or]
  refine { h with
    result := ?_
    resolved := ?_
    task := fun hsome => by simp [htask] at hsome
    idle := fun _ hopen => by simp [hresolved] at hopen }
  · rw [hall]
    exact h.result
  · rw [hall]
    exact h.resolved

theorem batch_of_listening {key : String} {subscription : Nat}
    (htask : w.task = some ⟨key, .listening subscription⟩) (hopen : w.resolved = false)
    (logs : List Log) :
    w.batch subscription logs =
      match w.target.firstMatch key logs with
      | some found => { w with resolved := true, result := w.result.set (some found), task := none }
      | none => w := by
  unfold Watcher.batch
  rw [htask]
  exact (if_pos rfl).trans (if_neg (by simp [hopen]))

theorem batch_of_not_listening {subscription : Nat}
    (h : ∀ key, w.task ≠ some ⟨key, .listening subscription⟩) (logs : List Log) :
    w.batch subscription logs = w := by
  unfold Watcher.batch
  split
  · rename_i key current htask
    refine if_neg fun hcurrent => h key ?_
    rw [htask, hcurrent]
  · rfl

/-- A live subscription is listened to until something is found. -/
theorem Kept.live (h : Kept t w x) {subscription : Nat} (hfeed : x.feed = .live subscription) :
    (∃ key, w.task = some ⟨key, .listening subscription⟩) ∨ w.task = none ∧ w.resolved = true := by
  cases htask : w.task with
  | none =>
    refine Or.inr ⟨rfl, ?_⟩
    cases hresolved : w.resolved with
    | true => rfl
    | false => cases (h.idle htask hresolved).symm.trans hfeed
  | some task =>
    obtain ⟨key, stage⟩ := task
    have hstage := (h.task htask).2.2.symm.trans hfeed
    cases stage with
    | listening current =>
      obtain rfl := Feed.live.inj hstage
      exact Or.inl ⟨key, rfl⟩
    | _ => cases hstage

/-- The first log that fits is kept, and those that come after it change nothing. -/
theorem Kept.batch (h : Kept t w x) (subscription : Nat) (logs : List Log) :
    Kept t (w.batch subscription logs) (x.bring subscription logs) := by
  unfold Reception.bring
  by_cases hlive : ∃ key, w.task = some ⟨key, .listening subscription⟩
  · obtain ⟨key, htask⟩ := hlive
    obtain ⟨hkey, hresolved, hfeed⟩ : x.key = some key ∧ w.resolved = false ∧ x.feed = .live subscription :=
      h.task htask
    have hopen : firstFit? t x.logs = none := by
      have hnone := h.resolved
      rw [hresolved] at hnone
      simpa using hnone.symm
    have hall : firstFit? t (x.logs ++ underKey x.key logs) =
        (logs.find? fun log => log.Fits t key).map (key, ·) := by
      rw [firstFit?_append, hopen, Option.none_or, hkey, underKey, firstFit?_map]
    -- Nothing has fitted before, so the first log that fits is that of the batch.
    have hmatch : w.target.firstMatch key logs =
        (logs.find? fun log => log.Fits t key).bind Log.completion? := by
      rw [h.target, WatchTarget.firstMatch_eq_find?]
    rw [if_pos hfeed, batch_of_listening htask hresolved, hmatch]
    cases hfirst : logs.find? fun log => log.Fits t key with
    | none =>
      rw [hfirst] at hall
      rw [Option.bind_none]
      refine { h with result := ?_, resolved := ?_ }
      · rw [hall, h.result, hopen]
        rfl
      · rw [hall, hresolved]
        rfl
    | some log =>
      rw [hfirst] at hall
      have hfits : log.Fits t key := by simpa using List.find?_some hfirst
      obtain ⟨resource, -, hcompletion⟩ := hfits.completion?_eq
      rw [Option.bind_some, hcompletion]
      refine { h with
        result := ?_
        resolved := ?_
        task := fun hnone => (nomatch hnone)
        idle := fun _ hnone => (nomatch hnone)
        asked := fun hnone => (nomatch hnone) }
      · rw [hall]
        exact hcompletion.symm
      · rw [hall]
        rfl
  · rw [batch_of_not_listening fun key htask => hlive ⟨key, htask⟩]
    split
    · rename_i hfeed
      obtain ⟨htask, hresolved⟩ := (h.live hfeed).resolve_left hlive
      exact h.extend htask hresolved _
    · exact h

/-- **A watcher keeps to its reception**, whatever happens. -/
theorem Kept.step (h : Kept t s.1 s.2) (e : Nat × Event) :
    Kept t (Watcher.step s e).1 (Watcher.step s e).2 := by
  obtain ⟨now, e⟩ := e
  cases e with
  | target key enabled => exact h.setTarget key enabled now
  | reset => exact kept_reset t h.target
  | wake => exact h.wake now
  | answer subscription outcome => exact h.answer subscription outcome now
  | batch subscription logs => exact h.batch subscription logs
  | close subscription => exact h.close subscription now

theorem Kept.run (h : Kept t s.1 s.2) (es : List (Nat × Event)) :
    Kept t (Watcher.run s es).1 (Watcher.run s es).2 := by
  induction es generalizing s with
  | nil => exact h
  | cons e es ih => exact ih (h.step e)

theorem kept_afterAll (t : WatchTarget) (retryDelay : Nat) (es : List (Nat × Event)) :
    Kept t (afterAll t retryDelay es).1 (afterAll t retryDelay es).2 :=
  Kept.run (s := ({ target := t, retryDelay }, {})) (kept_start t retryDelay) es

end Watcher

end ChainProvision
