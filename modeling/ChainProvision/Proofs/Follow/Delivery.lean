import ChainProvision.Identity.Id
import ChainProvision.Follow.Watcher
import ChainProvision.Proofs.Text.Characters

/-!
# What the logs that were delivered come to

Of the logs that a watcher's subscriptions deliver, the first that completes the request decides,
whichever subscription brought it and however many failed or closed before.

## Main definitions

* `Log.Fits`: what makes a log the one that is waited for under a key;
* `Log.Completes`: what makes a log the completion of a request;
* `Delivery`: what has passed between a watcher and the chain;
* `Watcher.Follows`: how a watcher stands to it.
-/

namespace ChainProvision

/-! ## Logs that are waited for -/

/-- A log is the one that is waited for under a key: it is the watched event, carries the key, blanks
around it aside, and names a resource. -/
def Log.Fits (t : WatchTarget) (key : String) (log : Log) : Prop :=
  log.address = t.contract ∧ log.event = t.event ∧ log.key.map Text.trim = some key ∧
    log.resource.isSome = true

instance (t : WatchTarget) (key : String) (log : Log) : Decidable (log.Fits t key) :=
  inferInstanceAs (Decidable (_ ∧ _))

/-- The completion that a log announces. -/
def Log.completion? (log : Log) : Option Completion :=
  log.resource.map fun resource => ⟨resource, log.endpoint⟩

theorem Log.Fits.completion?_eq {t : WatchTarget} {key : String} {log : Log} (h : log.Fits t key) :
    ∃ resource, log.resource = some resource ∧ log.completion? = some ⟨resource, log.endpoint⟩ := by
  obtain ⟨resource, hresource⟩ := Option.isSome_iff_exists.mp h.2.2.2
  exact ⟨resource, hresource, by simp [Log.completion?, hresource]⟩

theorem WatchTarget.completion?_eq (t : WatchTarget) (key : String) (log : Log) :
    t.completion? key log = if log.Fits t key then log.completion? else none := by
  unfold WatchTarget.completion?
  by_cases hmatch : log.address = t.contract ∧ log.event = t.event ∧ log.key.map Text.trim = some key
  · rw [if_pos hmatch]
    -- Without a resource neither side has a completion.
    cases hresource : log.resource with
    | none => simp [Log.completion?, hresource]
    | some resource =>
      have hlog : log.Fits t key := ⟨hmatch.1, hmatch.2.1, hmatch.2.2, by simp [hresource]⟩
      simp [hlog, Log.completion?, hresource]
  · have hlog : ¬ log.Fits t key := fun h => hmatch ⟨h.1, h.2.1, h.2.2.1⟩
    rw [if_neg hmatch, if_neg hlog]

/-- The first match of a batch is the completion of its first log that fits. -/
theorem WatchTarget.firstMatch_eq_find? (t : WatchTarget) (key : String) (logs : List Log) :
    t.firstMatch key logs = (logs.find? fun log => log.Fits t key).bind Log.completion? := by
  unfold WatchTarget.firstMatch
  induction logs with
  | nil => rfl
  | cons log logs ih =>
    rw [List.findSome?_cons, List.find?_cons, WatchTarget.completion?_eq]
    by_cases hlog : log.Fits t key
    · obtain ⟨resource, -, hcompletion⟩ := hlog.completion?_eq
      simp [hlog, hcompletion]
    · simp [hlog, ih]

/-! ## Logs that complete a request -/

/-- A log completes the request of a number: it is the watched event, carries the number in decimal,
blanks around it aside, and names a resource. -/
def Log.Completes (t : WatchTarget) (number : Nat) (log : Log) : Prop :=
  log.address = t.contract ∧ log.event = t.event ∧
    log.key.map Text.trim = some (Text.numeral number) ∧ log.resource.isSome = true

instance (t : WatchTarget) (number : Nat) (log : Log) : Decidable (log.Completes t number) :=
  inferInstanceAs (Decidable (_ ∧ _))

/-- The first of some logs that completes a request. -/
def Log.first? (t : WatchTarget) (number : Nat) (logs : List Log) : Option Log :=
  logs.find? fun log => log.Completes t number

theorem Log.completion?_of_first? {t : WatchTarget} {number : Nat} {logs : List Log} {log : Log}
    (h : Log.first? t number logs = some log) :
    ∃ resource, log.resource = some resource ∧ log.completion? = some ⟨resource, log.endpoint⟩ := by
  have hlog : log.Completes t number := by simpa using List.find?_some h
  exact Log.Fits.completion?_eq (t := t) hlog

/-- The first match of a batch is the completion of its first log that completes the request. -/
theorem WatchTarget.firstMatch_eq (t : WatchTarget) (number : Nat) (logs : List Log) :
    t.firstMatch (Text.numeral number) logs = (Log.first? t number logs).bind Log.completion? :=
  t.firstMatch_eq_find? (Text.numeral number) logs

theorem Log.first?_append (t : WatchTarget) (number : Nat) (logs more : List Log) :
    Log.first? t number (logs ++ more) = (Log.first? t number logs).or (Log.first? t number more) :=
  List.find?_append

/-! ## Subscriptions and logs -/

/-- What has become of the subscription that was asked for last. -/
inductive Feed where
  | silent
  | asked (subscription : Nat)
  | live (subscription : Nat)
  deriving DecidableEq

/-- What has passed between a watcher and the chain: its subscription, and the logs that were
delivered by all of them, in order. -/
structure Delivery where
  feed : Feed := .silent
  logs : List Log := []

namespace Delivery

/-- A subscription is asked for. -/
def ask (x : Delivery) (subscription : Nat) : Delivery := { x with feed := .asked subscription }

/-- The answer to a subscription comes. -/
def grant (x : Delivery) (subscription : Nat) (outcome : Except ChainError Unit) : Delivery :=
  if x.feed = .asked subscription then
    match outcome with
    | .ok () => { x with feed := .live subscription }
    | .error _ => { x with feed := .silent }
  else x

/-- A batch comes; it is delivered if its subscription is live. -/
def bring (x : Delivery) (subscription : Nat) (logs : List Log) : Delivery :=
  if x.feed = .live subscription then { x with logs := x.logs ++ logs } else x

/-- A subscription ends. -/
def close (x : Delivery) (subscription : Nat) : Delivery :=
  if x.feed = .live subscription then { x with feed := .silent } else x

end Delivery

/-! ## Watchers -/

/-- What a task's stage means for its subscription. -/
def WatchStage.feed : WatchStage → Feed
  | .pausing _ => .silent
  | .subscribing subscription => .asked subscription
  | .listening subscription => .live subscription

/-- A watcher holds what the first log that completes the request announces, and subscribes as long
as there was none. -/
inductive Watcher.Follows (w : Watcher) (t : WatchTarget) (number : Nat) (x : Delivery) : Prop where
  | watching {stage : WatchStage} :
      w.target = t → w.task = some ⟨Text.numeral number, stage⟩ → x.feed = stage.feed →
      w.resolved = false → Log.first? t number x.logs = none → w.result.value = none →
      Follows w t number x
  | resolved {log : Log} :
      w.task = none → Log.first? t number x.logs = some log → w.result.value = log.completion? →
      Follows w t number x

namespace Watcher

variable {w : Watcher} {t : WatchTarget} {number : Nat} {x : Delivery}

theorem Follows.result_eq (h : w.Follows t number x) :
    w.result.value = (Log.first? t number x.logs).bind Log.completion? := by
  cases h with
  | watching _ _ _ _ hnone hresult => rw [hnone, hresult, Option.bind_none]
  | resolved _ hfirst hresult => rw [hfirst, hresult, Option.bind_some]

theorem Follows.task_eq_none (h : w.Follows t number x) {log : Log}
    (hfirst : Log.first? t number x.logs = some log) : w.task = none := by
  cases h with
  | watching _ _ _ _ hnone _ =>
    rw [hnone] at hfirst
    cases hfirst
  | resolved htask _ _ => exact htask

/-- What has been found is kept, whatever becomes of the subscription and of the logs after it. -/
theorem Follows.extend {y : Delivery} (h : w.Follows t number x) {log : Log}
    (hfirst : Log.first? t number x.logs = some log) (hlogs : x.logs <+: y.logs) :
    w.Follows t number y := by
  cases h with
  | watching _ _ _ _ hnone _ =>
    rw [hnone] at hfirst
    cases hfirst
  | resolved htask hfirst hresult =>
    obtain ⟨more, hmore⟩ := hlogs
    refine .resolved htask ?_ hresult
    rw [← hmore, Log.first?_append, hfirst, Option.some_or]

theorem follows_setTarget (t : WatchTarget) (retryDelay number now : Nat) :
    Follows (({ target := t, retryDelay } : Watcher).setTarget (some (Text.numeral number)) true now)
      t number {} := by
  unfold setTarget
  simp only [Option.map_some, Text.trim_numeral]
  exact .watching rfl rfl rfl rfl rfl rfl

theorem Follows.wake (h : w.Follows t number x) (now : Nat) :
    (w.wake now).1.Follows t number
      (match (w.wake now).2 with
      | some (subscription, _) => x.ask subscription
      | none => x) := by
  unfold Watcher.wake
  cases h with
  | @watching stage htarget htask hfeed hresolved hnone hresult =>
    rw [htask]
    cases stage with
    | pausing wakeAt =>
      dsimp only
      split
      · simp only [hresolved, Bool.false_eq_true, if_false]
        exact .watching htarget rfl rfl rfl hnone hresult
      · exact .watching htarget htask hfeed hresolved hnone hresult
    | subscribing subscription => exact .watching htarget htask hfeed hresolved hnone hresult
    | listening subscription => exact .watching htarget htask hfeed hresolved hnone hresult
  | resolved htask hfirst hresult =>
    rw [htask]
    exact .resolved htask hfirst hresult

/-- A watcher without a subscription asks for one as long as nothing was found. -/
theorem Follows.subscribes (h : w.Follows t number x) (hnone : Log.first? t number x.logs = none)
    (hsilent : x.feed = .silent) :
    ∃ due, ∀ now, due ≤ now → ∃ subscription,
      (w.wake now).2 = some (subscription, ⟨t.contract, t.event, some (Text.numeral number)⟩) := by
  cases h with
  | @watching stage htarget htask hfeed hresolved _ _ =>
    cases stage with
    | pausing wakeAt =>
      refine ⟨wakeAt, fun now hdue => ⟨w.asked + 1, ?_⟩⟩
      simp [Watcher.wake, htask, hdue, hresolved, Watcher.filter, htarget]
    | subscribing subscription =>
      rw [hsilent] at hfeed
      cases hfeed
    | listening subscription =>
      rw [hsilent] at hfeed
      cases hfeed
  | resolved _ hfirst _ =>
    rw [hnone] at hfirst
    cases hfirst

/-- Whatever a watcher subscribes to are the logs that it follows. -/
theorem Follows.asked_filter (h : w.Follows t number x) {now subscription : Nat} {filter : LogFilter}
    (hwake : (w.wake now).2 = some (subscription, filter)) :
    filter = ⟨t.contract, t.event, some (Text.numeral number)⟩ := by
  unfold Watcher.wake at hwake
  cases h with
  | @watching stage htarget htask _ hresolved _ _ =>
    rw [htask] at hwake
    cases stage with
    | pausing wakeAt =>
      simp only [hresolved, Bool.false_eq_true, if_false] at hwake
      split at hwake
      · obtain ⟨-, rfl⟩ := Prod.mk.inj (Option.some.inj hwake)
        rw [Watcher.filter, htarget]
      · cases hwake
    | subscribing current => cases hwake
    | listening current => cases hwake
  | resolved htask _ _ => simp [htask] at hwake

theorem Follows.subscribed (h : w.Follows t number x) (subscription : Nat)
    (outcome : Except ChainError Unit) (now : Nat) :
    (w.subscribed subscription outcome now).Follows t number (x.grant subscription outcome) := by
  unfold Watcher.subscribed Delivery.grant
  cases h with
  | @watching stage htarget htask hfeed hresolved hnone hresult =>
    rw [htask, hfeed]
    cases stage with
    | pausing wakeAt => exact .watching htarget htask hfeed hresolved hnone hresult
    | subscribing current =>
      by_cases hcurrent : current = subscription
      · subst hcurrent
        rcases outcome with e | ⟨⟩
        · simp only [WatchStage.feed, if_true]
          exact .watching htarget rfl rfl hresolved hnone hresult
        · simp only [WatchStage.feed, if_true]
          exact .watching htarget rfl rfl hresolved hnone hresult
      · simp only [WatchStage.feed, Feed.asked.injEq, hcurrent, if_false]
        exact .watching htarget htask hfeed hresolved hnone hresult
    | listening current => exact .watching htarget htask hfeed hresolved hnone hresult
  | resolved htask hfirst hresult =>
    -- What becomes of a subscription does not matter any more.
    rw [htask]
    refine .resolved htask ?_ hresult
    split
    · cases outcome <;> exact hfirst
    · exact hfirst

/-- The first log that completes the request is kept, and those that come after it change nothing. -/
theorem Follows.batch (h : w.Follows t number x) (subscription : Nat) (logs : List Log) :
    (w.batch subscription logs).Follows t number (x.bring subscription logs) := by
  unfold Watcher.batch Delivery.bring
  cases h with
  | @watching stage htarget htask hfeed hresolved hnone hresult =>
    rw [htask, hfeed]
    cases stage with
    | pausing wakeAt => exact .watching htarget htask hfeed hresolved hnone hresult
    | subscribing current => exact .watching htarget htask hfeed hresolved hnone hresult
    | listening current =>
      by_cases hcurrent : current = subscription
      · subst hcurrent
        have hall : Log.first? t number (x.logs ++ logs) = Log.first? t number logs := by
          rw [Log.first?_append, hnone, Option.none_or]
        simp only [WatchStage.feed, if_true, hresolved, Bool.false_eq_true, if_false, htarget,
          WatchTarget.firstMatch_eq]
        cases hfirst : Log.first? t number logs with
        | none => exact .watching htarget htask rfl hresolved (hall.trans hfirst) hresult
        | some log =>
          obtain ⟨resource, -, hcompletion⟩ := Log.completion?_of_first? hfirst
          simp only [Option.bind_some, hcompletion]
          exact .resolved rfl (hall.trans hfirst) hcompletion.symm
      · simp only [WatchStage.feed, Feed.live.injEq, hcurrent, if_false]
        exact .watching htarget htask hfeed hresolved hnone hresult
  | resolved htask hfirst hresult =>
    rw [htask]
    refine .resolved htask ?_ hresult
    split
    · rw [Log.first?_append, hfirst, Option.some_or]
    · exact hfirst

theorem Follows.closed (h : w.Follows t number x) (subscription now : Nat) :
    (w.closed subscription now).Follows t number (x.close subscription) := by
  unfold Watcher.closed Delivery.close
  cases h with
  | @watching stage htarget htask hfeed hresolved hnone hresult =>
    rw [htask, hfeed]
    cases stage with
    | pausing wakeAt => exact .watching htarget htask hfeed hresolved hnone hresult
    | subscribing current => exact .watching htarget htask hfeed hresolved hnone hresult
    | listening current =>
      by_cases hcurrent : current = subscription
      · subst hcurrent
        simp only [WatchStage.feed, if_true]
        exact .watching htarget rfl rfl hresolved hnone hresult
      · simp only [WatchStage.feed, Feed.live.injEq, hcurrent, if_false]
        exact .watching htarget htask hfeed hresolved hnone hresult
  | resolved htask hfirst hresult =>
    rw [htask]
    refine .resolved htask ?_ hresult
    split <;> exact hfirst

end Watcher

end ChainProvision
