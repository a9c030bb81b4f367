import ChainProvision.Proofs.Deployment.Wait
import ChainProvision.Proofs.Follow.Delivery

/-!
# The route of a new service is its first match

The outcome of an attempt by a new service is that of the first log which completes its request, among
all that its subscriptions deliver.  How many of them fail or close, in what batches the logs come and
how often the deployer looks has no part in it.

## Main statements

- `Delivery.tally`: the lookout of a new service keeps to the logs.
- `Relay.service_outcome_is_first_match`: what an attempt by a new service comes to.
- `Relay.ready_without_running_record`: the record lags behind if the shelf fails.
-/

namespace ChainProvision

open Deployer

/-- The service that a log names: its resource, if that is a number. -/
def Log.service? (log : Log) : Option ServiceId :=
  log.resource.bind fun resource =>
    ((Text.readNumeral UInt64.size Word64.size_pos resource.toList).map Id.mk).toOption

namespace Delivery

/-! ## The logs delivered to an attempt -/

/-- What passes between an attempt and the chain. -/
def ledger (g : Nat) : Ledger Delivery where
  start := {}
  heard
    | x, .subscribed generation subscription outcome =>
      if generation = g then x.grant subscription outcome else x
    | x, .batch generation subscription logs =>
      if generation = g then x.bring subscription logs else x
    | x, .closed generation subscription => if generation = g then x.close subscription else x
    | x, _ => x
  sent
    | x, .subscribe generation subscription _ => if generation = g then x.ask subscription else x
    | x, _ => x
  sent_of_silent := by
    intro x effect h
    cases effect <;> first | rfl | cases h

/-- What has passed between an attempt and the chain. -/
def of (g : Nat) (trace : List (Event × List Effect)) : Delivery := (ledger g).of trace

variable {g : Nat} {x : Delivery} {t : WatchTarget} {number : Nat} {e : Event} {effects : List Effect}

theorem of_concat (g : Nat) (trace : List (Event × List Effect)) (entry : Event × List Effect) :
    of g (trace ++ [entry]) = (ledger g).after (of g trace) entry :=
  (ledger g).of_concat trace entry

theorem heard_beside (htold : e.told? ≠ some g) : (ledger g).heard x e = x := by
  cases e with
  | subscribed generation subscription outcome => exact if_neg fun heq => htold (congrArg some heq)
  | batch generation subscription logs => exact if_neg fun heq => htold (congrArg some heq)
  | closed generation subscription => exact if_neg fun heq => htold (congrArg some heq)
  | _ => rfl

theorem logs_mono_heard (g : Nat) (x : Delivery) (e : Event) :
    x.logs <+: ((ledger g).heard x e).logs := by
  cases e with
  | subscribed generation subscription outcome =>
    simp only [ledger, grant]
    split
    · split
      · cases outcome <;> exact List.prefix_refl _
      · exact List.prefix_refl _
    · exact List.prefix_refl _
  | batch generation subscription logs =>
    simp only [ledger, bring]
    split
    · split
      · exact List.prefix_append _ _
      · exact List.prefix_refl _
    · exact List.prefix_refl _
  | closed generation subscription =>
    simp only [ledger, close]
    split
    · split <;> exact List.prefix_refl _
    · exact List.prefix_refl _
  | _ => exact List.prefix_refl _

theorem logs_mono (g : Nat) {trace more : List (Event × List Effect)} (h : trace <+: more) :
    (of g trace).logs <+: (of g more).logs := by
  refine (ledger g).of_mono (f := logs) (logs_mono_heard g) ?_ h
  intro x effect
  cases effect with
  | subscribe generation subscription filter =>
    simp only [ledger, ask]
    split <;> exact List.prefix_refl _
  | _ => exact List.prefix_refl _

/-! ## The lookout of a new service -/

/-- The verdict on a new service is what the first log that completes the request announces. -/
theorem verdict?_eq {w : Watcher} (h : w.Follows t number x) :
    (Lookout.contract w).verdict? =
      match Log.first? t number x.logs with
      | none => none
      | some log => log.completion?.map .ok := by
  simp only [Lookout.verdict?, h.result_eq]
  cases Log.first? t number x.logs <;> rfl

/-- A lookout has found what the logs that were delivered to an attempt announce. -/
def Agrees (g : Nat) (t : WatchTarget) (number : Nat) (lookout : Lookout)
    (trace : List (Event × List Effect)) : Prop :=
  ∃ w, lookout = .contract w ∧ w.Follows t number (of g trace)

theorem first?_of_decided {w : Watcher} (h : w.Follows t number x)
    (hdecided : (Lookout.contract w).verdict?.isSome = true) :
    ∃ log, Log.first? t number x.logs = some log := by
  rw [verdict?_eq h] at hdecided
  cases hfirst : Log.first? t number x.logs with
  | none => simp [hfirst] at hdecided
  | some log => exact ⟨log, rfl⟩

/-- **The lookout of a new service keeps to the logs.** -/
theorem tally (g : Nat) (t : WatchTarget) (number : Nat) : Tally g (Agrees g t number) where
  wake := by
    rintro m _ trace ⟨w, rfl, hfollows⟩
    have hwake := hfollows.wake m.clock
    refine ⟨(w.wake m.clock).1, rfl, ?_⟩
    -- The subscription that the wake asks for is the one that counts from now on.
    rw [of_concat]
    simp only [Ledger.after, Lookout.wake]
    cases hasked : (w.wake m.clock).2 with
    | none =>
      rw [hasked] at hwake
      exact hwake
    | some asked =>
      rw [hasked] at hwake
      have hsent : (ledger g).sent (of g trace) (.subscribe g asked.1 asked.2) =
          (of g trace).ask asked.1 := if_pos rfl
      simp only [Option.toList_some, List.map_cons, List.map_nil, List.foldl_cons, List.foldl_nil]
      exact hsent ▸ hwake
  told := by
    rintro m e _ trace htold ⟨w, rfl, hfollows⟩
    rw [Agrees, of_concat, Ledger.after_of_silent _ (by simp)]
    cases e with
    -- Nothing that a poller is told reaches a watcher.
    | fetched => exact ⟨w, rfl, hfollows⟩
    | subscribed generation subscription outcome =>
      obtain rfl := Option.some.inj htold
      have hheard : (ledger generation).heard (of generation trace)
          (.subscribed generation subscription outcome) =
          (of generation trace).grant subscription outcome := if_pos rfl
      rw [hheard]
      exact ⟨_, rfl, hfollows.subscribed subscription outcome m.clock⟩
    | batch generation subscription logs =>
      obtain rfl := Option.some.inj htold
      have hheard : (ledger generation).heard (of generation trace)
          (.batch generation subscription logs) =
          (of generation trace).bring subscription logs := if_pos rfl
      rw [hheard]
      exact ⟨_, rfl, hfollows.batch subscription logs⟩
    | closed generation subscription =>
      obtain rfl := Option.some.inj htold
      have hheard : (ledger generation).heard (of generation trace) (.closed generation subscription) =
          (of generation trace).close subscription := if_pos rfl
      rw [hheard]
      exact ⟨_, rfl, hfollows.closed subscription m.clock⟩
    | _ => cases htold
  beside := by
    rintro e effects _ trace htold hsilent ⟨w, rfl, hfollows⟩
    rw [Agrees, of_concat, Ledger.after_of_silent _ hsilent, heard_beside htold]
    exact ⟨w, rfl, hfollows⟩
  after := by
    rintro e effects _ trace hdecided hsilent ⟨w, rfl, hfollows⟩
    -- The first match stays the first, whatever is delivered after it.
    obtain ⟨log, hfirst⟩ := first?_of_decided hfollows hdecided
    rw [Agrees, of_concat, Ledger.after_of_silent _ hsilent]
    exact ⟨w, rfl, hfollows.extend hfirst (logs_mono_heard g _ e)⟩
  spent := by
    rintro m _ trace hdecided ⟨w, rfl, hfollows⟩
    obtain ⟨log, hfirst⟩ := first?_of_decided hfollows hdecided
    simp [Lookout.wake, Watcher.wake, hfollows.task_eq_none hfirst]

/-! ## The outcome -/

/-- What the state shows of the logs that were delivered. -/
def Shown (x : Delivery) (t : WatchTarget) (number : Nat) (s : DeployState) : Prop :=
  match Log.first? t number x.logs with
  | none => s.status = .provisioning ∧ s.provision = none
  | some log => s.status = .ready ∧ s.provision = log.completion?

/-- What the record says of the logs that were delivered. -/
def Filed (x : Delivery) (t : WatchTarget) (number : Nat) (record : Record) : Prop :=
  match Log.first? t number x.logs with
  | none => record.status = .creating ∧ record.resource = none ∧ record.service = none
  | some log =>
    record.status = .running ∧ record.resource = log.resource ∧ record.endpoint = log.endpoint ∧
      record.service = log.service?

theorem shown_of_reflected {w : Watcher} {s : DeployState} (h : w.Follows t number x)
    (hreflected : (Lookout.contract w).Reflected s) : x.Shown t number s := by
  have hverdict := hreflected.2
  rw [verdict?_eq h] at hverdict
  unfold Shown
  cases hfirst : Log.first? t number x.logs with
  | none => simpa [hfirst] using hverdict
  | some log =>
    obtain ⟨resource, -, hcompletion⟩ := Log.completion?_of_first? hfirst
    simpa [hfirst, hcompletion] using hverdict

/-- The attempt is ready just if some log has completed the request. -/
theorem Shown.ready_iff {s : DeployState} (h : x.Shown t number s) :
    s.status = .ready ↔ ∃ log ∈ x.logs, log.Completes t number := by
  unfold Shown at h
  cases hfirst : Log.first? t number x.logs with
  | none =>
    rw [hfirst] at h
    have hnone : ∀ log ∈ x.logs, ¬ log.Completes t number := by
      simpa [Log.first?] using hfirst
    simpa [h.1] using hnone
  | some log =>
    rw [hfirst] at h
    have hlog : log.Completes t number := by simpa using List.find?_some hfirst
    exact ⟨fun _ => ⟨log, List.mem_of_find?_eq_some hfirst, hlog⟩, fun _ => h.1⟩

theorem Filed.of_first {record : Record} {log : Log} (h : x.Filed t number record)
    (hfirst : Log.first? t number x.logs = some log) :
    record.status = .running ∧ record.resource = log.resource ∧ record.endpoint = log.endpoint ∧
      record.service = log.service? := by
  unfold Filed at h
  rw [hfirst] at h
  exact h

/-- The record of a new service is as it was made until it is patched. -/
theorem filed_of_recorded {w : Watcher} {a : Attempt} {hash : TxHash} {n : Option Word64}
    {shelf : Shelf} (h : w.Follows t number x) (hroute : a.route = .newService)
    (hdraft : ∃ name kind image now, a.record = .creating name kind image now)
    (hrecorded : (Lookout.contract w).Recorded (confirmedRecord a hash n) shelf) :
    ∃ record, shelf.get? a.record.key = some record ∧ x.Filed t number record := by
  obtain ⟨name, kind, image, now, hdraft⟩ := hdraft
  obtain ⟨record, hget, hrecord⟩ := hrecorded
  -- On this route the number of the receipt is not recorded.
  have hconfirmed : confirmedRecord a hash n = { a.record with txHash := some hash } := by
    simp [confirmedRecord, hroute]
  rw [hconfirmed] at hget hrecord
  refine ⟨record, hget, ?_⟩
  rw [verdict?_eq h] at hrecord
  unfold Filed
  cases hfirst : Log.first? t number x.logs with
  | none =>
    rw [hfirst] at hrecord
    obtain rfl := hrecord
    simp [hdraft, Record.creating]
  | some log =>
    obtain ⟨resource, hresource, hcompletion⟩ := Log.completion?_of_first? hfirst
    simp only [hfirst, hcompletion, Option.map_some] at hrecord
    obtain ⟨time, rfl⟩ := hrecord
    simp [hdraft, Record.creating, Record.apply, hresource, Log.service?, Lookout.serviceOf]

end Delivery

namespace Deployer

variable {m : Moment} {d d' : Deployer} {e : Event} {effects : List Effect}

/-! ## The records of attempts -/

/-- The record of every attempt under way is as it was made. -/
def Drafted (d : Deployer) : Prop :=
  ∀ ⦃i : Nat⦄ ⦃a : Attempt⦄ ⦃t : Ticket⦄, d.deploys[i]? = some (.underway a t) →
    ∃ name kind image now, a.record = .creating name kind image now

theorem Drafted.turn (h : d.Drafted) (hturn : Turn m d e d' effects) : d'.Drafted := by
  intro i a t hget
  cases hturn with
  | declined => exact h (underway_of_concat_ended hget)
  | unmanned => exact h (underway_of_concat_ended hget)
  | refused => exact h (underway_of_concat_ended hget)
  | opened =>
    rcases Calls.get_of_concat hget with hold | ⟨-, hnew⟩
    · exact h hold
    · obtain ⟨rfl, -⟩ := DeployCall.underway.inj hnew
      exact ⟨_, _, _, _, rfl⟩
  | signed hget' =>
    rcases Calls.get_of_set hget with ⟨hold, -⟩ | ⟨-, hnew⟩
    · exact h hold
    · obtain ⟨rfl, -⟩ := DeployCall.underway.inj hnew
      exact h hget'
  | sent hget' =>
    rcases Calls.get_of_set hget with ⟨hold, -⟩ | ⟨-, hnew⟩
    · exact h hold
    · obtain ⟨rfl, -⟩ := DeployCall.underway.inj hnew
      exact h hget'
  | lapsed => exact h (underway_of_set_ended hget).1
  | fell => exact h (underway_of_set_ended hget).1
  | unnumbered => exact h (underway_of_set_ended hget).1
  | awaited => exact h (underway_of_set_ended hget).1
  | _ => exact h hget

theorem Drafted.handle (hdrafted : d.Drafted) (h : d.Coherent) (m : Moment) (e : Event) :
    (d.handle m e).1.Drafted := by
  rcases handled h m e with ⟨-, heq⟩ | ⟨-, d', effects, hturn, heq⟩
  · rw [heq]
    exact hdrafted
  · rw [heq]
    intro i a t hget
    rw [settleRelease_deploys] at hget
    exact hdrafted.turn hturn hget

theorem Drafted.run (hdrafted : d.Drafted) (h : d.Coherent) (es : List (Moment × Event)) :
    (d.run es).Drafted := by
  induction es generalizing d with
  | nil => exact hdrafted
  | cons x es ih => exact ih (hdrafted.handle h x.1 x.2) (h.handle x.1 x.2)

theorem drafted_afterAll (settings : Settings) (encoder : Encoder) (mode : ResourceKind)
    (es : List (Moment × Event)) : (afterAll settings encoder mode es).Drafted := by
  have hnew : (new settings encoder mode).Drafted := by
    intro i a t hget
    simp [new] at hget
  exact hnew.run (coherent_new settings encoder mode) es

end Deployer

namespace Relay

variable {m : Moment} {a : Attempt} {hash : TxHash} {number : Option Word64} {target : WatchTarget}
  {g n : Nat} {terms : Terms} {r : Relay}

theorem Wait.delivered (hwait : Wait (Delivery.Agrees g target n) terms r) :
    (Delivery.of g r.seen).Shown target n r.deployer.state.value := by
  obtain ⟨_, ⟨w, rfl, hfollows⟩, hreflected, -⟩ := hwait.at_look
  exact Delivery.shown_of_reflected hfollows hreflected

theorem Wait.filed (hwait : Wait (Delivery.Agrees g target n) terms r) (hworks : terms.works)
    (hroute : a.route = .newService)
    (hdraft : ∃ name kind image now, a.record = .creating name kind image now)
    (hrecord : terms.record = confirmedRecord a hash number) :
    ∃ record, r.deployer.shelf.get? a.record.key = some record ∧
      (Delivery.of g r.seen).Filed target n record := by
  obtain ⟨_, ⟨w, rfl, hfollows⟩, -, hrecorded⟩ := hwait.at_look
  exact Delivery.filed_of_recorded hfollows hroute hdraft (hrecord ▸ hrecorded hworks)

/-- After the first log that completes the request there are no more subscriptions. -/
theorem Wait.unsubscribed {e : Event} (hwait : Wait (Delivery.Agrees g target n) terms r)
    (hg : terms.generation = g) {log : Log}
    (hfirst : Log.first? target n (Delivery.of g r.trace).logs = some log)
    (hx : terms.Allow r (m, .event e)) : ∀ effect ∈ (r.take m e).2, effect.attempt? = none := by
  subst hg
  refine hwait.silent (Delivery.tally _ _ _) ?_ hx
  rintro _ ⟨w, rfl, hfollows⟩
  obtain ⟨resource, -, hcompletion⟩ := Log.completion?_of_first? hfirst
  simp [Delivery.verdict?_eq hfollows, hfirst, hcompletion]

/-- Until then a subscription that has failed or closed is followed by another one, in time. -/
theorem Wait.subscribes (hwait : Wait (Delivery.Agrees g target n) terms r)
    (hg : terms.generation = g) (hgone : r.deployer.isGone = false)
    (hnone : Log.first? target n (Delivery.of g r.trace).logs = none)
    (hsilent : (Delivery.of g r.trace).feed = .silent) :
    ∃ due, ∀ m : Moment, due ≤ m.clock → terms.Allow r (m, .event .wake) →
      ∃ subscription, (r.take m .wake).2 =
        [.subscribe g subscription ⟨target.contract, target.event, some (Text.numeral n)⟩] := by
  subst hg
  obtain ⟨_, ⟨w, rfl, hfollows⟩, hwakes⟩ := hwait.wakes hgone fun lookout hagrees => by
    obtain ⟨w, rfl, hfollows⟩ := hagrees
    rw [Delivery.verdict?_eq hfollows, hnone]
  obtain ⟨due, hdue⟩ := hfollows.subscribes hnone hsilent
  refine ⟨due, fun m hm hx => ?_⟩
  obtain ⟨subscription, hasked⟩ := hdue m.clock hm
  refine ⟨subscription, ?_⟩
  rw [hwakes m hx]
  simp [Lookout.wake, hasked]

/-- **What an attempt by a new service comes to**: from the receipt on the deployer shows the first
match among the logs that it knows of, which by its next look are all that were delivered; as long as
the shelf works the record says the same.  There is no subscription after the first match, and another
one after each that brought none. -/
theorem service_outcome_is_first_match (settings : Settings) (encoder : Encoder) (mode : ResourceKind)
    (es : List (Moment × Event)) {m : Moment} {i : Nat} {a : Attempt} {t : Ticket} {hash : TxHash}
    {receipt : Receipt} {number : Word64} {xs : List (Moment × Occurrence)}
    (hc : Confirms (afterAll settings encoder mode es) i a t hash receipt number)
    (hroute : a.route = .newService)
    (hxs : Undisturbed settings m
      (Relay.of (confirmed m (afterAll settings encoder mode es) i receipt)) xs) :
    let start := confirmed m (afterAll settings encoder mode es) i receipt
    let r := (Relay.of start).run xs
    let target : WatchTarget := ⟨settings.contract, settings.events.serviceInitialized⟩
    let seen := Delivery.of a.generation r.seen
    let given := Delivery.of a.generation r.trace
    let works := m.outage.upsert = false ∧ ∀ x ∈ xs, x.1.outage.update = false
    (r.deployer.state.value.status = .ready ↔ ∃ log ∈ seen.logs, log.Completes target number.val) ∧
    seen.Shown target number.val r.deployer.state.value ∧
    (works → ∃ record, r.deployer.shelf.get? a.record.key = some record ∧
      seen.Filed target number.val record) ∧
    seen.logs <+: given.logs ∧
    (r.deployer.isGone = false → ∀ m' : Moment,
      given.Shown target number.val (r.look m').deployer.state.value ∧
        (works → m'.outage.update = false →
          ∃ record, (r.look m').deployer.shelf.get? a.record.key = some record ∧
            given.Filed target number.val record)) ∧
    (∀ log, Log.first? target number.val given.logs = some log →
      ∀ m' e, Undisturbed settings m r [(m', .event e)] →
        ∀ effect ∈ (r.take m' e).2, effect.attempt? = none) ∧
    (Log.first? target number.val given.logs = none → given.feed = .silent →
      r.deployer.isGone = false →
        ∃ due, ∀ m' : Moment, due ≤ m'.clock → Undisturbed settings m r [(m', .event .wake)] →
          ∃ subscription, (r.take m' .wake).2 =
            [.subscribe a.generation subscription
              ⟨target.contract, target.event, some (Text.numeral number.val)⟩]) ∧
    (∀ later, xs = prompt later → r.deployer = start.run later) := by
  intro start r target seen given works
  have htally := Delivery.tally a.generation target number.val
  have hdraft := drafted_afterAll settings encoder mode es hc.underway
  -- The wait is the same whether or not the shelf works.
  have hbegin : ∀ works' : Prop, (works' → works) →
      Wait (Delivery.Agrees a.generation target number.val)
        (termsOf m settings a hash number works') (Relay.of start) := by
    intro works' hworks
    refine wait_afterAll hc (fun hw => (hworks hw).1) ?_
    rw [hroute]
    exact ⟨_, rfl, Watcher.follows_setTarget _ _ _ _⟩
  have hrun : ∀ works' : Prop, (works' → works) →
      Wait (Delivery.Agrees a.generation target number.val)
        (termsOf m settings a hash number works') r :=
    fun works' hworks => (hbegin works' hworks).run htally (hxs.allow fun hw => (hworks hw).2)
  have hwait := hrun works id
  have hallow : ∀ {m' e}, Undisturbed settings m r [(m', .event e)] →
      (termsOf m settings a hash number False).Allow r (m', .event e) := fun hx =>
    hx.allow False.elim [] _ [] rfl
  have hseen : ∀ m', r.deployer.isGone = false → (r.step (m', .look)).seen = r.trace := fun m' hgone =>
    look_seen hgone m'
  refine ⟨hwait.delivered.ready_iff, hwait.delivered, ?_,
    Delivery.logs_mono _ (seen_prefix_run (List.prefix_refl _) xs), ?_, ?_, ?_, ?_⟩
  · exact fun hw => hwait.filed hw hroute hdraft rfl
  · intro hgone m'
    constructor
    · have hlook := ((hrun False False.elim).step htally (x := (m', .look))
        ⟨by simp, by simp, False.elim⟩).delivered
      rw [hseen m' hgone] at hlook
      exact hlook
    · intro hw hm'
      have hlook := (hwait.step htally (x := (m', .look)) ⟨by simp, by simp, fun _ => hm'⟩).filed hw
        hroute hdraft rfl
      rw [hseen m' hgone] at hlook
      exact hlook
  · intro log hfirst m' e hx
    exact (hrun False False.elim).unsubscribed rfl hfirst (hallow hx)
  · intro hnone hsilent hgone
    obtain ⟨due, hdue⟩ := (hrun False False.elim).subscribes rfl hgone hnone hsilent
    exact ⟨due, fun m' hm hx => hdue m' hm (hallow hx)⟩
  · rintro later rfl
    exact run_prompt (hbegin works id).coherent rfl later

/-! ## An instance -/

/-- An instance whose transaction is broadcast. -/
private def sentInstance : List (Moment × Event) := [
  (⟨0, .epoch, {}⟩, .form { name := "box", image := "debian" }),
  (⟨0, .epoch, {}⟩, .account (some .zero)),
  (⟨0, .epoch, {}⟩, .discover),
  (⟨1, .epoch, {}⟩, .operatorsRead 0 (.ok [.zero])),
  (⟨2, .epoch, {}⟩, .deploy),
  (⟨3, .epoch, {}⟩, .answer 0 (.signature (.ok ()))),
  (⟨4, .epoch, {}⟩, .answer 0 (.broadcast (.ok ⟨[Fin.last 15], by decide, by decide⟩)))]

/-- The receipt of its transaction. -/
private def requestReceipt : Receipt :=
  ⟨true, [{ address := .zero, event := "ServiceRequested", key := some "77" }], none⟩

/-- A log for a request. -/
private def initialized (key : String) (resource : Option String) : Log :=
  { address := .zero, event := "ServiceInitialized", key := some key, resource }

/-- The first subscription closes, the second fails, and the third brings a log without a resource
and two matches; then the deployer looks, and the shelf may fail. -/
private def thirdFeed (outage : Outage) : List (Moment × Occurrence) := [
  (⟨6, .epoch, {}⟩, .event .wake),
  (⟨7, .epoch, {}⟩, .event (.subscribed 1 1 (.ok ()))),
  (⟨8, .epoch, {}⟩, .event (.closed 1 1)),
  (⟨60000, .epoch, {}⟩, .event .wake),
  (⟨60001, .epoch, {}⟩, .event (.subscribed 1 2 (.error (.subscription "busy")))),
  (⟨120000, .epoch, {}⟩, .event .wake),
  (⟨120001, .epoch, {}⟩, .event (.subscribed 1 3 (.ok ()))),
  (⟨120002, .epoch, {}⟩, .event (.batch 1 3
    [initialized "77" none, initialized " 77 " (some "5"), initialized "77" (some "6")])),
  (⟨120003, .epoch, outage⟩, .look)]

/-- The deployer as its receipt has reached it. -/
private def requested : Deployer :=
  confirmed ⟨5, .epoch, {}⟩ (afterAll (.sampleWithin (.ofSeconds 3600)) .json .dedicated sentInstance) 0
    requestReceipt

private theorem confirms_sentInstance :
    ∃ a t hash,
      Confirms (afterAll (.sampleWithin (.ofSeconds 3600)) .json .dedicated sentInstance) 0 a t hash requestReceipt
        (.ofNat 77) ∧
      a.route = .newService ∧ a.generation = 1 ∧ a.record.key = "box" :=
  ⟨_, _, _, ⟨rfl, rfl, rfl, rfl, by decide⟩, rfl, rfl, rfl⟩

private theorem undisturbed_thirdFeed (outage : Outage) :
    Undisturbed (.sampleWithin (.ofSeconds 3600)) ⟨5, .epoch, {}⟩ (Relay.of requested) (thirdFeed outage) := by
  refine undisturbed_of_clock (by simp [thirdFeed]) ?_
  rintro _ ⟨⟩
  simp only [thirdFeed, List.forall_mem_cons, List.not_mem_nil, false_imp_iff, implies_true, and_true]
  decide

theorem service_outcome_is_first_match_thirdFeed :
    let r := (Relay.of requested).run (thirdFeed {})
    (∃ a t hash,
      Confirms (afterAll (.sampleWithin (.ofSeconds 3600)) .json .dedicated sentInstance) 0 a t hash requestReceipt
        (.ofNat 77) ∧ a.route = .newService) ∧
      Undisturbed (.sampleWithin (.ofSeconds 3600)) ⟨5, .epoch, {}⟩ (Relay.of requested) (thirdFeed {}) ∧
      requested.state.value.status = .provisioning ∧ r.deployer.state.value.status = .ready ∧
      ∃ record, r.deployer.shelf.get? "box" = some record ∧ record.status = .running ∧
        record.service = some ⟨.ofNat 5⟩ := by
  intro r
  have hxs := undisturbed_thirdFeed {}
  obtain ⟨a, t, hash, hc, hroute, hg, hkey⟩ := confirms_sentInstance
  obtain ⟨hready, -, hfiled, -⟩ :=
    service_outcome_is_first_match (.sampleWithin (.ofSeconds 3600)) .json .dedicated sentInstance hc hroute hxs
  have hfirst : Log.first? ⟨.zero, "ServiceInitialized"⟩ 77 (Delivery.of 1 r.seen).logs =
      some (initialized " 77 " (some "5")) := by decide
  have hworks : ∀ x ∈ thirdFeed {}, x.1.outage.update = false := by simp [thirdFeed]
  obtain ⟨record, hget, hrecord⟩ := hfiled ⟨rfl, hworks⟩
  rw [hg] at hrecord hready
  rw [hkey] at hget
  refine ⟨⟨a, t, hash, hc, hroute⟩, hxs, by decide, hready.mpr ?_, record, hget, ?_⟩
  · exact ⟨_, List.mem_of_find?_eq_some hfirst, by decide⟩
  · obtain ⟨hrunning, -, -, hservice⟩ := hrecord.of_first hfirst
    exact ⟨hrunning, hservice.trans (by decide)⟩

/-- It is not so that the record is running whenever the attempt is ready: if the shelf fails as the
resource is taken over, the record stays as it was. -/
theorem ready_without_running_record :
    ¬ ∀ (settings : Settings) (encoder : Encoder) (mode : ResourceKind) (es : List (Moment × Event))
      {m : Moment} {i : Nat} {a : Attempt} {t : Ticket} {hash : TxHash} {receipt : Receipt}
      {number : Word64} {xs : List (Moment × Occurrence)},
      let start := confirmed m (afterAll settings encoder mode es) i receipt
      let d := ((Relay.of start).run xs).deployer
      Confirms (afterAll settings encoder mode es) i a t hash receipt number → a.route = .newService →
        Undisturbed settings m (Relay.of start) xs → d.state.value.status = .ready →
          ∃ record, d.shelf.get? a.record.key = some record ∧ record.status = .running := by
  intro h
  obtain ⟨a, t, hash, hc, hroute, -, hkey⟩ := confirms_sentInstance
  have hready : ((Relay.of requested).run (thirdFeed { update := true })).deployer.state.value.status =
      .ready := by decide
  have hcreating : (((Relay.of requested).run (thirdFeed { update := true })).deployer.shelf.get?
      "box").map Record.status = some .creating := by decide
  obtain ⟨record, hget, hrunning⟩ := h (.sampleWithin (.ofSeconds 3600)) .json .dedicated sentInstance hc hroute
    (undisturbed_thirdFeed { update := true }) hready
  rw [hkey] at hget
  have hstatus : some record.status = some .creating :=
    (congrArg (Option.map Record.status) hget).symm.trans hcreating
  rw [hrunning] at hstatus
  cases hstatus

end Relay

end ChainProvision
