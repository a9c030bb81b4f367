import ChainProvision.Proofs.Deployment.Opening
import ChainProvision.Proofs.Deployment.Origin
import ChainProvision.Proofs.Deployment.Strategy
import ChainProvision.Proofs.Deployment.Tandem
import Mathlib.Data.List.Destutter

/-!
# Foreign logs do not reach a deployment

Receipts and batches may hold logs of any contract.  Of a receipt only those logs count that name what
was begun, and of a batch only those that complete the request which is waited for.  All others are
foreign: however many there are and wherever they stand, a deployment is the same with and without them.

## Main definitions

* `Deployer.expects`: whether a log of an event is one that the deployer waits for;
* `Relay.purge`: what happens to a relay, without the foreign logs;
* `Relay.changes`: the states that a relay comes to show.

## Main statements

- `Tracker.resume_filter`, `Watcher.batch_filter`: what a receipt and a batch come to without them.
- `Relay.Alike.run_purge`: a run and the run without foreign logs.
- `Relay.foreign_logs_do_not_matter`: two runs that differ in foreign logs only.
-/

namespace ChainProvision

open Deployer

/-! ## Logs that nothing is taken from -/

/-- What gives nothing can be left out of a search. -/
private theorem findSome?_filter {α β : Type} {f : α → Option β} {p : α → Bool}
    (h : ∀ x, p x = false → f x = none) (l : List α) : (l.filter p).findSome? f = l.findSome? f := by
  induction l with
  | nil => rfl
  | cons x l ih =>
    cases hx : p x with
    | true => rw [List.filter_cons_of_pos hx, List.findSome?_cons, List.findSome?_cons, ih]
    | false =>
      rw [List.filter_cons_of_neg (by simp [hx]), List.findSome?_cons, h x hx]
      exact ih

/-- Logs of other contracts and other events do not identify a call. -/
theorem correlationOf_filter {contract : Address} {event : String} {p : Log → Bool}
    (h : ∀ log : Log, log.address = contract → log.event = event → p log = true) (logs : List Log) :
    correlationOf (logs.filter p) contract event = correlationOf logs contract event := by
  refine findSome?_filter (fun log hlog => ?_) logs
  refine if_neg fun hfrom => ?_
  rw [h log hfrom.1 hfrom.2] at hlog
  cases hlog

/-- What a submission does on its receipt, it does without the logs of other contracts and events. -/
theorem Tracker.resume_filter {ticket : Ticket} {p : Log → Bool}
    (h : ∀ log : Log, log.address = ticket.submission.request.contract →
      log.event = ticket.submission.event → p log = true)
    (m : Moment) (t : Tracker) (journal : Journal) (r : Receipt) :
    t.resume m journal ticket (.receipt (.ok { r with logs := r.logs.filter p })) =
      t.resume m journal ticket (.receipt (.ok r)) := by
  obtain ⟨generation, submission, awaiting⟩ := ticket
  cases awaiting with
  | signature => rfl
  | broadcast => rfl
  | receipt hash =>
    simp only [resume, correlationOf_filter h r.logs]
    rfl

namespace Watcher

variable {w : Watcher} {t : WatchTarget} {number : Nat} {x : Delivery}

/-- What a batch holds beside the logs that carry the number is no matter to a watcher. -/
theorem Follows.batch_filter (h : w.Follows t number x) {p : Log → Bool}
    (hp : ∀ log : Log, log.address = t.contract → log.event = t.event →
      log.key.map Text.trim = some (Text.numeral number) → p log = true)
    (subscription : Nat) (logs : List Log) :
    w.batch subscription (logs.filter p) = w.batch subscription logs := by
  have hfirst : t.firstMatch (Text.numeral number) (logs.filter p) =
      t.firstMatch (Text.numeral number) logs := by
    refine findSome?_filter (fun log hlog => ?_) logs
    refine if_neg fun hmatch => ?_
    rw [hp log hmatch.1 hmatch.2.1 hmatch.2.2] at hlog
    cases hlog
  unfold Watcher.batch
  -- Only a task that listens reads the batch, and only for its first match.
  cases h with
  | @watching stage htarget htask _ _ _ _ =>
    rw [htask]
    cases stage with
    | pausing wakeAt => rfl
    | subscribing current => rfl
    | listening current => simp only [htarget, hfirst]
  | resolved htask _ _ => rw [htask]

/-- A batch without logs is no matter either. -/
theorem Follows.batch_nil (h : w.Follows t number x) (subscription : Nat) :
    w.batch subscription [] = w := by
  unfold Watcher.batch
  cases h with
  | @watching stage _ htask _ hresolved _ _ =>
    rw [htask]
    cases stage with
    | pausing wakeAt => rfl
    | subscribing current => rfl
    | listening current => simp [hresolved, WatchTarget.firstMatch]
  | resolved htask _ _ => rw [htask]

end Watcher

namespace Deployer

variable {m : Moment} {d d' : Deployer} {e : Event} {effects : List Effect} {s : DeployState}

/-! ## What is waited for -/

/-- The event by which a receipt names what was begun by a route. -/
def namingEvent (settings : Settings) : Route → String
  | .job _ => settings.events.jobSubmitted
  | .newService => settings.events.serviceRequested

/-- Whether a log that an event brings is one that the deployer waits for: it is of the services
contract, and of the event that names what the call has begun, or of the one that completes the
request of the current attempt, with the number of the request as its key, blanks around it aside.
For a call that has ended and for an earlier attempt nothing is waited for. -/
def expects (d : Deployer) (e : Event) (log : Log) : Bool :=
  log.address == d.settings.contract &&
    match e with
    | .answer i _ =>
      match d.deploys[i]? with
      | some (.underway a _) => log.event == namingEvent d.settings a.route
      | _ => false
    | .batch g _ _ =>
      g == d.generation && log.event == d.settings.events.serviceInitialized &&
        d.state.value.request.any fun id => log.key.map Text.trim == some id.text
    | _ => false

/-- An event without foreign logs; nothing is left of a batch that has no others. -/
def purge? (d : Deployer) (e : Event) : Option Event :=
  match e with
  | .answer i (.receipt (.ok r)) =>
    some (.answer i (.receipt (.ok { r with logs := r.logs.filter (d.expects e) })))
  | .batch g subscription logs =>
    if (logs.filter (d.expects e)).isEmpty then none
    else some (.batch g subscription (logs.filter (d.expects e)))
  | e => some e

/-- Every call has submitted a request to the services contract, and waits for the event of its
route. -/
def Addressed (d : Deployer) : Prop :=
  ∀ (i : Nat) (a : Attempt) (t : Ticket), d.deploys[i]? = some (.underway a t) →
    t.submission.request.contract = d.settings.contract ∧
      t.submission.event = namingEvent d.settings a.route

theorem addressed_new (settings : Settings) (encoder : Encoder) (mode : ResourceKind) :
    Addressed (new settings encoder mode) := by
  intro i a t hget
  cases hget

theorem Addressed.settleRelease (h : d.Addressed) : d.settleRelease.Addressed := by
  intro i a t hget
  rw [settleRelease_deploys] at hget
  rw [settleRelease_settings]
  exact h i a t hget

theorem Addressed.turn (h : d.Addressed) (hgone : d.isGone = false) (hturn : Turn m d e d' effects) :
    d'.Addressed := by
  intro i a t hget
  rw [hturn.settings_eq]
  rcases hturn.underway hgone hget with ⟨u, hold, hsame⟩ | ⟨-, hbegins⟩
  · rw [← hsame]
    exact h i a u hold
  · -- The opening of the attempt has fixed both, by the route.
    obtain ⟨name, hopening, -⟩ := hbegins.opening
    have hopens := opens_opening d
    rw [hopening] at hopens
    generalize a.route = route at hopens
    generalize t.submission = submission at hopens
    cases hopens with
    | job => exact ⟨rfl, rfl⟩
    | fresh => exact ⟨rfl, rfl⟩

/-- A call does the same on a receipt without its foreign logs. -/
theorem Addressed.resume_purged (h : d.Addressed) {i : Nat} {a : Attempt} {t : Ticket}
    (hget : d.deploys[i]? = some (.underway a t)) (m : Moment) (answer : Answer) (r : Receipt) :
    d.tracker.resume m d.journal t
        (.receipt (.ok { r with logs := r.logs.filter (d.expects (.answer i answer)) })) =
      d.tracker.resume m d.journal t (.receipt (.ok r)) := by
  obtain ⟨hcontract, hevent⟩ := h i a t hget
  refine Tracker.resume_filter (fun log haddress hnamed => ?_) m _ _ r
  simp [expects, hget, haddress, hcontract, hnamed, hevent]

theorem Addressed.answered_purged (h : d.Addressed) (m : Moment) (i : Nat) (answer : Answer)
    (r : Receipt) :
    d.answered m i (.receipt (.ok { r with logs := r.logs.filter (d.expects (.answer i answer)) })) =
      d.answered m i (.receipt (.ok r)) := by
  unfold answered
  split
  · rename_i a t hget
    rw [h.resume_purged hget]
  · rfl

theorem Addressed.passing_purged (h : d.Addressed) (m : Moment) (i : Nat) (answer : Answer)
    (r : Receipt) :
    d.passing m
        (.answer i (.receipt (.ok { r with logs := r.logs.filter (d.expects (.answer i answer)) }))) =
      d.passing m (.answer i (.receipt (.ok r))) := by
  simp only [passing]
  split
  · rename_i a t hget
    rw [h.resume_purged hget]
  · rfl

/-- As long as a vigil is kept, so is the number that it waits for. -/
theorem Turn.names_eq (hturn : Turn m d e d' effects) (h : d.Coherent) {v v' : Vigil}
    (hv : d.vigil = some v) (hv' : d'.vigil = some v') :
    d'.state.value.call = d.state.value.call ∧ d'.state.value.request = d.state.value.request := by
  have hidle : d.state.value.status ≠ .idle := by
    rw [(h.vigil hv).status]
    nofun
  -- While a vigil is kept no transaction is under way, and nothing can begin.
  cases hturn with
  | ignored | declined | signed | lapsed | atRest => exact ⟨rfl, rfl⟩
  | entered _ _ _ hsame _ _ =>
    obtain ⟨mode, serviceError, isNewService, canDeploy, hstate, -⟩ := hsame
    simp [hstate]
  | unmanned _ hs _ => exact absurd hs hidle
  | refused _ hs _ => exact absurd hs hidle
  | opened _ hs _ => exact absurd hs hidle
  | sent _ hengaged _ _ => simp [hengaged.unwatched] at hv
  | fell _ hengaged _ _ => simp [hengaged.unwatched] at hv
  | unnumbered _ hengaged _ _ _ => simp [hengaged.unwatched] at hv
  | awaited _ hengaged _ _ _ _ _ => simp [hengaged.unwatched] at hv
  | looked _ _ _ _ _ hcourse _ _ _ =>
    obtain ⟨progress, pollError, canDeploy, hstate⟩ := hcourse
    simp [hstate]
  | found | lost | discarded => cases hv'

end Deployer

/-! ## The number that is waited for -/

/-- A state shows what is waited for. -/
def Quarry.ShownBy (s : DeployState) : Quarry → Prop
  | .call id => s.call = some id
  | .request id => s.request = some id

namespace Relay

variable {settings : Settings} {m : Moment} {r r' : Relay} {e e' : Event} {x : Moment × Occurrence}
  {v : Vigil}

/-- The task of a vigil is for what the state shows. -/
def Targeted (settings : Settings) (r : Relay) : Prop :=
  ∀ v : Vigil, r.ahead = some v →
    ∃ quarry : Quarry, v.lookout.Seeks settings quarry ∧ quarry.ShownBy r.deployer.state.value

theorem targeted_new (settings : Settings) (encoder : Encoder) (mode : ResourceKind) :
    Targeted settings (.of (new settings encoder mode)) := by
  intro v hv
  cases hv

/-- The state of an attempt whose receipt has given a number shows the number. -/
theorem Confirms.shownBy {i : Nat} {a : Attempt} {t : Ticket} {hash : TxHash} {receipt : Receipt}
    {number : Word64} (hc : Confirms r.deployer i a t hash receipt number) (h : r.Level settings)
    (hx : x.2 = .event (.answer i (.receipt (.ok receipt)))) :
    (quarryOf a.route number).ShownBy (r.step x).deployer.state.value := by
  obtain ⟨m, occurrence⟩ := x
  obtain rfl : occurrence = _ := hx
  have htake : (r.step (m, .event (.answer i (.receipt (.ok receipt))))).deployer =
      (r.deployer.handle m (.answer i (.receipt (.ok receipt)))).1 := by
    -- A receipt is for the deployer, which is there as long as the call is under way.
    rcases take_cases m r (.answer i (.receipt (.ok receipt))) with ⟨-, hgone⟩ |
      ⟨v, w, effects, -, -, hreact, -⟩ | ⟨-, -, htake⟩
    · exact absurd hc.underway (not_underway_of_isGone hgone i a t)
    · cases hreact
    · exact congrArg (·.1.deployer) htake
  rw [htake]
  rcases handled h.coherent m (.answer i (.receipt (.ok receipt))) with ⟨hgone, -⟩ |
    ⟨-, d', effects, hturn, heq⟩
  · exact absurd hc.underway (not_underway_of_isGone hgone i a t)
  · obtain ⟨-, -, -, canDeploy, hstate⟩ := hc.turn h.coherent hturn
    rw [heq, settleRelease_state, hstate]
    -- The lookout that has just begun shows nothing yet, and no number is its own.
    cases a.route <;> rfl

theorem Targeted.step (ht : r.Targeted settings) (h : r.Level settings) (x : Moment × Occurrence) :
    (r.step x).Targeted settings := by
  intro v hv
  rcases h.ahead_step hv with ⟨w, hw, -, hseeks⟩ | ⟨i, receipt, a, t, hash, number, hx, hc, rfl⟩
  · obtain ⟨quarry, hquarry, hshown⟩ := ht w hw
    refine ⟨quarry, hseeks quarry hquarry, ?_⟩
    -- The vigil is kept, so the numbers are.
    obtain ⟨kept, hkept, -⟩ := h.vigil_of_ahead hw
    obtain ⟨kept', hkept', -⟩ := (h.step x).vigil_of_ahead hv
    rcases h.step_cases x with heq | ⟨-, e, d', effects, hturn, heq⟩
    · rw [heq]
      exact hshown
    · rw [heq] at hkept' ⊢
      rw [settleRelease_vigil] at hkept'
      rw [settleRelease_state]
      split at hkept'
      · cases hkept'
      · obtain ⟨hcall, hrequest⟩ := hturn.names_eq h.coherent hkept hkept'
        cases quarry with
        | call id => exact hcall.trans hshown
        | request id => exact hrequest.trans hshown
  · exact ⟨quarryOf a.route number, Lookout.seeks_start _ _ _, hc.shownBy h hx⟩

/-! ## Relays that have taken other events -/

/-- All that a relay has asked for. -/
def asked (r : Relay) : List Effect := r.trace.flatMap Prod.snd

/-- Two relays that differ at most in the events which they have taken. -/
structure Alike (r r' : Relay) : Prop where
  deployer : r'.deployer = r.deployer
  ahead : r'.ahead = r.ahead
  asked : r'.asked = r.asked

theorem Alike.refl (r : Relay) : Alike r r := ⟨rfl, rfl, rfl⟩

theorem Alike.symm (h : Alike r r') : Alike r' r := ⟨h.deployer.symm, h.ahead.symm, h.asked.symm⟩

theorem Alike.trans {r'' : Relay} (h : Alike r r') (h' : Alike r' r'') : Alike r r'' :=
  ⟨h'.deployer.trans h.deployer, h'.ahead.trans h.ahead, h'.asked.trans h.asked⟩

/-- Two events that the vigil and the deployer take alike. -/
structure SameTaken (m : Moment) (r : Relay) (e e' : Event) : Prop where
  react : r.ahead.bind (·.react? m e') = r.ahead.bind (·.react? m e)
  handle : r.ahead.bind (·.react? m e) = none → r.deployer.handle m e' = r.deployer.handle m e
  passing : r.deployer.passing m e' = r.deployer.passing m e

theorem Alike.take (h : Alike r r') (hsame : SameTaken m r e e') :
    Alike (r.take m e).1 (r'.take m e').1 ∧ r'.shows (m, .event e') = r.shows (m, .event e) := by
  have htake : Alike (r.take m e).1 (r'.take m e').1 := by
    unfold Relay.take
    rw [h.deployer, h.ahead, hsame.react]
    split
    · exact h
    · have hasked := h.asked
      unfold Relay.asked at hasked
      -- The vigil comes first; what it does not take is for the deployer.
      cases htaken : r.ahead.bind (·.react? m e) with
      | some taken => exact ⟨rfl, rfl, by simp [Relay.asked, hasked]⟩
      | none =>
        rw [hsame.handle htaken]
        exact ⟨rfl, rfl, by simp [Relay.asked, hasked]⟩
  refine ⟨htake, ?_⟩
  have hpassing : r'.passing m (.event e') = r.passing m (.event e) := by
    simp only [Relay.passing, h.deployer, h.ahead, hsame.react, hsame.passing]
  have hstate : (r'.step (m, .event e')).deployer = (r.step (m, .event e)).deployer := htake.deployer
  simp only [shows, hpassing, hstate]

theorem Alike.look (h : Alike r r') (m : Moment) :
    Alike (r.look m) (r'.look m) ∧ r'.shows (m, .look) = r.shows (m, .look) := by
  have hlook : Alike (r.look m) (r'.look m) := by
    unfold Relay.look
    rw [h.deployer, h.ahead]
    split
    · exact h
    · split
      · exact ⟨rfl, rfl, h.asked⟩
      · exact ⟨rfl, rfl, h.asked⟩
  refine ⟨hlook, ?_⟩
  have hpassing : r'.passing m .look = r.passing m .look := by
    simp only [Relay.passing, h.deployer, h.ahead]
  have hstate : (r'.step (m, .look)).deployer = (r.step (m, .look)).deployer := hlook.deployer
  simp only [shows, hpassing, hstate]

theorem Alike.step (h : Alike r r') (x : Moment × Occurrence) :
    Alike (r.step x) (r'.step x) ∧ r'.shows x = r.shows x := by
  obtain ⟨m, occurrence⟩ := x
  cases occurrence with
  | event e => exact h.take ⟨rfl, fun _ => rfl, rfl⟩
  | look => exact h.look m

/-! ## Runs without foreign logs -/

/-- What happens, without foreign logs. -/
def purge? (r : Relay) : Occurrence → Option Occurrence
  | .event e => (r.deployer.purge? e).map .event
  | .look => some .look

/-- A run without the logs that are foreign when they come. -/
def purge (r : Relay) : List (Moment × Occurrence) → List (Moment × Occurrence)
  | [] => []
  | x :: xs => ((r.purge? x.2).map (x.1, ·)).toList ++ (r.step x).purge xs

theorem purge?_receipt {i : Nat} {receipt : Receipt} {logs : List Log}
    (h : receipt.logs.filter (r.deployer.expects (.answer i (.receipt (.ok receipt)))) = logs) :
    r.purge? (.event (.answer i (.receipt (.ok receipt)))) =
      some (.event (.answer i (.receipt (.ok { receipt with logs })))) := by
  rw [← h]
  rfl

theorem purge?_batch_nil {g subscription : Nat} {logs : List Log}
    (h : logs.filter (r.deployer.expects (.batch g subscription logs)) = []) :
    r.purge? (.event (.batch g subscription logs)) = none := by
  simp [Relay.purge?, Deployer.purge?, h]

theorem purge?_batch {g subscription : Nat} {logs : List Log} {log : Log} {rest : List Log}
    (h : logs.filter (r.deployer.expects (.batch g subscription logs)) = log :: rest) :
    r.purge? (.event (.batch g subscription logs)) =
      some (.event (.batch g subscription (log :: rest))) := by
  simp [Relay.purge?, Deployer.purge?, h]

theorem purge_append (r : Relay) (xs ys : List (Moment × Occurrence)) :
    r.purge (xs ++ ys) = r.purge xs ++ (r.run xs).purge ys := by
  induction xs generalizing r with
  | nil => rfl
  | cons x xs ih => rw [List.cons_append, purge, purge, ih, List.append_assoc, run_cons]

/-- What a relay goes by when it tells foreign logs from others. -/
structure Aware (settings : Settings) (r : Relay) : Prop where
  level : r.Level settings
  addressed : r.deployer.Addressed
  targeted : r.Targeted settings

theorem aware_new (settings : Settings) (encoder : Encoder) (mode : ResourceKind) :
    Aware settings (.of (new settings encoder mode)) where
  level := level_new settings encoder mode
  addressed := addressed_new settings encoder mode
  targeted := targeted_new settings encoder mode

theorem Aware.step (h : r.Aware settings) (x : Moment × Occurrence) : (r.step x).Aware settings where
  level := h.level.step x
  addressed := by
    rcases h.level.step_cases x with heq | ⟨hgone, e, d', effects, hturn, heq⟩
    · rw [heq]
      exact h.addressed
    · rw [heq]
      exact (h.addressed.turn hgone hturn).settleRelease
  targeted := h.targeted.step h.level x

/-- A receipt is taken alike without its foreign logs. -/
theorem Aware.receipt (h : r.Aware settings) (m : Moment) (i : Nat) (answer : Answer)
    (receipt : Receipt) :
    SameTaken m r (.answer i (.receipt (.ok receipt)))
      (.answer i (.receipt (.ok
        { receipt with logs := receipt.logs.filter (r.deployer.expects (.answer i answer)) }))) where
  react := rfl
  handle := by
    intro _
    simp only [Deployer.handle, Deployer.step, h.addressed.answered_purged]
  passing := h.addressed.passing_purged m i answer receipt

/-- What the task of a vigil learns from a batch, it learns without the foreign logs. -/
theorem Aware.tell_batch (h : r.Aware settings) (hv : r.ahead = some v) (m : Moment)
    (subscription : Nat) (logs : List Log) :
    let e := Event.batch v.generation subscription
    (e (logs.filter (r.deployer.expects (e logs)))).tell m v.lookout = (e logs).tell m v.lookout ∧
      (e []).tell m v.lookout = v.lookout := by
  intro e
  obtain ⟨quarry, hseeks, hshown⟩ := h.targeted v hv
  obtain ⟨kept, hkept, hleads⟩ := h.level.vigil_of_ahead hv
  have hcurrent : v.generation = r.deployer.generation :=
    hleads.generation_eq.trans (h.level.coherent.vigil hkept).attempt
  generalize v.lookout = lookout at hseeks
  cases hseeks with
  | call => exact ⟨rfl, rfl⟩
  | @request id watcher x hfollows =>
    refine ⟨congrArg Lookout.contract ?_, congrArg Lookout.contract (hfollows.batch_nil subscription)⟩
    refine hfollows.batch_filter (fun log haddress hevent hkey => ?_) subscription logs
    -- What the watcher looks for is what the deployer expects.
    replace hshown : r.deployer.state.value.request = some id := hshown
    simp [e, expects, h.level.settings, haddress, hevent, hkey, hcurrent, hshown, Id.text]

/-- A batch that is not for the vigil does nothing. -/
theorem Level.handle_batch (h : r.Level settings) {g subscription : Nat} {logs : List Log}
    (hother : ∀ v, r.ahead = some v → v.generation ≠ g) (m : Moment) :
    r.deployer.handle m (.batch g subscription logs) = (r.deployer, []) := by
  unfold Deployer.handle
  split
  · rfl
  · rename_i hgone
    have hstep : r.deployer.step m (.batch g subscription logs) = (r.deployer, []) := by
      simp only [Deployer.step, stepVigil]
      cases hv : r.deployer.vigil with
      | none => rfl
      | some v =>
        -- The deployer keeps the vigil of the relay, which the batch is not for.
        obtain ⟨w, hw, hleads⟩ := h.ahead_of_vigil hv
        simp [← hleads.generation_eq, hother w hw]
    rw [hstep]
    simp [settleRelease, hgone]

/-- A batch is taken alike without its foreign logs. -/
theorem Aware.batch (h : r.Aware settings) (m : Moment) (g subscription : Nat) (logs : List Log) :
    let e := Event.batch g subscription
    SameTaken m r (e logs) (e (logs.filter (r.deployer.expects (e logs)))) := by
  intro e
  have hnone : ∀ logs, r.ahead.bind (·.react? m (e logs)) = none →
      ∀ v, r.ahead = some v → v.generation ≠ g := by
    rintro logs hreact v hv rfl
    rw [hv] at hreact
    replace hreact : v.react? m (e logs) = none := hreact
    exact Vigil.told?_ne_of_react? hreact rfl
  refine ⟨?_, fun hreact => ?_, rfl⟩
  · -- Either the batch is for the vigil, or neither of the two is.
    cases hv : r.ahead with
    | none => rfl
    | some v =>
      by_cases hg : v.generation = g
      · subst hg
        simp [Vigil.react?, e, Event.told?, (h.tell_batch hv m subscription logs).1]
      · simp [Vigil.react?, e, Event.told?, Ne.symm hg]
  · rw [h.level.handle_batch (hnone logs hreact), h.level.handle_batch (hnone logs hreact)]

/-- A batch of foreign logs only changes nothing. -/
theorem Aware.foreign_batch (h : r.Aware settings) {m : Moment} {g subscription : Nat}
    {logs : List Log}
    (hforeign : logs.filter (r.deployer.expects (.batch g subscription logs)) = []) :
    Alike r (r.take m (.batch g subscription logs)).1 := by
  rcases take_cases m r (.batch g subscription logs) with ⟨htake, -⟩ |
    ⟨v, w, effects, -, hv, hreact, htake⟩ | ⟨-, hreact, htake⟩
  · rw [htake]
    exact .refl r
  · -- The task of the vigil is told of no log that it looks for.
    rw [htake]
    rcases Vigil.react?_cases hreact with ⟨hwake, -⟩ | ⟨htold, rfl, rfl⟩
    · cases hwake
    · obtain rfl := Option.some.inj htold
      obtain ⟨hsame, hnil⟩ := h.tell_batch hv m subscription logs
      rw [hforeign, hnil] at hsame
      exact ⟨rfl, by simp [← hsame, hv], by simp [asked]⟩
  · rw [htake, h.level.handle_batch fun v hv hg =>
      Vigil.told?_ne_of_react? (hreact v hv) (congrArg some hg.symm)]
    exact ⟨rfl, h.level.carry_vigil, by simp [asked]⟩

/-- **One occurrence and its foreign logs**: without them the relay takes it alike, and if nothing else
is left of it, it changes nothing. -/
theorem Aware.step_purge (h : r.Aware settings) (x : Moment × Occurrence) :
    match r.purge? x.2 with
    | some y => Alike (r.step x) (r.step (x.1, y)) ∧ r.shows (x.1, y) = r.shows x
    | none => Alike r (r.step x) ∧ r.shows x = [r.deployer.state.value] := by
  obtain ⟨m, occurrence⟩ := x
  have hsame : ∀ x, Alike (r.step x) (r.step x) ∧ r.shows x = r.shows x := fun x => ⟨.refl _, rfl⟩
  cases occurrence with
  | look => exact hsame _
  | event e =>
    cases e with
    | answer i answer =>
      rcases answer with _ | _ | (error | receipt)
      · exact hsame _
      · exact hsame _
      · exact hsame _
      · exact (Alike.refl r).take (h.receipt m i _ receipt)
    | batch g subscription logs =>
      cases hleft : logs.filter (r.deployer.expects (.batch g subscription logs)) with
      | nil =>
        have hstep : Alike r (r.step (m, .event (.batch g subscription logs))) :=
          h.foreign_batch hleft
        have hpassing : r.passing m (.event (.batch g subscription logs)) = [] := by
          simp only [Relay.passing, Deployer.passing, ite_self]
        rw [purge?_batch_nil hleft]
        simp only [shows, hpassing, hstep.deployer]
        exact ⟨hstep, rfl⟩
      | cons log rest =>
        have hbatch := h.batch m g subscription logs
        simp only [hleft] at hbatch
        rw [purge?_batch hleft]
        exact (Alike.refl r).take hbatch
    | _ => exact hsame _

/-! ## Whole runs -/

/-- The states that a relay comes to show, the first one and then every change. -/
def changes (r : Relay) (xs : List (Moment × Occurrence)) : List DeployState :=
  (r.film xs).flatten.destutter' (· ≠ ·) r.deployer.state.value

/-- What is shown after a state depends on nothing before it. -/
private theorem destutter'_append {l rest rest' : List DeployState} {s b : DeployState}
    (h : rest.destutter' (· ≠ ·) b = rest'.destutter' (· ≠ ·) b) :
    (l ++ b :: rest).destutter' (· ≠ ·) s = (l ++ b :: rest').destutter' (· ≠ ·) s := by
  induction l generalizing s with
  | nil =>
    simp only [List.nil_append, List.destutter'_cons]
    split
    · rw [h]
    · -- No change: the state is the one that was shown before.
      rename_i hsame
      obtain rfl : s = b := Classical.not_not.mp hsame
      exact h
  | cons a l ih =>
    simp only [List.cons_append, List.destutter'_cons]
    split
    · rw [ih]
    · exact ih

theorem changes_cons {y : Moment × Occurrence} {xs ys : List (Moment × Occurrence)}
    (hshown : r'.deployer.state.value = r.deployer.state.value) (hshows : r'.shows y = r.shows x)
    (hstep : (r'.step y).deployer = (r.step x).deployer)
    (hrest : (r'.step y).changes ys = (r.step x).changes xs) :
    r'.changes (y :: ys) = r.changes (x :: xs) := by
  unfold changes at hrest ⊢
  rw [hstep] at hrest
  simp only [film, List.flatten_cons, hshown, hshows]
  -- What an occurrence shows ends with the state after it, and the rest goes on from there.
  simp only [shows, List.append_assoc, List.cons_append, List.nil_append]
  exact destutter'_append hrest

/-- **A run and the run without foreign logs** end alike, and show the same changes. -/
theorem Alike.run_purge (h : Alike r r') (haware : r.Aware settings) (xs : List (Moment × Occurrence)) :
    Alike (r.run xs) (r'.run (r.purge xs)) ∧ r'.changes (r.purge xs) = r.changes xs := by
  induction xs generalizing r r' with
  | nil => exact ⟨h, congrArg (fun d : Deployer => [d.state.value]) h.deployer⟩
  | cons x xs ih =>
    have hstep := haware.step_purge x
    have hshown : r'.deployer.state.value = r.deployer.state.value :=
      congrArg (fun d : Deployer => d.state.value) h.deployer
    unfold purge
    cases hx : r.purge? x.2 with
    | none =>
      -- The occurrence is left out of one run, and does nothing in the other.
      rw [hx] at hstep
      obtain ⟨hsame, hshows⟩ := hstep
      obtain ⟨hrun, hchanges⟩ := ih (hsame.symm.trans h) (haware.step x)
      refine ⟨hrun, hchanges.trans ?_⟩
      unfold changes
      rw [film, List.flatten_cons, hshows, hsame.deployer]
      simp
    | some y =>
      -- What is left of it is taken alike by both.
      rw [hx] at hstep
      obtain ⟨hsame, hshows⟩ := hstep
      obtain ⟨hnext, hshows'⟩ := h.step (x.1, y)
      have hboth := hsame.trans hnext
      obtain ⟨hrun, hchanges⟩ := ih hboth (haware.step x)
      exact ⟨hrun, changes_cons hshown (hshows'.trans hshows) hboth.deployer hchanges⟩

/-- **Foreign logs do not matter to a deployment.**  Two runs that are the same without the logs that
are foreign when they come, in whatever receipts and batches these were, show the same states one after
the other and ask for the same; and they end with the same deployer: its state with the number of its
call or request, its journal, its shelf and the results of its calls included. -/
theorem foreign_logs_do_not_matter (settings : Settings) (encoder : Encoder) (mode : ResourceKind)
    {xs ys : List (Moment × Occurrence)}
    (h : (Relay.of (new settings encoder mode)).purge xs =
      (Relay.of (new settings encoder mode)).purge ys) :
    let start := Relay.of (new settings encoder mode)
    start.changes ys = start.changes xs ∧
      (start.run ys).deployer = (start.run xs).deployer ∧
      (start.run ys).ahead = (start.run xs).ahead ∧
      (start.run ys).asked = (start.run xs).asked := by
  intro start
  have haware : start.Aware settings := aware_new settings encoder mode
  obtain ⟨hxs, hchanges⟩ := (Alike.refl start).run_purge haware xs
  obtain ⟨hys, hchanges'⟩ := (Alike.refl start).run_purge haware ys
  have hpurged : start.purge xs = start.purge ys := h
  rw [hpurged] at hxs hchanges
  have hruns := hxs.trans hys.symm
  exact ⟨hchanges'.symm.trans hchanges, hruns.deployer, hruns.ahead, hruns.asked⟩

private def plain : Relay := .of (new .sample .json .dedicated)

/-- An instance up to the wait for its receipt. -/
private def sentPlain : List (Moment × Occurrence) := [
  (⟨0, .epoch, {}⟩, .event (.form { name := "box", image := "debian" })),
  (⟨0, .epoch, {}⟩, .event (.account (some .zero))),
  (⟨0, .epoch, {}⟩, .event .discover),
  (⟨1, .epoch, {}⟩, .event (.operatorsRead 0 (.ok [.zero]))),
  (⟨2, .epoch, {}⟩, .event .deploy),
  (⟨3, .epoch, {}⟩, .event (.answer 0 (.signature (.ok ())))),
  (⟨4, .epoch, {}⟩, .event (.answer 0 (.broadcast (.ok ⟨[.last 15, .last 15], by decide, by decide⟩))))]

/-- The same up to the first batch, with the logs of the receipt. -/
private def heardPlain (receipt : List Log) : List (Moment × Occurrence) :=
  sentPlain ++ [
    (⟨5, .epoch, {}⟩, .event (.answer 0 (.receipt (.ok ⟨true, receipt, none⟩)))),
    (⟨6, .epoch, {}⟩, .event .wake),
    (⟨7, .epoch, {}⟩, .event (.subscribed 1 1 (.ok ())))]

/-- Batches of logs, and a look at what they have led to. -/
private def batches (logs : List (List Log)) : List (Moment × Occurrence) :=
  logs.map (fun logs => (⟨8, .epoch, {}⟩, .event (.batch 1 1 logs))) ++ [(⟨9, .epoch, {}⟩, .look)]

/-- The log that names the request, and the one that completes it. -/
private def namingLog : Log := { address := .zero, event := "ServiceRequested", key := some "77" }

private def completingLog : Log :=
  { address := .zero, event := "ServiceInitialized", key := some "77", resource := some "5" }

/-- A log of another contract, and one of another request. -/
private def strangeLog : Log :=
  { address := ⟨List.replicate 40 (Fin.last 15), by decide⟩
    event := "ServiceRequested"
    key := some "76" }

private def otherLog : Log :=
  { address := .zero, event := "ServiceInitialized", key := some "78", resource := some "6" }

private theorem purge_heardPlain :
    plain.purge (heardPlain [strangeLog, namingLog]) = heardPlain [namingLog] ∧
      plain.purge (heardPlain [namingLog]) = heardPlain [namingLog] := by
  have hnoisy : [strangeLog, namingLog].filter ((plain.run sentPlain).deployer.expects
      (.answer 0 (.receipt (.ok ⟨true, [strangeLog, namingLog], none⟩)))) = [namingLog] := by decide
  have hquiet : [namingLog].filter ((plain.run sentPlain).deployer.expects
      (.answer 0 (.receipt (.ok ⟨true, [namingLog], none⟩)))) = [namingLog] := by decide
  unfold heardPlain
  simp only [purge_append, purge, purge?_receipt hnoisy, purge?_receipt hquiet]
  exact ⟨rfl, rfl⟩

private theorem purge_batches :
    (plain.run (heardPlain [strangeLog, namingLog])).purge
        (batches [[otherLog], [strangeLog, completingLog]]) = batches [[completingLog]] ∧
      (plain.run (heardPlain [namingLog])).purge (batches [[completingLog]]) =
        batches [[completingLog]] := by
  have hother : [otherLog].filter ((plain.run (heardPlain [strangeLog, namingLog])).deployer.expects
      (.batch 1 1 [otherLog])) = [] := by decide
  have hnoisy : [strangeLog, completingLog].filter
      (((plain.run (heardPlain [strangeLog, namingLog])).step
        (⟨8, .epoch, {}⟩, .event (.batch 1 1 [otherLog]))).deployer.expects
      (.batch 1 1 [strangeLog, completingLog])) = [completingLog] := by decide
  have hquiet : [completingLog].filter ((plain.run (heardPlain [namingLog])).deployer.expects
      (.batch 1 1 [completingLog])) = [completingLog] := by decide
  simp only [batches, List.map_cons, List.map_nil, List.cons_append, List.nil_append, purge,
    purge?_batch_nil hother, purge?_batch hnoisy, purge?_batch hquiet]
  exact ⟨rfl, rfl⟩

theorem foreign_logs_do_not_matter_plain :
    let quiet := heardPlain [namingLog] ++ batches [[completingLog]]
    let noisy := heardPlain [strangeLog, namingLog] ++
      batches [[otherLog], [strangeLog, completingLog]]
    plain.purge quiet = plain.purge noisy ∧ plain.changes noisy = plain.changes quiet ∧
      (plain.run noisy).deployer = (plain.run quiet).deployer ∧
      (plain.run noisy).deployer.state.value.status = .ready ∧
      (plain.run noisy).deployer.state.value.request = some ⟨.ofNat 77⟩ := by
  intro quiet noisy
  have hpurged : plain.purge quiet = plain.purge noisy := by
    simp only [quiet, noisy, purge_append, purge_heardPlain, purge_batches]
  obtain ⟨hchanges, hdeployer, -, -⟩ :=
    @foreign_logs_do_not_matter .sample .json .dedicated quiet noisy hpurged
  exact ⟨hpurged, hchanges, hdeployer, by decide, by decide⟩

end Relay

end ChainProvision
