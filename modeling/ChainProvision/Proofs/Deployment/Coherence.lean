import ChainProvision.Deployment.Deployer
import ChainProvision.Proofs.Calls

/-!
# How the calls of a deployer stand to its generations

An attempt has a generation of the deployer and its submission one of the tracker.  Both are current
or both have passed, and the status says where a current attempt is: at its transaction, whose call
is the only one of its generation, or after it, with a vigil that has no verdict yet.

## Main definitions

* `Deployer.Engaged`, `Deployer.Superseded`, `Deployer.Watching`: a call of the current attempt, a
  call of an earlier one, the vigil of the current attempt;
* `Deployer.Coherent`: every call is one of the first two, and the vigil is the third;
* `Deployer.attemptOf`, `Deployer.Effect.attempt?`: the attempt that an event or a request belongs
  to.
-/

namespace ChainProvision

namespace Deployer

/-! ## Calls and vigils -/

/-- What is shown while the current submission waits. -/
def Shows (d : Deployer) : Awaiting → Prop
  | .signature => d.state.value.status = .signing ∧ d.tracker.snapshot = { status := .signing }
  | .broadcast => d.state.value.status = .signing ∧ d.tracker.snapshot = { status := .signing }
  | .receipt hash =>
    d.state.value.status = .pending ∧ d.state.value.txHash = some hash ∧
      d.tracker.snapshot = { status := .pending, hash := some hash }

/-- A call of the current attempt, whose transaction is under way. -/
structure Engaged (d : Deployer) (a : Attempt) (t : Ticket) : Prop where
  attempt : a.generation = d.generation
  ticket : t.generation = d.tracker.generation
  unwatched : d.vigil = none
  shows : d.Shows t.awaiting

/-- A call of an earlier attempt, whose submission is an earlier one, too. -/
structure Superseded (d : Deployer) (a : Attempt) (t : Ticket) : Prop where
  attempt : a.generation < d.generation
  ticket : t.generation < d.tracker.generation

/-- A vigil of the current attempt, which has found out nothing yet. -/
structure Watching (d : Deployer) (v : Vigil) : Prop where
  attempt : v.generation = d.generation
  status : d.state.value.status = .provisioning
  confirmed : d.tracker.snapshot.status = .confirmed
  undecided : v.lookout.verdict? = none

/-- How the calls and the vigil of a deployer stand to its generations. -/
structure Coherent (d : Deployer) : Prop where
  calls : ∀ {i : Nat} {a : Attempt} {t : Ticket}, d.deploys[i]? = some (.underway a t) →
    d.Superseded a t ∨ d.Engaged a t
  /-- No two calls belong to the current attempt. -/
  sole : ∀ {i j : Nat} {a b : Attempt} {t u : Ticket}, d.deploys[i]? = some (.underway a t) →
    d.deploys[j]? = some (.underway b u) →
      a.generation = d.generation → b.generation = d.generation → i = j
  vigil : ∀ {v : Vigil}, d.vigil = some v → d.Watching v

theorem coherent_new (settings : Settings) (encoder : Encoder) (mode : ResourceKind) :
    Coherent (new settings encoder mode) where
  calls := by simp [new]
  sole := by simp [new]
  vigil := by simp [new]

/-! ## Calls after one of them went on -/

theorem underway_of_concat_ended {calls : List DeployCall} {i : Nat} {a : Attempt} {t : Ticket}
    {result : Option TxHash} (h : (calls ++ [.ended result])[i]? = some (.underway a t)) :
    calls[i]? = some (.underway a t) :=
  (Calls.get_of_concat h).resolve_right fun hnew => nomatch hnew.2

theorem underway_of_set_ended {calls : List DeployCall} {i j : Nat} {a : Attempt} {t : Ticket}
    {result : Option TxHash} (h : (calls.set j (.ended result))[i]? = some (.underway a t)) :
    calls[i]? = some (.underway a t) ∧ i ≠ j :=
  (Calls.get_of_set h).resolve_right fun hnew => nomatch hnew.2

/-- A call that goes on with another ticket remains a call of its attempt. -/
theorem underway_of_set_underway {calls : List DeployCall} {i j : Nat} {a b : Attempt} {t t' u : Ticket}
    (hget : calls[j]? = some (.underway a t))
    (h : (calls.set j (.underway a t'))[i]? = some (.underway b u)) :
    ∃ u', calls[i]? = some (.underway b u') := by
  rcases Calls.get_of_set h with ⟨hold, -⟩ | ⟨rfl, hnew⟩
  · exact ⟨u, hold⟩
  · obtain ⟨rfl, -⟩ := DeployCall.underway.inj hnew
    exact ⟨t, hget⟩

/-! ## What coherence rules out -/

section Coherent

variable {d : Deployer} {a : Attempt} {t : Ticket}

/-- A current attempt at its transaction is signing or pending. -/
theorem Engaged.status (h : d.Engaged a t) :
    d.state.value.status = .signing ∨ d.state.value.status = .pending := by
  have hshows := h.shows
  cases hawait : t.awaiting with
  | signature =>
    rw [hawait] at hshows
    exact Or.inl hshows.1
  | broadcast =>
    rw [hawait] at hshows
    exact Or.inl hshows.1
  | receipt hash =>
    rw [hawait] at hshows
    exact Or.inr hshows.1

/-- A current attempt at its transaction has not ended. -/
theorem Engaged.not_terminal (h : d.Engaged a t) : d.state.value.status.isTerminal = false := by
  rcases h.status with hs | hs <;> rw [hs] <;> rfl

/-- What a current attempt shows while its receipt is awaited. -/
theorem Engaged.pending {hash : TxHash} (h : d.Engaged a t) (hawait : t.awaiting = .receipt hash) :
    d.state.value.status = .pending := by
  have hshows := h.shows
  rw [hawait] at hshows
  exact hshows.1

/-- What a current attempt shows while its broadcast is awaited. -/
theorem Engaged.signing (h : d.Engaged a t) (hawait : t.awaiting = .broadcast) :
    d.state.value.status = .signing := by
  have hshows := h.shows
  rw [hawait] at hshows
  exact hshows.1

/-- While its receipt is awaited, a current attempt shows the hash. -/
theorem Engaged.txHash_eq {hash : TxHash} (h : d.Engaged a t) (hawait : t.awaiting = .receipt hash) :
    d.state.value.txHash = some hash := by
  have hshows := h.shows
  rw [hawait] at hshows
  exact hshows.2.1

/-- As long as its transaction is under way, no current attempt is confirmed. -/
theorem Engaged.unconfirmed (h : d.Engaged a t) :
    d.tracker.snapshot.status ≠ .idle ∧ d.tracker.snapshot.status ≠ .confirmed := by
  have hshows := h.shows
  cases hawait : t.awaiting with
  | signature =>
    rw [hawait] at hshows
    simp [hshows.2]
  | broadcast =>
    rw [hawait] at hshows
    simp [hshows.2]
  | receipt hash =>
    rw [hawait] at hshows
    simp [hshows.2.2]

/-- A call is of the current attempt just if its submission is the current one. -/
theorem Coherent.engaged_iff {i : Nat} (h : d.Coherent) (hget : d.deploys[i]? = some (.underway a t)) :
    d.Engaged a t ↔ d.tracker.generation = t.generation := by
  constructor
  · exact fun h' => h'.ticket.symm
  · intro heq
    rcases h.calls hget with hold | hcur
    · exact absurd heq.symm (Nat.ne_of_lt hold.ticket)
    · exact hcur

/-- A call belongs to an attempt that has begun. -/
theorem Coherent.generation_le {i : Nat} (h : d.Coherent)
    (hget : d.deploys[i]? = some (.underway a t)) : a.generation ≤ d.generation := by
  rcases h.calls hget with hold | hcur
  · exact Nat.le_of_lt hold.attempt
  · exact Nat.le_of_eq hcur.attempt

/-- Nothing of an attempt is under way while the deployer is idle. -/
theorem Coherent.superseded_of_idle {i : Nat} (h : d.Coherent) (hidle : d.state.value.status = .idle)
    (hget : d.deploys[i]? = some (.underway a t)) : d.Superseded a t := by
  rcases h.calls hget with hold | hcur
  · exact hold
  · rcases hcur.status with hs | hs <;> simp [hidle] at hs

theorem Coherent.vigil_eq_none_of_idle (h : d.Coherent) (hidle : d.state.value.status = .idle) :
    d.vigil = none := by
  cases hv : d.vigil with
  | none => rfl
  | some v =>
    have hs := (h.vigil hv).status
    simp [hidle] at hs

/-- Nobody watches once the current attempt has ended. -/
theorem Coherent.vigil_eq_none_of_terminal (h : d.Coherent)
    (hfinal : d.state.value.status.isTerminal = true) : d.vigil = none := by
  cases hv : d.vigil with
  | none => rfl
  | some v =>
    rw [(h.vigil hv).status] at hfinal
    cases hfinal

end Coherent

/-! ## The attempt that something belongs to -/

/-- The attempt that an event belongs to, if it belongs to one: that of the call which is answered,
or that of the vigil which goes on. -/
def attemptOf (d : Deployer) : Event → Option Nat
  | .answer call _ =>
    match d.deploys[call]? with
    | some (.underway attempt _) => some attempt.generation
    | _ => none
  | .wake => d.vigil.map Vigil.generation
  | .fetched generation _ _ => some generation
  | .subscribed generation _ _ => some generation
  | .batch generation _ _ => some generation
  | .closed generation _ => some generation
  | _ => none

/-- The attempt for which the resource is asked after. -/
def Effect.attempt? : Effect → Option Nat
  | .fetch generation _ _ => some generation
  | .subscribe generation _ _ => some generation
  | _ => none

/-! ## Runs -/

/-- A deployer after events with their surroundings. -/
def run (d : Deployer) (es : List (Moment × Event)) : Deployer :=
  es.foldl (fun d e => (d.handle e.1 e.2).1) d

/-- A deployer after events from the start. -/
def afterAll (settings : Settings) (encoder : Encoder) (mode : ResourceKind)
    (es : List (Moment × Event)) : Deployer :=
  (new settings encoder mode).run es

@[simp] theorem run_nil (d : Deployer) : d.run [] = d := rfl

theorem run_cons (d : Deployer) (e : Moment × Event) (es : List (Moment × Event)) :
    d.run (e :: es) = (d.handle e.1 e.2).1.run es := rfl

theorem run_append (d : Deployer) (es fs : List (Moment × Event)) :
    d.run (es ++ fs) = (d.run es).run fs := List.foldl_append

end Deployer

/-! ## A sample

What the examples of the theory have in common. -/

/-- Settings with a contract, a blueprint and a service, and the defaults of everything else. -/
def Settings.sample : Settings :=
  { contract := .zero, blueprint := ⟨.ofNat 1⟩, sandboxService := ⟨.ofNat 3⟩ }

/-- The same with a limit to the wait for the resource. -/
def Settings.sampleWithin (limit : Span) : Settings := { Settings.sample with provisionTimeout := some limit }

namespace Deployer

/-- Everything entered that a resource needs. -/
def boxInputs : List (Moment × Event) := [
  (⟨0, .epoch, {}⟩, .form { name := "box", image := "debian" }),
  (⟨1, .epoch, {}⟩, .account (some .zero))]

/-- A first attempt, whose transaction is broadcast. -/
def boxSent (hash : TxHash) : List (Moment × Event) :=
  boxInputs ++ [
    (⟨2, .epoch, {}⟩, .deploy),
    (⟨3, .epoch, {}⟩, .answer 0 (.signature (.ok ()))),
    (⟨4, .epoch, {}⟩, .answer 0 (.broadcast (.ok hash)))]

/-- A receipt that gives the number of a job. -/
def jobReceipt : Receipt :=
  ⟨true, [{ address := .zero, event := "JobSubmitted", key := some "7" }], none⟩

end Deployer

end ChainProvision
