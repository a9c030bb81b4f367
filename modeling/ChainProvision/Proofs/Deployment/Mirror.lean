import ChainProvision.Proofs.Deployment.Strategy

/-!
# A deployer mirrors its tracker

A deployer and its tracker have a status each, and generations of their own.  The deployer hears from
the tracker only what the current submission publishes, and each of the two is reset by itself.  All the
same, one can be told from the other.

## Main statements

- `Deployer.Mirrors`: what the state of a deployer says about what its tracker shows.
- `Deployer.Mirrors.turn`: every turn keeps the two in step.
- `Relay.deployer_mirrors_tracker`: so they are in every run, status by status.
-/

namespace ChainProvision

open Deployer

/-- A failure after the transaction was confirmed. -/
def DeployError.FollowsConfirmation (e : DeployError) : Prop := e = .missingCallId ∨ e.IsLoss

namespace Deployer

/-- The state of a deployer whose tracker shows a snapshot, by the status of the snapshot. -/
def InStep (t : TxSnapshot) (s : DeployState) : Prop :=
  match t.status with
  | .idle =>
    t.hash = none ∧
      (s.status = .idle ∨ s.status = .failed ∧ ∃ reason, s.error = some (.encode reason))
  | .signing => s.status = .signing
  | .pending => s.status = .pending
  | .confirmed =>
    s.status = .provisioning ∨ s.status = .ready ∨
      s.status = .failed ∧ ∃ e, s.error = some e ∧ e.FollowsConfirmation
  | .failed => s.status = .failed ∧ ∃ e, t.error = some e ∧ s.error = some (.ofTx e)

/-- What a deployer shows of its transaction is what the tracker shows. -/
structure Mirrors (t : TxSnapshot) (s : DeployState) : Prop where
  inStep : InStep t s
  hash : s.txHash = t.hash
  call : ∀ id, s.call = some id → t.correlation = some id.val
  request : ∀ id, s.request = some id → t.correlation = some id.val

variable {m : Moment} {d d' : Deployer} {e : Event} {effects : List Effect} {t : TxSnapshot}
  {s s' : DeployState}

/-- A state is in step by its status and its error alone. -/
theorem Mirrors.congr (h : Mirrors t s) (hstatus : s'.status = s.status) (herror : s'.error = s.error)
    (hhash : s'.txHash = s.txHash) (hcall : s'.call = s.call) (hrequest : s'.request = s.request) :
    Mirrors t s' where
  inStep := by
    have hstep := h.inStep
    unfold InStep at hstep ⊢
    rw [hstatus, herror]
    exact hstep
  hash := hhash.trans h.hash
  call := hcall ▸ h.call
  request := hrequest ▸ h.request

theorem Mirrors.sameAttempt (h : Mirrors t s) (hsame : s.SameAttempt s') : Mirrors t s' := by
  obtain ⟨mode, serviceError, isNewService, canDeploy, rfl, -⟩ := hsame
  exact h.congr rfl rfl rfl rfl rfl

theorem Mirrors.sameCourse (h : Mirrors t s) (hsame : s.SameCourse s') : Mirrors t s' := by
  obtain ⟨progress, pollError, canDeploy, rfl⟩ := hsame
  exact h.congr rfl rfl rfl rfl rfl

/-- The tracker of an idle deployer is idle. -/
theorem Mirrors.of_idle (h : Mirrors t s) (hidle : s.status = .idle) :
    t.status = .idle ∧ t.hash = none := by
  have hstep := h.inStep
  cases ht : t.status <;> simp_all [InStep]

/-- What the end of a vigil changes is in step with a confirmed transaction. -/
theorem Mirrors.confirmed (h : Mirrors t s) (ht : t.status = .confirmed)
    (hend : s'.status = .ready ∨
      s'.status = .failed ∧ ∃ e, s'.error = some e ∧ e.FollowsConfirmation)
    (hhash : s'.txHash = s.txHash) (hcall : s'.call = s.call) (hrequest : s'.request = s.request) :
    Mirrors t s' where
  inStep := by
    unfold InStep
    rw [ht]
    exact Or.inr hend
  hash := hhash.trans h.hash
  call := hcall ▸ h.call
  request := hrequest ▸ h.request

/-- A deployer whose transaction is not confirmed yet knows of no call and no request. -/
theorem Mirrors.unnumbered (h : Mirrors t s) (hnone : t.correlation = none) :
    s.call = none ∧ s.request = none := by
  constructor
  · cases hcall : s.call with
    | none => rfl
    | some id => exact absurd (h.call id hcall) (by simp [hnone])
  · cases hrequest : s.request with
    | none => rfl
    | some id => exact absurd (h.request id hrequest) (by simp [hnone])

/-- Before the receipt, the tracker shows no number. -/
theorem Engaged.unnumbered {a : Attempt} {ticket : Ticket} (h : d.Engaged a ticket) :
    d.tracker.snapshot.correlation = none := by
  have hshows := h.shows
  cases hawait : ticket.awaiting with
  | signature | broadcast =>
    rw [hawait] at hshows
    rw [hshows.2]
  | receipt hash =>
    rw [hawait] at hshows
    rw [hshows.2.2]

/-- **Every turn keeps a deployer and its tracker in step.** -/
theorem Mirrors.turn (hm : Mirrors d.tracker.snapshot d.state.value) (h : d.Coherent)
    (hturn : Turn m d e d' effects) : Mirrors d'.tracker.snapshot d'.state.value := by
  cases hturn with
  | ignored | declined | signed | lapsed | atRest => exact hm
  | entered _ _ _ hsame _ _ => exact hm.sameAttempt hsame
  | unmanned _ hidle hstate =>
    -- The deployer stays idle, though with an error.
    obtain ⟨ht, hhash⟩ := hm.of_idle hidle
    refine ⟨?_, by simp [hstate, hm.hash], by simpa [hstate] using hm.call,
      by simpa [hstate] using hm.request⟩
    simp [InStep, ht, hhash, hstate, hidle]
  | refused _ hidle hstate =>
    -- The attempt fails before the tracker hears of it, which is idle as it was.
    obtain ⟨ht, hhash⟩ := hm.of_idle hidle
    refine ⟨?_, ?_, ?_, ?_⟩
    · simp [InStep, ht, hhash, hstate]
    · simp [hstate, hhash, claim, DeployState.clearAttempt]
    · simp [hstate, claim, DeployState.clearAttempt]
    · simp [hstate, claim, DeployState.clearAttempt]
  | opened _ _ hstate =>
    -- Both begin anew.
    refine ⟨?_, ?_, ?_, ?_⟩
    · simp [InStep, hstate]
    · simp [hstate, claim, DeployState.clearAttempt]
    · simp [hstate, claim, DeployState.clearAttempt]
    · simp [hstate, claim, DeployState.clearAttempt]
  | sent _ hengaged _ hstate =>
    obtain ⟨hcall, hrequest⟩ := hm.unnumbered hengaged.unnumbered
    exact ⟨by simp [InStep, hstate], by simp [hstate], by simp [hstate, hcall],
      by simp [hstate, hrequest]⟩
  | fell _ _ _ hstate =>
    -- The tracker keeps the hash that it had, and so does the deployer.
    exact ⟨by simp [InStep, hstate], by simp [hstate, hm.hash], by simpa [hstate] using hm.call,
      by simpa [hstate] using hm.request⟩
  | unnumbered _ hengaged hawait hstate _ =>
    obtain ⟨hcall, hrequest⟩ := hm.unnumbered hengaged.unnumbered
    refine ⟨?_, by simp [hstate, hengaged.txHash_eq hawait], by simp [hstate, hcall],
      by simp [hstate, hrequest]⟩
    simp [InStep, hstate, DeployError.FollowsConfirmation]
  | @awaited i a ticket hash r number journal v s canDeploy state _ hengaged hawait _ hs hstate _ =>
    obtain ⟨hcall, hrequest⟩ := hm.unnumbered hengaged.unnumbered
    have hcourse : s.SameCourse state.value := hstate ▸ v.lookout.sameCourse_shown s canDeploy
    refine Mirrors.sameCourse ?_ hcourse
    -- The number is that of the call or of the request, as the route has it.
    subst hs
    cases a.route with
    | job service =>
      exact ⟨by simp [InStep], by simp [quarryOf, awaiting, hengaged.txHash_eq hawait],
        by simp [quarryOf, awaiting], by simp [quarryOf, awaiting, hrequest]⟩
    | newService =>
      exact ⟨by simp [InStep], by simp [quarryOf, awaiting, hengaged.txHash_eq hawait],
        by simp [quarryOf, awaiting, hcall], by simp [quarryOf, awaiting]⟩
  | looked _ _ _ _ _ hcourse _ _ _ => exact hm.sameCourse hcourse
  | found hv _ hs hcourse _ =>
    refine Mirrors.sameCourse ?_ hcourse
    subst hs
    exact hm.confirmed (h.vigil hv).confirmed (Or.inl rfl) rfl rfl rfl
  | @lost e v loss s state hv _ hloss hs hcourse _ =>
    refine Mirrors.sameCourse ?_ hcourse
    subst hs
    exact hm.confirmed (h.vigil hv).confirmed (Or.inr ⟨rfl, loss, rfl, Or.inr hloss⟩) rfl rfl rfl
  | discarded hstate =>
    -- Both are reset.
    exact ⟨by simp [InStep, hstate, DeployState.clearAttempt],
      by simp [hstate, DeployState.clearAttempt], by simp [hstate, DeployState.clearAttempt],
      by simp [hstate, DeployState.clearAttempt]⟩

theorem mirrors_new (settings : Settings) (encoder : Encoder) (mode : ResourceKind) :
    Mirrors (new settings encoder mode).tracker.snapshot (new settings encoder mode).state.value where
  inStep := ⟨rfl, Or.inl rfl⟩
  hash := rfl
  call := fun _ h => nomatch h
  request := fun _ h => nomatch h

end Deployer

/-! ## The status of one from that of the other -/

theorem DeployError.ofTx_ne_encode (e : TxError) (reason : String) : ofTx e ≠ .encode reason := by
  cases e <;> simp [ofTx]

theorem DeployError.not_followsConfirmation_ofTx (e : TxError) :
    ¬ (ofTx e).FollowsConfirmation := by
  cases e <;> simp [ofTx, FollowsConfirmation, IsLoss]

theorem DeployError.not_followsConfirmation_encode (reason : String) :
    ¬ (encode reason).FollowsConfirmation := by
  simp [FollowsConfirmation, IsLoss]

namespace Deployer

variable {t : TxSnapshot} {s : DeployState}

/-- The failures of a deployer are of three kinds, and each kind goes with one status of the tracker. -/
theorem InStep.statuses (h : InStep t s) :
    (t.status = .idle ↔
      s.status = .idle ∨ s.status = .failed ∧ ∃ reason, s.error = some (.encode reason)) ∧
    (t.status = .signing ↔ s.status = .signing) ∧
    (t.status = .pending ↔ s.status = .pending) ∧
    (t.status = .confirmed ↔
      s.status = .provisioning ∨ s.status = .ready ∨
        s.status = .failed ∧ ∃ e, s.error = some e ∧ e.FollowsConfirmation) ∧
    (t.status = .failed ↔
      s.status = .failed ∧ ∃ e, t.error = some e ∧ s.error = some (.ofTx e)) := by
  unfold InStep at h
  -- Each status of the tracker leaves few states, all of which the other four rule out.
  cases ht : t.status with
  | idle =>
    rw [ht] at h
    obtain ⟨-, hs | ⟨hs, reason, herror⟩⟩ := h
    · simp [hs]
    · have hother := fun e => (DeployError.ofTx_ne_encode e reason).symm
      simp [hs, herror, hother, DeployError.not_followsConfirmation_encode]
  | signing =>
    rw [ht] at h
    replace h : s.status = .signing := h
    simp [h]
  | pending =>
    rw [ht] at h
    replace h : s.status = .pending := h
    simp [h]
  | confirmed =>
    rw [ht] at h
    obtain hs | hs | ⟨hs, e, herror, he⟩ := h
    · simp [hs]
    · simp [hs]
    · have hcoded : ∀ reason, e ≠ .encode reason := by
        rintro reason rfl
        exact DeployError.not_followsConfirmation_encode reason he
      have hsent : ∀ x, e ≠ .ofTx x := by
        rintro x rfl
        exact DeployError.not_followsConfirmation_ofTx x he
      simp [hs, herror, he, hcoded, hsent]
  | failed =>
    rw [ht] at h
    obtain ⟨hs, e, herror, hshown⟩ := h
    have hcoded := DeployError.ofTx_ne_encode e
    simp [hs, herror, hshown, hcoded, DeployError.not_followsConfirmation_ofTx]

end Deployer

namespace Relay

/-- **A deployer mirrors its tracker.**  After any events and looks, each status of the tracker goes
with just these states of the deployer; the hash is the same, and the number that the deployer knows its
call or request by is that of the tracker. -/
theorem deployer_mirrors_tracker (settings : Settings) (encoder : Encoder) (mode : ResourceKind)
    (xs : List (Moment × Occurrence)) :
    let d := ((Relay.of (new settings encoder mode)).run xs).deployer
    let t := d.tracker.snapshot
    let s := d.state.value
    (t.status = .idle ↔
      s.status = .idle ∨ s.status = .failed ∧ ∃ reason, s.error = some (.encode reason)) ∧
    (t.status = .signing ↔ s.status = .signing) ∧
    (t.status = .pending ↔ s.status = .pending) ∧
    (t.status = .confirmed ↔
      s.status = .provisioning ∨ s.status = .ready ∨
        s.status = .failed ∧ ∃ e, s.error = some e ∧ e.FollowsConfirmation) ∧
    (t.status = .failed ↔
      s.status = .failed ∧ ∃ e, t.error = some e ∧ s.error = some (.ofTx e)) ∧
    s.txHash = t.hash ∧
    (∀ id, s.call = some id → t.correlation = some id.val) ∧
    (∀ id, s.request = some id → t.correlation = some id.val) := by
  intro d t s
  have hm : Mirrors t s := (level_new settings encoder mode).keeps_run
    (P := fun d => Mirrors d.tracker.snapshot d.state.value) (mirrors_new settings encoder mode)
    (fun d hd => by simpa using hd) (fun h _ hturn hd => hd.turn h hturn) xs
  obtain ⟨hidle, hsigning, hpending, hconfirmed, hfailed⟩ := hm.inStep.statuses
  exact ⟨hidle, hsigning, hpending, hconfirmed, hfailed, hm.hash, hm.call, hm.request⟩

end Relay

end ChainProvision
