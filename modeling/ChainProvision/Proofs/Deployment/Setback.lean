import ChainProvision.Proofs.Deployment.Aftermath
import ChainProvision.Proofs.Deployment.Journalled
import ChainProvision.Proofs.Deployment.Runs
import ChainProvision.Proofs.Deployment.Stages

/-!
# What an attempt that fails at its transaction leaves behind

The wallet may refuse, the broadcast may fail, the receipt may not come or tell of a revert.  Whichever
it is, the attempt shows its failure and nothing else of it is left: the shelf is as it was, nobody was
asked after a resource, and only a transaction that was broadcast is found in the journal, as one that
has failed.

## Main definitions

- `Awaiting.Fails`: how an attempt fails, by what it waited for and what it was told;
- `Deployer.Carried`: an attempt at its transaction, and all that it has left behind so far;
- `Deployer.Booked`: how the journal stands to that of all other calls meanwhile.

## Main statements

- `Awaiting.fails_iff`: a failure of the transaction is what its tracker takes for one.
- `Deployer.Carried.run`: what is left behind while the attempt goes on.
- `Deployer.failure_leaves_its_error`: what is left behind by one that fails.
-/

namespace ChainProvision

/-! ## Failures -/

/-- How an attempt fails at its transaction, by what it waited for and what it was told. -/
inductive Awaiting.Fails : Awaiting → Answer → DeployError → Prop where
  | rejected {e : WalletError} : e.isRejection = true →
      Fails .signature (.signature (.error e)) .walletRejected
  | unsigned {e : WalletError} : e.isRejection = false →
      Fails .signature (.signature (.error e)) (.wallet e.message)
  | unsent {e : ChainError} : Fails .broadcast (.broadcast (.error e)) (.broadcastFailed e.detail)
  /-- The client reports a revert as a missing receipt. -/
  | revertReported {hash : TxHash} {e : ChainError} : Text.occursFolded "revert" e.detail = true →
      Fails (.receipt hash) (.receipt (.error e)) (.reverted (RevertReason.short e.detail))
  | unseen {hash : TxHash} {e : ChainError} : Text.occursFolded "revert" e.detail = false →
      Fails (.receipt hash) (.receipt (.error e)) (.receipt e.detail)
  | reverted {hash : TxHash} {r : Receipt} {reason : String} : r.succeeded = false →
      r.revertReason = some reason →
      Fails (.receipt hash) (.receipt (.ok r)) (.reverted (RevertReason.short reason))
  | revertedSilently {hash : TxHash} {r : Receipt} : r.succeeded = false → r.revertReason = none →
      Fails (.receipt hash) (.receipt (.ok r)) (.reverted "Transaction reverted")

/-- **A failure of the transaction is what its tracker takes for one**, in the words of the deployment. -/
theorem Awaiting.fails_iff {w : Awaiting} {answer : Answer} {e : DeployError} :
    w.Fails answer e ↔ ∃ tx, Tracker.failureOf? w answer = some tx ∧ DeployError.ofTx tx = e := by
  constructor
  · intro h
    cases h with
    | rejected h => exact ⟨_, rfl, by simp [Tracker.signingFailure, h, DeployError.ofTx]⟩
    | unsigned h => exact ⟨_, rfl, by simp [Tracker.signingFailure, h, DeployError.ofTx]⟩
    | unsent => exact ⟨_, rfl, rfl⟩
    | revertReported h => exact ⟨_, rfl, by simp [Tracker.receiptFailure, h, DeployError.ofTx]⟩
    | unseen h => exact ⟨_, rfl, by simp [Tracker.receiptFailure, h, DeployError.ofTx]⟩
    | reverted h hreason =>
      exact ⟨_, by simp [Tracker.failureOf?, h]; rfl,
        by simp [Tracker.revertFailure, hreason, DeployError.ofTx]⟩
    | revertedSilently h hreason =>
      exact ⟨_, by simp [Tracker.failureOf?, h]; rfl,
        by simp [Tracker.revertFailure, hreason, DeployError.ofTx]⟩
  · rintro ⟨tx, hfailure, rfl⟩
    cases w with
    | signature =>
      rcases answer with (e | ⟨⟩) | _ | _
      · obtain rfl := Option.some.inj hfailure
        cases hrejected : e.isRejection with
        | true => simpa [Tracker.signingFailure, hrejected, DeployError.ofTx] using Fails.rejected hrejected
        | false => simpa [Tracker.signingFailure, hrejected, DeployError.ofTx] using Fails.unsigned hrejected
      · cases hfailure
      · cases hfailure
      · cases hfailure
    | broadcast =>
      rcases answer with _ | (e | hash) | _
      · cases hfailure
      · obtain rfl := Option.some.inj hfailure
        exact .unsent
      · cases hfailure
      · cases hfailure
    | receipt hash =>
      rcases answer with _ | _ | (e | r)
      · cases hfailure
      · cases hfailure
      · obtain rfl := Option.some.inj hfailure
        cases hrevert : Text.occursFolded "revert" e.detail with
        | true =>
          simpa [Tracker.receiptFailure, hrevert, DeployError.ofTx] using Fails.revertReported hrevert
        | false => simpa [Tracker.receiptFailure, hrevert, DeployError.ofTx] using Fails.unseen hrevert
      · simp only [Tracker.failureOf?] at hfailure
        split at hfailure
        · cases hfailure
        · rename_i hr
          obtain rfl := Option.some.inj hfailure
          have hr : r.succeeded = false := eq_false_of_ne_true hr
          cases hreason : r.revertReason with
          | some reason =>
            simpa [Tracker.revertFailure, hreason, DeployError.ofTx] using Fails.reverted hr hreason
          | none =>
            simpa [Tracker.revertFailure, hreason, DeployError.ofTx] using Fails.revertedSilently hr hreason

/-- A failure settles the entry of a transaction that was broadcast, and writes nothing otherwise. -/
theorem Awaiting.Fails.journalAfter {t : Ticket} {answer : Answer} {e : DeployError}
    (h : t.awaiting.Fails answer e) (m : Moment) (J : Journal) :
    Tracker.journalAfter m J t answer =
      match t.awaiting with
      | .receipt hash => Tracker.settled m J hash .failed
      | _ => J := by
  obtain ⟨generation, submission, awaiting⟩ := t
  cases h with
  | reverted hr => simp [Tracker.journalAfter, hr]
  | revertedSilently hr => simp [Tracker.journalAfter, hr]
  | _ => rfl

namespace Deployer

variable {m : Moment} {d d' : Deployer} {e : Event} {effects : List Effect} {i : Nat} {a a' : Attempt}
  {t t' : Ticket}

/-! ## While the transaction is under way -/

/-- How the submission of a call goes on with an event that does not end it. -/
inductive Goes (i : Nat) (t : Ticket) : Event → Ticket → Prop where
  /-- The event is none that it waits for. -/
  | waits {e : Event} : (∀ answer, e = .answer i answer → t.awaiting.fits answer = false) → Goes i t e t
  | signed : t.awaiting = .signature →
      Goes i t (.answer i (.signature (.ok ()))) { t with awaiting := .broadcast }
  | sent {hash : TxHash} : t.awaiting = .broadcast →
      Goes i t (.answer i (.broadcast (.ok hash))) { t with awaiting := .receipt hash }

theorem Goes.submission_eq (h : Goes i t e t') : t'.submission = t.submission := by
  cases h <;> rfl

/-- A turn that does not end the call of the current attempt leaves the shelf alone, and nobody is asked
after a resource. -/
theorem Engaged.goes (hengaged : d.Engaged a t) (h : d.Coherent)
    (hget : d.deploys[i]? = some (.underway a t)) (hturn : Turn m d e d' effects) (hreset : e ≠ .reset)
    (hnext : d'.deploys[i]? = some (.underway a' t')) :
    a' = a ∧ Goes i t e t' ∧ d'.generation = d.generation ∧ d'.shelf = d.shelf ∧ Silent effects := by
  have hsame : ∀ {b : Attempt} {u : Ticket}, d.deploys[i]? = some (.underway b u) → b = a ∧ u = t :=
    fun hget' => DeployCall.underway.inj (Option.some.inj (hget'.symm.trans hget))
  -- The call is not answered, and stays where it is.
  have hstay : d.deploys[i]? = some (.underway a' t') → (∀ answer, e = .answer i answer → False) →
      a' = a ∧ Goes i t e t' := by
    intro hstays hother
    obtain ⟨rfl, rfl⟩ := hsame hstays
    exact ⟨rfl, .waits fun answer he => (hother answer he).elim⟩
  -- Another call of the current attempt there is not.
  have hsole : ∀ {j : Nat} {b : Attempt} {u : Ticket}, d.deploys[j]? = some (.underway b u) →
      d.Engaged b u → j = i := fun hj hcur => h.sole hj hget hcur.attempt hengaged.attempt
  have hbusy : d.state.value.status ≠ .idle := by
    rcases hengaged.status with hs | hs <;> simp [hs]
  cases hturn with
  | ignored _ _ hfits =>
    obtain ⟨rfl, rfl⟩ := hsame hnext
    exact ⟨rfl, .waits fun answer he => hfits he hget, rfl, rfl, by simp [Silent]⟩
  | entered _ _ hattempt _ hsilent _ =>
    obtain ⟨rfl, hgoes⟩ := hstay hnext (by
      rintro answer rfl
      simp [attemptOf, hget] at hattempt)
    exact ⟨rfl, hgoes, rfl, rfl, hsilent⟩
  | declined =>
    obtain ⟨rfl, hgoes⟩ := hstay (underway_of_concat_ended hnext) (by rintro _ ⟨⟩)
    exact ⟨rfl, hgoes, rfl, rfl, by simp [Silent]⟩
  | unmanned _ hs => exact absurd hs hbusy
  | refused _ hs => exact absurd hs hbusy
  | opened _ hs => exact absurd hs hbusy
  | @signed j b u hj hawait =>
    rcases Calls.get_of_set hnext with ⟨hold, hne⟩ | ⟨rfl, hnew⟩
    · obtain ⟨rfl, hgoes⟩ := hstay hold (by
        rintro answer heq
        cases heq
        exact hne rfl)
      exact ⟨rfl, hgoes, rfl, rfl, by simp [Silent, Effect.attempt?]⟩
    · obtain ⟨rfl, rfl⟩ := hsame hj
      obtain ⟨rfl, rfl⟩ := DeployCall.underway.inj hnew
      exact ⟨rfl, .signed hawait, rfl, rfl, by simp [Silent, Effect.attempt?]⟩
  | lapsed hj _ _ _ =>
    obtain ⟨hold, hne⟩ := underway_of_set_ended hnext
    obtain ⟨rfl, hgoes⟩ := hstay hold (by
      rintro answer heq
      cases heq
      exact hne rfl)
    exact ⟨rfl, hgoes, rfl, rfl, by simp [Silent]⟩
  | @sent j b u hash journal canDeploy state hj hcur hawait hstate =>
    obtain rfl := hsole hj hcur
    obtain ⟨rfl, rfl⟩ := hsame hj
    rcases Calls.get_of_set hnext with ⟨-, hne⟩ | ⟨-, hnew⟩
    · exact absurd rfl hne
    · obtain ⟨rfl, rfl⟩ := DeployCall.underway.inj hnew
      exact ⟨rfl, .sent hawait, rfl, rfl, by simp [Silent, Effect.attempt?]⟩
  | fell hj hcur => exact absurd (hsole hj hcur).symm (underway_of_set_ended hnext).2
  | unnumbered hj hcur => exact absurd (hsole hj hcur).symm (underway_of_set_ended hnext).2
  | awaited hj hcur => exact absurd (hsole hj hcur).symm (underway_of_set_ended hnext).2
  | looked hv => simp [hengaged.unwatched] at hv
  | found hv => simp [hengaged.unwatched] at hv
  | lost hv => simp [hengaged.unwatched] at hv
  | atRest hs => exact absurd hs hbusy
  | discarded => exact absurd rfl hreset

/-- An attempt at its transaction, with what was there when it began and is so still. -/
structure Carried (d : Deployer) (i : Nat) (s : Submission) (shelf : Shelf) (t : Ticket) : Prop where
  coherent : d.Coherent
  staged : d.Staged
  engaged : ∃ a, d.deploys[i]? = some (.underway a t) ∧ d.Engaged a t
  submission : t.submission = s
  shelf : d.shelf = shelf

variable {s : Submission} {shelf : Shelf}

theorem Carried.handle (hc : d.Carried i s shelf t) (hreset : e ≠ .reset) (m : Moment)
    (hnext : (d.handle m e).1.deploys[i]? = some (.underway a' t')) :
    (d.handle m e).1.Carried i s shelf t' ∧ Goes i t e t' ∧ Silent (d.handle m e).2 := by
  obtain ⟨h, hstaged, ⟨a, hget, hengaged⟩, hsubmission, hshelf⟩ := hc
  have hcoherent := h.handle m e
  have hstaged' := hstaged.handle h m e
  rcases handled h m e with ⟨hgone, -⟩ | ⟨-, d', effects, hturn, heq⟩
  · exact absurd hget (not_underway_of_isGone hgone i a t)
  · -- A deployer with a call under way does not end.
    have hthere : d'.settleRelease = d' := by
      refine if_neg fun hgone => not_underway_of_isGone hgone i a' t' ?_
      rw [heq, settleRelease_deploys] at hnext
      exact hnext
    rw [heq, hthere] at hcoherent hstaged' hnext ⊢
    obtain ⟨rfl, hgoes, hgeneration, hshelf', hsilent⟩ := hengaged.goes h hget hturn hreset hnext
    have hengaged' : d'.Engaged a' t' := by
      refine (hcoherent.calls hnext).resolve_left fun hold => ?_
      exact Nat.ne_of_lt hold.attempt (hengaged.attempt.trans hgeneration.symm)
    exact ⟨⟨hcoherent, hstaged', ⟨_, hnext, hengaged'⟩, hgoes.submission_eq.trans hsubmission,
      hshelf'.trans hshelf⟩, hgoes, hsilent⟩

/-! ## The journal meanwhile -/

/-- How the journal stands to that of all other calls: nothing is written before the broadcast, and
then, if the call of the journal works and no other transaction has the same hash, there is one entry
more. -/
def Booked (works : Prop) (others : Journal) (journal : Journal) (label : String) : Awaiting → Prop
  | .signature => journal = others
  | .broadcast => journal = others
  | .receipt hash => works → ¬ others.Has hash → ∃ status, others.Gains journal hash label status

variable {works : Prop} {J : Journal}

/-- **What a call that goes on writes to the journal** is one entry at its broadcast. -/
theorem Booked.goes (hbooked : Booked works J d.journal t.submission.label t.awaiting) (h : d.Coherent)
    (hget : d.deploys[i]? = some (.underway a t)) (hgoes : Goes i t e t')
    (hworks : works → m.outage.append = false) :
    Booked works (d.journalBeside i m J e) (d.handle m e).1.journal t'.submission.label t'.awaiting := by
  cases hgoes with
  | waits hfits =>
    have hjournal : (d.handle m e).1.journal = d.journalBeside i m d.journal e := by
      by_cases hown : ∃ answer, e = .answer i answer
      · -- The answer is to something else, and writes nothing.
        obtain ⟨answer, rfl⟩ := hown
        have hunfit := hfits answer rfl
        rw [journal_handle h]
        simp only [journalOf_of_underway hget, journalBeside, if_true]
        obtain ⟨generation, submission, awaiting⟩ := t
        cases awaiting <;> cases answer <;> first | rfl | cases hunfit
      · exact journal_handle_beside h (fun answer he => hown ⟨answer, he⟩) m
    rw [hjournal]
    cases hawait : t.awaiting with
    | signature =>
      rw [hawait] at hbooked
      exact congrArg (d.journalBeside i m · e) hbooked
    | broadcast =>
      rw [hawait] at hbooked
      exact congrArg (d.journalBeside i m · e) hbooked
    | receipt hash =>
      rw [hawait] at hbooked
      intro hworks hnew
      obtain ⟨status, hgains⟩ := hbooked hworks (not_has_journalBeside hnew)
      exact gains_journalBeside hgains hnew
  | signed hawait =>
    rw [hawait] at hbooked
    rw [journal_handle h]
    simp only [journalOf_of_underway hget, journalBeside, if_true, Tracker.journalAfter, hawait]
    exact hbooked
  | @sent hash hawait =>
    rw [hawait] at hbooked
    obtain rfl : d.journal = J := hbooked
    rw [journal_handle h]
    simp only [journalOf_of_underway hget, journalBeside, if_true, Tracker.journalAfter, hawait]
    exact fun hworks' _ => ⟨_, Journal.gains_recorded (hworks hworks') _ _ _⟩

/-- **While an attempt is at its transaction**, it leaves nothing behind but at most an entry in the
journal. -/
theorem Carried.run (hc : d.Carried i s shelf t) (hbooked : Booked works J d.journal s.label t.awaiting)
    {es : List (Moment × Event)} (hes : ∀ x ∈ es, x.2 ≠ .reset)
    (hworks : ∀ x ∈ es, works → x.1.outage.append = false)
    (hget : (d.run es).deploys[i]? = some (.underway a' t')) :
    (d.run es).Carried i s shelf t' ∧
      Booked works (d.journalOfOthers i J es) (d.run es).journal s.label t'.awaiting ∧
      Silent (d.requests es) := by
  induction es generalizing d t J with
  | nil =>
    obtain ⟨a, hget', -⟩ := hc.engaged
    obtain ⟨rfl, rfl⟩ := DeployCall.underway.inj (Option.some.inj (hget'.symm.trans hget))
    exact ⟨hc, hbooked, fun _ hmem => nomatch hmem⟩
  | cons x es ih =>
    obtain ⟨a, hget', hengaged⟩ := hc.engaged
    -- As it is under way in the end, the call is so after the first event.
    obtain ⟨b, u, hnext⟩ := underway_of_run (hc.coherent.handle x.1 x.2)
      (Nat.lt_of_lt_of_le (Calls.lt_of_get hget') (length_deploys_le_handle hc.coherent x.1 x.2)) hget
    obtain ⟨hcarried, hgoes, hsilent⟩ := hc.handle (hes x List.mem_cons_self) x.1 hnext
    have hsubmission := hgoes.submission_eq
    have hbooked' : Booked works (d.journalBeside i x.1 J x.2) (d.handle x.1 x.2).1.journal s.label
        u.awaiting := by
      rw [← hc.submission] at hbooked ⊢
      rw [← hsubmission]
      exact hbooked.goes hc.coherent hget' hgoes (hworks x List.mem_cons_self)
    obtain ⟨hend, hbooks, hsilent'⟩ := ih hcarried hbooked' (fun y hy => hes y (List.mem_cons_of_mem _ hy))
      (fun y hy => hworks y (List.mem_cons_of_mem _ hy)) hget
    exact ⟨hend, hbooks, hsilent.append hsilent'⟩

/-! ## The beginning and the failure -/

/-- A deployer with a call under way does not end. -/
theorem settleRelease_of_underway (hget : d.deploys[i]? = some (.underway a t)) : d.settleRelease = d :=
  if_neg fun hgone => not_underway_of_isGone hgone i a t hget

private theorem Turn.opens {route : Route} {name : Name} (hturn : Turn m d .deploy d' effects)
    (hopening : d.opening = .open route name s) :
    ∃ a t, d'.deploys[d.deploys.length]? = some (.underway a t) ∧ a.generation = d'.generation ∧
      t.awaiting = .signature ∧ t.submission = s ∧ d'.shelf = d.shelf ∧ Silent effects := by
  cases hturn with
  | ignored hdeploy => exact absurd rfl hdeploy
  | entered hdeploy => exact absurd rfl hdeploy
  | declined hopening' => cases hopening.symm.trans hopening'
  | unmanned hopening' => cases hopening.symm.trans hopening'
  | refused hopening' => cases hopening.symm.trans hopening'
  | opened hopening' =>
    obtain ⟨rfl, rfl, rfl⟩ := Opening.open.inj (hopening.symm.trans hopening')
    exact ⟨_, _, List.getElem?_concat_length, rfl, rfl, rfl, rfl, by simp [Silent, Effect.attempt?]⟩
  | looked _ he => cases he
  | found _ he => cases he
  | lost _ he => cases he

/-- An attempt that opens begins at its transaction, and has left nothing behind. -/
theorem carried_open {route : Route} {name : Name} (h : d.Coherent) (hstaged : d.Staged)
    (hthere : d.isGone = false) (hopening : d.opening = .open route name s) (m : Moment) :
    ∃ t, t.awaiting = .signature ∧ (d.handle m .deploy).1.Carried d.deploys.length s d.shelf t ∧
      Silent (d.handle m .deploy).2 := by
  have hcoherent := h.handle m .deploy
  have hstaged' := hstaged.handle h m .deploy
  rcases handled h m .deploy with ⟨hgone, -⟩ | ⟨-, d', effects, hturn, heq⟩
  · rw [hthere] at hgone
    cases hgone
  · obtain ⟨a, t, hget, hcur, hawait, hsubmission, hshelf, hsilent⟩ := hturn.opens hopening
    rw [heq, settleRelease_of_underway hget] at hcoherent hstaged' ⊢
    have hengaged : d'.Engaged a t :=
      (hcoherent.calls hget).resolve_left fun hold => Nat.ne_of_lt hold.attempt hcur
    exact ⟨t, hawait, ⟨hcoherent, hstaged', ⟨a, hget, hengaged⟩, hsubmission, hshelf⟩, hsilent⟩

/-- The call ends without a hash, whatever the failure. -/
private theorem deploys_of_failure {answer : Answer} {tx : TxError}
    (hget : d.deploys[i]? = some (.underway a t)) (hfailure : Tracker.failureOf? t.awaiting answer = some tx)
    (m : Moment) : (d.answered m i answer).1.deploys[i]? = some (.ended none) := by
  have hp := Tracker.resumed_resume m d.tracker d.journal t answer
  have hset : ∀ d' : Deployer, d'.deploys = d.deploys →
      (d'.deploys.set i (.ended none))[i]? = some (.ended none) := by
    intro d' heq
    rw [heq]
    exact List.getElem?_set_self (Calls.lt_of_get hget)
  unfold answered
  rw [hget]
  dsimp only
  generalize d.tracker.resume m d.journal t answer = p at hp
  cases hp with
  | unasked hfits =>
    obtain ⟨generation, submission, awaiting⟩ := t
    cases awaiting <;> cases answer <;> first | cases hfailure | cases hfits
  | signed hawait => simp [hawait, Tracker.failureOf?] at hfailure
  | unseen => exact hset _ rfl
  | sent _ hawait => simp [hawait, Tracker.failureOf?] at hfailure
  | failed =>
    refine hset _ ?_
    simp only [List.foldl_cons, List.foldl_nil, showTx, update]
    split <;> rfl
  | confirmed _ hawait hr => simp [hawait, Tracker.failureOf?, hr] at hfailure

/-- The one turn that ends the call of the current attempt without a hash. -/
private theorem Engaged.falls {answer : Answer} (hengaged : d.Engaged a t)
    (hget : d.deploys[i]? = some (.underway a t)) (hturn : Turn m d (.answer i answer) d' effects)
    (hended : d'.deploys[i]? = some (.ended none)) :
    ∃ tx canDeploy, Tracker.failureOf? t.awaiting answer = some tx ∧
      d'.state.value =
        { d.state.value with error := some (.ofTx tx), status := .failed, canDeploy } ∧
      d'.shelf = d.shelf ∧ effects = [] := by
  have hsame : ∀ {b : Attempt} {u : Ticket}, d.deploys[i]? = some (.underway b u) → b = a ∧ u = t :=
    fun hget' => DeployCall.underway.inj (Option.some.inj (hget'.symm.trans hget))
  have hset : ∀ {call : DeployCall}, (d.deploys.set i call)[i]? = some (.ended none) → call = .ended none :=
    fun hcall => Option.some.inj ((List.getElem?_set_self (Calls.lt_of_get hget)).symm.trans hcall)
  cases hturn with
  | ignored => cases hget.symm.trans hended
  | entered => cases hget.symm.trans hended
  | signed => cases hset hended
  | lapsed hj hold =>
    obtain ⟨rfl, rfl⟩ := hsame hj
    exact absurd hengaged.attempt (Nat.ne_of_lt hold.attempt)
  | sent => cases hset hended
  | fell hj _ hfailure hstate =>
    obtain ⟨rfl, rfl⟩ := hsame hj
    exact ⟨_, _, hfailure, hstate, rfl, rfl⟩
  | unnumbered => cases hset hended
  | awaited => cases hset hended
  | looked hv => simp [hengaged.unwatched] at hv
  | found hv => simp [hengaged.unwatched] at hv
  | lost hv => simp [hengaged.unwatched] at hv

/-- What an attempt shows that has failed at its transaction. -/
structure Fell (d : Deployer) (e : DeployError) : Prop where
  status : d.state.value.status = .failed
  error : d.state.value.error = some e
  call : d.state.value.call = none
  request : d.state.value.request = none
  provision : d.state.value.provision = none

theorem Fell.sameAttempt {e : DeployError} (h : d.Fell e)
    (hsame : d.state.value.SameAttempt d'.state.value) : d'.Fell e := by
  obtain ⟨_, _, _, _, hstate, -⟩ := hsame
  obtain ⟨hstatus, herror, hcall, hrequest, hprovision⟩ := h
  constructor <;> simp [hstate, hstatus, herror, hcall, hrequest, hprovision]

/-- **The failure of the transaction is shown, and ends the attempt.** -/
theorem Carried.fails {answer : Answer} {e : DeployError} (hc : d.Carried i s shelf t)
    (hfails : t.awaiting.Fails answer e) (m : Moment) :
    (d.handle m (.answer i answer)).1.deploys[i]? = some (.ended none) ∧
      (d.handle m (.answer i answer)).1.Fell e ∧ (d.handle m (.answer i answer)).1.shelf = shelf ∧
      (d.handle m (.answer i answer)).1.journal = Tracker.journalAfter m d.journal t answer ∧
      Silent (d.handle m (.answer i answer)).2 := by
  obtain ⟨h, hstaged, ⟨a, hget, hengaged⟩, -, hshelf⟩ := hc
  obtain ⟨tx, hfailure, rfl⟩ := Awaiting.fails_iff.mp hfails
  have hthere : d.isGone = false := by
    cases hgone : d.isGone with
    | false => rfl
    | true => exact absurd hget (not_underway_of_isGone hgone i a t)
  have hhandle : d.handle m (.answer i answer) =
      ((d.answered m i answer).1.settleRelease, (d.answered m i answer).2) := by
    simp [Deployer.handle, hthere, step]
  have hended := deploys_of_failure hget hfailure m
  obtain ⟨tx', canDeploy, hfailure', hstate, hshelf', heffects⟩ :=
    hengaged.falls hget (turn_answered m h i answer) hended
  obtain rfl := Option.some.inj (hfailure.symm.trans hfailure')
  -- Before its confirmation nothing is known of the resource of an attempt.
  obtain ⟨hcall, hrequest, hprovision, -⟩ : d.state.value.Blank := by
    rcases hengaged.status with hs | hs
    · exact (hstaged.stage.of_signing hs).1
    · exact (hstaged.stage.of_pending hs).1
  have hjournal := journal_answered m d i answer
  rw [journalOf_of_underway hget] at hjournal
  rw [hhandle]
  refine ⟨by rw [settleRelease_deploys]; exact hended, ?_, by rw [settleRelease_shelf, hshelf', hshelf],
    by rw [settleRelease_journal, hjournal], by simp [heffects, Silent]⟩
  constructor <;> simp [hstate, hcall, hrequest, hprovision]

/-! ## What is left behind -/

/-- **An attempt that fails at its transaction leaves only its error behind.**  Whatever else happens
meanwhile, save a reset: its call returns nothing, its failure is shown and nothing of a resource, the
shelf is as it was before the call, and nobody is ever asked after a resource.  The journal is, at the
failure, as the answers to the other calls have left it if nothing was broadcast; otherwise it has one
entry more, which has failed.  Where no other call was answered, that is the journal before the call. -/
theorem failure_leaves_its_error (settings : Settings) (encoder : Encoder) (mode : ResourceKind)
    (es more later : List (Moment × Event)) (m m' : Moment) {route : Route} {name : Name}
    {s : Submission} {a : Attempt} {t : Ticket} {answer : Answer} {e : DeployError}
    (hthere : (afterAll settings encoder mode es).isGone = false)
    (hopening : (afterAll settings encoder mode es).opening = .open route name s)
    (hmore : ∀ x ∈ more, x.2 ≠ .reset) (hlater : ∀ x ∈ later, x.2 ≠ .reset)
    (hget : (afterAll settings encoder mode (es ++ (m, .deploy) :: more)).deploys[
      (afterAll settings encoder mode es).deploys.length]? = some (.underway a t))
    (hfails : t.awaiting.Fails answer e) :
    let d := afterAll settings encoder mode es
    let i := d.deploys.length
    let failing := (m, .deploy) :: more ++ [(m', .answer i answer)]
    let others := (d.handle m .deploy).1.journalOfOthers i d.journal more
    (d.run (failing ++ later)).deploys[i]? = some (.ended none) ∧
    (d.run (failing ++ later)).Fell e ∧
    (d.run (failing ++ later)).shelf = d.shelf ∧
    Silent (d.requests (failing ++ later)) ∧
    (t.awaiting = .signature ∨ t.awaiting = .broadcast → (d.run failing).journal = others) ∧
    (∀ hash, t.awaiting = .receipt hash → (∀ x ∈ more, x.1.outage.append = false) →
      m'.outage.settle = false → ¬ others.Has hash →
        others.Gains (d.run failing).journal hash s.label .failed) ∧
    ((∀ x ∈ more, ∀ j answer', x.2 = .answer j answer' → j = i) → others = d.journal) := by
  intro d i failing others
  have h : d.Coherent := coherent_afterAll settings encoder mode es
  have hstaged : d.Staged := (staged_new settings encoder mode).run (coherent_new settings encoder mode) es
  obtain ⟨t₀, hawait, hcarried, hbegun⟩ := carried_open h hstaged hthere hopening m
  have hbooked : Booked (∀ x ∈ more, x.1.outage.append = false) d.journal (d.handle m .deploy).1.journal
      s.label t₀.awaiting := by
    rw [hawait]
    exact journal_handle h m .deploy
  rw [afterAll, run_append, run_cons] at hget
  -- Up to the failure the attempt is at its transaction.
  obtain ⟨hatend, hbooks, hmeanwhile⟩ := hcarried.run hbooked hmore (fun x hx hworks => hworks x hx) hget
  obtain ⟨hended, hfell, hshelf, hjournal, hlast⟩ := hatend.fails hfails m'
  have hfailing : d.run failing =
      (((d.handle m .deploy).1.run more).handle m' (.answer i answer)).1 := run_append _ _ _
  have hcoherent : (d.run failing).Coherent := h.run failing
  rw [← hfailing] at hended hfell hshelf hjournal
  -- After it, nothing of it goes on.
  obtain ⟨hstate, hshelf', hafter⟩ := final_run hcoherent (by rw [hfell.status]; rfl) hlater
  rw [run_append]
  refine ⟨ended_run hcoherent hended later, hfell.sameAttempt hstate, hshelf'.trans hshelf, ?_, ?_, ?_, ?_⟩
  · rw [requests_append]
    refine Silent.append ?_ hafter
    show Silent (d.requests ((m, .deploy) :: (more ++ [(m', .answer i answer)])))
    rw [requests, requests_append]
    exact hbegun.append (hmeanwhile.append (by simpa [requests] using hlast))
  · intro hunsent
    rw [hjournal, hfails.journalAfter]
    rcases hunsent with hawait' | hawait' <;> rw [hawait'] at hbooks ⊢ <;> exact hbooks
  · intro hash hawait' happend hsettle hnew
    rw [hawait'] at hbooks
    obtain ⟨status, hgains⟩ := hbooks happend hnew
    rw [hjournal, hfails.journalAfter, hawait']
    exact hgains.settled hnew hsettle .failed
  · exact fun hsole => journalOfOthers_of_sole hsole _ _

/-- A transaction that is broadcast. -/
private def broadcastSandbox (hash : TxHash) : List (Moment × Event) := [
  (⟨3, .epoch, {}⟩, .answer 0 (.signature (.ok ()))),
  (⟨4, .epoch, {}⟩, .answer 0 (.broadcast (.ok hash)))]

theorem failure_leaves_its_error_reverted :
    let d := afterAll .sample .json .sandbox boxInputs
    let failed := d.run ((⟨2, .epoch, {}⟩, .deploy) :: broadcastSandbox ⟨[1], by decide, by decide⟩ ++
      [(⟨5, .epoch, {}⟩, .answer 0 (.receipt (.ok ⟨false, [], some "execution reverted: Paused()"⟩)))])
    failed.Fell (.reverted "Paused") ∧ failed.shelf = d.shelf ∧
      ∃ label, d.journal.Gains failed.journal ⟨[1], by decide, by decide⟩ label .failed := by
  intro d failed
  obtain ⟨route, name, s, hopening⟩ : ∃ route name s, d.opening = .open route name s := by
    have hopen : (match d.opening with | .open _ _ _ => true | _ => false) = true := by decide
    split at hopen
    · rename_i route name s hopening
      exact ⟨route, name, s, hopening⟩
    · cases hopen
  have hfails : (Awaiting.receipt ⟨[1], by decide, by decide⟩).Fails
      (.receipt (.ok ⟨false, [], some "execution reverted: Paused()"⟩)) (.reverted "Paused") := by
    rw [Awaiting.fails_iff]
    exact ⟨_, rfl, by decide⟩
  obtain ⟨-, hfell, hshelf, -, -, hgains, hothers⟩ := failure_leaves_its_error .sample .json .sandbox
    boxInputs (broadcastSandbox ⟨[1], by decide, by decide⟩) [] ⟨2, .epoch, {}⟩ ⟨5, .epoch, {}⟩
    rfl hopening (by simp [broadcastSandbox]) (by simp) rfl hfails
  have hothers := hothers (by simp [broadcastSandbox]; decide)
  rw [hothers] at hgains
  refine ⟨hfell, hshelf, s.label, hgains _ rfl (by simp [broadcastSandbox]) rfl (by decide)⟩

end Deployer

end ChainProvision
