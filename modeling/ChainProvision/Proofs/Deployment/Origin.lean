import ChainProvision.Proofs.Deployment.Findings

/-!
# Where attempts and validations come from

All that is under way was begun by some event of the run: a call of `deploy` and the vigil after it
by the opening of an attempt, a validation by the choice of a service.  What they go by was fixed
then, and nobody is consulted about anything else.

## Main definitions

- `Deployer.Begins`: an attempt as it is begun.
- `Deployer.Asks`: a validation as it is begun.
- `Deployer.Pursues`: an attempt, by its generation and the key of its record, is under way.

## Main statements

- `Deployer.begun_of_underway`, `Deployer.begun_of_pursued`: every attempt that is under way was begun.
- `Deployer.asked_of_check`: every validation that is under way was asked for.
- `Deployer.consulted`: who is consulted, and about what.
-/

namespace ChainProvision

namespace Deployer

variable {m : Moment} {d d' : Deployer} {e : Event} {effects : List Effect}

/-! ## The beginning of an attempt -/

/-- An attempt begins: the place of its call, the attempt, and what is submitted for it. -/
structure Begins (m : Moment) (d : Deployer) (call : Nat) (a : Attempt) (s : Submission) : Prop where
  there : d.isGone = false
  place : call = d.deploys.length
  generation : a.generation = d.generation + 1
  opening : ∃ name, d.opening = .open a.route name s ∧
    a.record = .creating name d.state.value.mode (Text.trim d.inputs.form.image) m.wall

/-- A call that is under way was so before, with what it has submitted, or it is a new one. -/
theorem Turn.underway {i : Nat} {a : Attempt} {t : Ticket} (hturn : Turn m d e d' effects)
    (hgone : d.isGone = false) (hget : d'.deploys[i]? = some (.underway a t)) :
    (∃ u, d.deploys[i]? = some (.underway a u) ∧ u.submission = t.submission) ∨
      e = .deploy ∧ Begins m d i a t.submission := by
  -- A call that goes on keeps its submission, whatever it waits for.
  have hset : ∀ {j : Nat} {b : Attempt} {u : Ticket} {awaiting : Awaiting},
      d.deploys[j]? = some (.underway b u) →
      (d.deploys.set j (.underway b { u with awaiting }))[i]? = some (.underway a t) →
        ∃ u', d.deploys[i]? = some (.underway a u') ∧ u'.submission = t.submission := by
    intro j b u awaiting hj h
    rcases Calls.get_of_set h with ⟨hold, -⟩ | ⟨rfl, hnew⟩
    · exact ⟨t, hold, rfl⟩
    · obtain ⟨rfl, rfl⟩ := DeployCall.underway.inj hnew
      exact ⟨u, hj, rfl⟩
  cases hturn with
  | ignored | entered | looked | found | lost | atRest | discarded => exact Or.inl ⟨t, hget, rfl⟩
  | declined | unmanned | refused => exact Or.inl ⟨t, underway_of_concat_ended hget, rfl⟩
  | lapsed | fell | unnumbered | awaited => exact Or.inl ⟨t, (underway_of_set_ended hget).1, rfl⟩
  | signed hj _ => exact Or.inl (hset hj hget)
  | sent hj _ _ _ => exact Or.inl (hset hj hget)
  | @opened route name submission canDeploy state hopening hidle hstate =>
    rcases Calls.get_of_concat hget with hold | ⟨rfl, hnew⟩
    · exact Or.inl ⟨t, hold, rfl⟩
    · obtain ⟨rfl, rfl⟩ := DeployCall.underway.inj hnew
      exact Or.inr ⟨rfl, hgone, rfl, rfl, name, hopening, rfl⟩

theorem underway_handle {i : Nat} {a : Attempt} {t : Ticket} (h : d.Coherent)
    (hget : (d.handle m e).1.deploys[i]? = some (.underway a t)) :
    (∃ u, d.deploys[i]? = some (.underway a u) ∧ u.submission = t.submission) ∨
      e = .deploy ∧ Begins m d i a t.submission := by
  rcases handled h m e with ⟨-, heq⟩ | ⟨hgone, d', effects, hturn, heq⟩
  · rw [heq] at hget
    exact Or.inl ⟨t, hget, rfl⟩
  · rw [heq] at hget
    exact hturn.underway hgone (by simpa using hget)

/-! ## Attempts under way -/

/-- An attempt is under way, by its generation and the key of its record: its call of `deploy`, or
the vigil after it. -/
def Pursues (d : Deployer) (generation : Nat) (key : String) : Prop :=
  (∃ (i : Nat) (a : Attempt) (t : Ticket), d.deploys[i]? = some (.underway a t) ∧
    a.generation = generation ∧ a.record.key = key) ∨
  ∃ v, d.vigil = some v ∧ v.generation = generation ∧ v.key = key

theorem key_confirmedRecord (a : Attempt) (hash : TxHash) (number : Option Word64) :
    (confirmedRecord a hash number).key = a.record.key := by
  unfold confirmedRecord
  cases a.route <;> rfl

/-- The vigil is that of before, or that of a call whose transaction is confirmed. -/
theorem Turn.vigil {v : Vigil} (hturn : Turn m d e d' effects) (hv : d'.vigil = some v) :
    d.Pursues v.generation v.key := by
  have hkeep : d.vigil = some v → d.Pursues v.generation v.key := fun hv => Or.inr ⟨v, hv, rfl, rfl⟩
  cases hturn with
  | awaited hget _ _ hvigil _ _ _ =>
    obtain rfl := Option.some.inj hv
    refine Or.inl ⟨_, _, _, hget, by rw [hvigil]; rfl, ?_⟩
    rw [hvigil]
    exact (key_confirmedRecord _ _ _).symm
  | looked hold _ hgen hkey _ _ _ _ _ =>
    obtain rfl := Option.some.inj hv
    exact Or.inr ⟨_, hold, hgen.symm, hkey.symm⟩
  | found | lost | discarded => cases hv
  | _ => exact hkeep hv

theorem pursues_handle {generation : Nat} {key : String} (h : d.Coherent)
    (hpursues : (d.handle m e).1.Pursues generation key) :
    d.Pursues generation key ∨
      e = .deploy ∧ ∃ call a s, Begins m d call a s ∧ a.generation = generation ∧ a.record.key = key := by
  rcases hpursues with ⟨i, a, t, hget, hgen, hkey⟩ | ⟨v, hv, rfl, rfl⟩
  · rcases underway_handle h hget with ⟨u, hold, -⟩ | ⟨he, hbegins⟩
    · exact Or.inl (Or.inl ⟨i, a, u, hold, hgen, hkey⟩)
    · exact Or.inr ⟨he, i, a, _, hbegins, hgen, hkey⟩
  · rcases handled h m e with ⟨-, heq⟩ | ⟨hgone, d', effects, hturn, heq⟩
    · rw [heq] at hv
      exact Or.inl (Or.inr ⟨v, hv, rfl, rfl⟩)
    · rw [heq] at hv
      -- The end of a released deployer ends its vigil, too.
      have hv' : d'.vigil = some v := by
        unfold settleRelease at hv
        split at hv
        · cases hv
        · exact hv
      exact Or.inl (hturn.vigil hv')

/-! ## Validations under way -/

/-- A validation begins: the service that was chosen, for the account that is connected. -/
structure Asks (d : Deployer) (call : Nat) (check : ServiceCheck) : Prop where
  there : d.isGone = false
  place : call = d.checks.length
  caller : d.inputs.account = check.caller

theorem check_handle {i : Nat} {check : ServiceCheck} (h : d.Coherent)
    (hget : (d.handle m e).1.checks[i]? = some (some check)) :
    d.checks[i]? = some (some check) ∨ e = .service (some check.service) ∧ d.Asks i check := by
  cases hgone : d.isGone with
  | true =>
    rw [isGone_handle hgone] at hget
    exact Or.inl hget
  | false =>
    have hlearns := learns_handle h hgone m e
    change (d.handle m e).1.findings.checks[i]? = some (some check) at hget
    generalize (d.handle m e).1.findings = f at hlearns hget
    -- Only the choice of a service begins a validation; one that is done is none any more.
    cases hlearns with
    | nothing | sought | found => exact Or.inl hget
    | dropped => exact Or.inl ((Calls.get_of_concat hget).resolve_right fun hnew => nomatch hnew.2)
    | judged _ => exact Or.inl ((Calls.get_of_set hget).resolve_right fun hnew => nomatch hnew.2).1
    | asked =>
      rcases Calls.get_of_concat hget with hold | ⟨rfl, hnew⟩
      · exact Or.inl hold
      · obtain rfl := Option.some.inj hnew
        exact Or.inr ⟨rfl, hgone, rfl, rfl⟩

/-- The contract is asked about the service that was chosen. -/
theorem Asks.readService {call : Nat} {check : ServiceCheck} (hasks : d.Asks call check) (m : Moment) :
    Effect.readService call check.service check.caller ∈
      (d.handle m (.service (some check.service))).2 := by
  simp [handle, hasks.there, step, hasks.place, hasks.caller]

/-! ## Runs -/

section Runs

variable {settings : Settings} {encoder : Encoder} {mode : ResourceKind}

/-- **Every call that is under way was begun by an attempt that opened.** -/
theorem begun_of_underway {es : List (Moment × Event)} {i : Nat} {a : Attempt} {t : Ticket}
    (hget : (afterAll settings encoder mode es).deploys[i]? = some (.underway a t)) :
    ∃ before m after, es = before ++ (m, .deploy) :: after ∧
      Begins m (afterAll settings encoder mode before) i a t.submission := by
  have hbegun := begun_of_afterAll settings encoder mode
    (fun d (x : Nat × Attempt × Submission) =>
      ∃ t, d.deploys[x.1]? = some (.underway x.2.1 t) ∧ t.submission = x.2.2)
    (fun m d e x => e = .deploy ∧ Begins m d x.1 x.2.1 x.2.2)
    (by simp [new])
    (by
      rintro d h m e ⟨i, a, s⟩ ⟨t, hget, rfl⟩
      exact underway_handle h hget)
    es (i, a, t.submission) ⟨t, hget, rfl⟩
  obtain ⟨before, m, e, after, rfl, rfl, hbegins⟩ := hbegun
  exact ⟨before, m, after, rfl, hbegins⟩

/-- **Every attempt that is under way was begun**, its vigil included. -/
theorem begun_of_pursued {es : List (Moment × Event)} {generation : Nat} {key : String}
    (hpursues : (afterAll settings encoder mode es).Pursues generation key) :
    ∃ before m after call a s, es = before ++ (m, .deploy) :: after ∧
      Begins m (afterAll settings encoder mode before) call a s ∧ a.generation = generation ∧
        a.record.key = key := by
  have hbegun := begun_of_afterAll settings encoder mode
    (fun d (x : Nat × String) => d.Pursues x.1 x.2)
    (fun m d e x => e = .deploy ∧ ∃ call a s, Begins m d call a s ∧ a.generation = x.1 ∧
      a.record.key = x.2)
    (by simp [new, Pursues])
    (fun h _ _ _ hpursues => pursues_handle h hpursues)
    es (generation, key) hpursues
  obtain ⟨before, m, e, after, rfl, rfl, call, a, s, hbegins, hgen, hkey⟩ := hbegun
  exact ⟨before, m, after, call, a, s, rfl, hbegins, hgen, hkey⟩

/-- **Every validation that is under way was asked for.** -/
theorem asked_of_check {es : List (Moment × Event)} {i : Nat} {check : ServiceCheck}
    (hget : (afterAll settings encoder mode es).checks[i]? = some (some check)) :
    ∃ before m after, es = before ++ (m, .service (some check.service)) :: after ∧
      (afterAll settings encoder mode before).Asks i check := by
  have hbegun := begun_of_afterAll settings encoder mode
    (fun d (x : Nat × ServiceCheck) => d.checks[x.1]? = some (some x.2))
    (fun _ d e x => e = .service (some x.2.service) ∧ d.Asks x.1 x.2)
    (by simp [new])
    (fun h _ _ _ hget => check_handle h hget)
    es (i, check) hget
  obtain ⟨before, m, e, after, rfl, rfl, hasks⟩ := hbegun
  exact ⟨before, m, after, rfl, hasks⟩

end Runs

/-! ## Consultations -/

private theorem not_consult_of_isEntry (hentry : e.isEntry = true) (m : Moment) (call : Nat)
    (ticket : Ticket) : Effect.consult call ticket ∉ (d.step m e).2 := by
  cases e with
  | service service => cases service <;> simp [step]
  | serviceRead i reads =>
    simp only [step]
    split <;> simp
  | operatorsRead i reply =>
    simp only [step]
    split <;> simp
  | form | account | mode | discover | release => simp [step]
  | _ => cases hentry

/-- **Who is consulted**: a call that is under way then, about what it has submitted.  The wallet is
asked to sign just when an attempt opens. -/
theorem consulted {call : Nat} {ticket : Ticket} (h : d.Coherent)
    (hmem : Effect.consult call ticket ∈ (d.handle m e).2) :
    (∃ a, (d.handle m e).1.deploys[call]? = some (.underway a ticket)) ∧
      (ticket.awaiting = .signature → e = .deploy ∧ call = d.deploys.length) := by
  rcases handled h m e with ⟨-, heq⟩ | ⟨hgone, d', effects, hturn, heq⟩
  · simp [heq] at hmem
  · rw [heq] at hmem ⊢
    simp only [settleRelease_deploys]
    cases hturn with
    | entered _ _ _ _ _ hentry =>
      -- Inputs ask for readings only.
      have hsame : (d.handle m e).2 = (d.step m e).2 := by simp [handle, hgone]
      rw [heq] at hsame
      exact absurd (hsame ▸ hmem) (not_consult_of_isEntry hentry m call ticket)
    | opened =>
      obtain ⟨rfl, rfl⟩ := Effect.consult.inj (List.mem_singleton.mp hmem)
      exact ⟨⟨_, List.getElem?_concat_length⟩, fun _ => ⟨rfl, rfl⟩⟩
    | signed hget _ | sent hget _ _ _ =>
      -- The call goes on in its place, and waits for something else than a signature.
      obtain ⟨rfl, rfl⟩ := Effect.consult.inj (List.mem_singleton.mp hmem)
      refine ⟨⟨_, List.getElem?_set_self (Calls.lt_of_get hget)⟩, ?_⟩
      intro hsign
      cases hsign
    | looked _ _ _ _ _ _ hothers _ _ =>
      -- The vigil asks for its own attempt, and a consultation is for none.
      cases hothers _ hmem
    | _ => cases hmem

end Deployer

end ChainProvision
