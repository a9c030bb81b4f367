import ChainProvision.Proofs.Deployment.Findings
import Mathlib.Data.List.Nodup

/-!
# Overlapping choices of a service

A service that is chosen is validated first, and the contract may take its time to answer; a choice
of none returns at once.  Whichever call returns last stands, with its service or its failure, even
if another choice was made after it.  So the choice that was made last stands just as long as no
earlier one returns after it.

## Main definitions

- `Deployer.Returned`, `Deployer.returned?`: a call that has returned, and the one that an event
  lets return.
- `Deployer.Selects`: the service and the failure are those of a choice.
- `Deployer.Outrun`: another call has returned after one.

## Main statements

- `Deployer.selects_last_returned`: the call that returned last stands.
- `Deployer.accounted_afterAll`: every call returns once.
- `Deployer.latest_choice_stands_unless_outrun`: exactly when the choice that was made last stands.
- `Deployer.dropped_service_comes_back`: it does not always.
-/

namespace ChainProvision

namespace Deployer

variable {m : Moment} {d : Deployer} {e : Event}

/-! ## Calls that return -/

/-- A call that chose a service, by its place among all of them, with what was chosen. -/
structure Returned where
  call : Nat
  choice : Choice

/-- The call that returns with an event. -/
def returned? (d : Deployer) : Event → Option Returned
  | .service none => some ⟨d.checks.length, .none⟩
  | .serviceRead i reads =>
    match d.checks[i]? with
    | some (some check) => some ⟨i, .validated check reads⟩
    | _ => none
  | _ => none

private theorem returned?_of_not_inquires (h : d.inquires e = false) : d.returned? e = none := by
  cases e with
  | service service => cases h
  | serviceRead i reads =>
    simp only [inquires] at h
    simp only [returned?]
    split
    · rename_i hget
      simp [hget] at h
    · rfl
  | _ => rfl

private theorem returned?_serviceRead {i : Nat} {check : ServiceCheck}
    (h : d.checks[i]? = some (some check)) (reads : ServiceReads) :
    d.returned? (.serviceRead i reads) = some ⟨i, .validated check reads⟩ := by
  simp [returned?, h]

/-! ## The selection -/

/-- The service and the failure are those of a choice. -/
def Selects (d : Deployer) (c : Choice) : Prop :=
  d.inputs.service = c.service ∧ d.state.value.serviceError = c.error

/-- The service and the failure of what was found out. -/
private def Findings.selection (f : Findings) : Option Validation × Option ValidationError :=
  (f.service, f.serviceError)

/-- A call that returns is taken over, and nothing else has to do with the selection. -/
private theorem Learns.selection {learned : Findings} (hlearns : Learns d e learned) :
    learned.selection =
      ((d.returned? e).map fun r => (r.choice.service, r.choice.error)).getD d.findings.selection := by
  cases hlearns with
  | nothing hquiet => simp [returned?_of_not_inquires hquiet]
  | judged hget => simp [returned?_serviceRead hget, Findings.selection, Findings.choose]
  | dropped | asked | sought | found => rfl

section Runs

variable (settings : Settings) (encoder : Encoder) (mode : ResourceKind)

/-- The calls that have returned in a run from the start, in the order in which they did. -/
def returns (es : List (Moment × Event)) : List Returned :=
  (new settings encoder mode).gather returned? es

variable {settings encoder mode}

private theorem selection_afterAll (es : List (Moment × Event)) :
    (afterAll settings encoder mode es).findings.selection =
      ((returns settings encoder mode es).getLast?.map fun r => (r.choice.service, r.choice.error)).getD
        (none, none) :=
  last_learned Learns.selection (coherent_new settings encoder mode) es

/-- **The call that returned last stands.** -/
theorem selects_last_returned {es : List (Moment × Event)} {r : Returned}
    (hlast : (returns settings encoder mode es).getLast? = some r) :
    (afterAll settings encoder mode es).Selects r.choice := by
  have hselection : (afterAll settings encoder mode es).findings.selection = _ := selection_afterAll es
  rw [hlast] at hselection
  exact Prod.mk.inj hselection

/-- Before any call has returned no service is selected. -/
theorem service_of_none_returned {es : List (Moment × Event)}
    (hnone : (returns settings encoder mode es).getLast? = none) :
    (afterAll settings encoder mode es).inputs.service = none := by
  have hselection : (afterAll settings encoder mode es).findings.selection = _ := selection_afterAll es
  rw [hnone] at hselection
  exact (Prod.mk.inj hselection).1

/-! ## Every call returns once -/

/-- The calls that have returned are those that are done, each once. -/
structure Accounted (checks : List (Option ServiceCheck)) (returns : List Returned) : Prop where
  once : (returns.map Returned.call).Nodup
  done_iff : ∀ i : Nat, checks[i]? = some none ↔ i ∈ returns.map Returned.call

variable {checks checks' : List (Option ServiceCheck)} {rs : List Returned}

theorem Accounted.congr (h : Accounted checks rs)
    (hsame : ∀ i : Nat, checks'[i]? = some none ↔ checks[i]? = some none) : Accounted checks' rs :=
  ⟨h.once, fun i => (hsame i).trans (h.done_iff i)⟩

/-- One more call returns, which has not returned before. -/
theorem Accounted.concat (h : Accounted checks rs) (r : Returned) (hnew : checks[r.call]? ≠ some none)
    (hdone : ∀ i : Nat, checks'[i]? = some none ↔ checks[i]? = some none ∨ i = r.call) :
    Accounted checks' (rs ++ [r]) where
  once := by
    rw [List.map_append, List.map_singleton, List.nodup_append]
    refine ⟨h.once, List.pairwise_singleton _ _, ?_⟩
    rintro i hi _ hr rfl
    rw [List.mem_singleton.mp hr] at hi
    exact hnew ((h.done_iff r.call).mpr hi)
  done_iff i := by
    rw [hdone, h.done_iff, List.map_append, List.map_singleton, List.mem_append, List.mem_singleton]

theorem Accounted.handle (hrs : Accounted d.checks rs) (h : d.Coherent) (m : Moment) (e : Event) :
    Accounted (d.handle m e).1.checks (rs ++ (amount returned? d e).toList) := by
  unfold amount
  cases hgone : d.isGone with
  | true => simpa [isGone_handle hgone] using hrs
  | false =>
    have hlearns := learns_handle h hgone m e
    have hchecks : (d.handle m e).1.checks = (d.handle m e).1.findings.checks := rfl
    rw [hchecks]
    generalize (d.handle m e).1.findings = f at hlearns
    simp only [Bool.false_eq_true, if_false]
    cases hlearns with
    | nothing hquiet =>
      rw [returned?_of_not_inquires hquiet, Option.toList_none, List.append_nil]
      exact hrs
    | dropped =>
      -- The call is a new one, and done as soon as it is made.
      refine hrs.concat ⟨d.checks.length, .none⟩ (by simp) fun i => ?_
      grind
    | asked =>
      show Accounted _ (rs ++ [])
      rw [List.append_nil]
      refine hrs.congr fun i => ?_
      grind
    | @judged i check reads hget =>
      rw [returned?_serviceRead hget]
      refine hrs.concat ⟨i, .validated check reads⟩ (by simp [hget]) fun j => ?_
      have hlt := Calls.lt_of_get hget
      grind
    | sought | found =>
      show Accounted _ (rs ++ [])
      rw [List.append_nil]
      exact hrs

/-- **Every call returns once**, in every run. -/
theorem accounted_afterAll (es : List (Moment × Event)) :
    Accounted (afterAll settings encoder mode es).checks (returns settings encoder mode es) := by
  induction es using List.reverseRecOn with
  | nil => exact ⟨List.nodup_nil, by simp [afterAll, new, returns, gather]⟩
  | append_singleton es x ih =>
    rw [afterAll_concat, returns, gather_concat]
    exact ih.handle (coherent_afterAll settings encoder mode es) x.1 x.2

/-! ## The choice that was made last -/

/-- Another call has returned after this one. -/
def Outrun (returns : List Returned) (r : Returned) : Prop :=
  ∃ before after, returns = before ++ r :: after ∧ after ≠ []

/-- A call that is outrun is not the last one to return. -/
theorem Outrun.exists_later {r : Returned} (h : Outrun rs r) (honce : (rs.map Returned.call).Nodup) :
    ∃ late ∈ rs, rs.getLast? = some late ∧ late.call ≠ r.call := by
  obtain ⟨before, after, rfl, hafter⟩ := h
  have hmem : after.getLast hafter ∈ after := List.getLast_mem hafter
  refine ⟨after.getLast hafter, by simp [hmem], ?_, ?_⟩
  · simp [List.getLast?_eq_some_getLast, List.getLast_cons hafter]
  · -- No call returns twice.
    rw [List.map_append, List.map_cons, List.nodup_append, List.nodup_cons] at honce
    intro heq
    exact honce.2.1.1 (heq ▸ List.mem_map_of_mem hmem)

/-- **The choice that was made last**, once all calls have returned.  It stands, with its service or
its failure, unless a call that was made before it has returned after it; then that one stands. -/
theorem latest_choice_stands_unless_outrun (settings : Settings) (encoder : Encoder)
    (mode : ResourceKind) (es : List (Moment × Event)) :
    let d := afterAll settings encoder mode es
    let returned := returns settings encoder mode es
    d.checks ≠ [] → (∀ check ∈ d.checks, check = none) →
      ∃ latest ∈ returned, latest.call + 1 = d.checks.length ∧
        (∀ r ∈ returned, r.call = latest.call → r = latest) ∧
        (¬ Outrun returned latest → d.Selects latest.choice) ∧
        (Outrun returned latest →
          ∃ late ∈ returned, late.call < latest.call ∧ returned.getLast? = some late ∧
            d.Selects late.choice) := by
  intro d returned hsome hdone
  have haccount : Accounted d.checks returned := accounted_afterAll es
  have hlt : ∀ r ∈ returned, r.call < d.checks.length := by
    intro r hr
    exact Calls.lt_of_get ((haccount.done_iff r.call).mpr (List.mem_map_of_mem hr))
  -- The call that was made last is done, so it has returned.
  obtain ⟨latest, hlatest, hcall⟩ : ∃ latest ∈ returned, latest.call = d.checks.length - 1 := by
    have hget : d.checks[d.checks.length - 1]? = some none := by
      rw [← List.getLast?_eq_getElem?, List.getLast?_eq_some_getLast hsome]
      exact congrArg some (hdone _ (List.getLast_mem hsome))
    exact List.mem_map.mp ((haccount.done_iff _).mp hget)
  have hpos : 0 < d.checks.length := List.length_pos_iff.mpr hsome
  refine ⟨latest, hlatest, by omega, ?_, ?_, ?_⟩
  · intro r hr heq
    exact List.inj_on_of_nodup_map haccount.once hr hlatest heq
  · intro hnot
    obtain ⟨before, after, hsplit⟩ := List.append_of_mem hlatest
    -- Nothing comes after it, so it is the last to return.
    have hnone : after = [] := by
      by_contra hafter
      exact hnot ⟨before, after, hsplit, hafter⟩
    apply selects_last_returned
    show returned.getLast? = some latest
    simp [hsplit, hnone]
  · intro houtrun
    obtain ⟨late, hlate, hlast, hne⟩ := houtrun.exists_later haccount.once
    have := hlt late hlate
    exact ⟨late, hlate, by omega, hlast, selects_last_returned hlast⟩

end Runs

/-- What is read of a service that anyone may use. -/
private def publicReads (service : ServiceId) : ServiceReads where
  active := .ok true
  record := .ok (some ⟨service, ⟨.ofNat 1⟩, .zero, [], .ofNat 0⟩)
  operators := .ok []
  permitted := .ok true

/-- Two services are chosen, and their validations end in the order of the choices. -/
private def inOrder : List (Moment × Event) := [
  (⟨0, .epoch, {}⟩, .account (some .zero)),
  (⟨1, .epoch, {}⟩, .service (some ⟨.ofNat 9⟩)),
  (⟨2, .epoch, {}⟩, .service (some ⟨.ofNat 10⟩)),
  (⟨3, .epoch, {}⟩, .serviceRead 0 (publicReads ⟨.ofNat 9⟩)),
  (⟨4, .epoch, {}⟩, .serviceRead 1 (publicReads ⟨.ofNat 10⟩))]

/-- A service is chosen and then none, before the validation has ended. -/
private def droppedTooEarly : List (Moment × Event) := [
  (⟨0, .epoch, {}⟩, .account (some .zero)),
  (⟨1, .epoch, {}⟩, .service (some ⟨.ofNat 9⟩)),
  (⟨2, .epoch, {}⟩, .service none),
  (⟨3, .epoch, {}⟩, .serviceRead 0 (publicReads ⟨.ofNat 9⟩))]

theorem latest_choice_inOrder_droppedTooEarly :
    let d := afterAll .sample .json .dedicated inOrder
    let d' := afterAll .sample .json .dedicated droppedTooEarly
    (d.checks ≠ [] ∧ (∀ check ∈ d.checks, check = none) ∧
      d.Selects (.validated ⟨⟨.ofNat 10⟩, some .zero⟩ (publicReads ⟨.ofNat 10⟩))) ∧
    d'.checks ≠ [] ∧ (∀ check ∈ d'.checks, check = none) ∧
      d'.Selects (.validated ⟨⟨.ofNat 9⟩, some .zero⟩ (publicReads ⟨.ofNat 9⟩)) := by
  intro d d'
  refine ⟨⟨by decide, by decide, ?_⟩, by decide, by decide, ?_⟩
  · obtain ⟨latest, -, hcall, hsole, hstands, -⟩ :=
      latest_choice_stands_unless_outrun .sample .json .dedicated inOrder (by decide) (by decide)
    have heq := hsole ⟨1, .validated ⟨⟨.ofNat 10⟩, some .zero⟩ (publicReads ⟨.ofNat 10⟩)⟩
      (List.mem_cons_of_mem _ List.mem_cons_self) (Nat.succ.inj hcall).symm
    rw [← heq] at hstands
    apply hstands
    intro houtrun
    obtain ⟨late, -, hlast, hne⟩ := houtrun.exists_later (accounted_afterAll inOrder).once
    cases hlast
    exact hne rfl
  · obtain ⟨latest, hmem, hcall, hsole, -, houtrun⟩ :=
      latest_choice_stands_unless_outrun .sample .json .dedicated droppedTooEarly (by decide)
        (by decide)
    have heq := hsole ⟨1, .none⟩ List.mem_cons_self (Nat.succ.inj hcall).symm
    rw [← heq] at houtrun
    obtain ⟨late, -, -, hlast, hselects⟩ := houtrun ⟨[], _, rfl, List.cons_ne_nil _ _⟩
    cases hlast
    exact hselects

/-- It is not so that the choice that was made last stands once all calls have returned. -/
theorem dropped_service_comes_back :
    ¬ ∀ (settings : Settings) (encoder : Encoder) (mode : ResourceKind) (es : List (Moment × Event)),
      let d := afterAll settings encoder mode es
      (∀ check ∈ d.checks, check = none) →
        ∀ latest ∈ returns settings encoder mode es, latest.call + 1 = d.checks.length →
          d.Selects latest.choice := by
  intro h
  have hlatest : ⟨1, .none⟩ ∈ returns .sample .json .dedicated droppedTooEarly :=
    List.mem_cons_self
  have hdropped := h .sample .json .dedicated droppedTooEarly (by decide) _ hlatest (by decide)
  have hthere : (afterAll .sample .json .dedicated droppedTooEarly).inputs.service.isSome = true := by
    decide
  rw [hdropped.1] at hthere
  cases hthere

end Deployer

end ChainProvision
