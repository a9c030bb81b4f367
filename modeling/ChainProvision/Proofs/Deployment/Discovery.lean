import ChainProvision.Proofs.Deployment.Findings
import ChainProvision.Proofs.Deployment.Readiness

/-!
# Overlapping discoveries

While operators are being looked up, nobody should be asked to sign a request for a new service.
Whether a lookup is under way is kept as one flag, which every discovery raises and every answer
takes down.  So an answer to one discovery opens the deployer although another one, begun before it
came, is still under way; as long as no answer has come since the last discovery began, it is shut.

## Main statements

- `Deployer.discovering_or_overtaken`: when the flag is up.
- `Deployer.shut_unless_overtaken`: exactly when a deployer with an unanswered discovery is shut.
- `Deployer.overlapping_discovery_opens`: with two discoveries it need not be.
-/

namespace ChainProvision

namespace Deployer

variable {m : Moment} {d : Deployer} {e : Event}

/-! ## The flag and the discoveries -/

/-- The flag and the discoveries stay as they are. -/
def SameDiscoveries (d d' : Deployer) : Prop :=
  d'.inputs.discovering = d.inputs.discovering ∧ d'.discoveries = d.discoveries

/-- An event brings the answer that a discovery waits for. -/
def BringsOperators (d : Deployer) (e : Event) : Prop :=
  ∃ i reply, e = .operatorsRead i reply ∧ d.discoveries[i]? = some none

/-- Only a discovery and its answer have to do with the flag. -/
private theorem sameDiscoveries_handle (h : d.Coherent) (m : Moment) (hdiscover : e ≠ .discover)
    (hread : ¬ d.BringsOperators e) : d.SameDiscoveries (d.handle m e).1 := by
  cases hgone : d.isGone with
  | true =>
    rw [isGone_handle hgone]
    exact ⟨rfl, rfl⟩
  | false =>
    have hlearns := learns_handle h hgone m e
    show (d.handle m e).1.findings.discovering = d.findings.discovering ∧
      (d.handle m e).1.findings.discoveries = d.findings.discoveries
    generalize (d.handle m e).1.findings = learned at hlearns
    cases hlearns with
    | nothing | dropped | asked | judged => exact ⟨rfl, rfl⟩
    | sought => exact absurd rfl hdiscover
    | found hget => exact absurd ⟨_, _, rfl, hget⟩ hread

private theorem discovering_discover (h : d.Coherent) (hgone : d.isGone = false) (m : Moment) :
    (d.handle m .discover).1.inputs.discovering = true := by
  have hlearns := learns_handle h hgone m .discover
  show (d.handle m .discover).1.findings.discovering = true
  generalize (d.handle m .discover).1.findings = learned at hlearns
  cases hlearns with
  | nothing hquiet => cases hquiet
  | sought => rfl

/-- A discovery is under way that has not been answered. -/
def AwaitsOperators (d : Deployer) : Prop :=
  ∃ i : Nat, d.discoveries[i]? = some none

theorem not_isGone_of_unanswered {i : Nat} (hget : d.discoveries[i]? = some none) : d.isGone = false := by
  have hbusy : d.isBusy = true := by
    simp only [isBusy, Bool.or_eq_true, List.any_eq_true]
    exact Or.inr ⟨none, List.mem_of_getElem? hget, rfl⟩
  simp [isGone, hbusy]

private theorem discovering_of_brings (h : d.Coherent) (hbrings : d.BringsOperators e) (m : Moment) :
    (d.handle m e).1.inputs.discovering = false := by
  obtain ⟨i, reply, rfl, hget⟩ := hbrings
  have hlearns := learns_handle h (not_isGone_of_unanswered hget) m (.operatorsRead i reply)
  show (d.handle m (.operatorsRead i reply)).1.findings.discovering = false
  generalize (d.handle m (.operatorsRead i reply)).1.findings = learned at hlearns
  cases hlearns with
  | nothing hquiet => simp [inquires, hget] at hquiet
  | found _ => rfl

/-! ## Runs -/

section Runs

variable (settings : Settings) (encoder : Encoder) (mode : ResourceKind)


/-- Since the last discovery began, one has been answered. -/
def Overtaken (es : List (Moment × Event)) : Prop :=
  ∃ before m i reply after, es = before ++ (m, .operatorsRead i reply) :: after ∧
    (afterAll settings encoder mode before).discoveries[i]? = some none ∧
    ∀ x ∈ after, x.2 ≠ .discover

variable {settings encoder mode}

theorem Overtaken.concat {es : List (Moment × Event)} (h : Overtaken settings encoder mode es)
    {x : Moment × Event} (hx : x.2 ≠ .discover) : Overtaken settings encoder mode (es ++ [x]) := by
  obtain ⟨before, m, i, reply, after, rfl, hget, hafter⟩ := h
  refine ⟨before, m, i, reply, after ++ [x], by simp, hget, ?_⟩
  intro y hy
  rcases List.mem_append.mp hy with hy | hy
  · exact hafter y hy
  · rw [List.mem_singleton.mp hy]
    exact hx

/-- Once a discovery has begun, the flag is up or one was answered since the last began. -/
theorem discovering_or_overtaken (es : List (Moment × Event)) :
    let d := afterAll settings encoder mode es
    d.isGone = true ∨ d.discoveries = [] ∨ d.inputs.discovering = true ∨
      Overtaken settings encoder mode es := by
  -- By induction on the run from its end: the last event decides what has changed.
  induction es using List.reverseRecOn with
  | nil => exact Or.inr (Or.inl rfl)
  | append_singleton es x ih =>
    obtain ⟨m, e⟩ := x
    have hcoherent := coherent_afterAll settings encoder mode es
    rw [afterAll_concat]
    generalize hd : afterAll settings encoder mode es = d at ih hcoherent
    cases hgone : d.isGone with
    | true =>
      rw [isGone_handle hgone]
      exact Or.inl hgone
    | false =>
      -- What has nothing to do with discoveries leaves the reason as it is.
      have hkeep : e ≠ .discover → d.SameDiscoveries (d.handle m e).1 →
          (d.handle m e).1.isGone = true ∨ (d.handle m e).1.discoveries = [] ∨
            (d.handle m e).1.inputs.discovering = true ∨
              Overtaken settings encoder mode (es ++ [(m, e)]) := by
        rintro hdiscover ⟨hflag, hsame⟩
        rw [hflag, hsame]
        rcases ih with h | h | h | h
        · rw [hgone] at h
          cases h
        · exact Or.inr (Or.inl h)
        · exact Or.inr (Or.inr (Or.inl h))
        · exact Or.inr (Or.inr (Or.inr (h.concat hdiscover)))
      by_cases hdiscover : e = .discover
      · subst hdiscover
        exact Or.inr (Or.inr (Or.inl (discovering_discover hcoherent hgone m)))
      · by_cases hbrings : d.BringsOperators e
        · -- The answer comes after the last discovery, which it overtakes.
          obtain ⟨i, reply, rfl, hget⟩ := hbrings
          exact Or.inr (Or.inr (Or.inr ⟨es, m, i, reply, [], rfl, hd ▸ hget, by simp⟩))
        · exact hkeep hdiscover (sameDiscoveries_handle hcoherent m hdiscover hbrings)

/-- Once a discovery was answered the flag stays down until the next one begins. -/
theorem Overtaken.not_discovering {es : List (Moment × Event)} (h : Overtaken settings encoder mode es) :
    (afterAll settings encoder mode es).inputs.discovering = false := by
  obtain ⟨before, m, i, reply, after, rfl, hget, hafter⟩ := h
  have hbefore := coherent_afterAll settings encoder mode before
  have hdown := discovering_of_brings hbefore ⟨i, reply, rfl, hget⟩ m
  have hcoherent := hbefore.handle m (.operatorsRead i reply)
  unfold afterAll at hdown hcoherent ⊢
  rw [run_append, run_cons]
  dsimp only
  -- The answer takes the flag down, and nothing that comes after it but a discovery raises it.
  generalize (((new settings encoder mode).run before).handle m (.operatorsRead i reply)).1 = d
    at hdown hcoherent ⊢
  induction after generalizing d with
  | nil => exact hdown
  | cons x after ih =>
    rw [run_cons]
    refine ih (fun y hy => hafter y (List.mem_cons_of_mem x hy)) _ ?_ (hcoherent.handle x.1 x.2)
    by_cases hbrings : d.BringsOperators x.2
    · exact discovering_of_brings hcoherent hbrings x.1
    · have hdiscover : x.2 ≠ .discover := hafter x List.mem_cons_self
      exact (sameDiscoveries_handle hcoherent x.1 hdiscover hbrings).1.trans hdown

end Runs

/-! ## Opening an attempt -/

/-- While the flag is up, no attempt by the route of a new service can start, and nobody is asked to
sign. -/
theorem Derived.shut_of_discovering (hderived : d.Derived) (h : d.Coherent)
    (hnew : d.state.value.isNewService = true) (hflag : d.inputs.discovering = true) :
    d.state.value.canDeploy = false ∧
      ∀ m call ticket, Effect.consult call ticket ∉ (d.handle m .deploy).2 := by
  -- While idle the route is that of the state.
  have hroute : d.state.value.status = .idle →
      d.inputs.route d.state.value.mode d.settings = .newService := by
    intro hidle
    have hisNew := (hderived.route hidle).symm.trans hnew
    cases hr : d.inputs.route d.state.value.mode d.settings with
    | job service => simp [hr, Route.isNewService] at hisNew
    | newService => rfl
  have hshut : d.state.value.canDeploy = false := by
    rw [hderived.canDeploy]
    by_cases hidle : d.state.value.status = .idle
    · simp [Inputs.canDeploy, hroute hidle, hflag]
    · exact Inputs.canDeploy_of_not_idle hidle _ _
  refine ⟨hshut, fun m call ticket hmem => ?_⟩
  cases hgone : d.isGone with
  | true => simp [isGone_handle hgone] at hmem
  | false =>
    have hstarts : d.opening.starts = false :=
      (opening_starts d).trans (hderived.canDeploy.symm.trans hshut)
    rw [(declined_of_not_starts h hgone hstarts hshut m).asks] at hmem
    cases hmem

/-- While the flag is down, the operators found decide. -/
theorem Derived.canDeploy_iff_of_not_discovering (hderived : d.Derived)
    (hnew : d.state.value.isNewService = true) (hflag : d.inputs.discovering = false) :
    d.state.value.canDeploy = true ↔
      d.state.value.status = .idle ∧ d.inputs.account.isSome = true ∧
        d.inputs.form.isComplete = true ∧ d.inputs.hasOperators = true := by
  rw [hderived.canDeploy]
  by_cases hidle : d.state.value.status = .idle
  · have hisNew := (hderived.route hidle).symm.trans hnew
    cases hr : d.inputs.route d.state.value.mode d.settings with
    | job service => simp [hr, Route.isNewService] at hisNew
    | newService =>
      cases haccount : d.inputs.account <;> cases hform : d.inputs.form.isComplete <;>
        simp [Inputs.canDeploy, hidle, haccount, hform, hr, hflag]
  · simp [Inputs.canDeploy_of_not_idle hidle, hidle]

/-! ## Unanswered discoveries -/

/-- **A deployer with an unanswered discovery**, on the route of a new service.  As long as none has
been answered since the last one began, no attempt can start and nobody is asked to sign.  Once one
has, the deployer is as open as if none were under way. -/
theorem shut_unless_overtaken (settings : Settings) (encoder : Encoder) (mode : ResourceKind)
    (es : List (Moment × Event)) :
    let d := afterAll settings encoder mode es
    d.AwaitsOperators → d.state.value.isNewService = true →
      (¬ Overtaken settings encoder mode es →
        d.state.value.canDeploy = false ∧
          ∀ m call ticket, Effect.consult call ticket ∉ (d.handle m .deploy).2) ∧
      (Overtaken settings encoder mode es →
        (d.state.value.canDeploy = true ↔
          d.state.value.status = .idle ∧ d.inputs.account.isSome = true ∧
            d.inputs.form.isComplete = true ∧ d.inputs.hasOperators = true)) := by
  rintro d ⟨i, hget⟩ hnew
  have hderived : d.Derived := derived_afterAll settings encoder mode es
  have hcoherent : d.Coherent := coherent_afterAll settings encoder mode es
  refine ⟨fun hnone => ?_, fun hovertaken => ?_⟩
  · apply hderived.shut_of_discovering hcoherent hnew
    rcases @discovering_or_overtaken settings encoder mode es with hgone | hempty | hflag | hovertaken
    · -- A deployer that still waits for an answer lives on.
      have hthere := not_isGone_of_unanswered hget
      rw [show d.isGone = true from hgone] at hthere
      cases hthere
    · rw [show d.discoveries = [] from hempty] at hget
      cases hget
    · exact hflag
    · exact absurd hovertaken hnone
  · exact hderived.canDeploy_iff_of_not_discovering hnew hovertaken.not_discovering

/-- Everything entered for an instance, and two discoveries begun. -/
private def twiceAsked : List (Moment × Event) := boxInputs ++ [
  (⟨2, .epoch, {}⟩, .discover),
  (⟨3, .epoch, {}⟩, .discover)]

/-- The first of the two is answered. -/
private def onceAnswered : List (Moment × Event) :=
  twiceAsked ++ [(⟨4, .epoch, {}⟩, .operatorsRead 0 (.ok [.zero]))]

theorem shut_twiceAsked_open_onceAnswered :
    let d := afterAll .sample .json .dedicated twiceAsked
    let d' := afterAll .sample .json .dedicated onceAnswered
    (d.AwaitsOperators ∧ d.state.value.canDeploy = false) ∧
      d'.AwaitsOperators ∧ d'.state.value.canDeploy = true := by
  intro d d'
  have hwaits : d.AwaitsOperators := ⟨0, by decide⟩
  have hwaits' : d'.AwaitsOperators := ⟨1, by decide⟩
  have hfirst : ¬ Overtaken .sample .json .dedicated twiceAsked := by
    intro hovertaken
    have hflag : d.inputs.discovering = true := by decide
    rw [hovertaken.not_discovering] at hflag
    cases hflag
  have hsecond : Overtaken .sample .json .dedicated onceAnswered :=
    ⟨twiceAsked, _, 0, _, [], rfl, by decide, by simp⟩
  have hshut := shut_unless_overtaken .sample .json .dedicated twiceAsked hwaits (by decide)
  have hopen := shut_unless_overtaken .sample .json .dedicated onceAnswered hwaits' (by decide)
  exact ⟨⟨hwaits, (hshut.1 hfirst).1⟩, hwaits', (hopen.2 hsecond).mpr (by decide)⟩

/-- It is not so that a deployer stays shut until every discovery is answered. -/
theorem overlapping_discovery_opens :
    ¬ ∀ (settings : Settings) (encoder : Encoder) (mode : ResourceKind) (es : List (Moment × Event)),
      let d := afterAll settings encoder mode es
      d.AwaitsOperators → d.state.value.isNewService = true →
        d.state.value.canDeploy = false ∧
          ∀ m call ticket, Effect.consult call ticket ∉ (d.handle m .deploy).2 := by
  intro h
  have hwaits : (afterAll .sample .json .dedicated onceAnswered).AwaitsOperators :=
    ⟨1, by decide⟩
  have hopen : (afterAll .sample .json .dedicated onceAnswered).state.value.canDeploy = true := by
    decide
  have hshut := (h .sample .json .dedicated onceAnswered hwaits (by decide)).1
  rw [hopen] at hshut
  cases hshut

end Deployer

end ChainProvision
