import ChainProvision.Service.Validation

/-!
# The verdict on a service

A validation asks the contract four things at once, and each read may fail.  The verdict is that of the
first check that fails, in a fixed order; the operators are only reported.

## Main definitions

- `ServiceReads.Approve`: all reads that count are in favour.
- `Registry`, `Registry.reads`: what the contract knows, and what its reads bring when some of them fail.
- `Registry.Judged`: the verdicts, by the first check that fails.

## Main statements

- `Validation.judge_eq_ok_iff`: what a verdict in favour of a service has found out.
- `Validation.judge_usable_iff`: when a service is usable by an account.
- `Validation.verdict_of_first_failing_check`: the verdict, whatever the contract knows and whichever reads
  fail.
-/

namespace ChainProvision

/-! ## Reads that approve -/

/-- The contract knows the service, which is active and permits the caller. -/
structure ServiceReads.Approve (reads : ServiceReads) : Prop where
  known : ∃ record, reads.record = .ok (some record)
  active : reads.active = .ok true
  permitted : reads.permitted = .ok true

namespace Validation

variable {service : ServiceId} {caller : Option Address} {reads : ServiceReads} {v : Validation}

/-- A failed read counts as the answer no, so any other answer was read. -/
theorem readOr_eq_iff {α : Type} {missing a : α} {reply : Except ChainError α} (hne : missing ≠ a) :
    readOr missing reply = a ↔ reply = .ok a := by
  cases reply with
  | ok b => simp [readOr]
  | error e => simp [readOr, hne]

/-- What a verdict in favour of a service has found out. -/
theorem judge_eq_ok_iff :
    judge service caller reads = .ok v ↔
      ∃ record, readOr none reads.record = some record ∧ readOr false reads.active = true ∧
        (caller.map fun _ => readOr false reads.permitted) ≠ some false ∧
        v = ⟨service, record, true, readOr [] reads.operators, caller,
          caller.map fun _ => readOr false reads.permitted⟩ := by
  unfold judge
  dsimp only
  -- The three checks in their order: the record, whether it is active, and the caller.
  cases readOr none reads.record with
  | none => simp
  | some record =>
    cases readOr false reads.active with
    | false => simp
    | true =>
      by_cases hpermitted : (caller.map fun _ => readOr false reads.permitted) = some false
      · simp [hpermitted]
      · simp [hpermitted, eq_comm]

/-- **A service is usable by an account** just if it was validated for it and all reads approve. -/
theorem judge_usable_iff {account : Address} :
    (∃ v, judge service caller reads = .ok v ∧ v.isUsableBy (some account) = true) ↔
      caller = some account ∧ reads.Approve := by
  constructor
  · rintro ⟨v, hjudge, husable⟩
    obtain ⟨record, hrecord, hactive, -, rfl⟩ := judge_eq_ok_iff.mp hjudge
    simp only [isUsableBy, isUsable, Option.isSome_some, Bool.true_and, Bool.and_eq_true,
      beq_iff_eq] at husable
    obtain ⟨rfl, hpermitted⟩ := husable
    have hallowed : readOr false reads.permitted = true := Option.some.inj hpermitted
    exact ⟨rfl, ⟨record, (readOr_eq_iff (Option.some_ne_none record).symm).mp hrecord⟩,
      (readOr_eq_iff Bool.false_ne_true).mp hactive, (readOr_eq_iff Bool.false_ne_true).mp hallowed⟩
  · rintro ⟨rfl, ⟨record, hrecord⟩, hactive, hpermitted⟩
    refine ⟨_, judge_eq_ok_iff.mpr ⟨record, ?_, ?_, ?_, rfl⟩, ?_⟩
    · simp [hrecord, readOr]
    · simp [hactive, readOr]
    · simp [hpermitted, readOr]
    · simp [isUsableBy, isUsable, hpermitted, readOr]

/-- Once a service was validated, it is usable by the account that it was validated for. -/
theorem isUsableBy_iff_of_judge (h : judge service caller reads = .ok v) {account : Option Address} :
    v.isUsableBy account = true ↔ ∃ a, account = some a ∧ v.caller = some a := by
  obtain ⟨record, -, -, hpermitted, rfl⟩ := judge_eq_ok_iff.mp h
  simp only [isUsableBy, isUsable, Bool.true_and, Bool.and_eq_true, beq_iff_eq]
  constructor
  · rintro ⟨⟨hsome, rfl⟩, -⟩
    obtain ⟨a, rfl⟩ := Option.isSome_iff_exists.mp hsome
    exact ⟨a, rfl, rfl⟩
  · rintro ⟨a, rfl, rfl⟩
    exact ⟨⟨rfl, rfl⟩, congrArg some (eq_true_of_ne_false fun hno => hpermitted (congrArg some hno))⟩

/-- Whatever the read of the operators brings, it is reported and changes nothing else. -/
theorem judge_operators (operators : Except ChainError (List Address)) :
    judge service caller { reads with operators } =
      (judge service caller reads).map fun v => { v with operators := readOr [] operators } := by
  unfold judge
  dsimp only
  split
  · rfl
  · split
    · rfl
    · split <;> rfl

end Validation

/-! ## What the contract knows -/

/-- What the services contract knows about its services. -/
structure Registry where
  record : ServiceId → Option ServiceRecord
  active : ServiceId → Bool
  operators : ServiceId → List Address
  permits : ServiceId → Address → Bool

namespace Registry

/-- The reads of a validation. -/
inductive Query where
  | record
  | active
  | operators
  | permitted
  deriving DecidableEq

/-- How reads fail, those that do. -/
abbrev Outage := Query → Option ChainError

/-- What a read brings. -/
def answer {α : Type} (fault : Option ChainError) (a : α) : Except ChainError α :=
  match fault with
  | some e => .error e
  | none => .ok a

/-- What the reads of a validation bring. -/
def reads (g : Registry) (o : Outage) (service : ServiceId) (caller : Option Address) : ServiceReads where
  active := answer (o .active) (g.active service)
  record := answer (o .record) (g.record service)
  operators := answer (o .operators) (g.operators service)
  permitted := answer (o .permitted) (caller.any (g.permits service))

variable {g : Registry} {o : Outage} {service : ServiceId} {caller : Option Address}

/-- The record of a service was read. -/
structure Shows (g : Registry) (o : Outage) (service : ServiceId) (record : ServiceRecord) : Prop where
  answered : o .record = none
  known : g.record service = some record

/-- That a service is active was read. -/
structure Runs (g : Registry) (o : Outage) (service : ServiceId) : Prop where
  answered : o .active = none
  active : g.active service = true

/-- That an account may use a service was read. -/
structure Admits (g : Registry) (o : Outage) (service : ServiceId) (account : Address) : Prop where
  answered : o .permitted = none
  permits : g.permits service account = true

/-- What was learned about a service that passed all checks. -/
def learned (g : Registry) (o : Outage) (service : ServiceId) (caller : Option Address)
    (record : ServiceRecord) : Validation where
  service := service
  record := record
  active := true
  operators := if (o .operators).isNone then g.operators service else []
  caller := caller
  permitted := caller.map fun _ => true

/-- The verdicts on a service, each by the first check that fails. -/
inductive Judged (g : Registry) (o : Outage) (service : ServiceId) (caller : Option Address) :
    Except ValidationError Validation → Prop where
  | unknown :
      (∀ record, ¬ g.Shows o service record) →
      Judged g o service caller (.error .notFound)
  | inactive {record : ServiceRecord} :
      g.Shows o service record → ¬ g.Runs o service →
      Judged g o service caller (.error .notActive)
  | refused {record : ServiceRecord} {account : Address} :
      g.Shows o service record → g.Runs o service → caller = some account →
      ¬ g.Admits o service account →
      Judged g o service caller (.error .notPermitted)
  | usable {record : ServiceRecord} :
      g.Shows o service record → g.Runs o service →
      (∀ account, caller = some account → g.Admits o service account) →
      Judged g o service caller (.ok (g.learned o service caller record))

/-! ## What the reads amount to -/

theorem answer_eq_ok_iff {α : Type} {fault : Option ChainError} {a b : α} :
    answer fault a = .ok b ↔ fault = none ∧ a = b := by
  cases fault <;> simp [answer]

theorem shows_iff {record : ServiceRecord} :
    g.Shows o service record ↔ Validation.readOr none (g.reads o service caller).record = some record := by
  rw [Validation.readOr_eq_iff (Option.some_ne_none record).symm, reads, answer_eq_ok_iff]
  exact ⟨fun ⟨hanswered, hknown⟩ => ⟨hanswered, hknown⟩, fun ⟨hanswered, hknown⟩ => ⟨hanswered, hknown⟩⟩

theorem runs_iff (caller : Option Address) :
    g.Runs o service ↔ Validation.readOr false (g.reads o service caller).active = true := by
  rw [Validation.readOr_eq_iff Bool.false_ne_true, reads, answer_eq_ok_iff]
  exact ⟨fun ⟨hanswered, hactive⟩ => ⟨hanswered, hactive⟩, fun ⟨hanswered, hactive⟩ => ⟨hanswered, hactive⟩⟩

theorem admits_iff {account : Address} :
    g.Admits o service account ↔
      Validation.readOr false (g.reads o service (some account)).permitted = true := by
  rw [Validation.readOr_eq_iff Bool.false_ne_true, reads, answer_eq_ok_iff]
  exact ⟨fun ⟨hanswered, hpermits⟩ => ⟨hanswered, hpermits⟩,
    fun ⟨hanswered, hpermits⟩ => ⟨hanswered, hpermits⟩⟩

theorem operators_reads :
    Validation.readOr [] (g.reads o service caller).operators =
      if (o .operators).isNone then g.operators service else [] := by
  unfold reads answer
  cases o .operators <;> rfl

/-- The caller passes its check if there is none, or if the contract permits it. -/
theorem permitted_reads (h : ∀ account, caller = some account → g.Admits o service account) :
    (caller.map fun _ => Validation.readOr false (g.reads o service caller).permitted) =
      caller.map fun _ => true := by
  cases caller with
  | none => rfl
  | some account => exact congrArg some (admits_iff.mp (h account rfl))

/-- Every verdict is that of the first check that fails. -/
theorem judged_judge (g : Registry) (o : Outage) (service : ServiceId) (caller : Option Address) :
    g.Judged o service caller (Validation.judge service caller (g.reads o service caller)) := by
  cases hrecord : Validation.readOr none (g.reads o service caller).record with
  | none =>
    have hjudge : Validation.judge service caller (g.reads o service caller) = .error .notFound := by
      simp [Validation.judge, hrecord]
    rw [hjudge]
    refine .unknown fun record hshows => ?_
    rw [shows_iff, hrecord] at hshows
    cases hshows
  | some record =>
    have hshows := shows_iff.mpr hrecord
    by_cases hruns : g.Runs o service
    · have hactive := (runs_iff caller).mp hruns
      by_cases hadmits : ∀ account, caller = some account → g.Admits o service account
      · have hpermitted := permitted_reads hadmits
        have hfree : caller.map (fun _ => true) ≠ some false := by cases caller <;> simp
        have hjudge : Validation.judge service caller (g.reads o service caller) =
            .ok (g.learned o service caller record) := by
          rw [Validation.judge_eq_ok_iff, hpermitted, operators_reads]
          exact ⟨record, hrecord, hactive, hfree, rfl⟩
        rw [hjudge]
        exact .usable hshows hruns hadmits
      · obtain ⟨account, hcaller⟩ := Classical.not_forall.mp hadmits
        obtain ⟨rfl, hrefused⟩ := Classical.not_imp.mp hcaller
        have hno := eq_false_of_ne_true (mt admits_iff.mpr hrefused)
        have hjudge : Validation.judge service (some account) (g.reads o service (some account)) =
            .error .notPermitted := by
          simp [Validation.judge, hrecord, hactive, hno]
        rw [hjudge]
        exact .refused hshows hruns rfl hrefused
    · have hidle := eq_false_of_ne_true (mt (runs_iff caller).mpr hruns)
      have hjudge : Validation.judge service caller (g.reads o service caller) = .error .notActive := by
        simp [Validation.judge, hrecord, hidle]
      rw [hjudge]
      exact .inactive hshows hruns

theorem Shows.unique {r s : ServiceRecord} (hr : g.Shows o service r) (hs : g.Shows o service s) :
    r = s :=
  Option.some.inj (hr.known.symm.trans hs.known)

/-- There is one verdict only. -/
theorem Judged.unique {x y : Except ValidationError Validation} (hx : g.Judged o service caller x)
    (hy : g.Judged o service caller y) : x = y := by
  cases hx with
  | unknown hx =>
    cases hy with
    | unknown _ => rfl
    | inactive hy _ => exact absurd hy (hx _)
    | refused hy _ _ _ => exact absurd hy (hx _)
    | usable hy _ _ => exact absurd hy (hx _)
  | inactive hshows hx =>
    cases hy with
    | unknown hy => exact absurd hshows (hy _)
    | inactive _ _ => rfl
    | refused _ hy _ _ => exact absurd hy hx
    | usable _ hy _ => exact absurd hy hx
  | refused hshows hruns hcaller hx =>
    cases hy with
    | unknown hy => exact absurd hshows (hy _)
    | inactive _ hy => exact absurd hruns hy
    | refused _ _ _ _ => rfl
    | usable _ _ hy => exact absurd (hy _ hcaller) hx
  | usable hshows hruns hx =>
    cases hy with
    | unknown hy => exact absurd hshows (hy _)
    | inactive _ hy => exact absurd hruns hy
    | refused _ _ hcaller hy => exact absurd (hx _ hcaller) hy
    | usable hy _ _ => rw [hshows.unique hy]

end Registry

/-! ## The verdict -/

namespace Validation

/-- **The verdict on a service is that of the first check that fails**, whatever the contract knows and
whichever reads fail: the record, whether the service is active, and whether it permits the caller, if
there is one.  The operators are only reported, and a service that passed is usable by the account that it
was validated for and by no other. -/
theorem verdict_of_first_failing_check (g : Registry) (o : Registry.Outage) (service : ServiceId)
    (caller : Option Address) :
    (∀ verdict, judge service caller (g.reads o service caller) = verdict ↔
      g.Judged o service caller verdict) ∧
    (∀ operators, judge service caller { g.reads o service caller with operators } =
      (judge service caller (g.reads o service caller)).map fun v =>
        { v with operators := readOr [] operators }) ∧
    ∀ v account, judge service caller (g.reads o service caller) = .ok v →
      (v.isUsableBy account = true ↔ ∃ a, account = some a ∧ v.caller = some a) := by
  refine ⟨fun verdict => ⟨?_, fun h => ?_⟩, fun operators => judge_operators operators,
    fun v account h => isUsableBy_iff_of_judge h⟩
  · rintro rfl
    exact g.judged_judge o service caller
  · exact (g.judged_judge o service caller).unique h

/-- A contract that permits one account, to every service it knows. -/
private def oneTenant : Registry where
  record service := some ⟨service, ⟨.ofNat 1⟩, .zero, [.zero], .ofNat 0⟩
  active _ := true
  operators _ := [.zero]
  permits _ account := account == .zero

/-- The operators cannot be read. -/
private def noOperatorsRead : Registry.Outage
  | .operators => some (.read "unavailable")
  | _ => none

theorem verdict_of_first_failing_check_noOperatorsRead :
    let service : ServiceId := ⟨.ofNat 9⟩
    let stranger : Address := ⟨List.replicate 40 ⟨1, by decide⟩, rfl⟩
    let v : Validation :=
      ⟨service, ⟨service, ⟨.ofNat 1⟩, .zero, [.zero], .ofNat 0⟩, true, [], some .zero, some true⟩
    judge service (some .zero) (oneTenant.reads noOperatorsRead service (some .zero)) = .ok v ∧
      oneTenant.Judged noOperatorsRead service (some .zero) (.ok v) ∧
      v.isUsableBy (some .zero) = true ∧ v.isUsableBy (some stranger) ≠ true ∧ v.isUsableBy none ≠ true := by
  intro service stranger v
  have hjudge : judge service (some .zero) (oneTenant.reads noOperatorsRead service (some .zero)) = .ok v := rfl
  obtain ⟨hverdict, -, husable⟩ :=
    verdict_of_first_failing_check oneTenant noOperatorsRead service (some .zero)
  refine ⟨hjudge, (hverdict _).mp hjudge, (husable v _ hjudge).mpr ⟨.zero, rfl, rfl⟩, ?_, ?_⟩
  · intro husable'
    obtain ⟨a, hstranger, hzero⟩ := (husable v _ hjudge).mp husable'
    have hne : some stranger ≠ some .zero := by decide
    exact hne (hstranger.trans hzero.symm)
  · intro husable'
    obtain ⟨a, hnone, -⟩ := (husable v _ hjudge).mp husable'
    cases hnone

end Validation

end ChainProvision
