import ChainProvision.Console.Watch
import ChainProvision.Proofs.Follow.Polling
import Mathlib.Data.List.Destutter

/-!
# What is told of the states of a poller

A viewer looks at some of the states that a poller shows, in their order, and need not see them all.  It
tells each report unless the one seen before agrees with it in phase and progress, warns of each error that
is not the one seen before, and stops at a final report.  Since only the last state that a poller shows can
be final, the verdict of a viewer who sees that one is the verdict on it.

## Main definitions

- `PollState.Before`, `Showing`: the order in which a poller shows states.
- `Report.Differs`: reports that are told one after the other.
- `newComplaints`: the texts that errors turn into.

## Main statements

- `Showing.reports_follow`, `Showing.complaints_follow`: what is told.
- `Showing.verdict_follow`: how it ends.
-/

namespace ChainProvision

/-- One state is shown before another: nothing final was known yet, and no report goes back. -/
structure PollState.Before (s t : PollState) : Prop where
  unfinished : ∀ r, s.report = some r → r.phase.isTerminal = false
  advances : ∀ r, s.report = some r → ∃ next, t.report = some next ∧ r.phase.canAdvanceTo next.phase = true

theorem PollState.Before.trans {s t u : PollState} (hst : s.Before t) (htu : t.Before u) : s.Before u := by
  refine ⟨hst.unfinished, fun r hr => ?_⟩
  obtain ⟨next, hnext, hadvance⟩ := hst.advances r hr
  obtain ⟨last, hlast, hadvance'⟩ := htu.advances next hnext
  exact ⟨last, hlast, Phase.canAdvanceTo_trans hadvance hadvance'⟩

namespace Report

/-- What is remembered of a report that was told. -/
def mark (r : Report) : Phase × Nat := (r.phase, r.progress)

/-- Reports of another phase or another progress. -/
def Differs (r next : Report) : Prop := r.mark ≠ next.mark

instance : DecidableRel Differs := fun _ _ => inferInstanceAs (Decidable (_ ≠ _))

end Report

namespace Console

/-- States in the order in which a poller shows them; with a final report there is no error. -/
structure Showing (states : List PollState) : Prop where
  ordered : states.Pairwise PollState.Before
  calm : ∀ s ∈ states, ∀ r, s.report = some r → r.phase.isTerminal = true → s.error = none

/-- The report that a notice tells. -/
def Notice.report? : Notice → Option Report
  | .provision r => some r
  | _ => none

/-- The error that a notice warns of. -/
def Notice.complaint? : Notice → Option String
  | .warning message => some message
  | _ => none

/-- The texts that errors turn into, each other than the error before it. -/
def newComplaints (last : Option String) (errors : List (Option String)) : List String :=
  ((last :: errors).zip errors).filterMap fun turn => if turn.2 = turn.1 then none else turn.2

theorem newComplaints_cons (last error : Option String) (errors : List (Option String)) :
    newComplaints last (error :: errors) =
      (if error = last then none else error).toList ++ newComplaints error errors := by
  rw [newComplaints, List.zip_cons_cons, List.filterMap_cons]
  cases (if error = last then none else error) <;> rfl

/-! ## One look -/

section Look

variable (v : Viewed) (s : PollState)

/-- There is a verdict on a report just if it is final. -/
theorem verdict?_eq_none_iff {r : Report} : Viewed.verdict? r = none ↔ r.phase.isTerminal = false := by
  unfold Viewed.verdict? Report.isFailed Report.isReady
  cases r.phase <;> simp [Phase.isTerminal]

theorem verdict_look : (v.look s).verdict = s.report.bind Viewed.verdict? := by
  unfold Viewed.look
  cases hverdict : s.report.bind Viewed.verdict? <;> rfl

/-- What is told of a report before its verdict is looked at. -/
private def toldFirst : Viewed × List Notice :=
  match s.report with
  | some r => v.tell r
  | none => (v, [])

private theorem toldFirst_reports :
    (toldFirst v s).2.filterMap Notice.report? = (s.report.toList.filter fun r => v.shown ≠ some r.mark) ∧
      (toldFirst v s).1.shown = (s.report.map Report.mark).or v.shown := by
  unfold toldFirst
  cases s.report with
  | none => exact ⟨rfl, rfl⟩
  | some r =>
    simp only [Viewed.tell]
    by_cases hsame : v.shown = some (r.phase, r.progress)
    · rw [if_pos hsame]
      simp [Report.mark, hsame]
    · rw [if_neg hsame]
      simp [Report.mark, hsame, Notice.report?]

private theorem toldFirst_complaints :
    (toldFirst v s).2.filterMap Notice.complaint? = [] ∧ (toldFirst v s).1.error = v.error := by
  unfold toldFirst
  cases s.report with
  | none => exact ⟨rfl, rfl⟩
  | some r =>
    simp only [Viewed.tell]
    split
    · exact ⟨rfl, rfl⟩
    · exact ⟨rfl, rfl⟩

/-- What is told of an error is no report, and the report remembered stays. -/
private theorem warn_cases (v : Viewed) (error : Option String) :
    (v.warn error).1 = { v with error } ∧ (v.warn error).2.filterMap Notice.report? = [] ∧
      (v.warn error).2.filterMap Notice.complaint? = (if error = v.error then none else error).toList := by
  unfold Viewed.warn
  split
  · rename_i hsame
    subst hsame
    exact ⟨rfl, rfl, rfl⟩
  · cases error <;> exact ⟨rfl, rfl, rfl⟩

private theorem look_of_open (hopen : s.report.bind Viewed.verdict? = none) :
    v.look s = ⟨((toldFirst v s).1.warn s.error).1, (toldFirst v s).2 ++ ((toldFirst v s).1.warn s.error).2,
      none⟩ := by
  unfold Viewed.look
  rw [hopen]
  rfl

private theorem look_of_verdict {verdict : Verdict} (hverdict : s.report.bind Viewed.verdict? = some verdict) :
    v.look s = ⟨(toldFirst v s).1, (toldFirst v s).2, some verdict⟩ := by
  unfold Viewed.look
  rw [hverdict]
  rfl

/-- A look tells a report unless its mark is the one remembered, and remembers its mark. -/
theorem reports_look :
    (v.look s).notices.filterMap Notice.report? =
        (s.report.toList.filter fun r => v.shown ≠ some r.mark) ∧
      (v.look s).viewed.shown = (s.report.map Report.mark).or v.shown := by
  obtain ⟨htold, hshown⟩ := toldFirst_reports v s
  cases hverdict : s.report.bind Viewed.verdict? with
  | none =>
    obtain ⟨hviewed, hreports, -⟩ := warn_cases (toldFirst v s).1 s.error
    rw [look_of_open v s hverdict, List.filterMap_append, htold, hreports, List.append_nil, hviewed]
    exact ⟨rfl, hshown⟩
  | some verdict =>
    rw [look_of_verdict v s hverdict]
    exact ⟨htold, hshown⟩

/-- A look that brings no verdict warns of an error unless it is the one remembered, and remembers it. -/
theorem complaints_look (hopen : (v.look s).verdict = none) :
    (v.look s).notices.filterMap Notice.complaint? = (if s.error = v.error then none else s.error).toList ∧
      (v.look s).viewed.error = s.error := by
  rw [verdict_look] at hopen
  obtain ⟨htold, herror⟩ := toldFirst_complaints v s
  obtain ⟨hviewed, -, hcomplaints⟩ := warn_cases (toldFirst v s).1 s.error
  rw [look_of_open v s hopen, List.filterMap_append, htold, List.nil_append, hcomplaints, hviewed, herror]
  exact ⟨rfl, rfl⟩

/-- A look that brings a verdict warns of nothing. -/
theorem complaints_look_of_verdict {verdict : Verdict} (hclosed : (v.look s).verdict = some verdict) :
    (v.look s).notices.filterMap Notice.complaint? = [] := by
  rw [verdict_look] at hclosed
  rw [look_of_verdict v s hclosed]
  exact (toldFirst_complaints v s).1

end Look

/-! ## Looking again and again -/

variable {v : Viewed} {s : PollState} {states seen : List PollState}

theorem follow_cons_of_open (h : (v.look s).verdict = none) :
    follow v (s :: states) =
      { follow (v.look s).viewed states with
        notices := (v.look s).notices ++ (follow (v.look s).viewed states).notices } := by
  rw [follow]
  simp only [h]

theorem follow_cons_of_verdict {verdict : Verdict} (h : (v.look s).verdict = some verdict) :
    follow v (s :: states) = v.look s := by
  rw [follow]
  simp only [h]

theorem Showing.sublist (h : Showing states) (hseen : seen.Sublist states) : Showing seen :=
  ⟨h.ordered.sublist hseen, fun s hs => h.calm s (hseen.subset hs)⟩

theorem Showing.tail (h : Showing (s :: states)) : Showing states := h.sublist (List.sublist_cons_self s states)

/-- Nothing is shown after a state that a verdict is brought on. -/
theorem Showing.last_of_verdict (h : Showing (s :: states)) (hverdict : (v.look s).verdict ≠ none) :
    states = [] := by
  rw [verdict_look] at hverdict
  cases hreport : s.report with
  | none => exact absurd (by rw [hreport]; rfl) hverdict
  | some r =>
    rw [hreport] at hverdict
    by_contra hmore
    obtain ⟨t, ht⟩ := List.exists_mem_of_ne_nil states hmore
    have hbefore := List.rel_of_pairwise_cons h.ordered ht
    exact hverdict (verdict?_eq_none_iff.mpr (hbefore.unfinished r hreport))

/-- One look tells a report just if it differs from the one seen last. -/
private theorem reports_cons {last : Option Report} (hlast : v.shown = last.map Report.mark)
    {told more : List Report}
    (hmore : ∀ next : Option Report, (v.look s).viewed.shown = next.map Report.mark →
      next.toList ++ told = (next.toList ++ more).destutter Report.Differs) :
    last.toList ++ ((v.look s).notices.filterMap Notice.report? ++ told) =
      (last.toList ++ (s.report.toList ++ more)).destutter Report.Differs := by
  obtain ⟨hreports, hshown⟩ := reports_look v s
  rw [hreports]
  cases hreport : s.report with
  | none =>
    apply hmore last
    rw [hshown, hreport, hlast]
    rfl
  | some r =>
    have hnext := hmore (some r) (by rw [hshown, hreport]; rfl)
    cases last with
    | none =>
      -- Nothing was told before, so whatever comes first is.
      have hfirst : v.shown ≠ some r.mark := by rw [hlast]; simp
      simpa [hfirst] using hnext
    | some before =>
      by_cases hsame : before.mark = r.mark
      · -- The report is passed over, and the one before it still stands for both.
        have hagain := hmore (some before) (by rw [hshown, hreport]; simp [hsame])
        have hshown' : v.shown = some r.mark := by rw [hlast, ← hsame]; rfl
        have hdiffers : ¬ before.Differs r := fun h => h hsame
        simpa [hshown', List.destutter_cons', hdiffers] using hagain
      · have hshown' : v.shown ≠ some r.mark := by rw [hlast]; simpa using hsame
        have hdiffers : before.Differs r := hsame
        simpa [hshown', List.destutter_cons', hdiffers] using hnext

/-- **A report is told just if it differs from the one seen before it.** -/
theorem Showing.reports_follow (h : Showing seen) {last : Option Report}
    (hlast : v.shown = last.map Report.mark) :
    last.toList ++ (follow v seen).notices.filterMap Notice.report? =
      (last.toList ++ seen.filterMap (·.report)).destutter Report.Differs := by
  -- By induction on the states, with the report that was seen last in front of those still to come.
  induction seen generalizing v last with
  | nil => cases last <;> rfl
  | cons s states ih =>
    have hseen : (s :: states).filterMap (·.report) = s.report.toList ++ states.filterMap (·.report) := by
      rw [List.filterMap_cons]
      cases s.report <;> rfl
    rw [hseen]
    cases hverdict : (v.look s).verdict with
    | none =>
      rw [follow_cons_of_open hverdict, List.filterMap_append]
      exact reports_cons hlast fun next hnext => ih h.tail hnext
    | some verdict =>
      -- The state is the last one, and there is nothing more to tell.
      obtain rfl := h.last_of_verdict (by rw [hverdict]; simp)
      rw [follow_cons_of_verdict hverdict, ← List.append_nil (List.filterMap _ _)]
      refine reports_cons hlast fun next _ => ?_
      cases next <;> rfl

/-- **A warning is given just if the error turns into another text.** -/
theorem Showing.complaints_follow (h : Showing seen) :
    (follow v seen).notices.filterMap Notice.complaint? = newComplaints v.error (seen.map (·.error)) := by
  induction seen generalizing v with
  | nil => rfl
  | cons s states ih =>
    rw [List.map_cons, newComplaints_cons]
    cases hverdict : (v.look s).verdict with
    | none =>
      obtain ⟨hcomplaints, herror⟩ := complaints_look v s hverdict
      rw [follow_cons_of_open hverdict, List.filterMap_append, hcomplaints, ih h.tail, herror]
    | some verdict =>
      -- The last look warns of nothing, and there is nothing to warn of.
      obtain rfl := h.last_of_verdict (by rw [hverdict]; simp)
      rw [follow_cons_of_verdict hverdict, complaints_look_of_verdict v s hverdict]
      rw [verdict_look] at hverdict
      obtain ⟨r, hreport, hfinal⟩ := Option.bind_eq_some_iff.mp hverdict
      have hcalm : s.error = none := by
        apply h.calm s List.mem_cons_self r hreport
        cases hphase : r.phase.isTerminal with
        | true => rfl
        | false => cases (verdict?_eq_none_iff.mpr hphase).symm.trans hfinal
      rw [hcalm, ite_self]
      rfl

/-- **The verdict is that on the last state.** -/
theorem Showing.verdict_follow (h : Showing seen) :
    (follow v seen).verdict = (seen.getLast?.bind (·.report)).bind Viewed.verdict? := by
  induction seen generalizing v with
  | nil => rfl
  | cons s states ih =>
    cases hverdict : (v.look s).verdict with
    | none =>
      rw [follow_cons_of_open hverdict]
      show (follow (v.look s).viewed states).verdict = _
      cases states with
      | nil =>
        rw [verdict_look] at hverdict
        exact hverdict.symm
      | cons t states => rw [ih h.tail, List.getLast?_cons_cons]
    | some verdict =>
      obtain rfl := h.last_of_verdict (by rw [hverdict]; simp)
      rw [follow_cons_of_verdict hverdict, verdict_look]
      rfl

/-- Reports that are told do not go back. -/
theorem Showing.advances (h : Showing states) :
    (states.filterMap (·.report)).Pairwise fun r next => r.phase.canAdvanceTo next.phase = true := by
  rw [List.pairwise_filterMap]
  refine h.ordered.imp fun {s t} hbefore r hr next hnext => ?_
  obtain ⟨next', hnext', hadvance⟩ := hbefore.advances r hr
  obtain rfl := Option.some.inj (hnext'.symm.trans hnext)
  exact hadvance

/-- A look at one more state goes on from what was remembered. -/
theorem follow_concat (h : (follow v states).verdict = none) :
    follow v (states ++ [s]) =
      { (follow v states).viewed.look s with
        notices := (follow v states).notices ++ ((follow v states).viewed.look s).notices } := by
  induction states generalizing v with
  | nil =>
    cases hverdict : (v.look s).verdict with
    | none =>
      rw [List.nil_append, follow_cons_of_open hverdict]
      simp [follow, hverdict]
    | some verdict =>
      rw [List.nil_append, follow_cons_of_verdict hverdict]
      rfl
  | cons t states ih =>
    cases hverdict : (v.look t).verdict with
    | none =>
      rw [follow_cons_of_open hverdict] at h ⊢
      rw [List.cons_append, follow_cons_of_open hverdict, ih h]
      simp
    | some verdict =>
      rw [follow_cons_of_verdict hverdict, hverdict] at h
      cases h

end Console

end ChainProvision
