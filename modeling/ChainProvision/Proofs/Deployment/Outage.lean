import ChainProvision.Proofs.Deployment.Tandem

/-!
# Failing stores do not matter to a deployment

The stores are written to and never read.  So whichever of their calls fail, a deployer shows the
same, returns the same and asks for the same; only what the stores have kept is another thing.

## Main statements

- `Deployer.tandem_step_of_stores`: a step does not depend on what the stores have kept, nor on which
  of their calls fail.
- `Relay.failing_stores_do_not_matter`: neither does a whole run.
-/

namespace ChainProvision

open Deployer

namespace Deployer

variable {m m' : Moment} {d d' : Deployer} {e : Event}

/-- To be the same is a likeness. -/
theorem likeness_eq : Likeness Eq where
  status h := by rw [h]
  change h _ _ := by rw [h]

theorem tandem_of_stores (d : Deployer) (shelf : Shelf) (journal : Journal) :
    Tandem Eq False d { d with shelf, journal } where
  settings := rfl
  encoder := rfl
  generation := rfl
  tracker := rfl
  vigil := rfl
  deploys := rfl
  log := rfl
  front := rfl
  journal := False.elim
  shelf := False.elim

/-- Two deployers in tandem with the same front differ at most in what their stores have kept. -/
theorem Tandem.eq_of_front (h : Tandem Eq False d d') :
    d' = { d with shelf := d'.shelf, journal := d'.journal } := by
  obtain ⟨hsettings, hencoder, hgeneration, htracker, hvigil, hdeploys, hlog, hfront, -, -⟩ := h
  obtain ⟨hstate, hinputs, hchecks, hdiscoveries, hreleased⟩ := Front.mk.inj hfront
  cases d
  cases d'
  simp_all

theorem Tandem.isGone_eq (h : Tandem Eq False d d') : d'.isGone = d.isGone := by
  rw [h.eq_of_front]
  rfl

private theorem tandem_begin (hwall : m'.wall = m.wall) (d : Deployer) (shelf : Shelf)
    (journal : Journal) :
    Tandem Eq False (d.begin m).1 (({ d with shelf, journal } : Deployer).begin m').1 ∧
      (({ d with shelf, journal } : Deployer).begin m').2 = (d.begin m).2 := by
  have hopening : ({ d with shelf, journal } : Deployer).opening = d.opening := rfl
  unfold begin
  rw [hopening, hwall]
  dsimp only
  split
  · exact ⟨tandem_of_stores _ _ _, rfl⟩
  · exact ⟨tandem_of_stores _ _ _, rfl⟩
  · exact ⟨tandem_of_stores _ _ _, rfl⟩
  · refine ⟨?_, rfl⟩
    dsimp only
    apply Tandem.showTx likeness_eq
    exact tandem_of_stores _ shelf journal

private theorem tandem_chooseService (d : Deployer) (shelf : Shelf) (journal : Journal)
    (outcome : Option (Except ValidationError Validation)) :
    Tandem Eq False (d.chooseService outcome)
      (({ d with shelf, journal } : Deployer).chooseService outcome) := by
  rcases outcome with _ | (e | validation)
  · exact tandem_of_stores _ _ _
  · exact tandem_of_stores _ _ _
  · exact tandem_of_stores _ _ _

/-- **A step does not depend on the stores**: neither on what they have kept, nor on which of their
calls fail. -/
theorem tandem_step_of_stores (h : Tandem Eq False d d') (hm : m.Like False m') (e : Event) :
    Tandem Eq False (d.step m e).1 (d'.step m' e).1 ∧ (d'.step m' e).2 = (d.step m e).2 := by
  cases he : e.isOfAttempt with
  | true => exact h.step likeness_eq hm he
  | false =>
    -- What is not of an attempt finds the same but for the stores, and leaves them alone.
    rw [h.eq_of_front]
    generalize d'.shelf = shelf
    generalize d'.journal = journal
    cases e with
    | deploy => exact tandem_begin hm.wall d shelf journal
    | service service =>
      cases service with
      | none =>
        simp only [step]
        exact ⟨tandem_chooseService _ _ _ _, trivial⟩
      | some service => exact ⟨tandem_of_stores _ _ _, rfl⟩
    | serviceRead i reads =>
      simp only [step]
      split
      · exact ⟨tandem_chooseService _ _ _ _, rfl⟩
      · exact ⟨tandem_of_stores _ _ _, rfl⟩
    | operatorsRead i reply =>
      simp only [step]
      split
      · exact ⟨tandem_of_stores _ _ _, rfl⟩
      · exact ⟨tandem_of_stores _ _ _, rfl⟩
    | reset =>
      simp only [step, reset]
      split
      · exact ⟨tandem_of_stores _ _ _, trivial⟩
      · exact ⟨tandem_of_stores _ _ _, trivial⟩
    | form | account | mode | discover | release => exact ⟨tandem_of_stores _ _ _, rfl⟩
    | _ => cases he

end Deployer

namespace Relay

variable {m m' : Moment} {r r' : Relay}

/-! ## Runs -/

/-- Two relays that differ at most in what their stores have kept. -/
structure SameSaveStores (r r' : Relay) : Prop where
  tandem : Tandem Eq False r r'
  trace : r'.trace = r.trace
  seen : r'.seen = r.seen

theorem SameSaveStores.eq (h : SameSaveStores r r') :
    r' = { r with
      deployer := { r.deployer with shelf := r'.deployer.shelf, journal := r'.deployer.journal } } := by
  obtain ⟨⟨hdeployer, hahead⟩, htrace, hseen⟩ := h
  obtain ⟨d, ahead, trace, seen⟩ := r
  obtain ⟨d', ahead', trace', seen'⟩ := r'
  obtain rfl : ahead' = ahead := hahead
  obtain rfl : trace' = trace := htrace
  obtain rfl : seen' = seen := hseen
  exact congrArg (Relay.mk · ahead' trace' seen') hdeployer.eq_of_front

/-- The same happens at the same time; the calls of the stores that fail may be others. -/
def SameSaveOutage (x y : Moment × Occurrence) : Prop :=
  ∃ outage, y = ({ x.1 with outage }, x.2)

private theorem eq_of_shown {shown shown' : List DeployState}
    (h : List.Forall₂ (Likeness.Shown Eq) shown shown') : shown' = shown := by
  have hsame : List.Forall₂ Eq shown shown' := h.imp fun _ _ ⟨_, _, hfront, hs, hs'⟩ => by
    rw [← hs, ← hs', hfront]
  rw [List.forall₂_eq_eq_eq] at hsame
  exact hsame.symm

theorem SameSaveStores.take (h : SameSaveStores r r') (hm : m.Like False m') (e : Event) :
    SameSaveStores (r.take m e).1 (r'.take m' e).1 ∧
      r'.shows (m', .event e) = r.shows (m, .event e) := by
  have hgone := h.tandem.deployer.isGone_eq
  obtain ⟨hstep, heffects⟩ := tandem_step_of_stores h.tandem.deployer hm e
  refine ⟨?_, eq_of_shown (h.tandem.shows_event likeness_eq hm hgone hstep)⟩
  cases hthere : r.deployer.isGone with
  | true =>
    have hthere' : r'.deployer.isGone = true := hgone.trans hthere
    simp only [Relay.take, hthere, hthere', if_true]
    exact h
  | false =>
    have hthere' : r'.deployer.isGone = false := hgone.trans hthere
    have hnext : (r'.take m' e).1.deployer.isGone = (r.take m e).1.deployer.isGone := by
      simp only [Relay.take, hthere, hthere', Bool.false_eq_true, if_false, h.tandem.react?_eq hm]
      split
      · exact hgone
      · simp only [Deployer.handle, hthere, hthere', Bool.false_eq_true, if_false, settleRelease_isGone]
        exact hstep.isGone_eq
    obtain ⟨htandem, hasked⟩ := h.tandem.take hm hgone hstep heffects hnext
    exact ⟨htandem, by rw [trace_take hthere, trace_take hthere', h.trace, hasked],
      by rw [seen_take, seen_take, h.seen]⟩

theorem SameSaveStores.look (h : SameSaveStores r r') (hm : m.Like False m') :
    SameSaveStores (r.look m) (r'.look m') ∧ r'.shows (m', .look) = r.shows (m, .look) := by
  have hgone := h.tandem.deployer.isGone_eq
  refine ⟨⟨h.tandem.look likeness_eq hm hgone, ?_, ?_⟩,
    eq_of_shown (h.tandem.shows_look likeness_eq hm hgone)⟩
  · rw [trace_look, trace_look, h.trace]
  · simp only [Relay.look, hgone, h.tandem.deployer.vigil, h.tandem.ahead]
    split
    · exact h.seen
    · split <;> exact h.trace

theorem SameSaveStores.step (h : SameSaveStores r r') {x y : Moment × Occurrence}
    (hxy : SameSaveOutage x y) : SameSaveStores (r.step x) (r'.step y) ∧ r'.shows y = r.shows x := by
  obtain ⟨m, occurrence⟩ := x
  obtain ⟨outage, rfl⟩ := hxy
  have hm : m.Like False { m with outage } := ⟨rfl, rfl, False.elim⟩
  cases occurrence with
  | event e => exact h.take hm e
  | look => exact h.look hm

theorem SameSaveStores.run (h : SameSaveStores r r') {xs ys : List (Moment × Occurrence)}
    (hxs : List.Forall₂ SameSaveOutage xs ys) :
    SameSaveStores (r.run xs) (r'.run ys) ∧ r'.film ys = r.film xs := by
  induction hxs generalizing r r' with
  | nil => exact ⟨h, rfl⟩
  | cons hxy _ ih =>
    obtain ⟨hstep, hshows⟩ := h.step hxy
    obtain ⟨hrun, hfilm⟩ := ih hstep
    exact ⟨hrun, congrArg₂ List.cons hshows hfilm⟩

/-- **Failing stores do not matter to a deployment.**  Of two runs that differ only in which calls of
the stores fail, each occurrence shows the same states, and at the end all is the same but what the
stores have kept: the results of the calls, and the trace of all that was asked for, included. -/
theorem failing_stores_do_not_matter (settings : Settings) (encoder : Encoder) (mode : ResourceKind)
    {xs ys : List (Moment × Occurrence)} (h : List.Forall₂ SameSaveOutage xs ys) :
    let start := Relay.of (new settings encoder mode)
    start.film ys = start.film xs ∧
      ∃ shelf journal, start.run ys =
        { start.run xs with deployer := { (start.run xs).deployer with shelf, journal } } := by
  intro start
  have hsame : SameSaveStores start start := ⟨⟨tandem_of_stores _ _ _, rfl⟩, rfl, rfl⟩
  obtain ⟨hrun, hfilm⟩ := hsame.run h
  exact ⟨hfilm, _, _, hrun.eq⟩

/-- A sandbox from the form to the end, with the same outage all the way. -/
private def boxRun (hash : TxHash) (outage : Outage) : List (Moment × Occurrence) := [
  (⟨0, .epoch, outage⟩, .event (.form { name := "box", image := "debian" })),
  (⟨1, .epoch, outage⟩, .event (.account (some .zero))),
  (⟨2, .epoch, outage⟩, .event .deploy),
  (⟨3, .epoch, outage⟩, .event (.answer 0 (.signature (.ok ())))),
  (⟨4, .epoch, outage⟩, .event (.answer 0 (.broadcast (.ok hash)))),
  (⟨5, .epoch, outage⟩, .event (.answer 0 (.receipt (.ok jobReceipt)))),
  (⟨6, .epoch, outage⟩, .event .wake),
  (⟨7, .epoch, outage⟩, .event (.fetched 1 2 (.ok (some { call := ⟨.ofNat 7⟩, phase := .ready })))),
  (⟨8, .epoch, outage⟩, .look)]

/-- With all calls of the stores failing the sandbox gets ready as it does with none. -/
theorem failing_stores_do_not_matter_boxRun :
    let start := Relay.of (new .sample .json .sandbox)
    let works := boxRun ⟨[1], by decide, by decide⟩ {}
    let fails := boxRun ⟨[1], by decide, by decide⟩ ⟨true, true, true, true⟩
    List.Forall₂ SameSaveOutage works fails ∧ start.film fails = start.film works ∧
      (start.run works).deployer.state.value.status = .ready ∧
      (start.run works).deployer.shelf ≠ (start.run fails).deployer.shelf := by
  intro start works fails
  have h : List.Forall₂ SameSaveOutage works fails := by
    simp only [works, fails, boxRun, List.forall₂_cons, List.forall₂_nil_left_iff, and_true]
    exact ⟨⟨_, rfl⟩, ⟨_, rfl⟩, ⟨_, rfl⟩, ⟨_, rfl⟩, ⟨_, rfl⟩, ⟨_, rfl⟩, ⟨_, rfl⟩, ⟨_, rfl⟩, ⟨_, rfl⟩⟩
  obtain ⟨hfilm, -⟩ := failing_stores_do_not_matter .sample .json .sandbox h
  exact ⟨h, hfilm, by decide, by decide⟩

end Relay

end ChainProvision
