import ChainProvision.Console.Session
import ChainProvision.Proofs.Console.Looking

/-!
# The course of a watch

A watch is followed from outside: what has passed between its poller and the operator, and which states the
poller has shown.  What the command tells depends on the states that it happens to see, but whichever those
are, it tells each change that it sees, and ends as the answers of the operator say.

## Main definitions

- `Course`: a watch as it looks from outside.
- `Session.after`: a session with all that it tells.
- `Ending`: how a watch ends, by what the answers come to.

## Main statements

- `Course.Sound.step`, `Course.sound_after`: what a poller shows goes forward, and is what the answers come
  to.
- `Course.Carried.step`, `Course.carried_after`: a session tells what a viewer of all states is told.
- `Course.watch_tells_each_change_and_ends_as_answered`: what a watch tells, and how it ends.
-/

namespace ChainProvision

/-- The verdict that answers come to. -/
def Tidings.verdict? : Tidings → Option Console.Verdict
  | .open _ => none
  | .closed r => Console.Viewed.verdict? r

namespace Console

/-! ## Sessions -/

namespace Session

/-- The notice among the effects. -/
def Effect.notice? : Effect → Option Notice
  | .tell notice => some notice
  | .fetch _ _ _ => none

/-- A session after an event, with what it has told. -/
def step (s : Session × List Notice) (e : Nat × Event) : Session × List Notice :=
  ((s.1.handle e.1 e.2).1, s.2 ++ (s.1.handle e.1 e.2).2.filterMap Effect.notice?)

/-- A session after some events, with all that it has told. -/
def after (s : Session) (events : List (Nat × Event)) : Session × List Notice := events.foldl step (s, [])

end Session

/-- How a watch ends that has told some notices: it goes on while the answers leave the matter open, and
otherwise it is over, and tells that the resource is ready or that it failed. -/
inductive Ending (call : CallId) (told : List Notice) : Tidings → Session → List Notice → Prop where
  | waiting {last : Option Report} {w : Watch} : Ending call told (.open last) (.watch w) told
  | ready {r : Report} {elapsed : Span} :
      r.phase = .ready →
      Ending call told (.closed r) (.over 0)
        (told ++ [.success ("Call " ++ call.text ++ " is ready: " ++ r.resource.getD "unknown") (some elapsed)])
  | failed {r : Report} :
      r.phase = .failed →
      Ending call told (.closed r) (.over 1)
        (told ++ [.error (CommandError.provisionFailed (r.message.getD "unknown error")).message])

/-- A watch succeeds just if a ready report closed the matter. -/
theorem Ending.succeeds_iff {call : CallId} {told all : List Notice} {t : Tidings} {s : Session}
    (h : Ending call told t s all) : s = .over 0 ↔ ∃ r, t = .closed r ∧ r.phase = .ready := by
  cases h with
  | waiting => simp
  | ready hready => exact iff_of_true rfl ⟨_, rfl, hready⟩
  | failed hfailed =>
    refine iff_of_false (by simp) ?_
    rintro ⟨_, ⟨⟩, hready⟩
    cases hready.symm.trans hfailed

theorem notices_tell (notices : List Notice) :
    (notices.map Session.Effect.tell).filterMap Session.Effect.notice? = notices := by
  rw [List.filterMap_map]
  exact List.filterMap_some

/-- There is a verdict just if the matter is closed, and which one the phase of the final report says. -/
theorem verdict?_cases {t : Tidings} (ht : t.Proper) :
    (∃ last, t = .open last ∧ t.verdict? = none) ∨
    (∃ r, t = .closed r ∧ r.phase = .ready ∧ t.verdict? = some (.ok r)) ∨
    ∃ r, t = .closed r ∧ r.phase = .failed ∧
      t.verdict? = some (.error (.provisionFailed (r.message.getD "unknown error"))) := by
  cases t with
  | «open» last => exact Or.inl ⟨last, rfl, rfl⟩
  | closed r =>
    right
    rcases Phase.isTerminal_iff.mp ht with hready | hfailed
    · left
      refine ⟨r, rfl, hready, ?_⟩
      simp [Tidings.verdict?, Viewed.verdict?, Report.isFailed, Report.isReady, hready]
    · right
      refine ⟨r, rfl, hfailed, ?_⟩
      simp [Tidings.verdict?, Viewed.verdict?, Report.isFailed, hfailed]

/-- The answers come to a success just if a ready report closed the matter. -/
theorem verdict?_eq_ok_iff {t : Tidings} (ht : t.Proper) {r : Report} :
    t.verdict? = some (.ok r) ↔ t = .closed r ∧ r.phase = .ready := by
  rcases verdict?_cases ht with ⟨last, rfl, hnone⟩ | ⟨r', rfl, hready, hok⟩ | ⟨r', rfl, hfailed, herror⟩
  · simp [hnone]
  · rw [hok]
    constructor
    · rintro ⟨⟩
      exact ⟨rfl, hready⟩
    · rintro ⟨⟨⟩, -⟩
      rfl
  · rw [herror]
    constructor
    · rintro ⟨⟩
    · rintro ⟨⟨⟩, hready⟩
      cases hready.symm.trans hfailed

/-- They come to a failure just if a failed one did. -/
theorem verdict?_eq_error_iff {t : Tidings} (ht : t.Proper) {e : CommandError} :
    t.verdict? = some (.error e) ↔ ∃ r, t = .closed r ∧ r.phase = .failed ∧
      e = .provisionFailed (r.message.getD "unknown error") := by
  rcases verdict?_cases ht with ⟨last, rfl, hnone⟩ | ⟨r, rfl, hready, hok⟩ | ⟨r, rfl, hfailed, herror⟩
  · simp [hnone]
  · rw [hok]
    constructor
    · rintro ⟨⟩
    · rintro ⟨_, ⟨⟩, hfailed, -⟩
      cases hready.symm.trans hfailed
  · rw [herror]
    constructor
    · rintro ⟨⟩
      exact ⟨r, rfl, hfailed, rfl⟩
    · rintro ⟨_, ⟨⟩, -, rfl⟩
      rfl

/-- The end of a watch is by the verdict that the answers come to. -/
theorem ending_conclude {t : Tidings} (ht : t.Proper) (w : Watch) (before notices : List Notice) (now : Nat) :
    Ending w.call (before ++ notices) t (Session.conclude w notices t.verdict? now).1
      (before ++ (Session.conclude w notices t.verdict? now).2.filterMap Session.Effect.notice?) := by
  have htold := notices_tell notices
  rcases verdict?_cases ht with ⟨last, rfl, hnone⟩ | ⟨r, rfl, hready, hok⟩ | ⟨r, rfl, hfailed, herror⟩
  · simp only [hnone, Session.conclude, htold]
    exact .waiting
  · simp only [hok, Session.conclude, List.filterMap_append, htold]
    rw [← List.append_assoc]
    exact .ready hready
  · simp only [herror, Session.conclude, Session.failure, List.filterMap_append, htold]
    rw [← List.append_assoc]
    exact .failed hfailed

/-! ## The states that are shown -/

/-- What a reply changes goes forward, and a final report comes without an error. -/
theorem before_absorb {s : PollState} (hopen : ∀ r, s.report = some r → r.phase.isTerminal = false)
    (reply : FetchReply) :
    s.Before (Poller.absorb reply s).1 ∧
      ∀ r, (Poller.absorb reply s).1.report = some r → r.phase.isTerminal = true →
        (Poller.absorb reply s).1.error = none := by
  have hsame : ∀ t : PollState, t.report = s.report →
      s.Before t ∧ ∀ r, t.report = some r → r.phase.isTerminal = true → t.error = none := by
    intro t ht
    refine ⟨⟨hopen, fun r hr => ⟨r, by rw [ht, hr], r.phase.canAdvanceTo_refl⟩⟩, ?_⟩
    intro r hr hfinal
    rw [ht] at hr
    rw [hopen r hr] at hfinal
    cases hfinal
  rcases reply with e | _ | r
  · exact hsame _ rfl
  · exact hsame _ rfl
  · simp only [Poller.absorb]
    split
    · rename_i haccepts
      refine ⟨⟨hopen, fun last hlast => ⟨r, rfl, ?_⟩⟩, fun _ _ _ => rfl⟩
      rw [PollState.accepts_eq, hlast] at haccepts
      exact haccepts
    · exact hsame s rfl

/-- The course of a watch as it looks from outside: its poller, what has passed between it and the operator,
and the states that it has shown, from the one at the beginning on. -/
structure Course where
  poller : Poller
  inquiry : Inquiry := {}
  shown : List PollState

namespace Course

variable {c : Course} {call : CallId} {limit : Option Span}

/-- The poller has moved on; its state is shown if it was announced. -/
def move (c : Course) (poller : Poller) (inquiry : Inquiry) : Course :=
  { poller, inquiry
    shown :=
      if poller.state.version = c.poller.state.version then c.shown else c.shown ++ [poller.state.value] }

/-- The course after an event. -/
def step (c : Course) (e : Nat × Session.Event) : Course :=
  match e.2 with
  | .wake =>
    c.move (c.poller.tick e.1).1
      (match (c.poller.tick e.1).2 with
      | some (epoch, _) => c.inquiry.ask epoch
      | none => c.inquiry)
  | .fetched epoch reply => c.move (c.poller.answer epoch reply) (c.inquiry.answer epoch reply)

/-- The course of a watch after some events. -/
def after (w : Watch) (events : List (Nat × Session.Event)) : Course :=
  events.foldl step { poller := w.poller, shown := [w.poller.state.value] }

/-- The poller knows what the answers come to, and the states that it shows go forward up to the present one. -/
structure Sound (call : CallId) (c : Course) : Prop where
  follows : c.poller.Follows call c.inquiry
  showing : Showing c.shown
  latest : c.shown.getLast? = some c.poller.state.value

theorem sound_start (config : Config) (endpoint : Endpoint) (call : CallId) (since : Nat) :
    (after (Watch.start config endpoint call since) []).Sound call := by
  refine ⟨Poller.follows_setTarget _ call since, ⟨List.pairwise_singleton _ _, ?_⟩, rfl⟩
  intro s hs r hr
  obtain rfl := List.mem_singleton.mp hs
  cases hr

/-- One more state is shown after the others. -/
private theorem Sound.concat (h : c.Sound call) {s : PollState} (hbefore : c.poller.state.value.Before s)
    (hcalm : ∀ r, s.report = some r → r.phase.isTerminal = true → s.error = none) :
    Showing (c.shown ++ [s]) := by
  obtain ⟨front, hshown⟩ := List.getLast?_eq_some_iff.mp h.latest
  have hordered := h.showing.ordered
  constructor
  · rw [hshown, List.pairwise_append] at hordered
    rw [List.pairwise_append]
    refine ⟨h.showing.ordered, List.pairwise_singleton _ _, ?_⟩
    intro t ht u hu
    obtain rfl := List.mem_singleton.mp hu
    -- Each state is the present one, or shown before it.
    rw [hshown, List.mem_append, List.mem_singleton] at ht
    rcases ht with ht | rfl
    · exact (hordered.2.2 t ht _ (List.mem_singleton_self _)).trans hbefore
    · exact hbefore
  · intro t ht
    rw [List.mem_append, List.mem_singleton] at ht
    rcases ht with ht | rfl
    · exact h.showing.calm t ht
    · exact hcalm

theorem Sound.answer (h : c.Sound call) (epoch : Nat) (reply : FetchReply) :
    (c.move (c.poller.answer epoch reply) (c.inquiry.answer epoch reply)).Sound call := by
  have hfollows := h.follows.answer epoch reply
  by_cases hasked : c.inquiry.asked = some epoch
  · obtain ⟨task, htask, hfetching, rfl⟩ := h.follows.asked_iff.mp hasked
    -- While a fetch is under way nothing final is known.
    have hopen : ∀ r, c.poller.state.value.report = some r → r.phase.isTerminal = false := by
      intro r hr
      cases h.follows with
      | polling _ _ _ hopen hreport _ =>
        have hproper := Tidings.proper_of c.inquiry.answers
        rw [hopen] at hproper
        exact hproper r (hreport ▸ hr)
      | stalled _ hnone _ _ _ => cases hnone.symm.trans htask
      | closed hnone _ _ _ => cases hnone.symm.trans htask
    obtain ⟨hbefore, hcalm⟩ := before_absorb hopen reply
    have hvalue : (c.poller.answer task.epoch reply).state.value =
        (Poller.absorb reply c.poller.state.value).1 := by
      rw [Poller.answer_of_awaited htask hfetching, Observed.value_edit]
    rw [← hvalue] at hbefore hcalm
    -- A state with the same number is the same state, and is not shown again.
    unfold move
    split
    · rename_i hversion
      have hstate : (c.poller.answer task.epoch reply).state = c.poller.state :=
        (c.poller.answer_state task.epoch reply).resolve_right (by omega)
      refine ⟨hfollows, h.showing, ?_⟩
      rw [hstate]
      exact h.latest
    · exact ⟨hfollows, h.concat hbefore hcalm, List.getLast?_concat⟩
  · obtain ⟨hpoller, hinquiry⟩ := h.follows.answer_of_unasked hasked reply
    rw [hpoller, hinquiry, move, if_pos rfl]
    exact h

theorem Sound.tick (h : c.Sound call) (now : Nat) : (c.step (now, .wake)).Sound call := by
  have hstate := c.poller.tick_state now
  unfold step move
  dsimp only
  rw [if_pos (by rw [hstate])]
  refine ⟨h.follows.tick now, h.showing, ?_⟩
  rw [hstate]
  exact h.latest

/-- **What a poller shows goes forward**, event by event. -/
theorem Sound.step (h : c.Sound call) (e : Nat × Session.Event) : (c.step e).Sound call := by
  obtain ⟨now, e⟩ := e
  cases e with
  | wake => exact h.tick now
  | fetched epoch reply => exact h.answer epoch reply

theorem sound_after (config : Config) (endpoint : Endpoint) (call : CallId) (since : Nat)
    (events : List (Nat × Session.Event)) :
    (after (Watch.start config endpoint call since) events).Sound call := by
  have hrun : ∀ c : Course, c.Sound call → (events.foldl Course.step c).Sound call := by
    induction events with
    | nil => exact fun c h => h
    | cons e events ih => exact fun c h => ih _ (h.step e)
  exact hrun _ (sound_start config endpoint call since)

/-- Once the matter is closed nothing happens any more. -/
theorem Sound.step_of_closed (h : c.Sound call) {r : Report}
    (hclosed : Tidings.of c.inquiry.answers = .closed r) (e : Nat × Session.Event) : c.step e = c := by
  obtain ⟨hasked, htask⟩ := h.follows.asked_eq_none hclosed
  obtain ⟨now, e⟩ := e
  cases e with
  | wake => simp [Course.step, Poller.tick, htask, move]
  | fetched epoch reply =>
    have hother : c.inquiry.asked ≠ some epoch := by rw [hasked]; simp
    obtain ⟨hpoller, hinquiry⟩ := h.follows.answer_of_unasked hother reply
    simp [Course.step, hpoller, hinquiry, move]

/-- **Whoever sees the last state has the verdict that the answers come to.** -/
theorem Sound.verdict_follow (h : c.Sound call) {seen : List PollState} (hseen : seen.Sublist c.shown)
    (hlast : seen.getLast? = c.shown.getLast?) (v : Viewed) :
    (follow v seen).verdict = (Tidings.of c.inquiry.answers).verdict? := by
  have hproper := Tidings.proper_of c.inquiry.answers
  rw [(h.showing.sublist hseen).verdict_follow, hlast, h.latest, Option.bind_some, h.follows.report_eq]
  cases htidings : Tidings.of c.inquiry.answers with
  | closed r => rfl
  | «open» last =>
    rw [htidings] at hproper
    cases last with
    | none => rfl
    | some r => exact verdict?_eq_none_iff.mpr (hproper r rfl)

/-! ## The session -/

/-- How the session of a watch stands to its course: it watches on, or it is over since the matter is closed,
or it has been given up. -/
inductive Carried (call : CallId) (limit : Option Span) (c : Course) : Session × List Notice → Prop where
  | watching {w : Watch} {told : List Notice} :
      w.call = call → w.limit = limit → w.poller = c.poller → follow {} c.shown = ⟨w.viewed, told, none⟩ →
      Carried call limit c (.watch w, told)
  | ended {r : Report} {code : Nat} {told : List Notice} :
      Tidings.of c.inquiry.answers = .closed r →
      Ending call (follow {} c.shown).notices (.closed r) (.over code) told →
      Carried call limit c (.over code, told)
  | late {span : Span} {seen : List PollState} :
      limit = some span → seen <+: c.shown →
      Carried call limit c
        (.over 1, (follow {} seen).notices ++ [.error (CommandError.provisionTimeout span).message])

/-- A watch looks at what its poller has announced. -/
private theorem carried_observe {w : Watch} {told : List Notice} (hcall : w.call = call)
    (hlimit : w.limit = limit) (hpoller : w.poller = c.poller)
    (hfollow : follow {} c.shown = ⟨w.viewed, told, none⟩) {p : Poller} {x : Inquiry}
    (hsound : (c.move p x).Sound call) (now : Nat) :
    let o := w.observe p
    let ended := Session.conclude o.1 o.2.1 o.2.2 now
    Carried call limit (c.move p x) (ended.1, told ++ ended.2.filterMap Session.Effect.notice?) := by
  subst hcall
  by_cases hversion : p.state.version = c.poller.state.version
  · -- Nothing was announced, and nothing is told.
    have hshown : (c.move p x).shown = c.shown := if_pos hversion
    simp only [Watch.observe, hpoller, if_pos hversion, Session.conclude, List.map_nil, List.filterMap_nil,
      List.append_nil]
    refine .watching rfl hlimit rfl ?_
    rw [hshown]
    exact hfollow
  · have hshown : (c.move p x).shown = c.shown ++ [p.state.value] := if_neg hversion
    have hverdict := hsound.verdict_follow (List.Sublist.refl _) rfl {}
    have hnone : (follow {} c.shown).verdict = none := by rw [hfollow]
    have hlook := follow_concat (s := p.state.value) hnone
    rw [hfollow] at hlook
    dsimp only at hlook
    rw [hshown, hlook] at hverdict
    simp only [Watch.observe, hpoller, if_neg hversion]
    -- The look at the new state goes on from what a viewer of all states has seen.
    have hproper := Tidings.proper_of (c.move p x).inquiry.answers
    have hending := ending_conclude hproper
      { w with poller := p, viewed := (w.viewed.look p.state.value).viewed } told
      (w.viewed.look p.state.value).notices now
    rw [← hverdict] at hending
    generalize w.viewed.look p.state.value = glance at hlook hverdict hending
    obtain ⟨viewed, notices, verdict⟩ := glance
    dsimp only at hlook hverdict hending ⊢
    rw [← hshown] at hlook
    cases verdict with
    | none =>
      simp only [Session.conclude, notices_tell]
      exact .watching rfl hlimit rfl hlook
    | some verdict =>
      cases htidings : Tidings.of (c.move p x).inquiry.answers with
      | «open» last =>
        rw [htidings] at hverdict
        cases hverdict
      | closed r =>
        have hnotices : (follow {} (c.move p x).shown).notices = told ++ notices := by rw [hlook]
        rw [htidings, ← hnotices] at hending
        cases verdict with
        | ok r' => exact .ended htidings hending
        | error e => exact .ended htidings hending

theorem prefix_step (c : Course) (e : Nat × Session.Event) : c.shown <+: (c.step e).shown := by
  have hmove : ∀ p x, c.shown <+: (c.move p x).shown := by
    intro p x
    unfold move
    dsimp only
    split
    · exact List.prefix_rfl
    · exact List.prefix_append _ _
  obtain ⟨now, e⟩ := e
  cases e with
  | wake => exact hmove _ _
  | fetched epoch reply => exact hmove _ _

/-- A watch is given up only after the time that it was limited to. -/
private theorem limit_of_expiry {w : Watch} {now : Nat} {e : CommandError} (h : w.expiry? now = some e) :
    ∃ span, w.limit = some span ∧ e = .provisionTimeout span := by
  unfold Watch.expiry? at h
  split at h
  · rename_i span hspan
    split at h
    · exact ⟨span, hspan, (Option.some.inj h).symm⟩
    · cases h
  · cases h

/-- **A session goes with its course**, event by event. -/
theorem Carried.step {s : Session × List Notice} (hsound : c.Sound call) (h : Carried call limit c s)
    (e : Nat × Session.Event) : Carried call limit (c.step e) (Session.step s e) := by
  have hnext := hsound.step e
  cases h with
  | @watching w told hcall hlimit hpoller hfollow =>
    obtain ⟨now, e⟩ := e
    cases e with
    | fetched epoch reply =>
      simp only [Session.step, Session.handle, hpoller]
      exact carried_observe hcall hlimit hpoller hfollow hnext now
    | wake =>
      cases hexpiry : w.expiry? now with
      | some e =>
        obtain ⟨span, hspan, rfl⟩ := limit_of_expiry hexpiry
        have htold : told = (follow {} c.shown).notices := by rw [hfollow]
        simp only [Session.step, Session.handle, Session.wakeWatch, hexpiry, htold]
        exact .late (hlimit.symm.trans hspan) (c.prefix_step _)
      | none =>
        -- The fetch that the poller may ask for is not told of.
        have hfetch : ∀ (endpoint : Endpoint) (asked : Option (Nat × CallId)),
            (asked.map fun fetch => Session.Effect.fetch fetch.1 endpoint fetch.2).toList.filterMap
              Session.Effect.notice? = [] := by
          intro endpoint asked
          cases asked <;> rfl
        simp only [Session.step, Session.handle, Session.wakeWatch, hexpiry, hpoller, List.filterMap_append,
          hfetch, List.append_nil]
        exact carried_observe hcall hlimit hpoller hfollow hnext now
  | ended hclosed hending =>
    -- The session stays over, and its course stands still.
    rw [hsound.step_of_closed hclosed]
    simp only [Session.step, Session.handle, List.filterMap_nil, List.append_nil]
    exact .ended hclosed hending
  | late hspan hseen =>
    -- What the poller would still show comes after what was seen.
    simp only [Session.step, Session.handle, List.filterMap_nil, List.append_nil]
    exact .late hspan (hseen.trans (c.prefix_step e))

theorem carried_after (config : Config) (endpoint : Endpoint) (call : CallId) (since : Nat)
    (events : List (Nat × Session.Event)) :
    Carried call config.provisionTimeout (after (Watch.start config endpoint call since) events)
      (Session.after (.watch (Watch.start config endpoint call since)) events) := by
  have hrun : ∀ (c : Course) (s : Session × List Notice), c.Sound call →
      Carried call config.provisionTimeout c s →
      Carried call config.provisionTimeout (events.foldl Course.step c) (events.foldl Session.step s) := by
    induction events with
    | nil => exact fun c s _ h => h
    | cons e events ih => exact fun c s hsound h => ih _ _ (hsound.step e) (h.step hsound e)
  exact hrun _ _ (sound_start config endpoint call since) (.watching rfl rfl rfl rfl)

/-- **A watch tells each change that it sees, and ends as the operator has answered.**  Whichever of the
shown states it sees, the reports that it tells are those that it sees, but of several that agree in phase and
progress one after the other only the first, and their phases do not go back; and it warns just where the
error that it sees turns into a text other than the one before.  If it sees the last state it succeeds just if
the answers were closed by a ready report, and fails just if by a failed one.  The session of the command sees
all states up to its end; only a limit on its time can end it before the answers do. -/
theorem watch_tells_each_change_and_ends_as_answered (config : Config) (endpoint : Endpoint) (call : CallId)
    (since : Nat) (events : List (Nat × Session.Event)) :
    let c := after (Watch.start config endpoint call since) events
    let tidings := Tidings.of c.inquiry.answers
    let run := Session.after (.watch (Watch.start config endpoint call since)) events
    (∀ seen : List PollState, seen.Sublist c.shown →
      let told := (follow {} seen).notices.filterMap Notice.report?
      told = (seen.filterMap (·.report)).destutter Report.Differs ∧
      told.IsChain Report.Differs ∧
      told.Pairwise (fun r next => r.phase.canAdvanceTo next.phase = true) ∧
      (follow {} seen).notices.filterMap Notice.complaint? = newComplaints none (seen.map (·.error))) ∧
    (∀ seen : List PollState, seen.Sublist c.shown → seen.getLast? = c.shown.getLast? →
      let glance := follow {} seen
      (∀ r, glance.verdict = some (.ok r) ↔ tidings = .closed r ∧ r.phase = .ready) ∧
      (∀ e, glance.verdict = some (.error e) ↔ ∃ r, tidings = .closed r ∧ r.phase = .failed ∧
        e = .provisionFailed (r.message.getD "unknown error")) ∧
      ∀ (w : Watch) (now : Nat), w.call = call →
        let ended := Session.conclude w glance.notices glance.verdict now
        Ending call glance.notices tidings ended.1 (ended.2.filterMap Session.Effect.notice?)) ∧
    ∃ seen : List PollState, seen <+: c.shown ∧ (config.provisionTimeout = none → seen = c.shown) ∧
      (Ending call (follow {} seen).notices tidings run.1 run.2 ∨
        ∃ span, config.provisionTimeout = some span ∧ run.1 = .over 1 ∧
          run.2 = (follow {} seen).notices ++ [.error (CommandError.provisionTimeout span).message]) := by
  intro c tidings run
  have hsound : c.Sound call := sound_after config endpoint call since events
  have hproper : tidings.Proper := Tidings.proper_of c.inquiry.answers
  refine ⟨?_, ?_, ?_⟩
  · intro seen hseen told
    have hshowing := hsound.showing.sublist hseen
    have hfirst : ({} : Viewed).shown = (none : Option Report).map Report.mark := rfl
    have htold : told = (seen.filterMap (·.report)).destutter Report.Differs := hshowing.reports_follow hfirst
    refine ⟨htold, ?_, ?_, hshowing.complaints_follow⟩
    · rw [htold]
      exact List.isChain_destutter _ _
    · rw [htold]
      exact hshowing.advances.sublist (List.destutter_sublist _ _)
  · intro seen hseen hlast glance
    have hverdict : glance.verdict = tidings.verdict? := hsound.verdict_follow hseen hlast {}
    refine ⟨fun r => ?_, fun e => ?_, ?_⟩
    · rw [hverdict]
      exact verdict?_eq_ok_iff hproper
    · rw [hverdict]
      exact verdict?_eq_error_iff hproper
    · intro w now hcall ended
      have hending := ending_conclude hproper w [] glance.notices now
      rw [← hverdict, hcall] at hending
      exact hending
  · have hcarried : Carried call config.provisionTimeout c run := carried_after config endpoint call since events
    generalize run = ended at hcarried
    cases hcarried with
    | @watching w told hcall hlimit hpoller hfollow =>
      have hnone : tidings.verdict? = none := by
        rw [← hsound.verdict_follow (List.Sublist.refl _) rfl {}, hfollow]
      refine ⟨c.shown, List.prefix_rfl, fun _ => rfl, Or.inl ?_⟩
      rw [hfollow]
      rcases verdict?_cases hproper with ⟨last, hopen, -⟩ | ⟨r, -, -, hok⟩ | ⟨r, -, -, herror⟩
      · rw [hopen]
        exact .waiting
      · cases hnone.symm.trans hok
      · cases hnone.symm.trans herror
    | ended hclosed hending =>
      refine ⟨c.shown, List.prefix_rfl, fun _ => rfl, Or.inl ?_⟩
      rw [show tidings = _ from hclosed]
      exact hending
    | @late span seen hspan hseen =>
      refine ⟨seen, hseen, fun hnone => ?_, Or.inr ⟨span, hspan, rfl, rfl⟩⟩
      cases hnone.symm.trans hspan

/-! ### A run in which states are passed over -/

private def someConfig : Config :=
  { operatorApi := "http://op", contract := .zero, blueprint := ⟨.ofNat 1⟩, sandboxService := ⟨.ofNat 3⟩ }

private def someEndpoint : Endpoint :=
  { baseUrl := "http://op", authority := ⟨"op".toList⟩, host := "op", port := .ofNat 80, basePath := "" }

private def queued : Report := { call := ⟨.ofNat 7⟩, phase := .queued }

private def pulling : Report := { call := ⟨.ofNat 7⟩, phase := .imagePull, percent := .ofNat 20 }

private def ready : Report :=
  { call := ⟨.ofNat 7⟩, phase := .ready, percent := .ofNat 100, resource := some "sb-7" }

/-- The call is not tracked at first; later the operator is down twice, and reports out of order once. -/
private def troubled : List (Nat × Session.Event) := [
  (0, .wake), (1, .fetched 2 (.ok none)), (2000, .wake), (2001, .fetched 2 (.ok (some queued))),
  (4000, .wake), (4001, .fetched 2 (.error (.status (.ofNat 503) "down"))),
  (6000, .wake), (6001, .fetched 2 (.error (.status (.ofNat 503) "down"))),
  (8000, .wake), (8001, .fetched 2 (.ok (some pulling))),
  (10000, .wake), (10001, .fetched 2 (.ok (some queued))),
  (12000, .wake), (12001, .fetched 2 (.ok (some ready)))]

/-- A viewer who sees the second failure and then the end is told of two reports and one error, though four
states were passed over. -/
theorem watch_tells_each_change_and_ends_as_answered_troubled :
    let c := after (Watch.start someConfig someEndpoint ⟨.ofNat 7⟩ 0) troubled
    let seen : List PollState :=
      [⟨some queued, some (FetchError.status (.ofNat 503) "down").message, true⟩, ⟨some ready, none, false⟩]
    let run := Session.after (.watch (Watch.start someConfig someEndpoint ⟨.ofNat 7⟩ 0)) troubled
    c.shown.length = 6 ∧ seen.Sublist c.shown ∧ seen.getLast? = c.shown.getLast? ∧
      someConfig.provisionTimeout = none ∧
      (follow {} seen).notices.filterMap Notice.report? = [queued, ready] ∧
      (follow {} seen).notices.filterMap Notice.complaint? = ["operator API returned 503: down"] ∧
      (follow {} seen).verdict = some (.ok ready) ∧ run.1 = .over 0 := by
  intro c seen run
  have hseen : seen.Sublist c.shown := by decide
  have hlast : seen.getLast? = c.shown.getLast? := by decide
  have htidings : Tidings.of c.inquiry.answers = .closed ready := by decide
  obtain ⟨htold, hends, _, -, -, hending⟩ :=
    watch_tells_each_change_and_ends_as_answered someConfig someEndpoint ⟨.ofNat 7⟩ 0 troubled
  obtain ⟨hreports, -, -, hcomplaints⟩ := htold seen hseen
  refine ⟨by decide, hseen, hlast, rfl, ?_, ?_, ((hends seen hseen hlast).1 ready).mpr ⟨htidings, rfl⟩, ?_⟩
  · rw [hreports]
    decide
  · rw [hcomplaints]
    decide
  · rcases hending with hending | ⟨span, hspan, -⟩
    · exact hending.succeeds_iff.mpr ⟨ready, htidings, rfl⟩
    · cases hspan

end Course

end Console

end ChainProvision
