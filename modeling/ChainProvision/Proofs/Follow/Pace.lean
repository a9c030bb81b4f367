import ChainProvision.Proofs.Follow.Rounds

/-!
# The pace of a poller

A task wants to begin a fetch once in every interval.  However long its fetches take and however late
its ticks are, it never has two of them under way, none is begun before its turn, and two that follow
each other keep the interval between them, but for the lateness that a ticker forgives.  Where every
tick comes on time and every fetch is answered at once, each begins exactly when it is its turn.

## Main definitions

- `Round.Steady`: the pace that a round keeps, whatever happens;
- `Chronicle.OnTime`: every tick comes on time;
- `Round.Orderly`, `Round.Exact`: the pace that a round keeps when they do.

## Main statements

- `Chronicle.rounds_keep_pace`: every round keeps its pace, and an exact one if it may.
-/

namespace ChainProvision

/-- Whether a fetch was answered at the time at which it was begun. -/
def Visit.Prompt (v : Visit) : Prop := v.answer.map Prod.fst = some v.begun

instance : DecidablePred Visit.Prompt := fun _ => inferInstanceAs (Decidable (_ = _))

namespace Round

variable {interval : Nat} {x : Round} {earlier : List Visit} {v w : Visit} {due now clock : Nat}

/-! ## The pace of a round -/

/-- The fetches of a round follow each other at its pace: one is answered before the next begins, none
begins before its turn, and there is an interval between any two, less what a ticker forgives. -/
structure Steady (interval : Nat) (x : Round) : Prop where
  alone : ∀ {k : Nat} {v w : Visit}, x.visits[k]? = some v → x.visits[k + 1]? = some w →
    v.answer.isSome = true
  early : ∀ {k : Nat} {v : Visit}, x.visits[k]? = some v → x.since + k * interval ≤ v.begun
  apart : ∀ {k : Nat} {v w : Visit}, x.visits[k]? = some v → x.visits[k + 1]? = some w →
    v.begun + interval ≤ w.begun + 5

/-- When the next fetch is due, it keeps the pace. -/
structure Expects (interval : Nat) (x : Round) (due : Nat) : Prop where
  early : x.since + x.visits.length * interval ≤ due
  apart : ∀ {k : Nat} {v : Visit}, x.visits[k]? = some v → k + 1 = x.visits.length →
    v.begun + interval ≤ due + 5

theorem Steady.ask (h : x.Steady interval) (hanswered : ∀ v ∈ x.visits, v.answer.isSome = true)
    (hdue : x.Expects interval due) (hnow : due ≤ now) (i : Nat) : (x.ask i now).Steady interval where
  alone := by
    intro k v w hv hw
    rcases Calls.get_of_concat hv with hv | ⟨rfl, -⟩
    · exact hanswered v (List.mem_of_getElem? hv)
    · simp [Round.ask] at hw
  early := by
    intro k v hv
    rcases Calls.get_of_concat hv with hv | ⟨rfl, rfl⟩
    · exact h.early hv
    · exact Nat.le_trans hdue.early hnow
  apart := by
    intro k v w hv hw
    rcases Calls.get_of_concat hv with hv | ⟨rfl, -⟩
    · rcases Calls.get_of_concat hw with hw | ⟨hlast, rfl⟩
      · exact h.apart hv hw
      · exact Nat.le_trans (hdue.apart hv hlast) (Nat.add_le_add_right hnow 5)
    · simp [Round.ask] at hw

/-- A tick that is taken when it is due, or later, keeps the pace. -/
theorem Expects.ask {ticker : Ticker} (h : x.Expects interval ticker.due) (hnow : ticker.due ≤ now)
    (i : Nat) : (x.ask i now).Expects interval (ticker.tick interval now).due := by
  obtain ⟨hearly, -⟩ := h
  have hdue : ticker.due + interval ≤ (ticker.tick interval now).due ∧
      now + interval ≤ (ticker.tick interval now).due + 5 := by
    unfold Ticker.tick Ticker.tolerance
    split <;> dsimp only <;> omega
  constructor
  · simp only [Round.ask, List.length_append, List.length_singleton, Nat.add_mul, Nat.one_mul]
    omega
  · intro k v hv hlast
    rcases Calls.get_of_concat hv with hv | ⟨-, rfl⟩
    · have hlt := Calls.lt_of_get hv
      simp [Round.ask] at hlast
      omega
    · exact hdue.2

/-- When the last of some visits has changed, but not when it began, each visit is one that began at
the same time as before, and the earlier ones are the same. -/
theorem get_of_last (hbegun : w.begun = v.begun) {k : Nat} {u : Visit}
    (h : (earlier ++ [w])[k]? = some u) :
    ∃ u', (earlier ++ [v])[k]? = some u' ∧ u'.begun = u.begun ∧ (k < earlier.length → u' = u) := by
  rcases Calls.get_of_concat h with hu | ⟨rfl, rfl⟩
  · exact ⟨u, Calls.get_concat hu v, rfl, fun _ => rfl⟩
  · exact ⟨v, List.getElem?_concat_length, hbegun.symm, fun hlt => absurd hlt (Nat.lt_irrefl _)⟩

theorem Steady.last (h : x.Steady interval) (hvisits : x.visits = earlier ++ [v])
    (hbegun : w.begun = v.begun) : ({ x with visits := earlier ++ [w] } : Round).Steady interval := by
  obtain ⟨halone, hearly, hapart⟩ := h
  rw [hvisits] at halone hearly hapart
  constructor
  · intro k u u' hu hu'
    obtain ⟨t, ht, -, hsame⟩ := get_of_last hbegun hu
    obtain ⟨t', ht', -, -⟩ := get_of_last hbegun hu'
    have hlt := Calls.lt_of_get hu'
    rw [← hsame (by simpa using hlt)]
    exact halone ht ht'
  · intro k u hu
    obtain ⟨t, ht, hbegun, -⟩ := get_of_last hbegun hu
    rw [← hbegun]
    exact hearly ht
  · intro k u u' hu hu'
    obtain ⟨t, ht, hfirst, -⟩ := get_of_last hbegun hu
    obtain ⟨t', ht', hnext, -⟩ := get_of_last hbegun hu'
    rw [← hfirst, ← hnext]
    exact hapart ht ht'

theorem Expects.last (h : x.Expects interval due) (hvisits : x.visits = earlier ++ [v])
    (hbegun : w.begun = v.begun) :
    ({ x with visits := earlier ++ [w] } : Round).Expects interval due := by
  obtain ⟨hearly, hapart⟩ := h
  rw [hvisits] at hearly hapart
  constructor
  · simpa using hearly
  · intro k u hu hlast
    obtain ⟨t, ht, hfirst, -⟩ := get_of_last hbegun hu
    rw [← hfirst]
    exact hapart ht (by simpa using hlast)

/-! ## The exact pace -/

/-- In a round on a clock that does not run backwards no two fetches are under way at one time. -/
structure Orderly (x : Round) : Prop where
  answered : ∀ {k : Nat} {v : Visit} {time : Nat} {reply : FetchReply},
    x.visits[k]? = some v → v.answer = some (time, reply) → v.begun ≤ time
  next : ∀ {k : Nat} {v w : Visit} {time : Nat} {reply : FetchReply},
    x.visits[k]? = some v → v.answer = some (time, reply) → x.visits[k + 1]? = some w →
    time ≤ w.begun

/-- As long as each fetch is answered at once, each begins when it is its turn. -/
def Exact (interval : Nat) (x : Round) : Prop :=
  ∀ (k : Nat) (v : Visit), x.visits[k]? = some v →
    (∀ (j : Nat) (u : Visit), j < k → x.visits[j]? = some u → u.Prompt) →
    v.begun = x.since + k * interval

/-- A round at a time of the clock: nothing in it is of a later time, and while its fetches are
answered at once the next one is due when it is its turn, and not overdue. -/
structure Current (interval : Nat) (x : Round) (due clock : Nat) : Prop where
  past : ∀ {v : Visit}, v ∈ x.visits →
    v.begun ≤ clock ∧ ∀ {time : Nat} {reply : FetchReply}, v.answer = some (time, reply) → time ≤ clock
  turn : (∀ {j : Nat} {u : Visit}, j + 1 < x.visits.length → x.visits[j]? = some u → u.Prompt) →
    due = x.since + x.visits.length * interval
  wait : (∀ v ∈ x.visits, v.Prompt) → clock ≤ due

/-- When all fetches so far were answered at once, a tick that is on time is taken when it is its turn. -/
theorem Current.now_eq (h : x.Current interval due clock) (hdue : due ≤ now) (htime : now ≤ max clock due)
    (hprompt : ∀ v ∈ x.visits, v.Prompt) : now = due ∧ due = x.since + x.visits.length * interval := by
  have hclock := h.wait hprompt
  exact ⟨by omega, h.turn fun _ hu => hprompt _ (List.mem_of_getElem? hu)⟩

theorem Current.later (h : x.Current interval due clock) (hclock : clock ≤ now)
    (hwait : (∀ v ∈ x.visits, v.Prompt) → now ≤ due) : x.Current interval due now where
  past := by
    intro v hv
    obtain ⟨hbegun, hanswer⟩ := h.past hv
    exact ⟨Nat.le_trans hbegun hclock, fun htime => Nat.le_trans (hanswer htime) hclock⟩
  turn := h.turn
  wait := hwait

theorem Orderly.ask (h : x.Orderly) (hcurrent : x.Current interval due clock) (hclock : clock ≤ now)
    (i : Nat) : (x.ask i now).Orderly where
  answered := by
    intro k v time reply hv hanswer
    rcases Calls.get_of_concat hv with hv | ⟨-, rfl⟩
    · exact h.answered hv hanswer
    · cases hanswer
  next := by
    intro k v w time reply hv hanswer hw
    rcases Calls.get_of_concat hv with hv | ⟨-, rfl⟩
    · rcases Calls.get_of_concat hw with hw | ⟨-, rfl⟩
      · exact h.next hv hanswer hw
      · exact Nat.le_trans ((hcurrent.past (List.mem_of_getElem? hv)).2 hanswer) hclock
    · cases hanswer

theorem Exact.ask (h : x.Exact interval) (hcurrent : x.Current interval due clock) (hdue : due ≤ now)
    (htime : now ≤ max clock due) (i : Nat) : (x.ask i now).Exact interval := by
  intro k v hv hprompt
  have hearlier : ∀ (j : Nat) (u : Visit), j < k → x.visits[j]? = some u → u.Prompt :=
    fun j u hj hu => hprompt j u hj (Calls.get_concat hu _)
  rcases Calls.get_of_concat hv with hv | ⟨rfl, rfl⟩
  · exact h k v hv hearlier
  · -- All fetches before the new one were answered at once.
    obtain ⟨hnow, hturn⟩ := hcurrent.now_eq hdue htime fun u hu => by
      obtain ⟨j, hj, rfl⟩ := List.getElem_of_mem hu
      exact hearlier j _ hj (List.getElem?_eq_getElem hj)
    exact hnow.trans hturn

theorem Current.ask {ticker : Ticker} (h : x.Current interval ticker.due clock) (hclock : clock ≤ now)
    (hdue : ticker.due ≤ now) (htime : now ≤ max clock ticker.due) (i : Nat) :
    (x.ask i now).Current interval (ticker.tick interval now).due now where
  past := by
    intro v hv
    rcases List.mem_append.mp hv with hv | hv
    · exact (h.later hclock fun hprompt => Nat.le_of_eq (h.now_eq hdue htime hprompt).1).past hv
    · obtain rfl := List.mem_singleton.mp hv
      exact ⟨Nat.le_refl _, fun hanswer => nomatch hanswer⟩
  turn := by
    intro hprompt
    obtain ⟨hnow, hturn⟩ := h.now_eq hdue htime fun u hu => by
      obtain ⟨j, hj, rfl⟩ := List.getElem_of_mem hu
      exact hprompt (by simpa [Round.ask] using hj) (Calls.get_concat (List.getElem?_eq_getElem hj) _)
    -- The tick is not late, so that the rhythm is kept.
    have htick : (ticker.tick interval now).due = ticker.due + interval := by
      unfold Ticker.tick Ticker.tolerance
      rw [if_neg (by omega)]
    rw [htick, hturn]
    simp only [Round.ask, List.length_append, List.length_singleton, Nat.add_mul, Nat.one_mul]
    omega
  wait := by
    intro hprompt
    cases hprompt _ (List.mem_append_right _ (List.mem_singleton_self _))

section Last

variable {reply : FetchReply}

theorem Orderly.last (h : x.Orderly) (hvisits : x.visits = earlier ++ [v]) (hbegun : w.begun = v.begun)
    (hanswer : w.answer = some (now, reply)) (hnow : v.begun ≤ now) :
    ({ x with visits := earlier ++ [w] } : Round).Orderly := by
  obtain ⟨hanswered, hnext⟩ := h
  rw [hvisits] at hanswered hnext
  constructor
  · intro k u time reply hu hreply
    rcases Calls.get_of_concat hu with hu | ⟨-, rfl⟩
    · exact hanswered (Calls.get_concat hu _) hreply
    · obtain ⟨rfl, -⟩ := Prod.mk.inj (Option.some.inj (hanswer.symm.trans hreply))
      exact hbegun ▸ hnow
  · intro k u u' time reply hu hreply hu'
    obtain ⟨t, ht, -, hsame⟩ := get_of_last hbegun hu
    obtain ⟨t', ht', hnext', -⟩ := get_of_last hbegun hu'
    have hlt := Calls.lt_of_get hu'
    obtain rfl := hsame (by simpa using hlt)
    rw [← hnext']
    exact hnext ht hreply ht'

theorem Exact.last (h : x.Exact interval) (hvisits : x.visits = earlier ++ [v])
    (hbegun : w.begun = v.begun) : ({ x with visits := earlier ++ [w] } : Round).Exact interval := by
  intro k u hu hprompt
  obtain ⟨t, ht, hfirst, -⟩ := get_of_last hbegun hu
  rw [← hfirst]
  refine h k t (hvisits ▸ ht) fun j s hj hs => hprompt j s hj ?_
  -- What comes before a visit is not the last one.
  rw [hvisits] at hs
  obtain ⟨s', hs', -, hsame⟩ := get_of_last hbegun.symm hs
  have hlt := Calls.lt_of_get ht
  simp only [List.length_append, List.length_singleton] at hlt
  rw [← hsame (by omega)]
  exact hs'

theorem Current.last (h : x.Current interval due clock) (hexact : x.Exact interval)
    (hvisits : x.visits = earlier ++ [v]) (hbegun : w.begun = v.begun)
    (hanswer : w.answer = some (now, reply)) (hclock : clock ≤ now) :
    ({ x with visits := earlier ++ [w] } : Round).Current interval due now := by
  obtain ⟨hpast, hturn, -⟩ := h
  rw [hvisits] at hpast hturn
  have hturn' : (∀ u ∈ earlier, u.Prompt) → due = x.since + (earlier.length + 1) * interval := by
    intro hprompt
    refine (hturn fun {j u} hj hu => hprompt u ?_).trans (by simp)
    rcases Calls.get_of_concat hu with hu | ⟨rfl, -⟩
    · exact List.mem_of_getElem? hu
    · simp at hj
  constructor
  · intro u hu
    rcases List.mem_append.mp hu with hu | hu
    · obtain ⟨hfirst, hsecond⟩ := hpast (List.mem_append_left _ hu)
      exact ⟨Nat.le_trans hfirst hclock, fun hreply => Nat.le_trans (hsecond hreply) hclock⟩
    · obtain rfl := List.mem_singleton.mp hu
      obtain ⟨hlast, -⟩ := hpast (List.mem_append_right _ (List.mem_singleton_self v))
      refine ⟨hbegun ▸ Nat.le_trans hlast hclock, fun hreply => ?_⟩
      obtain ⟨rfl, -⟩ := Prod.mk.inj (Option.some.inj (hanswer.symm.trans hreply))
      exact Nat.le_refl _
  · intro hprompt
    refine (hturn' fun u hu => ?_).trans (by simp)
    obtain ⟨j, hj, rfl⟩ := List.getElem_of_mem hu
    exact hprompt (by simpa using hj) (Calls.get_concat (List.getElem?_eq_getElem hj) _)
  · intro hprompt
    have hearlier : ∀ u ∈ earlier, u.Prompt := fun u hu => hprompt u (List.mem_append_left _ hu)
    -- The last fetch was begun when it was its turn, and is answered at that time.
    have hlast : v.begun = x.since + earlier.length * interval := by
      refine hexact earlier.length v (by rw [hvisits]; exact List.getElem?_concat_length) ?_
      intro j u hj hu
      rw [hvisits] at hu
      rcases Calls.get_of_concat hu with hu | ⟨rfl, -⟩
      · exact hearlier u (List.mem_of_getElem? hu)
      · exact absurd hj (Nat.lt_irrefl _)
    have hnow : now = w.begun := by
      have hw := hprompt w (List.mem_append_right _ (List.mem_singleton_self w))
      rw [Visit.Prompt, hanswer] at hw
      exact Option.some.inj hw
    rw [hturn' hearlier, hnow, hbegun, hlast, Nat.add_mul]
    omega

end Last

end Round

/-! ## Whatever happens -/

namespace Chronicle

open PollingPost (Event)

variable {c c' : Chronicle} {interval now : Nat} {x : Round}

/-- A round is an earlier one as it was, or the latest. -/
theorem Move.mem_all (h : c.Move now c') (hx : x ∈ c'.rounds.all) :
    x ∈ c.rounds.all ∨ c'.rounds.latest = some x := by
  have hall : ∀ {past : List Round}, c'.rounds.past = past → (∀ y ∈ past, y ∈ c.rounds.all) →
      x ∈ c.rounds.all ∨ c'.rounds.latest = some x := by
    intro past hpast hold
    rcases List.mem_append.mp hx with hx | hx
    · exact Or.inl (hold x (hpast ▸ hx))
    · exact Or.inr (Option.mem_toList.mp hx)
  have hpast : ∀ y ∈ c.rounds.past, y ∈ c.rounds.all := fun y hy => List.mem_append_left _ hy
  cases h with
  | rests _ hrounds => exact Or.inl (hrounds ▸ hx)
  | pointed _ _ hrounds => exact hall (congrArg Rounds.past hrounds) fun _ hy => hy
  | stopped _ hrounds => exact Or.inl (hrounds ▸ hx)
  | lost _ _ hrounds => exact Or.inl (hrounds ▸ hx)
  | asked _ _ _ _ _ _ _ hrounds => exact hall (congrArg Rounds.past hrounds) hpast
  | answered _ _ _ _ _ _ hrounds => exact hall (congrArg Rounds.past hrounds) hpast

/-- All rounds keep the pace, and so will the next fetch of the task. -/
structure Paced (interval : Nat) (c : Chronicle) : Prop where
  rounds : ∀ x ∈ c.rounds.all, x.Steady interval
  task : ∀ {task : PollTask} {x : Round}, c.post.poller.task = some task → c.rounds.latest = some x →
    x.Expects interval task.ticker.due

theorem mem_all_of_latest (h : c.rounds.latest = some x) : x ∈ c.rounds.all :=
  List.mem_append_right _ (Option.mem_toList.mpr h)

/-- The owner's change leaves at most a round without visits. -/
private theorem eq_of_pointed {begins : Bool} {y : Round} (h : (if begins then some y else none) = some x) :
    x = y := by
  cases begins with
  | true => exact (Option.some.inj h).symm
  | false => cases h

/-- **Every move keeps the pace**. -/
theorem Paced.move (h : c.Paced interval) (hinterval : c.post.poller.interval = interval)
    (hmove : c.Move now c') : c'.Paced interval := by
  -- The earlier rounds are as they were, so that there is only the latest to look at.
  suffices hlatest : ∀ {x : Round}, c'.rounds.latest = some x → x.Steady interval ∧
      ∀ {task : PollTask}, c'.post.poller.task = some task → x.Expects interval task.ticker.due from
    ⟨fun x hx => (hmove.mem_all hx).elim (h.rounds x) fun hx => (hlatest hx).1,
      fun htask hx => (hlatest hx).2 htask⟩
  intro x hx
  cases hmove with
  | rests hpoller hrounds =>
    rw [hrounds] at hx
    exact ⟨h.rounds x (mem_all_of_latest hx), fun htask => h.task (hpoller ▸ htask) hx⟩
  | pointed hrenewed hdue hrounds =>
    rw [hrounds] at hx
    obtain rfl := eq_of_pointed hx
    refine ⟨⟨by simp, by simp, by simp⟩, fun htask => ?_⟩
    rw [hdue _ htask]
    exact ⟨by simp, by simp⟩
  | stopped hrenewed hrounds =>
    rw [hrounds] at hx
    refine ⟨h.rounds x (mem_all_of_latest hx), fun htask => ?_⟩
    have hnone := hrenewed.begins
    rw [htask] at hnone
    cases hnone
  | lost _ hpoller hrounds =>
    rw [hrounds] at hx
    refine ⟨h.rounds x (mem_all_of_latest hx), fun htask => ?_⟩
    rw [hpoller] at htask
    cases htask
  | asked _ htask _ hdue hpoller hlatest hanswered hrounds =>
    rw [hrounds] at hx
    obtain rfl := Option.some.inj hx
    have hexpects := h.task htask hlatest
    refine ⟨(h.rounds _ (mem_all_of_latest hlatest)).ask hanswered hexpects hdue _, fun htask' => ?_⟩
    rw [hpoller] at htask'
    obtain rfl := Option.some.inj htask'
    rw [hinterval]
    exact hexpects.ask hdue _
  | answered htask _ hpoller hlatest hvisits _ hrounds =>
    rw [hrounds] at hx
    obtain rfl := Option.some.inj hx
    refine ⟨(h.rounds _ (mem_all_of_latest hlatest)).last hvisits rfl, fun htask' => ?_⟩
    rw [hpoller] at htask'
    dsimp only at htask'
    split at htask'
    · cases htask'
    · obtain rfl := Option.some.inj htask'
      exact (h.task htask hlatest).last hvisits rfl

theorem paced_afterAll (interval : Nat) (es : List (Nat × Event)) : (afterAll interval es).Paced interval :=
  afterAll_induction ⟨by simp [start, Rounds.all], by simp [start]⟩
    (fun _ _ _ hinterval hpaced hmove => hpaced.move hinterval hmove) es

/-! ## When every tick is on time -/

/-- Something may happen at a time: the clock does not run backwards, and does not pass the time at which
the task wants to go on by itself before it has done so. -/
def Admits (c : Chronicle) (now : Nat) : Prop :=
  c.clock ≤ now ∧ ∀ due ∈ c.post.poller.nextDue, now ≤ max c.clock due

instance (c : Chronicle) (now : Nat) : Decidable (c.Admits now) := inferInstanceAs (Decidable (_ ∧ _))

/-- Events come when something may happen, so that every tick is on time. -/
def OnTime : Chronicle → List (Nat × Event) → Prop
  | _, [] => True
  | c, e :: es => c.Admits e.1 ∧ OnTime (c.step e) es

instance decidableOnTime : (c : Chronicle) → (es : List (Nat × Event)) → Decidable (c.OnTime es)
  | _, [] => inferInstanceAs (Decidable True)
  | c, e :: es =>
    have := decidableOnTime (c.step e) es
    inferInstanceAs (Decidable (_ ∧ _))

theorem Admits.le_of_idle (h : c.Admits now) {task : PollTask} (htask : c.post.poller.task = some task)
    (hidle : task.fetching = false) : now ≤ max c.clock task.ticker.due := by
  refine h.2 _ ?_
  simp [Poller.nextDue, htask, hidle]

/-- All rounds were orderly and as exact as they may be, and the present one is so at this time. -/
structure Timed (interval : Nat) (c : Chronicle) : Prop where
  rounds : ∀ x ∈ c.rounds.all, x.Orderly ∧ x.Exact interval
  task : ∀ {task : PollTask} {x : Round}, c.post.poller.task = some task → c.rounds.latest = some x →
    x.Current interval task.ticker.due c.clock

/-- While all its fetches are answered, a task waits for its ticker. -/
theorem Sound.idle (h : c.Sound) {task : PollTask} (htask : c.post.poller.task = some task)
    (hx : c.rounds.latest = some x) (hprompt : ∀ v ∈ x.visits, v.Prompt) : task.fetching = false := by
  obtain ⟨x', hx', hawaits⟩ := h.present (by simp [htask])
  obtain rfl := Option.some.inj (hx.symm.trans hx')
  have hfetching := h.kept.fetching
  rw [htask] at hfetching
  change _ = task.fetching at hfetching
  rw [← hfetching]
  generalize c.dossier.asked = asked at hawaits
  cases hawaits with
  | nothing _ => rfl
  | fetch hvisits _ =>
    cases hprompt _ (hvisits ▸ List.mem_append_right _ (List.mem_singleton_self _))

/-- While all its fetches are answered at once, the task is not overdue at a time that is admitted. -/
private theorem Timed.le_due (h : c.Timed interval) (hsound : c.Sound) (htime : c.Admits now)
    {task : PollTask} (htask : c.post.poller.task = some task) (hx : c.rounds.latest = some x)
    (hprompt : ∀ v ∈ x.visits, v.Prompt) : now ≤ task.ticker.due := by
  have hmax := htime.le_of_idle htask (hsound.idle htask hx hprompt)
  have hclock := (h.task htask hx).wait hprompt
  omega

/-- **Every move on time keeps the exact pace**. -/
theorem Timed.move (h : c.Timed interval) (hsound : c.Sound)
    (hinterval : c.post.poller.interval = interval) (htime : c.Admits now) (hmove : c.Move now c')
    (hclock : c'.clock = now) : c'.Timed interval := by
  suffices hlatest : ∀ {x : Round}, c'.rounds.latest = some x → (x.Orderly ∧ x.Exact interval) ∧
      ∀ {task : PollTask}, c'.post.poller.task = some task → x.Current interval task.ticker.due now from
    ⟨fun x hx => (hmove.mem_all hx).elim (h.rounds x) fun hx => (hlatest hx).1,
      fun htask hx => hclock ▸ (hlatest hx).2 htask⟩
  intro x hx
  cases hmove with
  | rests hpoller hrounds =>
    rw [hrounds] at hx
    refine ⟨h.rounds x (mem_all_of_latest hx), fun htask => ?_⟩
    rw [hpoller] at htask
    exact (h.task htask hx).later htime.1 (h.le_due hsound htime htask hx)
  | pointed hrenewed hdue hrounds =>
    rw [hrounds] at hx
    obtain rfl := eq_of_pointed hx
    refine ⟨⟨⟨by simp, by simp⟩, by simp [Round.Exact]⟩, fun htask => ?_⟩
    rw [hdue _ htask]
    exact ⟨by simp, by simp, by simp⟩
  | stopped hrenewed hrounds =>
    rw [hrounds] at hx
    refine ⟨h.rounds x (mem_all_of_latest hx), fun htask => ?_⟩
    have hnone := hrenewed.begins
    rw [htask] at hnone
    cases hnone
  | lost _ hpoller hrounds =>
    rw [hrounds] at hx
    refine ⟨h.rounds x (mem_all_of_latest hx), fun htask => ?_⟩
    rw [hpoller] at htask
    cases htask
  | asked _ htask hidle hdue hpoller hlatest _ hrounds =>
    rw [hrounds] at hx
    obtain rfl := Option.some.inj hx
    have hcurrent := h.task htask hlatest
    obtain ⟨horderly, hexact⟩ := h.rounds _ (mem_all_of_latest hlatest)
    have hmax := htime.le_of_idle htask hidle
    refine ⟨⟨horderly.ask hcurrent htime.1 _, hexact.ask hcurrent hdue hmax _⟩, fun htask' => ?_⟩
    rw [hpoller] at htask'
    obtain rfl := Option.some.inj htask'
    rw [hinterval]
    exact hcurrent.ask htime.1 hdue hmax _
  | answered htask _ hpoller hlatest hvisits _ hrounds =>
    rw [hrounds] at hx
    obtain rfl := Option.some.inj hx
    have hcurrent := h.task htask hlatest
    obtain ⟨horderly, hexact⟩ := h.rounds _ (mem_all_of_latest hlatest)
    have hbegun := (hcurrent.past (hvisits ▸ List.mem_append_right _ (List.mem_singleton_self _))).1
    refine ⟨⟨horderly.last hvisits rfl rfl (Nat.le_trans hbegun htime.1), hexact.last hvisits rfl⟩,
      fun htask' => ?_⟩
    rw [hpoller] at htask'
    dsimp only at htask'
    split at htask'
    · cases htask'
    · obtain rfl := Option.some.inj htask'
      exact (h.task htask hlatest).last hexact hvisits rfl rfl htime.1

theorem timed_afterAll {interval : Nat} {es : List (Nat × Event)} (htime : (start interval).OnTime es) :
    (afterAll interval es).Timed interval := by
  have hrun : ∀ c : Chronicle, c.Sound → c.post.poller.interval = interval → c.Timed interval →
      c.OnTime es → (c.run es).Timed interval := by
    clear htime
    induction es with
    | nil => exact fun c _ _ hc _ => hc
    | cons e es ih =>
      intro c hsound hinterval hc htime
      obtain ⟨hnext, hmove⟩ := hsound.step e
      exact ih _ hnext ((c.interval_step e).trans hinterval)
        (hc.move hsound hinterval htime.1 hmove rfl) htime.2
  exact hrun _ (sound_start interval) rfl ⟨by simp [start, Rounds.all], by simp [start]⟩ htime

/-- **A poller keeps its pace**.  Whatever happens to it and whenever, every round is steady.  If time
does not pass over a tick, then no two fetches of a round are ever under way at one time, and as long as
each fetch of a round is answered at once, each begins exactly when it is its turn: the next one is not
overdue, and begins as soon as it is its turn. -/
theorem rounds_keep_pace {interval : Nat} (hinterval : 0 < interval) (es : List (Nat × Event)) :
    let c := afterAll interval es
    (∀ x ∈ c.rounds.all, x.Steady interval) ∧
    ((start interval).OnTime es →
      (∀ x ∈ c.rounds.all, x.Orderly ∧ x.Exact interval) ∧
      ∀ x, c.rounds.latest = some x → c.post.poller.isPolling = true → (∀ v ∈ x.visits, v.Prompt) →
        c.clock ≤ x.since + x.visits.length * interval ∧
        ∀ now, x.since + x.visits.length * interval ≤ now →
          (c.step (now, .wake)).rounds.latest = some (x.ask c.post.fetches.length now)) := by
  intro c
  refine ⟨(paced_afterAll interval es).rounds, fun htime => ?_⟩
  have htimed := timed_afterAll htime
  refine ⟨htimed.rounds, fun x hx hpolling hprompt => ?_⟩
  have hsound := sound_afterAll interval es
  obtain ⟨task, htask⟩ := Option.isSome_iff_exists.mp hpolling
  have hcurrent := htimed.task htask hx
  have hturn := hcurrent.turn fun _ hu => hprompt _ (List.mem_of_getElem? hu)
  refine ⟨hturn ▸ hcurrent.wait hprompt, fun now hnow => ?_⟩
  have hidle := hsound.idle htask hx hprompt
  have hpositive : c.post.poller.interval ≠ 0 := by
    rw [interval_afterAll]
    exact Nat.ne_of_gt hinterval
  simp [step, Rounds.note, Rounds.change, Poller.tick, htask, hidle, hturn, hnow, hpositive, hx]

/-- Two fetches that are answered at once. -/
private def promptAnswers : List (Nat × Event) := [
  (7, .target (some ⟨.ofNat 42⟩) true), (7, .wake), (7, .reply 0 (.ok none)),
  (2007, .wake), (2007, .reply 1 (.ok (some { call := ⟨.ofNat 42⟩, phase := .queued })))]

theorem rounds_keep_pace_promptAnswers :
    let c := afterAll 2000 promptAnswers
    ∃ x, c.rounds.all = [x] ∧ x.visits.map Visit.begun = [7, 2007] ∧ x.Steady 2000 ∧ x.Exact 2000 ∧
      (c.step (4007, .wake)).rounds.latest = some (x.ask 2 4007) := by
  intro c
  have htime : (start 2000).OnTime promptAnswers := by decide
  obtain ⟨hsteady, hexact⟩ := rounds_keep_pace (by decide : 0 < 2000) promptAnswers
  obtain ⟨hexact, hnext⟩ := hexact htime
  have hall : c.rounds.all =
      [⟨7, none, [⟨0, 7, some (7, .ok none)⟩,
        ⟨1, 2007, some (2007, .ok (some { call := ⟨.ofNat 42⟩, phase := .queued }))⟩]⟩] := by decide
  have hmem := hall ▸ List.mem_singleton_self _
  refine ⟨_, hall, rfl, hsteady _ hmem, (hexact _ hmem).2, ?_⟩
  exact (hnext _ (by decide) (by decide) (by decide)).2 4007 (by decide)

end Chronicle

end ChainProvision
