import ChainProvision.Proofs.Calls
import ChainProvision.Proofs.Transaction.Answer
import Mathlib.Data.List.Nodup

/-!
# The account of a desk's broadcasts

An account follows a run of a desk from outside, by its events: which submission was started last,
what was broadcast, and what receipt came for it.  It knows nothing of the numbers by which the
tracker tells submissions apart, so that what the tracker does can be measured against it.

## Main statements

- `Desk.Accounted`: how a desk stands to its account.
- `Desk.accounted_run`: every run keeps to it.
- `Desk.evolves_run`: a broadcast in the account changes only by its receipt, and only once.
-/

namespace ChainProvision

/-! ## Accounts -/

/-- A broadcast that succeeded. -/
structure Dispatch where
  /-- The submission that it belongs to. -/
  call : Nat
  hash : TxHash
  label : String
  time : Instant
  /-- Whether a reset or another submission came before the broadcast was answered. -/
  superseded : Bool
  /-- The answer to the wait for the receipt. -/
  receipt : Option (Except ChainError Receipt) := none

namespace Dispatch

/-- How the transaction of a broadcast stands by its receipt; one that is not there counts as
failed. -/
def status (x : Dispatch) : EntryStatus :=
  match x.receipt with
  | none => .pending
  | some (.ok r) => if r.succeeded then .confirmed else .failed
  | some (.error _) => .failed

/-- The entry that a journal should have for a broadcast. -/
def entry (x : Dispatch) : Entry := ⟨x.hash, x.label, x.status, x.time⟩

/-- Whether the submission of a broadcast has ended. -/
def isOver (x : Dispatch) : Bool := x.superseded || x.receipt.isSome

/-- A broadcast with its receipt. -/
def received (x : Dispatch) (r : Except ChainError Receipt) : Dispatch := { x with receipt := some r }

/-- A broadcast after a receipt came for the submission `call`. -/
def receiving (call : Nat) (r : Except ChainError Receipt) (x : Dispatch) : Dispatch :=
  if x.call = call then x.received r else x

@[simp] theorem receiving_call (call : Nat) (r : Except ChainError Receipt) (x : Dispatch) :
    (receiving call r x).call = x.call := by
  by_cases h : x.call = call <;> simp [receiving, received, h]

@[simp] theorem receiving_hash (call : Nat) (r : Except ChainError Receipt) (x : Dispatch) :
    (receiving call r x).hash = x.hash := by
  by_cases h : x.call = call <;> simp [receiving, received, h]

theorem receiving_of_eq {call : Nat} {x : Dispatch} (r : Except ChainError Receipt)
    (h : x.call = call) : receiving call r x = x.received r := by
  simp [receiving, h]

theorem receiving_of_ne {call : Nat} {x : Dispatch} (r : Except ChainError Receipt)
    (h : x.call ≠ call) : receiving call r x = x := by
  simp [receiving, h]

/-- What may become of a broadcast: it stays as it is, or its receipt comes while its submission
waits. -/
def Evolves (x y : Dispatch) : Prop := y = x ∨ x.isOver = false ∧ ∃ r, y = x.received r

theorem Evolves.trans {x y z : Dispatch} (hxy : x.Evolves y) (hyz : y.Evolves z) : x.Evolves z := by
  rcases hxy with rfl | ⟨hx, r, rfl⟩
  · exact hyz
  · rcases hyz with rfl | ⟨hy, _⟩
    · exact Or.inr ⟨hx, r, rfl⟩
    · simp [isOver, received] at hy

end Dispatch

/-- What a run of a desk looks like from outside. -/
structure Account where
  /-- The submission that was started last since the last reset. -/
  latest : Option Nat := none
  /-- The broadcasts that succeeded, in order. -/
  dispatches : List Dispatch := []

namespace Account

/-- The account after a suspended submission was given an answer. -/
def answered (c : Account) (m : Moment) (call : Nat) (ticket : Ticket) (a : Answer) : Account :=
  match ticket.awaiting, a with
  | .broadcast, .broadcast (.ok hash) =>
    { c with
      dispatches := c.dispatches ++
        [{ call, hash, label := ticket.submission.label, time := m.wall
           superseded := c.latest != some call }] }
  | .receipt _, .receipt r =>
    { c with dispatches := c.dispatches.map (Dispatch.receiving call r) }
  | _, _ => c

theorem answered_of_unasked {c : Account} {m : Moment} {call : Nat} {ticket : Ticket} {a : Answer}
    (h : ticket.awaiting.fits a = false) : c.answered m call ticket a = c := by
  obtain ⟨generation, submission, awaiting⟩ := ticket
  cases awaiting <;> cases a <;> first | rfl | cases h

/-- The account after an event at a desk. -/
def note (c : Account) (d : Desk) (m : Moment) : DeskEvent → Account
  | .submit _ => { c with latest := some d.calls.length }
  | .reset => { c with latest := none }
  | .answer call a =>
    match d.calls[call]? with
    | some ⟨_, .suspended ticket⟩ => c.answered m call ticket a
    | _ => c

/-- The hashes that were broadcast, in order. -/
def hashes (c : Account) : List TxHash := c.dispatches.map Dispatch.hash

end Account

namespace Desk

/-- A desk and its account after an event with its surroundings. -/
def step (p : Desk × Account) (e : Moment × DeskEvent) : Desk × Account :=
  (p.1.handle e.1 e.2, p.2.note p.1 e.1 e.2)

/-- A desk and its account after events. -/
def run (p : Desk × Account) (es : List (Moment × DeskEvent)) : Desk × Account := es.foldl step p

/-- A desk and its account after events from the start. -/
def afterAll (es : List (Moment × DeskEvent)) : Desk × Account := run ({}, {}) es

theorem run_cons (p : Desk × Account) (e : Moment × DeskEvent) (es : List (Moment × DeskEvent)) :
    run p (e :: es) = run (step p e) es := rfl

theorem run_append (p : Desk × Account) (es fs : List (Moment × DeskEvent)) :
    run p (es ++ fs) = run (run p es) fs := List.foldl_append

theorem afterAll_append (es fs : List (Moment × DeskEvent)) :
    afterAll (es ++ fs) = run (afterAll es) fs := run_append ({}, {}) es fs

/-! ## How a desk stands to its account -/

/-- A broadcast's submission has ended, or it waits for the receipt. -/
def Stands (d : Desk) (x : Dispatch) : Prop :=
  ∃ seen course, d.calls[x.call]? = some ⟨seen, course⟩ ∧
    if x.isOver then ∃ result, course = .ended result
    else ∃ ticket, course = .suspended ticket ∧ ticket.awaiting = .receipt x.hash

/-- A broadcast stands as before where its submission was left alone. -/
theorem Stands.of_calls_eq {d d' : Desk} {x : Dispatch} (h : d.Stands x)
    (hcall : d'.calls[x.call]? = d.calls[x.call]?) : d'.Stands x := by
  obtain ⟨seen, course, hget, hcourse⟩ := h
  exact ⟨seen, course, hcall.trans hget, hcourse⟩

/-- A submission that is suspended waits for the receipt, if it has broadcast. -/
theorem Stands.suspended {d : Desk} {x : Dispatch} {seen : List TxSnapshot} {ticket : Ticket}
    (h : d.Stands x) (hget : d.calls[x.call]? = some ⟨seen, .suspended ticket⟩) :
    x.isOver = false ∧ ticket.awaiting = .receipt x.hash := by
  obtain ⟨seen', course, hget', hcourse⟩ := h
  rw [hget] at hget'
  obtain ⟨rfl, rfl⟩ := SubmitCall.mk.inj (Option.some.inj hget')
  split at hcourse
  · obtain ⟨result, hresult⟩ := hcourse
    cases hresult
  · rename_i hover
    obtain ⟨ticket', hticket, hawait⟩ := hcourse
    obtain rfl := Course.suspended.inj hticket
    exact ⟨by simpa using hover, hawait⟩

theorem Stands.ended {d : Desk} {x : Dispatch} {seen : List TxSnapshot} {result : Option TxHash}
    (h : d.Stands x) (hget : d.calls[x.call]? = some ⟨seen, .ended result⟩) : x.isOver = true := by
  obtain ⟨seen', course, hget', hcourse⟩ := h
  rw [hget] at hget'
  obtain ⟨rfl, rfl⟩ := SubmitCall.mk.inj (Option.some.inj hget')
  split at hcourse
  · assumption
  · obtain ⟨ticket, hticket, -⟩ := hcourse
    cases hticket

/-- How a desk stands to its account. -/
structure Accounted (d : Desk) (c : Account) : Prop where
  /-- The submission that may publish is the one that was started last since the last reset. -/
  latest : ∀ {call : Nat} {seen : List TxSnapshot} {ticket : Ticket},
    d.calls[call]? = some ⟨seen, .suspended ticket⟩ →
      ticket.generation ≤ d.tracker.generation ∧
        (ticket.generation = d.tracker.generation ↔ c.latest = some call)
  /-- No submission broadcasts twice. -/
  once : (c.dispatches.map Dispatch.call).Nodup
  stands : ∀ x ∈ c.dispatches, d.Stands x
  /-- A superseded submission does not wait for its receipt. -/
  late : ∀ x ∈ c.dispatches, x.superseded = true → x.receipt = none
  /-- A submission that waits for a receipt has broadcast. -/
  awaited : ∀ {call : Nat} {seen : List TxSnapshot} {ticket : Ticket} {hash : TxHash},
    d.calls[call]? = some ⟨seen, .suspended ticket⟩ → ticket.awaiting = .receipt hash →
      ∃ x ∈ c.dispatches, x.call = call ∧ x.hash = hash ∧ x.isOver = false

theorem accounted_start : Accounted {} {} where
  latest := by simp
  once := by simp
  stands := by simp
  late := by simp
  awaited := by simp

/-! ## The steps of a run -/

theorem Accounted.submit {d : Desk} {c : Account} (h : Accounted d c) (m : Moment) (s : Submission) :
    Accounted (d.handle m (.submit s)) (c.note d m (.submit s)) where
  latest := by
    intro call seen ticket hget
    rcases Calls.get_of_concat hget with hold | ⟨rfl, hnew⟩
    · -- The generation of an earlier submission has passed.
      obtain ⟨hle, -⟩ := h.latest hold
      refine ⟨Nat.le_succ_of_le hle, ?_, ?_⟩
      · intro heq
        exact absurd heq (Nat.ne_of_lt (Nat.lt_succ_of_le hle))
      · intro heq
        exact absurd (Option.some.inj heq).symm (Nat.ne_of_lt (Calls.lt_of_get hold))
    · obtain ⟨-, hticket⟩ := SubmitCall.mk.inj hnew
      obtain rfl := Course.suspended.inj hticket
      exact ⟨Nat.le_refl _, fun _ => rfl, fun _ => rfl⟩
  once := h.once
  stands := by
    intro x hx
    have hstands := h.stands x hx
    obtain ⟨_, _, hget, _⟩ := id hstands
    exact hstands.of_calls_eq ((Calls.get_concat hget _).trans hget.symm)
  late := h.late
  awaited := by
    intro call seen ticket hash hget hawait
    rcases Calls.get_of_concat hget with hold | ⟨rfl, hnew⟩
    · exact h.awaited hold hawait
    · -- The new submission waits for the wallet.
      obtain ⟨-, hticket⟩ := SubmitCall.mk.inj hnew
      obtain rfl := Course.suspended.inj hticket
      cases hawait

theorem Accounted.reset {d : Desk} {c : Account} (h : Accounted d c) (m : Moment) :
    Accounted (d.handle m .reset) (c.note d m .reset) where
  latest := by
    intro call seen ticket hget
    -- Every generation has passed, and the account has no latest submission.
    obtain ⟨hle, -⟩ := h.latest hget
    refine ⟨Nat.le_succ_of_le hle, ?_, ?_⟩
    · intro heq
      exact absurd heq (Nat.ne_of_lt (Nat.lt_succ_of_le hle))
    · intro heq
      cases heq
  once := h.once
  stands := h.stands
  late := h.late
  awaited := h.awaited

section Answers

variable {d d' : Desk} {c : Account} {call : Nat} {seen seen' : List TxSnapshot} {ticket : Ticket}
  {course : Course} {result : Option TxHash}

/-- A submission that has not broadcast yet is in no entry of the account. -/
theorem Accounted.call_ne (h : Accounted d c) (hget : d.calls[call]? = some ⟨seen, .suspended ticket⟩)
    (hawait : ∀ hash, ticket.awaiting ≠ .receipt hash) : ∀ x ∈ c.dispatches, x.call ≠ call := by
  rintro x hx rfl
  exact hawait x.hash ((h.stands x hx).suspended hget).2

/-- A broadcast stands as before when another submission goes on. -/
private theorem Accounted.stands_set (h : Accounted d c)
    (hcalls : d'.calls = d.calls.set call ⟨seen', course⟩) {x : Dispatch} (hx : x ∈ c.dispatches)
    (hne : x.call ≠ call) : d'.Stands x := by
  refine (h.stands x hx).of_calls_eq ?_
  rw [hcalls]
  exact List.getElem?_set_ne hne.symm

/-- Which submission may publish does not change when one goes on. -/
private theorem Accounted.latest_set (h : Accounted d c)
    (hget : d.calls[call]? = some ⟨seen, .suspended ticket⟩)
    (hgen : d'.tracker.generation = d.tracker.generation)
    (hcalls : d'.calls = d.calls.set call ⟨seen', course⟩)
    (hcourse : ∀ next, course = .suspended next → next.generation = ticket.generation)
    {i : Nat} {s : List TxSnapshot} {t : Ticket} (hi : d'.calls[i]? = some ⟨s, .suspended t⟩) :
    t.generation ≤ d'.tracker.generation ∧
      (t.generation = d'.tracker.generation ↔ c.latest = some i) := by
  rw [hcalls] at hi
  rw [hgen]
  rcases Calls.get_of_set hi with ⟨hold, -⟩ | ⟨rfl, hnew⟩
  · exact h.latest hold
  · obtain ⟨-, hnext⟩ := SubmitCall.mk.inj hnew
    rw [hcourse t hnext]
    exact h.latest hget

/-- A step of a submission before its broadcast, of which the account takes no notice. -/
theorem Accounted.keep (h : Accounted d c) (hget : d.calls[call]? = some ⟨seen, .suspended ticket⟩)
    (hgen : d'.tracker.generation = d.tracker.generation)
    (hcalls : d'.calls = d.calls.set call ⟨seen', course⟩)
    (hawait : ∀ hash, ticket.awaiting ≠ .receipt hash)
    (hcourse : ∀ next, course = .suspended next →
      next.generation = ticket.generation ∧ ∀ hash, next.awaiting ≠ .receipt hash) :
    Accounted d' c where
  latest hi := h.latest_set hget hgen hcalls (fun next hnext => (hcourse next hnext).1) hi
  once := h.once
  stands x hx := h.stands_set hcalls hx (h.call_ne hget hawait x hx)
  late := h.late
  awaited := by
    intro i s t hash hi hi'
    rw [hcalls] at hi
    rcases Calls.get_of_set hi with ⟨hold, -⟩ | ⟨rfl, hnew⟩
    · exact h.awaited hold hi'
    · obtain ⟨-, hnext⟩ := SubmitCall.mk.inj hnew
      exact absurd hi' ((hcourse t hnext).2 hash)

/-- The answer to a broadcast: the account has one more entry. -/
theorem Accounted.append (h : Accounted d c) (hget : d.calls[call]? = some ⟨seen, .suspended ticket⟩)
    (hgen : d'.tracker.generation = d.tracker.generation)
    (hcalls : d'.calls = d.calls.set call ⟨seen', course⟩)
    (hawait : ticket.awaiting = .broadcast) {x : Dispatch} (hx : x.call = call) (hr : x.receipt = none)
    (hcourse : course =
      if x.superseded then .ended none else .suspended { ticket with awaiting := .receipt x.hash }) :
    Accounted d' { c with dispatches := c.dispatches ++ [x] } := by
  have hne := h.call_ne hget (by simp [hawait])
  have hover : x.isOver = x.superseded := by simp [Dispatch.isOver, hr]
  -- The submission goes on just if it was not superseded.
  have hnext : ∀ next, course = .suspended next →
      x.superseded = false ∧ next = { ticket with awaiting := .receipt x.hash } := by
    intro next hsuspended
    rw [hsuspended] at hcourse
    split at hcourse
    · cases hcourse
    · rename_i hs
      exact ⟨by simpa using hs, Course.suspended.inj hcourse⟩
  constructor
  · intro i s t hi
    exact h.latest_set hget hgen hcalls (fun next hsuspended => (hnext next hsuspended).2 ▸ rfl) hi
  · -- The submission has not broadcast before, so it is new in the account.
    simp only [List.map_append, List.map_cons, List.map_nil]
    refine List.nodup_append.mpr ⟨h.once, List.nodup_singleton _, ?_⟩
    intro i hi j hj
    obtain ⟨y, hy, rfl⟩ := List.mem_map.mp hi
    obtain rfl := List.mem_singleton.mp hj
    rw [hx]
    exact hne y hy
  · intro y hy
    rcases List.mem_append.mp hy with hy | hy
    · exact h.stands_set hcalls hy (hne y hy)
    · obtain rfl := List.mem_singleton.mp hy
      refine ⟨seen', course, ?_, ?_⟩
      · rw [hcalls, hx]
        exact List.getElem?_set_self (Calls.lt_of_get hget)
      · rw [hcourse, hover]
        cases y.superseded <;> simp
  · intro y hy
    rcases List.mem_append.mp hy with hy | hy
    · exact h.late y hy
    · obtain rfl := List.mem_singleton.mp hy
      exact fun _ => hr
  · intro i s t hash hi hi'
    rw [hcalls] at hi
    rcases Calls.get_of_set hi with ⟨hold, -⟩ | ⟨rfl, hnew⟩
    · obtain ⟨y, hy, hrest⟩ := h.awaited hold hi'
      exact ⟨y, List.mem_append_left _ hy, hrest⟩
    · obtain ⟨-, hsuspended⟩ := SubmitCall.mk.inj hnew
      obtain ⟨hs, rfl⟩ := hnext t hsuspended
      exact ⟨x, by simp, hx, Awaiting.receipt.inj hi', hover.trans hs⟩

/-- The answer to the wait for a receipt: the broadcast of the submission gets it. -/
theorem Accounted.receive (h : Accounted d c) (hget : d.calls[call]? = some ⟨seen, .suspended ticket⟩)
    (hgen : d'.tracker.generation = d.tracker.generation)
    (hcalls : d'.calls = d.calls.set call ⟨seen', .ended result⟩)
    (r : Except ChainError Receipt) :
    Accounted d' { c with dispatches := c.dispatches.map (Dispatch.receiving call r) } where
  latest hi := h.latest_set hget hgen hcalls (fun _ hnext => nomatch hnext) hi
  once := by
    have hsame : Dispatch.call ∘ Dispatch.receiving call r = Dispatch.call := by
      funext x
      simp
    simpa [hsame] using h.once
  stands := by
    intro y hy
    obtain ⟨x, hx, rfl⟩ := List.mem_map.mp hy
    by_cases hcall : x.call = call
    · refine ⟨seen', .ended result, ?_, ?_⟩
      · rw [Dispatch.receiving_call, hcalls, hcall]
        exact List.getElem?_set_self (Calls.lt_of_get hget)
      · simp [Dispatch.receiving_of_eq r hcall, Dispatch.isOver, Dispatch.received]
    · rw [Dispatch.receiving_of_ne r hcall]
      exact h.stands_set hcalls hx hcall
  late := by
    intro y hy hlate
    obtain ⟨x, hx, rfl⟩ := List.mem_map.mp hy
    by_cases hcall : x.call = call
    · -- A submission that is suspended was not superseded.
      subst hcall
      obtain ⟨hover, -⟩ := (h.stands x hx).suspended hget
      rw [Dispatch.receiving_of_eq r rfl] at hlate
      have hs : x.superseded = true := hlate
      simp [Dispatch.isOver, hs] at hover
    · rw [Dispatch.receiving_of_ne r hcall] at hlate ⊢
      exact h.late x hx hlate
  awaited := by
    intro i s t hash hi hi'
    rw [hcalls] at hi
    rcases Calls.get_of_set hi with ⟨hold, hne⟩ | ⟨-, hnew⟩
    · obtain ⟨x, hx, hcall, hhash, hover⟩ := h.awaited hold hi'
      refine ⟨x, ?_, hcall, hhash, hover⟩
      exact List.mem_map.mpr ⟨x, hx, Dispatch.receiving_of_ne r (hcall ▸ hne)⟩
    · cases hnew

end Answers

/-- The answer that a superseded submission gets: it ends, and only the account's entry of it
changes. -/
theorem Accounted.unseen {d d' : Desk} {c : Account} {m : Moment} {call : Nat}
    {seen seen' : List TxSnapshot} {ticket : Ticket} {a : Answer} (h : Accounted d c)
    (hget : d.calls[call]? = some ⟨seen, .suspended ticket⟩)
    (hgen : d'.tracker.generation = d.tracker.generation)
    (hcalls : d'.calls = d.calls.set call ⟨seen', .ended none⟩)
    (hlate : d.tracker.generation ≠ ticket.generation) (hfits : ticket.awaiting.fits a = true)
    (hsign : ticket.awaiting = .signature → ∃ e, a = .signature (.error e)) :
    Accounted d' (c.answered m call ticket a) := by
  -- The account knows by itself that the submission is not the latest one.
  have hlatest : c.latest ≠ some call := fun heq => hlate ((h.latest hget).2.mpr heq).symm
  obtain ⟨generation, submission, awaiting⟩ := ticket
  cases awaiting with
  | signature =>
    obtain ⟨e, rfl⟩ := hsign rfl
    exact h.keep hget hgen hcalls (by simp) (by simp)
  | broadcast =>
    rcases a with _ | (e | hash) | _
    · cases hfits
    · exact h.keep hget hgen hcalls (by simp) (by simp)
    · exact h.append hget hgen hcalls rfl rfl rfl (by simp [hlatest])
    · cases hfits
  | receipt hash =>
    rcases a with _ | _ | r
    · cases hfits
    · cases hfits
    · exact h.receive hget hgen hcalls r

theorem Accounted.answer {d : Desk} {c : Account} (h : Accounted d c) (m : Moment) (call : Nat)
    (a : Answer) : Accounted (d.handle m (.answer call a)) (c.note d m (.answer call a)) := by
  cases hget : d.calls[call]? with
  | none => simpa [handle, Account.note, hget] using h
  | some s =>
    obtain ⟨seen, course⟩ := s
    cases course with
    | ended result => simpa [handle, Account.note, hget] using h
    | suspended ticket =>
      have hstep := Tracker.resumed_resume m d.tracker d.journal ticket a
      simp only [handle, Account.note, hget]
      generalize d.tracker.resume m d.journal ticket a = p at hstep ⊢
      cases hstep with
      | unasked hfits =>
        rw [Account.answered_of_unasked hfits, List.append_nil, Calls.set_get hget]
        exact h
      | signed hawait =>
        have hacc : c.answered m call ticket (.signature (.ok ())) = c := by
          simp [Account.answered, hawait]
        rw [hacc]
        exact h.keep hget rfl rfl (by simp [hawait]) (by simp)
      | unseen hlate hfits hsign => exact h.unseen hget rfl rfl hlate hfits hsign
      | @sent hash hcur hawait =>
        have hlatest : c.latest = some call := (h.latest hget).2.mp hcur.symm
        have hacc : c.answered m call ticket (.broadcast (.ok hash)) =
            { c with
              dispatches := c.dispatches ++
                [{ call, hash, label := ticket.submission.label, time := m.wall
                   superseded := false }] } := by
          simp [Account.answered, hawait, hlatest]
        rw [hacc]
        exact h.append hget (by rfl) (by rfl) hawait (by rfl) (by rfl) (by rfl)
      | failed hcur hfail =>
        -- Of the failures, only that of the wait for the receipt is in the account.
        obtain ⟨generation, submission, awaiting⟩ := ticket
        cases awaiting with
        | signature =>
          exact h.keep hget rfl rfl (by simp) (by simp)
        | broadcast =>
          rcases a with _ | (e | hash) | _
          · cases hfail
          · exact h.keep hget rfl rfl (by simp) (by simp)
          · cases hfail
          · cases hfail
        | receipt hash =>
          rcases a with _ | _ | r
          · cases hfail
          · cases hfail
          · exact h.receive hget (by rfl) (by rfl) r
      | @confirmed hash r hcur hawait hr =>
        have hacc : c.answered m call ticket (.receipt (.ok r)) =
            { c with dispatches := c.dispatches.map (Dispatch.receiving call (.ok r)) } := by
          simp [Account.answered, hawait]
        rw [hacc]
        exact h.receive hget (by rfl) (by rfl) (.ok r)

/-- Every event keeps a desk to its account. -/
theorem Accounted.step {p : Desk × Account} (h : Accounted p.1 p.2) (e : Moment × DeskEvent) :
    Accounted (step p e).1 (step p e).2 := by
  obtain ⟨m, e⟩ := e
  cases e with
  | submit s => exact h.submit m s
  | reset => exact h.reset m
  | answer call a => exact h.answer m call a

theorem accounted_run {p : Desk × Account} (h : Accounted p.1 p.2) (es : List (Moment × DeskEvent)) :
    Accounted (run p es).1 (run p es).2 := by
  induction es generalizing p with
  | nil => exact h
  | cons e es ih => exact ih (h.step e)

theorem accounted_afterAll (es : List (Moment × DeskEvent)) :
    Accounted (afterAll es).1 (afterAll es).2 :=
  accounted_run accounted_start es

/-! ## How an account grows -/

/-- A broadcast in the account changes only by its receipt. -/
theorem evolves_step {p : Desk × Account} (h : Accounted p.1 p.2) (e : Moment × DeskEvent) {i : Nat}
    {x : Dispatch} (hx : p.2.dispatches[i]? = some x) :
    ∃ y, (step p e).2.dispatches[i]? = some y ∧ x.Evolves y := by
  obtain ⟨d, c⟩ := p
  obtain ⟨m, e⟩ := e
  cases e with
  | submit s => exact ⟨x, hx, Or.inl rfl⟩
  | reset => exact ⟨x, hx, Or.inl rfl⟩
  | answer call a =>
    cases hget : d.calls[call]? with
    | none => exact ⟨x, by simpa [step, Account.note, hget] using hx, Or.inl rfl⟩
    | some s =>
      obtain ⟨seen, course⟩ := s
      cases course with
      | ended result => exact ⟨x, by simpa [step, Account.note, hget] using hx, Or.inl rfl⟩
      | suspended ticket =>
        simp only [step, Account.note, hget, Account.answered]
        split
        · -- A broadcast is added at the end.
          exact ⟨x, Calls.get_concat hx _, Or.inl rfl⟩
        · next r _ =>
          refine ⟨x.receiving call r, by simp [hx], ?_⟩
          by_cases hcall : x.call = call
          · -- Its submission waits for this receipt, so it has none yet.
            subst hcall
            obtain ⟨hover, -⟩ := (h.stands x (List.mem_of_getElem? hx)).suspended hget
            exact Or.inr ⟨hover, r, Dispatch.receiving_of_eq r rfl⟩
          · exact Or.inl (Dispatch.receiving_of_ne r hcall)
        · exact ⟨x, hx, Or.inl rfl⟩

theorem evolves_run {p : Desk × Account} (h : Accounted p.1 p.2) (es : List (Moment × DeskEvent))
    {i : Nat} {x : Dispatch} (hx : p.2.dispatches[i]? = some x) :
    ∃ y, (run p es).2.dispatches[i]? = some y ∧ x.Evolves y := by
  induction es generalizing p x with
  | nil => exact ⟨x, hx, Or.inl rfl⟩
  | cons e es ih =>
    obtain ⟨y, hy, hxy⟩ := evolves_step h e hx
    obtain ⟨z, hz, hyz⟩ := ih (h.step e) hy
    exact ⟨z, hz, hxy.trans hyz⟩

/-- No hash leaves the account. -/
theorem hashes_prefix_step (p : Desk × Account) (e : Moment × DeskEvent) :
    p.2.hashes <+: (step p e).2.hashes := by
  obtain ⟨d, c⟩ := p
  obtain ⟨m, e⟩ := e
  cases e with
  | submit s => exact List.prefix_rfl
  | reset => exact List.prefix_rfl
  | answer call a =>
    simp only [step, Account.note]
    split
    · simp only [Account.answered]
      split
      · simp [Account.hashes]
      · -- A receipt leaves the hashes as they are.
        next r _ =>
        have hsame : Dispatch.hash ∘ Dispatch.receiving call r = Dispatch.hash := by
          funext x
          simp
        simp [Account.hashes, hsame]
      · exact List.prefix_rfl
    · exact List.prefix_rfl

theorem hashes_prefix_run (p : Desk × Account) (es : List (Moment × DeskEvent)) :
    p.2.hashes <+: (run p es).2.hashes := by
  induction es generalizing p with
  | nil => exact List.prefix_rfl
  | cons e es ih => exact (hashes_prefix_step p e).trans (ih (step p e))

end Desk

end ChainProvision
