import ChainProvision.Proofs.Operator.Url
import ChainProvision.Proofs.Text.Numeral
import Mathlib.Data.List.Basic
import Mathlib.Data.List.Induction

/-!
# Hosts and ports

An authority is user information, a host and what follows the host.  The host is a literal address in
brackets, or a name that ends at the first colon.  The port is what follows the last colon behind the host:
where that cannot be read as the number of a port, the URL is accepted all the same, and the port is the one
of a URL that names none.

## Main definitions

- `Uri.HostPart`, `Uri.Authority.Splits`: the parts of an authority.
- `Uri.Holds`: a text is a URL with a given authority.
- `Endpoint.PortBehind`: how an endpoint stands to what follows its host.
- `Endpoint.HonoursPort`: a port that the URL gives is the port of the endpoint.

## Main statements

- `Uri.Authority.exists_splits`, `Uri.Authority.Splits.unique`: every authority has its parts, and only
  those.
- `Endpoint.explicit_port_honoured_unless_unreadable`: the host and the port of an endpoint, and when a port
  that the URL gives is honoured.
-/

namespace ChainProvision

namespace Uri

/-! ## The last occurrence of a character -/

section AfterLast

variable {c : Char} {cs before after : List Char}

theorem afterLast_append (h : c ∉ after) : afterLast c (before ++ c :: after) = after := by
  have hall : ∀ d ∈ after.reverse, decide (d ≠ c) = true := by
    intro d hd
    exact decide_eq_true fun hdc => h (hdc ▸ List.mem_reverse.mp hd)
  rw [afterLast, List.reverse_append, List.reverse_cons, List.append_assoc,
    List.takeWhile_append_of_pos hall]
  simp

theorem afterLast_of_notMem (h : c ∉ cs) : afterLast c cs = cs := by
  rw [afterLast, List.takeWhile_eq_self_iff.mpr, List.reverse_reverse]
  intro d hd
  exact decide_eq_true fun hdc => h (hdc ▸ List.mem_reverse.mp hd)

/-- A text in which a character occurs is split at its last occurrence. -/
theorem exists_append_of_mem (h : c ∈ cs) : ∃ before after, cs = before ++ c :: after ∧ c ∉ after := by
  obtain ⟨after, before, heq, hafter⟩ := List.eq_append_cons_of_mem (List.mem_reverse.mpr h)
  refine ⟨before.reverse, after.reverse, ?_, fun hmem => hafter (List.mem_reverse.mp hmem)⟩
  rw [← List.reverse_reverse cs, heq]
  simp

/-- A later character that is no occurrence is among what follows the last one. -/
theorem mem_afterLast {d : Char} (hd : d ≠ c) (h : c ∉ after) : d ∈ afterLast c (before ++ d :: after) := by
  have hrest : c ∉ d :: after := by
    rw [List.mem_cons, not_or]
    exact ⟨Ne.symm hd, h⟩
  by_cases hmem : c ∈ before
  · obtain ⟨front, back, rfl, hback⟩ := exists_append_of_mem hmem
    rw [List.append_assoc, List.cons_append, afterLast_append]
    · exact List.mem_append_right _ List.mem_cons_self
    · exact fun h' => (List.mem_append.mp h').elim hback hrest
  · rw [afterLast_of_notMem fun h' => (List.mem_append.mp h').elim hmem hrest]
    exact List.mem_append_right _ List.mem_cons_self

end AfterLast

/-! ## The parts of an authority -/

/-- A text holds no brackets. -/
structure Plain (cs : List Char) : Prop where
  opening : '[' ∉ cs
  closing : ']' ∉ cs

/-- A host as written, what follows it, and the host that it names. -/
inductive HostPart : List Char → List Char → List Char → Prop where
  /-- A literal address in brackets. -/
  | literal {inner tail : List Char} :
      Plain inner → Plain tail → HostPart ('[' :: inner ++ [']']) tail inner
  /-- A name; closing brackets at its end do not belong to the host. -/
  | name {inner tail : List Char} {n : Nat} :
      ':' ∉ inner → (inner ++ List.replicate n ']').head? ≠ some '[' → inner.getLast? ≠ some ']' →
      (tail = [] ∨ tail.head? = some ':') →
      HostPart (inner ++ List.replicate n ']') tail inner

/-- The user information of an authority, its host as written, what follows the host, and the host that it
names. -/
structure Authority.Splits (a : Authority) (user host tail named : List Char) : Prop where
  chars : a.chars = user ++ (host ++ tail)
  user : user = [] ∨ user.getLast? = some '@'
  noAt : '@' ∉ host ++ tail
  host : HostPart host tail named

/-- A text is a URL of plain HTTP with the given authority. -/
structure Holds (url : List Char) (a : Authority) : Prop where
  text : ∃ scheme rest, url = scheme ++ a.chars ++ rest ∧ scheme.map Char.toLower = "http://".toList ∧
    ∀ c, rest.head? = some c → Authority.isEnd c = true
  chars : ∀ c ∈ a.chars, Authority.isEnd c = false

namespace Authority

variable {a : Authority} {user host tail named : List Char}

/-! ## What is read from the parts -/

theorem Splits.hostAndPort_eq (h : a.Splits user host tail named) : a.hostAndPort = host ++ tail := by
  rw [hostAndPort, h.chars]
  rcases h.user with rfl | huser
  · rw [List.nil_append, afterLast_of_notMem h.noAt]
  · obtain ⟨name, rfl⟩ := List.getLast?_eq_some_iff.mp huser
    rw [List.append_assoc, List.singleton_append, afterLast_append h.noAt]

theorem Splits.bracketedHost_eq (h : a.Splits user host tail named) : a.bracketedHost = host := by
  rw [bracketedHost, h.hostAndPort_eq]
  cases h.host with
  | literal hinner _ =>
    have hall : ∀ c ∈ named, decide (c ≠ ']') = true := fun c hc =>
      decide_eq_true fun hclosing => hinner.closing (hclosing ▸ hc)
    simp only [List.cons_append, List.append_assoc, List.takeWhile_append_of_pos hall]
    simp
  | @name _ _ n hcolon hopening _ htail =>
    have hhost : ':' ∉ named ++ List.replicate n ']' := by
      simp only [List.mem_append, List.mem_replicate, not_or, not_and]
      exact ⟨hcolon, fun _ => by decide⟩
    have hall : ∀ c ∈ named ++ List.replicate n ']', decide (c ≠ ':') = true := fun c hc =>
      decide_eq_true fun hc' => hhost (hc' ▸ hc)
    have htake : (named ++ List.replicate n ']' ++ tail).takeWhile (· ≠ ':') = named ++ List.replicate n ']' := by
      rw [List.takeWhile_append_of_pos hall]
      rcases htail with rfl | htail
      · simp
      · obtain ⟨rest, rfl⟩ := List.head?_eq_some_iff.mp htail
        simp
    split
    · rename_i rest heq
      -- What follows a name does not begin with a bracket either.
      exfalso
      have hhead := congrArg List.head? heq
      rw [List.head?_append, List.head?_cons] at hhead
      cases hfirst : (named ++ List.replicate n ']').head? with
      | some c =>
        rw [hfirst] at hhead hopening
        exact hopening hhead
      | none =>
        rw [hfirst, Option.none_or] at hhead
        rcases htail with rfl | htail
        · cases hhead
        · rw [htail] at hhead
          exact absurd hhead (by decide)
    · exact htake

/-- Nothing is dropped from a text that begins with another character. -/
private theorem dropWhile_of_head? {c : Char} {cs : List Char} (h : cs.head? ≠ some c) :
    cs.dropWhile (· == c) = cs := by
  cases cs with
  | nil => rfl
  | cons d cs =>
    have hd : (d == c) = false := beq_eq_false_iff_ne.mpr fun heq => h (congrArg some heq)
    exact List.dropWhile_cons_of_neg (by simp [hd])

/-- The closing brackets at the end of a text are dropped, and nothing else. -/
private theorem drop_closing (hlast : named.getLast? ≠ some ']') (n : Nat) :
    ((named ++ List.replicate n ']').reverse.dropWhile (· == ']')).reverse = named := by
  rw [List.reverse_append, List.reverse_replicate, List.dropWhile_append_of_pos (by simp),
    dropWhile_of_head? (by rwa [List.head?_reverse]), List.reverse_reverse]

theorem Splits.host_eq (h : a.Splits user host tail named) : a.host = String.ofList named := by
  rw [Authority.host, h.bracketedHost_eq]
  congr 1
  -- Opening brackets are dropped first, and then closing ones from the other end.
  cases h.host with
  | literal hinner _ =>
    have hopening : (named ++ [']']).head? ≠ some '[' := by
      intro hfirst
      have hmem := List.mem_of_mem_head? hfirst
      simp only [List.mem_append, List.mem_singleton] at hmem
      exact hmem.elim hinner.opening (by decide)
    rw [List.cons_append, List.dropWhile_cons_of_pos (by decide), dropWhile_of_head? hopening]
    exact drop_closing (fun hlast => hinner.closing (List.mem_of_getLast? hlast)) 1
  | @name _ _ n _ hopening hlast _ =>
    rw [dropWhile_of_head? hopening]
    exact drop_closing hlast n

/-- The parts of an authority are determined by it. -/
theorem Splits.unique (h : a.Splits user host tail named) {user' host' tail' named' : List Char}
    (h' : a.Splits user' host' tail' named') :
    user = user' ∧ host = host' ∧ tail = tail' ∧ named = named' := by
  have hhost : host = host' := h.bracketedHost_eq.symm.trans h'.bracketedHost_eq
  have hrest : host ++ tail = host' ++ tail' := h.hostAndPort_eq.symm.trans h'.hostAndPort_eq
  have huser : user ++ (host ++ tail) = user' ++ (host' ++ tail') := h.chars.symm.trans h'.chars
  subst hhost
  obtain rfl := List.append_cancel_left hrest
  exact ⟨List.append_cancel_right huser, rfl, rfl,
    String.ofList_injective (h.host_eq.symm.trans h'.host_eq)⟩

/-- The port is read from what follows the last colon behind the host. -/
theorem Splits.port_of_colon (h : a.Splits user host tail named) {before port : List Char}
    (htail : tail = before ++ ':' :: port) (hport : ':' ∉ port) :
    a.port = (Text.readNumeral UInt16.size Word16.size_pos port).toOption := by
  have hchars : a.chars = (user ++ host ++ before) ++ ':' :: port := by
    rw [h.chars, htail]
    simp
  rw [Authority.port, if_pos (by rw [hchars]; exact List.mem_append_right _ List.mem_cons_self), hchars,
    afterLast_append hport]

/-- Nothing can be read from a text that holds a character which stands in no numeral. -/
private theorem readNumeral_of_mem {cs : List Char} {c : Char} (hc : c ∈ cs) (hdigit : c.isDigit = false)
    (hsign : c ≠ '+') : (Text.readNumeral UInt16.size Word16.size_pos cs).toOption = none := by
  cases hread : Text.readNumeral UInt16.size Word16.size_pos cs with
  | error e => rfl
  | ok n =>
    obtain ⟨digits, rfl | rfl, hdigits⟩ := Text.readNumeral_eq_ok_iff.mp hread
    · rw [hdigits.isDigit c hc] at hdigit
      cases hdigit
    · rcases List.mem_cons.mp hc with hplus | hc
      · exact absurd hplus hsign
      · rw [hdigits.isDigit c hc] at hdigit
        cases hdigit

/-- No port is read where the last colon stands before a character that no numeral holds. -/
private theorem port_of_mark {c : Char} {before after : List Char} (hchars : a.chars = before ++ c :: after)
    (hcolon : c ≠ ':') (hafter : ':' ∉ after) (hdigit : c.isDigit = false) (hsign : c ≠ '+') :
    a.port = none := by
  unfold Authority.port
  split
  · rw [hchars]
    exact readNumeral_of_mem (mem_afterLast hcolon hafter) hdigit hsign
  · rfl

/-- Without a colon behind the host no port is read, wherever else there are colons. -/
theorem Splits.port_of_noColon (h : a.Splits user host tail named) (htail : ':' ∉ tail) : a.port = none := by
  have hchars := h.chars
  cases h.host with
  | literal _ _ =>
    have hmark : a.chars = (user ++ '[' :: named) ++ ']' :: tail := by
      rw [hchars]
      simp
    exact port_of_mark hmark (by decide) htail (by decide) (by decide)
  | @name _ _ n hcolon _ _ _ =>
    have hrest : ':' ∉ named ++ List.replicate n ']' ++ tail := by
      simp only [List.mem_append, List.mem_replicate, not_or, not_and]
      exact ⟨⟨hcolon, fun _ => by decide⟩, htail⟩
    rcases h.user with rfl | huser
    · rw [Authority.port, if_neg]
      rw [hchars]
      exact hrest
    · obtain ⟨name, rfl⟩ := List.getLast?_eq_some_iff.mp huser
      have hmark : a.chars = name ++ '@' :: (named ++ List.replicate n ']' ++ tail) := by
        rw [hchars]
        simp
      exact port_of_mark hmark (by decide) hrest (by decide) (by decide)

/-! ## Every authority has its parts -/

/-- What the scan of an authority knows of the brackets in it. -/
inductive Bracketing : List Char → Bool → Bool → Prop where
  | plain {cs : List Char} : Plain cs → Bracketing cs false false
  | opened {before inner : List Char} :
      Plain before → Plain inner → Bracketing (before ++ '[' :: inner) true false
  | closed {before inner after : List Char} :
      Plain before → Plain inner → Plain after →
      Bracketing (before ++ '[' :: (inner ++ ']' :: after)) true true

theorem plain_nil : Plain [] := ⟨List.not_mem_nil, List.not_mem_nil⟩

private theorem plain_concat {cs : List Char} {c : Char} (h : Plain cs) (hopening : c ≠ '[')
    (hclosing : c ≠ ']') : Plain (cs ++ [c]) := by
  constructor
  · simp only [List.mem_append, List.mem_singleton, not_or]
    exact ⟨h.opening, Ne.symm hopening⟩
  · simp only [List.mem_append, List.mem_singleton, not_or]
    exact ⟨h.closing, Ne.symm hclosing⟩

/-- A character that is no bracket is added wherever the scan stands. -/
private theorem Bracketing.concat {cs : List Char} {opened closed : Bool} {c : Char}
    (h : Bracketing cs opened closed) (hopening : c ≠ '[') (hclosing : c ≠ ']') :
    Bracketing (cs ++ [c]) opened closed := by
  cases h with
  | plain hcs => exact .plain (plain_concat hcs hopening hclosing)
  | opened hbefore hinner =>
    rw [List.append_assoc, List.cons_append]
    exact .opened hbefore (plain_concat hinner hopening hclosing)
  | closed hbefore hinner hafter =>
    simp only [List.append_assoc, List.cons_append]
    exact .closed hbefore hinner (plain_concat hafter hopening hclosing)

/-- Only the first opening bracket gets through. -/
private theorem opened_of_step {s s' : Scan} (hstep : s.step '[' = .ok s') :
    s.opened = false ∧ s'.opened = true ∧ s'.closed = s.closed := by
  simp only [Scan.step] at hstep
  rw [if_neg (by decide), if_pos trivial] at hstep
  split at hstep
  · cases hstep
  · rename_i hfirst
    obtain rfl := Except.ok.inj hstep
    simp only [Bool.or_eq_true, not_or, Bool.not_eq_true] at hfirst
    exact ⟨hfirst.2, rfl, rfl⟩

/-- A closing bracket has to come after the opening one, and only once. -/
private theorem closed_of_step {s s' : Scan} (hstep : s.step ']' = .ok s') :
    s.opened = true ∧ s.closed = false ∧ s'.opened = true ∧ s'.closed = true := by
  simp only [Scan.step] at hstep
  rw [if_neg (by decide), if_neg (by decide), if_pos trivial] at hstep
  split at hstep
  · cases hstep
  · rename_i hsecond
    obtain rfl := Except.ok.inj hstep
    simp only [Bool.or_eq_true, Bool.not_eq_true', not_or, Bool.not_eq_false, Bool.not_eq_true] at hsecond
    exact ⟨hsecond.1, hsecond.2, hsecond.1, rfl⟩

private theorem brackets_of_step {s s' : Scan} {c : Char} (hopening : c ≠ '[') (hclosing : c ≠ ']')
    (hstep : s.step c = .ok s') : s'.opened = s.opened ∧ s'.closed = s.closed := by
  simp only [Scan.step, if_neg hopening, if_neg hclosing] at hstep
  split at hstep
  · split at hstep
    · cases hstep
    · obtain rfl := Except.ok.inj hstep
      exact ⟨rfl, rfl⟩
  · split at hstep
    · obtain rfl := Except.ok.inj hstep
      exact ⟨rfl, rfl⟩
    · split at hstep
      · obtain rfl := Except.ok.inj hstep
        exact ⟨rfl, rfl⟩
      · split at hstep
        · obtain rfl := Except.ok.inj hstep
          exact ⟨rfl, rfl⟩
        · cases hstep

/-- Where both brackets were met, the text is what stands around and between them. -/
private theorem Bracketing.inv_closed {cs : List Char} (h : Bracketing cs true true) :
    ∃ before inner after, cs = before ++ '[' :: (inner ++ ']' :: after) ∧ Plain before ∧ Plain inner ∧
      Plain after := by
  cases h with
  | closed hbefore hinner hafter => exact ⟨_, _, _, rfl, hbefore, hinner, hafter⟩

private theorem Bracketing.inv_plain {cs : List Char} {closed : Bool} (h : Bracketing cs false closed) :
    Plain cs := by
  cases h with
  | plain hcs => exact hcs

/-- No bracket is closed that was not opened. -/
private theorem Bracketing.closed_eq {cs : List Char} {closed : Bool} (h : Bracketing cs false closed) :
    closed = false := by
  cases h with
  | plain _ => rfl

/-- The brackets are kept account of, character by character. -/
private theorem Bracketing.step {cs : List Char} {s s' : Scan} {c : Char}
    (h : Bracketing cs s.opened s.closed) (hstep : s.step c = .ok s') :
    Bracketing (cs ++ [c]) s'.opened s'.closed := by
  by_cases hopening : c = '['
  · subst hopening
    obtain ⟨hfirst, hopened, hclosed⟩ := opened_of_step hstep
    rw [hfirst] at h
    rw [hopened, hclosed, h.closed_eq]
    exact .opened h.inv_plain plain_nil
  · by_cases hclosing : c = ']'
    · subst hclosing
      obtain ⟨hopened, hclosed, hopened', hclosed'⟩ := closed_of_step hstep
      rw [hopened, hclosed] at h
      rw [hopened', hclosed']
      cases h with
      | opened hbefore hinner =>
        rw [List.append_assoc, List.cons_append]
        exact .closed hbefore hinner plain_nil
    · obtain ⟨hopened, hclosed⟩ := brackets_of_step hopening hclosing hstep
      rw [hopened, hclosed]
      exact h.concat hopening hclosing

private theorem Bracketing.scan {cs rest : List Char} {s s' : Scan} (h : Bracketing cs s.opened s.closed)
    (hscan : rest.foldlM Scan.step s = .ok s') : Bracketing (cs ++ rest) s'.opened s'.closed := by
  induction rest generalizing cs s with
  | nil =>
    obtain rfl := Except.ok.inj hscan
    rw [List.append_nil]
    exact h
  | cons c rest ih =>
    rw [List.foldlM_cons] at hscan
    cases hstep : s.step c with
    | error e =>
      rw [hstep] at hscan
      cases hscan
    | ok next =>
      rw [hstep] at hscan
      rw [List.append_cons]
      exact ih (h.step hstep) hscan

/-- The closing brackets at the end of a text can be set apart. -/
private theorem exists_closing (name : List Char) :
    ∃ inner n, name = inner ++ List.replicate n ']' ∧ inner.getLast? ≠ some ']' := by
  induction name using List.reverseRecOn with
  | nil => exact ⟨[], 0, rfl, by simp⟩
  | append_singleton front c ih =>
    by_cases hc : c = ']'
    · obtain ⟨inner, n, rfl, hinner⟩ := ih
      refine ⟨inner, n + 1, ?_, hinner⟩
      rw [hc, List.replicate_succ', List.append_assoc]
    · refine ⟨front ++ [c], 0, by simp, ?_⟩
      rw [List.getLast?_concat]
      exact fun h => hc (Option.some.inj h)

/-- The user information goes on up to the last at sign. -/
private theorem exists_user (cs : List Char) :
    ∃ user rest, cs = user ++ rest ∧ (user = [] ∨ user.getLast? = some '@') ∧ '@' ∉ rest := by
  by_cases hat : '@' ∈ cs
  · obtain ⟨name, rest, rfl, hrest⟩ := exists_append_of_mem hat
    exact ⟨name ++ ['@'], rest, by simp, Or.inr (by simp), hrest⟩
  · exact ⟨[], cs, rfl, Or.inl rfl, hat⟩

/-- A name goes on up to the first colon; closing brackets at its end are set apart. -/
private theorem exists_name {rest : List Char} (hfirst : rest.head? ≠ some '[') :
    ∃ host tail named, rest = host ++ tail ∧ HostPart host tail named := by
  have hrest : rest.takeWhile (· ≠ ':') ++ rest.dropWhile (· ≠ ':') = rest := List.takeWhile_append_dropWhile
  have hname : ':' ∉ rest.takeWhile (· ≠ ':') := fun hmem => by
    simpa using List.mem_takeWhile_imp hmem
  have htail : rest.dropWhile (· ≠ ':') = [] ∨ (rest.dropWhile (· ≠ ':')).head? = some ':' := by
    cases hdrop : rest.dropWhile (· ≠ ':') with
    | nil => exact Or.inl rfl
    | cons c tail =>
      have hcolon := List.head?_dropWhile_not (fun c => decide (c ≠ ':')) rest
      rw [hdrop] at hcolon
      simp only [List.head?_cons, decide_not, Bool.not_eq_false', decide_eq_true_eq] at hcolon
      exact Or.inr (congrArg some hcolon)
  generalize rest.takeWhile (· ≠ ':') = name at hrest hname
  generalize rest.dropWhile (· ≠ ':') = tail at hrest htail
  obtain ⟨inner, n, rfl, hinner⟩ := exists_closing name
  refine ⟨inner ++ List.replicate n ']', tail, inner, hrest.symm, .name ?_ ?_ hinner htail⟩
  · exact fun hmem => hname (List.mem_append_left _ hmem)
  · intro hopening
    apply hfirst
    rw [← hrest, List.head?_append, hopening, Option.some_or]

/-- If the host begins with a bracket, it is the only opening one, so the only closing one comes after it. -/
private theorem exists_literal {user rest : List Char} {opened : Bool}
    (h : Bracketing (user ++ '[' :: rest) opened opened) :
    ∃ host tail named, '[' :: rest = host ++ tail ∧ HostPart host tail named := by
  cases opened with
  | false =>
    -- There would be a bracket that the scan has not seen.
    refine absurd ?_ h.inv_plain.opening
    exact List.mem_append_right _ List.mem_cons_self
  | true =>
    obtain ⟨before, inner, after, hall, hbefore, hinner, hafter⟩ := h.inv_closed
    have hnext : '[' ∉ inner ++ ']' :: after := by
      simp only [List.mem_append, List.mem_cons, not_or]
      exact ⟨hinner.opening, by decide, hafter.opening⟩
    obtain ⟨-, -, rfl⟩ := (List.append_cons_inj_of_notMem hbefore.opening hnext).mp hall.symm
    exact ⟨'[' :: inner ++ [']'], after, inner, by simp, .literal hinner hafter⟩

/-- **Every authority has its parts.** -/
theorem exists_splits {s : Scan} (hscan : a.chars.foldlM Scan.step {} = .ok s) (hsound : s.isSound = true) :
    ∃ user host tail named, a.Splits user host tail named := by
  -- In a sound authority a bracket was closed just if one was opened.
  have hbrackets := Bracketing.scan (.plain plain_nil) hscan
  simp only [Scan.isSound, Bool.and_eq_true, beq_iff_eq] at hsound
  rw [← hsound.1.1.1, List.nil_append] at hbrackets
  obtain ⟨user, rest, hchars, huser, hat⟩ := exists_user a.chars
  obtain ⟨host, tail, named, rfl, hhost⟩ : ∃ host tail named, rest = host ++ tail ∧ HostPart host tail named := by
    by_cases hliteral : rest.head? = some '['
    · obtain ⟨inner, rfl⟩ := List.head?_eq_some_iff.mp hliteral
      rw [hchars] at hbrackets
      exact exists_literal hbrackets
    · exact exists_name hliteral
  exact ⟨user, host, tail, named, hchars, huser, hat, hhost⟩

end Authority

end Uri

namespace Endpoint

/-- How an endpoint stands to what follows its host: the port is the one behind the last colon, and the
default one where there is no colon or nothing that can be read. -/
structure PortBehind (e : Endpoint) (tail : List Char) : Prop where
  unnamed : ':' ∉ tail → e.port = defaultPort
  named {before port : List Char} {n : Nat} : tail = before ++ ':' :: port → ':' ∉ port →
    Text.Denotes port n → n < UInt16.size → e.port.val = n
  unreadable {before port : List Char} : tail = before ++ ':' :: port → ':' ∉ port →
    (∀ n, Text.Denotes port n → UInt16.size ≤ n) → e.port = defaultPort

/-- A port that the URL gives behind its host is a number in decimal, and the port of the endpoint. -/
def HonoursPort (e : Endpoint) : Prop :=
  ∀ user host port named, e.authority.Splits user host (':' :: port) named → port ≠ [] →
    Text.Decimal port e.port.val

variable {url : String} {e : Endpoint}

/-- The text of an endpoint's URL is its scheme, its authority and what follows that. -/
theorem holds_of_read (h : Endpoint.read url = .ok e) : Uri.Holds url.toList e.authority := by
  obtain ⟨⟨path, huri⟩, -, -⟩ := uri_of_read h
  obtain ⟨rest, after, hscheme, hauthority, -⟩ := Uri.parts_of_read huri
  obtain ⟨scheme, hcs, hfolded⟩ := Uri.http_of_readScheme hscheme
  have hsplit := (Uri.sound_of_readAuthority hauthority).1
  have hrest := Uri.append_splitBefore Uri.Authority.isEnd rest
  rw [hsplit] at hrest
  simp only [Uri.splitBefore, Prod.mk.injEq] at hsplit
  constructor
  · refine ⟨scheme, after, ?_, hfolded, ?_⟩
    · rw [hcs, ← hrest, List.append_assoc]
    · intro c hc
      have hfirst := List.head?_dropWhile_not (fun c => !Uri.Authority.isEnd c) rest
      rw [hsplit.2, hc] at hfirst
      simpa using hfirst
  · intro c hc
    rw [← hsplit.1] at hc
    simpa using List.mem_takeWhile_imp hc

theorem exists_splits_of_read (h : Endpoint.read url = .ok e) :
    ∃ user host tail named, e.authority.Splits user host tail named := by
  obtain ⟨⟨path, huri⟩, -, -⟩ := uri_of_read h
  obtain ⟨rest, after, -, hauthority, -⟩ := Uri.parts_of_read huri
  obtain ⟨-, scan, hscan, hsound⟩ := Uri.sound_of_readAuthority hauthority
  exact Uri.Authority.exists_splits hscan hsound

theorem host_of_splits (h : Endpoint.read url = .ok e) {user host tail named : List Char}
    (hsplits : e.authority.Splits user host tail named) : named = e.host.toList := by
  rw [(uri_of_read h).2.1, hsplits.host_eq, String.toList_ofList]

theorem portBehind_of_splits (h : Endpoint.read url = .ok e) {user host tail named : List Char}
    (hsplits : e.authority.Splits user host tail named) : e.PortBehind tail := by
  have hport := (uri_of_read h).2.2
  constructor
  · intro hcolon
    rw [hport, hsplits.port_of_noColon hcolon, Option.getD_none]
  · intro before port n htail hcolon hdenotes hn
    have hread : Text.readNumeral UInt16.size Word16.size_pos port = .ok ⟨n, hn⟩ :=
      Text.readNumeral_eq_ok_iff.mpr hdenotes
    rw [hport, hsplits.port_of_colon htail hcolon, hread]
    rfl
  · intro before port htail hcolon hnone
    rw [hport, hsplits.port_of_colon htail hcolon]
    cases hread : Text.readNumeral UInt16.size Word16.size_pos port with
    | error fault => rfl
    | ok n => exact absurd n.isLt (Nat.not_lt.mpr (hnone n.val (Text.readNumeral_eq_ok_iff.mp hread)))

/-- **A port that the URL gives is honoured unless it cannot be read.**  The host of an endpoint is that of
its authority without user information and brackets; the port is the number behind the last colon that
follows the host, with a plus sign in front of it or not, and 80 where there is none or one beyond the
ports.  So a port that the URL gives is honoured just if it is a port in decimal. -/
theorem explicit_port_honoured_unless_unreadable (h : Endpoint.read url = .ok e) :
    Uri.Holds url.toList e.authority ∧
    (∃ user host tail, e.authority.Splits user host tail e.host.toList) ∧
    (∀ user host tail named, e.authority.Splits user host tail named →
      named = e.host.toList ∧ e.PortBehind tail) ∧
    (e.HonoursPort ↔ ∀ user host port named, e.authority.Splits user host (':' :: port) named →
      port ≠ [] → ∃ n < UInt16.size, Text.Decimal port n) := by
  refine ⟨holds_of_read h, ?_, ?_, ?_, ?_⟩
  · obtain ⟨user, host, tail, named, hsplits⟩ := exists_splits_of_read h
    refine ⟨user, host, tail, ?_⟩
    rw [← host_of_splits h hsplits]
    exact hsplits
  · exact fun user host tail named hsplits => ⟨host_of_splits h hsplits, portBehind_of_splits h hsplits⟩
  · exact fun honours user host port named hsplits hport =>
      ⟨e.port.val, e.port.isLt, honours user host port named hsplits hport⟩
  · intro hdecimal user host port named hsplits hport
    obtain ⟨n, hn, hvalue⟩ := hdecimal user host port named hsplits hport
    -- A number in decimal holds no colon, so it is what follows the last one.
    have hcolon : ':' ∉ port := fun hmem => by
      have hdigit := hvalue.isDigit ':' hmem
      revert hdigit
      decide
    have hbehind : ':' :: port = [] ++ ':' :: port := rfl
    rw [(portBehind_of_splits h hsplits).named hbehind hcolon hvalue.denotes hn]
    exact hvalue

/-- The colons of the user information and of a literal address do not stand before the port. -/
theorem explicit_port_honoured_unless_unreadable_literal :
    ∃ e, Endpoint.read "http://user:pw@[::1]:9090/x" = .ok e ∧ e.host = "::1" ∧ e.port.val = 9090 ∧
      e.HonoursPort := by
  have hread : Endpoint.read "http://user:pw@[::1]:9090/x" = .ok
      { baseUrl := "http://user:pw@[::1]:9090/x", authority := ⟨"user:pw@[::1]:9090".toList⟩, host := "::1"
        port := .ofNat 9090, basePath := "/x" } := by
    decide +kernel
  refine ⟨_, hread, rfl, rfl, ?_⟩
  have hinner : Uri.Plain "::1".toList := ⟨by decide, by decide⟩
  have htail : Uri.Plain ":9090".toList := ⟨by decide, by decide⟩
  have hsplits : Uri.Authority.Splits ⟨"user:pw@[::1]:9090".toList⟩ "user:pw@".toList "[::1]".toList
      ":9090".toList "::1".toList :=
    ⟨rfl, Or.inr (by decide), by decide, .literal hinner htail⟩
  apply (explicit_port_honoured_unless_unreadable hread).2.2.2.mpr
  intro user host port named hother _
  obtain ⟨-, -, htail, -⟩ := hsplits.unique hother
  obtain rfl := List.tail_eq_of_cons_eq htail
  exact ⟨9090, by decide, by decide, List.all_eq_true.mp (by decide), by decide⟩

/-- A number beyond the ports is passed over: the URL is accepted, and its port is the one of a URL that
names none. -/
theorem port_beyond_range_passed_over :
    ∃ e, Endpoint.read "http://op:65536" = .ok e ∧
      e.authority.Splits [] "op".toList ":65536".toList e.host.toList ∧ e.port = defaultPort ∧
      ¬ e.HonoursPort := by
  have hread : Endpoint.read "http://op:65536" = .ok
      { baseUrl := "http://op:65536", authority := ⟨"op:65536".toList⟩, host := "op", port := defaultPort
        basePath := "" } := by
    decide +kernel
  have hhost : ':' ∉ "op".toList := by decide
  have hsplits : Uri.Authority.Splits ⟨"op:65536".toList⟩ [] "op".toList ":65536".toList "op".toList :=
    ⟨rfl, Or.inl rfl, by decide, .name (n := 0) hhost (by decide) (by decide) (Or.inr rfl)⟩
  refine ⟨_, hread, hsplits, rfl, ?_⟩
  intro honours
  have hvalue := (honours _ _ _ _ hsplits (by decide)).value
  revert hvalue
  decide

end Endpoint

end ChainProvision
