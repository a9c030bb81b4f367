import ChainProvision.Proofs.Text.Characters
import ChainProvision.Proofs.Yaml.Scanning

/-!
# Mappings that are written line by line

A configuration file is written as a mapping with an entry in each line, some of which hold mappings of their
own further in, and with comments in between.  Such lines are cut into the tokens that they were written for,
whatever texts stand in the values, as long as each is a plain scalar in one line.

## Main definitions

- `Yaml.Line`, `Yaml.Line.chars`: a line of a mapping, and how it is written;
- `Yaml.Outline`: the block collections that are open and the tokens so far;
- `Yaml.Written`: lines that are written so that each is read as what it is.

## Main statements

- `Yaml.Lexer.run_key`: a key and its colon are cut into their tokens.
- `Yaml.Lexer.run_lines`: so are all lines of a mapping.
-/

namespace ChainProvision.Yaml

/-! ## Lines -/

/-- A line of a mapping, indented to a column. -/
inductive Line where
  | comment (text : List Char)
  /-- A key whose value stands in the lines that follow. -/
  | head (column : Nat) (key : List Char)
  | plain (column : Nat) (key value : List Char)
  | quoted (column : Nat) (key value : List Char)

namespace Line

/-- The column in which a line begins. -/
def column : Line → Nat
  | .comment _ => 0
  | .head column _ => column
  | .plain column _ _ => column
  | .quoted column _ _ => column

/-- A key with its colon, indented to a column. -/
def keyChars (column : Nat) (key : List Char) : List Char := List.replicate column ' ' ++ key ++ [':']

/-- How a line is written. -/
def chars : Line → List Char
  | .comment text => '#' :: text ++ ['\n']
  | .head column key => keyChars column key ++ ['\n']
  | .plain column key value => keyChars column key ++ ' ' :: value ++ ['\n']
  | .quoted column key value => keyChars column key ++ ' ' :: '"' :: value ++ ['"', '\n']

/-- How lines are written. -/
def allChars (lines : List Line) : List Char := lines.flatMap chars

end Line

/-- The letters of keys. -/
def isKeyLetter (c : Char) : Bool := c.isLower || c == '_'

/-- A text is a key of a written mapping. -/
structure IsKey (key : List Char) : Prop where
  ne_nil : key ≠ []
  letters : ∀ c ∈ key, isKeyLetter c = true
  length_le : key.length ≤ maxKey

instance (key : List Char) : Decidable (IsKey key) :=
  decidable_of_iff (key.isEmpty = false ∧ key.all isKeyLetter = true ∧ key.length ≤ maxKey)
    ⟨fun ⟨hne, hletters, hlength⟩ =>
      ⟨List.isEmpty_eq_false_iff.mp hne, List.all_eq_true.mp hletters, hlength⟩,
      fun h => ⟨List.isEmpty_eq_false_iff.mpr h.ne_nil, List.all_eq_true.mpr h.letters, h.length_le⟩⟩

/-- A line is written so that it is read as what it is. -/
def Line.IsSound : Line → Prop
  | .comment text => ∀ c ∈ text, isBreak c = false
  | .head _ key => IsKey key
  | .plain _ key value => IsKey key ∧ IsPlainLine value ∧ value.head?.any beginsWord = true
  | .quoted _ key value => IsKey key ∧ ∀ c ∈ value, standsInQuotes c = true

instance : DecidablePred Line.IsSound
  | .comment text =>
    decidable_of_iff (text.all (fun c => !isBreak c) = true) (by simp [Line.IsSound])
  | .head _ key => inferInstanceAs (Decidable (IsKey key))
  | .plain _ key value =>
    inferInstanceAs (Decidable (IsKey key ∧ IsPlainLine value ∧ value.head?.any beginsWord = true))
  | .quoted _ key value =>
    decidable_of_iff (IsKey key ∧ value.all standsInQuotes = true) (by simp [Line.IsSound])

/-- A line can stand before another.  One that is indented further than a plain value would go on with it. -/
def Line.CanPrecede : Line → Line → Prop
  | .plain column _ _, next => next.column ≤ column
  | _, _ => True

instance : DecidableRel Line.CanPrecede
  | .plain column _ _, next => inferInstanceAs (Decidable (next.column ≤ column))
  | .comment _, _ => isTrue trivial
  | .head _ _, _ => isTrue trivial
  | .quoted _ _ _, _ => isTrue trivial

/-- Lines are written so that each is read as what it is. -/
inductive Written : List Line → Prop where
  | nil : Written []
  | cons {line : Line} {lines : List Line} :
      line.IsSound → (∀ next ∈ lines.head?, line.CanPrecede next) → Written lines → Written (line :: lines)

theorem written_cons {line : Line} {lines : List Line} : Written (line :: lines) ↔
    line.IsSound ∧ (∀ next ∈ lines.head?, line.CanPrecede next) ∧ Written lines := by
  constructor
  · rintro (_ | ⟨hsound, hprecedes, hwritten⟩)
    exact ⟨hsound, hprecedes, hwritten⟩
  · rintro ⟨hsound, hprecedes, hwritten⟩
    exact .cons hsound hprecedes hwritten

instance decidableWritten : (lines : List Line) → Decidable (Written lines)
  | [] => isTrue .nil
  | _ :: lines =>
    have := decidableWritten lines
    decidable_of_iff' _ written_cons

/-! ## Letters of keys -/

/-- What the letters of keys are to the lexer. -/
private structure Plainly (c : Char) : Prop where
  notBlank : isBlank c = false
  notBreak : isBreak c = false
  notColon : c ≠ ':'
  begins : beginsWord c = true
  utf8Size_eq : c.utf8Size = 1

private theorem plainly_of_isKeyLetter {c : Char} (h : isKeyLetter c = true) : Plainly c := by
  have hsmall : c.toNat < 128 := by
    have hletter := h
    simp only [isKeyLetter, Bool.or_eq_true, beq_iff_eq] at hletter
    rcases hletter with hlower | rfl
    · exact Text.ascii_of_isLower hlower
    · decide
  have hchar : isBlank c = false ∧ isBreak c = false ∧ c ≠ ':' ∧ beginsWord c = true ∧ c.utf8Size = 1 := by
    revert h
    exact Text.of_table c hsmall (by decide)
  obtain ⟨hblank, hbreak, hcolon, hbegins, hsize⟩ := hchar
  exact ⟨hblank, hbreak, hcolon, hbegins, hsize⟩

private theorem IsKey.plainly {key : List Char} (hkey : IsKey key) : ∀ c ∈ key, Plainly c :=
  fun c hc => plainly_of_isKeyLetter (hkey.letters c hc)

/-! ## Outlines -/

/-- The block collections that are open, the innermost first, and the tokens so far, the last first. -/
structure Outline where
  indent : Int := -1
  outers : List Int := []
  tokens : List Token := []

namespace Outline

/-- The outline with the collections beyond a column closed. -/
def unroll (o : Outline) (column : Int) : Outline :=
  let (indent, outers, n) := Lexer.unrollFrom column o.indent o.outers
  ⟨indent, outers, List.replicate n .blockEnd ++ o.tokens⟩

/-- The outline with a mapping open at a column. -/
def reach (o : Outline) (column : Nat) : Outline :=
  let o := o.unroll column
  if o.indent < column then ⟨column, o.indent :: o.outers, .blockMappingStart :: o.tokens⟩ else o

/-- The outline with one more token. -/
def emit (o : Outline) (t : Token) : Outline := { o with tokens := t :: o.tokens }

/-- The outline after a key and its colon. -/
def key (o : Outline) (column : Nat) (key : List Char) : Outline :=
  (((o.reach column).emit .key).emit (.scalar (String.ofList key) .plain)).emit .value

/-- The outline after a line. -/
def next (o : Outline) : Line → Outline
  | .comment _ => o
  | .head column key => o.key column key
  | .plain column key value => (o.key column key).emit (.scalar (String.ofList value) .plain)
  | .quoted column key value => (o.key column key).emit (.scalar (String.ofList value) .quoted)

/-- All tokens, with those that end the text after the end of a line. -/
def finish (o : Outline) : List Token := (((o.unroll 0).unroll (-1)).emit .streamEnd).tokens.reverse

end Outline

/-! ## Indentation -/

private theorem unrollFrom_le {column : Int} (hcolumn : -1 ≤ column) (indent : Int) (outers : List Int) :
    (Lexer.unrollFrom column indent outers).1 ≤ column := by
  induction outers generalizing indent with
  | nil =>
    rw [Lexer.unrollFrom]
    split
    · exact hcolumn
    · exact Int.not_lt.mp ‹_›
  | cons outer outers ih =>
    rw [Lexer.unrollFrom]
    split
    · exact ih outer
    · exact Int.not_lt.mp ‹_›

private theorem unrollFrom_self {column indent : Int} (h : indent ≤ column) (outers : List Int) :
    Lexer.unrollFrom column indent outers = (indent, outers, 0) := by
  cases outers with
  | nil => rw [Lexer.unrollFrom, if_neg (Int.not_lt.mpr h)]
  | cons outer outers => rw [Lexer.unrollFrom, if_neg (Int.not_lt.mpr h)]

namespace Outline

theorem unroll_of_le {o : Outline} {column : Int} (h : o.indent ≤ column) : o.unroll column = o := by
  rw [unroll, unrollFrom_self h]
  rfl

theorem indent_reach (o : Outline) (column : Nat) : (o.reach column).indent = column := by
  have hle : (o.unroll column).indent ≤ column := unrollFrom_le (by omega) o.indent o.outers
  unfold reach
  dsimp only
  split
  · rfl
  · omega

end Outline

/-! ## Single tokens -/

namespace Lexer

/-- The lexer between tokens, outside of brackets and with no key begun. -/
def resting (o : Outline) (rest : List Char) (p : Position) (keyAllowed : Bool) : Lexer :=
  { rest, position := p, indent := o.indent, outerIndents := o.outers, keyAllowed, tokens := o.tokens }

/-- What a lexer that rests does next is told by the character at which its next token is found. -/
private theorem fetch_resting {o : Outline} {cs rest : List Char} {p q : Position} {c : Char}
    {keyAllowed keyAllowed' : Bool}
    (htoken : toToken false cs false p keyAllowed = (c :: rest, q, keyAllowed')) :
    (resting o cs p keyAllowed).fetch =
      ((resting (o.unroll q.column) (c :: rest) q keyAllowed').fetchFrom c rest).bind fun next =>
        if next.isNearCut 1 then none else next.dropStale := by
  have hskip : (resting o cs p keyAllowed).skipBlanks = resting o (c :: rest) q keyAllowed' := by
    simp [skipBlanks, resting, htoken]
  rw [fetch, hskip]
  rfl

private theorem isMark_of_ne {mark c : Char} (h : c ≠ mark) (rest : List Char) :
    isMark mark (c :: rest) = false := by
  unfold isMark
  split
  · rename_i heq
    obtain ⟨rfl, -⟩ := List.cons.inj heq
    simp [h]
  · rfl

/-- A character that begins a word begins a plain scalar. -/
private theorem fetchFrom_word {l : Lexer} {c : Char} (hc : beginsWord c = true) (hflow : l.flow = 0)
    (rest : List Char) : l.fetchFrom c rest = l.fetchPlain := by
  simp only [beginsWord, Bool.not_eq_true', Bool.or_eq_false_iff, beq_eq_false_iff_ne] at hc
  obtain ⟨⟨⟨⟨hindicator, hblank⟩, hbreak⟩, hdot⟩, -⟩ := hc
  have hplain : beginsPlain false c rest = true := by simp [beginsPlain, hindicator, hblank, hbreak]
  simp only [isIndicator, List.mem_cons, List.not_mem_nil, or_false, not_or, decide_eq_false_iff_not]
    at hindicator
  simp [fetchFrom, hindicator, isMark_of_ne, hdot, hflow, hplain]

private theorem isNearCut_of_whole {l : Lexer} (h : l.isCut = false) (n : Nat) : l.isNearCut n = false := by
  simp [isNearCut, h]

private theorem run_of_fetch {l l' : Lexer} (h : l.fetch = some l') (hended : l'.ended = false) (fuel : Nat) :
    l.run (fuel + 1) = l'.run fuel := by
  rw [run, h]
  simp [hended]

/-! ## Keys -/

/-- The lexer after a key that it cannot know to be one before the colon. -/
private def afterKey (o : Outline) (column : Nat) (key after : List Char) (q : Position) : Lexer :=
  { resting ((o.unroll column).emit (.scalar (String.ofList key) .plain)) (':' :: after) (q.after key) false with
    candidates := [some ⟨(o.unroll column).tokens.length, q, (o.unroll column).indent == column⟩] }

private theorem isOpen_after {key : List Char} (hkey : IsKey key) (q : Position) (n : Nat) (required : Bool) :
    Candidate.isOpen ⟨n, q, required⟩ (q.after key) = true := by
  have hline := (Position.after_of_noBreak (p := q) fun c hc => (hkey.plainly c hc).notBreak).2
  have hindex := Position.after_index (p := q) fun c hc => (hkey.plainly c hc).utf8Size_eq
  have hlength := hkey.length_le
  simp [Candidate.isOpen, hline, hindex]
  omega

private theorem dropStale_afterKey {key : List Char} (hkey : IsKey key) (o : Outline) (column : Nat)
    (after : List Char) (q : Position) :
    (afterKey o column key after q).dropStale = some (afterKey o column key after q) := by
  have hlive : ∀ n required, liveCandidates (q.after key) [some ⟨n, q, required⟩] =
      some [some ⟨n, q, required⟩] := by
    intro n required
    rw [liveCandidates, if_pos (isOpen_after hkey q n required)]
    rfl
  unfold dropStale
  refine (congrArg (Option.map _) (hlive _ _)).trans ?_
  rfl

private theorem fetch_key {o : Outline} {cs key after : List Char} {p q : Position} {keyAllowed : Bool}
    (hkey : IsKey key) (hafter : endsWord after = true)
    (htoken : toToken false cs false p keyAllowed = (key ++ ':' :: after, q, true)) :
    (resting o cs p keyAllowed).fetch = some (afterKey o q.column key after q) := by
  have hread : ∀ indent, Plain.read false indent (key ++ ':' :: after) [] .none q =
      some ⟨String.ofList key, ':' :: after, q.after key, false⟩ := by
    intro indent
    rw [Plain.read_word, Plain.read_colon hafter, List.append_nil, List.reverse_reverse]
    exact fun c hc => ⟨(hkey.plainly c hc).notBlank, (hkey.plainly c hc).notBreak, (hkey.plainly c hc).notColon⟩
  cases hcs : key with
  | nil => exact absurd hcs hkey.ne_nil
  | cons c more =>
    -- The lexer sees a plain scalar that may turn out to be a key, and remembers where it began.
    have hc := (hkey.plainly c (by simp [hcs])).begins
    rw [hcs, List.cons_append] at htoken
    rw [hcs, List.cons_append] at hread
    have hsave : (resting (o.unroll q.column) (c :: (more ++ ':' :: after)) q true).saveCandidate =
        some { resting (o.unroll q.column) (c :: (more ++ ':' :: after)) q true with
          candidates := [some ⟨(o.unroll q.column).tokens.length, q, (o.unroll q.column).indent == q.column⟩] } :=
      rfl
    have hplain : (resting (o.unroll q.column) (c :: (more ++ ':' :: after)) q true).fetchPlain =
        some (afterKey o q.column (c :: more) after q) := by
      rw [fetchPlain, hsave, Option.bind_some]
      exact congrArg (Option.map _) (hread _)
    rw [fetch_resting htoken, fetchFrom_word hc rfl, hplain, Option.bind_some,
      isNearCut_of_whole rfl, if_neg (by simp), ← hcs, dropStale_afterKey hkey]

/-- Once its colon is reached, the scalar before it is a key. -/
private theorem fetch_colon {o : Outline} {column : Nat} {key after : List Char} {q : Position}
    (hkey : IsKey key) (hafter : endsWord after = true) (hcolumn : q.column = column) :
    ∃ r : Position, column < r.column ∧
      (afterKey o column key after q).fetch = some (resting (o.key column key) after r false) := by
  have hlength := List.length_pos_iff.mpr hkey.ne_nil
  have hafterKey := (Position.after_of_noBreak (p := q) fun c hc => (hkey.plainly c hc).notBreak).1
  have hle : (o.unroll column).indent ≤ column := unrollFrom_le (by omega) o.indent o.outers
  refine ⟨(q.after key).skip 1, ?_, ?_⟩
  · rw [show ((q.after key).skip 1).column = (q.after key).column + 1 from rfl, hafterKey]
    omega
  · have hskip : (afterKey o column key after q).skipBlanks = afterKey o column key after q := by
      simp [skipBlanks, afterKey, resting, toToken, isBreak, byteOrderMark]
    have hunroll : (afterKey o column key after q).unroll (afterKey o column key after q).position.column =
        afterKey o column key after q := by
      have hindent : (afterKey o column key after q).indent ≤ (afterKey o column key after q).position.column := by
        show (o.unroll column).indent ≤ ((q.after key).column : Int)
        omega
      unfold unroll
      rw [if_pos (show (afterKey o column key after q).flow = 0 from rfl), unrollFrom_self hindent]
      rfl
    have hvalue : (afterKey o column key after q).fetchValue =
        some (resting (o.key column key) after ((q.after key).skip 1) false) := by
      have hlater : ∀ t : List Token, t.length + 1 - t.length = 1 := fun t => by omega
      unfold Outline.key Outline.reach
      simp only [fetchValue, afterKey, resting, roll, insert, indicator, skip, Lexer.emit, Outline.emit,
        hcolumn]
      -- The mapping's start goes before the key only if this is the mapping's first key.
      by_cases hopens : (o.unroll column).indent < column
      · simp [hopens, hlater]
      · simp [hopens, hlater]
    have hfrom : (afterKey o column key after q).fetchFrom ':' after =
        (afterKey o column key after q).fetchValue := by
      simp [fetchFrom, hafter, isMark_of_ne]
    rw [fetch, hskip]
    dsimp only
    rw [isNearCut_of_whole rfl, if_neg (by simp), dropStale_afterKey hkey, Option.bind_some, hunroll]
    show ((afterKey o column key after q).fetchFrom ':' after).bind _ = _
    rw [hfrom, hvalue]
    rfl

/-- A key and its colon are cut into their tokens. -/
theorem run_key {o : Outline} {cs key after : List Char} {p q : Position} {keyAllowed : Bool}
    (hkey : IsKey key) (hafter : endsWord after = true)
    (htoken : toToken false cs false p keyAllowed = (key ++ ':' :: after, q, true)) :
    ∃ r : Position, q.column < r.column ∧ ∀ fuel, (resting o cs p keyAllowed).run (fuel + 2) =
      (resting (o.key q.column key) after r false).run fuel := by
  obtain ⟨r, hr, hcolon⟩ := fetch_colon (o := o) hkey hafter (rfl : q.column = q.column)
  refine ⟨r, hr, fun fuel => ?_⟩
  rw [run_of_fetch (fetch_key hkey hafter htoken) rfl, run_of_fetch hcolon rfl]

/-! ## Values -/

/-- The lexer comes to its next token as if it stood at the beginning of lines. -/
def AtLines (cs : List Char) (p : Position) (keyAllowed : Bool) (lines : List Char) : Prop :=
  ∃ q : Position, q.column = 0 ∧ toToken false cs false p keyAllowed = toToken false lines false q true

/-- A value that follows its key's colon is fetched where it begins. -/
private theorem fetch_value {o : Outline} {c : Char} {r : Position} (hcolumn : o.indent < r.column)
    (hc : beginsWord c = true ∨ c = '"') (rest : List Char) :
    (resting o (' ' :: c :: rest) r false).fetch =
      ((resting o (c :: rest) (r.next ' ') false).fetchFrom c rest).bind fun next =>
        if next.isNearCut 1 then none else next.dropStale := by
  have htoken := toToken_spaces 1 (c :: rest) r false
  rw [toToken_content hc] at htoken
  have hunroll : o.unroll ((r.next ' ').column : Nat) = o :=
    Outline.unroll_of_le (by rw [show (r.next ' ').column = r.column + 1 from rfl]; omega)
  have hfetch := fetch_resting (o := o) htoken
  rw [show r.after (List.replicate 1 ' ') = r.next ' ' from rfl, hunroll] at hfetch
  exact hfetch

/-- A plain value is fetched up to where its reader stops. -/
private theorem fetch_plain {o : Outline} {value after rest : List Char} {r p : Position} {text : String}
    {brokeLine : Bool} (hcolumn : o.indent < r.column) (hfirst : value.head?.any beginsWord = true)
    (hread : Plain.read false (o.indent + 1).toNat (value ++ after) [] .none (r.next ' ') =
      some ⟨text, rest, p, brokeLine⟩) :
    (resting o (' ' :: value ++ after) r false).fetch =
      some (resting (o.emit (.scalar text .plain)) rest p brokeLine) := by
  cases value with
  | nil => cases hfirst
  | cons c value =>
    have hc : beginsWord c = true := hfirst
    have hplain : (resting o (c :: (value ++ after)) (r.next ' ') false).fetchPlain =
        some (resting (o.emit (.scalar text .plain)) rest p brokeLine) := by
      rw [fetchPlain]
      exact congrArg (Option.map _) hread
    have hfetch := fetch_value hcolumn (Or.inl hc) (value ++ after)
    rw [fetchFrom_word hc rfl, hplain] at hfetch
    exact hfetch

private theorem run_plain {o : Outline} {value lines : List Char} {r : Position}
    (hcolumn : o.indent < r.column) (hvalue : IsPlainLine value) (hfirst : value.head?.any beginsWord = true)
    (hlines : Dedented (o.indent + 1).toNat lines) :
    ∃ cs p, AtLines cs p true lines ∧ ∀ fuel,
      (resting o (' ' :: value ++ '\n' :: lines) r false).run (fuel + 1) =
        (resting (o.emit (.scalar (String.ofList value) .plain)) cs p true).run fuel := by
  obtain ⟨n, cs, hcs, hend⟩ := Plain.read_dedented hlines value.reverse ((r.next ' ').after value)
  have hnext : (r.next ' ').column = r.column + 1 := rfl
  have hread : Plain.read false (o.indent + 1).toNat (value ++ '\n' :: lines) [] .none (r.next ' ') = _ :=
    Plain.read_line (hvalue.before _) (by omega) (by omega)
  rw [hend, List.reverse_reverse] at hread
  refine ⟨cs, (((r.next ' ').after value).next '\n').after (List.replicate n ' '),
    ⟨((r.next ' ').after value).next '\n', rfl, ?_⟩,
    fun fuel => run_of_fetch (fetch_plain hcolumn hfirst hread) rfl fuel⟩
  rw [hcs, toToken_spaces]

/-- A colon at the end of a value's line would end a key, but within the line none can have begun. -/
theorem run_plain_colon {o : Outline} {value lines : List Char} {r : Position} (hcolumn : o.indent < r.column)
    (hvalue : IsPlainBefore (':' :: '\n' :: lines) value) (hfirst : value.head?.any beginsWord = true) (fuel : Nat) :
    (resting o (' ' :: value ++ ':' :: '\n' :: lines) r false).run (fuel + 2) =
      (o.emit (.scalar (String.ofList value) .plain)).tokens.reverse ++ [.broken] := by
  have hnext : (r.next ' ').column = r.column + 1 := rfl
  have hread : Plain.read false (o.indent + 1).toNat (value ++ ':' :: '\n' :: lines) [] .none (r.next ' ') = _ :=
    Plain.read_line hvalue (by omega) (by omega)
  rw [Plain.read_colon rfl, List.reverse_reverse] at hread
  -- The colon would begin a value, which is not allowed here: no key is waiting for one.
  have hstop : (resting (o.emit (.scalar (String.ofList value) .plain)) (':' :: '\n' :: lines)
      ((r.next ' ').after value) false).fetch = none := by
    have htoken : toToken false (':' :: '\n' :: lines) false ((r.next ' ').after value) false =
        (':' :: '\n' :: lines, (r.next ' ').after value, false) := by
      simp [toToken, isBreak, byteOrderMark]
    have hunroll : (o.emit (.scalar (String.ofList value) .plain)).unroll (((r.next ' ').after value).column : Nat) =
        o.emit (.scalar (String.ofList value) .plain) := by
      have hline := (Position.after_of_noBreak (p := r.next ' ') hvalue.noBreak).1
      apply Outline.unroll_of_le
      show o.indent ≤ _
      omega
    rw [fetch_resting htoken, hunroll]
    simp [fetchFrom, isMark_of_ne, endsWord, isBreak, fetchValue, resting]
  rw [run_of_fetch (fetch_plain hcolumn hfirst hread) rfl, run, hstop]
  simp [settled, resting]

private theorem run_quoted {o : Outline} {value lines : List Char} {r : Position}
    (hcolumn : o.indent < r.column) (hvalue : ∀ c ∈ value, standsInQuotes c = true) :
    ∃ cs p, AtLines cs p false lines ∧ ∀ fuel,
      (resting o (' ' :: '"' :: value ++ '"' :: '\n' :: lines) r false).run (fuel + 1) =
        (resting (o.emit (.scalar (String.ofList value) .quoted)) cs p false).run fuel := by
  have hread : Quoted.read false (value ++ '"' :: '\n' :: lines) [] .none .text ((r.next ' ').skip 1) = _ :=
    Quoted.read_word hvalue (Nat.succ_pos _)
  have hquoted : (resting o ('"' :: (value ++ '"' :: '\n' :: lines)) (r.next ' ') false).fetchQuoted false =
      some (resting (o.emit (.scalar (String.ofList value) .quoted)) ('\n' :: lines)
        ((((r.next ' ').skip 1).after value).next '"') false) := by
    rw [fetchQuoted]
    exact congrArg (Option.map _) hread
  have hfrom : (resting o ('"' :: (value ++ '"' :: '\n' :: lines)) (r.next ' ') false).fetchFrom '"'
      (value ++ '"' :: '\n' :: lines) =
      (resting o ('"' :: (value ++ '"' :: '\n' :: lines)) (r.next ' ') false).fetchQuoted false := by
    simp [fetchFrom, isMark_of_ne]
  refine ⟨'\n' :: lines, (((r.next ' ').skip 1).after value).next '"',
    ⟨_, rfl, toToken_newline lines _ false⟩, fun fuel => run_of_fetch ?_ rfl fuel⟩
  have hfetch := fetch_value hcolumn (Or.inr rfl) (value ++ '"' :: '\n' :: lines)
  rw [hfrom, hquoted] at hfetch
  exact hfetch

/-! ## Whole lines -/

private theorem toToken_keyChars {key : List Char} (hkey : IsKey key) (column : Nat) (after : List Char)
    {q : Position} (hq : q.column = 0) : ∃ q' : Position, q'.column = column ∧
      toToken false (Line.keyChars column key ++ after) false q true = (key ++ ':' :: after, q', true) := by
  refine ⟨q.after (List.replicate column ' '), by rw [Position.after_replicate, hq, Nat.zero_add], ?_⟩
  have hchars : Line.keyChars column key ++ after = List.replicate column ' ' ++ (key ++ ':' :: after) := by
    simp [Line.keyChars]
  rw [hchars, toToken_spaces]
  cases key with
  | nil => exact absurd rfl hkey.ne_nil
  | cons c key => exact toToken_content (Or.inl (hkey.plainly c (by simp)).begins) _ _ _

/-- The key with which a line begins is cut into its tokens. -/
private theorem run_keyChars {o : Outline} {cs key after : List Char} {column : Nat} {p : Position}
    {keyAllowed : Bool} (hkey : IsKey key) (hafter : endsWord after = true)
    (hat : AtLines cs p keyAllowed (Line.keyChars column key ++ after)) :
    ∃ r : Position, column < r.column ∧ ∀ fuel, (resting o cs p keyAllowed).run (fuel + 2) =
      (resting (o.key column key) after r false).run fuel := by
  obtain ⟨q, hq, htoken⟩ := hat
  obtain ⟨q', hcolumn, hkeyToken⟩ := toToken_keyChars hkey column after hq
  have hrun := run_key (o := o) hkey hafter (htoken.trans hkeyToken)
  rwa [hcolumn] at hrun

/-- A key and the value in its line are cut into their tokens if the value is, wherever it begins. -/
private theorem run_entry {o : Outline} {cs key value lines : List Char} {column : Nat} {p : Position}
    {keyAllowed keyAllowed' : Bool} {t : Token} (hkey : IsKey key)
    (hat : AtLines cs p keyAllowed (Line.keyChars column key ++ ' ' :: value))
    (hvalue : ∀ r : Position, (o.key column key).indent < r.column → ∃ cs' p', AtLines cs' p' keyAllowed' lines ∧
      ∀ fuel, (resting (o.key column key) (' ' :: value) r false).run (fuel + 1) =
        (resting ((o.key column key).emit t) cs' p' keyAllowed').run fuel) :
    ∃ cs' p', AtLines cs' p' keyAllowed' lines ∧ ∀ fuel, (resting o cs p keyAllowed).run (fuel + 3) =
      (resting ((o.key column key).emit t) cs' p' keyAllowed').run fuel := by
  obtain ⟨r, hr, hrun⟩ := run_keyChars (o := o) hkey rfl hat
  have hindent : (o.key column key).indent = column := Outline.indent_reach o column
  obtain ⟨cs', p', hat', hrun'⟩ := hvalue r (by omega)
  refine ⟨cs', p', hat', fun fuel => ?_⟩
  rw [show fuel + 3 = fuel + 1 + 2 from rfl, hrun, hrun']

/-- What the lexer does with a line: it takes the line's tokens, in no more steps than the line has
characters, and comes to the lines that follow. -/
private theorem run_line {o : Outline} {line : Line} {cs lines : List Char} {p : Position} {keyAllowed : Bool}
    (hsound : line.IsSound)
    (hends : ∀ column key value, line = .plain column key value → Dedented (column + 1) lines)
    (hat : AtLines cs p keyAllowed (line.chars ++ lines)) :
    ∃ n cs' p' keyAllowed', n ≤ line.chars.length ∧ AtLines cs' p' keyAllowed' lines ∧
      ∀ fuel, (resting o cs p keyAllowed).run (fuel + n) =
        (resting (o.next line) cs' p' keyAllowed').run fuel := by
  cases line with
  | comment text =>
    obtain ⟨q, -, htoken⟩ := hat
    obtain ⟨q', hq', hcomment⟩ := toToken_comment hsound lines q true
    refine ⟨0, cs, p, keyAllowed, Nat.zero_le _, ⟨q', hq', ?_⟩, fun fuel => rfl⟩
    rw [htoken, ← hcomment]
    simp [Line.chars]
  | head column key =>
    have hchars : (Line.head column key).chars ++ lines = Line.keyChars column key ++ '\n' :: lines := by
      simp [Line.chars]
    rw [hchars] at hat
    obtain ⟨r, -, hrun⟩ := run_keyChars (o := o) hsound rfl hat
    refine ⟨2, '\n' :: lines, r, false, ?_, ⟨_, rfl, toToken_newline lines r false⟩, hrun⟩
    simp [Line.chars, Line.keyChars]
    omega
  | plain column key value =>
    obtain ⟨hkey, hvalue, hfirst⟩ := hsound
    have hchars : (Line.plain column key value).chars ++ lines =
        Line.keyChars column key ++ ' ' :: (value ++ '\n' :: lines) := by
      simp [Line.chars]
    rw [hchars] at hat
    have hlines : Dedented ((o.key column key).indent + 1).toNat lines := by
      rw [show (o.key column key).indent = column from Outline.indent_reach o column]
      exact hends column key value rfl
    obtain ⟨cs', p', hat', hrun⟩ := run_entry hkey hat fun r hr => run_plain hr hvalue hfirst hlines
    refine ⟨3, cs', p', true, ?_, hat', hrun⟩
    simp [Line.chars, Line.keyChars]
    omega
  | quoted column key value =>
    obtain ⟨hkey, hvalue⟩ := hsound
    have hchars : (Line.quoted column key value).chars ++ lines =
        Line.keyChars column key ++ ' ' :: ('"' :: value ++ '"' :: '\n' :: lines) := by
      simp [Line.chars]
    rw [hchars] at hat
    obtain ⟨cs', p', hat', hrun⟩ := run_entry (o := o) hkey hat fun r hr => run_quoted hr hvalue
    refine ⟨3, cs', p', false, ?_, hat', hrun⟩
    simp [Line.chars, Line.keyChars]
    omega

/-- A line ends the plain values before it that are not indented less. -/
private theorem dedented_line {next : Line} (hsound : next.IsSound) {column : Nat} (hle : next.column ≤ column)
    (lines : List Char) : Dedented (column + 1) (next.chars ++ lines) := by
  have hkeyed : ∀ key after, IsKey key → Dedented (column + 1) (Line.keyChars next.column key ++ after) := by
    intro key after hkey
    cases key with
    | nil => exact absurd rfl hkey.ne_nil
    | cons c key =>
      have hc := hkey.plainly c (by simp)
      refine Or.inr ⟨next.column, c, key ++ ':' :: after, ?_, by omega, hc.notBlank, hc.notBreak⟩
      simp [Line.keyChars]
  cases next with
  | comment text => exact Or.inr ⟨0, '#', _, rfl, by omega, rfl, rfl⟩
  | head _ key =>
    rw [Line.chars, List.append_assoc]
    exact hkeyed key _ hsound
  | plain _ key _ =>
    rw [Line.chars, List.append_assoc, List.append_assoc]
    exact hkeyed key _ hsound.1
  | quoted _ key _ =>
    rw [Line.chars, List.append_assoc, List.append_assoc]
    exact hkeyed key _ hsound.1

/-- The end of the text closes what is open. -/
private theorem run_end {o : Outline} {cs : List Char} {p : Position} {keyAllowed : Bool}
    (hat : AtLines cs p keyAllowed []) (fuel : Nat) :
    (resting o cs p keyAllowed).run (fuel + 1) = o.finish := by
  obtain ⟨q, hq, htoken⟩ := hat
  have hskip : (resting o cs p keyAllowed).skipBlanks = resting o [] q true := by
    simp [skipBlanks, resting, htoken, toToken]
  have hfetch : (resting o cs p keyAllowed).fetch =
      some { resting (((o.unroll 0).unroll (-1)).emit .streamEnd) [] q.newLine false with ended := true } := by
    rw [fetch, hskip]
    show (fetchEnd (resting (o.unroll q.column) [] q true)).bind _ = _
    rw [hq]
    rfl
  rw [run, hfetch]
  rfl

/-- **Lines of a mapping are cut into the tokens that they were written for.** -/
theorem run_lines {lines : List Line} (hwritten : Written lines) {o : Outline} {cs : List Char} {p : Position}
    {keyAllowed : Bool} (hat : AtLines cs p keyAllowed (Line.allChars lines)) {fuel : Nat}
    (hfuel : (Line.allChars lines).length < fuel) :
    (resting o cs p keyAllowed).run fuel = (lines.foldl Outline.next o).finish := by
  -- Between two lines the lexer rests, and no line takes more steps than it has characters.
  induction hwritten generalizing o cs p keyAllowed fuel with
  | nil =>
    obtain ⟨fuel, rfl⟩ : ∃ n, fuel = n + 1 := ⟨fuel - 1, by omega⟩
    exact run_end hat fuel
  | @cons line lines hsound hprecedes hwritten ih =>
    -- Whether a plain value ends with its line is up to the next line.
    have hends : ∀ column key value, line = .plain column key value →
        Dedented (column + 1) (Line.allChars lines) := by
      rintro column key value rfl
      cases hwritten with
      | nil => exact Or.inl rfl
      | @cons next lines hnext _ _ =>
        rw [Line.allChars, List.flatMap_cons]
        exact dedented_line hnext (hprecedes next rfl) _
    rw [Line.allChars, List.flatMap_cons] at hat hfuel
    rw [List.length_append] at hfuel
    obtain ⟨n, cs', p', keyAllowed', hn, hat', hrun⟩ := run_line (o := o) hsound hends hat
    obtain ⟨rest, rfl⟩ : ∃ rest, fuel = rest + n := ⟨fuel - n, by omega⟩
    rw [hrun, List.foldl_cons]
    exact ih hat' (by unfold Line.allChars; omega)

end Lexer

/-! ## Whole texts -/

/-- A character stands in YAML for itself. -/
def standsForItself (c : Char) : Bool := isAllowed c && !(c == '\r' || c == '\u0085')

/-- The characters of lines stand for themselves if those of the first line's key and value do, and all that follow. -/
theorem standsForItself_allChars {line : Line} {later : List Line} {column : Nat} {key value : List Char}
    (hline : line = .plain column key value ∨ line = .quoted column key value)
    (hkey : (Line.keyChars column key).all standsForItself = true)
    (hvalue : ∀ c ∈ value, standsForItself c = true)
    (hlater : (Line.allChars later).all standsForItself = true) :
    ∀ c ∈ Line.allChars (line :: later), standsForItself c = true := by
  rw [List.all_eq_true] at hkey hlater
  rw [Line.allChars, List.flatMap_cons, List.forall_mem_append]
  refine ⟨?_, hlater⟩
  rcases hline with rfl | rfl
  · simp only [Line.chars, List.forall_mem_append, List.forall_mem_cons]
    exact ⟨⟨hkey, by decide, hvalue⟩, by decide, nofun⟩
  · simp only [Line.chars, List.forall_mem_append, List.forall_mem_cons]
    exact ⟨⟨hkey, by decide, by decide, hvalue⟩, by decide, by decide, nofun⟩

private theorem allowedPortions_of_allowed {cs : List Char} (h : ∀ c ∈ cs, isAllowed c = true)
    (portion : List Char) (room : Nat) : allowedPortions cs portion room = (portion.reverse ++ cs, true) := by
  induction cs generalizing portion room with
  | nil => simp [allowedPortions]
  | cons c cs ih =>
    have hrest := fun d hd => h d (List.mem_cons_of_mem c hd)
    simp [allowedPortions, h c List.mem_cons_self, ih hrest]

private theorem unifyBreaks_of_unified {cs : List Char} (h : ∀ c ∈ cs, c ≠ '\r' ∧ c ≠ '\u0085') :
    unifyBreaks cs = cs := by
  induction cs with
  | nil => rfl
  | cons c cs ih =>
    obtain ⟨hreturn, hnext⟩ := h c List.mem_cons_self
    rw [unifyBreaks, if_neg (by simp [hreturn, hnext]), ih fun d hd => h d (List.mem_cons_of_mem c hd)]
    rintro rest rfl
    exact absurd rfl hreturn

/-- The lexer begins with a text of characters that stand for themselves as it does with lines. -/
private theorem tokens_of_chars {cs : List Char} (hchars : ∀ c ∈ cs, standsForItself c = true) :
    tokens cs = (Lexer.resting {} cs {} true).run (cs.length + 1) ∧ Lexer.AtLines cs {} true cs := by
  simp only [standsForItself, Bool.and_eq_true, Bool.not_eq_true', Bool.or_eq_false_iff,
    beq_eq_false_iff_ne] at hchars
  have hallowed := allowedPortions_of_allowed (fun c hc => (hchars c hc).1) [] portionSize
  have hunified := unifyBreaks_of_unified fun c hc => (hchars c hc).2
  refine ⟨?_, {}, rfl, rfl⟩
  unfold tokens
  rw [hallowed]
  dsimp only
  rw [List.reverse_nil, List.nil_append, hunified]
  rfl

/-- **A text that is written line by line is cut into the tokens of its lines.** -/
theorem tokens_lines {lines : List Line} (hwritten : Written lines)
    (hchars : ∀ c ∈ Line.allChars lines, standsForItself c = true) :
    tokens (Line.allChars lines) = (lines.foldl Outline.next {}).finish := by
  obtain ⟨htokens, hat⟩ := tokens_of_chars hchars
  rw [htokens, Lexer.run_lines hwritten hat (Nat.lt_succ_self _)]

/-- A colon at the end of the first line's value is where the text stops being YAML. -/
theorem tokens_colon {column : Nat} {key value : List Char} {lines : List Line} (hkey : IsKey key)
    (hvalue : ∀ rest, IsPlainBefore (':' :: rest) value) (hfirst : value.head?.any beginsWord = true)
    (hchars : ∀ c ∈ Line.allChars (.plain column key (value ++ [':']) :: lines), standsForItself c = true) :
    tokens (Line.allChars (.plain column key (value ++ [':']) :: lines)) =
      ((({} : Outline).key column key).emit (.scalar (String.ofList value) .plain)).tokens.reverse ++ [.broken] := by
  obtain ⟨htokens, hat⟩ := tokens_of_chars hchars
  have hlines : Line.allChars (.plain column key (value ++ [':']) :: lines) =
      Line.keyChars column key ++ (' ' :: value ++ ':' :: '\n' :: Line.allChars lines) := by
    simp [Line.allChars, Line.chars]
  rw [htokens, hlines]
  rw [hlines] at hat
  obtain ⟨r, hr, hrun⟩ := Lexer.run_keyChars (o := {}) hkey rfl hat
  have hindent : (({} : Outline).key column key).indent = column := Outline.indent_reach {} column
  have hcolon : ∀ fuel, (Lexer.resting (({} : Outline).key column key)
      (' ' :: value ++ ':' :: '\n' :: Line.allChars lines) r false).run (fuel + 2) = _ :=
    Lexer.run_plain_colon (by omega) (hvalue _) hfirst
  have hfuel : (Line.keyChars column key ++ (' ' :: value ++ ':' :: '\n' :: Line.allChars lines)).length + 1 =
      column + key.length + value.length + (Line.allChars lines).length + 1 + 2 + 2 := by
    simp [Line.keyChars]
    omega
  rw [hfuel, hrun, hcolon]

end ChainProvision.Yaml
