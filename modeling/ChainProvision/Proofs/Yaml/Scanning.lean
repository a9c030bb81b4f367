import ChainProvision.Yaml.Token.Lexer
import Mathlib.Data.List.Infix

/-!
# Scalars that are written in one line

How the readers of plain and quoted scalars go through a line, and how the lexer comes to its next token.

## Main definitions

- `Yaml.Position.after`: the position after characters;
- `Yaml.IsPlainLine`: a text that is a plain scalar when it is written in one line;
- `Yaml.IsPlainBefore`: a text that is read as part of one before others;
- `Yaml.Dedented`: what ends a plain scalar that fills its line.

## Main statements

- `Yaml.Plain.read_line`: what is plain before a text is read up to it.
- `Yaml.Quoted.read_word`: a word between quotes is read up to the closing one.
- `Yaml.Lexer.toToken_content`, `Yaml.Lexer.toToken_comment`: how the next token is found.
-/

namespace ChainProvision.Yaml

/-! ## Positions -/

/-- The position after characters. -/
def Position.after (p : Position) (cs : List Char) : Position := cs.foldl Position.next p

theorem Position.after_cons (p : Position) (c : Char) (cs : List Char) :
    p.after (c :: cs) = (p.next c).after cs := rfl

/-- Within a line the column counts the characters. -/
theorem Position.after_of_noBreak {p : Position} {cs : List Char} (h : ∀ c ∈ cs, isBreak c = false) :
    (p.after cs).column = p.column + cs.length ∧ (p.after cs).line = p.line := by
  induction cs generalizing p with
  | nil => exact ⟨rfl, rfl⟩
  | cons c cs ih =>
    have hc := h c List.mem_cons_self
    obtain ⟨hcolumn, hline⟩ := ih (p := p.next c) fun d hd => h d (List.mem_cons_of_mem _ hd)
    rw [Position.after_cons, hcolumn, hline, Position.next, if_neg (by simp [hc]), List.length_cons]
    exact ⟨by dsimp only; omega, rfl⟩

theorem Position.after_index {p : Position} {cs : List Char} (h : ∀ c ∈ cs, c.utf8Size = 1) :
    (p.after cs).index = p.index + cs.length := by
  induction cs generalizing p with
  | nil => rfl
  | cons c cs ih =>
    have hnext : (p.next c).index = p.index + 1 := by
      unfold Position.next
      split
      · rw [h c List.mem_cons_self]
      · rw [h c List.mem_cons_self]
    rw [Position.after_cons, ih fun d hd => h d (List.mem_cons_of_mem _ hd), hnext, List.length_cons]
    omega

/-! ## Plain scalars -/

/-- A text is read as a plain scalar up to what follows it in its line: in it stand no line break, no colon that
ends a key, and no number sign that begins a comment, and it does not end in a blank. -/
structure IsPlainBefore (rest cs : List Char) : Prop where
  noBreak : ∀ c ∈ cs, isBreak c = false
  noKey : ∀ before after, cs = before ++ ':' :: after → endsWord (after ++ rest) = false
  noComment : ∀ before blank after, cs = before ++ blank :: '#' :: after → isBlank blank = false
  noBlankEnd : ∀ before blank, cs = before ++ [blank] → isBlank blank = false

/-- A text is a plain scalar when it is written in one line. -/
def IsPlainLine (cs : List Char) : Prop := IsPlainBefore [] cs

/-- Nothing where the rest of a line begins ends a plain scalar. -/
def isPlainAt : List Char → Bool
  | [] => true
  | c :: rest => !isBreak c && !(c == ':' && endsWord rest) &&
      !(isBlank c && (rest.isEmpty || rest.head? == some '#'))

theorem isPlainLine_iff {cs : List Char} : IsPlainLine cs ↔ ∀ rest, rest <:+ cs → isPlainAt rest = true := by
  constructor
  · rintro h rest ⟨before, rfl⟩
    cases rest with
    | nil => rfl
    | cons c rest =>
      have hbreak := h.noBreak c (by simp)
      have hkey : (c == ':' && endsWord rest) = false := by
        by_cases hc : c = ':'
        · subst hc
          have hrest := h.noKey before rest rfl
          rw [List.append_nil] at hrest
          simp [hrest]
        · simp [hc]
      have hend : (isBlank c && (rest.isEmpty || rest.head? == some '#')) = false := by
        cases rest with
        | nil => simp [h.noBlankEnd before c rfl]
        | cons d rest =>
          by_cases hd : d = '#'
          · subst hd
            simp [h.noComment before c rest rfl]
          · simp [hd]
      simp [isPlainAt, hbreak, hkey, hend]
  · intro h
    refine ⟨fun c hc => ?_, ?_, ?_, ?_⟩
    · obtain ⟨before, after, rfl⟩ := List.append_of_mem hc
      have hat := h (c :: after) ⟨before, rfl⟩
      simp only [isPlainAt, Bool.and_eq_true, Bool.not_eq_true'] at hat
      exact hat.1.1
    · rintro before after rfl
      simpa [isPlainAt, isBreak, isBlank] using h (':' :: after) ⟨before, rfl⟩
    · rintro before blank after rfl
      have hat := h (blank :: '#' :: after) ⟨before, rfl⟩
      simp only [isPlainAt, Bool.and_eq_true, Bool.not_eq_true'] at hat
      simpa using hat.2
    · rintro before blank rfl
      have hat := h [blank] ⟨before, rfl⟩
      simp only [isPlainAt, Bool.and_eq_true, Bool.not_eq_true'] at hat
      simpa using hat.2

instance (cs : List Char) : Decidable (IsPlainLine cs) :=
  decidable_of_iff (cs.tails.all isPlainAt = true) (by
    simp only [List.all_eq_true, List.mem_tails, isPlainLine_iff])

theorem IsPlainLine.before {cs : List Char} (h : IsPlainLine cs) (rest : List Char) : IsPlainBefore rest cs where
  noBreak := h.noBreak
  noKey before after hcs := by
    have hafter := h.noKey before after hcs
    cases after with
    | nil => cases hafter
    | cons c after => exact hafter
  noComment := h.noComment
  noBlankEnd := h.noBlankEnd

/-- The end of what is plain before a text is so too. -/
theorem IsPlainBefore.of_append {rest cs : List Char} (start : List Char)
    (h : IsPlainBefore rest (start ++ cs)) : IsPlainBefore rest cs where
  noBreak c hc := h.noBreak c (List.mem_append_right _ hc)
  noKey before after hcs := h.noKey (start ++ before) after (by rw [hcs, List.append_assoc])
  noComment before blank after hcs := h.noComment (start ++ before) blank after (by rw [hcs, List.append_assoc])
  noBlankEnd before blank hcs := h.noBlankEnd (start ++ before) blank (by rw [hcs, List.append_assoc])

/-- A text without blanks is plain unless a colon comes to its end. -/
theorem isPlainBefore_of_word {rest cs : List Char} (hword : ∀ c ∈ cs, isBlank c = false ∧ isBreak c = false)
    (hlast : cs.getLast? = some ':' → endsWord rest = false) : IsPlainBefore rest cs where
  noBreak c hc := (hword c hc).2
  noKey before after hcs := by
    cases after with
    | nil => exact hlast (by simp [hcs])
    | cons c after =>
      obtain ⟨hblank, hbreak⟩ := hword c (by simp [hcs])
      simp [endsWord, hblank, hbreak]
  noComment before blank after hcs := (hword blank (by simp [hcs])).1
  noBlankEnd before blank hcs := (hword blank (by simp [hcs])).1

/-- A character begins a plain scalar, wherever it stands. -/
def beginsWord (c : Char) : Bool :=
  !(Lexer.isIndicator c || isBlank c || isBreak c || c == '.' || c == byteOrderMark)

namespace Plain

/-- Blanks that were read since the last other character, the last one first. -/
private def gapOf : List Char → Gap
  | [] => .none
  | c :: cs => .blanks (c :: cs)

private theorem addBlank_gapOf (g : List Char) (c : Char) : (gapOf g).addBlank c = gapOf (c :: g) := by
  cases g <;> rfl

private theorem spansLines_gapOf (g : List Char) : (gapOf g).spansLines = false := by cases g <;> rfl

private theorem reversedText_gapOf (g : List Char) : (gapOf g).reversedText = g := by cases g <;> rfl

private theorem read_gap {indent : Nat} {cs g text rest : List Char} {p : Position}
    (hg : ∀ c ∈ g, isBlank c = true) (hline : IsPlainBefore rest (g.reverse ++ cs)) (hcolumn : indent ≤ p.column)
    (hpos : 0 < p.column) :
    read false indent (cs ++ rest) text (gapOf g) p =
      read false indent rest (cs.reverse ++ (g ++ text)) .none (p.after cs) := by
  induction cs generalizing g text p with
  | nil =>
    -- The line does not end in blanks.
    cases g with
    | nil => rfl
    | cons blank g =>
      have hblank := hline.noBlankEnd g.reverse blank (by simp)
      rw [hg blank List.mem_cons_self] at hblank
      cases hblank
  | cons c cs ih =>
    have hbreak : isBreak c = false := hline.noBreak c (by simp)
    have hnext : (p.next c).column = p.column + 1 := by simp [Position.next, hbreak]
    rw [List.cons_append, read]
    by_cases hblank : isBlank c = true
    · have hline' : IsPlainBefore rest ((c :: g).reverse ++ cs) := by
        rw [List.reverse_cons, List.append_assoc]
        exact hline
      have hg' : ∀ d ∈ c :: g, isBlank d = true := List.forall_mem_cons.mpr ⟨hblank, hg⟩
      rw [if_pos hblank, if_neg (by simp [spansLines_gapOf]), addBlank_gapOf,
        ih hg' hline' (by omega) (by omega), Position.after_cons]
      simp
    · have hmark : isDocumentMark p (c :: (cs ++ rest)) = false := by
        simp [isDocumentMark, Nat.ne_of_gt hpos]
      have hgap : endsAtGap false indent (gapOf g) p c (cs ++ rest) = false := by
        -- After blanks nothing but a number sign would end the scalar.
        cases g with
        | nil => rfl
        | cons blank g =>
          have hnumber : c ≠ '#' := by
            rintro rfl
            have hblank' := hline.noComment g.reverse blank cs (by simp)
            rw [hg blank List.mem_cons_self] at hblank'
            cases hblank'
          simp [endsAtGap, hmark, hnumber, Nat.not_lt.mpr hcolumn]
      have hcolon : isStop false c (cs ++ rest) = false := by
        by_cases hc : c = ':'
        · rw [hc] at hline
          simp [isStop, hline.noKey g.reverse cs rfl]
        · simp [isStop, hc]
      have hline' : IsPlainBefore rest ([].reverse ++ cs) := by
        apply IsPlainBefore.of_append (g.reverse ++ [c])
        rw [List.append_assoc]
        exact hline
      rw [if_neg hblank, if_neg (by simp [hbreak]), if_neg (by simp [hgap]),
        if_neg (by simp [isStrayColon]), if_neg (by simp [hcolon]), reversedText_gapOf]
      rw [show Gap.none = gapOf [] from rfl, ih (by simp) hline' (by omega) (by omega), Position.after_cons]
      simp [gapOf]

/-- **What is plain before a text is read up to it.** -/
theorem read_line {indent : Nat} {cs rest : List Char} {p : Position} (hline : IsPlainBefore rest cs)
    (hcolumn : indent ≤ p.column) (hpos : 0 < p.column) :
    read false indent (cs ++ rest) [] .none p = read false indent rest cs.reverse .none (p.after cs) := by
  have hread : read false indent (cs ++ rest) [] (gapOf []) p =
      read false indent rest (cs.reverse ++ ([] ++ [])) .none (p.after cs) :=
    read_gap (by simp) (by simpa using hline) hcolumn hpos
  simpa [gapOf] using hread

/-- A plain scalar ends at a colon that a blank or the end of the line follows. -/
theorem read_colon {after : List Char} (hafter : endsWord after = true) (indent : Nat) (text : List Char)
    (p : Position) : read false indent (':' :: after) text .none p =
      some ⟨String.ofList text.reverse, ':' :: after, p, false⟩ := by
  rw [read]
  simp [isBlank, isBreak, endsAtGap, isStrayColon, isStop, hafter, Gap.spansLines]

/-- A word is read up to its end, wherever it stands. -/
theorem read_word {indent : Nat} {cs text rest : List Char} {p : Position}
    (hword : ∀ c ∈ cs, isBlank c = false ∧ isBreak c = false ∧ c ≠ ':') :
    read false indent (cs ++ rest) text .none p =
      read false indent rest (cs.reverse ++ text) .none (p.after cs) := by
  induction cs generalizing text p with
  | nil => rfl
  | cons c cs ih =>
    obtain ⟨hblank, hbreak, hcolon⟩ := hword c List.mem_cons_self
    rw [List.cons_append, read, if_neg (by simp [hblank]), if_neg (by simp [hbreak]),
      if_neg (by simp [endsAtGap]), if_neg (by simp [isStrayColon]), if_neg (by simp [isStop, hcolon]),
      Position.after_cons]
    rw [show c :: (Gap.none.reversedText ++ text) = c :: text from rfl,
      ih fun d hd => hword d (List.mem_cons_of_mem _ hd)]
    simp

end Plain

/-! ## Ends of lines -/

/-- What ends a plain scalar that fills its line: the end of the text, or a line that is indented less than
`indent`. -/
def Dedented (indent : Nat) (lines : List Char) : Prop :=
  lines = [] ∨ ∃ n c rest, lines = List.replicate n ' ' ++ c :: rest ∧ n < indent ∧ isBlank c = false ∧
    isBreak c = false

theorem Position.after_replicate (p : Position) (n : Nat) :
    (p.after (List.replicate n ' ')).column = p.column + n := by
  have hspaces : ∀ c ∈ List.replicate n ' ', isBreak c = false := by
    intro c hc
    rw [List.eq_of_mem_replicate hc]
    rfl
  rw [(Position.after_of_noBreak hspaces).1, List.length_replicate]

namespace Plain

private theorem read_blanks {indent n : Nat} {text rest : List Char} {p : Position} {c d : Char}
    (hc : isBlank c = false ∧ isBreak c = false) (hcolumn : p.column + n < indent) :
    read false indent (List.replicate n ' ' ++ c :: rest) text (.breaks [d] []) p =
      some ⟨String.ofList text.reverse, c :: rest, p.after (List.replicate n ' '), true⟩ := by
  induction n generalizing p with
  | zero =>
    have hends : endsAtGap false indent (.breaks [d] []) p c rest = true := by
      simp only [Nat.add_zero] at hcolumn
      simp [endsAtGap, hcolumn]
    rw [List.replicate_zero, List.nil_append, read, if_neg (by simp [hc.1]), if_neg (by simp [hc.2]),
      if_pos hends]
    rfl
  | succ n ih =>
    have hnext : (p.next ' ').column = p.column + 1 := rfl
    rw [List.replicate_succ, List.cons_append, read, if_pos (show isBlank ' ' = true from rfl), if_neg (by simp)]
    exact ih (by omega)

/-- After the end of its line a plain scalar has ended, and the lexer stands at the next line's content. -/
theorem read_dedented {indent : Nat} {lines : List Char} (h : Dedented indent lines) (text : List Char)
    (p : Position) : ∃ n rest, lines = List.replicate n ' ' ++ rest ∧
      read false indent ('\n' :: lines) text .none p =
        some ⟨String.ofList text.reverse, rest, (p.next '\n').after (List.replicate n ' '), true⟩ := by
  have hbreak : ∀ rest, read false indent ('\n' :: rest) text .none p =
      read false indent rest text (.breaks ['\n'] []) (p.next '\n') := by
    intro rest
    rw [read]
    rfl
  rcases h with rfl | ⟨n, c, rest, rfl, hn, hc⟩
  · refine ⟨0, [], rfl, ?_⟩
    rw [hbreak]
    rfl
  · refine ⟨n, c :: rest, rfl, ?_⟩
    have hcolumn : (p.next '\n').column + n < indent := by
      rw [show (p.next '\n').column = 0 from rfl, Nat.zero_add]
      exact hn
    rw [hbreak, read_blanks hc hcolumn]

end Plain

/-! ## Quoted scalars -/

/-- A character stands for itself between double quotes, and is no blank. -/
def standsInQuotes (c : Char) : Bool := !(isBlank c || isBreak c || c == '"' || c == '\\')

theorem Quoted.read_word {cs text rest : List Char} {p : Position}
    (hword : ∀ c ∈ cs, standsInQuotes c = true) (hpos : 0 < p.column) :
    read false (cs ++ '"' :: rest) text .none .text p =
      some ⟨String.ofList (text.reverse ++ cs), rest, (p.after cs).next '"', false⟩ := by
  induction cs generalizing text p with
  | nil =>
    have hmark : isDocumentMark p ('"' :: rest) = false := by simp [isDocumentMark, Nat.ne_of_gt hpos]
    simp [read, isBlank, isBreak, hmark, Gap.reversedText, Position.after]
  | cons c cs ih =>
    have hc := hword c List.mem_cons_self
    simp only [standsInQuotes, Bool.not_eq_true', Bool.or_eq_false_iff, beq_eq_false_iff_ne] at hc
    obtain ⟨⟨⟨hblank, hbreak⟩, hquote⟩, hescape⟩ := hc
    have hmark : isDocumentMark p (c :: (cs ++ '"' :: rest)) = false := by
      simp [isDocumentMark, Nat.ne_of_gt hpos]
    have hnext : (p.next c).column = p.column + 1 := by simp [Position.next, hbreak]
    have hrest : read false (cs ++ '"' :: rest) (c :: text) .none .text (p.next c) =
        some ⟨String.ofList ((c :: text).reverse ++ cs), rest, ((p.next c).after cs).next '"', false⟩ :=
      ih (fun d hd => hword d (List.mem_cons_of_mem _ hd)) (by omega)
    rw [Position.after_cons]
    simp [read, hblank, hbreak, hmark, hquote, hescape, Gap.reversedText, hrest]

/-! ## The next token -/

namespace Lexer

theorem toToken_spaces (n : Nat) (rest : List Char) (p : Position) (keyAllowed : Bool) :
    toToken false (List.replicate n ' ' ++ rest) false p keyAllowed =
      toToken false rest false (p.after (List.replicate n ' ')) keyAllowed := by
  induction n generalizing p with
  | zero => rfl
  | succ n ih =>
    rw [List.replicate_succ, List.cons_append, Position.after_cons, ← ih, toToken]
    simp [isBreak]

/-- A character that begins a scalar is where the next token is found. -/
theorem toToken_content {c : Char} (hc : beginsWord c = true ∨ c = '"') (rest : List Char) (p : Position)
    (keyAllowed : Bool) : toToken false (c :: rest) false p keyAllowed = (c :: rest, p, keyAllowed) := by
  have hword : isBreak c = false ∧ c ≠ ' ' ∧ c ≠ '\t' ∧ c ≠ byteOrderMark ∧ c ≠ '#' := by
    rcases hc with hc | rfl
    · simp only [beginsWord, isIndicator, isBlank, Bool.not_eq_true', Bool.or_eq_false_iff,
        beq_eq_false_iff_ne, decide_eq_false_iff_not] at hc
      obtain ⟨⟨⟨⟨hindicator, hspace, htab⟩, hbreak⟩, -⟩, hmark⟩ := hc
      refine ⟨hbreak, hspace, htab, hmark, ?_⟩
      rintro rfl
      exact hindicator (by decide)
    · decide
  obtain ⟨hbreak, hspace, htab, hmark, hnumber⟩ := hword
  simp [toToken, hbreak, hspace, htab, hmark, hnumber]

/-- A comment and the end of its line are passed over, and after them a key may begin. -/
theorem toToken_comment {text : List Char} (h : ∀ c ∈ text, isBreak c = false) (lines : List Char)
    (p : Position) (keyAllowed : Bool) : ∃ q, q.column = 0 ∧
      toToken false ('#' :: text ++ '\n' :: lines) false p keyAllowed = toToken false lines false q true := by
  have hinside : ∀ p, ∃ q, q.column = 0 ∧
      toToken false (text ++ '\n' :: lines) true p keyAllowed = toToken false lines false q true := by
    induction text with
    | nil =>
      intro p
      refine ⟨p.next '\n', rfl, ?_⟩
      simp [toToken, isBreak]
    | cons c text ih =>
      intro p
      obtain ⟨q, hq, htext⟩ := ih (fun d hd => h d (List.mem_cons_of_mem _ hd)) (p.next c)
      refine ⟨q, hq, ?_⟩
      rw [← htext, List.cons_append, toToken, if_neg (by simp [h c List.mem_cons_self])]
      rfl
  obtain ⟨q, hq, htext⟩ := hinside (p.next '#')
  refine ⟨q, hq, ?_⟩
  rw [← htext, List.cons_append, toToken]
  simp [isBreak, byteOrderMark]

/-- After the end of a line a key may begin. -/
theorem toToken_newline (lines : List Char) (p : Position) (keyAllowed : Bool) :
    toToken false ('\n' :: lines) false p keyAllowed = toToken false lines false (p.next '\n') true := by
  rw [toToken]
  simp [isBreak]

end Lexer

end ChainProvision.Yaml
