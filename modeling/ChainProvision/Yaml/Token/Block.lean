import ChainProvision.Yaml.Token.Plain

/-!
# Block scalars

A block scalar is a run of lines that are indented further than what is around them.  Its header says
whether lines are folded, what becomes of the line breaks at its end, and, if need be, how far it is indented.
-/

namespace ChainProvision.Yaml.Block

/-- What becomes of the line breaks at the end. -/
inductive Chomping where
  /-- All are dropped. -/
  | strip
  /-- One is kept. -/
  | clip
  /-- All are kept. -/
  | keep
  deriving DecidableEq, Repr

/-- The header of a block scalar. -/
structure Header where
  chomping : Chomping := .clip
  /-- The indentation beyond that of the surroundings, if it is given. -/
  increment : Option Nat := none
  deriving DecidableEq, Repr

/-- The chomping that an indicator asks for. -/
def chomping? : Char → Option Chomping
  | '+' => some .keep
  | '-' => some .strip
  | _ => none

/-- The header at the start of a text, and what follows it.  None if it asks for no indentation. -/
def readHeader (cs : List Char) : Option (Header × List Char) :=
  match cs with
  | [] => some ({}, [])
  | c :: rest =>
    match chomping? c, Text.digit? c with
    | some chomping, _ =>
      match rest with
      | d :: after =>
        match Text.digit? d with
        | some 0 => none
        | some n => some (⟨chomping, some n⟩, after)
        | none => some (⟨chomping, none⟩, rest)
      | [] => some (⟨chomping, none⟩, [])
    | none, some 0 => none
    | none, some n =>
      match rest with
      | d :: after =>
        match chomping? d with
        | some chomping => some (⟨chomping, some n⟩, after)
        | none => some (⟨.clip, some n⟩, rest)
      | [] => some (⟨.clip, some n⟩, [])
    | none, none => some ({}, cs)

/-- What follows the line of a header, which may hold a comment.  None if the line holds anything else. -/
def afterHeader (cs : List Char) : Option (List Char) :=
  let rest := cs.dropWhile isBlank
  let rest := if rest.head? = some '#' then rest.dropWhile fun c => !isBreak c else rest
  match rest with
  | [] => some []
  | c :: after => if isBreak c then some after else none

/-- What is known while the lines are read.  Texts are kept with their last character first. -/
structure Lines where
  text : List Char := []
  /-- The line break after the last line with content. -/
  lastBreak : List Char := []
  /-- The line breaks of the empty lines since. -/
  emptyLines : List Char := []
  /-- Whether the last line with content began with a blank. -/
  wasIndented : Bool := false
  /-- The indentation, once it is known. -/
  indent : Option Nat := none
  /-- The deepest indentation of the empty lines so far. -/
  deepest : Nat := 0
  deriving DecidableEq, Repr

namespace Lines

/-- The lines with the indentation settled at the first line that holds content. -/
def settle (l : Lines) (outer : Nat) (column : Nat) : Lines :=
  match l.indent with
  | some _ => l
  | none => { l with indent := some (max (max l.deepest column) (max outer 1)) }

/-- The lines with the breaks before a line of content that begins with `c`. -/
def join (l : Lines) (folded : Bool) (c : Char) : Lines :=
  let text :=
    if folded && l.lastBreak == ['\n'] && !l.wasIndented && !isBlank c then
      if l.emptyLines.isEmpty then ' ' :: l.text else l.emptyLines ++ l.text
    else l.emptyLines ++ (l.lastBreak ++ l.text)
  { l with text, lastBreak := [], emptyLines := [], wasIndented := isBlank c }

/-- The text of the lines, with the breaks at its end chomped. -/
def finish (l : Lines) (chomping : Chomping) : String :=
  String.ofList
    (match chomping with
      | .strip => l.text
      | .clip => l.lastBreak ++ l.text
      | .keep => l.emptyLines ++ (l.lastBreak ++ l.text)).reverse

end Lines

/-- Read the lines of a block scalar; `inLine` tells whether content of the present line has begun.  None if
    a tab stands where the indentation has to be told. -/
def readLines (folded : Bool) (chomping : Chomping) (outer : Nat) :
    List Char → Lines → Bool → Position → Option ScalarEnd
  | [], l, _, p => some ⟨l.finish chomping, [], p, true⟩
  | c :: rest, l, true, p =>
    if isBreak c then
      readLines folded chomping outer rest { l with lastBreak := [c] } false (p.next c)
    else readLines folded chomping outer rest { l with text := c :: l.text } true (p.next c)
  | c :: rest, l, false, p =>
    let isWithin := match l.indent with
      | some indent => p.column < indent
      | none => true
    if isWithin && c == ' ' then readLines folded chomping outer rest l false (p.next c)
    else if isWithin && c == '\t' then none
    else if isBreak c then
      readLines folded chomping outer rest
        { l with emptyLines := c :: l.emptyLines, deepest := max l.deepest p.column } false (p.next c)
    else
      let l := l.settle outer p.column
      if l.indent = some p.column then
        let l := l.join folded c
        readLines folded chomping outer rest { l with text := c :: l.text } true (p.next c)
      else some ⟨l.finish chomping, c :: rest, p, true⟩

/-- Read a block scalar after its indicator.  `outer` is the least indentation that it may have. -/
def read (folded : Bool) (outer : Nat) (cs : List Char) (p : Position) : Option ScalarEnd :=
  match readHeader cs with
  | none => none
  | some (header, rest) =>
    match afterHeader rest with
    | none => none
    | some rest =>
      let indent := header.increment.map fun n => outer - 1 + n
      readLines folded header.chomping outer rest { indent } false ⟨0, p.line + 1, p.index⟩

end ChainProvision.Yaml.Block
