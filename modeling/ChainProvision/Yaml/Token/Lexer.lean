import ChainProvision.Yaml.Token.Block
import ChainProvision.Yaml.Token.Quoted
import ChainProvision.Yaml.Token.Tag

/-!
# The tokens of YAML text

Indentation is turned into tokens that open and close block collections.  A key of a mapping is recognised
only at the colon after it, so the lexer remembers where a key could have begun; a key stays within one line
and is not long.  Within brackets indentation does not count.

## Main definitions

* `Lexer`: the rest of the text with what is known about the surroundings;
* `Lexer.fetch`: the step that takes one token;
* `tokens`: the tokens of a text.
-/

namespace ChainProvision.Yaml

/-- A place where a key could have begun. -/
structure Candidate where
  /-- The number of tokens before it. -/
  tokens : Nat
  position : Position
  /-- Whether nothing but a key can stand there. -/
  required : Bool
  deriving DecidableEq, Repr

/-- The greatest length of a key without its own indicator. -/
def maxKey : Nat := 1024

/-- Whether a key that began at a candidate can still end at a position. -/
def Candidate.isOpen (c : Candidate) (p : Position) : Bool :=
  c.position.line == p.line && p.index ≤ c.position.index + maxKey

/-- The rest of a text, and what is known about its surroundings. -/
structure Lexer where
  rest : List Char
  position : Position := {}
  /-- The number of brackets that are open. -/
  flow : Nat := 0
  /-- The column of the innermost block collection, -1 outside of all. -/
  indent : Int := -1
  /-- The columns of the collections around it, the innermost first. -/
  outerIndents : List Int := []
  /-- Whether a key may begin here. -/
  keyAllowed : Bool := true
  /-- Where a key could have begun, within the brackets that are open, the innermost first. -/
  candidates : List (Option Candidate) := [none]
  /-- The tokens so far, last first. -/
  tokens : List Token := []
  ended : Bool := false
  /-- Whether the text goes on with what cannot be read. -/
  isCut : Bool := false

namespace Lexer

/-- The lexer with one more token. -/
def emit (l : Lexer) (t : Token) : Lexer := { l with tokens := t :: l.tokens }

/-- The lexer with tokens put in after the first `n`. -/
def insert (l : Lexer) (n : Nat) (ts : List Token) : Lexer :=
  let later := l.tokens.length - n
  { l with tokens := l.tokens.take later ++ ts.reverse ++ l.tokens.drop later }

/-- The lexer after `n` characters of the present line. -/
def skip (l : Lexer) (n : Nat) : Lexer :=
  { l with rest := l.rest.drop n, position := l.position.skip n }

/-- The lexer after an indicator of one character. -/
def indicator (l : Lexer) (t : Token) : Lexer := (l.skip 1).emit t

/-! ## Blanks and comments -/

/-- The rest of a text after blanks, comments and line ends, where it begins, and whether a key may begin
    there.  A tab is no blank where it could be taken for indentation. -/
def toToken (inFlow : Bool) :
    List Char → Bool → Position → Bool → List Char × Position × Bool
  | [], _, p, keyAllowed => ([], p, keyAllowed)
  | c :: rest, inComment, p, keyAllowed =>
    if isBreak c then toToken inFlow rest false (p.next c) (keyAllowed || !inFlow)
    else if inComment then toToken inFlow rest true (p.next c) keyAllowed
    else if c = ' ' ∨ (c = '\t' ∧ (inFlow ∨ !keyAllowed)) ∨ (c = byteOrderMark ∧ p.column = 0) then
      toToken inFlow rest false (p.next c) keyAllowed
    else if c = '#' then toToken inFlow rest true (p.next c) keyAllowed
    else (c :: rest, p, keyAllowed)

/-- The lexer at its next token. -/
def skipBlanks (l : Lexer) : Lexer :=
  let (rest, position, keyAllowed) := toToken (l.flow != 0) l.rest false l.position l.keyAllowed
  { l with rest, position, keyAllowed }

/-! ## Keys -/

/-- The candidates that are still open.  None if a required one is not. -/
def liveCandidates (p : Position) : List (Option Candidate) → Option (List (Option Candidate))
  | [] => some []
  | none :: rest => (liveCandidates p rest).map (none :: ·)
  | some c :: rest =>
    if c.isOpen p then (liveCandidates p rest).map (some c :: ·)
    else if c.required then none
    else (liveCandidates p rest).map (none :: ·)

/-- The lexer without the candidates that are not open any more. -/
def dropStale (l : Lexer) : Option Lexer :=
  (liveCandidates l.position l.candidates).map fun candidates => { l with candidates }

/-- The lexer with the innermost candidate replaced.  None if the one before was required. -/
def setCandidate (l : Lexer) (new : Option Candidate) : Option Lexer :=
  match l.candidates with
  | some c :: rest => if c.required then none else some { l with candidates := new :: rest }
  | _ :: rest => some { l with candidates := new :: rest }
  | [] => some { l with candidates := [new] }

/-- The lexer without the innermost candidate. -/
def dropCandidate (l : Lexer) : Option Lexer := l.setCandidate none

/-- The lexer with the present place as a candidate, if a key may begin there. -/
def saveCandidate (l : Lexer) : Option Lexer :=
  if l.keyAllowed then
    l.setCandidate (some {
      tokens := l.tokens.length
      position := l.position
      required := l.flow == 0 && l.indent == l.position.column })
  else some l

/-! ## Indentation -/

/-- The lexer with a block collection opened at a column, if it is further in than the innermost one.  Its
    token is put in after the first `n`, or at the end. -/
def roll (l : Lexer) (column : Nat) (n : Option Nat) (ts : List Token) (opening : Token) : Lexer :=
  let opens := l.flow == 0 && l.indent < column
  let ts := if opens then opening :: ts else ts
  let l := if opens then { l with outerIndents := l.indent :: l.outerIndents, indent := column } else l
  l.insert (n.getD l.tokens.length) ts

/-- The columns after the collections beyond a column are closed, and how many are. -/
def unrollFrom (column : Int) : Int → List Int → Int × List Int × Nat
  | indent, [] => if column < indent then (-1, [], 1) else (indent, [], 0)
  | indent, outer :: rest =>
    if column < indent then
      let (indent, outers, n) := unrollFrom column outer rest
      (indent, outers, n + 1)
    else (indent, outer :: rest, 0)

/-- The lexer with the block collections beyond a column closed. -/
def unroll (l : Lexer) (column : Int) : Lexer :=
  if l.flow = 0 then
    let (indent, outerIndents, n) := unrollFrom column l.indent l.outerIndents
    { l with indent, outerIndents, tokens := List.replicate n .blockEnd ++ l.tokens }
  else l

/-! ## Single tokens -/

/-- The end of the text. -/
def fetchEnd (l : Lexer) : Option Lexer :=
  (l.unroll (-1)).dropCandidate.map fun l =>
    { l with position := l.position.newLine, keyAllowed := false, ended := true }.emit .streamEnd

/-- A mark that begins or ends a document. -/
def fetchMark (l : Lexer) (t : Token) : Option Lexer :=
  (l.unroll (-1)).dropCandidate.map fun l => { l with keyAllowed := false }.skip 3 |>.emit t

/-- An opening bracket. -/
def fetchOpening (l : Lexer) (t : Token) : Option Lexer :=
  l.saveCandidate.map fun l =>
    { l with flow := l.flow + 1, candidates := none :: l.candidates, keyAllowed := true }.indicator t

/-- A closing bracket. -/
def fetchClosing (l : Lexer) (t : Token) : Option Lexer :=
  l.dropCandidate.map fun l =>
    let l :=
      if l.flow = 0 then l else { l with flow := l.flow - 1, candidates := l.candidates.drop 1 }
    { l with keyAllowed := false }.indicator t

/-- A comma between brackets. -/
def fetchComma (l : Lexer) : Option Lexer :=
  l.dropCandidate.map fun l => { l with keyAllowed := true }.indicator .flowEntry

/-- The hyphen of a block sequence. -/
def fetchHyphen (l : Lexer) : Option Lexer :=
  if l.flow = 0 ∧ !l.keyAllowed then none
  else
    (l.roll l.position.column none [] .blockSequenceStart).dropCandidate.map fun l =>
      { l with keyAllowed := true }.indicator .blockEntry

/-- The question mark before a key. -/
def fetchKey (l : Lexer) : Option Lexer :=
  if l.flow = 0 ∧ !l.keyAllowed then none
  else
    (l.roll l.position.column none [] .blockMappingStart).dropCandidate.map fun l =>
      { l with keyAllowed := l.flow == 0 }.indicator .key

/-- The colon before a value.  If a key could have begun before it, one did. -/
def fetchValue (l : Lexer) : Option Lexer :=
  match l.candidates with
  | some c :: rest =>
    let l := { l with candidates := none :: rest, keyAllowed := false }
    some ((l.roll c.position.column (some c.tokens) [.key] .blockMappingStart).indicator .value)
  | _ =>
    if l.flow = 0 then
      if l.keyAllowed then
        some ({ l.roll l.position.column none [] .blockMappingStart with keyAllowed := true }.indicator
          .value)
      else none
    else some ({ l with keyAllowed := false }.indicator .value)

/-- The name of an anchor, or of the anchor that an alias stands for. -/
def fetchAnchor (l : Lexer) (t : String → Token) : Option Lexer :=
  l.saveCandidate.bind fun l =>
    let name := (l.rest.drop 1).takeWhile isNameChar
    let after := l.rest.drop (1 + name.length)
    let ends := endsWord after ||
      match after with
      | c :: _ => c ∈ ['?', ':', ',', ']', '\x7d', '%', '@', '\x60']
      | [] => true
    if name.isEmpty || !ends then none
    else some (({ l with keyAllowed := false }.skip (1 + name.length)).emit (t (String.ofList name)))

/-- The tag of a node. -/
def fetchTag (l : Lexer) : Option Lexer :=
  l.saveCandidate.bind fun l =>
    match readTag l.rest with
    | none => none
    | some (name, after) =>
      if endsWord after || (l.flow != 0 && after.head? == some ',') then
        some (({ l with keyAllowed := false }.skip (l.rest.length - after.length)).emit (.tag name))
      else none

/-- The lexer after a scalar. -/
def afterScalar (l : Lexer) (style : Style) (e : ScalarEnd) (keyAllowed : Bool) : Lexer :=
  { l with rest := e.rest, position := e.position, keyAllowed }.emit (.scalar e.text style)

/-- The least indentation of what belongs to the innermost block collection. -/
def innerIndent (l : Lexer) : Nat := (l.indent + 1).toNat

/-- A plain scalar. -/
def fetchPlain (l : Lexer) : Option Lexer :=
  l.saveCandidate.bind fun l =>
    (Plain.read (l.flow != 0) l.innerIndent l.rest [] .none l.position).map fun e =>
      l.afterScalar .plain e e.brokeLine

/-- A quoted scalar. -/
def fetchQuoted (l : Lexer) (single : Bool) : Option Lexer :=
  l.saveCandidate.bind fun l =>
    (Quoted.read single (l.rest.drop 1) [] .none .text (l.position.skip 1)).map fun e =>
      l.afterScalar .quoted e false

/-- A block scalar. -/
def fetchBlock (l : Lexer) (folded : Bool) : Option Lexer :=
  l.dropCandidate.bind fun l =>
    (Block.read folded l.innerIndent (l.rest.drop 1) (l.position.skip 1)).map fun e =>
      l.afterScalar (if folded then .folded else .literal) e true

/-! ## Directives -/

/-- A line that holds nothing more than blanks and a comment, without its end. -/
def restOfDirective (cs : List Char) : Option (List Char) :=
  let rest := cs.dropWhile isBlank
  let rest := if rest.head? = some '#' then rest.dropWhile fun c => !isBreak c else rest
  if endsLine rest then some rest else none

/-- The digits at the start of a text as a number, and what follows them; a version has few. -/
def readVersionPart (cs : List Char) : Option (Nat × List Char) :=
  let (ds, rest) := decimals cs
  if ds.isEmpty || 9 < ds.length then none else some (ofDecimals ds, rest)

/-- The directive at the start of a text, and what follows it up to the end of the line. -/
def readDirective (cs : List Char) : Option (Token × List Char) :=
  let name := cs.takeWhile isNameChar
  let after := cs.drop name.length
  if !endsWord after then none
  else if name = "YAML".toList then
    match readVersionPart (after.dropWhile isBlank) with
    | some (major, '.' :: rest) =>
      (readVersionPart rest).map fun (minor, rest) => (.versionDirective major minor, rest)
    | _ => none
  else if name = "TAG".toList then
    match after.dropWhile isBlank with
    | '!' :: rest =>
      let inner := rest.takeWhile isNameChar
      let (handle, rest) : List Char × List Char :=
        match rest.drop inner.length with
        | '!' :: rest => ('!' :: inner ++ ['!'], rest)
        | rest => ('!' :: inner, rest)
      let isHandle := handle = ['!'] || handle.getLast? = some '!' && 1 < handle.length
      if !isHandle || !(rest.head?.any isBlank) then none
      else
        match readSomeUri true (rest.dropWhile isBlank) with
        | some (meaning, after) =>
          if endsWord after then some (.tagDirective (String.ofList handle) meaning, after) else none
        | none => none
    | _ => none
  else none

/-- A directive. -/
def fetchDirective (l : Lexer) : Option Lexer :=
  (l.unroll (-1)).dropCandidate.bind fun l =>
    match readDirective (l.rest.drop 1) with
    | none => none
    | some (t, rest) =>
      (restOfDirective rest).map fun rest =>
        { l with
          rest
          position := l.position.skip (l.rest.length - rest.length)
          keyAllowed := false }.emit t

/-! ## All tokens -/

/-- The characters that a plain scalar does not begin with. -/
def isIndicator (c : Char) : Bool :=
  c ∈ ['-', '?', ':', ',', '[', ']', '\x7b', '\x7d', '#', '&', '*', '!', '|', '>', '\'', '"', '%', '@',
    '\x60']

/-- Whether a plain scalar begins with a character, seen with what follows it. -/
def beginsPlain (inFlow : Bool) (c : Char) (rest : List Char) : Bool :=
  !(isIndicator c || isBlank c || isBreak c) ||
    (c == '-' && !(rest.head?.any isBlank)) ||
    (!inFlow && (c == '?' || c == ':') && !endsWord rest)

/-- The lexer after the token that begins with a character.  None if none does. -/
def fetchFrom (l : Lexer) (c : Char) (rest : List Char) : Option Lexer :=
  let inFlow := l.flow != 0
  if l.position.column = 0 ∧ c = '%' then l.fetchDirective
  else if l.position.column = 0 ∧ isMark '-' (c :: rest) then l.fetchMark .documentStart
  else if l.position.column = 0 ∧ isMark '.' (c :: rest) then l.fetchMark .documentEnd
  else if c = '[' then l.fetchOpening .flowSequenceStart
  else if c = '\x7b' then l.fetchOpening .flowMappingStart
  else if c = ']' then l.fetchClosing .flowSequenceEnd
  else if c = '\x7d' then l.fetchClosing .flowMappingEnd
  else if c = ',' then l.fetchComma
  else if c = '-' ∧ endsWord rest then l.fetchHyphen
  else if c = '?' ∧ (inFlow ∨ endsWord rest) then l.fetchKey
  else if c = ':' ∧ (inFlow ∨ endsWord rest) then l.fetchValue
  else if c = '*' then l.fetchAnchor .alias
  else if c = '&' then l.fetchAnchor .anchor
  else if c = '!' then l.fetchTag
  else if c = '|' ∧ !inFlow then l.fetchBlock false
  else if c = '>' ∧ !inFlow then l.fetchBlock true
  else if c = '\'' then l.fetchQuoted true
  else if c = '"' then l.fetchQuoted false
  else if beginsPlain inFlow c rest then l.fetchPlain
  else none

/-- Whether fewer than `n` characters are left before what cannot be read. -/
def isNearCut (l : Lexer) (n : Nat) : Bool := l.isCut && (l.rest.drop (n - 1)).isEmpty

/-- The number of characters that have to be there for the kind of a token to be told. -/
def lookahead : Nat := 4

/-- The lexer after its next token.  None if the text is not YAML there, or if a place is passed where a key
    had to be. -/
def fetch (l : Lexer) : Option Lexer :=
  let l := l.skipBlanks
  if l.isNearCut lookahead then none
  else
    l.dropStale.bind fun l =>
      let l := l.unroll l.position.column
      let next :=
        match l.rest with
        | [] => l.fetchEnd
        | c :: rest => l.fetchFrom c rest
      next.bind fun next => if next.isNearCut 1 then none else next.dropStale

/-- The tokens before the first place where a key could have begun, which is not decided any more. -/
def settled (l : Lexer) : List Token :=
  let undecided := l.candidates.filterMap fun c => c.map Candidate.tokens
  let n := undecided.foldl min l.tokens.length
  (l.tokens.drop (l.tokens.length - n)).reverse

/-- The tokens of the rest of a text after those already taken; each takes at least one character.  A step
    that fails gives none of its tokens. -/
def run : Nat → Lexer → List Token
  | 0, l => l.settled ++ [.broken]
  | fuel + 1, l =>
    match l.fetch with
    | some next => if next.ended then next.tokens.reverse else run fuel next
    | none => l.settled ++ [.broken]

end Lexer

/-- The tokens of a text.  Where it stops being YAML, the last one is `broken`; a character that must not
    stand in YAML is noticed as soon as its portion of the text is reached. -/
def tokens (cs : List Char) : List Token :=
  let (cs, isWhole) := allowedPortions cs [] portionSize
  let cs := unifyBreaks cs
  Lexer.run (cs.length + 1) { rest := cs, isCut := !isWhole }

end ChainProvision.Yaml
