/-!
# Positions in YAML text

YAML tells structure by lines and columns.  A text is prepared before it is read: it is looked through for
characters that must not stand in YAML, and the usual line breaks become line feeds.
-/

namespace ChainProvision.Yaml

/-- A place in a text: the column, the line, and the number of bytes before it. -/
structure Position where
  column : Nat := 0
  line : Nat := 0
  index : Nat := 0
  deriving DecidableEq, Repr

/-- Whether a character ends a line. -/
def isBreak (c : Char) : Bool := c == '\n' || c == '\u2028' || c == '\u2029'

/-- Whether a character is a blank within a line. -/
def isBlank (c : Char) : Bool := c == ' ' || c == '\t'

/-- Whether a text is at its end, or goes on with a blank or the end of a line. -/
def endsWord : List Char → Bool
  | [] => true
  | c :: _ => isBlank c || isBreak c

/-- Whether a text is at its end or at the end of a line. -/
def endsLine : List Char → Bool
  | [] => true
  | c :: _ => isBreak c

/-- The position after a character. -/
def Position.next (p : Position) (c : Char) : Position :=
  if isBreak c then ⟨0, p.line + 1, p.index + c.utf8Size⟩
  else ⟨p.column + 1, p.line, p.index + c.utf8Size⟩

/-- The position `n` characters on in the same line, all of them of one byte. -/
def Position.skip (p : Position) (n : Nat) : Position := ⟨p.column + n, p.line, p.index + n⟩

/-- The position at the start of a line: the next one, unless a line starts here. -/
def Position.newLine (p : Position) : Position :=
  if p.column = 0 then p else ⟨0, p.line + 1, p.index⟩

/-- Whether a line starts with the mark that begins or ends a document. -/
def isMark (mark : Char) (rest : List Char) : Bool :=
  match rest with
  | a :: b :: c :: after => a == mark && b == mark && c == mark && endsWord after
  | _ => false

/-- Whether a document begins or ends at a place. -/
def isDocumentMark (p : Position) (rest : List Char) : Bool :=
  p.column == 0 && (isMark '-' rest || isMark '.' rest)

/-- The mark of the byte order, which counts as a blank at the start of a line. -/
def byteOrderMark : Char := '\uFEFF'

/-! ## Preparation -/

/-- A text with line feeds in place of the other usual line breaks. -/
def unifyBreaks : List Char → List Char
  | [] => []
  | '\r' :: '\n' :: rest => '\n' :: unifyBreaks rest
  | c :: rest => (if c = '\r' ∨ c = '\u0085' then '\n' else c) :: unifyBreaks rest

/-- Whether a character may stand in YAML text. -/
def isAllowed (c : Char) : Bool :=
  let n := c.toNat
  n == 0x09 || n == 0x0A || n == 0x0D || (0x20 ≤ n && n ≤ 0x7E) || n == 0x85 ||
    (0xA0 ≤ n && n ≤ 0xFFFD) || 0x10000 ≤ n

/-- The size in bytes of the portions in which a text is looked through. -/
def portionSize : Nat := 16384

/-- The portions of a text before the first that holds a character that must not stand in YAML, and whether
    there is none.  The present portion so far is given with its last character first, and the room that is
    left in it in bytes. -/
def allowedPortions : List Char → List Char → Nat → List Char × Bool
  | [], portion, _ => (portion.reverse, true)
  | c :: rest, portion, room =>
    if c.utf8Size ≤ room then
      if isAllowed c then allowedPortions rest (c :: portion) (room - c.utf8Size) else ([], false)
    else if isAllowed c then
      let (later, isWhole) := allowedPortions rest [c] (portionSize - c.utf8Size)
      (portion.reverse ++ later, isWhole)
    else (portion.reverse, false)

end ChainProvision.Yaml
