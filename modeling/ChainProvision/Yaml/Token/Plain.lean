import ChainProvision.Yaml.Token.Basic

/-!
# Plain scalars

A plain scalar ends at a colon or a comment that stands apart, at less indentation, at a document mark, and
within brackets at an indicator of theirs.  It may go on over lines.
-/

namespace ChainProvision.Yaml

/-- The end of a scalar: its text, what follows it, where that is, and whether a line ended in between. -/
structure ScalarEnd where
  text : String
  rest : List Char
  position : Position
  brokeLine : Bool := false

namespace Plain

/-- Whether a character is an indicator of flow collections. -/
def isFlowIndicator (c : Char) : Bool :=
  c == ',' || c == '[' || c == ']' || c == '\x7b' || c == '\x7d'

/-- Whether a plain scalar ends before a character that is not blank, seen with what follows it. -/
def isStop (inFlow : Bool) (c : Char) (rest : List Char) : Bool :=
  (c == ':' && endsWord rest) ||
    (inFlow && isFlowIndicator c)

/-- Whether a colon may not stand where it does within brackets. -/
def isStrayColon (inFlow : Bool) (c : Char) (rest : List Char) : Bool :=
  inFlow && c == ':' &&
    match rest with
    | d :: _ => isFlowIndicator d || d == '?'
    | [] => false

/-- Whether a plain scalar ends after a gap, before a character that is not blank. -/
def endsAtGap (inFlow : Bool) (indent : Nat) (gap : Gap) (p : Position) (c : Char) (rest : List Char) :
    Bool :=
  gap != .none && ((!inFlow && p.column < indent) || isDocumentMark p (c :: rest) || c == '#')

/-- Read on in a plain scalar of the given text, last character first, after a gap.  None if it cannot be
    read. -/
def read (inFlow : Bool) (indent : Nat) :
    List Char → List Char → Gap → Position → Option ScalarEnd
  | [], text, gap, p => some ⟨String.ofList text.reverse, [], p, gap.spansLines⟩
  | c :: rest, text, gap, p =>
    if isBlank c then
      if c = '\t' && gap.spansLines && p.column < indent then none
      else read inFlow indent rest text (gap.addBlank c) (p.next c)
    else if isBreak c then read inFlow indent rest text (gap.addBreak c) (p.next c)
    else if endsAtGap inFlow indent gap p c rest then
      some ⟨String.ofList text.reverse, c :: rest, p, gap.spansLines⟩
    else if isStrayColon inFlow c rest then none
    else if isStop inFlow c rest then
      some ⟨String.ofList text.reverse, c :: rest, p, gap.spansLines⟩
    else read inFlow indent rest (c :: (gap.reversedText ++ text)) .none (p.next c)

end Plain

end ChainProvision.Yaml
