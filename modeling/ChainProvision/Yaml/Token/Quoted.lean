import ChainProvision.Yaml.Token.Plain

/-!
# Quoted scalars

Between single quotes only the quote itself is special, and written twice; between double quotes a backslash
begins an escape.  Both may go on over lines, which are folded, but not over a document mark.
-/

namespace ChainProvision.Yaml.Quoted

/-- The characters that a backslash and one character stand for. -/
def simpleEscape? : Char → Option Char
  | '0' => some '\x00'
  | 'a' => some '\x07'
  | 'b' => some '\x08'
  | 't' => some '\t'
  | '\t' => some '\t'
  | 'n' => some '\n'
  | 'v' => some '\x0b'
  | 'f' => some '\x0c'
  | 'r' => some '\r'
  | 'e' => some '\x1b'
  | ' ' => some ' '
  | '"' => some '"'
  | '/' => some '/'
  | '\\' => some '\\'
  | 'N' => some '\u0085'
  | '_' => some '\u00a0'
  | 'L' => some '\u2028'
  | 'P' => some '\u2029'
  | _ => none

/-- The number of hexadecimal digits in an escape that gives a character's number. -/
def escapeDigits? : Char → Option Nat
  | 'x' => some 2
  | 'u' => some 4
  | 'U' => some 8
  | _ => none

/-- The character with a number. -/
def charOf? (n : Nat) : Option Char :=
  if n < 0xD800 ∨ (0xDFFF < n ∧ n < 0x110000) then some (Char.ofNat n) else none

/-- What is being read within quotes. -/
inductive Stage where
  | text
  /-- A character after a quote in single quotes. -/
  | quote
  /-- A character after a backslash. -/
  | escape
  /-- The digits of a character's number. -/
  | number (left : Nat) (n : Nat)
  deriving DecidableEq, Repr

/-- Read on within quotes, having the given text, last character first, and after it a gap.  None if the
    closing quote is missing or an escape cannot be read. -/
def read (single : Bool) :
    List Char → List Char → Gap → Stage → Position → Option ScalarEnd
  | [], text, gap, stage, p =>
    if stage = .quote then some ⟨String.ofList (gap.reversedText ++ text).reverse, [], p, false⟩
    else none
  | c :: rest, text, gap, stage, p =>
    match stage with
    | .text =>
      if isBlank c then read single rest text (gap.addBlank c) .text (p.next c)
      else if isBreak c then read single rest text (gap.addBreak c) .text (p.next c)
      else if isDocumentMark p (c :: rest) then none
      else if single then
        if c = '\'' then read single rest text gap .quote (p.next c)
        else read single rest (c :: (gap.reversedText ++ text)) .none .text (p.next c)
      else if c = '"' then
        some ⟨String.ofList (gap.reversedText ++ text).reverse, rest, p.next c, false⟩
      else if c = '\\' then read single rest (gap.reversedText ++ text) .none .escape (p.next c)
      else read single rest (c :: (gap.reversedText ++ text)) .none .text (p.next c)
    | .quote =>
      if c = '\'' then read single rest ('\'' :: (gap.reversedText ++ text)) .none .text (p.next c)
      else some ⟨String.ofList (gap.reversedText ++ text).reverse, c :: rest, p, false⟩
    | .escape =>
      if isBreak c then read single rest text (.breaks [] []) .text (p.next c)
      else
        match simpleEscape? c, escapeDigits? c with
        | some d, _ => read single rest (d :: text) .none .text (p.next c)
        | none, some digits => read single rest text .none (.number digits 0) (p.next c)
        | none, none => none
    | .number left n =>
      match digitIn? 16 c with
      | none => none
      | some d =>
        let n := n * 16 + d
        if left ≤ 1 then
          match charOf? n with
          | some d => read single rest (d :: text) .none .text (p.next c)
          | none => none
        else read single rest text .none (.number (left - 1) n) (p.next c)

end ChainProvision.Yaml.Quoted
