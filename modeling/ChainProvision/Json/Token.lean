import ChainProvision.Json.Basic

/-!
# JSON tokens

A text is cut into tokens in one walk, each character taking the cutter from one `Position` to the
next.  A token `bad` marks the first place where the text is no sequence of tokens; nothing is read
after it.
-/

namespace ChainProvision.Json

/-- A token of JSON text. -/
inductive Token where
  | beginObject
  | endObject
  | beginArray
  | endArray
  | colon
  | comma
  | null
  | bool (b : Bool)
  | number (n : Number)
  | string (s : String)
  | garbled
  | bad
  deriving DecidableEq, Repr

/-- Where inside a number the cutter stands. -/
inductive NumeralPosition where
  /-- After a minus sign; a digit must follow. -/
  | sign
  /-- In the whole part.  Nothing but the number's only zero starts with one. -/
  | whole (negative : Bool) (n : Nat)
  /-- After the point; a digit must follow. -/
  | point (negative : Bool) (n : Nat)
  /-- In the fraction; its digits so far, last first. -/
  | fraction (negative : Bool) (n : Nat) (digits : List Nat)
  /-- After the `e`; a sign or a digit must follow. -/
  | power (n : Number)
  /-- After the sign of the power; a digit must follow. -/
  | powerSign (n : Number) (down : Bool)
  /-- In the power. -/
  | powerDigits (n : Number) (down : Bool) (p : Nat)
  deriving DecidableEq, Repr

/-- Where inside a quoted text the cutter stands. -/
inductive QuotePosition where
  /-- Between characters. -/
  | plain
  /-- After a backslash. -/
  | escape
  /-- Inside the digits of an escape: how many are left, and their value so far.  `high` is a high
      surrogate just before. -/
  | unicode (left : Nat) (value : Nat) (high : Option Nat)
  /-- After a high surrogate. -/
  | paired (high : Nat)
  /-- After a high surrogate and a backslash. -/
  | pairedEscape (high : Nat)
  deriving DecidableEq, Repr

/-- Where in the text the cutter stands. -/
inductive Position where
  | between
  /-- Inside a word, with the rest of the word and the token it makes. -/
  | word (rest : List Char) (token : Token)
  | numeral (p : NumeralPosition)
  /-- Inside quotes, with the characters so far, last first, and whether all were whole. -/
  | quote (p : QuotePosition) (chars : List Char) (garbled : Bool)
  | stopped
  deriving DecidableEq, Repr

/-- The four characters that JSON takes for space. -/
def isSpace (c : Char) : Bool :=
  c == ' ' || c == '\n' || c == '\t' || c == '\r'

/-- The number that ends at a position, if one can end there. -/
def NumeralPosition.finished? : NumeralPosition → Option Number
  | .sign => none
  | .whole negative n => some { negative := negative, whole := n }
  | .point _ _ => none
  | .fraction negative n digits =>
    some { negative := negative, whole := n, fraction := digits.reverse }
  | .power _ => none
  | .powerSign _ _ => none
  | .powerDigits n down p => some { n with power := some (if down then -(p : Int) else p) }

/-- The position after one more character of a number, if the character belongs to it. -/
def NumeralPosition.next? (p : NumeralPosition) (c : Char) : Option NumeralPosition :=
  let isE := c == 'e' || c == 'E'
  match p, Text.digit? c with
  | .sign, some d => some (.whole true d)
  | .whole negative n, some d => if n = 0 then none else some (.whole negative (n * 10 + d))
  | .whole negative n, none =>
    if c = '.' then some (.point negative n)
    else if isE then some (.power { negative := negative, whole := n })
    else none
  | .point negative n, some d => some (.fraction negative n [d])
  | .fraction negative n digits, some d => some (.fraction negative n (d :: digits))
  | .fraction negative n digits, none =>
    if isE then some (.power { negative := negative, whole := n, fraction := digits.reverse })
    else none
  | .power n, some d => some (.powerDigits n false d)
  | .power n, none =>
    if c = '+' then some (.powerSign n false) else if c = '-' then some (.powerSign n true) else none
  | .powerSign n down, some d => some (.powerDigits n down d)
  | .powerDigits n down p, some d => some (.powerDigits n down (p * 10 + d))
  | _, _ => none

/-- Whether a character straight after a number spoils it: a digit after a leading zero. -/
def NumeralPosition.isSpoiledBy (p : NumeralPosition) (c : Char) : Bool :=
  match p with
  | .whole _ _ => (Text.digit? c).isSome
  | _ => false

/-- The token, if any, and the position that a character gives between tokens. -/
def start (c : Char) : Option Token × Position :=
  if isSpace c then (none, .between)
  else if c = '"' then (none, .quote .plain [] false)
  else if c = '\x7b' then (some .beginObject, .between)
  else if c = '\x7d' then (some .endObject, .between)
  else if c = '[' then (some .beginArray, .between)
  else if c = ']' then (some .endArray, .between)
  else if c = ':' then (some .colon, .between)
  else if c = ',' then (some .comma, .between)
  else if c = 'n' then (none, .word ['u', 'l', 'l'] .null)
  else if c = 't' then (none, .word ['r', 'u', 'e'] (.bool true))
  else if c = 'f' then (none, .word ['a', 'l', 's', 'e'] (.bool false))
  else if c = '-' then (none, .numeral .sign)
  else
    match Text.digit? c with
    | some d => (none, .numeral (.whole false d))
    | none => (some .bad, .stopped)

/-- The value of a hexadecimal digit. -/
def hexDigit? (c : Char) : Option Nat :=
  if '0' ≤ c ∧ c ≤ '9' then some (c.toNat - 48)
  else if 'a' ≤ c ∧ c ≤ 'f' then some (c.toNat - 87)
  else if 'A' ≤ c ∧ c ≤ 'F' then some (c.toNat - 55)
  else none

/-- The character that a letter stands for after a backslash. -/
def escaped? (c : Char) : Option Char :=
  if c = '"' then some '"'
  else if c = '\\' then some '\\'
  else if c = '/' then some '/'
  else if c = 'b' then some '\x08'
  else if c = 'f' then some '\x0c'
  else if c = 'n' then some '\n'
  else if c = 'r' then some '\r'
  else if c = 't' then some '\t'
  else none

/-- Whether a number is the first half of a surrogate pair. -/
def isHighSurrogate (n : Nat) : Bool := 0xD800 ≤ n && n ≤ 0xDBFF

/-- Whether a number is the second half of a surrogate pair. -/
def isLowSurrogate (n : Nat) : Bool := 0xDC00 ≤ n && n ≤ 0xDFFF

/-- The position after the last digit of an escape. -/
def closeEscape (value : Nat) (high : Option Nat) (chars : List Char) (garbled : Bool) : Position :=
  match high with
  | some h =>
    if isLowSurrogate value then
      .quote .plain (Char.ofNat (0x10000 + (h - 0xD800) * 0x400 + (value - 0xDC00)) :: chars) garbled
    else .quote .plain chars true
  | none =>
    if isHighSurrogate value then .quote (.paired value) chars garbled
    else if isLowSurrogate value then .quote .plain chars true
    else .quote .plain (Char.ofNat value :: chars) garbled

/-- The token, if any, and the position that a character gives between the characters of a text. -/
def plainChar (c : Char) (chars : List Char) (garbled : Bool) : Option Token × Position :=
  if c = '"' then
    (some (if garbled then .garbled else .string (String.ofList chars.reverse)), .between)
  else if c = '\\' then (none, .quote .escape chars garbled)
  else if c.toNat < 32 then (some .bad, .stopped)
  else (none, .quote .plain (c :: chars) garbled)

/-- The token, if any, and the position that a character gives after a backslash. -/
def escapeChar? (c : Char) (chars : List Char) (garbled : Bool) : Option Token × Position :=
  if c = 'u' then (none, .quote (.unicode 4 0 none) chars garbled)
  else
    match escaped? c with
    | some e => (none, .quote .plain (e :: chars) garbled)
    | none => (some .bad, .stopped)

/-- The token, if any, and the position that a character gives inside quotes. -/
def quoteChar (p : QuotePosition) (chars : List Char) (garbled : Bool) (c : Char) :
    Option Token × Position :=
  match p with
  | .plain => plainChar c chars garbled
  | .escape => escapeChar? c chars garbled
  | .unicode left value high =>
    match hexDigit? c with
    | some d =>
      if left ≤ 1 then (none, closeEscape (value * 16 + d) high chars garbled)
      else (none, .quote (.unicode (left - 1) (value * 16 + d) high) chars garbled)
    | none => (some .bad, .stopped)
  | .paired high =>
    if c = '\\' then (none, .quote (.pairedEscape high) chars garbled) else plainChar c chars true
  | .pairedEscape high =>
    if c = 'u' then (none, .quote (.unicode 4 0 (some high)) chars garbled)
    else escapeChar? c chars true

/-- The tokens, at most two, and the position that one character gives. -/
def step (p : Position) (c : Char) : List Token × Position :=
  match p with
  | .between => let (t, q) := start c; (t.toList, q)
  | .word rest token =>
    match rest with
    | [d] => if c = d then ([token], .between) else ([.bad], .stopped)
    | d :: more => if c = d then ([], .word more token) else ([.bad], .stopped)
    | [] => ([.bad], .stopped)
  | .numeral n =>
    match n.next? c with
    | some next => ([], .numeral next)
    | none =>
      match n.finished? with
      | some done =>
        if n.isSpoiledBy c then ([.bad], .stopped)
        else let (t, q) := start c; (.number done :: t.toList, q)
      | none => ([.bad], .stopped)
  | .quote q read spoilt => let (t, q) := quoteChar q read spoilt c; (t.toList, q)
  | .stopped => ([], .stopped)

/-- The tokens that the end of the text gives. -/
def finish : Position → List Token
  | .between => []
  | .numeral n =>
    match n.finished? with
    | some done => [.number done]
    | none => [.bad]
  | .stopped => []
  | _ => [.bad]

/-- The tokens of a text from a position on. -/
def tokensFrom : Position → List Char → List Token
  | p, [] => finish p
  | p, c :: cs =>
    let (ts, q) := step p c
    ts ++ tokensFrom q cs

/-- The tokens of a text. -/
def tokens (cs : List Char) : List Token := tokensFrom .between cs

end ChainProvision.Json
