import ChainProvision.Yaml.Token.Basic

/-!
# Tags as written

A tag is written in full between angle brackets, or as a suffix after a handle that stands for its first
part.  Characters may be escaped as in a URI, by the bytes of their encoding, which have to fit together in
number but need not make a character.

## Main definitions

* `readUri`: the bytes at the start of a text;
* `readTag`: the tag at the start of a text.
-/

namespace ChainProvision.Yaml

/-- The characters of names: of anchors, handles and directives. -/
def isNameChar (c : Char) : Bool := c.isAlphanum || c == '-' || c == '_'

/-- The characters of a tag besides escapes. -/
def isUriChar (verbatim : Bool) (c : Char) : Bool :=
  isNameChar c ||
    c ∈ [';', '/', '?', ':', '@', '&', '=', '+', '$', '.', '!', '~', '*', '\'', '(', ')'] ||
    (verbatim && c ∈ [',', '[', ']'])

/-- The byte of two hexadecimal digits. -/
def escapedByte? (high low : Char) : Option UInt8 :=
  match Hex.digit? high, Hex.digit? low with
  | some h, some l => some (UInt8.ofNat (h.val * 16 + l.val))
  | _, _ => none

/-- The number of bytes that a character still has after `byte`, if it had `left` before it.  None if `byte`
    cannot stand there. -/
def bytesLeft? (left : Nat) (byte : UInt8) : Option Nat :=
  let b := byte.toNat
  match left with
  | 0 =>
    if b < 0x80 then some 0
    else if b < 0xC0 then none
    else if b < 0xE0 then some 1
    else if b < 0xF0 then some 2
    else if b < 0xF8 then some 3
    else none
  | left + 1 => if 0x80 ≤ b ∧ b < 0xC0 then some left else none

/-- The bytes of the tag characters at the start of a text, and what follows them; `left` bytes of an escaped
    character are still to come.  None if an escape is not complete. -/
def readUri (verbatim : Bool) : Nat → List Char → Option (List UInt8 × List Char)
  | left, [] => if left = 0 then some ([], []) else none
  | left, c :: rest =>
    if c = '%' then
      match rest with
      | high :: low :: after =>
        match escapedByte? high low with
        | none => none
        | some byte =>
          match bytesLeft? left byte with
          | none => none
          | some left => (readUri verbatim left after).map fun (bytes, after) => (byte :: bytes, after)
      | _ => none
    else if left ≠ 0 then none
    else if isUriChar verbatim c then
      (readUri verbatim 0 rest).map fun (bytes, after) => (UInt8.ofNat c.toNat :: bytes, after)
    else some ([], c :: rest)

/-- The bytes before the first zero, where a tag ends. -/
def beforeZero (bytes : List UInt8) : List UInt8 := bytes.takeWhile fun b => b.toNat != 0

/-- The bytes of at least one tag character, and what follows them. -/
def readSomeUri (verbatim : Bool) (cs : List Char) : Option (List UInt8 × List Char) :=
  match readUri verbatim 0 cs with
  | some ([], _) => none
  | some (bytes, after) => some (beforeZero bytes, after)
  | none => none

/-- The tag at the start of a text, and what follows it.  An exclamation mark alone is a tag in full. -/
def readTag (cs : List Char) : Option (TagName × List Char) :=
  match cs with
  | '!' :: '<' :: rest =>
    match readSomeUri true rest with
    | some (bytes, '>' :: after) => some (⟨none, bytes⟩, after)
    | _ => none
  | '!' :: rest =>
    let name := rest.takeWhile isNameChar
    match rest.drop name.length with
    | '!' :: after =>
      (readSomeUri false after).map fun (bytes, after) =>
        (⟨some (String.ofList ('!' :: name ++ ['!'])), bytes⟩, after)
    | _ =>
      (readUri false 0 rest).map fun (bytes, after) =>
        let suffix := beforeZero bytes
        (if suffix.isEmpty then ⟨none, Tag.localPart⟩ else ⟨some "!", suffix⟩, after)
  | _ => none

end ChainProvision.Yaml
