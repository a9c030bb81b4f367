/-!
# Reading UTF-8

Bytes that claim to be text need not be well-formed.  Reading goes on after an ill-formed part, which is as
long as it could still have become a character: a byte that starts something else is read anew.

## Main definitions

* `Utf8.read`: the characters of bytes, with a gap for each ill-formed part;
* `Utf8.lossy`: the text with a replacement character for each gap.
-/

namespace ChainProvision.Utf8

/-- A character of which some bytes are still to come: the bits so far, and the ranges of the bytes that may
    follow. -/
structure Partial where
  bits : Nat
  next : Nat × Nat
  later : List (Nat × Nat) := []

/-- What comes of a byte. -/
inductive Step where
  | char (c : Char)
  | more (p : Partial)
  | gap

/-- The range of bytes that continue a character. -/
def continuation : Nat × Nat := (0x80, 0xBF)

/-- What comes of the first byte of a character.  The ranges of second bytes leave out overlong forms,
    surrogates and what lies beyond the last code point. -/
def start (byte : UInt8) : Step :=
  let b := byte.toNat
  if b < 0x80 then .char (Char.ofNat b)
  else if b < 0xC2 then .gap
  else if b < 0xE0 then .more ⟨b - 0xC0, continuation, []⟩
  else if b < 0xF0 then
    let second := if b = 0xE0 then (0xA0, 0xBF) else if b = 0xED then (0x80, 0x9F) else continuation
    .more ⟨b - 0xE0, second, [continuation]⟩
  else if b < 0xF5 then
    let second := if b = 0xF0 then (0x90, 0xBF) else if b = 0xF4 then (0x80, 0x8F) else continuation
    .more ⟨b - 0xF0, second, [continuation, continuation]⟩
  else .gap

/-- What comes of a later byte of a character; a gap if it cannot follow. -/
def Partial.step (p : Partial) (byte : UInt8) : Step :=
  let b := byte.toNat
  if p.next.1 ≤ b ∧ b ≤ p.next.2 then
    let bits := p.bits * 64 + (b - 0x80)
    match p.later with
    | [] => .char (Char.ofNat bits)
    | next :: later => .more ⟨bits, next, later⟩
  else .gap

/-- The characters of bytes after a part of a character, with a gap for each ill-formed part. -/
def readFrom : Option Partial → List UInt8 → List (Option Char)
  | none, [] => []
  | some _, [] => [none]
  | none, b :: bs =>
    match start b with
    | .char c => some c :: readFrom none bs
    | .more p => readFrom (some p) bs
    | .gap => none :: readFrom none bs
  | some p, b :: bs =>
    match p.step b with
    | .char c => some c :: readFrom none bs
    | .more q => readFrom (some q) bs
    | .gap =>
      none ::
        match start b with
        | .char c => some c :: readFrom none bs
        | .more q => readFrom (some q) bs
        | .gap => none :: readFrom none bs

/-- The characters of bytes, with a gap for each ill-formed part. -/
def read (bytes : List UInt8) : List (Option Char) := readFrom none bytes

/-- The characters of bytes, with a replacement character for each ill-formed part. -/
def lossy (bytes : List UInt8) : List Char := (read bytes).map fun c => c.getD '\ufffd'

end ChainProvision.Utf8
