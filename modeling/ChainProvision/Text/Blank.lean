/-!
# Blank characters and trimming

Text that people type or operators send is trimmed before it is read.  A character is blank when it
has the Unicode property White_Space, so a no-break space or an ideographic space is trimmed like an
ordinary one, and a zero-width space is not.
-/

namespace ChainProvision.Text

/-- The Unicode property White_Space. -/
def isBlank (c : Char) : Bool :=
  let n := c.toNat
  (9 ≤ n && n ≤ 13) || n == 0x20 || n == 0x85 || n == 0xA0 || n == 0x1680 ||
    (0x2000 ≤ n && n ≤ 0x200A) || n == 0x2028 || n == 0x2029 || n == 0x202F || n == 0x205F ||
    n == 0x3000

/-- The characters without the ones at either end that satisfy `p`. -/
def stripBy (p : Char → Bool) (cs : List Char) : List Char :=
  ((cs.dropWhile p).reverse.dropWhile p).reverse

/-- The characters without blanks at either end. -/
def strip (cs : List Char) : List Char :=
  stripBy isBlank cs

/-- A text without blanks at either end. -/
def trim (s : String) : String :=
  String.ofList (strip s.toList)

/-- A text without the characters at its end that satisfy `p`. -/
def dropTrailing (p : Char → Bool) (s : String) : String :=
  String.ofList (s.toList.reverse.dropWhile p).reverse

/-- A text without the characters at its start that satisfy `p`. -/
def dropLeading (p : Char → Bool) (s : String) : String :=
  String.ofList (s.toList.dropWhile p)

/-- Whether nothing is left of a text after trimming. -/
def isBlankText (s : String) : Bool :=
  s.toList.all isBlank

end ChainProvision.Text
