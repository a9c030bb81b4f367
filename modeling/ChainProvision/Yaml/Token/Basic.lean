import ChainProvision.Yaml.Position
import ChainProvision.Yaml.Scalar

/-!
# YAML tokens

The words of YAML text: indicators, scalars, properties of nodes, and the marks that indentation stands for.
-/

namespace ChainProvision.Yaml

/-- A tag as written: a handle and the bytes after it.  A tag in full has no handle. -/
structure TagName where
  handle : Option String
  suffix : List UInt8
  deriving DecidableEq, Repr

/-- A word of YAML text. -/
inductive Token where
  | versionDirective (major minor : Nat)
  | tagDirective (handle : String) (meaning : List UInt8)
  | documentStart
  | documentEnd
  | blockSequenceStart
  | blockMappingStart
  | blockEnd
  | flowSequenceStart
  | flowSequenceEnd
  | flowMappingStart
  | flowMappingEnd
  | blockEntry
  | flowEntry
  | key
  | value
  | anchor (name : String)
  | alias (name : String)
  | tag (name : TagName)
  | scalar (text : String) (style : Style)
  | streamEnd
  /-- Here the text stops being YAML. -/
  | broken
  deriving DecidableEq, Repr

/-- What lies between the words of a scalar that goes on: blanks, or line breaks with blanks around them. -/
inductive Gap where
  | none
  /-- The blanks, last first. -/
  | blanks (reversed : List Char)
  /-- The first line break, which is empty if it was escaped, and those after it, last first. -/
  | breaks (first : List Char) (moreReversed : List Char)
  deriving DecidableEq, Repr

namespace Gap

/-- The gap after one more blank.  Blanks next to line breaks do not count. -/
def addBlank (g : Gap) (c : Char) : Gap :=
  match g with
  | .none => .blanks [c]
  | .blanks cs => .blanks (c :: cs)
  | .breaks first more => .breaks first more

/-- The gap after one more line break. -/
def addBreak (g : Gap) (c : Char) : Gap :=
  match g with
  | .breaks first more => .breaks first (c :: more)
  | _ => .breaks [c] []

/-- Whether a gap spans lines. -/
def spansLines : Gap → Bool
  | .breaks _ _ => true
  | _ => false

/-- What a gap becomes in the scalar, last character first: a single line break becomes a space, and of
    several the first is dropped. -/
def reversedText : Gap → List Char
  | .none => []
  | .blanks cs => cs
  | .breaks ['\n'] [] => [' ']
  | .breaks ['\n'] more => more
  | .breaks first more => more ++ first

end Gap

end ChainProvision.Yaml
