import ChainProvision.Text.Utf8

/-!
# YAML tags

A tag names the type of a node.  Escapes in it may give any bytes, so a tag is kept as bytes and need not be
text.  The common types have tags of their own; a local tag, which begins with an exclamation mark, picks a
variant of something.

## Main definitions

* `Tag`: a tag in full;
* `Tag.core`: the tag of a common type;
* `Tag.isVariant`: the tags that pick a variant.
-/

namespace ChainProvision.Yaml

/-- A tag in full. -/
structure Tag where
  bytes : List UInt8
  deriving DecidableEq, Repr

namespace Tag

/-- The bytes of ASCII characters. -/
def asciiBytes (cs : List Char) : List UInt8 := cs.map fun c => UInt8.ofNat c.toNat

/-- The bytes that the tags of the common types begin with. -/
def corePart : List UInt8 := asciiBytes "tag:yaml.org,2002:".toList

/-- The tag of the common type with a name. -/
def core (type : String) : Tag := ⟨corePart ++ asciiBytes type.toList⟩

/-- The bytes that local tags begin with. -/
def localPart : List UInt8 := asciiBytes ['!']

/-- The tag that does not tell a type. -/
def nonSpecific : Tag := ⟨localPart⟩

/-- Whether a tag is local. -/
def isLocal (t : Tag) : Bool := localPart.isPrefixOf t.bytes

/-- Whether a tag picks a variant: it is local and it is text. -/
def isVariant (t : Tag) : Bool := t.isLocal && (Utf8.read t.bytes).all Option.isSome

end Tag

end ChainProvision.Yaml
