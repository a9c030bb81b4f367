import ChainProvision.Wire.Fields
import ChainProvision.Yaml.Node

/-!
# Reading YAML documents

A reading of a node follows the aliases that it meets, but only so many of them in one document: aliases of
aliases would otherwise make little text stand for any number of values.

## Main definitions

* `Reading`: what is read in a document, with the number of aliases followed;
* `target`: the node that an alias refers to;
* `hold`: taking in a node before it is known what it is to be.
-/

namespace ChainProvision.Yaml

/-- The greatest number of aliases that are followed in a document. -/
def Document.aliasLimit (d : Document) : Nat := 100 * d.root.extent

/-- Where a reading is done: the nodes that have an anchor, and the greatest number of aliases to follow. -/
structure Surroundings where
  anchored : List (Nat × Node)
  aliasLimit : Nat

/-- The surroundings of the nodes of a document. -/
def Document.surroundings (d : Document) : Surroundings := ⟨d.anchored, d.aliasLimit⟩

/-- A reading in a document.  Its state is the number of aliases that were followed. -/
abbrev Reading := ReaderT Surroundings (StateT Nat (Except Fault))

variable {α : Type}

/-- What a reading gives when no alias was followed before. -/
def Reading.result (r : Reading α) (s : Surroundings) : Except Fault α := ((r.run s).run 0).map (·.1)

/-- A reading that is done again, so that the aliases in it were counted already. -/
def Reading.again (r : Reading α) : Reading α := fun s followed => (r.result s).map (·, followed)

/-- The node itself, which for an alias is the node with its anchor. -/
def target : Node → Reading Node
  | .alias anchor => do
    let s ← read
    let followed ← get
    if s.aliasLimit ≤ followed then throw .malformed
    set (followed + 1)
    match s.anchored.lookup anchor with
    | some n => return n
    | none => throw .malformed
  | n => return n

/-! ## Holding nodes -/

/-- Whether a scalar can be held before it is known what it is to be. -/
def Scalar.isHoldable (s : Scalar) : Bool :=
  match s.meaning with
  | .wide => false
  | .variant => false
  | .unfit => false
  | _ => true

/-- Hold a node before it is known what it is to be, with collections nesting at most `depth` deep.  There is
    no holding of integers beyond 64 bits, of variants, and of values that their tags do not fit. -/
def hold : Nat → Node → Reading Unit
  | depth, n => do
    match ← target n, depth with
    | .scalar s, _ => if s.isHoldable then return else throw .malformed
    | .sequence tag items, depth + 1 =>
      if tag.any Tag.isVariant then throw .malformed else items.forM (hold depth)
    | .mapping tag pairs, depth + 1 =>
      if tag.any Tag.isVariant then throw .malformed
      else
        pairs.forM fun (k, v) => do
          hold depth k
          hold depth v
    | _, _ => throw .malformed

end ChainProvision.Yaml
