import ChainProvision.Yaml.Token.Lexer

/-!
# YAML nodes

The value that YAML text gives.  Where the text stops being YAML, the collections that are still open are
closed around a `broken` node, so that everything before that place is kept and a reader of fields can report
what it meets first.  An alias stays an alias: it may stand inside the node that it refers to.

Anchors are numbered.  A name gets as its number the count of the names before it, and a name that is used
again is counted along, so two names can come to share a number; what counts is then the later node.

## Main definitions

* `Node`: the values;
* `Composer`: the tokens still to be read, with the anchors so far;
* `Document`, `parse`: the first document of a text, and whether it is the only one.
-/

namespace ChainProvision.Yaml

/-- A value in YAML. -/
inductive Node where
  | scalar (s : Scalar)
  | sequence (tag : Option Tag) (items : List Node)
  | mapping (tag : Option Tag) (pairs : List (Node × Node))
  /-- Another node, by the number of its anchor. -/
  | alias (anchor : Nat)
  | broken

namespace Node

/-- The scalar that stands where nothing is written. -/
def empty : Node := .scalar ⟨"", .plain, none⟩

/-- Whether a node stands where the text stops being YAML. -/
def isBroken : Node → Bool
  | .broken => true
  | _ => false

mutual

/-- Whether the text of a node was YAML throughout. -/
def isWhole : Node → Bool
  | .sequence _ items => itemsWhole items
  | .mapping _ pairs => pairsWhole pairs
  | .broken => false
  | _ => true

/-- Whether the text of every item was YAML throughout. -/
def itemsWhole : List Node → Bool
  | [] => true
  | n :: rest => isWhole n && itemsWhole rest

/-- Whether the text of every pair was YAML throughout. -/
def pairsWhole : List (Node × Node) → Bool
  | [] => true
  | (k, v) :: rest => isWhole k && isWhole v && pairsWhole rest

end

mutual

/-- The number of marks that make a node: one for a scalar or an alias, one for the beginning of a collection
    and one for its end. -/
def extent : Node → Nat
  | .sequence _ items => (if itemsWhole items then 2 else 1) + itemsExtent items
  | .mapping _ pairs => (if pairsWhole pairs then 2 else 1) + pairsExtent pairs
  | .broken => 0
  | _ => 1

/-- The number of marks that make the items. -/
def itemsExtent : List Node → Nat
  | [] => 0
  | n :: rest => extent n + itemsExtent rest

/-- The number of marks that make the pairs. -/
def pairsExtent : List (Node × Node) → Nat
  | [] => 0
  | (k, v) :: rest => extent k + extent v + pairsExtent rest

end

end Node

/-- The tokens still to be read, with what was declared before them. -/
structure Composer where
  tokens : List Token
  /-- The names of anchors with their numbers. -/
  names : List (String × Nat) := []
  /-- The nodes that have an anchor, by its number; the one that began last comes first. -/
  anchored : List (Nat × Node) := []
  /-- The handles of tags and the bytes that they stand for. -/
  handles : List (String × List UInt8) := [("!", Tag.localPart), ("!!", Tag.corePart)]

namespace Composer

/-- The composer at a place where the text is not YAML. -/
def stop (c : Composer) : Composer := { c with tokens := [.broken] }

/-- The composer with other tokens to come. -/
def before (c : Composer) (tokens : List Token) : Composer := { c with tokens }

/-- Whether the text stops being YAML at the present token. -/
def isStopped (c : Composer) : Bool := c.tokens.head? == some .broken

/-- The composer with an anchor whose node is about to be read. -/
def openAnchor (c : Composer) : Option String → Composer
  | some name =>
    let number := c.names.length
    { c with
      names := (name, number) :: c.names.filter fun other => other.1 != name
      anchored := (number, .broken) :: c.anchored }
  | none => c

/-- The composer after the node was read that began when `before` nodes had an anchor. -/
def closeAnchor (c : Composer) (before : Nat) (n : Node) : Composer :=
  { c with anchored := c.anchored.modify (c.anchored.length - 1 - before) fun entry => (entry.1, n) }

/-- The properties in front of a node: its anchor and its tag, in either order. -/
def properties : List Token → Option String × Option TagName × List Token
  | .anchor name :: .tag tag :: rest => (some name, some tag, rest)
  | .anchor name :: rest => (some name, none, rest)
  | .tag tag :: .anchor name :: rest => (some name, some tag, rest)
  | .tag tag :: rest => (none, some tag, rest)
  | rest => (none, none, rest)

/-- A tag in full.  None if its handle was not declared. -/
def resolve (c : Composer) (t : TagName) : Option Tag :=
  match t.handle with
  | none => some ⟨t.suffix⟩
  | some handle => (c.handles.lookup handle).map fun start => ⟨start ++ t.suffix⟩

/-- Whether a token ends an entry of a block mapping, so that nothing is written there. -/
def endsBlockEntry : Token → Bool
  | .key => true
  | .value => true
  | .blockEnd => true
  | _ => false

/-- Whether a token ends an entry of a collection in brackets. -/
def endsFlowEntry (closing : Token) (t : Token) : Bool := t == .flowEntry || t == closing

/-- Whether a token ends a key in brackets. -/
def endsFlowKey (closing : Token) (t : Token) : Bool := t == .value || endsFlowEntry closing t

/-- The only pair of a mapping, and after it where the text stops being YAML, if it does so there. -/
def onlyPair (c : Composer) (k v : Node) : List (Node × Node) :=
  if c.isStopped then [(k, v), (.broken, .broken)] else [(k, v)]

mutual

/-- The node at the present token, and the composer after it.  `inBlock` tells whether block collections may
    stand there, and `hyphens` whether the entries of a sequence may stand there on their own. -/
def node : Nat → Bool → Bool → Composer → Node × Composer
  | 0, _, _, c => (.broken, c.stop)
  | fuel + 1, inBlock, hyphens, c =>
    match c.tokens with
    | .alias name :: rest =>
      match c.names.lookup name with
      | some number => (.alias number, c.before rest)
      | none => (.broken, c.stop)
    | ts =>
      let (anchor, tagName, rest) := properties ts
      match tagName.map c.resolve with
      | some none => (.broken, c.stop)
      | resolved =>
        let (n, after) := content fuel inBlock hyphens (anchor.isSome || tagName.isSome) resolved.join
          ((c.openAnchor anchor).before rest)
        if n.isBroken then (n, c.stop)
        else (n, if anchor.isSome then after.closeAnchor c.anchored.length n else after)

/-- The content of a node after its properties.  On a scalar with content, the tag that tells no type is as
    good as none. -/
def content : Nat → Bool → Bool → Bool → Option Tag → Composer → Node × Composer
  | 0, _, _, _, _, c => (.broken, c.stop)
  | fuel + 1, inBlock, hyphens, hasProperties, tag, c =>
    match c.tokens with
    | .scalar text style :: rest =>
      (.scalar ⟨text, style, if tag = some .nonSpecific then none else tag⟩, c.before rest)
    | .flowSequenceStart :: rest =>
      let (items, c) := flowItems fuel true (c.before rest)
      (.sequence tag items, c)
    | .flowMappingStart :: rest =>
      let (pairs, c) := flowPairs fuel true (c.before rest)
      (.mapping tag pairs, c)
    | t :: rest =>
      if t = .blockEntry ∧ hyphens then
        let (items, c) := hyphenItems fuel c
        (.sequence tag items, c)
      else if t = .blockSequenceStart ∧ inBlock then
        let (items, c) := blockItems fuel (c.before rest)
        (.sequence tag items, c)
      else if t = .blockMappingStart ∧ inBlock then
        let (pairs, c) := blockPairs fuel (c.before rest)
        (.mapping tag pairs, c)
      else if hasProperties ∧ t ≠ .broken then (.scalar ⟨"", .plain, tag⟩, c)
      else (.broken, c.stop)
    | [] => (.broken, c.stop)

/-- The items of a block sequence up to its end. -/
def blockItems : Nat → Composer → List Node × Composer
  | 0, c => ([.broken], c.stop)
  | fuel + 1, c =>
    match c.tokens with
    | .blockEntry :: rest =>
      let (n, c) :=
        match rest with
        | .blockEntry :: _ => (Node.empty, c.before rest)
        | .blockEnd :: _ => (Node.empty, c.before rest)
        | _ => node fuel true false (c.before rest)
      let (ns, c) := blockItems fuel c
      (n :: ns, c)
    | .blockEnd :: rest => ([], c.before rest)
    | _ => ([.broken], c.stop)

/-- The items of a sequence that is not indented further than its mapping. -/
def hyphenItems : Nat → Composer → List Node × Composer
  | 0, c => ([.broken], c.stop)
  | fuel + 1, c =>
    match c.tokens with
    | .blockEntry :: rest =>
      let isEmpty : Bool :=
        match rest with
        | t :: _ => t == .blockEntry || endsBlockEntry t
        | [] => false
      let (n, c) := if isEmpty then (Node.empty, c.before rest) else node fuel true false (c.before rest)
      let (ns, c) := hyphenItems fuel c
      (n :: ns, c)
    | .broken :: _ => ([.broken], c)
    | _ => ([], c)

/-- A node of a block mapping, which may be missing. -/
def blockPart : Nat → Composer → Node × Composer
  | 0, c => (.broken, c.stop)
  | fuel + 1, c =>
    match c.tokens with
    | t :: _ => if endsBlockEntry t then (.empty, c) else node fuel true true c
    | [] => (.broken, c.stop)

/-- The pairs of a block mapping up to its end. -/
def blockPairs : Nat → Composer → List (Node × Node) × Composer
  | 0, c => ([(.broken, .broken)], c.stop)
  | fuel + 1, c =>
    match c.tokens with
    | .key :: rest =>
      let (k, c) := blockPart fuel (c.before rest)
      let (v, c) :=
        match c.tokens with
        | .value :: rest => blockPart fuel (c.before rest)
        | .broken :: _ => (.broken, c)
        | _ => (.empty, c)
      let (pairs, c) := blockPairs fuel c
      ((k, v) :: pairs, c)
    | .blockEnd :: rest => ([], c.before rest)
    | _ => ([(.broken, .broken)], c.stop)

/-- A node between brackets, which is missing before some tokens. -/
def flowPart : Nat → (Token → Bool) → Composer → Node × Composer
  | 0, _, c => (.broken, c.stop)
  | fuel + 1, isMissing, c =>
    match c.tokens with
    | t :: _ => if isMissing t then (.empty, c) else node fuel false false c
    | [] => (.broken, c.stop)

/-- The value after a key between brackets, which may be missing. -/
def flowValue : Nat → Token → Composer → Node × Composer
  | 0, _, c => (.broken, c.stop)
  | fuel + 1, closing, c =>
    match c.tokens with
    | .value :: rest => flowPart fuel (endsFlowEntry closing) (c.before rest)
    | .broken :: _ => (.broken, c)
    | _ => (.empty, c)

/-- The items of a sequence in brackets up to its end; a comma has to come before all but the first. -/
def flowItems : Nat → Bool → Composer → List Node × Composer
  | 0, _, c => ([.broken], c.stop)
  | fuel + 1, isFirst, c =>
    match c.tokens with
    | .flowSequenceEnd :: rest => ([], c.before rest)
    | ts =>
      match isFirst, ts with
      | false, .flowEntry :: .flowSequenceEnd :: rest => ([], c.before rest)
      | false, .flowEntry :: rest => flowItem fuel (c.before rest)
      | true, _ => flowItem fuel c
      | false, _ => ([.broken], c.stop)

/-- An item of a sequence in brackets, and those after it.  A key there makes a mapping of one pair; if the
    key is missing, so is the token that ends it. -/
def flowItem : Nat → Composer → List Node × Composer
  | 0, c => ([.broken], c.stop)
  | fuel + 1, c =>
    match c.tokens with
    | .key :: rest =>
      let (k, c) : Node × Composer :=
        match rest with
        | t :: after =>
          if endsFlowKey .flowSequenceEnd t then (.empty, c.before after)
          else node fuel false false (c.before rest)
        | [] => (.broken, c.stop)
      let (v, c) := flowValue fuel .flowSequenceEnd c
      let pairs := c.onlyPair k v
      let (ns, c) := flowItems fuel false c
      (.mapping none pairs :: ns, c)
    | _ =>
      let (n, c) := node fuel false false c
      let (ns, c) := flowItems fuel false c
      (n :: ns, c)

/-- The pairs of a mapping in brackets up to its end; a comma has to come before all but the first. -/
def flowPairs : Nat → Bool → Composer → List (Node × Node) × Composer
  | 0, _, c => ([(.broken, .broken)], c.stop)
  | fuel + 1, isFirst, c =>
    match c.tokens with
    | .flowMappingEnd :: rest => ([], c.before rest)
    | ts =>
      match isFirst, ts with
      | false, .flowEntry :: .flowMappingEnd :: rest => ([], c.before rest)
      | false, .flowEntry :: rest => flowPair fuel (c.before rest)
      | true, _ => flowPair fuel c
      | false, _ => ([(.broken, .broken)], c.stop)

/-- A pair of a mapping in brackets, and those after it.  A node on its own is a key without a value. -/
def flowPair : Nat → Composer → List (Node × Node) × Composer
  | 0, c => ([(.broken, .broken)], c.stop)
  | fuel + 1, c =>
    match c.tokens with
    | .key :: rest =>
      let (k, c) := flowPart fuel (endsFlowKey .flowMappingEnd) (c.before rest)
      let (v, c) := flowValue fuel .flowMappingEnd c
      let (pairs, c) := flowPairs fuel false c
      ((k, v) :: pairs, c)
    | _ =>
      let (k, c) := node fuel false false c
      let v := if c.isStopped then Node.broken else .empty
      let (pairs, c) := flowPairs fuel false c
      ((k, v) :: pairs, c)

end

/-- The composer after the directives of a document.  A version that is not known, a second version and a
    handle declared twice are not YAML. -/
def directives : List Token → Bool → List (String × List UInt8) →
    Option (List (String × List UInt8) × List Token)
  | .versionDirective major minor :: rest, seen, handles =>
    if seen || major ≠ 1 || (minor ≠ 1 && minor ≠ 2) then none else directives rest true handles
  | .tagDirective handle meaning :: rest, seen, handles =>
    if handles.any fun h => h.1 == handle then none
    else directives rest seen (handles ++ [(handle, meaning)])
  | rest, _, handles => some (handles, rest)

end Composer

/-- A document: its outermost node, the nodes that have an anchor by its number, the newest first, and whether
    nothing else follows it. -/
structure Document where
  root : Node
  anchored : List (Nat × Node) := []
  isComplete : Bool

namespace Document

/-- A bound for the calls that it takes to read tokens: each call takes a token or leads to one that does. -/
def composing (ts : List Token) : Nat := 4 * ts.length + 4

/-- Whether nothing but the end of the text follows a document. -/
def isEnd (ts : List Token) : Bool :=
  ts.dropWhile (· == .documentEnd) == [.streamEnd]

/-- A document whose content begins at the given tokens. -/
def ofContent (handles : List (String × List UInt8)) (ts : List Token) : Document :=
  let standard := ({ tokens := [] } : Composer).handles
  let composer : Composer := {
    tokens := ts
    handles := handles ++ standard.filter fun h => !handles.any fun own => own.1 == h.1 }
  let (root, composer) := composer.node (composing ts) true false
  { root, anchored := composer.anchored, isComplete := isEnd composer.tokens }

/-- A document that holds nothing. -/
def ofNothing (ts : List Token) : Document := { root := .empty, isComplete := isEnd ts }

/-- A document that the text stops being YAML before. -/
def none : Document := { root := .broken, isComplete := false }

/-- The first document that tokens give. -/
def ofTokens (ts : List Token) : Document :=
  match ts with
  | [.streamEnd] => .ofNothing ts
  | _ =>
    match Composer.directives ts false [] with
    | .none => .none
    | some (handles, .documentStart :: rest) =>
      match rest with
      | .streamEnd :: _ => .ofNothing rest
      | .documentEnd :: _ => .ofNothing rest
      | .documentStart :: _ => .ofNothing rest
      | .versionDirective _ _ :: _ => .ofNothing rest
      | .tagDirective _ _ :: _ => .ofNothing rest
      | _ => .ofContent handles rest
    | some (handles, rest) => if rest.length = ts.length then .ofContent handles ts else .none

end Document

/-- The first document of a text. -/
def parse (s : String) : Document := .ofTokens (tokens s.toList)

end ChainProvision.Yaml
