import ChainProvision.Yaml.Fields

/-!
# Block mappings and their members

The tokens of a block mapping are read as the mapping, whatever texts stand in its scalars and however deep
mappings nest in it.  A record is then read from it member by member.

## Main definitions

- `Yaml.Spells`: the tokens of the members of a block mapping;
- `Yaml.Takes`: a field takes a value that is given under its name.

## Main statements

- `Yaml.Document.ofTokens_mapping`: the document of a mapping's tokens is the mapping.
- `Yaml.fieldsOf_given`: the values that are given for fields are found for them.
-/

namespace ChainProvision.Yaml

/-! ## Tokens of members -/

/-- A scalar without a tag. -/
def Node.ofText (text : String) (style : Style) : Node := .scalar ⟨text, style, none⟩

/-- Tokens are those of the members of a block mapping. -/
inductive Spells : List Token → List (Node × Node) → Prop where
  | nil : Spells [] []
  | scalar (key text : String) (style : Style) {tokens : List Token} {pairs : List (Node × Node)} :
      Spells tokens pairs →
      Spells (.key :: .scalar key .plain :: .value :: .scalar text style :: tokens)
        ((.ofText key .plain, .ofText text style) :: pairs)
  | mapping (key : String) {inner tokens : List Token} {members pairs : List (Node × Node)} :
      Spells inner members → Spells tokens pairs →
      Spells (.key :: .scalar key .plain :: .value :: .blockMappingStart :: (inner ++ .blockEnd :: tokens))
        ((.ofText key .plain, .mapping none members) :: pairs)

namespace Composer

private theorem blockPart_scalar (fuel : Nat) (c : Composer) (text : String) (style : Style)
    (rest : List Token) : blockPart (fuel + 3) (c.before (.scalar text style :: rest)) =
      (.ofText text style, c.before rest) := rfl

private theorem node_mapping {fuel : Nat} {c c' : Composer} {ts : List Token} {pairs : List (Node × Node)}
    (hpairs : blockPairs fuel (c.before ts) = (pairs, c')) (hyphens : Bool) :
    node (fuel + 2) true hyphens (c.before (.blockMappingStart :: ts)) = (.mapping none pairs, c') := by
  have hcontent : content (fuel + 1) true hyphens false none (c.before (.blockMappingStart :: ts)) =
      (.mapping none (blockPairs fuel (c.before ts)).1, (blockPairs fuel (c.before ts)).2) := rfl
  rw [hpairs] at hcontent
  have hnode : node (fuel + 2) true hyphens (c.before (.blockMappingStart :: ts)) =
      if (content (fuel + 1) true hyphens false none (c.before (.blockMappingStart :: ts))).1.isBroken then
        ((content (fuel + 1) true hyphens false none (c.before (.blockMappingStart :: ts))).1, c.stop)
      else content (fuel + 1) true hyphens false none (c.before (.blockMappingStart :: ts)) := rfl
  rw [hnode, hcontent]
  rfl

private theorem blockPart_mapping {fuel : Nat} {c c' : Composer} {ts : List Token}
    {pairs : List (Node × Node)} (hpairs : blockPairs fuel (c.before ts) = (pairs, c')) :
    blockPart (fuel + 3) (c.before (.blockMappingStart :: ts)) = (.mapping none pairs, c') :=
  node_mapping hpairs true

/-- A member is read before those that follow it. -/
private theorem blockPairs_member {fuel : Nat} {c c' : Composer} {key : String} {ts : List Token} {v : Node}
    (hvalue : blockPart (fuel + 3) (c.before ts) = (v, c')) :
    blockPairs (fuel + 4) (c.before (.key :: .scalar key .plain :: .value :: ts)) =
      ((.ofText key .plain, v) :: (blockPairs (fuel + 3) c').1, (blockPairs (fuel + 3) c').2) := by
  have hpairs : blockPairs (fuel + 4) (c.before (.key :: .scalar key .plain :: .value :: ts)) =
      ((.ofText key .plain, (blockPart (fuel + 3) (c.before ts)).1) ::
          (blockPairs (fuel + 3) (blockPart (fuel + 3) (c.before ts)).2).1,
        (blockPairs (fuel + 3) (blockPart (fuel + 3) (c.before ts)).2).2) := rfl
  rw [hpairs, hvalue]

/-- **The tokens of members are read as the members.** -/
theorem blockPairs_spelled {ts : List Token} {pairs : List (Node × Node)} (h : Spells ts pairs)
    (c : Composer) (rest : List Token) (fuel : Nat) (hfuel : ts.length + 4 ≤ fuel) :
    blockPairs fuel (c.before (ts ++ .blockEnd :: rest)) = (pairs, c.before rest) := by
  -- Of the calls that are left, every token of a member pays for one.
  induction h generalizing rest fuel with
  | nil =>
    obtain ⟨fuel, rfl⟩ : ∃ n, fuel = n + 1 := ⟨fuel - 1, by omega⟩
    rfl
  | scalar key text style h ih =>
    simp only [List.length_cons] at hfuel
    obtain ⟨fuel, rfl⟩ : ∃ n, fuel = n + 4 := ⟨fuel - 4, by omega⟩
    have hpairs := ih rest (fuel + 3) (by omega)
    rw [List.cons_append, List.cons_append, List.cons_append, List.cons_append,
      blockPairs_member (blockPart_scalar fuel c text style _), hpairs]
  | @mapping key inner tokens members pairs hinner h ihinner ih =>
    simp only [List.length_cons, List.length_append] at hfuel
    obtain ⟨fuel, rfl⟩ : ∃ n, fuel = n + 4 := ⟨fuel - 4, by omega⟩
    have hpairs := ih rest (fuel + 3) (by omega)
    have hvalue := blockPart_mapping (ihinner (tokens ++ .blockEnd :: rest) fuel (by omega))
    simp only [List.cons_append, List.append_assoc]
    rw [blockPairs_member hvalue, hpairs]

end Composer

/-- **The document of a mapping's tokens is the mapping.** -/
theorem Document.ofTokens_mapping {ts : List Token} {pairs : List (Node × Node)} (h : Spells ts pairs) :
    Document.ofTokens (.blockMappingStart :: (ts ++ [.blockEnd, .streamEnd])) =
      { root := .mapping .none pairs, isComplete := true } := by
  -- The tokens leave calls enough, and the outermost mapping takes two of them.
  have hlength : composing (.blockMappingStart :: (ts ++ [.blockEnd, .streamEnd])) = 4 * ts.length + 14 + 2 := by
    simp [composing]
    omega
  have hpairs := Composer.blockPairs_spelled h { tokens := [] } [.streamEnd] (4 * ts.length + 14)
    (by omega)
  have hnode := Composer.node_mapping hpairs false
  have hcontent : Document.ofTokens (.blockMappingStart :: (ts ++ [.blockEnd, .streamEnd])) =
      Document.ofContent [] (.blockMappingStart :: (ts ++ [.blockEnd, .streamEnd])) := by
    simp [Document.ofTokens, Composer.directives]
  rw [hcontent, Document.ofContent, hlength]
  simp only [List.any_nil, Bool.not_false, List.nil_append, List.filter_eq_self.mpr fun _ _ => rfl]
  rw [Composer.before] at hnode
  rw [hnode]
  rfl

/-! ## Reading members -/

/-- The members that give values for fields. -/
def membersOf (given : List (Field × Node)) : List (Node × Node) :=
  given.map fun (f, v) => (.ofText f.name .plain, v)

/-- A field takes a value that is given under its name: it is the one among all fields that answers to the
name, and the value passes its check. -/
structure Takes (fields : List Field) (f : Field) (v : Node) : Prop where
  find?_eq : fields.find? (·.answersTo f.name) = some f
  check_eq : f.check v = pure ()

private theorem collectMembers_given {fields : List Field} {given : List (Field × Node)}
    (found : List (String × Node)) (htaken : ∀ p ∈ given, Takes fields p.1 p.2)
    (hdistinct : given.Pairwise fun p q => p.1.name ≠ q.1.name)
    (hfresh : ∀ p ∈ given, ∀ q ∈ found, q.1 ≠ p.1.name) :
    Wire.collectMembers asText Node.isWhole fields found (membersOf given) =
      pure ((given.map fun (f, v) => (f.name, v)).reverse ++ found) := by
  -- No name is found a second time, so each member is taken.
  induction given generalizing found with
  | nil => rfl
  | cons p given ih =>
    obtain ⟨f, v⟩ := p
    obtain ⟨hfind, hcheck⟩ : Takes fields f v := htaken (f, v) List.mem_cons_self
    obtain ⟨hnames, hdistinct⟩ := List.pairwise_cons.mp hdistinct
    have hname : asText (.ofText f.name .plain) = pure f.name := rfl
    have hnew : (found.any fun q => q.1 == f.name) = false := by
      rw [List.any_eq_false]
      intro q hq hsame
      exact hfresh (f, v) List.mem_cons_self q hq (beq_iff_eq.mp hsame)
    have hfresh' : ∀ p ∈ given, ∀ q ∈ (f.name, v) :: found, q.1 ≠ p.1.name := by
      intro p hp q hq
      rcases List.mem_cons.mp hq with rfl | hq
      · exact hnames p hp
      · exact hfresh p (List.mem_cons_of_mem _ hp) q hq
    rw [membersOf, List.map_cons, Wire.collectMembers, hname, pure_bind]
    simp only [hfind, hnew, hcheck, Bool.false_eq_true, if_false, pure_bind]
    refine (ih ((f.name, v) :: found) (fun p hp => htaken p (List.mem_cons_of_mem _ hp)) hdistinct hfresh').trans ?_
    simp

/-- **The values that are given for fields are found for them.** -/
theorem fieldsOf_given {fields : List Field} {given : List (Field × Node)}
    (htaken : ∀ p ∈ given, Takes fields p.1 p.2)
    (hdistinct : given.Pairwise fun p q => p.1.name ≠ q.1.name) :
    fieldsOf fields (.mapping none (membersOf given)) =
      pure ⟨(given.map fun (f, v) => (f.name, v)).reverse, false⟩ := by
  have htarget : target (.mapping none (membersOf given)) = pure (.mapping none (membersOf given)) := rfl
  have hmembers := collectMembers_given [] htaken hdistinct (by simp)
  rw [fieldsOf, htarget, pure_bind]
  dsimp only
  rw [hmembers, pure_bind, List.append_nil]

variable {α : Type}

theorem Takes.of_read {fields : List Field} {name : String} {others : List String} {read : Node → Reading α}
    {v : Node} {a : α} (hfind : fields.find? (·.answersTo name) = some (.of name read others))
    (hread : read v = pure a) : Takes fields (.of name read others) v where
  find?_eq := hfind
  check_eq := by
    rw [Wire.Field.of]
    dsimp only
    rw [hread, map_pure]

theorem required_pure {fs : Fields} {name : String} {read : Node → Reading α} {v : Node} {a : α}
    (hfound : fs.get? name = some v) (hread : read v = pure a) : required fs name read = pure a := by
  rw [required, Wire.Fields.required, hfound]
  dsimp only
  rw [hread]
  rfl

theorem defaulted_pure {fs : Fields} {name : String} {default : α} {read : Node → Reading α} {v : Node} {a : α}
    (hfound : fs.get? name = some v) (hread : read v = pure a) : defaulted fs name default read = pure a := by
  rw [defaulted, Wire.Fields.defaulted, hfound]
  dsimp only
  rw [hread]
  rfl

theorem defaulted_missing {fs : Fields} {name : String} {default : α} {read : Node → Reading α}
    (hmissing : fs.get? name = none) : defaulted fs name default read = pure default := by
  rw [defaulted, Wire.Fields.defaulted, hmissing]

/-! ## Reading scalars -/

theorem asText_ofText (text : String) (style : Style) : asText (.ofText text style) = pure text := rfl

/-- A scalar is held if it can be, however deep. -/
theorem hold_scalar (depth : Nat) (s : Scalar) :
    hold depth (.scalar s) = if s.isHoldable then pure () else throw .malformed := by
  cases depth with
  | zero =>
    delta hold
    rfl
  | succ depth =>
    delta hold
    rfl

/-- What is written as a natural number is read as the number where it could be a text too. -/
theorem asNumberOrText_natural {text : String} {n : Word64}
    (hmeaning : (⟨text, .plain, none⟩ : Scalar).meaning = .natural n) (type : String) (ofNumber : Word64 → α)
    (ofText : String → Except Fault α) :
    asNumberOrText type ofNumber ofText (.ofText text .plain) = pure (ofNumber n) := by
  have htarget : target (.ofText text .plain) = pure (.ofText text .plain) := rfl
  have hholds : (⟨text, .plain, none⟩ : Scalar).isHoldable = true := by rw [Scalar.isHoldable, hmeaning]
  rw [asNumberOrText, htarget, pure_bind, Node.ofText, hold_scalar, if_pos hholds, pure_bind]
  simp only [hmeaning]

/-- What is written as a text is read as the text where it could be a number too. -/
theorem asNumberOrText_text {s : Scalar} {text : String} (hmeaning : s.meaning = .text text) (type : String)
    (ofNumber : Word64 → α) (ofText : String → Except Fault α) :
    asNumberOrText type ofNumber ofText (.scalar s) = liftM (ofText text) := by
  have htarget : target (.scalar s) = pure (.scalar s) := rfl
  have hholds : s.isHoldable = true := by rw [Scalar.isHoldable, hmeaning]
  rw [asNumberOrText, htarget, pure_bind, hold_scalar, if_pos hholds, pure_bind]
  simp only [hmeaning]

/-- No alias is followed where a scalar is read as a number or a text. -/
theorem asNumberOrText_scalar (s : Scalar) (type : String) (ofNumber : Word64 → α)
    (ofText : String → Except Fault α) :
    ∃ x : Except Fault α, asNumberOrText type ofNumber ofText (.scalar s) = liftM x := by
  have htarget : target (.scalar s) = pure (.scalar s) := rfl
  rw [asNumberOrText, htarget, pure_bind, hold_scalar]
  by_cases hholds : s.isHoldable = true
  · rw [if_pos hholds, pure_bind]
    dsimp only
    cases s.meaning with
    | natural n => exact ⟨.ok (ofNumber n), rfl⟩
    | negative m =>
      dsimp only
      split
      · exact ⟨.ok (ofNumber (.ofNat 0)), rfl⟩
      · exact ⟨.error (.noAlternative type), rfl⟩
    | text t => exact ⟨ofText t, rfl⟩
    | _ => exact ⟨.error (.noAlternative type), rfl⟩
  · rw [if_neg hholds]
    exact ⟨.error .malformed, rfl⟩

end ChainProvision.Yaml
