import ChainProvision.Proofs.Text.Characters
import ChainProvision.Proofs.Text.Numeral
import ChainProvision.Proofs.Wire.Survival
import ChainProvision.Proofs.Yaml.Exchange

/-!
# Which texts are identifiers and amounts

An identifier is a number in decimal, blanks around it and one plus sign in front of it aside.  An amount may have
underscores among its digits as well.  A number that has too many bits is refused, as is any other text; nothing
wraps around.

## Main definitions

- `Id.Spells`, `Wei.Spells`: the numbers that texts stand for.

## Main statements

- `Id.read_eq_ok_iff`, `Wei.read_eq_ok_iff`: which texts are read, and as what.
- `Id.read_eq_tooLarge`: why a number with too many bits is no identifier.
- `Id.read_text`: what is written for an identifier is read back.
- `Id.ofJson_eq_ok_iff`, `Id.decode_eq_ok_iff`: which values and which texts of JSON are identifiers.
- `Id.ofYaml_eq_ok_iff`, `Wei.ofYaml_eq_ok_iff`, `Wei.ofYaml_eq_error`: what texts in a configuration are read as.
- `Wei.exists_read_eq_error_iff`: which texts are no amounts.
-/

namespace ChainProvision

/-! ## Identifiers -/

namespace Id

variable {kind : IdKind} {s : String} {n : Nat}

/-- A text is a number in decimal with an optional plus sign, blanks around it aside. -/
def Spells (s : String) (n : Nat) : Prop := Text.Denotes (Text.strip s.toList) n

/-- **A text is read as the number that it spells**, and only if it has at most 64 bits. -/
theorem read_eq_ok_iff {id : Id kind} : read kind s = .ok id ↔ Spells s id.val.val := by
  obtain ⟨word⟩ := id
  unfold read Spells
  have hread : Text.readNumeral UInt64.size Word64.size_pos (Text.strip s.toList) = .ok word ↔ _ :=
    Text.readNumeral_eq_ok_iff
  rw [← hread]
  cases Text.readNumeral UInt64.size Word64.size_pos (Text.strip s.toList) with
  | error e => simp [Except.map]
  | ok word' => simp [Except.map]

/-- A number of more bits is refused for its size. -/
theorem read_eq_tooLarge (h : Spells s n) (hlarge : UInt64.size ≤ n) : read kind s = .error .tooLarge := by
  unfold read
  rw [Text.readNumeral_eq_tooLarge h hlarge]
  rfl

theorem spells_text (id : Id kind) : Spells id.text id.val.val := by
  have hdigits : ∀ c ∈ Nat.toDigits 10 id.val.val, Text.isBlank c = false := fun c hc =>
    Text.isBlank_eq_false_of_isDigit (Nat.isDigit_of_mem_toDigits (by decide) (by decide) hc)
  unfold Spells text Text.numeral Text.strip
  rw [String.toList_ofList, Text.stripBy_eq_self hdigits]
  exact Text.denotes_toDigits id.val.val

theorem read_text (id : Id kind) : read kind id.text = .ok id := read_eq_ok_iff.mpr (spells_text id)

/-- A number of JSON means a natural number just if it is written as one. -/
private theorem scalar?_eq_natural_iff {n : Number} {word : Word64} :
    n.scalar? = some (.natural word) ↔ n = .ofNat word.val := by
  constructor
  · intro h
    have hreal : n.magnitude?.map (Number.Scalar.real n.negative) ≠ some (.natural word) := by
      cases n.magnitude? <;> simp
    obtain ⟨negative, whole, fraction, power⟩ := n
    simp only [Number.scalar?, Number.isInteger, Bool.and_eq_true, List.isEmpty_iff, Option.isNone_iff_eq_none] at h
    split at h
    · rename_i hinteger
      obtain ⟨rfl, rfl⟩ := hinteger
      split at h
      · split at h
        · cases h
        · exact absurd h hreal
      · rename_i hsign
        split at h
        · obtain rfl := Number.Scalar.natural.inj (Option.some.inj h)
          simp [Number.ofNat, Bool.eq_false_iff.mpr hsign]
        · exact absurd h hreal
    · exact absurd h hreal
  · rintro rfl
    exact Json.scalar?_ofNat word.isLt

/-- **An identifier is given in JSON as its number or as a text that spells it**, and in no other way. -/
theorem ofJson_eq_ok_iff {depth : Nat} {v : Json} {id : Id kind} :
    ofJson kind depth v = .ok id ↔ v = .nat id.val.val ∨ ∃ s, v = .string s ∧ Spells s id.val.val := by
  cases v with
  | string s =>
    have hread : ofJson kind depth (.string s) = (read kind s).mapError Fault.numeral := rfl
    have hspells : read kind s = .ok id ↔ _ := read_eq_ok_iff
    rw [hread, Json.nat]
    simp only [reduceCtorEq, false_or, Json.string.injEq, exists_eq_left', ← hspells]
    cases read kind s <;> simp [Except.mapError]
  | number n =>
    obtain ⟨word⟩ := id
    rw [Json.nat, Json.number.injEq, ← scalar?_eq_natural_iff]
    simp only [reduceCtorEq, false_and, exists_false, or_false]
    unfold ofJson
    rw [Json.isHoldable]
    dsimp only
    cases hscalar : n.scalar? with
    | none => simp
    | some scalar => cases scalar <;> simp
  | _ =>
    -- Neither a number nor a text.
    refine iff_of_false (fun h => ?_) ?_
    · unfold ofJson at h
      split at h <;> cases h
    · simp [Json.nat]

/-- So it is in a text of JSON, which has to hold nothing else. -/
theorem decode_eq_ok_iff {depth : Nat} {text : String} {id : Id kind} :
    Json.decode (ofJson kind depth) text = .ok id ↔
      (Json.parse text).isComplete = true ∧
        ((Json.parse text).value = .nat id.val.val ∨
          ∃ s, (Json.parse text).value = .string s ∧ Spells s id.val.val) := by
  rw [Json.decode_eq_ok_iff, ofJson_eq_ok_iff, and_comm]

theorem decode_numeral (depth : Nat) (id : Id kind) :
    Json.decode (ofJson kind depth) (Text.numeral id.val.val) = .ok id := by
  have htext : (Json.nat id.val.val).text = Text.numeral id.val.val := by
    simp [Json.text, Json.nat, Json.chars, Number.chars, Number.ofNat, Text.numeral]
  rw [← htext]
  exact Json.decode_text (Json.isWritable_nat _) (ofJson_eq_ok_iff.mpr (Or.inl rfl))

/-- A text of YAML is an identifier as it is one on its own. -/
theorem ofYaml_eq_ok_iff {env : Yaml.Surroundings} {n : Yaml.Node} {text : String} (h : env.IsText n text)
    {id : Id kind} : (ofYaml kind n).result env = .ok id ↔ Spells text id.val.val := by
  have hspells : read kind text = .ok id ↔ _ := read_eq_ok_iff
  rw [ofYaml, Yaml.result_asNumberOrText h, ← hspells]
  cases read kind text <;> simp [Except.mapError]

end Id

/-! ## Amounts -/

namespace Wei

variable {s : String} {w : Wei}

/-- A text is a number in decimal with an optional plus sign, blanks around it and then all underscores in it
aside. -/
def Spells (s : String) (n : Nat) : Prop := Text.Denotes ((Text.strip s.toList).filter (· != '_')) n

/-- **A text is read as the amount that it spells**, and only if it has at most 128 bits. -/
theorem read_eq_ok_iff : read s = .ok w ↔ Spells s w.val.val := by
  obtain ⟨word⟩ := w
  unfold read Spells
  have hread : Text.readNumeral word128Size Word128.size_pos ((Text.strip s.toList).filter (· != '_')) = .ok word ↔ _ :=
    Text.readNumeral_eq_ok_iff
  rw [← hread]
  cases Text.readNumeral word128Size Word128.size_pos ((Text.strip s.toList).filter (· != '_')) with
  | error e => simp [Except.map]
  | ok word' => simp [Except.map]

/-- A text is refused if it spells no number, or one with too many bits. -/
theorem exists_read_eq_error_iff : (∃ e, read s = .error e) ↔ ∀ n < word128Size, ¬ Spells s n := by
  constructor
  · rintro ⟨e, he⟩ n hn hspells
    rw [(read_eq_ok_iff (w := ⟨⟨n, hn⟩⟩)).mpr hspells] at he
    cases he
  · intro hnone
    cases hread : read s with
    | error e => exact ⟨e, rfl⟩
    | ok w => exact absurd (read_eq_ok_iff.mp hread) (hnone w.val.val w.val.isLt)

/-- In a configuration an amount is what its text spells. -/
theorem ofYaml_eq_ok_iff {env : Yaml.Surroundings} {n : Yaml.Node} (h : env.IsText n s) :
    (ofYaml n).result env = .ok w ↔ Spells s w.val.val := by
  rw [ofYaml, Yaml.result_asNumberOrText h, ← read_eq_ok_iff]
  cases read s <;> simp [Except.mapError]

/-- A text that spells no amount is named as it was written. -/
theorem ofYaml_eq_error {env : Yaml.Surroundings} {n : Yaml.Node} (h : env.IsText n s)
    (hnone : ∀ n < word128Size, ¬ Spells s n) : (ofYaml n).result env = .error (.wei s) := by
  obtain ⟨e, he⟩ := exists_read_eq_error_iff.mpr hnone
  rw [ofYaml, Yaml.result_asNumberOrText h, he]
  rfl

end Wei

end ChainProvision
