import ChainProvision.Deployment.Form
import ChainProvision.Proofs.Identity.Written
import ChainProvision.Proofs.Wire.Survival
import ChainProvision.Records.Resource

/-!
# Which texts are resource names

A text is a resource name just if it is, blanks around it aside, a DNS label in letters of either case.  The name
is that label in small letters, and names that differ in more than this are kept under different keys.

## Main definitions

- `Name.IsTypedLabel`: a DNS label in letters of either case.

## Main statements

- `Name.read_eq_ok_iff`: which texts are names, and which names they are.
- `Name.name_mem_missing_iff`: when a form lacks a name.
- `Name.names_are_labels`: names are exactly the labels, and are told apart by these up to case.
-/

namespace ChainProvision.Name

/-- One to sixty-three ASCII letters, digits and hyphens, with no hyphen at either end. -/
structure IsTypedLabel (cs : List Char) : Prop where
  length_pos : 1 ≤ cs.length
  length_le : cs.length ≤ 63
  mem : ∀ c ∈ cs, c.isAlphanum = true ∨ c = '-'
  head_ne : cs.head? ≠ some '-'
  getLast_ne : cs.getLast? ≠ some '-'

variable {s t : String} {n m : Name} {cs : List Char}

/-! ## Characters -/

private theorem between_iff {c : Char} (first last : UInt32) :
    (decide (c.val ≥ first) && decide (c.val ≤ last)) = true ↔ first.toNat ≤ c.toNat ∧ c.toNat ≤ last.toNat :=
  Bool.and_eq_true_iff.trans (and_congr decide_eq_true_iff decide_eq_true_iff)

theorem isTypedChar_iff {c : Char} : isTypedChar c = true ↔ c.isAlphanum = true ∨ c = '-' := by
  have hdigit : c.isDigit = true ↔ 48 ≤ c.toNat ∧ c.toNat ≤ 57 := between_iff 48 57
  have hcapital : c.isUpper = true ↔ 65 ≤ c.toNat ∧ c.toNat ≤ 90 := decide_eq_true_iff
  have hsmall : c.isLower = true ↔ 97 ≤ c.toNat ∧ c.toNat ≤ 122 := between_iff 97 122
  have halpha : c.isAlpha = true ↔ c.isUpper = true ∨ c.isLower = true := Bool.or_eq_true_iff
  have halphanum : c.isAlphanum = true ↔ c.isAlpha = true ∨ c.isDigit = true := Bool.or_eq_true_iff
  have hhyphen : c = '-' ↔ c.toNat = 45 := by rw [← Char.toNat_inj]; rfl
  simp only [isTypedChar, Bool.or_eq_true, Bool.and_eq_true, decide_eq_true_eq, beq_iff_eq]
  rw [halphanum, halpha, hcapital, hsmall, hdigit, hhyphen]
  omega

private theorem byteLength_of_typed (h : ∀ c ∈ cs, isTypedChar c = true) : byteLength cs = cs.length := by
  have hsize : ∀ c ∈ cs, c.utf8Size = 1 := fun c hc =>
    Text.of_table (motive := fun c => c.utf8Size = 1) c (toNat_lt_of_isTypedChar (h c hc)) (by decide)
  exact byteLength_eq_length hsize

/-! ## Texts -/

/-- **A text is a name just if it is a label**, blanks around it aside; the name is the label in small
letters. -/
theorem read_eq_ok_iff :
    read s = .ok n ↔
      IsTypedLabel (Text.strip s.toList) ∧ n.chars = (Text.strip s.toList).map Char.toLower := by
  constructor
  · intro h
    unfold read at h
    dsimp only at h
    -- The four checks on the whole text and the one on its characters, in their order.
    split at h
    · cases h
    rename_i hempty
    split at h
    · cases h
    rename_i hshort
    split at h
    · cases h
    rename_i hhead
    split at h
    · cases h
    rename_i hlast
    split at h
    · cases h
    rename_i hfound
    obtain rfl := Except.ok.inj h
    refine ⟨⟨List.length_pos_iff.mpr hempty, ?_, ?_, hhead, hlast⟩, rfl⟩
    · exact Nat.le_trans (length_le_byteLength _) (Nat.le_of_not_lt hshort)
    · intro c hc
      have htyped := List.find?_eq_none.mp hfound c hc
      exact isTypedChar_iff.mp (by simpa using htyped)
  · rintro ⟨hlabel, hchars⟩
    have htyped : ∀ c ∈ Text.strip s.toList, isTypedChar c = true := fun c hc =>
      isTypedChar_iff.mpr (hlabel.mem c hc)
    have hshort : ¬ 63 < byteLength (Text.strip s.toList) := by
      rw [byteLength_of_typed htyped]
      exact Nat.not_lt.mpr hlabel.length_le
    obtain ⟨chars, hisLabel⟩ := n
    obtain rfl : chars = _ := hchars
    unfold read
    dsimp only
    rw [dif_neg (List.length_pos_iff.mp hlabel.length_pos), dif_neg hshort, dif_neg hlabel.head_ne,
      dif_neg hlabel.getLast_ne]
    split
    · rename_i c hfound
      have hc := htyped c (List.mem_of_find?_eq_some hfound)
      exact absurd (List.find?_some hfound) (by simp [hc])
    · rfl

theorem exists_read_iff : (∃ n, read s = .ok n) ↔ IsTypedLabel (Text.strip s.toList) := by
  constructor
  · rintro ⟨n, hn⟩
    exact (read_eq_ok_iff.mp hn).1
  · intro h
    have hisLabel : IsLabel ((Text.strip s.toList).map Char.toLower) := by
      have htyped : ∀ c ∈ Text.strip s.toList, isTypedChar c = true := fun c hc =>
        isTypedChar_iff.mpr (h.mem c hc)
      refine isLabel_map_toLower (List.length_pos_iff.mp h.length_pos) ?_ h.head_ne h.getLast_ne htyped
      rw [byteLength_of_typed htyped]
      exact Nat.not_lt.mpr h.length_le
    exact ⟨⟨_, hisLabel⟩, read_eq_ok_iff.mpr ⟨h, rfl⟩⟩

theorem text_eq_of_read (h : read s = .ok n) : n.text = (Text.trim s).toLower := by
  have hlower : (Text.trim s).toLower.toList = (Text.strip s.toList).map Char.toLower := by
    rw [Text.trim]
    exact (String.toList_map).trans (congrArg _ String.toList_ofList)
  rw [text, (read_eq_ok_iff.mp h).2, ← hlower, String.ofList_toList]

/-- A name is read from a text in JSON as it is read from the text. -/
theorem decode_string (h : read s = .ok n) : Json.decode ofJson (Json.string s).text = .ok n := by
  refine Json.decode_text rfl ?_
  rw [ofJson, Json.asString_string]
  simp only [h, Except.mapError]

/-- A form lacks a name just if what is entered for it is no label. -/
theorem name_mem_missing_iff {f : Form} :
    .name ∈ f.missing ↔ ¬ IsTypedLabel (Text.strip f.name.toList) := by
  rw [← exists_read_iff, Form.missing, Form.resourceName]
  cases hread : read f.name with
  | ok n => simp
  | error e => simp

/-- **Resource names are exactly the DNS labels.**  A name is kept in small letters, and this form is read as
itself, as it is and from JSON; two texts lead to one key just if they are the same up to blanks around them and
the case of ASCII letters. -/
theorem names_are_labels :
    (∀ s, (∃ n, read s = .ok n) ↔ IsTypedLabel (Text.strip s.toList)) ∧
    (∀ s n, read s = .ok n → n.text = (Text.trim s).toLower ∧ read n.text = .ok n ∧
      Json.decode ofJson (Json.string s).text = .ok n ∧ Json.decode ofJson n.toJson.text = .ok n) ∧
    (∀ f : Form, .name ∈ f.missing ↔ ¬ IsTypedLabel (Text.strip f.name.toList)) ∧
    ∀ s t n m, read s = .ok n → read t = .ok m → ∀ kind kind' image image' now now',
      (Record.creating n kind image now).key = (Record.creating m kind' image' now').key ↔
        (Text.trim s).toLower = (Text.trim t).toLower := by
  refine ⟨fun s => exists_read_iff, ?_, fun f => name_mem_missing_iff, ?_⟩
  · intro s n h
    exact ⟨text_eq_of_read h, n.read_text, decode_string h, decode_string n.read_text⟩
  · intro s t n m hs ht kind kind' image image' now now'
    rw [← text_eq_of_read hs, ← text_eq_of_read ht]
    rfl

private theorem isLabel_box9 : IsLabel "b-9".toList := by decide +kernel

theorem names_are_labels_capitals :
    let box : Name := ⟨"b-9".toList, isLabel_box9⟩
    read "\u3000B-9\t" = .ok box ∧ read "b-9" = .ok box ∧ box.text = "b-9" ∧
      Json.decode ofJson (Json.string "\u3000B-9\t").text = .ok box ∧
      (Record.creating box .sandbox "" default).key = (Record.creating box .dedicated "ubuntu" default).key := by
  intro box
  obtain ⟨-, hread, -, hkey⟩ := names_are_labels
  have hcapitals : read "\u3000B-9\t" = .ok box := by decide +kernel
  have hsmall : read "b-9" = .ok box := by decide +kernel
  obtain ⟨htext, -, hjson, -⟩ := hread _ _ hcapitals
  have hsame := htext.symm.trans (hread _ _ hsmall).1
  exact ⟨hcapitals, hsmall, rfl, hjson,
    (hkey _ _ _ _ hcapitals hsmall .sandbox .dedicated "" "ubuntu" default default).mpr hsame⟩

end ChainProvision.Name
