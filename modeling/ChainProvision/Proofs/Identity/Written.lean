import ChainProvision.Identity.Hex
import ChainProvision.Identity.Name
import ChainProvision.Proofs.Text.Characters

/-!
# Addresses, hashes and names that are written are read back

An address or a hash may be typed in either case and with blanks around it, a name with capitals; each is
written in one form, and that form is read as what was written.

## Main statements

- `Hex.read_text`: written digits are read back.
- `Address.read_text`, `TxHash.read_text`, `Name.read_text`: so are addresses, hashes and names.
-/

namespace ChainProvision

/-! ## Hexadecimal digits -/

namespace Hex

private theorem digit?_digitChar (d : Fin 16) : digit? (digitChar d) = some d := by
  revert d
  decide

private theorem isBlank_digitChar (d : Fin 16) : Text.isBlank (digitChar d) = false := by
  revert d
  decide

theorem readDigits_map (digits : List (Fin 16)) : readDigits (digits.map digitChar) = .ok digits := by
  induction digits with
  | nil => rfl
  | cons d digits ih =>
    rw [List.map_cons, readDigits, digit?_digitChar, ih]
    rfl

theorem read_text (digits : List (Fin 16)) : read (text digits) = .ok digits := by
  have hblank : ∀ c ∈ '0' :: 'x' :: digits.map digitChar, Text.isBlank c = false := by
    intro c hc
    simp only [List.mem_cons, List.mem_map] at hc
    rcases hc with rfl | rfl | ⟨d, -, rfl⟩
    · rfl
    · rfl
    · exact isBlank_digitChar d
  rw [read, text, String.toList_ofList, Text.strip, Text.stripBy_eq_self hblank]
  exact readDigits_map digits

end Hex

theorem Address.read_text (a : Address) : Address.read a.text = .ok a := by
  unfold Address.read Address.text
  rw [Hex.read_text]
  exact dif_pos a.length_eq

theorem TxHash.read_text (h : TxHash) : TxHash.read h.text = .ok h := by
  unfold TxHash.read TxHash.text
  rw [Hex.read_text]
  dsimp only
  rw [dif_pos h.length_pos, dif_pos h.length_le]

/-! ## Names -/

namespace Name

/-- What a character of a label is to a reader: it may be typed as it is. -/
private theorem typed_of_isLabelChar {c : Char} (h : isLabelChar c = true) :
    isTypedChar c = true ∧ c.toLower = c ∧ Text.isBlank c = false ∧ c.utf8Size = 1 := by
  have hsmall : c.toNat < 128 := by
    have hletter := h
    simp only [isLabelChar, Bool.or_eq_true, beq_iff_eq] at hletter
    rcases hletter with (hlower | hdigit) | rfl
    · exact Text.ascii_of_isLower hlower
    · exact Text.ascii_of_isDigit hdigit
    · decide
  revert h
  exact Text.of_table c hsmall (by decide)

theorem byteLength_eq_length {cs : List Char} (h : ∀ c ∈ cs, c.utf8Size = 1) : byteLength cs = cs.length := by
  induction cs with
  | nil => rfl
  | cons c cs ih =>
    rw [byteLength, List.length_cons, h c List.mem_cons_self, ih fun c hc => h c (List.mem_cons_of_mem _ hc),
      Nat.add_comm]

theorem read_text (n : Name) : read n.text = .ok n := by
  obtain ⟨cs, hlabel⟩ := n
  have htyped := fun c hc => typed_of_isLabelChar (hlabel.isLabelChar c hc)
  have hstrip : Text.strip (text ⟨cs, hlabel⟩).toList = cs := by
    rw [text, String.toList_ofList, Text.strip, Text.stripBy_eq_self fun c hc => (htyped c hc).2.2.1]
  have hshort : ¬ 63 < byteLength cs := by
    rw [byteLength_eq_length fun c hc => (htyped c hc).2.2.2]
    exact Nat.not_lt.mpr hlabel.length_le
  have hsmall : cs.map Char.toLower = cs :=
    (List.map_congr_left fun c hc => (htyped c hc).2.1).trans (List.map_id cs)
  unfold read
  simp only [hstrip]
  rw [dif_neg hlabel.ne_nil, dif_neg hshort, dif_neg hlabel.head_ne, dif_neg hlabel.getLast_ne]
  split
  · rename_i c hfound
    rw [hstrip] at hfound
    have hc := htyped c (List.mem_of_find?_eq_some hfound)
    exact absurd (List.find?_some hfound) (by simp [hc.1])
  · simp only [hsmall]

end Name

end ChainProvision
