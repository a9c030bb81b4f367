import ChainProvision.Text.Utf8

/-!
# Text that is written in UTF-8 is read back

The bytes of a character are as many as its number needs, and they are read as the character whatever follows.

## Main definitions

- `Utf8.text?`: the text that bytes are, if they are text throughout.

## Main statements

- `Utf8.readFrom_utf8EncodeChar`: the bytes of a character are read as the character.
- `Utf8.text?_toUTF8`: the bytes of a text are read as the text.
-/

namespace ChainProvision.Utf8

/-- The text that bytes are, if none of them is out of place. -/
def text? (bytes : List UInt8) : Option String :=
  if (read bytes).all Option.isSome then some (String.ofList ((read bytes).filterMap id)) else none

/-! ## Characters -/

private theorem readFrom_of_start_char {b : UInt8} {c : Char} (h : start b = .char c) (bs : List UInt8) :
    readFrom none (b :: bs) = some c :: readFrom none bs := by
  rw [readFrom, h]

private theorem readFrom_of_start_more {b : UInt8} {p : Partial} (h : start b = .more p) (bs : List UInt8) :
    readFrom none (b :: bs) = readFrom (some p) bs := by
  rw [readFrom, h]

private theorem toNat_ofNat {n : Nat} (h : n < 256) : (UInt8.ofNat n).toNat = n := UInt8.toNat_ofNat_of_lt' h

/-- A byte in the range that is due brings six more bits, of a character or of a part of one. -/
private theorem step_ofNat {p : Partial} {n : Nat} (hn : n < 64) (hlow : p.next.1 ≤ n + 128)
    (hhigh : n + 128 ≤ p.next.2) :
    p.step (UInt8.ofNat (n + 128)) =
      match p.later with
      | [] => .char (Char.ofNat (p.bits * 64 + n))
      | next :: later => .more ⟨p.bits * 64 + n, next, later⟩ := by
  unfold Partial.step
  rw [toNat_ofNat (by omega)]
  dsimp only
  rw [Nat.add_sub_cancel]
  exact if_pos ⟨hlow, hhigh⟩

private theorem readFrom_last {p : Partial} {n : Nat} (hlater : p.later = []) (hn : n < 64)
    (hlow : p.next.1 ≤ n + 128) (hhigh : n + 128 ≤ p.next.2) (bs : List UInt8) :
    readFrom (some p) (UInt8.ofNat (n + 128) :: bs) =
      some (Char.ofNat (p.bits * 64 + n)) :: readFrom none bs := by
  rw [readFrom, step_ofNat hn hlow hhigh, hlater]

private theorem readFrom_middle {p : Partial} {n : Nat} {next : Nat × Nat} {later : List (Nat × Nat)}
    (hlater : p.later = next :: later) (hn : n < 64) (hlow : p.next.1 ≤ n + 128) (hhigh : n + 128 ≤ p.next.2)
    (bs : List UInt8) :
    readFrom (some p) (UInt8.ofNat (n + 128) :: bs) = readFrom (some ⟨p.bits * 64 + n, next, later⟩) bs := by
  rw [readFrom, step_ofNat hn hlow hhigh, hlater]

private theorem start_two {n : Nat} (hlow : 2 ≤ n) (hhigh : n < 32) :
    start (UInt8.ofNat (n + 192)) = .more ⟨n, continuation, []⟩ := by
  unfold start
  rw [toNat_ofNat (by omega)]
  dsimp only
  rw [if_neg (by omega), if_neg (by omega), if_pos (by omega), Nat.add_sub_cancel]

/-- The second byte of a character of three keeps clear of overlong forms and surrogates. -/
private theorem start_three {n : Nat} (hn : n < 16) :
    start (UInt8.ofNat (n + 224)) =
      .more ⟨n, if n = 0 then (0xA0, 0xBF) else if n = 13 then (0x80, 0x9F) else continuation,
        [continuation]⟩ := by
  unfold start
  rw [toNat_ofNat (by omega)]
  dsimp only
  rw [if_neg (by omega), if_neg (by omega), if_neg (by omega), if_pos (by omega), Nat.add_sub_cancel]
  simp only [Nat.add_eq_right, show n + 224 = 0xED ↔ n = 13 by omega]

/-- The second byte of a character of four keeps clear of overlong forms and of what is beyond all characters. -/
private theorem start_four {n : Nat} (hn : n < 5) :
    start (UInt8.ofNat (n + 240)) =
      .more ⟨n, if n = 0 then (0x90, 0xBF) else if n = 4 then (0x80, 0x8F) else continuation,
        [continuation, continuation]⟩ := by
  unfold start
  rw [toNat_ofNat (by omega)]
  dsimp only
  rw [if_neg (by omega), if_neg (by omega), if_neg (by omega), if_neg (by omega), if_pos (by omega),
    Nat.add_sub_cancel]
  simp only [Nat.add_eq_right, show n + 240 = 0xF4 ↔ n = 4 by omega]

/-- The second byte starts at `t` after the first of the leading bytes and ends before `t` after the last. -/
private theorem mem_second {n m t l : Nat} (hm : m < 64) (hfirst : n = 0 → t ≤ m + 128)
    (hlast : n = l → m + 128 ≤ t - 1) :
    (if n = 0 then (t, 0xBF) else if n = l then (0x80, t - 1) else continuation).1 ≤ m + 128 ∧
      m + 128 ≤ (if n = 0 then (t, 0xBF) else if n = l then (0x80, t - 1) else continuation).2 := by
  split
  · exact ⟨hfirst ‹_›, by dsimp only; omega⟩
  · split
    · exact ⟨by dsimp only; omega, hlast ‹_›⟩
    · exact ⟨by dsimp only [continuation]; omega, by dsimp only [continuation]; omega⟩

/-- **The bytes of a character are read as the character.** -/
theorem readFrom_utf8EncodeChar (c : Char) (rest : List UInt8) :
    readFrom none (String.utf8EncodeChar c ++ rest) = some c :: readFrom none rest := by
  have hchar : Char.ofNat c.val.toNat = c := Char.ofNat_toNat c
  have hvalid : c.val.toNat < 0xD800 ∨ 0xDFFF < c.val.toNat ∧ c.val.toNat < 0x110000 := c.valid
  unfold String.utf8EncodeChar
  generalize c.val.toNat = v at hchar hvalid ⊢
  dsimp only
  -- One case for each number of bytes.
  split
  · have hstart : start (UInt8.ofNat v) = .char c := by
      unfold start
      rw [toNat_ofNat (by omega), ← hchar]
      exact if_pos (by omega)
    exact readFrom_of_start_char hstart rest
  split
  · have hbits : v / 64 % 32 * 64 + v % 64 = v := by omega
    simp only [List.cons_append, List.nil_append]
    rw [readFrom_of_start_more (start_two (by omega) (by omega)),
      readFrom_last rfl (by omega) (by simp [continuation]) (by simp [continuation]; omega), hbits, hchar]
  split
  · have hbits : (v / 4096 % 16 * 64 + v / 64 % 64) * 64 + v % 64 = v := by omega
    have hsecond := mem_second (n := v / 4096 % 16) (m := v / 64 % 64) (t := 0xA0) (l := 13) (by omega)
      (by omega) (by omega)
    simp only [List.cons_append, List.nil_append]
    rw [readFrom_of_start_more (start_three (by omega)),
      readFrom_middle rfl (by omega) hsecond.1 hsecond.2,
      readFrom_last rfl (by omega) (by simp [continuation]) (by simp [continuation]; omega), hbits, hchar]
  · have hbits : ((v / 262144 % 8 * 64 + v / 4096 % 64) * 64 + v / 64 % 64) * 64 + v % 64 = v := by omega
    have hsecond := mem_second (n := v / 262144 % 8) (m := v / 4096 % 64) (t := 0x90) (l := 4) (by omega)
      (by omega) (by omega)
    simp only [List.cons_append, List.nil_append]
    rw [readFrom_of_start_more (start_four (by omega)),
      readFrom_middle rfl (by omega) hsecond.1 hsecond.2,
      readFrom_middle rfl (by omega) (by simp [continuation]) (by simp [continuation]; omega),
      readFrom_last rfl (by omega) (by simp [continuation]) (by simp [continuation]; omega), hbits, hchar]

/-! ## Texts -/

theorem read_utf8EncodeChar (cs : List Char) : read (cs.flatMap String.utf8EncodeChar) = cs.map some := by
  unfold read
  induction cs with
  | nil => rfl
  | cons c cs ih => rw [List.flatMap_cons, readFrom_utf8EncodeChar, ih, List.map_cons]

/-- **The bytes of a text are read as the text.** -/
theorem text?_toUTF8 (s : String) : text? s.toUTF8.data.toList = some s := by
  have hbytes : s.toUTF8.data.toList = s.toList.flatMap String.utf8EncodeChar := by
    rw [String.toUTF8, ← String.utf8Encode_toList, List.utf8Encode, List.data_toByteArray]
  have hread : read s.toUTF8.data.toList = s.toList.map some := by rw [hbytes, read_utf8EncodeChar]
  rw [text?, hread]
  simp

end ChainProvision.Utf8
