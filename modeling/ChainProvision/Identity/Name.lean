import ChainProvision.Text.Blank

/-!
# Resource names

The name of a resource is a DNS label, since it becomes the name of a host: up to 63 small letters,
digits and hyphens, with no hyphen at either end.  What a user types is trimmed and its capitals are
made small; everything else is refused, and the checks come in a fixed order.
-/

namespace ChainProvision

/-- Why a text is no resource name. -/
inductive NameError where
  | empty
  | tooLong
  | startsWithHyphen
  | endsWithHyphen
  | invalidChar (c : Char)
  deriving DecidableEq, Repr

/-- The wording of a fault in a resource name. -/
def NameError.message : NameError → String
  | .empty => "resource name cannot be empty"
  | .tooLong => "resource name exceeds maximum length of 63 characters"
  | .startsWithHyphen => "resource name cannot start with a hyphen"
  | .endsWithHyphen => "resource name cannot end with a hyphen"
  | .invalidChar c => "invalid character in resource name: '" ++ c.toString ++ "'"

/-- The name of a fault, which stays the same whatever its wording. -/
def NameError.name : NameError → String
  | .empty => "Empty"
  | .tooLong => "TooLong"
  | .startsWithHyphen => "StartsWithHyphen"
  | .endsWithHyphen => "EndsWithHyphen"
  | .invalidChar _ => "InvalidChar"

namespace Name

/-- The characters that a user may type in a name: ASCII digits and letters, and the hyphen. -/
def isTypedChar (c : Char) : Bool :=
  let n := c.toNat
  (48 ≤ n && n ≤ 57) || (65 ≤ n && n ≤ 90) || (97 ≤ n && n ≤ 122) || n == 45

/-- The characters of a DNS label in its normal form. -/
def isLabelChar (c : Char) : Bool :=
  c.isLower || c.isDigit || c == '-'

/-- The number of bytes of a text in UTF-8. -/
def byteLength : List Char → Nat
  | [] => 0
  | c :: cs => c.utf8Size + byteLength cs

/-- The DNS labels in their normal form. -/
structure IsLabel (cs : List Char) : Prop where
  ne_nil : cs ≠ []
  length_le : cs.length ≤ 63
  head_ne : cs.head? ≠ some '-'
  getLast_ne : cs.getLast? ≠ some '-'
  isLabelChar : ∀ c ∈ cs, isLabelChar c = true

theorem isLabel_iff {cs : List Char} :
    IsLabel cs ↔ (!cs.isEmpty && decide (cs.length ≤ 63) && cs.head? != some '-' && cs.getLast? != some '-' &&
      cs.all isLabelChar) = true := by
  simp only [Bool.and_eq_true, Bool.not_eq_true', List.isEmpty_eq_false_iff, decide_eq_true_eq, bne_iff_ne,
    List.all_eq_true]
  exact ⟨fun ⟨nonempty, short, head, last, chars⟩ => ⟨⟨⟨⟨nonempty, short⟩, head⟩, last⟩, chars⟩,
    fun ⟨⟨⟨⟨nonempty, short⟩, head⟩, last⟩, chars⟩ => ⟨nonempty, short, head, last, chars⟩⟩

instance (cs : List Char) : Decidable (IsLabel cs) := decidable_of_iff _ isLabel_iff.symm

end Name

/-- The name of a resource. -/
structure Name where
  chars : List Char
  isLabel : Name.IsLabel chars

namespace Name

theorem length_le_byteLength (cs : List Char) : cs.length ≤ byteLength cs := by
  induction cs with
  | nil => simp [byteLength]
  | cons c cs ih =>
    have pos := Char.utf8Size_pos c
    simp only [byteLength, List.length_cons]
    omega

theorem toNat_lt_of_isTypedChar {c : Char} (h : isTypedChar c = true) : c.toNat < 128 := by
  simp only [isTypedChar, Bool.or_eq_true, Bool.and_eq_true, decide_eq_true_eq, beq_iff_eq] at h
  omega

theorem isLabelChar_toLower {c : Char} (h : isTypedChar c = true) :
    isLabelChar c.toLower = true := by
  have table : ∀ n : Fin 128, isTypedChar (Char.ofNat n.val) = true →
      isLabelChar (Char.ofNat n.val).toLower = true := by decide
  have typed := table ⟨c.toNat, toNat_lt_of_isTypedChar h⟩
  simp only [Char.ofNat_toNat] at typed
  exact typed h

theorem toLower_eq_hyphen_iff {c : Char} (h : isTypedChar c = true) :
    c.toLower = '-' ↔ c = '-' := by
  have table : ∀ n : Fin 128, isTypedChar (Char.ofNat n.val) = true →
      ((Char.ofNat n.val).toLower = '-' ↔ Char.ofNat n.val = '-') := by decide
  have typed := table ⟨c.toNat, toNat_lt_of_isTypedChar h⟩
  simp only [Char.ofNat_toNat] at typed
  exact typed h

/-- Typed characters that pass the checks become a label when their capitals are made small. -/
theorem isLabel_map_toLower {cs : List Char} (ne_nil : cs ≠ []) (short : ¬ 63 < byteLength cs)
    (head : cs.head? ≠ some '-') (last : cs.getLast? ≠ some '-')
    (typed : ∀ c ∈ cs, isTypedChar c = true) : IsLabel (cs.map Char.toLower) where
  ne_nil := by simpa using ne_nil
  length_le := by
    have := length_le_byteLength cs
    simp only [List.length_map]
    omega
  head_ne := by
    rw [List.head?_map]
    intro h
    obtain ⟨c, found, lower⟩ := Option.map_eq_some_iff.1 h
    have member : c ∈ cs := List.mem_of_head? found
    exact head (found.trans (congrArg some ((toLower_eq_hyphen_iff (typed c member)).1 lower)))
  getLast_ne := by
    rw [List.getLast?_map]
    intro h
    obtain ⟨c, found, lower⟩ := Option.map_eq_some_iff.1 h
    have member : c ∈ cs := List.mem_of_getLast? found
    exact last (found.trans (congrArg some ((toLower_eq_hyphen_iff (typed c member)).1 lower)))
  isLabelChar := by
    intro c member
    obtain ⟨d, inside, rfl⟩ := List.mem_map.1 member
    exact isLabelChar_toLower (typed d inside)

/-- The name that a text denotes. -/
def read (s : String) : Except NameError Name :=
  let cs := Text.strip s.toList
  if empty : cs = [] then .error .empty
  else if long : 63 < byteLength cs then .error .tooLong
  else if head : cs.head? = some '-' then .error .startsWithHyphen
  else if last : cs.getLast? = some '-' then .error .endsWithHyphen
  else
    match found : cs.find? (fun c => !isTypedChar c) with
    | some c => .error (.invalidChar c)
    | none =>
      .ok ⟨cs.map Char.toLower, isLabel_map_toLower empty long head last
        (by simpa using List.find?_eq_none.1 found)⟩

/-- The written form of a name. -/
def text (n : Name) : String := String.ofList n.chars

instance : DecidableEq Name := fun a b =>
  if h : a.chars = b.chars then isTrue (by cases a; cases b; cases h; rfl)
  else isFalse (by rintro rfl; exact h rfl)

end Name

end ChainProvision
