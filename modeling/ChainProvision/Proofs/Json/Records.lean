import ChainProvision.Proofs.Json.Members
import ChainProvision.Proofs.Json.Written
import Mathlib.Data.List.Forall2

/-!
# Records that are written are read back

A record is written as an object with its fields in their order.  As long as no field answers to the name
of another, every member comes to the field that it was written for.

## Main definitions

- `Wire.Field.Takes`: a field takes a member under its name whose value passes its check;
- `Json.Survives`: what was read from a text is read again from the text that it is written as.

## Main statements

- `Json.ofJson_record`: the members of a written record are found as its fields.
- `Json.survives_of`: what is read back from its own value survives.
-/

namespace ChainProvision

/-! ## Fields and members -/

/-- A field takes a member: it is under the field's name, and its value passes the field's check. -/
structure Wire.Field.Takes (f : Json.Field) (p : String × Json) : Prop where
  name_eq : f.name = p.1
  check_eq : f.check p.2 = .ok ()

namespace Json

/-- No field answers to the name of a later one. -/
def Distinct (fields : List Field) : Prop := fields.Pairwise fun f g => f.answersTo g.name = false

instance (fields : List Field) : Decidable (Distinct fields) :=
  inferInstanceAs (Decidable (List.Pairwise _ fields))

variable {fields taken : List Field} {members : List (String × Json)} {f : Field}

private theorem name_ne_of_not_answersTo {f g : Field} (h : f.answersTo g.name = false) :
    f.name ≠ g.name := by
  intro heq
  rw [← heq, Wire.Field.answersTo_iff.mpr List.mem_cons_self] at h
  cases h

/-- A member under a field's name comes to that field. -/
private theorem owner?_name (hdistinct : Distinct fields) (hf : f ∈ fields) :
    owner? fields f.name = some f := by
  obtain ⟨before, after, rfl⟩ := List.append_of_mem hf
  have hbefore : before.find? (fun g => g.answersTo f.name) = none := by
    rw [List.find?_eq_none]
    intro g hg
    rw [Distinct, List.pairwise_append] at hdistinct
    rw [hdistinct.2.2 g hg f List.mem_cons_self]
    decide
  rw [owner?, List.find?_append, hbefore, List.find?_cons, Wire.Field.answersTo_iff.mpr List.mem_cons_self]
  rfl

/-- Members that are paired with fields are under their names, each taken by one of them. -/
private theorem taken_by (h : List.Forall₂ Wire.Field.Takes taken members) :
    (∀ p ∈ members, ∃ f ∈ taken, f.Takes p) ∧ members.map Prod.fst = taken.map (·.name) := by
  induction h with
  | nil => exact ⟨nofun, rfl⟩
  | @cons f p taken members htakes _ ih =>
    refine ⟨?_, by rw [List.map_cons, List.map_cons, ih.2, htakes.name_eq]⟩
    intro q hq
    rcases List.mem_cons.mp hq with rfl | hq
    · exact ⟨f, List.mem_cons_self, htakes⟩
    · obtain ⟨g, hg, hgq⟩ := ih.1 q hq
      exact ⟨g, List.mem_cons_of_mem _ hg, hgq⟩

/-- **The members of a written record are found as its fields.** -/
theorem ofJson_record {fields : List Field} (members : List (String × Json)) (hdistinct : Distinct fields)
    (htaken : List.Forall₂ Wire.Field.Takes (fields.take members.length) members) :
    Fields.ofJson fields (record members) = .ok ⟨members.reverse, false⟩ := by
  obtain ⟨htakes, hnames⟩ := taken_by htaken
  have howner : ∀ p ∈ members, ∃ f, owner? fields p.1 = some f ∧ f.Takes p := by
    intro p hp
    obtain ⟨f, hf, hfp⟩ := htakes p hp
    exact ⟨f, hfp.name_eq ▸ owner?_name hdistinct (List.mem_of_mem_take hf), hfp⟩
  have hassigned : assigned fields (members.map fun p => (Key.name p.1, p.2)) = members := by
    have hassign : ∀ p ∈ members, (assign? fields ∘ fun p => (Key.name p.1, p.2)) p = some p := by
      intro p hp
      obtain ⟨f, hf, hfp⟩ := howner p hp
      simp [assign?, Key.name?, hf, hfp.name_eq]
    rw [assigned, List.filterMap_map, List.filterMap_congr hassign, List.filterMap_some]
  have haccepted : Accepted fields (members.map fun p => (Key.name p.1, p.2)) := by
    constructor
    · intro member hmember
      obtain ⟨p, hp, rfl⟩ := List.mem_map.mp hmember
      obtain ⟨f, hf, hfp⟩ := howner p hp
      exact .field hf hfp.check_eq
    · rw [hassigned, hnames]
      have htake := hdistinct.sublist (List.take_sublist members.length fields)
      exact List.pairwise_map.mpr (htake.imp name_ne_of_not_answersTo)
  show Fields.ofJson fields (.object (members.map fun p => (Key.name p.1, p.2))) = _
  rw [ofJson_object_eq_ok_iff.mpr ⟨haccepted, rfl⟩, found, hassigned]

/-! ## Values that are written -/

@[simp] theorem isWritable_string (s : String) : (Json.string s).isWritable = true := rfl

@[simp] theorem isWritable_null : Json.null.isWritable = true := rfl

@[simp] theorem isWritable_nat (n : Nat) : (Json.nat n).isWritable = true := rfl

@[simp] theorem isWritable_int (i : Int) : (Json.int i).isWritable = true := rfl

@[simp] theorem isWritable_orNull {α : Type} {f : α → Json} {o : Option α} :
    (orNull f o).isWritable = true ↔ ∀ a ∈ o, (f a).isWritable = true := by
  cases o with
  | none => simp [orNull]
  | some a => simp [orNull]

theorem isWritable_array {items : List Json} (h : ∀ v ∈ items, v.isWritable = true) :
    (Json.array items).isWritable = true := by
  rw [isWritable]
  induction items with
  | nil => rfl
  | cons v items ih =>
    rw [itemsWritable, h v List.mem_cons_self, ih fun w hw => h w (List.mem_cons_of_mem _ hw)]
    rfl

theorem isWritable_record {members : List (String × Json)} (h : ∀ p ∈ members, p.2.isWritable = true) :
    (record members).isWritable = true := by
  rw [record, isWritable]
  induction members with
  | nil => rfl
  | cons p members ih =>
    rw [List.map_cons, membersWritable, h p List.mem_cons_self,
      ih fun q hq => h q (List.mem_cons_of_mem _ hq)]
    rfl

theorem record_injective : Function.Injective record := by
  intro members members' h
  have hmap := Json.object.inj h
  refine (List.map_inj_right ?_).mp hmap
  rintro ⟨name, v⟩ ⟨name', v'⟩ heq
  cases heq
  rfl

/-! ## Values that are read back -/

theorem asString_string (s : String) : asString (.string s) = .ok s := rfl

theorem scalar?_ofNat {n : Nat} (h : n < UInt64.size) :
    (Number.ofNat n).scalar? = some (.natural ⟨n, h⟩) := by
  simp [Number.scalar?, Number.isInteger, Number.ofNat, h]

theorem asNatural_nat {limit : Nat} (hlimit : limit ≤ UInt64.size) (n : Fin limit) :
    asNatural limit (.nat n.val) = .ok n := by
  simp [asNatural, nat, scalar?_ofNat (Nat.lt_of_lt_of_le n.isLt hlimit)]

theorem asSigned_int (i : Signed64) : asSigned (.int i.val) = .ok i := by
  obtain ⟨i, hlow, hhigh⟩ := i
  by_cases hneg : i < 0
  · have hwhole : i.natAbs ≠ 0 ∧ i.natAbs ≤ signed64Half := by omega
    have hscalar : (Number.ofInt i).scalar? = some (.negative i) := by
      have hnatAbs : -(i.natAbs : Int) = i := by omega
      have hofInt : Number.ofInt i = { negative := true, whole := i.natAbs } := by simp [Number.ofInt, hneg]
      rw [hofInt]
      show (if i.natAbs ≠ 0 ∧ i.natAbs ≤ signed64Half then some (Number.Scalar.negative (-(i.natAbs : Int))) else _) = _
      rw [if_pos hwhole, hnatAbs]
    simp only [asSigned, int, hscalar]
    rw [dif_pos ⟨hlow, hhigh⟩]
  · have hsize : i.natAbs < UInt64.size := by
      simp only [UInt64.size, signed64Half] at hhigh ⊢
      omega
    have hscalar : (Number.ofInt i).scalar? = some (.natural ⟨i.natAbs, hsize⟩) := by
      simp [Number.scalar?, Number.isInteger, Number.ofInt, hneg, hsize]
    have hnatAbs : (i.natAbs : Int) = i := by omega
    simp only [asSigned, int, hscalar, hnatAbs]
    rw [dif_pos ⟨hlow, hhigh⟩]

/-- What may be absent is read back if it is never written as nothing. -/
theorem asOption_orNull {α : Type} {read : Json → Except Fault α} {write : α → Json}
    (hnull : ∀ a, write a ≠ .null) (hread : ∀ a, read (write a) = .ok a) (o : Option α) :
    asOption read (orNull write o) = .ok o := by
  cases o with
  | none => rfl
  | some a =>
    rw [orNull, asOption, hread]
    · rfl
    · exact hnull a

theorem asList_array {α : Type} {read : Json → Except Fault α} {write : α → Json}
    (hread : ∀ a, read (write a) = .ok a) (l : List α) : asList read (.array (l.map write)) = .ok l := by
  rw [asList]
  induction l with
  | nil => rfl
  | cons a l ih =>
    rw [List.map_cons, readItems, hread, ih]
    rfl

/-! ## Fields that are read back -/

section Fields

variable {α : Type} {fs : Fields} {name : String} {read : Json → Except Fault α} {a : α}

theorem takes_of {v : Json} {others : List String} (h : read v = .ok a) :
    Wire.Field.Takes (.of name read others) (name, v) := by
  refine ⟨rfl, ?_⟩
  show (fun _ => ()) <$> read v = .ok ()
  rw [h]
  rfl

theorem required_of_get? {v : Json} (hget : fs.get? name = some v) (h : read v = .ok a) :
    fs.required name read = .ok a := by
  rw [Wire.Fields.required, hget]
  exact h

/-- What a field that must be there gives was read from a value. -/
theorem exists_of_required (h : fs.required name read = .ok a) : ∃ v, read v = .ok a := by
  unfold Wire.Fields.required at h
  split at h
  · exact ⟨_, h⟩
  · cases h

/-- What a field with a default gives was read from a value, or is the default. -/
theorem exists_of_defaulted {d : α} (h : fs.defaulted name d read = .ok a) :
    a = d ∨ ∃ v, read v = .ok a := by
  unfold Wire.Fields.defaulted at h
  split at h
  · exact Or.inr ⟨_, h⟩
  · exact Or.inl (Except.ok.inj h).symm

theorem bind_eq_ok_iff {β : Type} {x : Except Fault α} {f : α → Except Fault β} {b : β} :
    (x >>= f) = .ok b ↔ ∃ a, x = .ok a ∧ f a = .ok b := by
  cases x with
  | error e => exact ⟨nofun, nofun⟩
  | ok a => exact ⟨fun h => ⟨a, rfl, h⟩, fun ⟨_, ha, h⟩ => by cases ha; exact h⟩

end Fields

/-! ## Texts -/

/-- What was read from a text is read again from the text that it is written as. -/
def Survives {α : Type} (read : Json → Except Fault α) (write : α → Json) : Prop :=
  ∀ text a, decode read text = .ok a → decode read (write a).text = .ok a

theorem decode_text {α : Type} {read : Json → Except Fault α} {v : Json} {a : α}
    (hv : v.isWritable = true) (h : read v = .ok a) : decode read v.text = .ok a := by
  unfold decode
  rw [parse_text hv]
  simp only [h]
  rfl

/-- A value of a type is read from a text just if it is read from the text's value, and nothing follows that. -/
theorem decode_eq_ok_iff {α : Type} {read : Json → Except Fault α} {text : String} {a : α} :
    decode read text = .ok a ↔ read (parse text).value = .ok a ∧ (parse text).isComplete = true := by
  unfold decode
  dsimp only
  cases read (parse text).value with
  | error e => simp
  | ok b => cases (parse text).isComplete <;> simp

theorem exists_of_decode {α : Type} {read : Json → Except Fault α} {text : String} {a : α}
    (h : decode read text = .ok a) : ∃ v, read v = .ok a := ⟨_, (decode_eq_ok_iff.mp h).1⟩

/-- The values that are ever read survive if each of them is read back from its own value. -/
theorem survives_of {α : Type} {read : Json → Except Fault α} {write : α → Json} (P : α → Prop)
    (hP : ∀ v a, read v = .ok a → P a) (hwritable : ∀ a, (write a).isWritable = true)
    (hread : ∀ a, P a → read (write a) = .ok a) : Survives read write := by
  intro text a h
  obtain ⟨v, hv⟩ := exists_of_decode h
  exact decode_text (hwritable a) (hread a (hP v a hv))

end Json

end ChainProvision
