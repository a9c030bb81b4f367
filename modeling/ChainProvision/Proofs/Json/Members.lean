import ChainProvision.Json.Fields
import Mathlib.Data.List.Nodup
import Mathlib.Data.List.Pairwise

/-!
# The members of an object as fields

An object is taken as the fields of a record if each of its members passes the check of the field that it
belongs to, or can be skipped, and no field is given twice.  What is found does not depend on the order of the
members, on which of its names a field is given under, or on members that belong to no field.

## Main definitions

- `Json.Fits`, `Json.Accepted`: the members that are taken.
- `Json.assigned`, `Json.found`: the fields that they are taken as.

## Main statements

- `Json.ofJson_object_eq_ok_iff`: when an object is taken, and as which fields.
- `Json.Accepted.perm`, `Json.get?_found_perm`: the order of its members does not matter.
- `Json.accepted_middle_field`, `Json.accepted_middle_other`, `Json.get?_found_middle`: what one member adds.
-/

namespace ChainProvision

/-- The names under which a field is given. -/
def Wire.Field.names (f : Json.Field) : List String := f.name :: f.others

theorem Wire.Field.answersTo_iff {f : Json.Field} {key : String} : f.answersTo key = true ↔ key ∈ f.names := by
  simp [answersTo, names]

namespace Json

variable {fields : List Field} {f : Field} {members members' before after : List (Key × Json)}

/-! ## Fields and their names -/

/-- No name is that of two fields. -/
def Separate (fields : List Field) : Prop := (fields.flatMap Wire.Field.names).Nodup

instance (fields : List Field) : Decidable (Separate fields) := inferInstanceAs (Decidable (List.Nodup _))

/-- The field that a name belongs to. -/
def owner? (fields : List Field) (key : String) : Option Field := fields.find? fun f => f.answersTo key

theorem mem_of_owner? {key : String} (h : owner? fields key = some f) : f ∈ fields ∧ key ∈ f.names := by
  have hanswers := List.find?_some (p := fun f : Field => f.answersTo key) h
  exact ⟨List.mem_of_find?_eq_some h, Wire.Field.answersTo_iff.mp hanswers⟩

theorem owner?_eq_some_iff (h : Separate fields) {key : String} :
    owner? fields key = some f ↔ f ∈ fields ∧ key ∈ f.names := by
  refine ⟨mem_of_owner?, ?_⟩
  rintro ⟨hf, hkey⟩
  cases hfind : owner? fields key with
  | none =>
    have hno := List.find?_eq_none.mp hfind f hf
    exact absurd (Wire.Field.answersTo_iff.mpr hkey) hno
  | some g =>
    obtain ⟨hg, hkey'⟩ := mem_of_owner? hfind
    -- Otherwise two fields would share the name.
    by_contra hne
    have hsymm : Std.Symm (Function.onFun List.Disjoint Wire.Field.names) := ⟨fun _ _ h _ hb ha => h ha hb⟩
    have hdisjoint := (List.nodup_flatMap.mp h).2.forall hg hf fun heq => hne (congrArg some heq)
    exact hdisjoint hkey' hkey

theorem owner?_eq_none {key : String} (h : ∀ f ∈ fields, key ∉ f.names) : owner? fields key = none := by
  rw [owner?, List.find?_eq_none]
  intro f hf hanswers
  exact h f hf (Wire.Field.answersTo_iff.mp hanswers)

/-! ## Which members are taken -/

/-- A member passes the check of its field; if it belongs to none it can be skipped. -/
inductive Fits (fields : List Field) : Key × Json → Prop where
  | field {key : String} {v : Json} {f : Field} :
      owner? fields key = some f → f.check v = .ok () → Fits fields (.name key, v)
  | other {key : String} {v : Json} :
      owner? fields key = none → v.isWhole = true → Fits fields (.name key, v)

/-- The field that a member is taken as, with its value. -/
def assign? (fields : List Field) (member : Key × Json) : Option (String × Json) :=
  (member.1.name?.bind (owner? fields)).map fun f => (f.name, member.2)

/-- The members that belong to fields, under the names of those. -/
def assigned (fields : List Field) (members : List (Key × Json)) : List (String × Json) :=
  members.filterMap (assign? fields)

theorem assigned_append : assigned fields (members ++ members') = assigned fields members ++ assigned fields members' :=
  List.filterMap_append

theorem assigned_field {key : String} {v : Json} (h : owner? fields key = some f) :
    assigned fields ((.name key, v) :: members) = (f.name, v) :: assigned fields members := by
  apply List.filterMap_cons_some
  simp [assign?, Key.name?, h]

theorem assigned_other {key : String} {v : Json} (h : owner? fields key = none) :
    assigned fields ((.name key, v) :: members) = assigned fields members := by
  apply List.filterMap_cons_none
  simp [assign?, Key.name?, h]

/-- Members that are taken as the fields of a record. -/
structure Accepted (fields : List Field) (members : List (Key × Json)) : Prop where
  fits : ∀ member ∈ members, Fits fields member
  distinct : ((assigned fields members).map Prod.fst).Nodup

/-- The fields that members are taken as. -/
def found (fields : List Field) (members : List (Key × Json)) : Fields :=
  ⟨(assigned fields members).reverse, false⟩

private theorem Accepted.head {member : Key × Json} (h : Accepted fields (member :: members)) :
    Fits fields member := h.fits member List.mem_cons_self

private theorem accepted_other {key : String} {v : Json} (hnone : owner? fields key = none) :
    Accepted fields ((.name key, v) :: members) ↔ v.isWhole = true ∧ Accepted fields members := by
  constructor
  · rintro ⟨hfits, hdistinct⟩
    rw [assigned_other hnone] at hdistinct
    obtain ⟨hmember, hrest⟩ := List.forall_mem_cons.mp hfits
    cases hmember with
    | field hsome _ => cases hnone.symm.trans hsome
    | other _ hwhole => exact ⟨hwhole, hrest, hdistinct⟩
  · rintro ⟨hwhole, hfits, hdistinct⟩
    refine ⟨List.forall_mem_cons.mpr ⟨.other hnone hwhole, hfits⟩, ?_⟩
    rw [assigned_other hnone]
    exact hdistinct

private theorem accepted_field {key : String} {v : Json} (hsome : owner? fields key = some f) :
    Accepted fields ((.name key, v) :: members) ↔
      f.check v = .ok () ∧ f.name ∉ (assigned fields members).map Prod.fst ∧ Accepted fields members := by
  constructor
  · rintro ⟨hfits, hdistinct⟩
    rw [assigned_field hsome, List.map_cons, List.nodup_cons] at hdistinct
    obtain ⟨hmember, hrest⟩ := List.forall_mem_cons.mp hfits
    cases hmember with
    | field hsome' hcheck =>
      obtain rfl := Option.some.inj (hsome.symm.trans hsome')
      exact ⟨hcheck, hdistinct.1, hrest, hdistinct.2⟩
    | other hnone _ => cases hnone.symm.trans hsome
  · rintro ⟨hcheck, hfresh, hfits, hdistinct⟩
    refine ⟨List.forall_mem_cons.mpr ⟨.field hsome hcheck, hfits⟩, ?_⟩
    rw [assigned_field hsome, List.map_cons]
    exact List.nodup_cons.mpr ⟨hfresh, hdistinct⟩

/-- From the left, each member is taken that fits and gives no field that was found before. -/
theorem collectMembers_eq_ok_iff {sofar all : List (String × Json)} :
    Wire.collectMembers Key.asName isWhole fields sofar members = .ok all ↔
      Accepted fields members ∧ (∀ p ∈ assigned fields members, ∀ q ∈ sofar, q.1 ≠ p.1) ∧
        all = (assigned fields members).reverse ++ sofar := by
  -- By induction on the members; what the first of them is assigned to joins what was found before the rest.
  induction members generalizing sofar with
  | nil =>
    have hnil : Accepted fields [] := ⟨nofun, List.nodup_nil⟩
    constructor
    · intro h
      exact ⟨hnil, nofun, (Except.ok.inj h).symm⟩
    · rintro ⟨-, -, rfl⟩
      rfl
  | cons member members ih =>
    obtain ⟨key, v⟩ := member
    cases key with
    | garbled => exact iff_of_false nofun fun h => nomatch h.1.head
    | broken => exact iff_of_false nofun fun h => nomatch h.1.head
    | name key =>
      cases howner : owner? fields key with
      | none =>
        have hstep : Wire.collectMembers Key.asName isWhole fields sofar ((.name key, v) :: members) =
            if v.isWhole then Wire.collectMembers Key.asName isWhole fields sofar members
            else .error .malformed := by
          rw [Wire.collectMembers]
          simp only [Key.asName, Key.name?, bind, Except.bind, show fields.find? _ = none from howner]
          rfl
        rw [hstep, accepted_other howner, assigned_other howner]
        cases hwhole : v.isWhole with
        | false => simp
        | true => simp [ih]
      | some f =>
        have hstep : Wire.collectMembers Key.asName isWhole fields sofar ((.name key, v) :: members) =
            if sofar.any fun p => p.1 == f.name then .error (.duplicateField f.name)
            else f.check v >>= fun _ =>
              Wire.collectMembers Key.asName isWhole fields ((f.name, v) :: sofar) members := by
          rw [Wire.collectMembers]
          simp only [Key.asName, Key.name?, bind, Except.bind, show fields.find? _ = some f from howner]
          rfl
        rw [hstep, accepted_field howner, assigned_field howner]
        by_cases hgiven : ∃ q ∈ sofar, q.1 = f.name
        · -- The field was found before.
          obtain ⟨q, hq, hname⟩ := hgiven
          have hany : (sofar.any fun p => p.1 == f.name) = true :=
            List.any_eq_true.mpr ⟨q, hq, by simpa using hname⟩
          rw [if_pos hany]
          exact iff_of_false nofun fun h => h.2.1 _ List.mem_cons_self q hq hname
        · have hnew : ¬ (sofar.any fun p => p.1 == f.name) = true := by
            rw [List.any_eq_true]
            exact fun ⟨q, hq, hname⟩ => hgiven ⟨q, hq, beq_iff_eq.mp hname⟩
          rw [if_neg hnew]
          cases hcheck : f.check v with
          | error e => exact iff_of_false nofun fun h => nomatch h.1.1
          | ok u =>
            show Wire.collectMembers Key.asName isWhole fields ((f.name, v) :: sofar) members = .ok all ↔ _
            rw [ih]
            -- That the field is not given again is asked of what was found on the left, of the members on the right.
            constructor
            · rintro ⟨haccepted, hother, rfl⟩
              refine ⟨⟨rfl, ?_, haccepted⟩, ?_, by simp⟩
              · intro hmem
                obtain ⟨p, hp, hname⟩ := List.mem_map.mp hmem
                exact hother p hp _ List.mem_cons_self hname.symm
              · intro p hp q hq
                rcases List.mem_cons.mp hp with rfl | hp
                · exact fun hname => hgiven ⟨q, hq, hname⟩
                · exact hother p hp q (List.mem_cons_of_mem _ hq)
            · rintro ⟨⟨-, hfresh, haccepted⟩, hother, rfl⟩
              refine ⟨haccepted, ?_, by simp⟩
              intro p hp q hq
              rcases List.mem_cons.mp hq with rfl | hq
              · exact fun hname => hfresh (List.mem_map.mpr ⟨p, hp, hname.symm⟩)
              · exact hother p (List.mem_cons_of_mem _ hp) q hq

/-- **An object is taken just if its members are**, and as the fields that these belong to. -/
theorem ofJson_object_eq_ok_iff {fs : Fields} :
    Fields.ofJson fields (.object members) = .ok fs ↔ Accepted fields members ∧ fs = found fields members := by
  rw [Fields.ofJson]
  cases hcollect : Wire.collectMembers Key.asName isWhole fields [] members with
  | error e =>
    refine iff_of_false nofun fun ⟨haccepted, _⟩ => ?_
    rw [collectMembers_eq_ok_iff.mpr ⟨haccepted, by simp, rfl⟩] at hcollect
    cases hcollect
  | ok all =>
    obtain ⟨haccepted, -, rfl⟩ := collectMembers_eq_ok_iff.mp hcollect
    rw [List.append_nil]
    constructor
    · intro h
      exact ⟨haccepted, (Except.ok.inj h).symm⟩
    · rintro ⟨-, rfl⟩
      rfl

/-! ## What is found -/

theorem get?_found_eq_some_iff (h : Accepted fields members) {name : String} {v : Json} :
    (found fields members).get? name = some v ↔ (name, v) ∈ assigned fields members := by
  rw [found, Wire.Fields.get?, List.lookup_eq_some_iff]
  constructor
  · rintro ⟨front, back, heq, -⟩
    rw [← List.mem_reverse, show (assigned fields members).reverse = _ from heq]
    exact List.mem_append_right _ List.mem_cons_self
  · intro hmem
    obtain ⟨front, back, heq⟩ := List.mem_iff_append.mp (List.mem_reverse.mpr hmem)
    refine ⟨front, back, heq, fun p hp => ?_⟩
    -- No other member is assigned to the same field.
    have hdistinct := List.nodup_reverse.mpr h.distinct
    rw [← List.map_reverse, heq, List.map_append, List.map_cons, List.nodup_append] at hdistinct
    have hne := hdistinct.2.2 p.1 (List.mem_map_of_mem hp) name List.mem_cons_self
    simpa using Ne.symm hne

/-- Members in another order are taken as well. -/
theorem Accepted.perm (h : Accepted fields members) (hperm : members.Perm members') :
    Accepted fields members' :=
  ⟨fun member hmember => h.fits member (hperm.mem_iff.mpr hmember),
    ((hperm.filterMap _).map Prod.fst).nodup_iff.mp h.distinct⟩

theorem get?_found_perm (h : Accepted fields members) (hperm : members.Perm members') (name : String) :
    (found fields members').get? name = (found fields members).get? name := by
  apply Option.ext
  intro v
  rw [get?_found_eq_some_iff (h.perm hperm), get?_found_eq_some_iff h]
  exact (hperm.filterMap _).mem_iff.symm

/-! ## Changes of one member -/

private theorem assigned_middle {key : String} {v : Json} (hsome : owner? fields key = some f) :
    assigned fields (before ++ (.name key, v) :: after) =
      assigned fields before ++ (f.name, v) :: assigned fields after := by
  rw [assigned_append, assigned_field hsome]

/-- A member that belongs to a field can stand anywhere, if the field is given nowhere else. -/
theorem accepted_middle_field {key : String} {v : Json} (hsome : owner? fields key = some f) :
    Accepted fields (before ++ (.name key, v) :: after) ↔
      f.check v = .ok () ∧ f.name ∉ (assigned fields (before ++ after)).map Prod.fst ∧
        Accepted fields (before ++ after) := by
  rw [← accepted_field hsome]
  exact ⟨fun h => h.perm List.perm_middle, fun h => h.perm List.perm_middle.symm⟩

/-- A member that belongs to no field can stand anywhere. -/
theorem accepted_middle_other {key : String} {v : Json} (hnone : owner? fields key = none) :
    Accepted fields (before ++ (.name key, v) :: after) ↔
      v.isWhole = true ∧ Accepted fields (before ++ after) := by
  rw [← accepted_other hnone]
  exact ⟨fun h => h.perm List.perm_middle, fun h => h.perm List.perm_middle.symm⟩

/-- Nothing is found through a member that belongs to no field. -/
theorem found_middle_other {key : String} {v : Json} (hnone : owner? fields key = none) :
    found fields (before ++ (.name key, v) :: after) = found fields (before ++ after) := by
  rw [found, found, assigned_append, assigned_other hnone, assigned_append]

/-- A member that belongs to a field is what is found for it, and nothing else is found through it. -/
theorem get?_found_middle {key : String} {v : Json} (hsome : owner? fields key = some f)
    (h : Accepted fields (before ++ (.name key, v) :: after)) (name : String) :
    (found fields (before ++ (.name key, v) :: after)).get? name =
      if name = f.name then some v else (found fields (before ++ after)).get? name := by
  have hfresh := ((accepted_middle_field hsome).mp h).2.1
  simp only [found, Wire.Fields.get?, assigned_middle hsome, assigned_append, List.reverse_append,
    List.reverse_cons, List.lookup_append, List.lookup_cons, List.lookup_nil]
  by_cases hname : name = f.name
  · -- No other member is assigned to the field.
    have hafter : (assigned fields after).reverse.lookup name = none := by
      rw [List.lookup_eq_none_iff]
      intro p hp
      rw [bne_iff_ne]
      rintro rfl
      apply hfresh
      rw [assigned_append, ← hname]
      exact List.mem_map_of_mem (List.mem_append_right _ (List.mem_reverse.mp hp))
    rw [hafter, if_pos hname, beq_iff_eq.mpr hname]
    rfl
  · rw [if_neg hname, beq_eq_false_iff_ne.mpr hname, Option.or_none]

/-- Nothing is found for a field that no member is assigned to. -/
theorem get?_found_eq_none {name : String} (h : name ∉ (assigned fields members).map Prod.fst) :
    (found fields members).get? name = none := by
  rw [found, Wire.Fields.get?, List.lookup_eq_none_iff]
  intro p hp
  rw [bne_iff_ne]
  rintro rfl
  exact h (List.mem_map_of_mem (List.mem_reverse.mp hp))

/-- No member is assigned to a field of whose names none is given. -/
theorem not_assigned (hseparate : Separate fields) (hf : f ∈ fields)
    (habsent : ∀ key ∈ f.names, ∀ v, (Key.name key, v) ∉ members) :
    f.name ∉ (assigned fields members).map Prod.fst := by
  intro hmem
  obtain ⟨p, hp, hname⟩ := List.mem_map.mp hmem
  obtain ⟨⟨key, v⟩, hmember, hassign⟩ := List.mem_filterMap.mp hp
  obtain ⟨g, howner, rfl⟩ := Option.map_eq_some_iff.mp hassign
  obtain ⟨name, hkey, howner⟩ := Option.bind_eq_some_iff.mp howner
  obtain ⟨hg, hgname⟩ := mem_of_owner? howner
  -- The field that the member belongs to shares its own name with the given one.
  have hself : owner? fields f.name = some f :=
    (owner?_eq_some_iff hseparate).mpr ⟨hf, List.mem_cons_self⟩
  have hother : owner? fields f.name = some g :=
    (owner?_eq_some_iff hseparate).mpr ⟨hg, hname ▸ List.mem_cons_self⟩
  obtain rfl := Option.some.inj (hself.symm.trans hother)
  cases key with
  | name s =>
    obtain rfl := Option.some.inj hkey
    exact habsent _ hgname v hmember
  | garbled => cases hkey
  | broken => cases hkey

end Json

end ChainProvision
