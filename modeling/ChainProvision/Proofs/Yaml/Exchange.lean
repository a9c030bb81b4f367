import ChainProvision.Proofs.Yaml.Members

/-!
# A value exchanged for another

Two mappings that differ in the value of one member give the same fields but for that value, if its field takes
both.  If the field refuses the other value, the mapping is refused for the same reason, as what stands in front of
it was taken.

## Main definitions

- `Yaml.Surroundings.IsText`: a node is a text, or an alias of one;
- `Yaml.exchange`: what is found for the fields, with another value for one of them.

## Main statements

- `Yaml.result_asNumberOrText`: a text is read as such where it could be a number too.
- `Yaml.fieldsOf_exchange`, `Yaml.fieldsOf_refused`: what is found in a mapping with another value in it.
-/

namespace ChainProvision.Yaml

variable {α β : Type} {fields : List Field} {f : Field} {name : String}

/-! ## Runs of readings -/

namespace Reading

variable {x : Reading α} {s : Surroundings} {k k' k'' : Nat} {a : α} {b : β} {e : Fault}

theorem run_bind (x : Reading α) (g : α → Reading β) (s : Surroundings) (k : Nat) :
    (x >>= g) s k = x s k >>= fun p => g p.1 s p.2 := rfl

/-- After a reading that gives a value, the next one goes on with it. -/
theorem bind_of_ok (h : x s k = .ok (a, k')) (g : α → Reading β) : (x >>= g) s k = g a s k' := by
  rw [run_bind, h]
  rfl

/-- After a reading that fails there is no next one. -/
theorem bind_of_error (h : x s k = .error e) (g : α → Reading β) : (x >>= g) s k = .error e := by
  rw [run_bind, h]
  rfl

theorem bind_eq_ok_iff {g : α → Reading β} :
    (x >>= g) s k = .ok (b, k'') ↔ ∃ a k', x s k = .ok (a, k') ∧ g a s k' = .ok (b, k'') := by
  cases h : x s k with
  | error e =>
    rw [bind_of_error h]
    exact ⟨nofun, nofun⟩
  | ok p =>
    obtain ⟨a, k'⟩ := p
    rw [bind_of_ok h]
    constructor
    · exact fun hg => ⟨a, k', rfl, hg⟩
    · rintro ⟨a, k', ⟨⟩, hg⟩
      exact hg

theorem map_eq_ok_iff {g : α → β} : (g <$> x) s k = .ok (b, k') ↔ ∃ a, x s k = .ok (a, k') ∧ g a = b := by
  rw [map_eq_pure_bind, bind_eq_ok_iff]
  constructor
  · rintro ⟨a, k', h, ⟨⟩⟩
    exact ⟨a, h, rfl⟩
  · rintro ⟨a, h, rfl⟩
    exact ⟨a, k', h, rfl⟩

theorem run_result (x : Reading α) (s : Surroundings) : x.result s = (x s 0).map (·.1) := rfl

theorem result_eq_ok_iff : x.result s = .ok a ↔ ∃ k, x s 0 = .ok (a, k) := by
  rw [run_result]
  cases x s 0 with
  | error e => exact ⟨nofun, nofun⟩
  | ok p =>
    obtain ⟨b, k⟩ := p
    constructor
    · rintro ⟨⟩
      exact ⟨k, rfl⟩
    · rintro ⟨k, ⟨⟩⟩
      rfl

theorem result_of_error (h : x s 0 = .error e) : x.result s = .error e := by
  rw [run_result, h]
  rfl

/-- What is read again counts no aliases. -/
theorem again_still (h : x.again s k = .ok (a, k')) : k' = k := by
  unfold again at h
  cases hx : x.result s with
  | error e =>
    rw [hx] at h
    cases h
  | ok b =>
    rw [hx] at h
    cases h
    rfl

end Reading

/-! ## Texts -/

/-- A node is a text, or stands for one. -/
def Surroundings.IsText (s : Surroundings) (n : Node) (text : String) : Prop :=
  ∃ scalar, (target n).result s = .ok (.scalar scalar) ∧ scalar.meaning = .text text

theorem isText_scalar {scalar : Scalar} {text : String} (h : scalar.meaning = .text text) (s : Surroundings) :
    s.IsText (.scalar scalar) text := ⟨scalar, rfl, h⟩

/-- A text is read as such where it could be a number too, also by an alias. -/
theorem result_asNumberOrText {s : Surroundings} {n : Node} {text : String} (h : s.IsText n text) (type : String)
    (ofNumber : Word64 → α) (ofText : String → Except Fault α) :
    (asNumberOrText type ofNumber ofText n).result s = ofText text := by
  obtain ⟨scalar, htarget, hmeaning⟩ := h
  obtain ⟨k, hrun⟩ := Reading.result_eq_ok_iff.mp htarget
  -- From the scalar on, the node is read like the scalar itself.
  have hscalar : asNumberOrText type ofNumber ofText n s 0 =
      asNumberOrText type ofNumber ofText (.scalar scalar) s k := by
    unfold asNumberOrText
    rw [Reading.bind_of_ok hrun]
    rfl
  rw [Reading.run_result, hscalar, asNumberOrText_text hmeaning]
  cases ofText text <;> rfl

/-! ## Members one by one -/

/-- The fields found after one more member. -/
def takeMember (fields : List Field) (found : List (String × Node)) (member : Node × Node) :
    Reading (List (String × Node)) := do
  let key ← asText member.1
  match fields.find? fun f => f.answersTo key with
  | some f =>
    if found.any fun p => p.1 == f.name then throw (.duplicateField f.name)
    else
      f.check member.2
      return (f.name, member.2) :: found
  | none => if member.2.isWhole then return found else throw .malformed

/-- **Members are taken one after another.** -/
theorem collectMembers_eq_foldlM (found : List (String × Node)) (members : List (Node × Node)) :
    Wire.collectMembers asText Node.isWhole fields found members = members.foldlM (takeMember fields) found := by
  induction members generalizing found with
  | nil => rfl
  | cons member members ih =>
    obtain ⟨key, v⟩ := member
    rw [Wire.collectMembers, List.foldlM_cons, takeMember, bind_assoc]
    congr 1
    funext key
    cases fields.find? fun f => f.answersTo key with
    | some f =>
      by_cases hfound : (found.any fun p => p.1 == f.name) = true
      · simp only [if_pos hfound]
        rfl
      · simp only [if_neg hfound, bind_assoc, pure_bind, ih]
    | none =>
      by_cases hwhole : v.isWhole = true
      · simp only [if_pos hwhole, pure_bind, ih]
      · simp only [if_neg hwhole]
        rfl

/-- A member under a field's name is taken if the field takes its value and did not come before. -/
theorem takeMember_of_name {key v : Node} (hkey : asText key = pure name)
    (hfind : fields.find? (·.answersTo name) = some f) (found : List (String × Node)) :
    takeMember fields found (key, v) =
      if found.any fun p => p.1 == f.name then throw (.duplicateField f.name)
      else f.check v >>= fun _ => pure ((f.name, v) :: found) := by
  unfold takeMember
  simp only [hkey, pure_bind, hfind]

/-! ## The value of one field -/

/-- What was found, with another value for the field of the given name. -/
def exchange (name : String) (v : Node) (found : List (String × Node)) : List (String × Node) :=
  found.map fun p => if p.1 = name then (name, v) else p

theorem any_exchange (name other : String) (v : Node) (found : List (String × Node)) :
    ((exchange name v found).any fun p => p.1 == other) = found.any fun p => p.1 == other := by
  unfold exchange
  rw [List.any_map]
  congr 1
  funext p
  dsimp only [Function.comp_apply]
  split
  · rename_i hname
    rw [hname]
  · rfl

theorem lookup_exchange_of_ne {other : String} (hne : other ≠ name) (v : Node) (found : List (String × Node)) :
    (exchange name v found).lookup other = found.lookup other := by
  unfold exchange
  induction found with
  | nil => rfl
  | cons p found ih =>
    obtain ⟨key, u⟩ := p
    rw [List.map_cons]
    split
    · rename_i hkey
      obtain rfl : key = name := hkey
      have hother : (other == key) = false := by simpa using hne
      rw [List.lookup_cons, List.lookup_cons, hother, ih]
    · rw [List.lookup_cons, List.lookup_cons, ih]

theorem lookup_exchange_self {found : List (String × Node)} (h : (found.any fun p => p.1 == name) = true)
    (v : Node) : (exchange name v found).lookup name = some v := by
  unfold exchange
  induction found with
  | nil => cases h
  | cons p found ih =>
    obtain ⟨key, u⟩ := p
    rw [List.map_cons]
    split
    · simp
    · rename_i hkey
      have hkey' : ¬ key = name := hkey
      have hother : (name == key) = false := by simpa using Ne.symm hkey'
      rw [List.lookup_cons, hother]
      apply ih
      simpa [hkey'] using h

variable {s : Surroundings} {k k' : Nat} {v v' : Node}

/-- What stands for a field does not matter to a later member. -/
private theorem takeMember_exchange {found found' : List (String × Node)} {member : Node × Node}
    (hfound : (found.any fun p => p.1 == name) = true)
    (h : takeMember fields found member s k = .ok (found', k')) :
    takeMember fields (exchange name v found) member s k = .ok (exchange name v found', k') ∧
      (found'.any fun p => p.1 == name) = true := by
  unfold takeMember at h ⊢
  obtain ⟨key, k₁, hkey, h⟩ := Reading.bind_eq_ok_iff.mp h
  rw [Reading.bind_eq_ok_iff]
  cases hfind : fields.find? fun f => f.answersTo key with
  | some f =>
    simp only [hfind] at h
    by_cases hdup : (found.any fun p => p.1 == f.name) = true
    · rw [if_pos hdup] at h
      cases h
    · rw [if_neg hdup] at h
      obtain ⟨⟨⟩, k₂, hcheck, ⟨⟩⟩ := Reading.bind_eq_ok_iff.mp h
      -- The field is another one, since this one was found already.
      have hne : ¬ f.name = name := fun heq => hdup (heq ▸ hfound)
      refine ⟨⟨key, k₁, hkey, ?_⟩, by simp [hfound]⟩
      simp only [hfind]
      rw [any_exchange, if_neg hdup, Reading.bind_eq_ok_iff]
      refine ⟨(), _, hcheck, ?_⟩
      simp only [exchange, List.map_cons, if_neg hne]
      rfl
  | none =>
    simp only [hfind] at h
    by_cases hwhole : member.2.isWhole = true
    · rw [if_pos hwhole] at h
      cases h
      refine ⟨⟨key, _, hkey, ?_⟩, hfound⟩
      simp only [hfind]
      rw [if_pos hwhole]
      rfl
    · rw [if_neg hwhole] at h
      cases h

private theorem foldlM_exchange {members : List (Node × Node)} {found all : List (String × Node)}
    (hfound : (found.any fun p => p.1 == name) = true)
    (h : members.foldlM (takeMember fields) found s k = .ok (all, k')) :
    members.foldlM (takeMember fields) (exchange name v found) s k = .ok (exchange name v all, k') ∧
      (all.any fun p => p.1 == name) = true := by
  induction members generalizing found k with
  | nil =>
    cases h
    exact ⟨rfl, hfound⟩
  | cons member members ih =>
    rw [List.foldlM_cons] at h ⊢
    obtain ⟨found', k₁, hmember, h⟩ := Reading.bind_eq_ok_iff.mp h
    obtain ⟨hmember', hfound'⟩ := takeMember_exchange (v := v) hfound hmember
    obtain ⟨hrest, hall⟩ := ih hfound' h
    exact ⟨Reading.bind_eq_ok_iff.mpr ⟨_, _, hmember', hrest⟩, hall⟩

/-! ## Mappings -/

variable {tag : Option Tag} {key : Node} {before after : List (Node × Node)} {fs : Fields}

theorem fieldsOf_mapping (fields : List Field) (tag : Option Tag) (pairs : List (Node × Node)) :
    fieldsOf fields (.mapping tag pairs) =
      (fun found => (⟨found, false⟩ : Fields)) <$> pairs.foldlM (takeMember fields) [] := by
  have htarget : target (.mapping tag pairs) = pure (.mapping tag pairs) := rfl
  rw [fieldsOf, htarget, pure_bind, map_eq_pure_bind, ← collectMembers_eq_foldlM]

/-- Where a field's value is taken, what stands in front of it was taken and the field did not come before. -/
private theorem reaches (hkey : asText key = pure f.name)
    (hfind : fields.find? (·.answersTo f.name) = some f)
    (h : fieldsOf fields (.mapping tag (before ++ (key, v) :: after)) s k = .ok (fs, k')) :
    ∃ found k₁ k₂, before.foldlM (takeMember fields) [] s k = .ok (found, k₁) ∧
      (found.any fun p => p.1 == f.name) = false ∧ f.check v s k₁ = .ok ((), k₂) ∧
      after.foldlM (takeMember fields) ((f.name, v) :: found) s k₂ = .ok (fs.values, k') ∧
      fs.byPosition = false := by
  rw [fieldsOf_mapping, Reading.map_eq_ok_iff, List.foldlM_append] at h
  obtain ⟨all, h, rfl⟩ := h
  obtain ⟨found, k₁, hbefore, h⟩ := Reading.bind_eq_ok_iff.mp h
  rw [List.foldlM_cons, takeMember_of_name hkey hfind] at h
  cases hdup : found.any fun p => p.1 == f.name with
  | true =>
    rw [hdup] at h
    cases h
  | false =>
    rw [hdup, if_neg Bool.false_ne_true, bind_assoc] at h
    obtain ⟨⟨⟩, k₂, hcheck, hafter⟩ := Reading.bind_eq_ok_iff.mp h
    rw [pure_bind] at hafter
    exact ⟨found, k₁, k₂, hbefore, hdup, hcheck, hafter, rfl⟩

/-- **Exchanging the value of a field exchanges it among what is found**, if the field takes the other value.  Both
values have to follow no aliases, since these are counted. -/
theorem fieldsOf_exchange (hkey : asText key = pure f.name)
    (hfind : fields.find? (·.answersTo f.name) = some f)
    (hstill : ∀ s k r, f.check v s k = .ok r → r.2 = k) (hcheck : f.check v' = pure ())
    (h : fieldsOf fields (.mapping tag (before ++ (key, v) :: after)) s k = .ok (fs, k')) :
    fieldsOf fields (.mapping tag (before ++ (key, v') :: after)) s k =
        .ok ({ fs with values := exchange f.name v' fs.values }, k') ∧
      (fs.values.any fun p => p.1 == f.name) = true := by
  obtain ⟨found, k₁, k₂, hbefore, hdup, hold, hafter, hposition⟩ := reaches hkey hfind h
  obtain rfl : k₂ = k₁ := hstill _ _ _ hold
  -- Among what was found before, there is nothing to exchange.
  have hexchange : exchange f.name v' ((f.name, v) :: found) = (f.name, v') :: found := by
    have hothers : ∀ p ∈ found, (if p.1 = f.name then (f.name, v') else p) = p := by
      intro p hp
      have hne := List.any_eq_false.mp hdup p hp
      rw [if_neg (by simpa using hne)]
    rw [exchange, List.map_cons, if_pos rfl, List.map_congr_left hothers, List.map_id']
  have hfound : (((f.name, v) :: found).any fun p => p.1 == f.name) = true := by simp
  obtain ⟨hafter', hall⟩ := foldlM_exchange (v := v') hfound hafter
  rw [hexchange] at hafter'
  refine ⟨?_, hall⟩
  rw [fieldsOf_mapping, Reading.map_eq_ok_iff, List.foldlM_append]
  refine ⟨exchange f.name v' fs.values, Reading.bind_eq_ok_iff.mpr ⟨found, k₂, hbefore, ?_⟩, by rw [hposition]⟩
  rw [List.foldlM_cons, takeMember_of_name hkey hfind, hdup, if_neg Bool.false_ne_true, hcheck, pure_bind, pure_bind]
  exact hafter'

/-- **A mapping is refused as one of its values is**, if it is read with another value there. -/
theorem fieldsOf_refused {e : Fault} (hkey : asText key = pure f.name)
    (hfind : fields.find? (·.answersTo f.name) = some f) (hcheck : f.check v' = throw e)
    (h : fieldsOf fields (.mapping tag (before ++ (key, v) :: after)) s k = .ok (fs, k')) :
    fieldsOf fields (.mapping tag (before ++ (key, v') :: after)) s k = .error e := by
  obtain ⟨found, k₁, k₂, hbefore, hdup, -, -, -⟩ := reaches hkey hfind h
  have hmember : takeMember fields found (key, v') = throw e := by
    rw [takeMember_of_name hkey hfind, hdup, if_neg Bool.false_ne_true, hcheck]
    rfl
  rw [fieldsOf_mapping, map_eq_pure_bind, List.foldlM_append, bind_assoc, Reading.bind_of_ok hbefore,
    List.foldlM_cons, hmember]
  rfl

/-! ## Fields -/

/-- A field of another name has the value that it had. -/
theorem required_exchange_of_ne {other : String} (hne : other ≠ name) (read : Node → Reading α) :
    required { fs with values := exchange name v fs.values } other read = required fs other read := by
  unfold required Wire.Fields.required Wire.Fields.get?
  rw [lookup_exchange_of_ne hne]

theorem defaulted_exchange_of_ne {other : String} (hne : other ≠ name) (default : α) (read : Node → Reading α) :
    defaulted { fs with values := exchange name v fs.values } other default read =
      defaulted fs other default read := by
  unfold defaulted Wire.Fields.defaulted Wire.Fields.get?
  rw [lookup_exchange_of_ne hne]

/-- The field itself has the other value. -/
theorem defaulted_exchange_self (hfound : (fs.values.any fun p => p.1 == name) = true) {default a : α}
    {read : Node → Reading α} (hread : read v = pure a) :
    defaulted { fs with values := exchange name v fs.values } name default read = pure a :=
  defaulted_pure (lookup_exchange_self hfound v) hread

theorem defaulted_still {default a : α} {read : Node → Reading α}
    (h : defaulted fs name default read s k = .ok (a, k')) : k' = k := by
  unfold defaulted Wire.Fields.defaulted at h
  cases hget : fs.get? name with
  | some v =>
    rw [hget] at h
    exact Reading.again_still h
  | none =>
    rw [hget] at h
    cases h
    rfl

end ChainProvision.Yaml
