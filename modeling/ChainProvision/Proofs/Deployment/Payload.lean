import ChainProvision.Proofs.Identity.Label

/-!
# Job arguments on chain

The arguments of a job are written as one object: every field under its name, with a stack just if one is given
that is not blank, and with an environment just if it is not empty.  Nothing is lost, so different arguments are
written differently.

## Main definitions

- `Form.IsWrittenAs`: the members that say what a form says.
- `Arguments.field?`: what is written under a name.

## Main statements

- `Arguments.toJson_eq_record`, `Arguments.lookup_members`: arguments are written by their fields.
- `Arguments.toJson_injective`: arguments that are written alike are the same.
- `Form.arguments_written_faithfully`: the payload of a form says what the form says.
-/

namespace ChainProvision

namespace Form

/-- An object with these members says what a form says, and nothing else: the resource name in its normal form,
the image without blanks around it, a stack that is not blank, and an environment that is not empty. -/
structure IsWrittenAs (f : Form) (members : List (String × Json)) : Prop where
  distinct : (members.map Prod.fst).Nodup
  name : members.lookup "name" = some (.string (Text.trim f.name).toLower)
  image : members.lookup "image" = some (.string (Text.trim f.image))
  stack : ∀ v, members.lookup "stack" = some v ↔
    ∃ stack, f.stack = some stack ∧ Text.trim stack ≠ "" ∧ v = .string stack
  cpuCores : members.lookup "cpuCores" = some (.nat f.cpuCores.val)
  memoryMb : members.lookup "memoryMb" = some (.nat f.memoryMb.val)
  diskGb : members.lookup "diskGb" = some (.nat f.diskGb.val)
  environment : ∀ v, members.lookup "env" = some v ↔ f.environment.bindings ≠ [] ∧
    v = .record (f.environment.bindings.map fun (name, value) => (name, .string value))
  sshEnabled : members.lookup "sshEnabled" = some (.bool f.sshEnabled)
  only : ∀ key ∈ members.map Prod.fst,
    key ∈ ["name", "image", "stack", "cpuCores", "memoryMb", "diskGb", "env", "sshEnabled"]

end Form

/-! ## Arguments by their fields -/

namespace Arguments

/-- The names that arguments are written under, in their order. -/
def fieldNames : List String := ["name", "image", "stack", "cpuCores", "memoryMb", "diskGb", "env", "sshEnabled"]

/-- What is written under a name. -/
def field? (a : Arguments) : String → Option Json
  | "name" => some (.string a.name)
  | "image" => some (.string a.image)
  | "stack" => a.stack.map .string
  | "cpuCores" => some (.nat a.cpuCores.val)
  | "memoryMb" => some (.nat a.memoryMb.val)
  | "diskGb" => some (.nat a.diskGb.val)
  | "env" => if a.environment.bindings = [] then none else some a.environment.toJson
  | "sshEnabled" => some (.bool a.sshEnabled)
  | _ => none

/-- The members that arguments are written as. -/
def members (a : Arguments) : List (String × Json) :=
  fieldNames.filterMap fun name => (a.field? name).map (name, ·)

variable (a : Arguments)

theorem toJson_eq_record : a.toJson = .record a.members := by
  obtain ⟨name, image, stack, cpuCores, memoryMb, diskGb, ⟨bindings⟩, sshEnabled⟩ := a
  cases stack <;> cases bindings <;> rfl

/-- Among some of the fields, one is found under its name if it is one of them. -/
private theorem lookup_fields (key : String) (names : List String) :
    (names.filterMap fun name => (a.field? name).map (name, ·)).lookup key =
      if key ∈ names then a.field? key else none := by
  induction names with
  | nil => rfl
  | cons name names ih =>
    by_cases hkey : key = name
    · subst hkey
      -- A field that is not written is not found among the others either.
      cases hfield : a.field? key with
      | none => simp [hfield, ih]
      | some v => simp [hfield]
    · cases hfield : a.field? name with
      | none => simp [hfield, ih, hkey]
      | some v =>
        have hne : (key == name) = false := beq_eq_false_iff_ne.mpr hkey
        simp [hfield, ih, hkey, List.lookup_cons, hne]

theorem lookup_members (key : String) : a.members.lookup key = a.field? key := by
  rw [members, lookup_fields]
  split
  · rfl
  · rename_i hkey
    simp only [fieldNames, List.mem_cons, List.not_mem_nil, not_or] at hkey
    simp [field?, hkey]

private theorem sublist_fields (names : List String) :
    ((names.filterMap fun name => (a.field? name).map (name, ·)).map Prod.fst).Sublist names := by
  induction names with
  | nil => exact List.nil_sublist _
  | cons name names ih =>
    cases hfield : a.field? name with
    | none => simpa [hfield] using ih.cons name
    | some v => simpa [hfield] using ih

theorem sublist_fieldNames : (a.members.map Prod.fst).Sublist fieldNames := a.sublist_fields fieldNames

theorem isWritable_of_field? {a : Arguments} {key : String} {v : Json} (h : a.field? key = some v) :
    v.isWritable = true := by
  unfold field? at h
  split at h
  case h_3 =>
    obtain ⟨stack, -, rfl⟩ := Option.map_eq_some_iff.mp h
    rfl
  case h_7 =>
    obtain ⟨-, henv⟩ := Option.ite_none_left_eq_some.mp h
    obtain rfl := Option.some.inj henv
    apply Json.isWritable_record
    intro p hp
    obtain ⟨binding, -, rfl⟩ := List.mem_map.mp hp
    rfl
  case h_9 => cases h
  all_goals
    obtain rfl := Option.some.inj h
    rfl

theorem isWritable_toJson : a.toJson.isWritable = true := by
  rw [toJson_eq_record]
  apply Json.isWritable_record
  intro p hp
  obtain ⟨name, -, hp⟩ := List.mem_filterMap.mp hp
  obtain ⟨v, hv, rfl⟩ := Option.map_eq_some_iff.mp hp
  exact isWritable_of_field? hv

/-- An empty environment is not written, and no other one is the empty object. -/
private theorem environment_toJson_eq : a.environment.toJson = (a.field? "env").getD (.record []) := by
  show _ = Option.getD (if a.environment.bindings = [] then none else some a.environment.toJson) _
  split
  · rename_i hempty
    rw [Environment.toJson, hempty]
    rfl
  · rfl

private theorem environment_injective {e e' : Environment} (h : e.toJson = e'.toJson) : e = e' := by
  obtain ⟨bindings⟩ := e
  obtain ⟨bindings'⟩ := e'
  have hmap := Json.record_injective h
  congr
  refine (List.map_inj_right ?_).mp hmap
  rintro ⟨name, value⟩ ⟨name', value'⟩ heq
  cases heq
  rfl

private theorem number_injective {n m : Word32} (h : some (Json.nat n.val) = some (Json.nat m.val)) : n = m := by
  have hnumber := Json.number.inj (Option.some.inj h)
  exact Fin.ext (congrArg Number.whole hnumber)

/-- **Arguments that are written alike are the same.** -/
theorem toJson_injective {a b : Arguments} (h : a.toJson = b.toJson) : a = b := by
  have hmembers : a.members = b.members := by
    rw [toJson_eq_record, toJson_eq_record] at h
    exact Json.record_injective h
  have hfield : ∀ key, a.field? key = b.field? key := fun key => by
    rw [← lookup_members, ← lookup_members, hmembers]
  have henv : a.environment = b.environment := by
    apply environment_injective
    rw [environment_toJson_eq, environment_toJson_eq, hfield]
  obtain ⟨name, image, stack, cpuCores, memoryMb, diskGb, environment, sshEnabled⟩ := a
  obtain ⟨name', image', stack', cpuCores', memoryMb', diskGb', environment', sshEnabled'⟩ := b
  obtain rfl : name = name' := Json.string.inj (Option.some.inj (hfield "name"))
  obtain rfl : image = image' := Json.string.inj (Option.some.inj (hfield "image"))
  obtain rfl : stack = stack' := Option.map_injective (fun _ _ => Json.string.inj) (hfield "stack")
  obtain rfl : cpuCores = cpuCores' := number_injective (hfield "cpuCores")
  obtain rfl : memoryMb = memoryMb' := number_injective (hfield "memoryMb")
  obtain rfl : diskGb = diskGb' := number_injective (hfield "diskGb")
  obtain rfl : sshEnabled = sshEnabled' := Json.bool.inj (Option.some.inj (hfield "sshEnabled"))
  obtain rfl : environment = environment' := henv
  rfl

end Arguments

/-! ## The payload of a form -/

namespace Form

theorem isWrittenAs_members {f : Form} {n : Name} (h : f.resourceName = .ok n) :
    f.IsWrittenAs (f.arguments n).members where
  distinct := (Arguments.sublist_fieldNames _).nodup (by decide)
  name := by
    rw [Arguments.lookup_members, ← Name.text_eq_of_read h]
    rfl
  image := Arguments.lookup_members _ _
  stack v := by
    rw [Arguments.lookup_members]
    show (f.stack.filter fun s => !Text.isBlankText s).map Json.string = some v ↔ _
    rw [Option.map_eq_some_iff]
    constructor
    · rintro ⟨stack, hstack, rfl⟩
      obtain ⟨hstack, hblank⟩ := Option.filter_eq_some_iff.mp hstack
      -- A text is blank just if nothing is left of it without the blanks at its ends.
      refine ⟨stack, hstack, ?_, rfl⟩
      rw [ne_eq, Text.trim_eq_empty_iff]
      simpa using hblank
    · rintro ⟨stack, hstack, hblank, rfl⟩
      rw [ne_eq, Text.trim_eq_empty_iff] at hblank
      exact ⟨stack, Option.filter_eq_some_iff.mpr ⟨hstack, by simpa using hblank⟩, rfl⟩
  cpuCores := Arguments.lookup_members _ _
  memoryMb := Arguments.lookup_members _ _
  diskGb := Arguments.lookup_members _ _
  environment v := by
    rw [Arguments.lookup_members]
    show (if f.environment.bindings = [] then none else some f.environment.toJson) = some v ↔ _
    rw [Option.ite_none_left_eq_some, Option.some.injEq, eq_comm (b := v)]
    rfl
  sshEnabled := Arguments.lookup_members _ _
  only _ hkey := (Arguments.sublist_fieldNames _).subset hkey

/-- **The payload of a form says what the form says**: its bytes are one object with the fields of the form, and
payloads of different arguments differ. -/
theorem arguments_written_faithfully :
    (∀ (f : Form) (n : Name), f.resourceName = .ok n →
      ∃ payload members, Encoder.json.encode (f.arguments n) = .ok payload ∧
        Json.ofBytes? payload.toUTF8.data.toList = some (.record members) ∧ f.IsWrittenAs members) ∧
    ∀ (a b : Arguments) (payload other : String), Encoder.json.encode a = .ok payload →
      Encoder.json.encode b = .ok other → a ≠ b → payload.toUTF8 ≠ other.toUTF8 := by
  constructor
  · intro f n h
    refine ⟨(f.arguments n).toJson.text, (f.arguments n).members, rfl, ?_, isWrittenAs_members h⟩
    rw [← Arguments.toJson_eq_record]
    exact Json.ofBytes?_toUTF8 (Arguments.isWritable_toJson _)
  · intro a b payload other ha hb hne hbytes
    obtain rfl : a.toJson.text = payload := Except.ok.inj ha
    obtain rfl : b.toJson.text = other := Except.ok.inj hb
    have hread := Json.ofBytes?_toUTF8 a.isWritable_toJson
    rw [hbytes, Json.ofBytes?_toUTF8 b.isWritable_toJson] at hread
    exact hne (Arguments.toJson_injective (Option.some.inj hread).symm)

private theorem isLabel_box : Name.IsLabel "box".toList := by decide +kernel

theorem arguments_written_faithfully_escapes :
    let form : Form :=
      { name := " Box\t", image := "\u3000a\"b\\c\x01é😀 ", stack := some " ",
        environment := Environment.empty.insert "K\n" "\x7f/" }
    let other : Form := { form with stack := some " s" }
    let box : Name := ⟨"box".toList, isLabel_box⟩
    form.resourceName = .ok box ∧
      (∃ payload members, Encoder.json.encode (form.arguments box) = .ok payload ∧
        Json.ofBytes? payload.toUTF8.data.toList = some (.record members) ∧ form.IsWrittenAs members) ∧
      form.arguments box ≠ other.arguments box ∧
      (form.arguments box).toJson.text.toUTF8 ≠ (other.arguments box).toJson.text.toUTF8 := by
  intro form other box
  obtain ⟨hfaithful, hdifferent⟩ := arguments_written_faithfully
  have hname : form.resourceName = .ok box := by decide +kernel
  have hne : form.arguments box ≠ other.arguments box := by decide +kernel
  exact ⟨hname, hfaithful form box hname, hne, hdifferent _ _ _ _ rfl rfl hne⟩

end Form

end ChainProvision
