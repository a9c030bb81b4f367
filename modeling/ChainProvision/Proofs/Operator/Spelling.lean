import ChainProvision.Proofs.Json.Members
import ChainProvision.Proofs.Text.Numeral
import ChainProvision.Proofs.Wire.Survival
import Mathlib.Logic.Relation

/-!
# How operators spell reports

Operators give some fields of a report under other names, quote the call's number or not, put the members in
any order, add members of their own, and give null for texts that they do not have.  None of this changes the
report that is read.

## Main definitions

- `Report.spellings`: the names of the fields.
- `Report.Numbered`: the ways to write the call's number.
- `Report.Respelling`: one change of the spelling.

## Main statements

- `Report.Respelling.alike`: what one change does to the fields that are found.
- `Report.ofJson_respelled`: any number of changes leave the report as it is.
- `Report.spelling_does_not_matter`: so they do in texts.
-/

namespace ChainProvision.Report

open Json (Key)

/-! ## Reports from their fields -/

/-- The report that the fields of a record give. -/
def ofFields (fs : Json.Fields) : Except Fault Report := do
  return {
    call := ← fs.required "correlationId" (Id.ofField .call)
    resource := ← fs.defaulted "resourceId" none (Json.asOption Json.asString)
    phase := ← fs.required "phase" Phase.ofJson
    message := ← fs.defaulted "message" none (Json.asOption Json.asString)
    startedAt := ← fs.defaulted "startedAt" Signed64.zero Json.asSigned
    updatedAt := ← fs.defaulted "updatedAt" Signed64.zero Json.asSigned
    percent := ← fs.defaulted "progressPercent" (.ofNat 0) percentOfJson
    endpoint := ← fs.defaulted "endpointUrl" none (Json.asOption Json.asString) }

theorem ofJson_eq (v : Json) : ofJson v = Json.Fields.ofJson fields v >>= ofFields := rfl

/-- The names of the fields of a report; those in one list are names of one field. -/
def spellings : List (List String) := [
  ["correlationId", "callId"], ["resourceId", "sandboxId"], ["phase"], ["message"], ["startedAt"],
  ["updatedAt"], ["progressPercent"], ["endpointUrl", "sidecarUrl"]]

/-- The names of the fields that are optional texts. -/
def textSpellings : List (List String) := [["resourceId", "sandboxId"], ["message"], ["endpointUrl", "sidecarUrl"]]

private theorem map_names_fields : fields.map Wire.Field.names = spellings := rfl

private theorem separate_fields : Json.Separate fields := by decide

/-- The names of one list belong to one field. -/
private theorem exists_owner {names : List String} (h : names ∈ spellings) :
    ∃ f ∈ fields, f.names = names ∧ ∀ key ∈ names, Json.owner? fields key = some f := by
  rw [← map_names_fields] at h
  obtain ⟨f, hf, rfl⟩ := List.mem_map.mp h
  exact ⟨f, hf, rfl, fun key hkey => (Json.owner?_eq_some_iff separate_fields).mpr ⟨hf, hkey⟩⟩

private theorem owner?_of_other {key : String} (h : ∀ names ∈ spellings, key ∉ names) :
    Json.owner? fields key = none := by
  apply Json.owner?_eq_none
  intro f hf
  apply h
  rw [← map_names_fields]
  exact List.mem_map_of_mem hf

/-- The field of the call's number. -/
private def callField : Json.Field := .of "correlationId" (Id.ofField .call) ["callId"]

private theorem owner?_of_call {key : String} (h : key ∈ ["correlationId", "callId"]) :
    Json.owner? fields key = some callField :=
  (Json.owner?_eq_some_iff separate_fields).mpr ⟨List.mem_cons_self, h⟩

/-- The field of an optional text. -/
private def textField (name : String) (others : List String) : Json.Field :=
  .of name (Json.asOption Json.asString) others

private theorem exists_textField {names : List String} (h : names ∈ textSpellings) :
    ∃ name others, textField name others ∈ fields ∧ names = name :: others ∧
      name ∈ ["resourceId", "message", "endpointUrl"] := by
  simp only [textSpellings, List.mem_cons, List.not_mem_nil, or_false] at h
  rcases h with rfl | rfl | rfl
  · exact ⟨"resourceId", ["sandboxId"], by simp [fields, textField], rfl, by decide⟩
  · exact ⟨"message", [], by simp [fields, textField], rfl, by decide⟩
  · exact ⟨"endpointUrl", ["sidecarUrl"], by simp [fields, textField], rfl, by decide⟩

/-! ## Changes of the spelling -/

/-- The ways to write the number of a call: as a number, or as a text with blanks around it. -/
inductive Numbered (call : CallId) : Json → Prop where
  | number : Numbered call call.toJson
  | text {before digits after : List Char} :
      (∀ c ∈ before, Text.isBlank c = true) → Text.Denotes digits call.val.val →
      (∀ c ∈ after, Text.isBlank c = true) →
      Numbered call (.string (String.ofList (before ++ (digits ++ after))))

/-- One change of the spelling of an object's members. -/
inductive Respelling : List (Key × Json) → List (Key × Json) → Prop where
  /-- A field is given under another of its names. -/
  | rename {before after : List (Key × Json)} {names : List String} {key key' : String} {v : Json} :
      names ∈ spellings → key ∈ names → key' ∈ names →
      Respelling (before ++ (.name key, v) :: after) (before ++ (.name key', v) :: after)
  /-- The call's number is written in another way. -/
  | renumber {before after : List (Key × Json)} {key : String} {v v' : Json} {call : CallId} :
      key ∈ ["correlationId", "callId"] → Id.ofField .call v = .ok call → Numbered call v' →
      Respelling (before ++ (.name key, v) :: after) (before ++ (.name key, v') :: after)
  | reorder {members members' : List (Key × Json)} : members.Perm members' → Respelling members members'
  /-- A member is added that belongs to no field. -/
  | extend {before after : List (Key × Json)} {key : String} {v : Json} :
      (∀ names ∈ spellings, key ∉ names) → v.isWhole = true →
      Respelling (before ++ after) (before ++ (.name key, v) :: after)
  /-- Null is given for an optional text that is not given. -/
  | nullify {before after : List (Key × Json)} {names : List String} {key : String} :
      names ∈ textSpellings → key ∈ names → (∀ key ∈ names, ∀ v, (Key.name key, v) ∉ before ++ after) →
      Respelling (before ++ after) (before ++ (.name key, .null) :: after)

/-- There are no blanks in a numeral. -/
private theorem isBlank_of_denotes {cs : List Char} {n : Nat} (h : Text.Denotes cs n) :
    ∀ c ∈ cs, Text.isBlank c = false := by
  obtain ⟨digits, rfl | rfl, hdigits⟩ := h
  · exact fun c hc => Text.isBlank_eq_false_of_isDigit (hdigits.isDigit c hc)
  · intro c hc
    rcases List.mem_cons.mp hc with rfl | hc
    · decide
    · exact Text.isBlank_eq_false_of_isDigit (hdigits.isDigit c hc)

/-- However the call's number is written, it is read. -/
theorem Numbered.ofField {call : CallId} {v : Json} (h : Numbered call v) : Id.ofField .call v = .ok call := by
  cases h with
  | number => exact call.ofField_toJson
  | @text before digits after hbefore hdigits hafter =>
    have hstrip : Text.strip (before ++ (digits ++ after)) = digits :=
      Text.stripBy_append hbefore (isBlank_of_denotes hdigits) hafter
    have hread : Text.readNumeral UInt64.size Word64.size_pos digits = .ok call.val :=
      Text.readNumeral_eq_ok_iff.mpr hdigits
    have hheld : (Json.string (String.ofList (before ++ (digits ++ after)))).isHoldable (Json.depthLimit - 1) =
        true := rfl
    rw [Id.ofField, Id.ofJson, if_pos hheld]
    simp only [Id.read, String.toList_ofList, hstrip, hread]
    rfl

/-! ## What is found after a change -/

/-- What is found for a field before and after changes of the spelling. -/
inductive Alike (name : String) : Option Json → Option Json → Prop where
  | same {found : Option Json} : Alike name found found
  | call {v v' : Json} {call : CallId} :
      name = "correlationId" → Id.ofField .call v = .ok call → Id.ofField .call v' = .ok call →
      Alike name (some v) (some v')
  | text : name ∈ ["resourceId", "message", "endpointUrl"] → Alike name none (some .null)

/-- Fields for which the like is found. -/
structure AlikeFields (fs fs' : Json.Fields) : Prop where
  get? : ∀ name, Alike name (fs.get? name) (fs'.get? name)
  byPosition : fs.byPosition = fs'.byPosition

variable {fs fs' : Json.Fields} {members members' : List (Key × Json)} {r : Report}

/-- For most fields the same is found. -/
private theorem AlikeFields.get?_eq (h : AlikeFields fs fs') {name : String}
    (hname : name ∉ ["correlationId", "resourceId", "message", "endpointUrl"]) :
    fs.get? name = fs'.get? name := by
  have halike := h.get? name
  rw [List.mem_cons, not_or] at hname
  generalize fs.get? name = found at halike
  generalize fs'.get? name = found' at halike
  cases halike with
  | same => rfl
  | call hcall _ _ => exact absurd hcall hname.1
  | text htext => exact absurd htext hname.2

private theorem AlikeFields.call_eq (h : AlikeFields fs fs') :
    fs.required "correlationId" (Id.ofField .call) = fs'.required "correlationId" (Id.ofField .call) := by
  have halike := h.get? "correlationId"
  unfold Wire.Fields.required
  rw [h.byPosition]
  generalize fs.get? "correlationId" = found at halike
  generalize fs'.get? "correlationId" = found' at halike
  cases halike with
  | same => rfl
  | call _ hv hv' => exact hv.trans hv'.symm
  | text htext => exact absurd htext (by decide)

/-- Null says of an optional text what its absence says. -/
private theorem AlikeFields.text_eq (h : AlikeFields fs fs') {name : String}
    (hname : name ≠ "correlationId") :
    fs.defaulted name none (Json.asOption Json.asString) =
      fs'.defaulted name none (Json.asOption Json.asString) := by
  have halike := h.get? name
  unfold Wire.Fields.defaulted
  generalize fs.get? name = found at halike
  generalize fs'.get? name = found' at halike
  cases halike with
  | same => rfl
  | call hcall _ _ => exact absurd hcall hname
  | text _ => rfl

/-- **The report depends on what the fields say**, not on how they say it. -/
theorem AlikeFields.ofFields_eq (h : AlikeFields fs fs') : ofFields fs = ofFields fs' := by
  have hphase : fs.required "phase" Phase.ofJson = fs'.required "phase" Phase.ofJson := by
    rw [Wire.Fields.required, h.get?_eq (by decide), h.byPosition]
    rfl
  have hstarted : fs.defaulted "startedAt" Signed64.zero Json.asSigned =
      fs'.defaulted "startedAt" Signed64.zero Json.asSigned := by
    rw [Wire.Fields.defaulted, h.get?_eq (by decide)]
    rfl
  have hupdated : fs.defaulted "updatedAt" Signed64.zero Json.asSigned =
      fs'.defaulted "updatedAt" Signed64.zero Json.asSigned := by
    rw [Wire.Fields.defaulted, h.get?_eq (by decide)]
    rfl
  have hpercent : fs.defaulted "progressPercent" (.ofNat 0) percentOfJson =
      fs'.defaulted "progressPercent" (.ofNat 0) percentOfJson := by
    rw [Wire.Fields.defaulted, h.get?_eq (by decide)]
    rfl
  unfold ofFields
  rw [h.call_eq, h.text_eq (by decide), hphase, h.text_eq (by decide), hstarted, hupdated, hpercent,
    h.text_eq (by decide)]

/-- **What one change does to the fields that are found**: the like is found for each. -/
theorem Respelling.alike (h : Respelling members members') (haccepted : Json.Accepted fields members) :
    Json.Accepted fields members' ∧ AlikeFields (Json.found fields members) (Json.found fields members') := by
  cases h with
  | rename hnames hkey hkey' =>
    -- Both names belong to one field, for which the same value is found.
    obtain ⟨f, -, -, howner⟩ := exists_owner hnames
    have haccepted' := (Json.accepted_middle_field (howner _ hkey')).mpr
      ((Json.accepted_middle_field (howner _ hkey)).mp haccepted)
    refine ⟨haccepted', fun name => ?_, rfl⟩
    rw [Json.get?_found_middle (howner _ hkey) haccepted, Json.get?_found_middle (howner _ hkey') haccepted']
    exact .same
  | renumber hkey hcall hnumbered =>
    -- Another value is found for the call, which is read as the same number.
    have howner := owner?_of_call hkey
    obtain ⟨-, hfresh, hrest⟩ := (Json.accepted_middle_field howner).mp haccepted
    have hcall' := hnumbered.ofField
    have haccepted' := (Json.accepted_middle_field howner).mpr ⟨(Json.takes_of hcall').check_eq, hfresh, hrest⟩
    refine ⟨haccepted', fun name => ?_, rfl⟩
    rw [Json.get?_found_middle howner haccepted, Json.get?_found_middle howner haccepted']
    split
    · rename_i hname
      exact .call hname hcall hcall'
    · exact .same
  | reorder hperm =>
    refine ⟨haccepted.perm hperm, fun name => ?_, rfl⟩
    rw [Json.get?_found_perm haccepted hperm]
    exact .same
  | extend hother hwhole =>
    have howner := owner?_of_other hother
    refine ⟨(Json.accepted_middle_other howner).mpr ⟨hwhole, haccepted⟩, fun name => ?_, rfl⟩
    rw [Json.found_middle_other howner]
    exact .same
  | nullify hnames hkey habsent =>
    -- Null is found where nothing was.
    obtain ⟨text, others, hf, rfl, htext⟩ := exists_textField hnames
    have howner := (Json.owner?_eq_some_iff separate_fields).mpr ⟨hf, hkey⟩
    have hfresh := Json.not_assigned separate_fields hf habsent
    have hnull : (textField text others).check .null = .ok () := rfl
    have haccepted' := (Json.accepted_middle_field howner).mpr ⟨hnull, hfresh, haccepted⟩
    refine ⟨haccepted', fun name => ?_, rfl⟩
    rw [Json.get?_found_middle howner haccepted']
    split
    · rename_i hname
      subst hname
      rw [show (Json.found fields _).get? name = none from Json.get?_found_eq_none hfresh]
      exact .text htext
    · exact .same

/-- One change leaves the report as it is. -/
theorem Respelling.ofJson_eq_ok (h : Respelling members members') (hr : ofJson (.object members) = .ok r) :
    ofJson (.object members') = .ok r := by
  rw [ofJson_eq] at hr ⊢
  obtain ⟨fs, hfs, hr⟩ := Json.bind_eq_ok_iff.mp hr
  obtain ⟨haccepted, rfl⟩ := Json.ofJson_object_eq_ok_iff.mp hfs
  obtain ⟨haccepted', halike⟩ := h.alike haccepted
  refine Json.bind_eq_ok_iff.mpr ⟨_, Json.ofJson_object_eq_ok_iff.mpr ⟨haccepted', rfl⟩, ?_⟩
  rw [← halike.ofFields_eq]
  exact hr

/-- Any number of changes leave the report as it is. -/
theorem ofJson_respelled (h : Relation.ReflTransGen Respelling members members')
    (hr : ofJson (.object members) = .ok r) : ofJson (.object members') = .ok r := by
  induction h with
  | refl => exact hr
  | tail _ hstep ih => exact hstep.ofJson_eq_ok ih

/-- **Operators may spell reports as they like.**  Whatever changes are made to the spelling of a text that is
read as a report, one after the other, the same report is read from every text that has the members so
changed. -/
theorem spelling_does_not_matter {text : String} (h : Json.decode ofJson text = .ok r)
    (hmembers : (Json.parse text).value = .object members)
    (hsteps : Relation.ReflTransGen Respelling members members') :
    (∀ text' : String, (Json.parse text').value = .object members' → (Json.parse text').isComplete = true →
      Json.decode ofJson text' = .ok r) ∧
    ((Json.object members').isWritable = true → Json.decode ofJson (Json.object members').text = .ok r) := by
  have hr : ofJson (.object members) = .ok r := by
    rw [← hmembers]
    exact (Json.decode_eq_ok_iff.mp h).1
  have hr' := ofJson_respelled hsteps hr
  refine ⟨fun text' hvalue hcomplete => ?_, fun hwritable => Json.decode_text hwritable hr'⟩
  rw [← hvalue] at hr'
  exact Json.decode_eq_ok_iff.mpr ⟨hr', hcomplete⟩

/-! ### A report in two spellings -/

private def phaseMember : Key × Json := (.name "phase", .string "image_pull")

private def resourceMember : Key × Json := (.name "resourceId", .string "sb-1")

private def callMember : Key × Json := (.name "correlationId", .string "\t+07 ")

private def regionMember : Key × Json := (.name "region", .array [.null, .nat 1])

private def quotedCall : List (Key × Json) := [
  (.name "callId", .string "7"), phaseMember, (.name "sandboxId", .string "sb-1")]

private def otherSpelling : List (Key × Json) := [
  (.name "sidecarUrl", .null), phaseMember, regionMember, resourceMember, callMember]

/-- The call is given under its other name, with a sign, a zero and blanks, and behind the rest; the resource is
given under its other name as well, a member is added, and null is given for the endpoint. -/
private theorem respelled_otherSpelling : Relation.ReflTransGen Respelling quotedCall otherSpelling := by
  have hcall : Numbered ⟨.ofNat 7⟩ (.string "\t+07 ") :=
    @Numbered.text ⟨.ofNat 7⟩ ['\t'] ['+', '0', '7'] [' '] (List.all_eq_true.mp (by decide))
      ⟨['0', '7'], Or.inr rfl, by decide, List.all_eq_true.mp (by decide), by decide⟩
      (List.all_eq_true.mp (by decide))
  apply Relation.ReflTransGen.head
    (@Respelling.rename [] [phaseMember, (.name "sandboxId", .string "sb-1")] ["correlationId", "callId"]
      "callId" "correlationId" (.string "7") (by decide) (by decide) (by decide))
  apply Relation.ReflTransGen.head
    (@Respelling.renumber [] [phaseMember, (.name "sandboxId", .string "sb-1")] "correlationId" (.string "7")
      _ _ (by decide) rfl hcall)
  apply Relation.ReflTransGen.head
    (@Respelling.rename [callMember, phaseMember] [] ["resourceId", "sandboxId"] "sandboxId" "resourceId"
      (.string "sb-1") (by decide) (by decide) (by decide))
  apply Relation.ReflTransGen.head
    (@Respelling.extend [callMember, phaseMember] [resourceMember] "region" (.array [.null, .nat 1])
      (by decide) rfl)
  apply Relation.ReflTransGen.head
    (@Respelling.nullify [] [callMember, phaseMember, regionMember, resourceMember]
      ["endpointUrl", "sidecarUrl"] "sidecarUrl" (by decide) (by decide)
      (by simp [callMember, phaseMember, regionMember, resourceMember]))
  -- In the end the call is moved behind the rest.
  apply Relation.ReflTransGen.single
  exact .reorder (.cons _ (@List.perm_append_comm _ [callMember] _))

theorem spelling_does_not_matter_quotedCall :
    let r : Report := { call := ⟨.ofNat 7⟩, phase := .imagePull, resource := some "sb-1" }
    Json.decode ofJson (Json.object quotedCall).text = .ok r ∧
      (Json.parse (Json.object quotedCall).text).value = .object quotedCall ∧
      Relation.ReflTransGen Respelling quotedCall otherSpelling ∧
      Json.decode ofJson (Json.object otherSpelling).text = .ok r := by
  intro r
  have hwritable : (Json.object quotedCall).isWritable = true := rfl
  have hread : Json.decode ofJson (Json.object quotedCall).text = .ok r := Json.decode_text hwritable rfl
  have hvalue : (Json.parse (Json.object quotedCall).text).value = .object quotedCall := by
    rw [Json.parse_text hwritable]
  have hsame := spelling_does_not_matter hread hvalue respelled_otherSpelling
  exact ⟨hread, hvalue, respelled_otherSpelling, hsame.2 rfl⟩

end ChainProvision.Report
