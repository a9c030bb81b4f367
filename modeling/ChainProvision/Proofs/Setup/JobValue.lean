import ChainProvision.Proofs.Identity.Numbers
import ChainProvision.Proofs.Yaml.Lines
import ChainProvision.Setup.Config

/-!
# The value of jobs in a configuration file

The value of jobs may be given as a text, since YAML has no numbers that are large enough.  The text decides on
nothing but this value, and a text that is no amount is what the file is refused for.

## Main definitions

- `Config.GivesJobValue`: a configuration file gives the value of jobs as a text.

## Main statements

- `Config.read_of_spells`, `Config.read_of_not_spells`: what such a file is read as.
- `Text.numeric_texts_read_exactly`: identifiers and amounts are the numbers that are written, of as many bits as
  they have, or there are none.
-/

namespace ChainProvision

open Yaml

namespace Config

variable {s₀ s key : Scalar} {text : String} {w : Wei} {env : Surroundings} {k k' : Nat} {tag : Option Tag}
  {before after : List (Node × Node)} {c : Config}

/-- The field for the value of jobs. -/
def jobValueField : Field := .of "job_value" Wei.ofYaml

private theorem find?_jobValueField : fields.find? (·.answersTo jobValueField.name) = some jobValueField := rfl

private theorem still_of_scalar (s : Scalar) :
    ∀ env k r, jobValueField.check (.scalar s) env k = .ok r → r.2 = k := by
  intro env k r h
  obtain ⟨x, hx⟩ := asNumberOrText_scalar s "WeiEntry" Wei.ofWord fun s => (Wei.read s).mapError fun _ => Fault.wei s
  have hcheck : jobValueField.check (.scalar s) = (fun _ => ()) <$> (liftM x : Reading Wei) := by
    rw [← hx]
    rfl
  rw [hcheck] at h
  cases x with
  | error e => cases h
  | ok w =>
    cases h
    rfl

/-- A key is read as the name of the field. -/
private theorem asText_key (hkey : key.text = "job_value") : asText (.scalar key) = pure jobValueField.name := by
  have htext : asText (.scalar key) = pure key.text := rfl
  rw [htext, hkey]
  rfl

/-- **With the text of an amount in the place of another scalar, a configuration has this amount**, and all else is
the same. -/
theorem ofYaml_of_spells (hkey : key.text = "job_value") (hmeaning : s.meaning = .text text)
    (hspells : Wei.Spells text w.val.val)
    (h : ofYaml (.mapping tag (before ++ (.scalar key, .scalar s₀) :: after)) env k = .ok (c, k')) :
    ofYaml (.mapping tag (before ++ (.scalar key, .scalar s) :: after)) env k =
      .ok ({ c with jobValue := w }, k') := by
  have hread : Wei.ofYaml (.scalar s) = pure w := by
    rw [Wei.ofYaml, asNumberOrText_text hmeaning, Wei.read_eq_ok_iff.mpr hspells]
    rfl
  have hcheck : jobValueField.check (.scalar s) = pure () := by
    have hfield : jobValueField.check (.scalar s) = (fun _ => ()) <$> Wei.ofYaml (.scalar s) := rfl
    rw [hfield, hread, map_pure]
  unfold ofYaml at h ⊢
  obtain ⟨fs, k₁, hfs, h⟩ := Reading.bind_eq_ok_iff.mp h
  obtain ⟨hfs', hfound⟩ : fieldsOf fields (.mapping tag (before ++ (.scalar key, .scalar s) :: after)) env k =
      .ok ({ fs with values := exchange "job_value" (.scalar s) fs.values }, k₁) ∧
        (fs.values.any fun p => p.1 == "job_value") = true :=
    fieldsOf_exchange (asText_key hkey) find?_jobValueField (still_of_scalar s₀) hcheck hfs
  rw [Reading.bind_of_ok hfs']
  simp (disch := decide) only [required_exchange_of_ne, defaulted_exchange_of_ne]
  rw [defaulted_exchange_self hfound hread]
  -- Field by field, with the amount in the place of the value that was there.
  simp only [Reading.bind_eq_ok_iff] at h ⊢
  obtain ⟨api, k₂, hapi, interval, k₃, hinterval, timeout, k₄, htimeout, contract, k₅, hcontract, blueprint, k₆,
    hblueprint, service, k₇, hservice, jobs, k₈, hjobs, old, k₉, hold, blocks, k₁₀, hblocks, events, k₁₁, hevents,
    hc⟩ := h
  obtain rfl : k₉ = k₈ := defaulted_still hold
  cases hc
  exact ⟨api, k₂, hapi, interval, k₃, hinterval, timeout, k₄, htimeout, contract, k₅, hcontract, blueprint, k₆,
    hblueprint, service, k₇, hservice, jobs, k₉, hjobs, w, k₉, rfl, blocks, k₁₀, hblocks, events, _, hevents, rfl⟩

/-- **With a text that is no amount in its place, a configuration is refused**, and the text is named. -/
theorem ofYaml_of_not_spells (hkey : key.text = "job_value") (hmeaning : s.meaning = .text text)
    (hnone : ∀ n < word128Size, ¬ Wei.Spells text n)
    (h : ofYaml (.mapping tag (before ++ (.scalar key, .scalar s₀) :: after)) env k = .ok (c, k')) :
    ofYaml (.mapping tag (before ++ (.scalar key, .scalar s) :: after)) env k = .error (.wei text) := by
  have hcheck : jobValueField.check (.scalar s) = throw (.wei text) := by
    obtain ⟨e, he⟩ := Wei.exists_read_eq_error_iff.mpr hnone
    have hfield : jobValueField.check (.scalar s) = (fun _ => ()) <$> Wei.ofYaml (.scalar s) := rfl
    rw [hfield, Wei.ofYaml, asNumberOrText_text hmeaning, he]
    rfl
  unfold ofYaml at h ⊢
  obtain ⟨fs, k₁, hfs, -⟩ := Reading.bind_eq_ok_iff.mp h
  exact Reading.bind_of_error (fieldsOf_refused (asText_key hkey) find?_jobValueField hcheck hfs) _

/-! ## Files -/

/-- A configuration file gives the value of jobs as a text, and with some other scalar in the place of this text it
would give a configuration. -/
inductive GivesJobValue (file text : String) (c : Config) : Prop where
  | intro {tag : Option Tag} {before after : List (Node × Node)} {key s s₀ : Scalar}
      (root_eq : (parse file).root = .mapping tag (before ++ (.scalar key, .scalar s) :: after))
      (key_eq : key.text = "job_value") (meaning_eq : s.meaning = .text text)
      (result_eq : (ofYaml (.mapping tag (before ++ (.scalar key, .scalar s₀) :: after))).result
        (parse file).surroundings = .ok c)
      (isComplete : (parse file).isComplete = true) (fault?_eq : c.fault? = none)

theorem read_of_spells {file : String} (h : GivesJobValue file text c) (hspells : Wei.Spells text w.val.val) :
    read file = .ok { c with jobValue := w } := by
  obtain ⟨hroot, hkey, hmeaning, hresult, hcomplete, hfault⟩ := h
  obtain ⟨k, hrun⟩ := Reading.result_eq_ok_iff.mp hresult
  have hread := Reading.result_eq_ok_iff.mpr ⟨k, ofYaml_of_spells hkey hmeaning hspells hrun⟩
  have hfault' : ({ c with jobValue := w } : Config).fault? = none := hfault
  unfold read decode
  simp only [hroot, hread, hcomplete, if_true, hfault']

theorem read_of_not_spells {file : String} (h : GivesJobValue file text c)
    (hnone : ∀ n < word128Size, ¬ Wei.Spells text n) : read file = .error (.yaml (.wei text)) := by
  obtain ⟨hroot, hkey, hmeaning, hresult, -, -⟩ := h
  obtain ⟨k, hrun⟩ := Reading.result_eq_ok_iff.mp hresult
  have hread := Reading.result_of_error (ofYaml_of_not_spells hkey hmeaning hnone hrun)
  unfold read decode
  simp only [hroot, hread]

/-! ## A file with any text -/

/-- The lines of a configuration file that follow the value of jobs. -/
private def otherLines : List Line := [
  .plain 0 "operator_api".toList "http://operator.local:9090".toList,
  .head 0 "contracts".toList,
  .quoted 2 "services".toList "0xffffffffffffffffffffffffffffffffffffffff".toList,
  .plain 0 "blueprint_id".toList "4".toList,
  .plain 0 "sandbox_service_id".toList "12".toList]

/-- A configuration file with a text for the value of jobs. -/
private def sampleFile (text : String) : String :=
  String.ofList (Line.allChars (.quoted 0 "job_value".toList text.toList :: otherLines))

/-- The members that follow the value of jobs. -/
private def otherMembers : List (Node × Node) := [
  (.ofText "operator_api" .plain, .ofText "http://operator.local:9090" .plain),
  (.ofText "contracts" .plain,
    .mapping none [(.ofText "services" .plain, .ofText "0xffffffffffffffffffffffffffffffffffffffff" .quoted)]),
  (.ofText "blueprint_id" .plain, .ofText "4" .plain),
  (.ofText "sandbox_service_id" .plain, .ofText "12" .plain)]

private def sampleDocument (text : String) : Document := {
  root := .mapping none ((.ofText "job_value" .plain, .ofText text .quoted) :: otherMembers)
  isComplete := true }

/-- The configuration that the file gives without a value of jobs. -/
private def sample : Config := {
  operatorApi := "http://operator.local:9090"
  contract := ⟨List.replicate 40 (Fin.last 15), rfl⟩
  blueprint := ⟨.ofNat 4⟩
  sandboxService := ⟨.ofNat 12⟩ }

/-- The tokens of the members of the file. -/
private def sampleTokens (text : String) : List Token :=
  let field (key value : String) (style : Style) (after : List Token) : List Token :=
    .key :: .scalar key .plain :: .value :: .scalar value style :: after
  field "job_value" text .quoted <|
  field "operator_api" "http://operator.local:9090" .plain <|
  .key :: .scalar "contracts" .plain :: .value :: .blockMappingStart ::
    (field "services" "0xffffffffffffffffffffffffffffffffffffffff" .quoted [] ++ .blockEnd ::
  (field "blueprint_id" "4" .plain <|
  field "sandbox_service_id" "12" .plain []))

private theorem finish_sample (text : String) :
    ((.quoted 0 "job_value".toList text.toList :: otherLines).foldl Outline.next {}).finish =
      .blockMappingStart :: (sampleTokens text ++ [.blockEnd, .streamEnd]) := by
  simp [otherLines, sampleTokens, Outline.next, Outline.key, Outline.reach, Outline.unroll, Lexer.unrollFrom,
    Outline.emit, Outline.finish]

private theorem spells_sample (text : String) :
    Yaml.Spells (sampleTokens text) ((.ofText "job_value" .plain, .ofText text .quoted) :: otherMembers) := by
  have hcontracts : Yaml.Spells _ _ :=
    .scalar "services" "0xffffffffffffffffffffffffffffffffffffffff" .quoted .nil
  apply Yaml.Spells.scalar "job_value" text .quoted
  apply Yaml.Spells.scalar "operator_api" "http://operator.local:9090" .plain
  apply Yaml.Spells.mapping "contracts" hcontracts
  apply Yaml.Spells.scalar "blueprint_id" "4" .plain
  apply Yaml.Spells.scalar "sandbox_service_id" "12" .plain
  exact .nil

/-- In the file may stand any text that needs no escapes. -/
private theorem givesJobValue_sampleFile {text : String} (hquotes : ∀ c ∈ text.toList, standsInQuotes c = true)
    (hchars : ∀ c ∈ text.toList, standsForItself c = true) : GivesJobValue (sampleFile text) text sample := by
  have hwritten : Written (.quoted 0 "job_value".toList text.toList :: otherLines) :=
    .cons ⟨by decide +kernel, hquotes⟩ (fun _ _ => trivial) (by decide +kernel)
  have hall : ∀ c ∈ Line.allChars (.quoted 0 "job_value".toList text.toList :: otherLines),
      standsForItself c = true :=
    standsForItself_allChars (Or.inr rfl) (by decide +kernel) hchars (by decide +kernel)
  have hparse : parse (sampleFile text) = sampleDocument text := by
    rw [parse, sampleFile, String.toList_ofList, tokens_lines hwritten hall, finish_sample,
      Document.ofTokens_mapping (spells_sample text)]
    rfl
  have hroot : (parse (sampleFile text)).root = .mapping none
      ([] ++ (.scalar ⟨"job_value", .plain, none⟩, .scalar ⟨text, .quoted, none⟩) :: otherMembers) :=
    congrArg Document.root hparse
  -- With a number in the place of the text.
  have hresult : (ofYaml (.mapping none
      ([] ++ (.scalar ⟨"job_value", .plain, none⟩, .scalar ⟨"0", .plain, none⟩) :: otherMembers))).result
        (parse (sampleFile text)).surroundings = .ok sample := by
    have hsurroundings : (parse (sampleFile text)).surroundings = (sampleDocument "").surroundings := by
      rw [hparse]
      rfl
    rw [hsurroundings]
    decide +kernel
  exact .intro hroot rfl rfl hresult (congrArg Document.isComplete hparse) rfl

end Config

/-- **Numeric texts are read exactly, and never wrap around.**  An identifier is given as a number, or as a text
that spells one, of at most 64 bits, and what is written for it is read back.  The value of jobs is given as a text
that spells a number of at most 128 bits; a configuration file with any other text is refused, and the text is named
as it was written. -/
theorem Text.numeric_texts_read_exactly :
    (∀ kind : IdKind,
      (∀ s (id : Id kind), Id.read kind s = .ok id ↔ Id.Spells s id.val.val) ∧
      (∀ s n, Id.Spells s n → Nat.pow 2 64 ≤ n → Id.read kind s = .error .tooLarge) ∧
      (∀ id : Id kind, Id.read kind id.text = .ok id) ∧
      (∀ depth v (id : Id kind), Id.ofJson kind depth v = .ok id ↔
        v = .nat id.val.val ∨ ∃ s, v = .string s ∧ Id.Spells s id.val.val) ∧
      (∀ depth (id : Id kind), Json.decode (Id.ofJson kind depth) (Text.numeral id.val.val) = .ok id) ∧
      (∀ depth text (id : Id kind), Json.decode (Id.ofJson kind depth) text = .ok id ↔
        (Json.parse text).isComplete = true ∧
          ((Json.parse text).value = .nat id.val.val ∨
            ∃ s, (Json.parse text).value = .string s ∧ Id.Spells s id.val.val)) ∧
      ∀ env n text, Surroundings.IsText env n text →
        ∀ id : Id kind, (Id.ofYaml kind n).result env = .ok id ↔ Id.Spells text id.val.val) ∧
    (∀ env n text, Surroundings.IsText env n text →
      (∀ w, (Wei.ofYaml n).result env = .ok w ↔ Wei.Spells text w.val.val) ∧
      ((∀ m < Nat.pow 2 128, ¬ Wei.Spells text m) → (Wei.ofYaml n).result env = .error (.wei text))) ∧
    (∀ file text c, Config.GivesJobValue file text c →
      (∀ w, Wei.Spells text w.val.val → Config.read file = .ok { c with jobValue := w }) ∧
      ((∀ m < Nat.pow 2 128, ¬ Wei.Spells text m) → Config.read file = .error (.yaml (.wei text)))) ∧
    ∀ text, (Fault.wei text).detail = some ("invalid wei amount: " ++ text) := by
  refine ⟨fun kind => ⟨?_, ?_, Id.read_text, ?_, Id.decode_numeral, ?_, ?_⟩, ?_, ?_, fun text => rfl⟩
  · exact fun s id => Id.read_eq_ok_iff
  · exact fun s n => Id.read_eq_tooLarge
  · exact fun depth v id => Id.ofJson_eq_ok_iff
  · exact fun depth text id => Id.decode_eq_ok_iff
  · exact fun env n text htext id => Id.ofYaml_eq_ok_iff htext
  · exact fun env n text htext => ⟨fun w => Wei.ofYaml_eq_ok_iff htext, Wei.ofYaml_eq_error htext⟩
  · intro file text c hgives
    exact ⟨fun w => Config.read_of_spells hgives, Config.read_of_not_spells hgives⟩

/-- An identifier with a sign, an amount with gaps, and numbers of one bit too many. -/
theorem Config.grouped_and_signed_texts_read :
    Id.read .call "\u3000+0042\t" = .ok ⟨.ofNat 42⟩ ∧
      Id.read .call "18446744073709551616" = .error .tooLarge ∧
      (Id.ofYaml .service (.ofText " +7" .quoted)).result (Config.sampleDocument "").surroundings = .ok ⟨.ofNat 7⟩ ∧
      (Wei.ofYaml (.ofText "1 000" .quoted)).result (Config.sampleDocument "").surroundings = .error (.wei "1 000") ∧
      Config.read (Config.sampleFile "\u00a0+25_000_000_000_000_000_000_") =
        .ok { Config.sample with jobValue := ⟨25000000000000000000, by decide⟩ } ∧
      Config.read (Config.sampleFile "340_282366920938463463374607431768211456") =
        .error (.yaml (.wei "340_282366920938463463374607431768211456")) := by
  obtain ⟨hid, hwei, hfile, -⟩ := Text.numeric_texts_read_exactly
  obtain ⟨hcall, hlarge, -⟩ := hid .call
  obtain ⟨-, -, -, -, -, -, hservice⟩ := hid .service
  have hoverflow : Id.Spells "18446744073709551616" (Nat.pow 2 64) :=
    Text.Decimal.denotes ⟨by decide +kernel, List.all_eq_true.mp (by decide +kernel), by decide +kernel⟩
  have hgap : ∀ m < Nat.pow 2 128, ¬ Wei.Spells "1 000" m :=
    Wei.exists_read_eq_error_iff.mp ⟨.invalidDigit, by decide +kernel⟩
  have hgrouped : Wei.Spells "\u00a0+25_000_000_000_000_000_000_" 25000000000000000000 :=
    ⟨"25000000000000000000".toList, Or.inr (by decide +kernel), by decide +kernel,
      List.all_eq_true.mp (by decide +kernel), by decide +kernel⟩
  have hexcess : Wei.Spells "340_282366920938463463374607431768211456" (Nat.pow 2 128) :=
    Text.Decimal.denotes ⟨by decide +kernel, List.all_eq_true.mp (by decide +kernel), by decide +kernel⟩
  refine ⟨(hcall _ _).mpr ?_, hlarge _ _ hoverflow (Nat.le_refl _),
    (hservice _ _ " +7" (isText_scalar (by decide +kernel) _) _).mpr ?_,
    (hwei _ _ _ (isText_scalar (by decide +kernel) _)).2 hgap,
    (hfile _ _ _ (Config.givesJobValue_sampleFile ?_ ?_)).1 _ hgrouped,
    (hfile _ _ _ (Config.givesJobValue_sampleFile ?_ ?_)).2 fun m hm h => ?_⟩
  · exact Id.read_eq_ok_iff.mp (by decide +kernel)
  · exact Id.read_eq_ok_iff.mp (by decide +kernel)
  · exact List.all_eq_true.mp (by decide +kernel)
  · exact List.all_eq_true.mp (by decide +kernel)
  · exact List.all_eq_true.mp (by decide +kernel)
  · exact List.all_eq_true.mp (by decide +kernel)
  · exact absurd hm (Nat.not_lt.mpr (Nat.le_of_eq (Text.Denotes.unique hexcess h)))

end ChainProvision
