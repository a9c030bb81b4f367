import ChainProvision.Proofs.Operator.Url
import ChainProvision.Proofs.Yaml.Lines
import ChainProvision.Proofs.Yaml.Members
import ChainProvision.Setup.Config
import ChainProvision.Setup.Directory

/-!
# New configuration files are read back

The template of a configuration file puts the operator's URL into YAML as it is, without quotes.  A URL that is
a plain scalar in one line is read back from there, together with the template's other values.

## Main definitions

- `Template.Fits`: a URL can stand in a configuration file as it is;
- `Template.config`: the configuration that the template is written for.

## Main statements

- `Template.read_text`: a new configuration file is read as what it was written for.
- `Template.fits_of_read`, `Template.read_text_of_colon`: which URLs of endpoints can stand in one.
-/

namespace ChainProvision.Template

open Yaml

/-- A URL can stand in a configuration file as it is. -/
structure Fits (operatorApi : String) : Prop where
  isPlainLine : IsPlainLine operatorApi.toList
  standsForItself : ∀ c ∈ operatorApi.toList, standsForItself c = true

/-- The contract in a new configuration file, which is to be filled in. -/
def contract : String := "0x0000000000000000000000000000000000000000"

/-! ## Lines -/

/-- The lines that follow the operator's URL. -/
def laterLines : List Line := [
  .plain 0 "poll_interval".toList "2s".toList,
  .comment " Give up on provisioning after this long (default: wait indefinitely)".toList,
  .comment " provision_timeout: 10m".toList,
  .head 0 "contracts".toList,
  .quoted 2 "services".toList contract.toList,
  .plain 0 "blueprint_id".toList "0".toList,
  .plain 0 "sandbox_service_id".toList "0".toList,
  .head 0 "jobs".toList,
  .plain 2 "create_sandbox".toList "0".toList,
  .plain 2 "create_instance".toList "1".toList,
  .plain 0 "job_value".toList "0".toList,
  .plain 0 "ttl_blocks".toList "0".toList,
  .comment " events:".toList,
  .comment "   job_submitted: JobSubmitted".toList,
  .comment "   service_requested: ServiceRequested".toList,
  .comment "   service_initialized: ServiceInitialized".toList]

/-- The lines of a new configuration file. -/
def lines (operatorApi : String) : List Line :=
  .plain 0 "operator_api".toList operatorApi.toList :: laterLines

private theorem toList_afterUrl : afterUrl.toList = '\n' :: Line.allChars laterLines := by
  unfold afterUrl
  simp only [String.toList_append]
  decide +kernel

/-- A new configuration file is written line by line. -/
theorem toList_text (operatorApi : String) : (text operatorApi).toList = Line.allChars (lines operatorApi) := by
  unfold text
  simp only [String.toList_append, toList_afterUrl]
  simp [Line.allChars, lines, Line.chars, Line.keyChars]

private theorem written_lines {operatorApi : String} (hfits : Fits operatorApi)
    (hbegins : operatorApi.toList.head?.any beginsWord = true) : Written (lines operatorApi) := by
  have hkey : IsKey "operator_api".toList := by decide +kernel
  have hlater : Written laterLines := by decide +kernel
  refine .cons ⟨hkey, hfits.isPlainLine, hbegins⟩ ?_ hlater
  rintro next ⟨⟩
  exact Nat.le_refl 0

private theorem standsForItself_lines {operatorApi : String}
    (hchars : ∀ c ∈ operatorApi.toList, standsForItself c = true) :
    ∀ c ∈ Line.allChars (lines operatorApi), standsForItself c = true :=
  standsForItself_allChars (Or.inl rfl) (by decide +kernel) hchars (by decide +kernel)

/-! ## Tokens -/

/-- The tokens of the members of a new configuration file. -/
def tokens (operatorApi : String) : List Token :=
  let field (key value : String) (after : List Token) : List Token :=
    .key :: .scalar key .plain :: .value :: .scalar value .plain :: after
  let group (key : String) (inner after : List Token) : List Token :=
    .key :: .scalar key .plain :: .value :: .blockMappingStart :: (inner ++ .blockEnd :: after)
  field "operator_api" operatorApi <|
  field "poll_interval" "2s" <|
  group "contracts" [.key, .scalar "services" .plain, .value, .scalar contract .quoted] <|
  field "blueprint_id" "0" <|
  field "sandbox_service_id" "0" <|
  group "jobs" (field "create_sandbox" "0" <| field "create_instance" "1" []) <|
  field "job_value" "0" <|
  field "ttl_blocks" "0" []

private theorem finish_lines (operatorApi : String) :
    ((lines operatorApi).foldl Outline.next {}).finish =
      .blockMappingStart :: (tokens operatorApi ++ [.blockEnd, .streamEnd]) := by
  simp [lines, laterLines, tokens, Outline.next, Outline.key, Outline.reach, Outline.unroll,
    Lexer.unrollFrom, Outline.emit, Outline.finish]

/-! ## Members -/

/-- The contracts in a new configuration file. -/
def contracts : Node := .mapping none [(.ofText "services" .plain, .ofText contract .quoted)]

/-- The jobs in a new configuration file. -/
def jobs : Node :=
  .mapping none [(.ofText "create_sandbox" .plain, .ofText "0" .plain),
    (.ofText "create_instance" .plain, .ofText "1" .plain)]

/-- The fields that a new configuration file gives, with their values. -/
def given (operatorApi : String) : List (Field × Node) := [
  (.of "operator_api" asText, .ofText operatorApi .plain),
  (.of "poll_interval" asSpan, .ofText "2s" .plain),
  (.of "contracts" Config.contractOfYaml, contracts),
  (.of "blueprint_id" (Id.ofYaml .blueprint), .ofText "0" .plain),
  (.of "sandbox_service_id" (Id.ofYaml .service), .ofText "0" .plain),
  (.of "jobs" Jobs.ofYaml, jobs),
  (.of "job_value" Wei.ofYaml, .ofText "0" .plain),
  (.of "ttl_blocks" (asNatural UInt64.size), .ofText "0" .plain)]

private theorem spells_tokens (operatorApi : String) :
    Spells (tokens operatorApi) (membersOf (given operatorApi)) := by
  have hcontracts : Spells _ _ := .scalar "services" contract .quoted .nil
  have hjobs : Spells _ _ := .scalar "create_sandbox" "0" .plain (.scalar "create_instance" "1" .plain .nil)
  apply Spells.scalar "operator_api" operatorApi .plain
  apply Spells.scalar "poll_interval" "2s" .plain
  apply Spells.mapping "contracts" hcontracts
  apply Spells.scalar "blueprint_id" "0" .plain
  apply Spells.scalar "sandbox_service_id" "0" .plain
  apply Spells.mapping "jobs" hjobs
  apply Spells.scalar "job_value" "0" .plain
  apply Spells.scalar "ttl_blocks" "0" .plain
  exact .nil

/-! ## Values -/

/-- The address that consists of zeros. -/
def zeroAddress : Address := ⟨List.replicate 40 ⟨0, by decide⟩, rfl⟩

/-- The configuration that the template is written for. -/
def config (operatorApi : String) : Config := {
  operatorApi
  pollInterval := .ofSeconds 2
  contract := zeroAddress
  blueprint := ⟨.ofNat 0⟩
  sandboxService := ⟨.ofNat 0⟩ }

private theorem contractOfYaml_contracts : Config.contractOfYaml contracts = pure zeroAddress := rfl

private theorem jobsOfYaml_jobs : Jobs.ofYaml jobs = pure {} := rfl

private theorem meaning_zero : (⟨"0", .plain, none⟩ : Scalar).meaning = .natural (.ofNat 0) := by
  decide +kernel

private theorem idOfYaml_zero (kind : IdKind) : Id.ofYaml kind (.ofText "0" .plain) = pure ⟨.ofNat 0⟩ :=
  asNumberOrText_natural meaning_zero "Raw" Id.mk _

private theorem weiOfYaml_zero : Wei.ofYaml (.ofText "0" .plain) = pure Wei.zero :=
  asNumberOrText_natural meaning_zero "WeiEntry" Wei.ofWord _

private theorem takes_given (operatorApi : String) :
    ∀ p ∈ given operatorApi, Takes Config.fields p.1 p.2 := by
  unfold given
  simp only [List.forall_mem_cons, List.not_mem_nil, false_implies, implies_true, and_true]
  refine ⟨.of_read rfl (asText_ofText operatorApi .plain), .of_read (a := .ofSeconds 2) rfl rfl,
    .of_read rfl contractOfYaml_contracts, .of_read rfl (idOfYaml_zero .blueprint),
    .of_read rfl (idOfYaml_zero .service), .of_read rfl jobsOfYaml_jobs, .of_read rfl weiOfYaml_zero,
    .of_read (a := Word64.ofNat 0) rfl rfl⟩

private theorem ofYaml_given (operatorApi : String) :
    Config.ofYaml (.mapping none (membersOf (given operatorApi))) = pure (config operatorApi) := by
  have hdistinct : (given operatorApi).Pairwise fun p q => p.1.name ≠ q.1.name := by
    simp [given, Wire.Field.of]
  -- Field by field; the timeout and the events are not given.
  rw [Config.ofYaml, fieldsOf_given (takes_given operatorApi) hdistinct, pure_bind,
    required_pure (v := .ofText operatorApi .plain) rfl (asText_ofText operatorApi .plain), pure_bind,
    defaulted_pure (v := .ofText "2s" .plain) (a := .ofSeconds 2) rfl rfl, pure_bind,
    defaulted_missing rfl, pure_bind,
    required_pure rfl contractOfYaml_contracts, pure_bind,
    required_pure rfl (idOfYaml_zero .blueprint), pure_bind,
    required_pure rfl (idOfYaml_zero .service), pure_bind,
    defaulted_pure rfl jobsOfYaml_jobs, pure_bind,
    defaulted_pure rfl weiOfYaml_zero, pure_bind,
    defaulted_pure (v := .ofText "0" .plain) (a := Word64.ofNat 0) rfl rfl, pure_bind,
    defaulted_missing rfl, pure_bind]
  rfl

private theorem fault?_config (operatorApi : String) : (config operatorApi).fault? = none := by
  have hinterval : (config operatorApi).pollInterval.isZero = false := rfl
  have htimeout : (config operatorApi).provisionTimeout.any Span.isZero = false := rfl
  have hevents : [({} : EventNames).jobSubmitted, ({} : EventNames).serviceRequested,
      ({} : EventNames).serviceInitialized].any Text.isBlankText = false := by decide +kernel
  rw [Config.fault?, if_neg (by simp [hinterval]), if_neg (by simp [htimeout]), if_neg]
  rw [Bool.not_eq_true]
  exact hevents

/-- **A new configuration file is read as what it was written for.** -/
theorem read_text {operatorApi : String} (hfits : Fits operatorApi)
    (hbegins : operatorApi.toList.head?.any beginsWord = true) :
    Config.read (text operatorApi) = .ok (config operatorApi) := by
  have htokens := tokens_lines (written_lines hfits hbegins) (standsForItself_lines hfits.standsForItself)
  have hparse : parse (text operatorApi) =
      { root := .mapping none (membersOf (given operatorApi)), isComplete := true } := by
    rw [parse, toList_text, htokens, finish_lines, Document.ofTokens_mapping (spells_tokens operatorApi)]
  have hdecode : decode Config.ofYaml (text operatorApi) = .ok (config operatorApi) := by
    unfold decode
    rw [hparse]
    dsimp only
    rw [ofYaml_given]
    rfl
  unfold Config.read
  rw [hdecode]
  dsimp only
  rw [fault?_config]

/-- After a URL that ends in a colon there is no value left for YAML, and the file cannot be read. -/
theorem read_text_colon {url : String} (hplain : ∀ rest, IsPlainBefore (':' :: rest) url.toList)
    (hchars : ∀ c ∈ url.toList, standsForItself c = true) (hbegins : url.toList.head?.any beginsWord = true) :
    Config.read (text (url ++ ":")) = .error (.yaml .malformed) := by
  have hkey : IsKey "operator_api".toList := by decide +kernel
  have hurl : (url ++ ":").toList = url.toList ++ [':'] := String.toList_append
  have hall : ∀ c ∈ Line.allChars (lines (url ++ ":")), standsForItself c = true := by
    apply standsForItself_lines
    rw [hurl]
    intro c hc
    rcases List.mem_append.mp hc with hc | hc
    · exact hchars c hc
    · rw [List.mem_singleton.mp hc]
      decide
  rw [lines, hurl] at hall
  have htokens := tokens_colon hkey hplain hbegins hall
  -- The mapping breaks off after the URL, so what was read of it is not a whole document.
  have hparse : parse (text (url ++ ":")) =
      { root := .mapping none [(.ofText "operator_api" .plain, .ofText url .plain), (.broken, .broken)]
        isComplete := false } := by
    rw [parse, toList_text, lines, hurl, htokens]
    simp only [String.ofList_toList]
    rfl
  have hdecode : decode Config.ofYaml (text (url ++ ":")) = .error .malformed := by
    unfold decode
    rw [hparse]
    rfl
  unfold Config.read
  rw [hdecode]

/-! ## URLs of endpoints -/

private theorem beginsWord_of_folded {c : Char} (h : c.toLower = 'h') : beginsWord c = true := by
  by_cases hascii : c.toNat < 128
  · revert h
    exact Text.of_table c hascii (by decide +kernel)
  · -- No letter beyond ASCII is folded to one of ASCII.
    rw [Text.toLower_eq_self hascii] at h
    rw [h]
    decide

/-- A URL begins a plain scalar. -/
theorem begins_of_read {url : String} {e : Endpoint} (h : Endpoint.read url = .ok e) :
    url.toList.head?.any beginsWord = true := by
  have hbegins := Endpoint.begins_of_read h
  cases hurl : url.toList with
  | nil =>
    rw [hurl] at hbegins
    cases hbegins
  | cons c rest =>
    rw [hurl] at hbegins
    exact beginsWord_of_folded (beq_iff_eq.mp hbegins)

/-- A URL of ASCII without a fragment holds neither blanks nor characters that mean something else in YAML. -/
private theorem chars_of_read {url : String} {e : Endpoint} (h : Endpoint.read url = .ok e)
    (hascii : ∀ c ∈ url.toList, c.toNat < 128) (hfragment : '#' ∉ url.toList) :
    ∀ c ∈ url.toList, (isBlank c = false ∧ isBreak c = false) ∧ standsForItself c = true := by
  intro c hc
  have hvisible := Endpoint.visible_of_read h hfragment c hc
  revert hvisible
  exact Text.of_table c (hascii c hc) (by decide +kernel)

/-- A URL of ASCII without a fragment and a colon at its end can stand in a configuration file. -/
theorem fits_of_read {url : String} {e : Endpoint} (h : Endpoint.read url = .ok e)
    (hascii : ∀ c ∈ url.toList, c.toNat < 128) (hfragment : '#' ∉ url.toList)
    (hcolon : url.toList.getLast? ≠ some ':') : Fits url where
  isPlainLine := isPlainBefore_of_word (fun c hc => (chars_of_read h hascii hfragment c hc).1)
    fun hlast => absurd hlast hcolon
  standsForItself c hc := (chars_of_read h hascii hfragment c hc).2

/-- With a colon at its end it cannot. -/
theorem read_text_of_colon {url : String} {e : Endpoint} (h : Endpoint.read url = .ok e)
    (hascii : ∀ c ∈ url.toList, c.toNat < 128) (hfragment : '#' ∉ url.toList)
    (hcolon : url.toList.getLast? = some ':') : Config.read (text url) = .error (.yaml .malformed) := by
  obtain ⟨front, hfront⟩ := List.getLast?_eq_some_iff.mp hcolon
  have hurl : url = String.ofList front ++ ":" := by
    apply String.toList_injective
    rw [hfront, String.toList_append, String.toList_ofList]
    rfl
  have hchars := chars_of_read h hascii hfragment
  have hbegins := begins_of_read h
  rw [hfront] at hchars hbegins
  have hfirst : front.head?.any beginsWord = true := by
    cases front with
    | nil => cases hbegins
    | cons c front => exact hbegins
  rw [hurl]
  apply read_text_colon
  · intro rest
    rw [String.toList_ofList]
    exact isPlainBefore_of_word (fun c hc => (hchars c (List.mem_append_left _ hc)).1) fun _ => rfl
  · intro c hc
    rw [String.toList_ofList] at hc
    exact (hchars c (List.mem_append_left _ hc)).2
  · rw [String.toList_ofList]
    exact hfirst

theorem fits_default : Fits defaultOperatorApi where
  isPlainLine := by decide +kernel
  standsForItself := List.all_eq_true.mp (by decide +kernel)

end ChainProvision.Template
