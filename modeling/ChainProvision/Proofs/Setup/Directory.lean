import ChainProvision.Proofs.Setup.Template
import ChainProvision.Setup.Directory

/-!
# Directories in which a configuration was set up

What is written into a directory is found there again.  The URL that is given for a new configuration has to
be one that an endpoint can be read from, and it is found in the configuration as it was given if it is also a
plain scalar of YAML, which the grammar of URLs does not make sure of: a URL may end in a colon, and its
fragment may hold anything.

## Main statements

- `Directory.config_of_init`: a directory in which a configuration was set up holds what it was set up with.
- `Directory.init_is_found`: so the operator's URL is found as it was given, and leads to an endpoint.
- `Directory.found_of_init_iff`: among URLs of ASCII without a fragment, those that end in a colon are not.
-/

namespace ChainProvision

namespace Directory

/-! ## Files -/

/-- What was put under a name stands there. -/
theorem lookup_put (name content : String) (entries : List (String × DirectoryEntry)) :
    (put name content entries).lookup name = some (.file content) := by
  induction entries with
  | nil => simp [put]
  | cons entry entries ih =>
    obtain ⟨k, old⟩ := entry
    by_cases hk : k = name
    · simp [put, hk]
    · simp [put, hk, List.lookup_cons, beq_eq_false_iff_ne.mpr (Ne.symm hk), ih]

/-- A configuration file that is written is the one that is read. -/
theorem config_of_write {d d' : Directory} {content : String} (h : d.write configName content = .ok d') :
    d'.config = Config.read content := by
  have hentries : d'.entries = put configName content d.entries := by
    unfold write at h
    split at h
    · cases h
    · cases h
      rfl
  have hget : d'.get? configName = some (.file content) := by
    rw [get?, hentries, lookup_put]
  unfold config
  rw [configNames, List.findSome?_cons, hget]

/-! ## New configurations -/

/-- A configuration is set up for the URL of an endpoint. -/
private theorem write_of_init {d d' : Directory} {operatorApi : Option String} {force : Bool}
    (h : d.init operatorApi force = .ok d') :
    ∃ e, Endpoint.read (operatorApi.getD Template.defaultOperatorApi) = .ok e ∧
      d.write configName (Template.text (operatorApi.getD Template.defaultOperatorApi)) = .ok d' := by
  unfold init at h
  split at h
  · cases h
  · dsimp only at h
    split at h
    · cases h
    · exact ⟨_, ‹_›, h⟩

/-- What a configuration was set up with is found in the directory. -/
theorem config_of_init {d d' : Directory} {operatorApi : Option String} {force : Bool}
    (h : d.init operatorApi force = .ok d')
    (hfits : Template.Fits (operatorApi.getD Template.defaultOperatorApi)) :
    d'.config = .ok (Template.config (operatorApi.getD Template.defaultOperatorApi)) := by
  obtain ⟨e, hread, hwrite⟩ := write_of_init h
  rw [config_of_write hwrite, Template.read_text hfits (Template.begins_of_read hread)]

/-- **The operator's URL is found as it was given, and leads to an endpoint, if it is a plain scalar of
YAML.** -/
theorem init_is_found (d d' : Directory) (operatorApi : Option String) (force : Bool)
    (h : d.init operatorApi force = .ok d')
    (hfits : ∀ url ∈ operatorApi,
      Yaml.IsPlainLine url.toList ∧ ∀ c ∈ url.toList, Yaml.standsForItself c = true) :
    ∃ c e, d'.config = .ok c ∧ c.operatorApi = operatorApi.getD Template.defaultOperatorApi ∧
      c.endpoint = .ok e := by
  have hurl : Template.Fits (operatorApi.getD Template.defaultOperatorApi) := by
    cases operatorApi with
    | none => exact Template.fits_default
    | some url =>
      obtain ⟨hline, hchars⟩ := hfits url rfl
      exact ⟨hline, hchars⟩
  obtain ⟨e, hread, -⟩ := write_of_init h
  exact ⟨Template.config (operatorApi.getD Template.defaultOperatorApi), e, config_of_init h hurl, rfl, hread⟩

/-- A URL with a path is found. -/
theorem init_is_found_withPath :
    Directory.init ⟨".", []⟩ (some "http://localhost:9090/api") false =
        .ok ⟨".", [(configName, .file (Template.text "http://localhost:9090/api"))]⟩ ∧
      ∃ c e, Directory.config ⟨".", [(configName, .file (Template.text "http://localhost:9090/api"))]⟩ = .ok c ∧
        c.operatorApi = "http://localhost:9090/api" ∧ c.endpoint = .ok e := by
  have hinit : Directory.init ⟨".", []⟩ (some "http://localhost:9090/api") false =
      .ok ⟨".", [(configName, .file (Template.text "http://localhost:9090/api"))]⟩ := by
    decide +kernel
  refine ⟨hinit, init_is_found _ _ _ _ hinit ?_⟩
  rintro url ⟨⟩
  exact ⟨by decide +kernel, List.all_eq_true.mp (by decide +kernel)⟩

/-- **A URL of ASCII without a fragment is found unless it ends in a colon.** -/
theorem found_of_init_iff {d d' : Directory} {url : String} {force : Bool}
    (h : d.init (some url) force = .ok d') (hascii : ∀ c ∈ url.toList, c.toNat < 128)
    (hfragment : '#' ∉ url.toList) :
    (∃ c e, d'.config = .ok c ∧ c.operatorApi = url ∧ c.endpoint = .ok e) ↔ url.toList.getLast? ≠ some ':' := by
  obtain ⟨e, hread, hwrite⟩ := write_of_init h
  rw [Option.getD_some] at hread hwrite
  constructor
  · rintro ⟨c, -, hconfig, -, -⟩ hcolon
    rw [config_of_write hwrite, Template.read_text_of_colon hread hascii hfragment hcolon] at hconfig
    cases hconfig
  · intro hcolon
    exact ⟨Template.config url, e, config_of_init h (Template.fits_of_read hread hascii hfragment hcolon), rfl, hread⟩

/-- A URL that ends in a colon is accepted and not found. -/
theorem init_not_found_afterColon :
    ¬ ∀ (d d' : Directory) (operatorApi : Option String) (force : Bool), d.init operatorApi force = .ok d' →
      ∃ c e, d'.config = .ok c ∧ c.operatorApi = operatorApi.getD Template.defaultOperatorApi ∧
        c.endpoint = .ok e := by
  intro hfound
  have hinit : Directory.init ⟨".", []⟩ (some "http://localhost:") false =
      .ok ⟨".", [(configName, .file (Template.text "http://localhost:"))]⟩ := by
    decide +kernel
  have hascii : ("http://localhost:".toList.all fun c => decide (c.toNat < 128)) = true := by decide +kernel
  have hchars : ∀ c ∈ "http://localhost:".toList, c.toNat < 128 := fun c hc =>
    of_decide_eq_true (List.all_eq_true.mp hascii c hc)
  have hcolon := (found_of_init_iff hinit hchars (by decide +kernel)).mp (hfound _ _ _ _ hinit)
  exact hcolon (by decide +kernel)

end Directory

end ChainProvision
