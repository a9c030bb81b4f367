import ChainProvision.Operator.Endpoint
import ChainProvision.Proofs.Text.Characters
import Mathlib.Data.List.TakeWhile

/-!
# URLs of endpoints

What a text is that an endpoint was read from: it begins with the scheme's first letter, and unless it has a
fragment it holds neither blanks nor control characters.

## Main definitions

- `Uri.isVisible`: a character is no blank and no control character of ASCII.

## Main statements

- `Uri.http_of_readScheme`, `Uri.sound_of_readAuthority`, `Uri.parts_of_read`: what is read of an identifier.
- `Endpoint.begins_of_read`: a URL begins with the first letter of its scheme.
- `Endpoint.visible_of_read`: a URL without a fragment holds visible characters only.
-/

namespace ChainProvision

namespace Uri

/-- A character is no blank and no control character of ASCII. -/
def isVisible (c : Char) : Bool := 0x20 < c.toNat && c.toNat != 0x7F

/-- Beyond ASCII every character is visible, and the others can be looked through. -/
private theorem visible_of_table {p : Char → Bool}
    (table : ∀ n : Fin 128, p (Char.ofNat n.val) = true → isVisible (Char.ofNat n.val) = true) {c : Char}
    (h : p c = true) : isVisible c = true := by
  by_cases hascii : c.toNat < 128
  · revert h
    exact Text.of_table c hascii table
  · simp only [isVisible, Bool.and_eq_true, decide_eq_true_eq, bne_iff_ne]
    omega

private theorem visible_of_path {c : Char} (h : isPathChar c = true) : isVisible c = true :=
  visible_of_table (by decide +kernel) h

private theorem visible_of_query {c : Char} (h : isQueryChar c = true) : isVisible c = true :=
  visible_of_table (by decide +kernel) h

private theorem visible_of_scheme {c : Char} (h : isSchemeChar c = true) : isVisible c = true :=
  visible_of_table (by decide +kernel) h

private theorem visible_of_authority {c : Char} (h : Authority.isChar c = true) : isVisible c = true :=
  visible_of_table (by decide +kernel) h

private theorem visible_of_folded {c : Char} (h : isVisible c.toLower = true) : isVisible c = true :=
  visible_of_table (p := fun c => isVisible c.toLower) (by decide +kernel) h

/-! ## Authorities and paths -/

theorem append_splitBefore (p : Char → Bool) (cs : List Char) :
    (splitBefore p cs).1 ++ (splitBefore p cs).2 = cs := List.takeWhile_append_dropWhile

private theorem visible_of_step {s s' : Authority.Scan} {c : Char} (h : s.step c = .ok s') :
    isVisible c = true := by
  have hmarks : [':', '[', ']', '@', '%'].all isVisible = true := by decide
  by_cases hc : c ∈ [':', '[', ']', '@', '%']
  · exact List.all_eq_true.mp hmarks c hc
  · simp only [List.mem_cons, List.not_mem_nil, or_false, not_or] at hc
    obtain ⟨hcolon, hopening, hclosing, hat, hpercent⟩ := hc
    apply visible_of_authority
    cases hchar : Authority.isChar c with
    | true => rfl
    | false => simp [Authority.Scan.step, hcolon, hopening, hclosing, hat, hpercent, hchar] at h

private theorem visible_of_scan {cs : List Char} {s s' : Authority.Scan}
    (h : cs.foldlM Authority.Scan.step s = .ok s') : ∀ c ∈ cs, isVisible c = true := by
  induction cs generalizing s with
  | nil => simp
  | cons c cs ih =>
    rw [List.foldlM_cons] at h
    cases hstep : s.step c with
    | error e =>
      rw [hstep] at h
      cases h
    | ok next =>
      rw [hstep] at h
      exact List.forall_mem_cons.mpr ⟨visible_of_step hstep, ih h⟩

/-- An authority goes on up to the first character that ends one, and its scan is sound. -/
theorem sound_of_readAuthority {cs rest : List Char} {a : Authority} (h : readAuthority cs = .ok (a, rest)) :
    splitBefore Authority.isEnd cs = (a.chars, rest) ∧
      ∃ scan, a.chars.foldlM Authority.Scan.step {} = .ok scan ∧ scan.isSound = true := by
  unfold readAuthority Authority.read at h
  split at h
  · cases h
  · dsimp only at h
    split at h
    · cases h
    · rename_i scan hscan
      split at h
      · rename_i hsound
        cases h
        exact ⟨rfl, scan, hscan, hsound⟩
      · cases h

/-- An authority holds visible characters only, and what follows it is the rest of the text. -/
private theorem spec_readAuthority {cs rest : List Char} {a : Authority} (h : readAuthority cs = .ok (a, rest)) :
    cs = a.chars ++ rest ∧ ∀ c ∈ a.chars, isVisible c = true := by
  obtain ⟨hsplit, scan, hscan, -⟩ := sound_of_readAuthority h
  refine ⟨?_, visible_of_scan hscan⟩
  rw [← append_splitBefore Authority.isEnd cs, hsplit]

/-- Without a fragment, what follows the path is nothing or a query. -/
private theorem query_of_noFragment {cs : List Char} (hfragment : '#' ∉ cs) :
    (splitBefore (fun c => c == '?' || c == '#') cs).2 = [] ∨
      ∃ query, (splitBefore (fun c => c == '?' || c == '#') cs).2 = '?' :: query ∧
        (splitBefore (· == '#') query).1 = query := by
  have hcs := append_splitBefore (fun c => c == '?' || c == '#') cs
  have hend := List.head?_dropWhile_not (fun c => !(c == '?' || c == '#')) cs
  cases hrest : (splitBefore (fun c => c == '?' || c == '#') cs).2 with
  | nil => exact Or.inl rfl
  | cons c query =>
    rw [hrest] at hcs
    rw [show cs.dropWhile (fun c => !(c == '?' || c == '#')) = c :: query from hrest] at hend
    have hquery : '#' ∉ c :: query := fun hmem => hfragment (by rw [← hcs]; exact List.mem_append_right _ hmem)
    rw [List.mem_cons, not_or] at hquery
    obtain ⟨hc, hquery⟩ := hquery
    have hmark : c = '?' := by
      simp only [List.head?_cons, Bool.not_eq_false', Bool.or_eq_true, beq_iff_eq] at hend
      exact hend.resolve_right (Ne.symm hc)
    refine Or.inr ⟨query, by rw [hmark], ?_⟩
    rw [splitBefore, List.takeWhile_eq_self_iff]
    intro d hd
    have hne : d ≠ '#' := fun h => hquery (h ▸ hd)
    simp [hne]

private theorem visible_of_readPath {cs : List Char} {path : String} (h : readPath cs = .ok path)
    (hfragment : '#' ∉ cs) : ∀ c ∈ cs, isVisible c = true := by
  unfold readPath at h
  dsimp only at h
  split at h
  · cases h
  · rename_i hpath
    simp only [Bool.not_eq_true', Bool.not_eq_false, List.all_eq_true] at hpath
    intro c hc
    rw [← append_splitBefore (fun c => c == '?' || c == '#') cs, List.mem_append] at hc
    rcases hc with hc | hc
    · exact visible_of_path (hpath c hc)
    · rcases query_of_noFragment hfragment with hrest | ⟨query, hrest, hall⟩
      · rw [hrest] at hc
        cases hc
      · rw [hrest] at hc h
        simp only [hall] at h
        split at h
        · cases h
        · rename_i hquery
          simp only [Bool.not_eq_true', Bool.not_eq_false, List.all_eq_true] at hquery
          rcases List.mem_cons.mp hc with rfl | hc
          · decide
          · exact visible_of_query (hquery c hc)

/-! ## Schemes -/

theorem spec_afterFolded? {phrase text rest : List Char} (h : afterFolded? phrase text = some rest) :
    ∃ start, text = start ++ rest ∧ start.map Char.toLower = phrase := by
  induction phrase generalizing text with
  | nil =>
    cases h
    exact ⟨[], rfl, rfl⟩
  | cons p phrase ih =>
    cases text with
    | nil => cases h
    | cons c text =>
      rw [afterFolded?] at h
      split at h
      · rename_i hp
        obtain ⟨start, htext, hstart⟩ := ih h
        refine ⟨c :: start, by rw [htext, List.cons_append], ?_⟩
        rw [List.map_cons, hstart, hp]
      · cases h

theorem afterFolded?_append {start rest phrase : List Char} (h : start.map Char.toLower = phrase) :
    afterFolded? phrase (start ++ rest) = some rest := by
  induction start generalizing phrase with
  | nil =>
    obtain rfl := h
    rfl
  | cons c start ih =>
    obtain rfl := h
    rw [List.map_cons, List.cons_append, afterFolded?, if_pos rfl]
    exact ih rfl

/-- The scheme of plain HTTP is read in any case, and not from anything else. -/
theorem http_of_readScheme {cs rest : List Char} (h : readScheme cs = .ok (some ("http", rest))) :
    ∃ scheme, cs = scheme ++ rest ∧ scheme.map Char.toLower = "http://".toList := by
  unfold readScheme at h
  split at h
  · rename_i hafter
    cases h
    exact spec_afterFolded? hafter
  · simp at h
  · rename_i hplain _
    -- A scheme read as it is written would have been recognised before.
    exfalso
    dsimp only at h
    split at h
    · rename_i hdrop
      have hcs := List.prefix_iff_eq_append.mp (List.takeWhile_prefix isSchemeChar (l := cs))
      rw [hdrop] at hcs
      split at h
      · cases h
      · split at h
        · cases h
        · simp only [Except.ok.injEq, Option.some.injEq, Prod.mk.injEq] at h
          have hname : cs.takeWhile isSchemeChar = "http".toList := String.ofList_injective h.1
          rw [hname, h.2] at hcs
          have hfound : afterFolded? "http://".toList ("http://".toList ++ rest) = some rest :=
            afterFolded?_append (by decide)
          rw [show "http://".toList ++ rest = cs from hcs, hplain] at hfound
          cases hfound
    · cases h

private theorem spec_readScheme {cs rest : List Char} {scheme : String}
    (h : readScheme cs = .ok (some (scheme, rest))) :
    ∃ start, cs = start ++ rest ∧ ∀ c ∈ start, isVisible c = true := by
  have hfolded : ∀ {phrase : List Char}, phrase.all isVisible = true → afterFolded? phrase cs = some rest →
      ∃ start, cs = start ++ rest ∧ ∀ c ∈ start, isVisible c = true := by
    intro phrase hvisible hafter
    obtain ⟨start, hcs, rfl⟩ := spec_afterFolded? hafter
    refine ⟨start, hcs, fun c hc => visible_of_folded ?_⟩
    exact List.all_eq_true.mp hvisible _ (List.mem_map_of_mem hc)
  -- The two schemes that are known are read in either case, and every other one as it is written.
  unfold readScheme at h
  split at h
  · rename_i hafter
    cases h
    exact hfolded (by decide +kernel) hafter
  · rename_i hafter
    cases h
    exact hfolded (by decide +kernel) hafter
  · dsimp only at h
    split at h
    · rename_i hdrop
      have hcs := List.prefix_iff_eq_append.mp (List.takeWhile_prefix isSchemeChar (l := cs))
      have hvisible : ∀ c ∈ cs.takeWhile isSchemeChar, isVisible c = true := fun c hc =>
        visible_of_scheme (List.mem_takeWhile_imp hc)
      rw [hdrop] at hcs
      generalize cs.takeWhile isSchemeChar = name at h hcs hvisible
      split at h
      · cases h
      · split at h
        · cases h
        · cases h
          refine ⟨name ++ [':', '/', '/'], by rw [← hcs]; simp, ?_⟩
          have hmarks : [':', '/', '/'].all isVisible = true := by decide
          exact fun c hc => (List.mem_append.mp hc).elim (hvisible c) (List.all_eq_true.mp hmarks c)
    · cases h

/-! ## Identifiers -/

/-- An absolute identifier is a scheme, an authority and a path. -/
theorem parts_of_read {s scheme path : String} {a : Authority}
    (h : Uri.read s = .ok (.absolute scheme a path)) :
    ∃ rest after, readScheme s.toList = .ok (some (scheme, rest)) ∧ readAuthority rest = .ok (a, after) ∧
      readPath after = .ok path := by
  unfold Uri.read at h
  dsimp only at h
  split at h
  · cases h
  · split at h
    · cases h
    · cases h
    · cases hpath : readPath s.toList with
      | error e => simp [hpath, Except.map] at h
      | ok path => simp [hpath, Except.map] at h
    · split at h
      · cases h
      · split at h
        · cases h
        · cases h
    · split at h
      · cases h
      · split at h
        · cases h
        · split at h
          · cases h
          · cases h
      · rename_i scheme' rest hscheme
        split at h
        · cases h
        · rename_i found after hauthority
          split at h
          · cases h
          · cases hpath : readPath after with
            | error e =>
              rw [hpath] at h
              cases h
            | ok path' =>
              rw [hpath] at h
              cases h
              exact ⟨rest, after, hscheme, hauthority, hpath⟩

end Uri

/-! ## Endpoints -/

namespace Endpoint

/-- An endpoint has its authority, and with it its host and its port, from an absolute URL. -/
theorem uri_of_read {url : String} {e : Endpoint} (h : Endpoint.read url = .ok e) :
    (∃ path, Uri.read url = .ok (.absolute "http" e.authority path)) ∧
      e.host = e.authority.host ∧ e.port = e.authority.port.getD defaultPort := by
  unfold Endpoint.read at h
  split at h
  · cases h
  · cases h
  · cases h
  · split at h
    · cases h
    · rename_i hscheme
      rw [Decidable.not_not] at hscheme
      subst hscheme
      cases h
      exact ⟨⟨_, ‹_›⟩, rfl, rfl⟩

/-- A URL begins with the first letter of its scheme. -/
theorem begins_of_read {url : String} {e : Endpoint} (h : Endpoint.read url = .ok e) :
    url.toList.head?.any (fun c => c.toLower == 'h') = true := by
  obtain ⟨⟨path, huri⟩, -, -⟩ := uri_of_read h
  obtain ⟨rest, after, hscheme, -, -⟩ := Uri.parts_of_read huri
  obtain ⟨start, hcs, hfolded⟩ := Uri.http_of_readScheme hscheme
  rw [hcs]
  cases start with
  | nil => cases hfolded
  | cons c start => simpa using congrArg List.head? hfolded

/-- **A URL without a fragment holds visible characters only.** -/
theorem visible_of_read {url : String} {e : Endpoint} (h : Endpoint.read url = .ok e)
    (hfragment : '#' ∉ url.toList) : ∀ c ∈ url.toList, Uri.isVisible c = true := by
  obtain ⟨⟨path, huri⟩, -, -⟩ := uri_of_read h
  obtain ⟨rest, after, hscheme, hauthority, hpath⟩ := Uri.parts_of_read huri
  obtain ⟨start, hcs, hstart⟩ := Uri.spec_readScheme hscheme
  obtain ⟨hrest, hchars⟩ := Uri.spec_readAuthority hauthority
  -- The text is the scheme, the authority and what follows them, each of visible characters.
  rw [hcs, hrest] at hfragment ⊢
  have hafter : '#' ∉ after := fun hmem =>
    hfragment (List.mem_append_right _ (List.mem_append_right _ hmem))
  intro c hc
  rcases List.mem_append.mp hc with hc | hc
  · exact hstart c hc
  · rcases List.mem_append.mp hc with hc | hc
    · exact hchars c hc
    · exact Uri.visible_of_readPath hpath hafter c hc

end Endpoint

end ChainProvision
