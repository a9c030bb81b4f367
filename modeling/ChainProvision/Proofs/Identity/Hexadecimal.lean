import ChainProvision.Deployment.State
import ChainProvision.Follow.Watcher
import ChainProvision.Proofs.Identity.Written
import ChainProvision.Transaction.Tracker
import Mathlib.Data.List.Basic

/-!
# Which texts are addresses and hashes

An address or a hash is read from `0x` or `0X` and hexadecimal digits, blanks around them aside, if there is the
right number of digits.  It is written with the same digits in small letters, so two texts give the same value
just if their digits are the same up to case.

## Main definitions

- `Hex.Spells`: a text is hexadecimal digits behind `0x` or `0X`.
- `Hex.SameDigits`: two texts spell the same digits up to case.
- `Hex.Canonical`: values are read from digits of the right number and told apart by these alone.

## Main statements

- `Hex.readDigits_eq_ok_iff`, `Hex.read_eq_ok_iff`: which digits are read.
- `Address.canonical`, `TxHash.canonical`: addresses and hashes are told apart by their digits.
- `Hex.hexadecimal_texts_read_exactly`: so are services by their callers and logs by their contracts.
-/

namespace ChainProvision

namespace Hex

/-- The hexadecimal digits in either case. -/
def alphabet : List Char := "0123456789abcdefABCDEF".toList

/-- A text is hexadecimal digits behind `0x` or `0X`, blanks around it aside. -/
structure Spells (s : String) (digits : List Char) : Prop where
  strip_eq : Text.strip s.toList = '0' :: 'x' :: digits ∨ Text.strip s.toList = '0' :: 'X' :: digits
  mem_alphabet : ∀ c ∈ digits, c ∈ alphabet

/-- Two texts spell the same digits, the case of letters aside. -/
def SameDigits (s t : String) : Prop :=
  ∃ digits others, Spells s digits ∧ Spells t others ∧ digits.map Char.toLower = others.map Char.toLower

/-- Values are read from texts that spell a fitting number of digits, written with these digits in small
letters, and read back from what is written; two are the same just if their texts spell the same digits. -/
structure Canonical {α : Type} (read : String → Except HexError α) (text : α → String) (fits : Nat → Prop) :
    Prop where
  accepts : ∀ s, (∃ a, read s = .ok a) ↔ ∃ digits, Spells s digits ∧ fits digits.length
  text_eq : ∀ s a digits, read s = .ok a → Spells s digits →
    text a = "0x" ++ String.ofList (digits.map Char.toLower)
  read_text : ∀ a, read (text a) = .ok a
  eq_iff : ∀ s t a b, read s = .ok a → read t = .ok b → (a = b ↔ SameDigits s t)

/-! ## Digits -/

private theorem digitChar_injective : Function.Injective digitChar := by
  intro d e
  revert d e
  decide

private theorem of_digit? {c : Char} {d : Fin 16} (h : digit? c = some d) :
    c ∈ alphabet ∧ digitChar d = c.toLower := by
  -- A digit is ASCII, so that a table tells the rest.
  have hascii : c.toNat < 128 := by
    unfold digit? at h
    split at h
    · omega
    · split at h
      · omega
      · split at h
        · omega
        · cases h
  exact Text.of_table (motive := fun c => ∀ d, digit? c = some d → c ∈ alphabet ∧ digitChar d = c.toLower) c
    hascii (by decide +kernel) d h

private theorem exists_digit? {c : Char} (h : c ∈ alphabet) : ∃ d, digit? c = some d := by
  have hall : (alphabet.all fun c => (digit? c).isSome) = true := by decide +kernel
  exact Option.isSome_iff_exists.mp (List.all_eq_true.mp hall c h)

/-- **Digits are read if they are in the alphabet**, as what their small letters stand for. -/
theorem readDigits_eq_ok_iff {cs : List Char} {digits : List (Fin 16)} :
    readDigits cs = .ok digits ↔
      (∀ c ∈ cs, c ∈ alphabet) ∧ digits.map digitChar = cs.map Char.toLower := by
  induction cs generalizing digits with
  | nil =>
    rw [List.map_nil, List.map_eq_nil_iff, readDigits, Except.ok.injEq, eq_comm]
    exact (and_iff_right (List.forall_mem_nil _)).symm
  | cons c cs ih =>
    rw [readDigits, List.forall_mem_cons, List.map_cons]
    cases hdigit : digit? c with
    | none =>
      refine iff_of_false (fun h => by cases h) ?_
      rintro ⟨⟨hc, -⟩, -⟩
      obtain ⟨d, hd⟩ := exists_digit? hc
      rw [hdigit] at hd
      cases hd
    | some d =>
      obtain ⟨hc, hlower⟩ := of_digit? hdigit
      constructor
      · intro h
        obtain ⟨rest, hrest, rfl⟩ : ∃ rest, readDigits cs = .ok rest ∧ d :: rest = digits := by
          cases hrest : readDigits cs with
          | error e => rw [hrest] at h; cases h
          | ok rest => rw [hrest] at h; exact ⟨rest, rfl, Except.ok.inj h⟩
        obtain ⟨hcs, hmap⟩ := ih.mp hrest
        exact ⟨⟨hc, hcs⟩, by rw [List.map_cons, hlower, hmap]⟩
      · rintro ⟨⟨-, hcs⟩, hmap⟩
        cases digits with
        | nil => cases hmap
        | cons e rest =>
          obtain ⟨hhead, htail⟩ := List.cons.inj hmap
          obtain rfl := digitChar_injective (hlower.trans hhead.symm)
          dsimp only
          rw [ih.mpr ⟨hcs, htail⟩]
          rfl

/-! ## Texts -/

theorem read_eq_ok_iff {s : String} {digits : List (Fin 16)} :
    read s = .ok digits ↔ ∃ cs, Spells s cs ∧ digits.map digitChar = cs.map Char.toLower := by
  unfold read
  split
  · rename_i cs hstrip
    rw [readDigits_eq_ok_iff]
    constructor
    · exact fun ⟨hcs, hmap⟩ => ⟨cs, ⟨Or.inl hstrip, hcs⟩, hmap⟩
    · rintro ⟨cs', ⟨heq, hcs⟩, hmap⟩
      obtain rfl : cs' = cs := by simpa [hstrip, eq_comm] using heq
      exact ⟨hcs, hmap⟩
  · rename_i cs hstrip
    rw [readDigits_eq_ok_iff]
    constructor
    · exact fun ⟨hcs, hmap⟩ => ⟨cs, ⟨Or.inr hstrip, hcs⟩, hmap⟩
    · rintro ⟨cs', ⟨heq, hcs⟩, hmap⟩
      obtain rfl : cs' = cs := by simpa [hstrip, eq_comm] using heq
      exact ⟨hcs, hmap⟩
  · rename_i hsmall hcapital
    refine iff_of_false nofun ?_
    rintro ⟨cs, ⟨heq | heq, -⟩, -⟩
    · exact hsmall cs heq
    · exact hcapital cs heq

/-- A text spells one row of digits. -/
theorem Spells.unique {s : String} {cs ds : List Char} (hcs : Spells s cs) (hds : Spells s ds) : cs = ds := by
  rcases hcs.strip_eq with h | h <;> simpa [h] using hds.strip_eq

theorem Spells.exists_read {s : String} {cs : List Char} (h : Spells s cs) :
    ∃ digits, read s = .ok digits ∧ digits.map digitChar = cs.map Char.toLower := by
  have hdigits : ∃ digits, readDigits cs = .ok digits := by
    have halphabet := h.mem_alphabet
    clear h
    induction cs with
    | nil => exact ⟨[], rfl⟩
    | cons c cs ih =>
      obtain ⟨d, hd⟩ := exists_digit? (halphabet c List.mem_cons_self)
      obtain ⟨rest, hrest⟩ := ih fun c hc => halphabet c (List.mem_cons_of_mem _ hc)
      exact ⟨d :: rest, by rw [readDigits, hd, hrest]; rfl⟩
  obtain ⟨digits, hread⟩ := hdigits
  have hmap := (readDigits_eq_ok_iff.mp hread).2
  exact ⟨digits, read_eq_ok_iff.mpr ⟨cs, h, hmap⟩, hmap⟩

theorem text_eq_of_map {digits : List (Fin 16)} {cs : List Char}
    (h : digits.map digitChar = cs.map Char.toLower) :
    text digits = "0x" ++ String.ofList (cs.map Char.toLower) := by
  rw [← String.toList_inj, String.toList_append, text, h]
  simp only [String.toList_ofList]
  rfl

/-- Values that are rows of digits of a fitting number are read and written canonically. -/
theorem canonical_of {α : Type} {read' : String → Except HexError α} {text' : α → String} {fits : Nat → Prop}
    (digits : α → List (Fin 16)) (hinj : Function.Injective digits)
    (hread : ∀ s a, read' s = .ok a ↔ read s = .ok (digits a)) (htext : ∀ a, text' a = text (digits a))
    (hfits : ∀ ds, fits ds.length ↔ ∃ a, digits a = ds) : Canonical read' text' fits where
  accepts s := by
    constructor
    · rintro ⟨a, ha⟩
      obtain ⟨cs, hcs, hmap⟩ := read_eq_ok_iff.mp ((hread s a).mp ha)
      refine ⟨cs, hcs, ?_⟩
      -- There are as many characters as digits that they stand for.
      have hlength := congrArg List.length hmap
      rw [List.length_map, List.length_map] at hlength
      rw [← hlength]
      exact (hfits _).mpr ⟨a, rfl⟩
    · rintro ⟨cs, hcs, hfit⟩
      obtain ⟨ds, hds, hmap⟩ := hcs.exists_read
      have hlength := congrArg List.length hmap
      rw [List.length_map, List.length_map] at hlength
      obtain ⟨a, rfl⟩ := (hfits ds).mp (hlength ▸ hfit)
      exact ⟨a, (hread s a).mpr hds⟩
  text_eq s a cs ha hcs := by
    obtain ⟨cs', hcs', hmap⟩ := read_eq_ok_iff.mp ((hread s a).mp ha)
    obtain rfl := hcs.unique hcs'
    rw [htext, text_eq_of_map hmap]
  read_text a := by
    rw [htext, hread, Hex.read_text]
  eq_iff s t a b ha hb := by
    obtain ⟨cs, hcs, hmap⟩ := read_eq_ok_iff.mp ((hread s a).mp ha)
    obtain ⟨ds, hds, hmap'⟩ := read_eq_ok_iff.mp ((hread t b).mp hb)
    constructor
    · rintro rfl
      exact ⟨cs, ds, hcs, hds, hmap.symm.trans hmap'⟩
    · rintro ⟨cs', ds', hcs', hds', hsame⟩
      obtain rfl := hcs.unique hcs'
      obtain rfl := hds.unique hds'
      have hdigits := (List.map_inj_right fun _ _ h => digitChar_injective h).mp (hmap.trans (hsame.trans hmap'.symm))
      exact hinj hdigits

end Hex

/-! ## Addresses and hashes -/

theorem Address.canonical : Hex.Canonical Address.read Address.text (· = 40) := by
  refine Hex.canonical_of Address.digits ?_ ?_ (fun _ => rfl) ?_
  · rintro ⟨ds, -⟩ ⟨es, -⟩ rfl
    rfl
  · rintro s ⟨ds, hlength⟩
    unfold Address.read
    cases hread : Hex.read s with
    | error e => simp
    | ok es =>
      by_cases hes : es.length = 40
      · simp [hes]
      · simp only [hes, Except.ok.injEq]
        exact iff_of_false nofun fun heq => hes (heq ▸ hlength)
  · exact fun ds => ⟨fun h => ⟨⟨ds, h⟩, rfl⟩, fun ⟨a, ha⟩ => ha ▸ a.length_eq⟩

theorem TxHash.canonical : Hex.Canonical TxHash.read TxHash.text (fun n => 1 ≤ n ∧ n ≤ 64) := by
  refine Hex.canonical_of TxHash.digits ?_ ?_ (fun _ => rfl) ?_
  · rintro ⟨ds, -, -⟩ ⟨es, -, -⟩ rfl
    rfl
  · rintro s ⟨ds, hpos, hle⟩
    unfold TxHash.read
    cases hread : Hex.read s with
    | error e => simp
    | ok es =>
      by_cases hes : 0 < es.length
      · by_cases hes' : es.length ≤ 64
        · simp [hes, hes']
        · simp only [hes, hes', Except.ok.injEq]
          exact iff_of_false nofun fun heq => hes' (heq ▸ hle)
      · simp only [hes, Except.ok.injEq]
        exact iff_of_false nofun fun heq => hes (heq ▸ hpos)
  · exact fun ds => ⟨fun h => ⟨⟨ds, h.1, h.2⟩, rfl⟩, fun ⟨a, ha⟩ => ha ▸ ⟨a.length_pos, a.length_le⟩⟩

/-! ## Comparisons -/

/-- An instance goes to the service of a validation just if that is usable and was made for the account. -/
theorem Inputs.route_dedicated_eq_job_iff {i : Inputs} {settings : Settings} {v : Validation}
    {account caller : Address} (haccount : i.account = some account) (hservice : i.service = some v)
    (hcaller : v.caller = some caller) :
    i.route .dedicated settings = .job v.service ↔ caller = account ∧ v.isUsable = true := by
  rw [Inputs.route, haccount, hservice, Option.filter_some]
  have husable : v.isUsableBy (some account) = true ↔ caller = account ∧ v.isUsable = true := by
    simp [Validation.isUsableBy, hcaller]
  rw [← husable]
  cases hv : v.isUsableBy (some account) with
  | false => simp [Route.select]
  | true => simp [Route.select, (husable.mp hv).2]

theorem WatchTarget.isSome_completion?_iff {target : WatchTarget} {key : String} {log : Log} :
    (target.completion? key log).isSome = true ↔
      log.address = target.contract ∧ log.event = target.event ∧ log.key.map Text.trim = some key ∧
        log.resource.isSome = true := by
  unfold WatchTarget.completion?
  split
  · rename_i h
    simp [h]
  · rename_i h
    refine iff_of_false nofun ?_
    rintro ⟨haddress, hevent, hkey, -⟩
    exact h ⟨haddress, hevent, hkey⟩

/-- A log gives a number just if its contract is the one that is asked for. -/
theorem isSome_correlationOf_singleton_iff {log : Log} {contract : Address} {event : String} :
    (correlationOf [log] contract event).isSome = true ↔
      log.address = contract ∧ (correlationOf [log] log.address event).isSome = true := by
  by_cases haddress : log.address = contract
  · simp [haddress]
  · simp [correlationOf, haddress]

/-- **Hexadecimal texts are read exactly and canonically.**  The case of letters does not matter wherever
addresses are compared, in the choice of the route and in what is found in logs, and nothing else is taken for
the same. -/
theorem Hex.hexadecimal_texts_read_exactly :
    Hex.Canonical Address.read Address.text (· = 40) ∧
    Hex.Canonical TxHash.read TxHash.text (fun n => 1 ≤ n ∧ n ≤ 64) ∧
    ∀ s t a b, Address.read s = .ok a → Address.read t = .ok b →
      (∀ (i : Inputs) (settings : Settings) (v : Validation), i.account = some b → i.service = some v →
        v.caller = some a →
          (i.route .dedicated settings = .job v.service ↔ Hex.SameDigits s t ∧ v.isUsable = true)) ∧
      (∀ (log : Log) (event key : String), log.address = a →
        ((WatchTarget.completion? ⟨b, event⟩ key log).isSome = true ↔
          Hex.SameDigits s t ∧ log.event = event ∧ log.key.map Text.trim = some key ∧
            log.resource.isSome = true)) ∧
      (∀ (log : Log) (event : String), log.address = a →
        ((correlationOf [log] b event).isSome = true ↔
          Hex.SameDigits s t ∧ (correlationOf [log] a event).isSome = true)) := by
  refine ⟨Address.canonical, TxHash.canonical, ?_⟩
  intro s t a b ha hb
  have hsame := Address.canonical.eq_iff s t a b ha hb
  refine ⟨?_, ?_, ?_⟩
  · intro i settings v haccount hservice hcaller
    rw [Inputs.route_dedicated_eq_job_iff haccount hservice hcaller, hsame]
  · rintro log event key rfl
    rw [WatchTarget.isSome_completion?_iff, hsame]
  · rintro log event rfl
    rw [isSome_correlationOf_singleton_iff, hsame]

namespace Hex

/-- An account in capitals behind `0X`, between blanks. -/
private def capitals : String := "\u00a00XABCDEF0123456789ABCDEF0123456789ABCDEF01\t"

/-- The same account in small letters. -/
private def smallLetters : String := "0xabcdef0123456789abcdef0123456789abcdef01"

/-- The digits from ten on, in turn. -/
private def account : Address :=
  ⟨(List.range 40).map fun i => ⟨(i + 10) % 16, Nat.mod_lt _ (by decide)⟩, rfl⟩

theorem hexadecimal_texts_read_exactly_capitals :
    let settings : Settings := { contract := account, blueprint := ⟨.ofNat 1⟩, sandboxService := ⟨.ofNat 3⟩ }
    let v : Validation :=
      ⟨⟨.ofNat 9⟩, ⟨⟨.ofNat 9⟩, ⟨.ofNat 1⟩, .zero, [], .ofNat 0⟩, true, [], some account, some true⟩
    let log : Log := { address := account, event := "JobSubmitted", key := some " 42 ", resource := some "sb-1" }
    Address.read capitals = .ok account ∧ Address.read smallLetters = .ok account ∧
      account.text = smallLetters ∧ SameDigits capitals smallLetters ∧
      Inputs.route { account := some account, service := some v } .dedicated settings = .job v.service ∧
      (WatchTarget.completion? ⟨account, "JobSubmitted"⟩ "42" log).isSome = true ∧
      (correlationOf [log] account "JobSubmitted").isSome = true := by
  intro settings v log
  obtain ⟨haddress, -, hcompared⟩ := hexadecimal_texts_read_exactly
  have hcapitals : Address.read capitals = .ok account := by decide +kernel
  have hsmall : Address.read smallLetters = .ok account := by decide +kernel
  have hsame : SameDigits capitals smallLetters := (haddress.eq_iff _ _ _ _ hcapitals hsmall).mp rfl
  obtain ⟨hroute, hcompletion, hcorrelation⟩ := hcompared capitals smallLetters account account hcapitals hsmall
  refine ⟨hcapitals, hsmall, by decide +kernel, hsame, ?_, ?_, ?_⟩
  · exact (hroute _ settings v rfl rfl rfl).mpr ⟨hsame, rfl⟩
  · exact (hcompletion log _ _ rfl).mpr ⟨hsame, rfl, by decide +kernel, rfl⟩
  · exact (hcorrelation log _ rfl).mpr ⟨hsame, by decide +kernel⟩

end Hex

end ChainProvision
