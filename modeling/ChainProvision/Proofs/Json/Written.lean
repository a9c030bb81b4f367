import ChainProvision.Json.Reader
import ChainProvision.Proofs.Text.Numeral
import ChainProvision.Proofs.Text.Utf8

/-!
# What is written in JSON is read back

The compact text of a value is cut into the tokens that the value is written with, and these are read as
the value again, with nothing left over.  Numbers are only ever written as integers here.

## Main definitions

- `Json.isWritable`: the values that are JSON throughout, with integers for numbers;
- `Json.tokensOf`: the tokens that a value is written with;
- `Json.Ends`: what may stand after a value;
- `Json.ofBytes?`: the value that bytes are, if they are JSON throughout.

## Main statements

- `Json.tokensFrom_chars`: a written value is cut into its tokens.
- `Json.readValue_tokensOf`: the tokens of a value are read as the value.
- `Json.parse_text`: the text of a value is read as the value.
- `Json.ofBytes?_toUTF8`: so are the bytes of the text.
-/

namespace ChainProvision.Json

/-! ## Values that are written -/

mutual

/-- Whether a value is JSON throughout, with integers for numbers. -/
def isWritable : Json → Bool
  | .null => true
  | .bool _ => true
  | .number n => n.isInteger
  | .string _ => true
  | .array items => itemsWritable items
  | .object members => membersWritable members
  | .garbled => false
  | .broken => false

/-- Whether every item is JSON throughout, with integers for numbers. -/
def itemsWritable : List Json → Bool
  | [] => true
  | v :: rest => isWritable v && itemsWritable rest

/-- Whether every member is JSON throughout, with integers for numbers. -/
def membersWritable : List (Key × Json) → Bool
  | [] => true
  | (k, v) :: rest => k.name?.isSome && isWritable v && membersWritable rest

end

/-- The token that a key is written with. -/
def Key.token : Key → Token
  | .name s => .string s
  | .garbled => .garbled
  | .broken => .bad

mutual

/-- The tokens that a value is written with. -/
def tokensOf : Json → List Token
  | .null => [.null]
  | .bool b => [.bool b]
  | .number n => [.number n]
  | .string s => [.string s]
  | .array items => .beginArray :: itemsTokens items ++ [.endArray]
  | .object members => .beginObject :: membersTokens members ++ [.endObject]
  | .garbled => [.garbled]
  | .broken => [.bad]

/-- The tokens that the items of an array are written with. -/
def itemsTokens : List Json → List Token
  | [] => []
  | [v] => tokensOf v
  | v :: w :: rest => tokensOf v ++ .comma :: itemsTokens (w :: rest)

/-- The tokens that the members of an object are written with. -/
def membersTokens : List (Key × Json) → List Token
  | [] => []
  | [(k, v)] => k.token :: .colon :: tokensOf v
  | (k, v) :: w :: rest => k.token :: .colon :: tokensOf v ++ .comma :: membersTokens (w :: rest)

end

/-- What may stand after a value: nothing, a comma, or the end of an array or an object. -/
def Ends (cs : List Char) : Prop := ∀ c, cs.head? = some c → c = ',' ∨ c = ']' ∨ c = '\x7d'

theorem ends_nil : Ends [] := fun _ h => by cases h

theorem ends_comma (cs : List Char) : Ends (',' :: cs) := fun _ h => .inl (Option.some.inj h).symm

theorem ends_endArray (cs : List Char) : Ends (']' :: cs) :=
  fun _ h => .inr (.inl (Option.some.inj h).symm)

theorem ends_endObject (cs : List Char) : Ends ('\x7d' :: cs) :=
  fun _ h => .inr (.inr (Option.some.inj h).symm)

/-! ## Numbers -/

private theorem digit?_digitChar {d : Nat} (h : d < 10) : Text.digit? (Nat.digitChar d) = some d := by
  have table : ∀ d : Fin 10, Text.digit? (Nat.digitChar d.val) = some d.val := by decide
  exact table ⟨d, h⟩

private theorem start_digitChar {d : Nat} (h : d < 10) :
    start (Nat.digitChar d) = (none, .numeral (.whole false d)) := by
  have table : ∀ d : Fin 10, start (Nat.digitChar d.val) = (none, .numeral (.whole false d.val)) := by
    decide
  exact table ⟨d, h⟩

/-- Where a first digit begins a number, a decimal form is taken in as its number. -/
private theorem tokensFrom_toDigits {p : Position} {negative : Bool}
    (hfirst : ∀ d < 10, ∀ rest,
      tokensFrom p (Nat.digitChar d :: rest) = tokensFrom (.numeral (.whole negative d)) rest)
    (n : Nat) (rest : List Char) :
    tokensFrom p (Nat.toDigits 10 n ++ rest) = tokensFrom (.numeral (.whole negative n)) rest := by
  -- From the last digit: what is in front of it is the decimal form of a tenth of the number.
  induction n using Nat.strongRecOn generalizing rest with
  | ind n ih =>
    rw [Nat.toDigits_eq_if (by decide)]
    split
    · rename_i hlt
      exact hfirst n hlt rest
    · rename_i hge
      have htenth : n / 10 ≠ 0 := by omega
      have hlast : n % 10 < 10 := Nat.mod_lt n (by decide)
      have hsum : n / 10 * 10 + n % 10 = n := by omega
      rw [List.append_assoc, ih (n / 10) (by omega)]
      simp [tokensFrom, step, NumeralPosition.next?, digit?_digitChar hlast, htenth, hsum]

/-- A number ends where the value ends. -/
private theorem tokensFrom_whole {rest : List Char} (hrest : Ends rest) (negative : Bool) (n : Nat) :
    tokensFrom (.numeral (.whole negative n)) rest =
      .number { negative, whole := n } :: tokensFrom .between rest := by
  cases rest with
  | nil => rfl
  | cons c rest =>
    have hc : Text.digit? c = none ∧ c ≠ '.' ∧ c ≠ 'e' ∧ c ≠ 'E' := by
      rcases hrest c rfl with rfl | rfl | rfl <;> decide
    obtain ⟨hdigit, hpoint, hsmall, hcapital⟩ := hc
    simp [tokensFrom, step, NumeralPosition.next?, NumeralPosition.finished?,
      NumeralPosition.isSpoiledBy, hdigit, hpoint, hsmall, hcapital]

theorem tokensFrom_number {n : Number} {rest : List Char} (hn : n.isInteger = true) (hrest : Ends rest) :
    tokensFrom .between (n.chars ++ rest) = .number n :: tokensFrom .between rest := by
  obtain ⟨negative, whole, fraction, power⟩ := n
  simp only [Number.isInteger, Bool.and_eq_true, List.isEmpty_iff, Option.isNone_iff_eq_none] at hn
  obtain ⟨rfl, rfl⟩ := hn
  cases negative with
  | false =>
    have hfirst : ∀ d < 10, ∀ rest,
        tokensFrom .between (Nat.digitChar d :: rest) = tokensFrom (.numeral (.whole false d)) rest := by
      intro d hd rest
      simp [tokensFrom, step, start_digitChar hd]
    rw [← tokensFrom_whole hrest, ← tokensFrom_toDigits hfirst]
    simp [Number.chars]
  | true =>
    have hfirst : ∀ d < 10, ∀ rest, tokensFrom (.numeral .sign) (Nat.digitChar d :: rest) =
        tokensFrom (.numeral (.whole true d)) rest := by
      intro d hd rest
      simp [tokensFrom, step, NumeralPosition.next?, digit?_digitChar hd]
    have hsign : ∀ cs, tokensFrom .between ('-' :: cs) = tokensFrom (.numeral .sign) cs := fun cs => rfl
    rw [← tokensFrom_whole hrest, ← tokensFrom_toDigits hfirst, ← hsign]
    simp [Number.chars]

/-! ## Texts -/

private theorem hexDigit?_digitChar {d : Nat} (h : d < 16) : hexDigit? (Nat.digitChar d) = some d := by
  have table : ∀ d : Fin 16, hexDigit? (Nat.digitChar d.val) = some d.val := by decide
  exact table ⟨d, h⟩

/-- An escaped character is read as itself. -/
private theorem tokensFrom_escapeChar (c : Char) (before rest : List Char) :
    tokensFrom (.quote .plain before false) (escapeChar c ++ rest) =
      tokensFrom (.quote .plain (c :: before) false) rest := by
  unfold escapeChar
  -- One case for each kind of escape, in the order of the writer.
  split
  · subst c; rfl
  split
  · subst c; rfl
  split
  · subst c; rfl
  split
  · subst c; rfl
  split
  · subst c; rfl
  split
  · subst c; rfl
  split
  · subst c; rfl
  split
  · rename_i hcontrol
    have hhigh := hexDigit?_digitChar (d := c.toNat / 16) (by omega)
    have hlow := hexDigit?_digitChar (d := c.toNat % 16) (by omega)
    have hzero : hexDigit? '0' = some 0 := by decide
    have hsum : c.toNat / 16 * 16 + c.toNat % 16 = c.toNat := by omega
    have hlead : isHighSurrogate c.toNat = false := by simp [isHighSurrogate]; omega
    have htrail : isLowSurrogate c.toNat = false := by simp [isLowSurrogate]; omega
    simp [controlEscape, tokensFrom, step, quoteChar, plainChar, escapeChar?, closeEscape, hzero, hhigh,
      hlow, hsum, hlead, htrail]
  · rename_i hquote hbackslash _ _ _ _ _ hcontrol
    simp [tokensFrom, step, quoteChar, plainChar, hquote, hbackslash, hcontrol]

private theorem tokensFrom_escaped (cs before rest : List Char) :
    tokensFrom (.quote .plain before false) (cs.flatMap escapeChar ++ '"' :: rest) =
      .string (String.ofList (before.reverse ++ cs)) :: tokensFrom .between rest := by
  induction cs generalizing before with
  | nil => simp [tokensFrom, step, quoteChar, plainChar]
  | cons c cs ih =>
    rw [List.flatMap_cons, List.append_assoc, tokensFrom_escapeChar, ih]
    simp

theorem tokensFrom_quoted (s : String) (rest : List Char) :
    tokensFrom .between (quoted s ++ rest) = .string s :: tokensFrom .between rest := by
  have hopen : ∀ cs, tokensFrom .between ('"' :: cs) = tokensFrom (.quote .plain [] false) cs :=
    fun cs => rfl
  unfold quoted
  rw [List.cons_append, List.cons_append, hopen, List.append_assoc, List.singleton_append,
    tokensFrom_escaped]
  simp

theorem tokensFrom_key {k : Key} (hk : k.name?.isSome = true) (rest : List Char) :
    tokensFrom .between (k.chars ++ rest) = k.token :: tokensFrom .between rest := by
  cases k with
  | name s => exact tokensFrom_quoted s rest
  | garbled => cases hk
  | broken => cases hk

/-! ## Whole values -/

private theorem tokensFrom_mark {c : Char} {t : Token} (h : start c = (some t, .between)) (cs : List Char) :
    tokensFrom .between (c :: cs) = t :: tokensFrom .between cs := by
  simp [tokensFrom, step, h]

mutual

/-- A written value is cut into its tokens. -/
theorem tokensFrom_chars : ∀ (v : Json) {rest : List Char}, v.isWritable = true → Ends rest →
    tokensFrom .between (v.chars ++ rest) = v.tokensOf ++ tokensFrom .between rest
  | .null, _, _, _ => rfl
  | .bool true, _, _, _ => rfl
  | .bool false, _, _, _ => rfl
  | .number n, rest, hv, hrest => by
    rw [isWritable] at hv
    rw [chars, tokensOf, tokensFrom_number hv hrest, List.singleton_append]
  | .string s, rest, _, _ => by
    rw [chars, tokensOf, tokensFrom_quoted, List.singleton_append]
  | .array items, rest, hv, _ => by
    rw [isWritable] at hv
    have hitems := tokensFrom_itemsChars items hv (ends_endArray rest)
    rw [chars, tokensOf, List.cons_append, List.cons_append, tokensFrom_mark (t := .beginArray) rfl]
    simp only [List.append_assoc, List.cons_append, List.nil_append]
    rw [hitems, tokensFrom_mark (t := .endArray) rfl]
  | .object members, rest, hv, _ => by
    rw [isWritable] at hv
    have hmembers := tokensFrom_membersChars members hv (ends_endObject rest)
    rw [chars, tokensOf, List.cons_append, List.cons_append, tokensFrom_mark (t := .beginObject) rfl]
    simp only [List.append_assoc, List.cons_append, List.nil_append]
    rw [hmembers, tokensFrom_mark (t := .endObject) rfl]
  | .garbled, _, hv, _ => by cases hv
  | .broken, _, hv, _ => by cases hv

theorem tokensFrom_itemsChars : ∀ (items : List Json) {rest : List Char},
    itemsWritable items = true → Ends rest →
      tokensFrom .between (itemsChars items ++ rest) = itemsTokens items ++ tokensFrom .between rest
  | [], _, _, _ => rfl
  | [v], rest, hv, hrest => by
    simp only [itemsWritable, Bool.and_true] at hv
    rw [itemsChars, itemsTokens, tokensFrom_chars v hv hrest]
  | v :: w :: more, rest, hv, hrest => by
    simp only [itemsWritable, Bool.and_eq_true] at hv
    have hmore := tokensFrom_itemsChars (w :: more) (by simp [itemsWritable, hv]) hrest
    rw [itemsChars, itemsTokens]
    simp only [List.append_assoc, List.cons_append]
    rw [tokensFrom_chars v hv.1 (ends_comma _), tokensFrom_mark (t := .comma) rfl, hmore]

theorem tokensFrom_membersChars : ∀ (members : List (Key × Json)) {rest : List Char},
    membersWritable members = true → Ends rest →
      tokensFrom .between (membersChars members ++ rest) =
        membersTokens members ++ tokensFrom .between rest
  | [], _, _, _ => rfl
  | [(k, v)], rest, hv, hrest => by
    simp only [membersWritable, Bool.and_true, Bool.and_eq_true] at hv
    rw [membersChars, membersTokens, List.append_assoc, List.cons_append, tokensFrom_key hv.1,
      tokensFrom_mark (t := .colon) rfl, tokensFrom_chars v hv.2 hrest]
    rfl
  | (k, v) :: w :: more, rest, hv, hrest => by
    simp only [membersWritable, Bool.and_eq_true] at hv
    have hmore := tokensFrom_membersChars (w :: more) (by simp [membersWritable, hv]) hrest
    rw [membersChars, membersTokens]
    simp only [List.append_assoc, List.cons_append]
    rw [tokensFrom_key hv.1.1, tokensFrom_mark (t := .colon) rfl, tokensFrom_chars v hv.1.2 (ends_comma _),
      tokensFrom_mark (t := .comma) rfl, hmore]

end

/-! ## Reading the tokens -/

/-- The tokens of the items that follow a first one. -/
private def laterItems (items : List Json) : List Token := items.flatMap fun v => .comma :: v.tokensOf

/-- The tokens of the members that follow a first one. -/
private def laterMembers (members : List (Key × Json)) : List Token :=
  members.flatMap fun (k, v) => .comma :: k.token :: .colon :: v.tokensOf

private theorem itemsTokens_cons (v : Json) (rest : List Json) :
    itemsTokens (v :: rest) = v.tokensOf ++ laterItems rest := by
  induction rest generalizing v with
  | nil => simp [itemsTokens, laterItems]
  | cons w rest ih =>
    rw [itemsTokens, ih]
    rfl

private theorem membersTokens_cons (k : Key) (v : Json) (rest : List (Key × Json)) :
    membersTokens ((k, v) :: rest) = k.token :: .colon :: v.tokensOf ++ laterMembers rest := by
  induction rest generalizing k v with
  | nil => simp [membersTokens, laterMembers]
  | cons member rest ih =>
    rw [membersTokens, ih]
    rfl

/-- No value begins with the end of an array. -/
private theorem tokensOf_ne_endArray {v : Json} (hv : v.isWritable = true) (ts us : List Token) :
    v.tokensOf ++ ts ≠ .endArray :: us := by
  cases v with
  | garbled => cases hv
  | broken => cases hv
  | _ => simp [tokensOf]

private theorem readValue_beginArray {frames : List Frame} {ts : List Token}
    (h : ∀ us, ts ≠ .endArray :: us) :
    readValue frames (.beginArray :: ts) = readValue (.items [] :: frames) ts := by
  rw [readValue]
  exact h

mutual

/-- The tokens of a value are read as the value. -/
theorem readValue_tokensOf : ∀ (v : Json) (frames : List Frame) (ts : List Token), v.isWritable = true →
    readValue frames (v.tokensOf ++ ts) = resume frames v ts
  | .null, _, _, _ => by rw [tokensOf, List.singleton_append, readValue]
  | .bool _, _, _, _ => by rw [tokensOf, List.singleton_append, readValue]
  | .number _, _, _, _ => by rw [tokensOf, List.singleton_append, readValue]
  | .string _, _, _, _ => by rw [tokensOf, List.singleton_append, readValue]
  | .array [], _, _, _ => by
    rw [tokensOf, itemsTokens]
    simp only [List.cons_append, List.nil_append]
    rw [readValue]
  | .array (v :: rest), frames, ts, hv => by
    simp only [isWritable, itemsWritable, Bool.and_eq_true] at hv
    have hrest := resume_laterItems rest v [] frames ts hv.2
    rw [tokensOf, itemsTokens_cons]
    simp only [List.cons_append, List.append_assoc, List.nil_append]
    rw [readValue_beginArray (tokensOf_ne_endArray hv.1 _), readValue_tokensOf v _ _ hv.1, hrest]
    rfl
  | .object [], _, _, _ => by
    rw [tokensOf, membersTokens]
    simp only [List.cons_append, List.nil_append]
    rw [readValue]
  | .object ((.name key, v) :: rest), frames, ts, hv => by
    simp only [isWritable, membersWritable, Bool.and_eq_true] at hv
    have hrest := resume_laterMembers rest (.name key) v [] frames ts hv.2
    rw [tokensOf, membersTokens_cons]
    simp only [Key.token, List.cons_append, List.append_assoc, List.nil_append]
    rw [readValue, readValue_tokensOf v _ _ hv.1.2, hrest]
    rfl
  | .object ((.garbled, _) :: _), _, _, hv => by cases hv
  | .object ((.broken, _) :: _), _, _, hv => by cases hv
  | .garbled, _, _, hv => by cases hv
  | .broken, _, _, hv => by cases hv

/-- After an item, the tokens of the later ones are read up to the end of the array. -/
theorem resume_laterItems : ∀ (rest : List Json) (v : Json) (done : List Json) (frames : List Frame)
    (ts : List Token), itemsWritable rest = true →
      resume (.items done :: frames) v (laterItems rest ++ .endArray :: ts) =
        resume frames (.array (done.reverse ++ v :: rest)) ts
  | [], v, done, frames, ts, _ => by
    rw [show laterItems [] ++ .endArray :: ts = .endArray :: ts from rfl, resume]
    simp
  | w :: more, v, done, frames, ts, hw => by
    simp only [itemsWritable, Bool.and_eq_true] at hw
    have hmore := resume_laterItems more w (v :: done) frames ts hw.2
    rw [show laterItems (w :: more) = .comma :: w.tokensOf ++ laterItems more from rfl]
    simp only [List.cons_append, List.append_assoc]
    rw [resume, readValue_tokensOf w _ _ hw.1, hmore]
    simp

/-- After a member, the tokens of the later ones are read up to the end of the object. -/
theorem resume_laterMembers : ∀ (rest : List (Key × Json)) (k : Key) (v : Json)
    (done : List (Key × Json)) (frames : List Frame) (ts : List Token), membersWritable rest = true →
      resume (.members done k :: frames) v (laterMembers rest ++ .endObject :: ts) =
        resume frames (.object (done.reverse ++ (k, v) :: rest)) ts
  | [], k, v, done, frames, ts, _ => by
    rw [show laterMembers [] ++ .endObject :: ts = .endObject :: ts from rfl, resume]
    simp
  | (.name key, w) :: more, k, v, done, frames, ts, hw => by
    simp only [membersWritable, Bool.and_eq_true] at hw
    have hmore := resume_laterMembers more (.name key) w ((k, v) :: done) frames ts hw.2
    rw [show laterMembers ((.name key, w) :: more) =
      .comma :: .string key :: .colon :: w.tokensOf ++ laterMembers more from rfl]
    simp only [List.cons_append, List.append_assoc]
    rw [resume, readValue_tokensOf w _ _ hw.1.2, hmore]
    simp
  | (.garbled, _) :: _, _, _, _, _, _, hw => by cases hw
  | (.broken, _) :: _, _, _, _, _, _, hw => by cases hw

end

/-- **What is written is read back**, whole and with nothing left over. -/
theorem parse_text {v : Json} (hv : v.isWritable = true) : parse v.text = ⟨v, true⟩ := by
  have htokens : tokens v.chars = v.tokensOf := by
    have hcut := tokensFrom_chars v hv ends_nil
    rw [List.append_nil] at hcut
    rw [tokens, hcut]
    simp [tokensFrom, finish]
  have hread := readValue_tokensOf v [] [] hv
  rw [List.append_nil] at hread
  rw [parse, text, String.toList_ofList, htokens, hread, resume]
  rfl

/-! ## Bytes -/

mutual

/-- A value that can be written is JSON throughout. -/
theorem isWhole_of_isWritable : ∀ {v : Json}, v.isWritable = true → v.isWhole = true
  | .null, _ => rfl
  | .bool _, _ => rfl
  | .number _, _ => rfl
  | .string _, _ => rfl
  | .array _, h => itemsWhole_of_itemsWritable h
  | .object _, h => membersWhole_of_membersWritable h
  | .garbled, h => by cases h
  | .broken, h => by cases h

theorem itemsWhole_of_itemsWritable : ∀ {items : List Json}, itemsWritable items = true →
    itemsWhole items = true
  | [], _ => rfl
  | v :: rest, h => by
    simp only [itemsWritable, Bool.and_eq_true] at h
    rw [itemsWhole, isWhole_of_isWritable h.1, itemsWhole_of_itemsWritable h.2]
    rfl

theorem membersWhole_of_membersWritable : ∀ {members : List (Key × Json)}, membersWritable members = true →
    membersWhole members = true
  | [], _ => rfl
  | (.name _, v) :: rest, h => by
    simp only [membersWritable, Bool.and_eq_true] at h
    rw [membersWhole, isWhole_of_isWritable h.1.2, membersWhole_of_membersWritable h.2]
    rfl
  | (.garbled, _) :: _, h => by cases h
  | (.broken, _) :: _, h => by cases h

end

/-- The value that bytes are, if they are text and the text is JSON throughout. -/
def ofBytes? (bytes : List UInt8) : Option Json := (Utf8.text? bytes).bind parse?

/-- **What is written is read back from its bytes.** -/
theorem ofBytes?_toUTF8 {v : Json} (hv : v.isWritable = true) :
    ofBytes? v.text.toUTF8.data.toList = some v := by
  rw [ofBytes?, Utf8.text?_toUTF8, Option.bind_some, parse?, parse_text hv]
  simp [isWhole_of_isWritable hv]

end ChainProvision.Json
