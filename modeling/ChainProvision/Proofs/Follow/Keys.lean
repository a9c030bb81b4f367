import ChainProvision.Proofs.Follow.Delivery
import ChainProvision.Proofs.Text.Numeral
import ChainProvision.Transaction.Tracker

/-!
# The key of a request and the key of its completion

The receipt of a request gives a number, read from whatever numeral is its key; the log that completes
the request is looked for by the decimal form of that number.  A key with a plus sign or with zeros in
front is read as a number in a receipt, but overlooked in a log.

## Main statements

- `WatchTarget.completed_under_same_key`: when a log with the key of the receipt completes its
  request.
- `WatchTarget.zero_in_front_overlooked`: it does not always.
-/

namespace ChainProvision

namespace Text

/-- A text that denotes a number is the decimal form of it just if, blanks aside, there is nothing in
front of the numeral. -/
theorem trim_eq_numeral_iff {limit : Nat} {pos : 0 < limit} {n : Fin limit} {s : String}
    (h : readNumeral limit pos (strip s.toList) = .ok n) :
    trim s = numeral n.val ↔ Canonical (strip s.toList) := by
  unfold trim numeral
  rw [String.ofList_inj]
  exact eq_toDigits_iff_canonical h

end Text

/-- The number that a receipt with one log gives is that of the log's key. -/
theorem readNumeral_of_correlationOf {receipt : Log} {contract : Address} {event key : String}
    {number : Word64} (hkey : receipt.key = some key)
    (h : correlationOf [receipt] contract event = some number) :
    Text.readNumeral UInt64.size Word64.size_pos (Text.strip key.toList) = .ok number := by
  have hlog : (if receipt.address = contract ∧ receipt.event = event then
      (Text.readNumeral UInt64.size Word64.size_pos (Text.strip key.toList)).toOption
    else none) = some number := by simpa [correlationOf, hkey] using h
  obtain ⟨-, hread⟩ := Option.ite_none_right_eq_some.mp hlog
  cases hnumeral : Text.readNumeral UInt64.size Word64.size_pos (Text.strip key.toList) with
  | ok n =>
    rw [hnumeral] at hread
    exact congrArg Except.ok (Option.some.inj hread)
  | error e =>
    rw [hnumeral] at hread
    cases hread

namespace WatchTarget

/-- **The key of a receipt completes its request just if there is nothing in front of the numeral.**
Of a log that is the watched event, names a resource and carries the very key under which the receipt
gave the number, the watcher of that number takes the resource if the key is canonical, blanks aside,
and overlooks the log otherwise. -/
theorem completed_under_same_key {t : WatchTarget} {contract : Address} {event key resource : String}
    {receipt log : Log} {number : Word64} (hreceipt : receipt.key = some key)
    (hnumber : correlationOf [receipt] contract event = some number)
    (haddress : log.address = t.contract) (hevent : log.event = t.event) (hkey : log.key = some key)
    (hresource : log.resource = some resource) :
    t.firstMatch (Id.text (⟨number⟩ : RequestId)) [log] =
      if Text.Canonical (Text.strip key.toList) then some ⟨resource, log.endpoint⟩ else none := by
  have hread := readNumeral_of_correlationOf hreceipt hnumber
  have hcompletes : log.Completes t number.val ↔ Text.Canonical (Text.strip key.toList) := by
    rw [← Text.trim_eq_numeral_iff hread]
    simp [Log.Completes, haddress, hevent, hkey, hresource]
  show t.firstMatch (Text.numeral number.val) [log] = _
  rw [firstMatch_eq]
  by_cases hcanonical : Text.Canonical (Text.strip key.toList)
  · have hlog := hcompletes.mpr hcanonical
    simp [Log.first?, hlog, hcanonical, Log.completion?, hresource]
  · have hlog : ¬ log.Completes t number.val := fun h => hcanonical (hcompletes.mp h)
    simp [Log.first?, hlog, hcanonical]

/-- A log with the given key, as a receipt or a subscription may bring it. -/
private def keyed (event key : String) : Log :=
  { address := .zero, event, key := some key, resource := some "5" }

private theorem correlationOf_keyed :
    correlationOf [keyed "ServiceRequested" " 77\n"] .zero "ServiceRequested" = some (.ofNat 77) ∧
      correlationOf [keyed "ServiceRequested" "+77"] .zero "ServiceRequested" = some (.ofNat 77) ∧
      correlationOf [keyed "ServiceRequested" "077"] .zero "ServiceRequested" = some (.ofNat 77) := by
  decide

/-- Blanks around a key do not matter; a sign and a zero in front of it do. -/
theorem completed_under_same_key_blanks_sign_zero :
    let watched : WatchTarget := ⟨.zero, "ServiceInitialized"⟩
    let key := Id.text (⟨.ofNat 77⟩ : RequestId)
    watched.firstMatch key [keyed "ServiceInitialized" " 77\n"] = some ⟨"5", none⟩ ∧
      watched.firstMatch key [keyed "ServiceInitialized" "+77"] = none ∧
      watched.firstMatch key [keyed "ServiceInitialized" "077"] = none := by
  intro watched key
  obtain ⟨hblanks, hsign, hzero⟩ := correlationOf_keyed
  exact ⟨completed_under_same_key rfl hblanks rfl rfl rfl rfl,
    completed_under_same_key rfl hsign rfl rfl rfl rfl,
    completed_under_same_key rfl hzero rfl rfl rfl rfl⟩

/-- It is not so that a log which carries the key of the receipt completes the request: a zero in front
of the number is read over in the receipt and stands against the log. -/
theorem zero_in_front_overlooked :
    ¬ ∀ (t : WatchTarget) (contract : Address) (event key resource : String) (receipt log : Log)
      (number : Word64), receipt.key = some key → correlationOf [receipt] contract event = some number →
        log.address = t.contract → log.event = t.event → log.key = some key →
          log.resource = some resource →
            t.firstMatch (Id.text (⟨number⟩ : RequestId)) [log] = some ⟨resource, log.endpoint⟩ := by
  intro h
  have hmatch := h ⟨.zero, "ServiceInitialized"⟩ .zero "ServiceRequested" "077" "5"
    (keyed "ServiceRequested" "077") (keyed "ServiceInitialized" "077") (.ofNat 77) rfl
    correlationOf_keyed.2.2 rfl rfl rfl rfl
  exact absurd hmatch (by decide)

end WatchTarget

end ChainProvision
