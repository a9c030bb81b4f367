import ChainProvision.Chain.Log
import ChainProvision.Chain.Service
import ChainProvision.Operator.Report
import ChainProvision.Proofs.Identity.Written
import ChainProvision.Proofs.Json.Records
import ChainProvision.Proofs.Time.Written
import ChainProvision.Records.Journal

/-!
# Wire values survive

Texts come in many forms: fields under other names or left out, quoted numbers, hexadecimal digits in
either case, any number for a percentage, records as arrays.  Whatever value such a text gives is written in
one form, and this form gives the same value again.

## Main statements

- `Report.percent_le_of_ofJson`, `Record.valid_of_ofJson`, `Entry.valid_of_ofJson`: what is known of what
  was read.
- `Report.ofJson_toJson` and its siblings: what is written is read back.
- `Json.decoded_values_survive`: what was read from a text is read again from the text it is written as.
-/

namespace ChainProvision

/-! ## Identity -/

theorem Id.ofJson_toJson {kind : IdKind} (depth : Nat) (id : Id kind) :
    Id.ofJson kind depth id.toJson = .ok id := by
  have hscalar := Json.scalar?_ofNat id.val.isLt
  have hheld : id.toJson.isHoldable depth = true := by
    rw [Id.toJson, Json.nat, Json.isHoldable, hscalar]
    rfl
  unfold Id.ofJson
  rw [if_pos hheld]
  simp only [Id.toJson, Json.nat, hscalar]

theorem Id.ofField_toJson {kind : IdKind} (id : Id kind) : Id.ofField kind id.toJson = .ok id :=
  id.ofJson_toJson _

theorem Address.ofJson_toJson (a : Address) : Address.ofJson a.toJson = .ok a := by
  rw [Address.ofJson, Address.toJson, Json.asString_string]
  simp only [a.read_text, Except.mapError]

theorem TxHash.ofJson_toJson (h : TxHash) : TxHash.ofJson h.toJson = .ok h := by
  rw [TxHash.ofJson, TxHash.toJson, Json.asString_string]
  simp only [h.read_text, Except.mapError]

theorem Name.ofJson_toJson (n : Name) : Name.ofJson n.toJson = .ok n := by
  rw [Name.ofJson, Name.toJson, Json.asString_string]
  simp only [n.read_text, Except.mapError]

/-! ## Named values -/

theorem Phase.ofJson_toJson (p : Phase) : Phase.ofJson p.toJson = .ok p := by cases p <;> rfl

theorem ResourceKind.ofJson_toJson (k : ResourceKind) : ResourceKind.ofJson k.toJson = .ok k := by
  cases k <;> rfl

theorem ResourceStatus.ofJson_toJson (k : ResourceStatus) : ResourceStatus.ofJson k.toJson = .ok k := by
  cases k <;> rfl

theorem EntryStatus.ofJson_toJson (k : EntryStatus) : EntryStatus.ofJson k.toJson = .ok k := by
  cases k <;> rfl

/-! ## What may be absent -/

private theorem text_ofJson (s : Option String) :
    Json.asOption Json.asString (Json.orNull .string s) = .ok s :=
  Json.asOption_orNull nofun Json.asString_string s

private theorem number_ofJson {limit : Nat} (hlimit : limit ≤ UInt64.size) (n : Option (Fin limit)) :
    Json.asOption (Json.asNatural limit) (Json.orNull (fun n => .nat n.val) n) = .ok n :=
  Json.asOption_orNull nofun (Json.asNatural_nat hlimit) n

private theorem id_ofJson {kind : IdKind} (id : Option (Id kind)) :
    Json.asOption (Id.ofField kind) (Json.orNull Id.toJson id) = .ok id :=
  Json.asOption_orNull nofun Id.ofField_toJson id

private theorem hash_ofJson (h : Option TxHash) :
    Json.asOption TxHash.ofJson (Json.orNull TxHash.toJson h) = .ok h :=
  Json.asOption_orNull nofun TxHash.ofJson_toJson h

/-! ## Reports and completions -/

namespace Report

theorem percentOfJson_nat {p : Word8} (h : p.val ≤ 100) : percentOfJson (.nat p.val) = .ok p := by
  have hscalar := Json.scalar?_ofNat (Nat.lt_trans p.isLt (show UInt8.size < UInt64.size by decide))
  simp only [percentOfJson, Json.nat, hscalar, Nat.min_eq_left h]
  exact congrArg Except.ok (Fin.ext (Nat.mod_eq_of_lt p.isLt))

/-- A percentage that was read is at most one hundred. -/
theorem percent_le_of_percentOfJson {v : Json} {p : Word8} (h : percentOfJson v = .ok p) : p.val ≤ 100 := by
  have hclamp : ∀ m, (Word8.ofNat (min m 100)).val ≤ 100 := fun m =>
    Nat.le_trans (Nat.mod_le _ _) (Nat.min_le_right m 100)
  unfold percentOfJson at h
  split at h
  · obtain rfl := Except.ok.inj h
    exact Nat.zero_le _
  · dsimp only at h
    split at h
    · obtain rfl := Except.ok.inj h
      exact hclamp _
    · obtain rfl := Except.ok.inj h
      exact Nat.zero_le _
    · obtain rfl := Except.ok.inj h
      split
      · exact Nat.zero_le _
      · exact hclamp _
    · cases h
  · cases h

theorem percent_le_of_ofJson {v : Json} {r : Report} (h : ofJson v = .ok r) : r.percent.val ≤ 100 := by
  simp only [ofJson, Json.bind_eq_ok_iff] at h
  obtain ⟨fs, -, call, -, resource, -, phase, -, message, -, startedAt, -, updatedAt, -, percent, hpercent,
    endpoint, -, hr⟩ := h
  obtain rfl := Except.ok.inj hr
  rcases Json.exists_of_defaulted hpercent with rfl | ⟨v, hv⟩
  · exact Nat.zero_le _
  · exact percent_le_of_percentOfJson hv

private theorem distinct_fields : Json.Distinct fields := by decide

theorem ofJson_toJson {r : Report} (h : r.percent.val ≤ 100) : ofJson r.toJson = .ok r := by
  obtain ⟨call, resource, phase, message, startedAt, updatedAt, percent, endpoint⟩ := r
  -- All members but the last are always there.
  have htaken : List.Forall₂ Wire.Field.Takes (fields.take 7) _ :=
    .cons (Json.takes_of call.ofField_toJson) (.cons (Json.takes_of (text_ofJson resource))
      (.cons (Json.takes_of phase.ofJson_toJson) (.cons (Json.takes_of (text_ofJson message))
        (.cons (Json.takes_of (Json.asSigned_int startedAt))
          (.cons (Json.takes_of (Json.asSigned_int updatedAt))
            (.cons (Json.takes_of (percentOfJson_nat h)) .nil))))))
  simp only [ofJson, Json.bind_eq_ok_iff]
  cases endpoint with
  | none =>
    exact ⟨_, Json.ofJson_record _ distinct_fields htaken, call, call.ofField_toJson, resource,
      text_ofJson resource, phase, phase.ofJson_toJson, message, text_ofJson message, startedAt,
      Json.asSigned_int startedAt, updatedAt, Json.asSigned_int updatedAt, percent, percentOfJson_nat h,
      none, rfl, rfl⟩
  | some url =>
    have hlast : List.Forall₂ Wire.Field.Takes (fields.drop 7) [("endpointUrl", .string url)] :=
      .cons (Json.takes_of (text_ofJson (some url))) .nil
    exact ⟨_, Json.ofJson_record _ distinct_fields (List.rel_append htaken hlast), call,
      call.ofField_toJson, resource, text_ofJson resource, phase, phase.ofJson_toJson, message,
      text_ofJson message, startedAt, Json.asSigned_int startedAt, updatedAt, Json.asSigned_int updatedAt,
      percent, percentOfJson_nat h, some url, rfl, rfl⟩

theorem isWritable_toJson (r : Report) : r.toJson.isWritable = true := by
  obtain ⟨call, resource, phase, message, startedAt, updatedAt, percent, endpoint⟩ := r
  apply Json.isWritable_record
  cases endpoint with
  | none =>
    simp [Id.toJson, Phase.toJson]
  | some url =>
    simp [Id.toJson, Phase.toJson]

end Report

namespace Completion

private theorem distinct_fields : Json.Distinct fields := by decide

theorem ofJson_toJson (c : Completion) : ofJson c.toJson = .ok c := by
  obtain ⟨resource, endpoint⟩ := c
  have hfields := Json.ofJson_record [_, _] distinct_fields
    (.cons (Json.takes_of (Json.asString_string resource)) (.cons (Json.takes_of (text_ofJson endpoint)) .nil))
  simp only [ofJson, Json.bind_eq_ok_iff]
  exact ⟨_, hfields, resource, rfl, endpoint, text_ofJson endpoint, rfl⟩

theorem isWritable_toJson (c : Completion) : c.toJson.isWritable = true := by
  apply Json.isWritable_record
  simp

end Completion

/-! ## Logs and service records -/

namespace Log

private theorem distinct_fields : Json.Distinct fields := by decide

theorem ofJson_toJson (l : Log) : ofJson l.toJson = .ok l := by
  obtain ⟨address, event, key, resource, endpoint, block, index⟩ := l
  have hblock := number_ofJson (Nat.le_refl _) block
  have hindex := number_ofJson (show UInt32.size ≤ UInt64.size by decide) index
  have hfields := Json.ofJson_record [_, _, _, _, _, _, _] distinct_fields
    (.cons (Json.takes_of address.ofJson_toJson) (.cons (Json.takes_of (Json.asString_string event))
      (.cons (Json.takes_of (text_ofJson key)) (.cons (Json.takes_of (text_ofJson resource))
        (.cons (Json.takes_of (text_ofJson endpoint)) (.cons (Json.takes_of hblock)
          (.cons (Json.takes_of hindex) .nil)))))))
  simp only [ofJson, Json.bind_eq_ok_iff]
  exact ⟨_, hfields, address, address.ofJson_toJson, event, rfl, key, text_ofJson key, resource,
    text_ofJson resource, endpoint, text_ofJson endpoint, block, hblock, index, hindex, rfl⟩

theorem isWritable_toJson (l : Log) : l.toJson.isWritable = true := by
  apply Json.isWritable_record
  simp [Address.toJson]

end Log

namespace ServiceRecord

private theorem distinct_fields : Json.Distinct fields := by decide

theorem ofJson_toJson (r : ServiceRecord) : ofJson r.toJson = .ok r := by
  obtain ⟨id, blueprint, owner, permittedCallers, ttlBlocks⟩ := r
  have hcallers := Json.asList_array Address.ofJson_toJson permittedCallers
  have httl := Json.asNatural_nat (Nat.le_refl _) ttlBlocks
  have hfields := Json.ofJson_record [_, _, _, _, _] distinct_fields
    (.cons (Json.takes_of id.ofField_toJson) (.cons (Json.takes_of blueprint.ofField_toJson)
      (.cons (Json.takes_of owner.ofJson_toJson) (.cons (Json.takes_of hcallers)
        (.cons (Json.takes_of httl) .nil)))))
  simp only [ofJson, Json.bind_eq_ok_iff]
  exact ⟨_, hfields, id, id.ofField_toJson, blueprint, blueprint.ofField_toJson, owner,
    owner.ofJson_toJson, permittedCallers, hcallers, ttlBlocks, httl, rfl⟩

theorem isWritable_toJson (r : ServiceRecord) : r.toJson.isWritable = true := by
  have hcallers : (Json.array (r.permittedCallers.map Address.toJson)).isWritable = true := by
    apply Json.isWritable_array
    simp [Address.toJson]
  apply Json.isWritable_record
  simp [Id.toJson, Address.toJson, hcallers]

end ServiceRecord

/-! ## Resource records and the journal -/

namespace Record

theorem instantOfJson_toJson {t : Instant} (h : t.Valid) : instantOfJson (instantToJson t) = .ok t := by
  rw [instantOfJson, instantToJson, Json.asString_string]
  simp only [Instant.read?_text h]

theorem valid_of_instantOfJson {v : Json} {t : Instant} (h : instantOfJson v = .ok t) : t.Valid := by
  unfold instantOfJson at h
  split at h
  · split at h
    · rename_i hread
      obtain rfl := Except.ok.inj h
      exact Instant.valid_of_read? hread
    · cases h
  · cases h

theorem valid_of_ofJson {v : Json} {r : Record} (h : ofJson v = .ok r) :
    r.createdAt.Valid ∧ r.updatedAt.Valid := by
  simp only [ofJson, Json.bind_eq_ok_iff] at h
  obtain ⟨fs, -, key, -, name, -, kind, -, status, -, service, -, call, -, txHash, -, resource, -, endpoint,
    -, image, -, createdAt, hcreated, updatedAt, hupdated, hr⟩ := h
  obtain rfl := Except.ok.inj hr
  obtain ⟨v, hv⟩ := Json.exists_of_required hcreated
  obtain ⟨w, hw⟩ := Json.exists_of_required hupdated
  exact ⟨valid_of_instantOfJson hv, valid_of_instantOfJson hw⟩

private theorem distinct_fields : Json.Distinct fields := by decide

theorem ofJson_toJson {r : Record} (h : r.createdAt.Valid ∧ r.updatedAt.Valid) :
    ofJson r.toJson = .ok r := by
  obtain ⟨key, name, kind, status, service, call, txHash, resource, endpoint, image, createdAt,
    updatedAt⟩ := r
  have hcreated := instantOfJson_toJson h.1
  have hupdated := instantOfJson_toJson h.2
  have hfields := Json.ofJson_record [_, _, _, _, _, _, _, _, _, _, _, _] distinct_fields
    (.cons (Json.takes_of (Json.asString_string key)) (.cons (Json.takes_of name.ofJson_toJson)
      (.cons (Json.takes_of kind.ofJson_toJson) (.cons (Json.takes_of status.ofJson_toJson)
        (.cons (Json.takes_of (id_ofJson service)) (.cons (Json.takes_of (id_ofJson call))
          (.cons (Json.takes_of (hash_ofJson txHash)) (.cons (Json.takes_of (text_ofJson resource))
            (.cons (Json.takes_of (text_ofJson endpoint))
              (.cons (Json.takes_of (Json.asString_string image)) (.cons (Json.takes_of hcreated)
                (.cons (Json.takes_of hupdated) .nil))))))))))))
  simp only [ofJson, Json.bind_eq_ok_iff]
  exact ⟨_, hfields, key, rfl, name, name.ofJson_toJson, kind, kind.ofJson_toJson, status,
    status.ofJson_toJson, service, id_ofJson service, call, id_ofJson call, txHash, hash_ofJson txHash,
    resource, text_ofJson resource, endpoint, text_ofJson endpoint, image, rfl, createdAt,
    Json.required_of_get? rfl hcreated, updatedAt, Json.required_of_get? rfl hupdated, rfl⟩

theorem isWritable_toJson (r : Record) : r.toJson.isWritable = true := by
  apply Json.isWritable_record
  simp [Name.toJson, ResourceKind.toJson, ResourceStatus.toJson, Id.toJson, TxHash.toJson, instantToJson]

end Record

namespace Entry

theorem valid_of_ofJson {v : Json} {e : Entry} (h : ofJson v = .ok e) : e.time.Valid := by
  simp only [ofJson, Json.bind_eq_ok_iff] at h
  obtain ⟨fs, -, hash, -, label, -, status, -, time, htime, he⟩ := h
  obtain rfl := Except.ok.inj he
  obtain ⟨v, hv⟩ := Json.exists_of_required htime
  exact Record.valid_of_instantOfJson hv

private theorem distinct_fields : Json.Distinct fields := by decide

theorem ofJson_toJson {e : Entry} (h : e.time.Valid) : ofJson e.toJson = .ok e := by
  obtain ⟨hash, label, status, time⟩ := e
  have htime := Record.instantOfJson_toJson h
  have hfields := Json.ofJson_record [_, _, _, _] distinct_fields
    (.cons (Json.takes_of hash.ofJson_toJson) (.cons (Json.takes_of (Json.asString_string label))
      (.cons (Json.takes_of status.ofJson_toJson) (.cons (Json.takes_of htime) .nil))))
  simp only [ofJson, Json.bind_eq_ok_iff]
  exact ⟨_, hfields, hash, hash.ofJson_toJson, label, rfl, status, status.ofJson_toJson, time,
    Json.required_of_get? rfl htime, rfl⟩

theorem isWritable_toJson (e : Entry) : e.toJson.isWritable = true := by
  apply Json.isWritable_record
  simp [TxHash.toJson, EntryStatus.toJson, Record.instantToJson]

end Entry

/-! ## Every type -/

namespace Json

/-- A type of which every value is read back survives. -/
private theorem survives_of_all {α : Type} {read : Json → Except Fault α} {write : α → Json}
    (hwritable : ∀ a, (write a).isWritable = true) (hread : ∀ a, read (write a) = .ok a) :
    Survives read write :=
  survives_of (fun _ => True) (fun _ _ _ => trivial) hwritable fun a _ => hread a

/-- **Decoded values survive.**  Whatever text a value of one of these types was read from, the text that
the value is written as gives the same value again.  The percentage of a report that was read is at most
one hundred. -/
theorem decoded_values_survive :
    (∀ kind, Survives (Id.ofJson kind depthLimit) Id.toJson) ∧
    Survives Address.ofJson Address.toJson ∧
    Survives TxHash.ofJson TxHash.toJson ∧
    Survives Name.ofJson Name.toJson ∧
    Survives Phase.ofJson Phase.toJson ∧
    Survives Report.ofJson Report.toJson ∧
    Survives Completion.ofJson Completion.toJson ∧
    Survives Log.ofJson Log.toJson ∧
    Survives ServiceRecord.ofJson ServiceRecord.toJson ∧
    Survives ResourceKind.ofJson ResourceKind.toJson ∧
    Survives ResourceStatus.ofJson ResourceStatus.toJson ∧
    Survives Record.ofJson Record.toJson ∧
    Survives Entry.ofJson Entry.toJson ∧
    ∀ text r, decode Report.ofJson text = .ok r → r.percent.val ≤ 100 := by
  refine ⟨?_, ?_, ?_, ?_, ?_, ?_, ?_, ?_, ?_, ?_, ?_, ?_, ?_, ?_⟩
  · exact fun kind => survives_of_all (fun _ => rfl) (Id.ofJson_toJson depthLimit)
  · exact survives_of_all (fun _ => rfl) Address.ofJson_toJson
  · exact survives_of_all (fun _ => rfl) TxHash.ofJson_toJson
  · exact survives_of_all (fun _ => rfl) Name.ofJson_toJson
  · exact survives_of_all (fun _ => rfl) Phase.ofJson_toJson
  · exact survives_of _ (fun _ _ => Report.percent_le_of_ofJson) Report.isWritable_toJson
      fun _ => Report.ofJson_toJson
  · exact survives_of_all Completion.isWritable_toJson Completion.ofJson_toJson
  · exact survives_of_all Log.isWritable_toJson Log.ofJson_toJson
  · exact survives_of_all ServiceRecord.isWritable_toJson ServiceRecord.ofJson_toJson
  · exact survives_of_all (fun _ => rfl) ResourceKind.ofJson_toJson
  · exact survives_of_all (fun _ => rfl) ResourceStatus.ofJson_toJson
  · exact survives_of _ (fun _ _ => Record.valid_of_ofJson) Record.isWritable_toJson
      fun _ => Record.ofJson_toJson
  · exact survives_of _ (fun _ _ => Entry.valid_of_ofJson) Entry.isWritable_toJson
      fun _ => Entry.ofJson_toJson
  · intro text r h
    obtain ⟨v, hv⟩ := exists_of_decode h
    exact Report.percent_le_of_ofJson hv

/-- A report under other names, with a quoted call, a phase as an object and a percentage beyond all. -/
private def otherReport : String :=
  "\x7b\"sandboxId\":\"sb-1\",\"callId\":\" +42 \",\"phase\":\x7b\"ready\":null\x7d," ++
    "\"startedAt\":-5,\"progressPercent\":150.75\x7d"

/-- A record as an array, with capitals, a short hash and a time ahead of UTC. -/
private def otherRecord : String :=
  "[\"box\",\" My-Box \",\"instance\",\"running\",\"7\",null,\"0XaB\",null,null,\"ubuntu:24.04\"," ++
    "\"2024-03-01T00:30:00.5+01:00\",\"2016-12-31 23:59:60Z\"]"

private theorem isLabel_myBox : Name.IsLabel "my-box".toList := by decide +kernel

theorem decoded_values_survive_otherForms :
    let report : Report :=
      { call := ⟨.ofNat 42⟩, resource := some "sb-1", phase := .ready, startedAt := ⟨-5, by decide⟩,
        percent := .ofNat 100 }
    let record : Record :=
      { key := "box", name := ⟨"my-box".toList, isLabel_myBox⟩, kind := .dedicated,
        status := .running, service := some ⟨.ofNat 7⟩, txHash := some ⟨[10, 11], by decide, by decide⟩,
        image := "ubuntu:24.04", createdAt := ⟨2024, 2, 29, 1410, 0, 500000000⟩,
        updatedAt := ⟨2016, 12, 31, 1439, 60, 0⟩ }
    decode Report.ofJson otherReport = .ok report ∧ decode Report.ofJson report.toJson.text = .ok report ∧
      report.percent.val ≤ 100 ∧
      decode Record.ofJson otherRecord = .ok record ∧ decode Record.ofJson record.toJson.text = .ok record := by
  intro report record
  obtain ⟨-, -, -, -, -, hreport, -, -, -, -, -, hrecord, -, hpercent⟩ := decoded_values_survive
  have hread : decode Report.ofJson otherReport = .ok report := by decide +kernel
  have hread' : decode Record.ofJson otherRecord = .ok record := by decide +kernel
  exact ⟨hread, hreport _ _ hread, hpercent _ _ hread, hread', hrecord _ _ hread'⟩

end Json

end ChainProvision
