import ChainProvision.Proofs.Records.Journal
import ChainProvision.Proofs.Records.Shelf

/-!
# The stores are a map and a log

What the two stores are asked for, in any order, they do as a finite map and a log would that is only appended to:
they give the same answers, and hold the same.  So no record is touched by what is asked for another key, and no
entry but the one that is settled.

## Main definitions

- `Record.Patched`: a record is another one with a new status and the fields of a patch;
- `Stores`, `Stores.perform`: the two stores, and what they do when they are asked for something;
- `Archive`, `Archive.perform`: a map of records, each under its own key, and a register, asked for the same;
- `Stores.Refines`: the stores hold what an archive holds;
- `Request.upon`: what a request does to the record under a key.

## Main statements

- `Stores.Refines.perform`, `Stores.Refines.run`: the stores answer as the archive does, and still hold the same.
- `Stores.get?_after_append`: the record under a key comes from the requests for this key alone.
- `Stores.after_is_map_and_log`: what the stores hold after any requests, and what one more changes.
-/

namespace ChainProvision

/-! ## Records that are patched -/

/-- What a record is made with, and keeps. -/
structure Record.Origin where
  key : String
  name : Name
  kind : ResourceKind
  call : Option CallId
  txHash : Option TxHash
  image : String
  createdAt : Instant
  deriving DecidableEq

namespace Record

def origin (r : Record) : Origin := ⟨r.key, r.name, r.kind, r.call, r.txHash, r.image, r.createdAt⟩

/-- A record is another one with a new status, the fields of a patch, and the time of this. -/
structure Patched (r : Record) (status : ResourceStatus) (patch : Patch) (now : Instant) (r' : Record) : Prop where
  origin_eq : r'.origin = r.origin
  status_eq : r'.status = status
  resource_eq : r'.resource = patch.resource.or r.resource
  endpoint_eq : r'.endpoint = patch.endpoint.or r.endpoint
  service_eq : r'.service = patch.service.or r.service
  updatedAt_eq : r'.updatedAt = now

theorem patched_apply (r : Record) (status : ResourceStatus) (patch : Patch) (now : Instant) :
    r.Patched status patch now (r.apply status patch now) := ⟨rfl, rfl, rfl, rfl, rfl, rfl⟩

end Record

/-! ## Requests -/

/-- What a store can be asked for. -/
inductive Request where
  | upsert (r : Record)
  | update (key : String) (status : ResourceStatus) (patch : Patch) (now : Instant)
  | append (e : Entry)
  | settle (hash : TxHash) (status : EntryStatus)

namespace Request

variable {key : String} {r : Record}

/-- A record is put under a key. -/
def PutsUnder (key : String) : Request → Prop
  | upsert r => r.key = key
  | _ => False

instance (key : String) : DecidablePred (PutsUnder key)
  | upsert r => inferInstanceAs (Decidable (r.key = key))
  | update .. | append _ | settle .. => inferInstanceAs (Decidable False)

/-- A record is put on the shelf, or replaced there. -/
def isUpsert : Request → Bool
  | upsert _ => true
  | _ => false

/-- The entry that comes into the journal. -/
def entry? : Request → Option Entry
  | append e => some e
  | _ => none

/-- What a request does to the record under a key. -/
def upon (key : String) (found : Option Record) : Request → Option Record
  | upsert r => if r.key = key then some r else found
  | update key' status patch now => if key' = key then found.map (·.apply status patch now) else found
  | append _ | settle _ _ => found

/-- No record comes from nothing. -/
theorem upon_none {o : Request} (h : ¬ o.PutsUnder key) : o.upon key none = none := by
  cases o with
  | upsert r => exact if_neg h
  | update key' status patch now => simp [upon]
  | append e => rfl
  | settle hash status => rfl

/-- No record is dropped, and none becomes another unless one is put in its place. -/
theorem upon_some (o : Request) (key : String) (r : Record) :
    ∃ r', o.upon key (some r) = some r' ∧ (¬ o.PutsUnder key → r'.origin = r.origin) := by
  cases o with
  | upsert new =>
    by_cases hkey : new.key = key
    · exact ⟨new, if_pos hkey, fun hputs => absurd hkey hputs⟩
    · exact ⟨r, if_neg hkey, fun _ => rfl⟩
  | update key' status patch now =>
    by_cases hkey : key' = key
    · exact ⟨r.apply status patch now, by simp [upon, hkey], fun _ => rfl⟩
    · exact ⟨r, by simp [upon, hkey], fun _ => rfl⟩
  | append e => exact ⟨r, rfl, fun _ => rfl⟩
  | settle hash status => exact ⟨r, rfl, fun _ => rfl⟩

theorem foldl_upon_none {os : List Request} (h : ∀ o ∈ os, ¬ o.PutsUnder key) : os.foldl (upon key) none = none := by
  induction os with
  | nil => rfl
  | cons o rest ih =>
    obtain ⟨ho, hrest⟩ := List.forall_mem_cons.mp h
    rw [List.foldl_cons, upon_none ho, ih hrest]

theorem foldl_upon_some (os : List Request) (key : String) (r : Record) :
    ∃ r', os.foldl (upon key) (some r) = some r' ∧
      ((∀ o ∈ os, ¬ o.PutsUnder key) → r'.origin = r.origin) := by
  induction os generalizing r with
  | nil => exact ⟨r, rfl, fun _ => rfl⟩
  | cons o rest ih =>
    -- What the first request leaves is what the others find.
    obtain ⟨r₁, hr₁, horigin₁⟩ := upon_some o key r
    obtain ⟨r₂, hr₂, horigin₂⟩ := ih r₁
    refine ⟨r₂, by rw [List.foldl_cons, hr₁, hr₂], fun h => ?_⟩
    obtain ⟨ho, hrest⟩ := List.forall_mem_cons.mp h
    exact (horigin₂ hrest).trans (horigin₁ ho)

/-! ### Answers -/

variable {σ α τ : Type}

/-- What comes of a call of a store: the answer, and what is held then.  Where the call fails, this is what was held
before. -/
def outcome (s : σ) (put : α → σ) : Except StoreError α → Except StoreError Unit × σ
  | .ok new => (.ok (), put new)
  | .error e => (.error e, s)

/-- What a call that succeeds would keep, any call keeps. -/
theorem outcome_keeps (f : σ → τ) {s : σ} {put : α → σ} {x : Except StoreError α}
    (h : ∀ new, x = .ok new → f (put new) = f s) : f (outcome s put x).2 = f s := by
  cases x with
  | ok new => exact h new rfl
  | error e => rfl

/-- Requests one after another, each with its answer. -/
def run (perform : σ → Request → Except StoreError Unit × σ) :
    σ → List Request → List (Except StoreError Unit) × σ
  | s, [] => ([], s)
  | s, o :: rest =>
    let next := run perform (perform s o).2 rest
    ((perform s o).1 :: next.1, next.2)

theorem run_append (perform : σ → Request → Except StoreError Unit × σ) (s : σ) (os later : List Request) :
    (run perform s (os ++ later)).2 = (run perform (run perform s os).2 later).2 := by
  induction os generalizing s with
  | nil => rfl
  | cons o rest ih => exact ih (perform s o).2

end Request

/-! ## Stores -/

/-- The two stores. -/
structure Stores where
  shelf : Shelf := .empty
  journal : Journal := {}
  deriving DecidableEq

namespace Stores

/-- What the stores answer to a request, and what they hold then. -/
def perform (s : Stores) : Request → Except StoreError Unit × Stores
  | .upsert r => (.ok (), { s with shelf := s.shelf.upsert r })
  | .update key status patch now =>
    Request.outcome s (fun shelf => { s with shelf }) (s.shelf.updateStatus key status patch now)
  | .append e => (.ok (), { s with journal := s.journal.append e })
  | .settle hash status => Request.outcome s (fun journal => { s with journal }) (s.journal.settle hash status)

/-- What the stores answer to requests, and what they hold then. -/
def run (s : Stores) (os : List Request) : List (Except StoreError Unit) × Stores := Request.run perform s os

/-- What the stores hold after requests, if they held nothing. -/
def after (os : List Request) : Stores := (run {} os).2

variable {s : Stores} {key : String} {r : Record} {hash : TxHash}

theorem perform_update_of_absent (h : s.shelf.get? key = none) (status : ResourceStatus) (patch : Patch)
    (now : Instant) : s.perform (.update key status patch now) = (.error (.notFound key), s) := by
  rw [perform, Shelf.updateStatus_of_absent h, Request.outcome]

theorem perform_update_of_get? (h : s.shelf.get? key = some r) (status : ResourceStatus) (patch : Patch)
    (now : Instant) :
    ∃ shelf, s.perform (.update key status patch now) = (.ok (), { s with shelf }) ∧
      shelf.contents = s.shelf.contents.insert key (r.apply status patch now) ∧
      shelf.upserts = s.shelf.upserts := by
  obtain ⟨shelf, hshelf, hcontents, hupserts⟩ := Shelf.contents_updateStatus h status patch now
  exact ⟨shelf, by rw [perform, hshelf, Request.outcome], hcontents, hupserts⟩

theorem perform_settle_of_absent (h : hash ∉ s.journal.entries.map Entry.hash) (status : EntryStatus) :
    s.perform (.settle hash status) = (.error (.notFound hash.text), s) := by
  rw [perform, Journal.settle_of_absent h, Request.outcome]

/-- The first entry of a hash is the one that is settled. -/
theorem perform_settle_of_mem (h : hash ∈ s.journal.entries.map Entry.hash) (status : EntryStatus) :
    ∃ front e back, s.journal.entries = front ++ e :: back ∧ e.hash = hash ∧ hash ∉ front.map Entry.hash ∧
      s.perform (.settle hash status) = (.ok (), { s with journal := ⟨front ++ { e with status } :: back⟩ }) := by
  -- Where the hash stands first among the hashes, there stands the first entry that has it.
  obtain ⟨fronts, backs, hsplit, hfirst⟩ := List.eq_append_cons_of_mem h
  obtain ⟨front, rest, hentries, rfl, hrest⟩ := List.map_eq_append_iff.mp hsplit
  obtain ⟨e, back, rfl, rfl, -⟩ := List.map_eq_cons_iff.mp hrest
  have hsettle : s.journal.settle e.hash status = .ok ⟨front ++ { e with status } :: back⟩ := by
    have hjournal : s.journal = ⟨front ++ e :: back⟩ := congrArg Journal.mk hentries
    rw [hjournal]
    exact Journal.settle_append_self e hfirst status
  exact ⟨front, e, back, hentries, rfl, hfirst, by rw [perform, hsettle, Request.outcome]⟩

end Stores

/-! ## Archives -/

/-- A map of records, each under its own key. -/
structure Catalogue where
  records : Finmap fun _ : String => Record
  filed : ∀ key r, records.lookup key = some r → r.key = key

namespace Catalogue

def empty : Catalogue := ⟨∅, by simp⟩

/-- The map with a record under its key. -/
def file (c : Catalogue) (key : String) (r : Record) (h : r.key = key) : Catalogue where
  records := c.records.insert key r
  filed key' r' hr' := by
    by_cases hk : key' = key
    · rw [hk, Finmap.lookup_insert] at hr'
      rw [← Option.some.inj hr', hk, h]
    · rw [Finmap.lookup_insert_of_ne _ hk] at hr'
      exact c.filed key' r' hr'

/-- The map with the record under a key patched. -/
def update (c : Catalogue) (key : String) (status : ResourceStatus) (patch : Patch) (now : Instant) :
    Except StoreError Catalogue :=
  match h : c.records.lookup key with
  | some r => .ok (c.file key (r.apply status patch now) (c.filed key r h))
  | none => .error (.notFound key)

variable {c : Catalogue} {key key' : String} {r : Record}

@[simp] theorem lookup_file_self (c : Catalogue) (h : r.key = key) :
    (c.file key r h).records.lookup key = some r := Finmap.lookup_insert _

theorem lookup_file_of_ne (c : Catalogue) (h : r.key = key) (hne : key' ≠ key) :
    (c.file key r h).records.lookup key' = c.records.lookup key' := Finmap.lookup_insert_of_ne _ hne

theorem update_of_lookup (h : c.records.lookup key = some r) (status : ResourceStatus) (patch : Patch)
    (now : Instant) :
    c.update key status patch now = .ok (c.file key (r.apply status patch now) (c.filed key r h)) := by
  unfold update
  split
  next r' hr' =>
    obtain rfl := Option.some.inj (h.symm.trans hr')
    rfl
  next hr' => cases h.symm.trans hr'

theorem update_of_absent (h : c.records.lookup key = none) (status : ResourceStatus) (patch : Patch) (now : Instant) :
    c.update key status patch now = .error (.notFound key) := by
  unfold update
  split
  next r hr => cases h.symm.trans hr
  next => rfl

end Catalogue

/-- A map and a log, and how often something was put into the map. -/
structure Archive where
  catalogue : Catalogue := .empty
  upserts : Nat := 0
  register : Register := .empty

namespace Archive

/-- What an archive answers to a request, and what it holds then. -/
def perform (a : Archive) : Request → Except StoreError Unit × Archive
  | .upsert r => (.ok (), { a with catalogue := a.catalogue.file r.key r rfl, upserts := a.upserts + 1 })
  | .update key status patch now =>
    Request.outcome a (fun catalogue => { a with catalogue }) (a.catalogue.update key status patch now)
  | .append e => (.ok (), { a with register := a.register.append e })
  | .settle hash status => Request.outcome a (fun register => { a with register }) (a.register.settle hash status)

/-- What an archive answers to requests, and what it holds then. -/
def run (a : Archive) (os : List Request) : List (Except StoreError Unit) × Archive := Request.run perform a os

variable {a : Archive} {key : String} {r : Record}

theorem perform_update_of_lookup (h : a.catalogue.records.lookup key = some r) (status : ResourceStatus)
    (patch : Patch) (now : Instant) :
    a.perform (.update key status patch now) =
      (.ok (), { a with
        catalogue := a.catalogue.file key (r.apply status patch now) (a.catalogue.filed key r h) }) := by
  rw [perform, Catalogue.update_of_lookup h, Request.outcome]

theorem perform_update_of_absent (h : a.catalogue.records.lookup key = none) (status : ResourceStatus)
    (patch : Patch) (now : Instant) :
    a.perform (.update key status patch now) = (.error (.notFound key), a) := by
  rw [perform, Catalogue.update_of_absent h, Request.outcome]

/-- Under a key there is what the requests for this key leave there. -/
theorem lookup_perform (key : String) (a : Archive) (o : Request) :
    (a.perform o).2.catalogue.records.lookup key = o.upon key (a.catalogue.records.lookup key) := by
  cases o with
  | upsert r =>
    by_cases hkey : r.key = key
    · rw [Request.upon, if_pos hkey, ← hkey]
      exact Catalogue.lookup_file_self a.catalogue rfl
    · rw [Request.upon, if_neg hkey]
      exact Catalogue.lookup_file_of_ne a.catalogue rfl (Ne.symm hkey)
  | update key' status patch now =>
    rw [Request.upon]
    cases hr : a.catalogue.records.lookup key' with
    | none =>
      rw [perform_update_of_absent hr]
      split
      next hkey => rw [← hkey, hr, Option.map_none]
      next => rfl
    | some r =>
      -- A patch leaves the key as it is, so the record may stay where it was filed.
      have hfiled : (r.apply status patch now).key = key' := a.catalogue.filed key' r hr
      rw [perform_update_of_lookup hr]
      split
      next hkey =>
        rw [← hkey, hr, Option.map_some]
        exact Catalogue.lookup_file_self a.catalogue hfiled
      next hkey => exact Catalogue.lookup_file_of_ne a.catalogue hfiled (Ne.symm hkey)
  | append e => rfl
  | settle hash status =>
    exact Request.outcome_keeps (fun a : Archive => a.catalogue.records.lookup key) fun _ _ => rfl

theorem upserts_perform (a : Archive) (o : Request) :
    (a.perform o).2.upserts = if o.isUpsert then a.upserts + 1 else a.upserts := by
  cases o with
  | upsert r => rfl
  | update key status patch now => exact Request.outcome_keeps Archive.upserts fun _ _ => rfl
  | append e => rfl
  | settle hash status => exact Request.outcome_keeps Archive.upserts fun _ _ => rfl

/-- Nothing but what is appended comes into the log, and nothing in it changes. -/
theorem entries_perform (a : Archive) (o : Request) :
    (a.perform o).2.register.entries = a.register.entries ++ o.entry?.toList := by
  cases o with
  | upsert r => exact (List.append_nil _).symm
  | update key status patch now =>
    have hkeeps : (a.perform (.update key status patch now)).2.register.entries = a.register.entries :=
      Request.outcome_keeps (fun a : Archive => a.register.entries) fun _ _ => rfl
    exact hkeeps.trans (List.append_nil _).symm
  | append e => rfl
  | settle hash status =>
    have hkeeps : (a.perform (.settle hash status)).2.register.entries = a.register.entries :=
      Request.outcome_keeps (fun a : Archive => a.register.entries) fun _ hsettle => Register.entries_settle hsettle
    exact hkeeps.trans (List.append_nil _).symm

theorem lookup_run (key : String) (a : Archive) (os : List Request) :
    (a.run os).2.catalogue.records.lookup key = os.foldl (Request.upon key) (a.catalogue.records.lookup key) := by
  induction os generalizing a with
  | nil => rfl
  | cons o rest ih =>
    rw [List.foldl_cons, ← lookup_perform]
    exact ih (a.perform o).2

theorem upserts_run (a : Archive) (os : List Request) :
    (a.run os).2.upserts = a.upserts + os.countP Request.isUpsert := by
  induction os generalizing a with
  | nil => rfl
  | cons o rest ih =>
    have hrest := ih (a.perform o).2
    rw [upserts_perform] at hrest
    rw [List.countP_cons]
    split at hrest
    next ho => rw [if_pos ho, Nat.add_comm _ 1, ← Nat.add_assoc]; exact hrest
    next ho => rw [if_neg ho]; exact hrest

theorem entries_run (a : Archive) (os : List Request) :
    (a.run os).2.register.entries = a.register.entries ++ os.filterMap Request.entry? := by
  induction os generalizing a with
  | nil => exact (List.append_nil _).symm
  | cons o rest ih =>
    have hrest := ih (a.perform o).2
    rw [entries_perform, List.append_assoc] at hrest
    have hentries : o.entry?.toList ++ rest.filterMap Request.entry? = (o :: rest).filterMap Request.entry? := by
      cases he : o.entry? <;> simp [he]
    rw [hentries] at hrest
    exact hrest

end Archive

namespace Stores

variable {s : Stores} {a : Archive}

/-- The stores hold what an archive holds. -/
structure Refines (s : Stores) (a : Archive) : Prop where
  contents_eq : s.shelf.contents = a.catalogue.records
  upserts_eq : s.shelf.upserts = a.upserts
  journal_eq : s.journal = a.register.journal

theorem refines_empty : Refines {} {} := ⟨rfl, rfl, rfl⟩

theorem Refines.get?_eq (h : s.Refines a) (key : String) : s.shelf.get? key = a.catalogue.records.lookup key := by
  rw [← Shelf.lookup_contents, h.contents_eq]

private theorem Refines.upsert (h : s.Refines a) (r : Record) :
    (s.perform (.upsert r)).2.Refines (a.perform (.upsert r)).2 where
  contents_eq := (Shelf.contents_upsert s.shelf r).trans (congrArg _ h.contents_eq)
  upserts_eq := congrArg (· + 1) h.upserts_eq
  journal_eq := h.journal_eq

private theorem Refines.update (h : s.Refines a) (key : String) (status : ResourceStatus) (patch : Patch)
    (now : Instant) :
    (s.perform (.update key status patch now)).1 = (a.perform (.update key status patch now)).1 ∧
      (s.perform (.update key status patch now)).2.Refines (a.perform (.update key status patch now)).2 := by
  have hfound : s.shelf.get? key = a.catalogue.records.lookup key := h.get?_eq key
  -- Both find the same record, or neither finds one.
  cases hr : a.catalogue.records.lookup key with
  | none =>
    rw [Archive.perform_update_of_absent hr, perform_update_of_absent (hfound.trans hr)]
    exact ⟨rfl, h⟩
  | some r =>
    obtain ⟨shelf, hperform, hcontents, hupserts⟩ :=
      perform_update_of_get? (hfound.trans hr) status patch now
    rw [Archive.perform_update_of_lookup hr, hperform]
    exact ⟨rfl, hcontents.trans (congrArg _ h.contents_eq), hupserts.trans h.upserts_eq, h.journal_eq⟩

private theorem Refines.settle (h : s.Refines a) (hash : TxHash) (status : EntryStatus) :
    (s.perform (.settle hash status)).1 = (a.perform (.settle hash status)).1 ∧
      (s.perform (.settle hash status)).2.Refines (a.perform (.settle hash status)).2 := by
  rw [Stores.perform, Archive.perform, h.journal_eq, Register.settle_journal]
  cases a.register.settle hash status with
  | ok register => exact ⟨rfl, h.contents_eq, h.upserts_eq, rfl⟩
  | error e => exact ⟨rfl, h⟩

/-- **To any request the stores give the answer of the archive, and hold what it holds after it.** -/
theorem Refines.perform (h : s.Refines a) (o : Request) :
    (s.perform o).1 = (a.perform o).1 ∧ (s.perform o).2.Refines (a.perform o).2 := by
  cases o with
  | upsert r => exact ⟨rfl, h.upsert r⟩
  | update key status patch now => exact h.update key status patch now
  | append e =>
    refine ⟨rfl, h.contents_eq, h.upserts_eq, ?_⟩
    have hjournal : s.journal.append e = (a.register.append e).journal := by
      rw [h.journal_eq, Register.journal_append]
    exact hjournal
  | settle hash status => exact h.settle hash status

theorem Refines.run (h : s.Refines a) (os : List Request) :
    (s.run os).1 = (a.run os).1 ∧ (s.run os).2.Refines (a.run os).2 := by
  unfold Stores.run Archive.run
  induction os generalizing s a with
  | nil => exact ⟨rfl, h⟩
  | cons o rest ih =>
    obtain ⟨hanswer, hnext⟩ := h.perform o
    obtain ⟨hanswers, hend⟩ := ih hnext
    exact ⟨by rw [Request.run, Request.run, hanswer, hanswers], hend⟩

/-- What an archive holds after requests, if it held nothing. -/
theorem refines_after (os : List Request) : (after os).Refines (Archive.run {} os).2 := (refines_empty.run os).2

theorem after_append (os later : List Request) : after (os ++ later) = ((after os).run later).2 :=
  Request.run_append perform {} os later

/-- **The record under a key comes from the requests for this key alone.** -/
theorem get?_after_append (os later : List Request) (key : String) :
    (after (os ++ later)).shelf.get? key = later.foldl (Request.upon key) ((after os).shelf.get? key) := by
  have hos := refines_after os
  rw [after_append, (hos.run later).2.get?_eq, Archive.lookup_run, hos.get?_eq]

/-- **The stores are a map and a log.**  After any requests, which were answered as by an archive, they hold what it
holds: each record is filed under its own key, the upserts are counted, and the entries stand in the order in which
they were appended.  A patch for a key that is not there, or a verdict on a hash that is not there, changes nothing;
else it changes the one record, or the status of the first entry of the hash.  No record comes, goes or becomes
another later on, unless one is put under its key. -/
theorem after_is_map_and_log (os : List Request) :
    (run {} os).1 = (Archive.run {} os).1 ∧ (after os).Refines (Archive.run {} os).2 ∧
    (after os).shelf.size = (after os).shelf.contents.keys.card ∧
    (∀ key r, (after os).shelf.get? key = some r → r.key = key) ∧
    (after os).shelf.upserts = os.countP Request.isUpsert ∧
    (∀ key status patch now, (after os).shelf.get? key = none →
      (after os).perform (.update key status patch now) = (.error (.notFound key), after os)) ∧
    (∀ key status patch now r, (after os).shelf.get? key = some r → ∃ r' shelf,
      (after os).perform (.update key status patch now) = (.ok (), { after os with shelf }) ∧
      r.Patched status patch now r' ∧ shelf.contents = (after os).shelf.contents.insert key r' ∧
      shelf.upserts = (after os).shelf.upserts) ∧
    (∀ key later, (after (os ++ later)).shelf.get? key =
      later.foldl (Request.upon key) ((after os).shelf.get? key)) ∧
    (∀ key later, (after os).shelf.get? key = none → (∀ o ∈ later, ¬ o.PutsUnder key) →
      (after (os ++ later)).shelf.get? key = none) ∧
    (∀ key later r, (after os).shelf.get? key = some r → ∃ r', (after (os ++ later)).shelf.get? key = some r' ∧
      ((∀ o ∈ later, ¬ o.PutsUnder key) → r'.origin = r.origin)) ∧
    (after os).journal.entries.map Entry.line = (os.filterMap Request.entry?).map Entry.line ∧
    (∀ hash status, hash ∉ (after os).journal.entries.map Entry.hash →
      (after os).perform (.settle hash status) = (.error (.notFound hash.text), after os)) ∧
    (∀ hash status, hash ∈ (after os).journal.entries.map Entry.hash → ∃ front e back,
      (after os).journal.entries = front ++ e :: back ∧ e.hash = hash ∧ hash ∉ front.map Entry.hash ∧
      (after os).perform (.settle hash status) =
        (.ok (), { after os with journal := ⟨front ++ { e with status } :: back⟩ })) := by
  have hrefines := refines_after os
  refine ⟨(refines_empty.run os).1, hrefines, Shelf.size_eq _, ?_, ?_,
    fun key status patch now h => perform_update_of_absent h status patch now, ?_,
    fun key later => get?_after_append os later key, ?_, ?_, ?_,
    fun hash status h => perform_settle_of_absent h status, fun hash status h => perform_settle_of_mem h status⟩
  · -- A catalogue holds no record that is not filed under its key.
    intro key r hr
    exact (Archive.run {} os).2.catalogue.filed key r ((hrefines.get?_eq key).symm.trans hr)
  · rw [hrefines.upserts_eq, Archive.upserts_run, Nat.zero_add]
  · intro key status patch now r hr
    obtain ⟨shelf, hperform, hcontents, hupserts⟩ := perform_update_of_get? hr status patch now
    exact ⟨r.apply status patch now, shelf, hperform, r.patched_apply status patch now, hcontents, hupserts⟩
  · intro key later hnone hlater
    rw [get?_after_append, hnone, Request.foldl_upon_none hlater]
  · intro key later r hr
    rw [get?_after_append, hr]
    exact Request.foldl_upon_some later key r
  · -- The log holds what was appended, and a verdict changes the status at most.
    rw [hrefines.journal_eq, Register.journal, Register.map_line_shown, Archive.entries_run]
    rfl

/-- A record is patched and another one missed, and of two entries of one hash the first one is settled. -/
theorem after_repeated_hash :
    let pad : Record := .creating ⟨"pad".toList, by decide +kernel⟩ .sandbox "img" .epoch
    let twice : TxHash := ⟨[7], by decide, by decide⟩
    let never : TxHash := ⟨[8], by decide, by decide⟩
    let os : List Request := [.upsert pad, .append (.pending twice "first" .epoch), .settle twice .failed,
      .append (.pending twice "second" .epoch)]
    let later : List Request := [.update "pad" .running { endpoint := some "e" } .epoch, .settle twice .confirmed]
    (after os).shelf.upserts = 1 ∧
      (after os).perform (.update "gap" .running {} .epoch) = (.error (.notFound "gap"), after os) ∧
      (∃ r' shelf, (after os).perform (.update "pad" .failed {} .epoch) = (.ok (), { after os with shelf }) ∧
        pad.Patched .failed {} .epoch r' ∧ shelf.contents = (after os).shelf.contents.insert "pad" r' ∧
        shelf.upserts = (after os).shelf.upserts) ∧
      (after (os ++ later)).shelf.get? "gap" = none ∧
      (∃ r', (after (os ++ later)).shelf.get? "pad" = some r' ∧ r'.origin = pad.origin) ∧
      (after os).perform (.settle never .failed) = (.error (.notFound never.text), after os) ∧
      ∃ front e back, (after os).journal.entries = front ++ e :: back ∧ e.hash = twice ∧
        twice ∉ front.map Entry.hash ∧ (after os).perform (.settle twice .confirmed) =
          (.ok (), { after os with journal := ⟨front ++ { e with status := .confirmed } :: back⟩ }) := by
  intro pad twice never os later
  obtain ⟨-, -, -, -, hcount, hmissed, hpatched, -, hnone, hsome, -, hunknown, hsettled⟩ :=
    after_is_map_and_log os
  have hfound : (after os).shelf.get? "pad" = some pad := by decide
  have hgap : ∀ o ∈ later, ¬ o.PutsUnder "gap" := by decide
  have hpad : ∀ o ∈ later, ¬ o.PutsUnder "pad" := by decide
  obtain ⟨r', hr', horigin⟩ := hsome "pad" later pad hfound
  exact ⟨hcount, hmissed _ _ _ _ (by decide), hpatched _ _ _ _ _ hfound, hnone _ _ (by decide) hgap,
    ⟨r', hr', horigin hpad⟩, hunknown _ _ (by decide), hsettled _ _ (by decide)⟩

end Stores

end ChainProvision
