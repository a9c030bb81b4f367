import ChainProvision.Proofs.Deployment.Opening
import ChainProvision.Proofs.Deployment.Origin
import ChainProvision.Proofs.Records.Shelf

/-!
# The names that records are kept by

The record of an attempt is kept by the name that was typed for it, without blanks around it and with
its capitals made small.  The name outlives the attempt: after a reset the next one takes it again,
and a record of the same name with it.

## Main definitions

- `Form.label`: the key that a typed name leads to.
- `Deployer.Writes`: an attempt changes the record under a key.
- `Deployer.Began`: an attempt began with a form.

## Main statements

- `Deployer.pursues_of_changed`: only attempts that are under way change records.
- `Deployer.Began.unique`: an attempt begins once.
- `Deployer.records_go_by_name`: which attempts share a record, and which record stays.
- `Deployer.attempts_share_a_key`: attempts need not have records of their own.
-/

namespace ChainProvision

/-! ## Names as they are typed -/

/-- The typed name without blanks around it and with its capitals made small. -/
def Form.label (f : Form) : String := String.ofList ((Text.strip f.name.toList).map Char.toLower)

theorem Name.chars_of_read {s : String} {n : Name} (h : Name.read s = .ok n) :
    n.chars = (Text.strip s.toList).map Char.toLower := by
  unfold Name.read at h
  dsimp only at h
  split at h
  · cases h
  · split at h
    · cases h
    · split at h
      · cases h
      · split at h
        · cases h
        · split at h
          · cases h
          · obtain rfl := Except.ok.inj h
            rfl

theorem Form.label_of_resourceName {f : Form} {name : Name} (h : f.resourceName = .ok name) :
    f.label = name.text := by
  unfold Form.label Name.text
  rw [Name.chars_of_read h]

namespace Deployer

variable {m : Moment} {d d' : Deployer} {e : Event} {effects : List Effect}

/-! ## Changes on the shelf -/

/-- **Only attempts that are under way change records**, each the one under its own key. -/
theorem Turn.pursues_of_changed {key : String} (hturn : Turn m d e d' effects)
    (hchanged : d'.shelf.get? key ≠ d.shelf.get? key) :
    ∃ g, d.attemptOf e = some g ∧ d.Pursues g key := by
  -- Only a confirmation and the end of a vigil touch the shelf; under another key nothing changes.
  cases hturn with
  | unnumbered hget _ _ _ _ =>
    refine ⟨_, by simp [attemptOf, hget], Or.inl ⟨_, _, _, hget, rfl, ?_⟩⟩
    by_contra hne
    rw [← key_confirmedRecord] at hne
    refine hchanged ?_
    rw [get?_shelved_of_ne (Ne.symm hne), get?_upserted_of_ne (Ne.symm hne)]
  | awaited hget _ _ _ _ _ _ =>
    refine ⟨_, by simp [attemptOf, hget], Or.inl ⟨_, _, _, hget, rfl, ?_⟩⟩
    by_contra hne
    rw [← key_confirmedRecord] at hne
    exact hchanged (get?_upserted_of_ne (Ne.symm hne) _ _)
  | found hv hattempt _ _ _ =>
    refine ⟨_, hattempt, Or.inr ⟨_, hv, rfl, ?_⟩⟩
    by_contra hne
    exact hchanged (get?_shelved_of_ne (Ne.symm hne) _ _ _ _)
  | lost hv hattempt _ _ _ _ =>
    refine ⟨_, hattempt, Or.inr ⟨_, hv, rfl, ?_⟩⟩
    by_contra hne
    exact hchanged (get?_shelved_of_ne (Ne.symm hne) _ _ _ _)
  | _ => exact absurd rfl hchanged

theorem pursues_of_changed {key : String} (h : d.Coherent)
    (hchanged : (d.handle m e).1.shelf.get? key ≠ d.shelf.get? key) :
    ∃ g, d.attemptOf e = some g ∧ d.Pursues g key := by
  rcases handled h m e with ⟨-, heq⟩ | ⟨-, d', effects, hturn, heq⟩
  · rw [heq] at hchanged
    exact absurd rfl hchanged
  · rw [heq] at hchanged
    exact hturn.pursues_of_changed (by simpa using hchanged)

/-- **A confirmed attempt leaves its own record** under its key, whatever was there before. -/
theorem record_of_confirmed {i : Nat} {a : Attempt} {t : Ticket} {hash : TxHash} (h : d.Coherent)
    (hget : d.deploys[i]? = some (.underway a t))
    (hended : (d.handle m e).1.deploys[i]? = some (.ended (some hash))) (hworks : m.outage.upsert = false) :
    ∃ number r, (d.handle m e).1.shelf.get? a.record.key = some r ∧
      (r = confirmedRecord a hash number ∨
        r = (confirmedRecord a hash number).apply .failed {} m.wall) := by
  have hput : ∀ number, (upserted m d.shelf (confirmedRecord a hash number)).get? a.record.key =
      some (confirmedRecord a hash number) := by
    intro number
    rw [upserted, hworks, ← key_confirmedRecord a hash number]
    exact Shelf.get?_upsert _ _
  -- Another call keeps what it has, and this one was under way.
  have hsame : ∀ {j : Nat} {b : Attempt} {u : Ticket} {c : DeployCall}, d.deploys[j]? = some (.underway b u) →
      (d.deploys.set j c)[i]? = some (.ended (some hash)) → c = .ended (some hash) ∧ b = a := by
    intro j b u c hj hset
    rcases Calls.get_of_set hset with ⟨hold, -⟩ | ⟨rfl, rfl⟩
    · cases hget.symm.trans hold
    · exact ⟨rfl, (DeployCall.underway.inj (Option.some.inj (hj.symm.trans hget))).1⟩
  have hkeep : d.deploys[i]? ≠ some (.ended (some hash)) := by
    rw [hget]
    nofun
  rcases handled h m e with ⟨-, heq⟩ | ⟨-, d', effects, hturn, heq⟩
  · rw [heq] at hended
    exact absurd hended hkeep
  · rw [heq] at hended ⊢
    simp only [settleRelease_deploys] at hended
    simp only [settleRelease_shelf]
    cases hturn with
    | unnumbered hj _ _ _ _ =>
      obtain ⟨hcall, rfl⟩ := hsame hj hended
      obtain rfl := (Option.some.inj (DeployCall.ended.inj hcall)).symm
      have hthere := hput none
      rw [← key_confirmedRecord _ hash none] at hthere ⊢
      -- The record is marked as failed, unless that call fails.
      cases hupdate : m.outage.update with
      | true => exact ⟨none, _, by rw [shelved, hupdate]; exact hthere, Or.inl rfl⟩
      | false => exact ⟨none, _, get?_shelved hthere hupdate _ _, Or.inr rfl⟩
    | awaited hj _ _ _ _ _ _ =>
      obtain ⟨hcall, rfl⟩ := hsame hj hended
      obtain rfl := (Option.some.inj (DeployCall.ended.inj hcall)).symm
      exact ⟨_, _, hput _, Or.inl rfl⟩
    | signed hj _ | lapsed hj _ _ _ | sent hj _ _ _ | fell hj _ _ _ =>
      cases (hsame hj hended).1
    | declined | unmanned | refused | opened =>
      rcases Calls.get_of_concat hended with hold | ⟨-, hnew⟩
      · exact absurd hold hkeep
      · cases hnew
    | ignored | entered | looked | found | lost | atRest | discarded => exact absurd hended hkeep

/-! ## Attempts -/

section Runs

variable (settings : Settings) (encoder : Encoder) (mode : ResourceKind)

/-- An attempt, by its generation, began in a run with a form. -/
def Began (es : List (Moment × Event)) (generation : Nat) (form : Form) : Prop :=
  ∃ before m after call a s, es = before ++ (m, .deploy) :: after ∧
    Begins m (afterAll settings encoder mode before) call a s ∧ a.generation = generation ∧
    (afterAll settings encoder mode before).inputs.form = form

/-- An attempt, by its generation, changed in a run the record under a key. -/
def Writes (es : List (Moment × Event)) (generation : Nat) (key : String) : Prop :=
  ∃ before m e after, es = before ++ (m, e) :: after ∧
    (afterAll settings encoder mode before).attemptOf e = some generation ∧
    ((afterAll settings encoder mode before).handle m e).1.shelf.get? key ≠
      (afterAll settings encoder mode before).shelf.get? key

variable {settings encoder mode} {es before after : List (Moment × Event)} {generation call : Nat}
  {form form' : Form} {key : String} {a : Attempt} {s : Submission}

/-- The record of an attempt is kept by the name that was typed. -/
theorem Begins.key_eq (hbegins : Begins m d call a s) : a.record.key = d.inputs.form.label := by
  obtain ⟨name, hopening, hrecord⟩ := hbegins.opening
  have hready : ∃ account, d.Ready account name := by
    have hopens := opens_opening d
    rw [hopening] at hopens
    generalize a.route = route at hopens
    cases hopens with
    | job hready _ _ => exact ⟨_, hready⟩
    | fresh hready _ _ _ _ => exact ⟨_, hready⟩
  obtain ⟨account, hready⟩ := hready
  rw [hrecord, Form.label_of_resourceName hready.name]
  rfl

/-- Once an attempt has begun, the generations do not fall behind its own. -/
theorem Begins.generation_le (hbegins : Begins m d call a s) (h : d.Coherent)
    (es : List (Moment × Event)) : a.generation ≤ ((d.handle m .deploy).1.run es).generation := by
  refine Nat.le_trans ?_ (generation_le_run (h.handle m .deploy) es)
  obtain ⟨name, hopening, -⟩ := hbegins.opening
  rw [hbegins.generation]
  rcases handled h m .deploy with ⟨hgone, -⟩ | ⟨-, d', effects, hturn, heq⟩
  · simp [hbegins.there] at hgone
  · rw [heq]
    refine Nat.le_trans ?_ (generation_le_settleRelease d')
    cases hturn with
    | opened => exact Nat.le_refl _
    | declined hother => cases hopening.symm.trans hother
    | unmanned hother => cases hopening.symm.trans hother
    | refused hother => cases hopening.symm.trans hother
    | ignored hdeploy _ _ => exact absurd rfl hdeploy
    | entered hdeploy _ _ _ _ _ => exact absurd rfl hdeploy
    | looked _ hattempt | found _ hattempt | lost _ hattempt => cases hattempt

/-- No attempt begins twice: once one has begun, all that begin have a later generation. -/
theorem Begins.lt_of_later {before after : List (Moment × Event)} {m' : Moment} {call' : Nat}
    {a' : Attempt} {s' : Submission} (hbegins : Begins m (afterAll settings encoder mode before) call a s)
    (hlater : Begins m' (afterAll settings encoder mode (before ++ (m, .deploy) :: after)) call' a' s') :
    a.generation < a'.generation := by
  have hle := hbegins.generation_le (coherent_afterAll settings encoder mode before) after
  rw [hlater.generation]
  have heq : afterAll settings encoder mode (before ++ (m, .deploy) :: after) =
      ((afterAll settings encoder mode before).handle m .deploy).1.run after := run_append _ _ _
  rw [heq]
  omega

/-- **An attempt begins once.** -/
theorem Began.unique (h : Began settings encoder mode es generation form)
    (h' : Began settings encoder mode es generation form') : form = form' := by
  obtain ⟨before, m, after, call, a, s, rfl, hbegins, hgen, rfl⟩ := h
  obtain ⟨before', m', after', call', a', s', heq, hbegins', hgen', rfl⟩ := h'
  -- Of two beginnings at different places the later one would have a later generation.
  rcases List.append_eq_append_iff.mp heq with ⟨between, rfl, hrest⟩ | ⟨between, rfl, hrest⟩
  · cases between with
    | nil => rw [List.append_nil]
    | cons x between =>
      obtain ⟨rfl, -⟩ := List.cons.inj hrest
      have hlt := hbegins.lt_of_later hbegins'
      omega
  · cases between with
    | nil => rw [List.append_nil]
    | cons x between =>
      obtain ⟨rfl, -⟩ := List.cons.inj hrest
      have hlt := hbegins'.lt_of_later hbegins
      omega

/-- A record is changed by an attempt whose name is its key. -/
theorem Writes.began (h : Writes settings encoder mode es generation key) :
    ∃ form, Began settings encoder mode es generation form ∧ form.label = key := by
  obtain ⟨before, m, e, after, rfl, hattempt, hchanged⟩ := h
  obtain ⟨g, hattempt', hpursues⟩ :=
    pursues_of_changed (coherent_afterAll settings encoder mode before) hchanged
  obtain rfl := Option.some.inj (hattempt.symm.trans hattempt')
  obtain ⟨before', m', after', call, a, s, rfl, hbegins, hgen, hkey⟩ := begun_of_pursued hpursues
  exact ⟨_, ⟨before', m', after' ++ (m, e) :: after, call, a, s, by simp, hbegins, hgen, rfl⟩,
    hbegins.key_eq.symm.trans hkey⟩

end Runs

/-- **Records go by the names that were typed.**  In every run an attempt changes the record under
its own name only, as it was typed when the attempt began, and two attempts share a record just if
their names come to the same; when an attempt is confirmed its record takes the place of the one
that was there, unless that call fails. -/
theorem records_go_by_name (settings : Settings) (encoder : Encoder) (mode : ResourceKind)
    (es : List (Moment × Event)) :
    (∀ generation key, Writes settings encoder mode es generation key →
      ∃ form, Began settings encoder mode es generation form ∧ form.label = key) ∧
    (∀ generation generation' key key' form form',
      Writes settings encoder mode es generation key → Writes settings encoder mode es generation' key' →
      Began settings encoder mode es generation form → Began settings encoder mode es generation' form' →
        (key = key' ↔ form.label = form'.label)) ∧
    (∀ (m : Moment) (e : Event) (i : Nat) (a : Attempt) (t : Ticket) (hash : TxHash),
      m.outage.upsert = false →
      (afterAll settings encoder mode es).deploys[i]? = some (.underway a t) →
      (afterAll settings encoder mode (es ++ [(m, e)])).deploys[i]? = some (.ended (some hash)) →
      ∃ form number r, Began settings encoder mode es a.generation form ∧
        (afterAll settings encoder mode (es ++ [(m, e)])).shelf.get? form.label = some r ∧
        (r = confirmedRecord a hash number ∨
          r = (confirmedRecord a hash number).apply .failed {} m.wall)) := by
  refine ⟨fun _ _ hwrites => hwrites.began, ?_, ?_⟩
  · intro generation generation' key key' form form' hwrites hwrites' hbegan hbegan'
    obtain ⟨own, hown, hkey⟩ := hwrites.began
    obtain ⟨own', hown', hkey'⟩ := hwrites'.began
    rw [hbegan.unique hown, hbegan'.unique hown', hkey, hkey']
  · intro m e i a t hash hworks hget hended
    rw [afterAll_concat] at hended ⊢
    have hcoherent := coherent_afterAll settings encoder mode es
    obtain ⟨number, r, hthere, hrecord⟩ := record_of_confirmed hcoherent hget hended hworks
    obtain ⟨before, m', after, rfl, hbegins⟩ := begun_of_underway hget
    rw [hbegins.key_eq] at hthere
    exact ⟨_, number, r, ⟨before, m', after, i, a, _, rfl, hbegins, rfl, rfl⟩, hthere, hrecord⟩

/-- Two sandboxes are made, one after the other, under names that come to the same. -/
private def sameName (first second : TxHash) : List (Moment × Event) := boxSent first ++ [
  (⟨5, .epoch, {}⟩, .answer 0 (.receipt (.ok ⟨true, [], none⟩))),
  (⟨6, .epoch, {}⟩, .reset),
  (⟨7, .epoch, {}⟩, .form { name := "Box ", image := "alpine" }),
  (⟨8, .epoch, {}⟩, .deploy),
  (⟨9, .epoch, {}⟩, .answer 1 (.signature (.ok ()))),
  (⟨10, .epoch, {}⟩, .answer 1 (.broadcast (.ok second))),
  (⟨11, .epoch, {}⟩, .answer 1 (.receipt (.ok ⟨true, [], none⟩)))]

private theorem first_writes :
    let es := sameName ⟨[1], by decide, by decide⟩ ⟨[2], by decide, by decide⟩
    Writes .sample .json .sandbox es 1 "box" := by
  intro es
  exact ⟨es.take 5, _, _, es.drop 6, rfl, by decide, by decide⟩

private theorem second_writes :
    let es := sameName ⟨[1], by decide, by decide⟩ ⟨[2], by decide, by decide⟩
    Writes .sample .json .sandbox es 3 "box" := by
  intro es
  exact ⟨es.take 11, _, _, es.drop 12, rfl, by decide, by decide +kernel⟩

theorem records_go_by_name_sameName :
    let es := sameName ⟨[1], by decide, by decide⟩ ⟨[2], by decide, by decide⟩
    ∃ form form' : Form,
      Began .sample .json .sandbox es 1 form ∧ Began .sample .json .sandbox es 3 form' ∧
      Writes .sample .json .sandbox es 1 "box" ∧
      Writes .sample .json .sandbox es 3 "box" ∧ form.label = form'.label := by
  intro es
  obtain ⟨hnames, hshared, -⟩ := records_go_by_name .sample .json .sandbox es
  obtain ⟨form, hbegan, -⟩ := hnames 1 "box" first_writes
  obtain ⟨form', hbegan', -⟩ := hnames 3 "box" second_writes
  exact ⟨form, form', hbegan, hbegan', first_writes, second_writes,
    (hshared 1 3 "box" "box" form form' first_writes second_writes hbegan hbegan').mp rfl⟩

/-- It is not so that attempts have records of their own. -/
theorem attempts_share_a_key :
    ¬ ∀ (settings : Settings) (encoder : Encoder) (mode : ResourceKind) (es : List (Moment × Event))
        (generation generation' : Nat) (key : String),
      Writes settings encoder mode es generation key → Writes settings encoder mode es generation' key →
        generation = generation' := by
  intro h
  have heq := h .sample .json .sandbox _ 1 3 "box" first_writes second_writes
  cases heq

end Deployer

end ChainProvision
