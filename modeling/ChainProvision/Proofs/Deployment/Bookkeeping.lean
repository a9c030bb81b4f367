import ChainProvision.Proofs.Deployment.Reachable
import ChainProvision.Proofs.Records.Shelf

/-!
# State and shelf agree

As long as the calls of the shelf succeed, the record of an attempt says what the state says.  Until
the transaction is confirmed the attempt leaves the shelf alone; then it puts its record there,
once, and from there on the status of the record follows that of the deployment.

## Main statements

- `Deployer.Bookkept`: how state and shelf stand to each other.
- `Deployer.bookkept_run`: every run keeps to it.
- `Deployer.state_and_shelf_agree`: what the shelf holds for the current attempt.
-/

namespace ChainProvision

/-! ## Records that agree with a state -/

/-- A record says what the state says, from the confirmation on. -/
inductive Record.Agrees (r : Record) (s : DeployState) : Prop where
  | creating :
      s.status = .provisioning → r.status = .creating →
      s.provision = none → r.resource = none → r.endpoint = none →
      Agrees r s
  | running {found : Completion} :
      s.status = .ready → r.status = .running →
      s.provision = some found → r.resource = some found.resource → r.endpoint = found.endpoint →
      Agrees r s
  | failed {e : DeployError} :
      s.status = .failed → r.status = .failed →
      s.error = some e → (e = .missingCallId ∨ e.IsLoss) →
      Agrees r s

theorem Record.Agrees.not_idle {r : Record} {s : DeployState} (h : r.Agrees s) : s.status ≠ .idle := by
  cases h with
  | creating hs => simp [hs]
  | running hs => simp [hs]
  | failed hs => simp [hs]

/-- A state that says the same of an attempt, as far as the record of the attempt says it, too. -/
structure DeployState.SameBooks (s s' : DeployState) : Prop where
  mode : s'.mode = s.mode
  status : s'.status = s.status
  txHash : s'.txHash = s.txHash
  error : s'.error = s.error
  call : s'.call = s.call
  provision : s'.provision = s.provision

theorem DeployState.SameBooks.refl (s : DeployState) : s.SameBooks s := ⟨rfl, rfl, rfl, rfl, rfl, rfl⟩

theorem DeployState.SameAttempt.sameBooks {s s' : DeployState} (h : s.SameAttempt s')
    (hs : s.status ≠ .idle) : s.SameBooks s' := by
  obtain ⟨mode, serviceError, isNewService, canDeploy, rfl, hmode⟩ := h
  exact ⟨(hmode hs).1, rfl, rfl, rfl, rfl, rfl⟩

theorem DeployState.SameCourse.sameBooks {s s' : DeployState} (h : s.SameCourse s') :
    s.SameBooks s' := by
  obtain ⟨progress, pollError, canDeploy, rfl⟩ := h
  exact ⟨rfl, rfl, rfl, rfl, rfl, rfl⟩

theorem Record.Agrees.congr {r : Record} {s s' : DeployState} (h : r.Agrees s)
    (hsame : s.SameBooks s') : r.Agrees s' := by
  cases h with
  | creating hs hr hp hres hend =>
    exact .creating (hsame.status.trans hs) hr (hsame.provision.trans hp) hres hend
  | running hs hr hp hres hend =>
    exact .running (hsame.status.trans hs) hr (hsame.provision.trans hp) hres hend
  | failed hs hr he hkind => exact .failed (hsame.status.trans hs) hr (hsame.error.trans he) hkind

namespace Deployer

variable {m : Moment} {d d' : Deployer} {e : Event} {effects : List Effect}

/-- An attempt as it is seen from outside: the key that its record will have, and the shelf as it
was when the attempt began. -/
structure Undertaking where
  key : String
  shelf : Shelf

/-- The shelf holds a record for an attempt: it was put there once, and no other record was touched.
-/
structure Undertaking.Entered (u : Undertaking) (shelf : Shelf) (r : Record) : Prop where
  once : shelf.upserts = u.shelf.upserts + 1
  there : shelf.get? u.key = some r
  others : ∀ key, key ≠ u.key → shelf.get? key = u.shelf.get? key

/-- The name of the resource for which an attempt would begin, also of one that cannot be encoded.
-/
def openingName? (d : Deployer) : Option Name :=
  match d.opening with
  | .open _ name _ => some name
  | .refused _ _ => d.inputs.form.resourceName.toOption
  | _ => none

/-- The attempt that was begun last since the last reset, after one more event. -/
def undertake (d : Deployer) (u : Option Undertaking) (e : Event) : Option Undertaking :=
  if d.isGone then u
  else
    match e with
    | .deploy =>
      match d.openingName? with
      | some name => some ⟨name.text, d.shelf⟩
      | none => u
    | .reset => none
    | _ => u

theorem undertake_of_ne (hdeploy : e ≠ .deploy) (hreset : e ≠ .reset) (u : Option Undertaking) :
    d.undertake u e = u := by
  unfold undertake
  split
  · rfl
  · split
    · exact absurd rfl hdeploy
    · exact absurd rfl hreset
    · rfl

@[simp] theorem undertake_answer (d : Deployer) (u : Option Undertaking) (i : Nat) (answer : Answer) :
    d.undertake u (.answer i answer) = u :=
  undertake_of_ne (by simp) (by simp) u

theorem undertake_of_attemptOf {g : Nat} (he : d.attemptOf e = some g) (u : Option Undertaking) :
    d.undertake u e = u := by
  apply undertake_of_ne
  · rintro rfl
    cases he
  · rintro rfl
    cases he

/-- How state and shelf stand to the attempt that was begun last since the last reset. -/
inductive Bookkept (d : Deployer) : Option Undertaking → Prop where
  /-- There is none. -/
  | vacant :
      d.tracker.snapshot.status = .idle →
      Bookkept d none
  /-- Its transaction is not confirmed, so it has left the shelf alone. -/
  | unconfirmed {u : Undertaking} :
      d.tracker.snapshot.status ≠ .confirmed →
      d.shelf = u.shelf →
      d.state.value.status ≠ .idle → d.state.value.call = none → d.state.value.provision = none →
      (∀ {i : Nat} {a : Attempt} {t : Ticket}, d.deploys[i]? = some (.underway a t) →
        a.generation = d.generation →
        ∃ name image now, a.record = .creating name d.state.value.mode image now ∧ name.text = u.key) →
      Bookkept d (some u)
  /-- Its transaction is confirmed, and the shelf has its record. -/
  | confirmed {u : Undertaking} {r : Record} :
      d.tracker.snapshot.status = .confirmed →
      u.Entered d.shelf r →
      r.kind = d.state.value.mode → r.txHash = d.state.value.txHash → r.call = d.state.value.call →
      r.Agrees d.state.value → (∀ v, d.vigil = some v → v.key = u.key) →
      Bookkept d (some u)

/-! ## Records on the shelf -/

/-- The record of an attempt is patched on the shelf. -/
private theorem Undertaking.Entered.shelved {u : Undertaking} {shelf : Shelf} {r : Record}
    (h : u.Entered shelf r) (hworks : m.outage.update = false) (status : ResourceStatus)
    (patch : Patch) :
    u.Entered (shelved m shelf u.key status patch) (r.apply status patch m.wall) := by
  obtain ⟨shelf', hupdate, honce, hthere, hothers⟩ :=
    Shelf.updateStatus_of_get? h.there status patch m.wall
  have heq : Deployer.shelved m shelf u.key status patch = shelf' := by
    simp [Deployer.shelved, hworks, hupdate]
  rw [heq]
  exact ⟨honce.trans h.once, hthere, fun key hne => (hothers key hne).trans (h.others key hne)⟩

/-- The record of a confirmed attempt, by the record that was made when the attempt began. -/
private theorem confirmedRecord_creating {a : Attempt} {name : Name} {kind : ResourceKind}
    {image : String} {now : Instant} (h : a.record = .creating name kind image now)
    (hash : TxHash) (number : Option Word64) :
    let r := confirmedRecord a hash number
    r.key = name.text ∧ r.kind = kind ∧ r.status = .creating ∧ r.txHash = some hash ∧
      r.resource = none ∧ r.endpoint = none ∧
      r.call = match a.route with
        | .job _ => number.map Id.mk
        | .newService => none := by
  unfold confirmedRecord
  cases a.route <;> simp [h, Record.creating]

/-- The record of an attempt comes onto the shelf when the transaction is confirmed. -/
private theorem Bookkept.entered {u : Option Undertaking} {i : Nat} {a : Attempt} {t : Ticket}
    (h : Bookkept d u) (hget : d.deploys[i]? = some (.underway a t)) (hengaged : d.Engaged a t)
    (hupsert : m.outage.upsert = false) (hash : TxHash) (number : Option Word64) :
    let r := confirmedRecord a hash number
    ∃ w, u = some w ∧ r.key = w.key ∧ w.Entered (upserted m d.shelf r) r ∧
      r.kind = d.state.value.mode ∧ r.status = .creating ∧ r.txHash = some hash ∧ r.resource = none ∧
      r.endpoint = none ∧
      (r.call = match a.route with
        | .job _ => number.map Id.mk
        | .newService => none) ∧
      d.state.value.call = none ∧ d.state.value.provision = none := by
  intro r
  obtain ⟨hnotIdle, hne⟩ := hengaged.unconfirmed
  cases h with
  | vacant hidle => exact absurd hidle hnotIdle
  | confirmed hc => exact absurd hc hne
  | @unconfirmed w _ hsame hs hcall hprovision hrecord =>
    obtain ⟨name, image, now, hcreating, hname⟩ := hrecord hget hengaged.attempt
    obtain ⟨hkey, hkind, hstatus, hhash, hresource, hendpoint, hrcall⟩ :=
      confirmedRecord_creating hcreating hash number
    have hkey : r.key = w.key := hkey.trans hname
    have hshelf : upserted m d.shelf r = w.shelf.upsert r := by simp [upserted, hupsert, hsame]
    refine ⟨w, rfl, hkey, ?_, hkind, hstatus, hhash, hresource, hendpoint, hrcall, hcall, hprovision⟩
    rw [hshelf]
    refine ⟨rfl, ?_, ?_⟩
    · rw [← hkey]
      exact Shelf.get?_upsert w.shelf r
    · intro key hne
      exact Shelf.get?_upsert_of_ne (hkey ▸ hne) w.shelf

/-- While a vigil is kept the record of the attempt is that of a resource in the making. -/
private theorem Bookkept.creating {u : Option Undertaking} {v : Vigil} (h : Bookkept d u)
    (hv : d.vigil = some v) (hwatch : d.Watching v) :
    ∃ w r, u = some w ∧ v.key = w.key ∧ w.Entered d.shelf r ∧
      r.kind = d.state.value.mode ∧ r.txHash = d.state.value.txHash ∧ r.call = d.state.value.call ∧
      d.state.value.provision = none ∧ r.resource = none ∧ r.endpoint = none := by
  cases h with
  | vacant hidle => simp [hwatch.confirmed] at hidle
  | unconfirmed hne => exact absurd hwatch.confirmed hne
  | @confirmed w r _ hentered hkind hhash hcall hagrees hkey =>
    cases hagrees with
    | creating _ _ hprovision hresource hendpoint =>
      exact ⟨w, r, rfl, hkey v hv, hentered, hkind, hhash, hcall, hprovision, hresource, hendpoint⟩
    | running hs => simp [hwatch.status] at hs
    | failed hs => simp [hwatch.status] at hs

/-! ## Every turn -/

/-- A turn that leaves alone what the books are about. -/
private theorem Bookkept.keep {u : Option Undertaking} (h : Bookkept d u)
    (htracker : d'.tracker.snapshot.status = d.tracker.snapshot.status) (hshelf : d'.shelf = d.shelf)
    (hstate : d.state.value.status ≠ .idle → d.state.value.SameBooks d'.state.value)
    (hcalls : ∀ {i : Nat} {a : Attempt} {t : Ticket}, d'.deploys[i]? = some (.underway a t) →
      a.generation = d'.generation →
        a.generation = d.generation ∧ ∃ t', d.deploys[i]? = some (.underway a t'))
    (hvigil : ∀ v, d'.vigil = some v → ∃ v', d.vigil = some v' ∧ v.key = v'.key) : Bookkept d' u := by
  cases h with
  | vacant hidle => exact .vacant (htracker.trans hidle)
  | unconfirmed hne hsame hs hcall hprovision hrecord =>
    have hbooks := hstate hs
    refine .unconfirmed (htracker ▸ hne) (hshelf.trans hsame) (hbooks.status ▸ hs)
      (hbooks.call.trans hcall) (hbooks.provision.trans hprovision) ?_
    intro i a t hget hgen
    obtain ⟨hgen', t', hget'⟩ := hcalls hget hgen
    rw [hbooks.mode]
    exact hrecord hget' hgen'
  | confirmed hc hentered hkind hhash hcall hagrees hkey =>
    have hbooks := hstate hagrees.not_idle
    refine .confirmed (htracker.trans hc) (hshelf ▸ hentered) (hkind.trans hbooks.mode.symm)
      (hhash.trans hbooks.txHash.symm) (hcall.trans hbooks.call.symm) (hagrees.congr hbooks) ?_
    intro v hv
    obtain ⟨v', hv', hvkey⟩ := hvigil v hv
    exact hvkey.trans (hkey v' hv')

/-- A turn of the transaction of the current attempt that does not confirm it. -/
private theorem Bookkept.proceed {u : Option Undertaking} {a : Attempt} {t : Ticket} (h : Bookkept d u)
    (hengaged : d.Engaged a t) (htracker : d'.tracker.snapshot.status ≠ .confirmed)
    (hshelf : d'.shelf = d.shelf) (hs : d'.state.value.status ≠ .idle)
    (hmode : d'.state.value.mode = d.state.value.mode)
    (hcall : d'.state.value.call = d.state.value.call)
    (hprovision : d'.state.value.provision = d.state.value.provision)
    (hcalls : ∀ {i : Nat} {a : Attempt} {t : Ticket}, d'.deploys[i]? = some (.underway a t) →
      a.generation = d'.generation →
        a.generation = d.generation ∧ ∃ t', d.deploys[i]? = some (.underway a t')) : Bookkept d' u := by
  obtain ⟨hnotIdle, hne⟩ := hengaged.unconfirmed
  cases h with
  | vacant hidle => exact absurd hidle hnotIdle
  | confirmed hc => exact absurd hc hne
  | unconfirmed _ hsame _ hcall' hprovision' hrecord =>
    refine .unconfirmed htracker (hshelf.trans hsame) hs (hcall.trans hcall')
      (hprovision.trans hprovision') ?_
    intro i a t hget hgen
    obtain ⟨hgen', t', hget'⟩ := hcalls hget hgen
    rw [hmode]
    exact hrecord hget' hgen'

/-- The end of a vigil: the record of the attempt is patched, and nobody watches any more. -/
private theorem Bookkept.patch {u : Option Undertaking} {v : Vigil} {status : ResourceStatus}
    {patch : Patch} (hbook : Bookkept d u) (hv : d.vigil = some v) (hwatch : d.Watching v)
    (hworks : m.outage.update = false) (htracker : d'.tracker = d.tracker)
    (hshelf : d'.shelf = Deployer.shelved m d.shelf v.key status patch) (hvigil : d'.vigil = none)
    (hmode : d'.state.value.mode = d.state.value.mode)
    (hhash : d'.state.value.txHash = d.state.value.txHash)
    (hcall : d'.state.value.call = d.state.value.call)
    (hagrees : ∀ r : Record, d.state.value.provision = none → r.resource = none → r.endpoint = none →
      (r.apply status patch m.wall).Agrees d'.state.value) : Bookkept d' u := by
  obtain ⟨w, r, rfl, hkey, hentered, hrkind, hrhash, hrcall, hprovision, hresource, hendpoint⟩ :=
    hbook.creating hv hwatch
  refine .confirmed (r := r.apply status patch m.wall) ?_ ?_ (hrkind.trans hmode.symm)
    (hrhash.trans hhash.symm) (hrcall.trans hcall.symm) (hagrees r hprovision hresource hendpoint)
    (by simp [hvigil])
  · rw [htracker]
    exact hwatch.confirmed
  · rw [hshelf, hkey]
    exact hentered.shelved hworks status patch

/-- **Every turn keeps the books**, as long as the calls of the shelf succeed. -/
theorem Bookkept.turn {u : Option Undertaking} (hbook : Bookkept d u) (h : d.Coherent)
    (hgone : d.isGone = false) (hupsert : m.outage.upsert = false) (hupdate : m.outage.update = false)
    (hturn : Turn m d e d' effects) : Bookkept d' (d.undertake u e) := by
  -- An attempt has a status other than `idle`, whether it is confirmed or not.
  have hvacant : d.state.value.status = .idle → u = none ∧ d.tracker.snapshot.status = .idle := by
    intro hidle
    cases hbook with
    | vacant hs => exact ⟨rfl, hs⟩
    | unconfirmed _ _ hs => exact absurd hidle hs
    | confirmed _ _ _ _ _ hagrees => exact absurd hidle hagrees.not_idle
  cases hturn with
  | ignored hdeploy hreset _ =>
    rw [undertake_of_ne hdeploy hreset]
    exact hbook
  | entered hdeploy hreset _ hsame _ =>
    rw [undertake_of_ne hdeploy hreset]
    exact hbook.keep rfl rfl hsame.sameBooks (fun hget hgen => ⟨hgen, _, hget⟩) fun v hv => ⟨v, hv, rfl⟩
  | declined hopening =>
    have hundertake : d.undertake u .deploy = u := by simp [undertake, openingName?, hgone, hopening]
    rw [hundertake]
    refine hbook.keep rfl rfl (fun _ => .refl _) ?_ fun v hv => ⟨v, hv, rfl⟩
    intro i a t hget hgen
    exact ⟨hgen, t, underway_of_concat_ended hget⟩
  | unmanned hopening hidle hstate =>
    obtain ⟨rfl, hs⟩ := hvacant hidle
    have hundertake : d.undertake none .deploy = none := by
      simp [undertake, openingName?, hgone, hopening]
    rw [hundertake]
    exact .vacant hs
  | refused hopening hidle hstate =>
    obtain ⟨rfl, hs⟩ := hvacant hidle
    -- An attempt that is refused fails before its transaction, and nothing is under way for it.
    cases hname : d.inputs.form.resourceName.toOption with
    | none =>
      have hundertake : d.undertake none .deploy = none := by
        simp [undertake, openingName?, hgone, hopening, hname]
      rw [hundertake]
      exact .vacant hs
    | some name =>
      have hundertake : d.undertake none .deploy = some ⟨name.text, d.shelf⟩ := by
        simp [undertake, openingName?, hgone, hopening, hname]
      rw [hundertake]
      refine .unconfirmed (by simp [hs]) rfl ?_ ?_ ?_ ?_
      · simp [hstate]
      · simp [hstate, claim, DeployState.clearAttempt]
      · simp [hstate, claim, DeployState.clearAttempt]
      · intro i a t hget hgen
        have hle := h.generation_le (underway_of_concat_ended hget)
        exact absurd hgen (Nat.ne_of_lt (Nat.lt_succ_of_le hle))
  | @opened route name submission canDeploy state hopening hidle hstate =>
    have hundertake : d.undertake u .deploy = some ⟨name.text, d.shelf⟩ := by
      simp [undertake, openingName?, hgone, hopening]
    rw [hundertake]
    refine .unconfirmed (by simp) rfl ?_ ?_ ?_ ?_
    · simp [hstate]
    · simp [hstate, claim, DeployState.clearAttempt]
    · simp [hstate, claim, DeployState.clearAttempt]
    · intro i a t hget hgen
      rcases Calls.get_of_concat hget with hold | ⟨-, hnew⟩
      · -- An earlier call is not of the new attempt.
        have hle := h.generation_le hold
        exact absurd hgen (Nat.ne_of_lt (Nat.lt_succ_of_le hle))
      · obtain ⟨rfl, rfl⟩ := DeployCall.underway.inj hnew
        refine ⟨name, Text.trim d.inputs.form.image, m.wall, ?_, rfl⟩
        rw [hstate]
        rfl
  | signed hget hawait =>
    rw [undertake_answer]
    refine hbook.keep rfl rfl (fun _ => .refl _) ?_ fun v hv => ⟨v, hv, rfl⟩
    intro j b w hj hgen
    exact ⟨hgen, underway_of_set_underway hget hj⟩
  | lapsed hget hold hfits hsign =>
    rw [undertake_answer]
    refine hbook.keep rfl rfl (fun _ => .refl _) ?_ fun v hv => ⟨v, hv, rfl⟩
    intro j b w hj hgen
    exact ⟨hgen, w, (underway_of_set_ended hj).1⟩
  | sent hget hengaged hawait hstate =>
    rw [undertake_answer]
    refine hbook.proceed hengaged (by simp) rfl (by simp [hstate]) (by simp [hstate]) (by simp [hstate])
      (by simp [hstate]) ?_
    intro j b w hj hgen
    exact ⟨hgen, underway_of_set_underway hget hj⟩
  | fell hget hengaged hfail hstate =>
    rw [undertake_answer]
    refine hbook.proceed hengaged (by simp) rfl (by simp [hstate]) (by simp [hstate]) (by simp [hstate])
      (by simp [hstate]) ?_
    intro j b w hj hgen
    exact ⟨hgen, w, (underway_of_set_ended hj).1⟩
  | @unnumbered i a t hash r journal canDeploy state hget hengaged hawait hstate =>
    rw [undertake_answer]
    obtain ⟨w, rfl, hkey, hentered, hkind, -, hhash, -, -, hrcall, hcall, -⟩ :=
      hbook.entered hget hengaged hupsert hash none
    -- The record comes onto the shelf and is patched in one turn.
    refine .confirmed rfl (hkey ▸ hentered.shelved hupdate .failed {}) ?_ ?_ ?_ ?_ ?_
    · rw [hstate]
      exact hkind
    · rw [hstate]
      exact hhash.trans (hengaged.txHash_eq hawait).symm
    · rw [hstate]
      refine Eq.trans ?_ hcall.symm
      cases hroute : a.route <;> simpa [hroute, Record.apply] using hrcall
    · exact .failed (by simp [hstate]) rfl (by simp [hstate]) (Or.inl rfl)
    · simp [hengaged.unwatched]
  | @awaited i a t hash r number journal v s canDeploy state hget hengaged hawait hv hs hstate =>
    rw [undertake_answer]
    obtain ⟨w, rfl, hwkey, hentered, hkind, hstatus, hhash, hresource, hendpoint, hrcall, hcall,
      hprovision⟩ := hbook.entered hget hengaged hupsert hash (some number)
    have hcourse : s.SameCourse state.value := hstate ▸ v.lookout.sameCourse_shown s canDeploy
    have hbooks := hcourse.sameBooks
    -- State and record name the same call on both routes, or none.
    refine .confirmed rfl hentered ?_ ?_ ?_ ?_ ?_
    · rw [hbooks.mode, hs]
      cases a.route <;> exact hkind
    · rw [hbooks.txHash, hs]
      cases a.route <;> exact hhash.trans (hengaged.txHash_eq hawait).symm
    · rw [hbooks.call, hs]
      cases hroute : a.route with
      | job service => simpa [hroute, quarryOf, awaiting] using hrcall
      | newService => simpa [hroute, quarryOf, awaiting, hcall] using hrcall
    · refine .creating (by rw [hbooks.status, hs]) hstatus ?_ hresource hendpoint
      rw [hbooks.provision, hs]
      cases a.route <;> exact hprovision
    · rintro v' hv'
      obtain rfl := Option.some.inj hv'
      rw [hv]
      exact hwkey
  | looked hv he hgen hkey hopen hstate heffects =>
    rw [undertake_of_attemptOf he]
    refine hbook.keep rfl rfl (fun _ => hstate.sameBooks) (fun hget hgen => ⟨hgen, _, hget⟩) ?_
    intro v' hv'
    obtain rfl := Option.some.inj hv'
    exact ⟨_, hv, hkey⟩
  | @found _ v found service s state hv he hs hstate =>
    rw [undertake_of_attemptOf he]
    have hbooks := hstate.sameBooks
    subst hs
    refine hbook.patch hv (h.vigil hv) hupdate rfl rfl rfl hbooks.mode hbooks.txHash hbooks.call ?_
    intro r hprovision _ hendpoint
    -- Neither side had anything before, so both have what was found.
    have hfound : state.value.provision = some found := by
      rw [hbooks.provision, hprovision]
      rfl
    exact .running hbooks.status rfl hfound (by simp [Record.apply]) (by simp [Record.apply, hendpoint])
  | lost hv he hloss hs hstate =>
    rw [undertake_of_attemptOf he]
    have hbooks := hstate.sameBooks
    subst hs
    refine hbook.patch hv (h.vigil hv) hupdate rfl rfl rfl hbooks.mode hbooks.txHash hbooks.call ?_
    intro r _ _ _
    exact .failed hbooks.status rfl hbooks.error (Or.inr hloss)
  | atRest hidle herror =>
    obtain ⟨rfl, hs⟩ := hvacant hidle
    have hundertake : d.undertake none .reset = none := by simp [undertake, hgone]
    rw [hundertake]
    exact .vacant hs
  | discarded hstate =>
    have hundertake : d.undertake u .reset = none := by simp [undertake, hgone]
    rw [hundertake]
    exact .vacant rfl

/-! ## Runs -/

/-- The calls of the shelf all succeed. -/
def ShelfWorks (es : List (Moment × Event)) : Prop :=
  ∀ e ∈ es, e.1.outage.upsert = false ∧ e.1.outage.update = false

/-- The attempt that was begun last since the last reset, after events. -/
def undertaking (d : Deployer) (u : Option Undertaking) : List (Moment × Event) → Option Undertaking
  | [] => u
  | e :: es => (d.handle e.1 e.2).1.undertaking (d.undertake u e.2) es

private theorem Bookkept.settleRelease {u : Option Undertaking} (hbook : Bookkept d u) :
    Bookkept d.settleRelease u := by
  unfold Deployer.settleRelease
  split
  · rename_i hgone
    refine hbook.keep rfl rfl (fun _ => .refl _) ?_ (by simp)
    intro i a t hget _
    exact absurd hget (not_underway_of_isGone hgone i a t)
  · exact hbook

theorem Bookkept.handle {u : Option Undertaking} (hbook : Bookkept d u) (h : d.Coherent)
    (hupsert : m.outage.upsert = false) (hupdate : m.outage.update = false) (e : Event) :
    Bookkept (d.handle m e).1 (d.undertake u e) := by
  rcases handled h m e with ⟨hgone, heq⟩ | ⟨hgone, d', effects, hturn, heq⟩
  · rw [heq]
    simpa [undertake, hgone] using hbook
  · rw [heq]
    exact (hbook.turn h hgone hupsert hupdate hturn).settleRelease

/-- **Every run keeps the books.** -/
theorem bookkept_run {u : Option Undertaking} {es : List (Moment × Event)} (hbook : Bookkept d u)
    (h : d.Coherent) (hworks : ShelfWorks es) : Bookkept (d.run es) (d.undertaking u es) := by
  induction es generalizing d u with
  | nil => exact hbook
  | cons e es ih =>
    obtain ⟨hupsert, hupdate⟩ := hworks e (List.mem_cons_self ..)
    exact ih (hbook.handle h hupsert hupdate e.2) (h.handle e.1 e.2) fun f hf =>
      hworks f (List.mem_cons_of_mem e hf)

/-- A record that agrees with a state has the status that belongs to the state's. -/
private theorem status_iff_of_agrees {r : Record} {s : DeployState} (h : r.Agrees s) :
    (r.status = .creating ↔ s.status = .provisioning) ∧ (r.status = .running ↔ s.status = .ready) ∧
      (r.status = .failed ↔ s.status = .failed) := by
  cases h with
  | creating hs hr => simp [hs, hr]
  | running hs hr => simp [hs, hr]
  | failed hs hr => simp [hs, hr]

/-- **State and shelf agree.**  In every run in which the calls of the shelf succeed: once the
transaction of the current attempt is confirmed, the shelf has been changed by one upsert since the
attempt began, under the key of the attempt and no other, and the record there has the kind, the
hash and the call of the state; it is in the making just while the state is provisioning, running
just if the state is ready, with the resource and the endpoint that the state gives, and failed just
if the state has failed, for want of a number or of the resource.  Until then the attempt leaves the
shelf as it was. -/
theorem state_and_shelf_agree (settings : Settings) (encoder : Encoder) (mode : ResourceKind)
    (es : List (Moment × Event)) (hworks : ShelfWorks es) :
    let d := afterAll settings encoder mode es
    let s := d.state.value
    let current := (new settings encoder mode).undertaking none es
    (d.tracker.snapshot.status = .confirmed →
      ∃ u r, current = some u ∧ d.shelf.upserts = u.shelf.upserts + 1 ∧
        d.shelf.get? u.key = some r ∧ (∀ key, key ≠ u.key → d.shelf.get? key = u.shelf.get? key) ∧
        r.kind = s.mode ∧ r.txHash = s.txHash ∧ r.call = s.call ∧
        (r.status = .creating ↔ s.status = .provisioning) ∧
        (r.status = .running ↔ s.status = .ready) ∧
        (r.status = .failed ↔ s.status = .failed) ∧
        (s.status = .ready → ∃ found, s.provision = some found ∧ r.resource = some found.resource ∧
          r.endpoint = found.endpoint) ∧
        (s.status = .failed → ∃ e, s.error = some e ∧ (e = .missingCallId ∨ e.IsLoss))) ∧
    ∀ u, current = some u → d.tracker.snapshot.status ≠ .confirmed → d.shelf = u.shelf := by
  intro d s current
  have hbook : Bookkept d current :=
    bookkept_run (.vacant rfl) (coherent_new settings encoder mode) hworks
  constructor
  · intro hc
    cases hcurrent : current with
    | none =>
      rw [hcurrent] at hbook
      cases hbook with
      | vacant hidle => simp [hc] at hidle
    | some u =>
      rw [hcurrent] at hbook
      cases hbook with
      | unconfirmed hne => exact absurd hc hne
      | @confirmed _ r _ hentered hkind hhash hcall hagrees _ =>
        obtain ⟨hcreating, hrunning, hfailed⟩ := status_iff_of_agrees hagrees
        refine ⟨u, r, rfl, hentered.once, hentered.there, hentered.others, hkind, hhash, hcall,
          hcreating, hrunning, hfailed, ?_, ?_⟩
        · intro hready
          cases hagrees with
          | creating hs => simp [s, hs] at hready
          | running _ _ hprovision hresource hendpoint => exact ⟨_, hprovision, hresource, hendpoint⟩
          | failed hs => simp [s, hs] at hready
        · intro hfail
          cases hagrees with
          | creating hs => simp [s, hs] at hfail
          | running hs => simp [s, hs] at hfail
          | failed _ _ herror hloss => exact ⟨_, herror, hloss⟩
  · intro u hcurrent hne
    rw [hcurrent] at hbook
    cases hbook with
    | unconfirmed _ hsame => exact hsame
    | confirmed hc => exact absurd hc hne

/-- A sandbox that is ready as soon as the operator is asked. -/
private def swiftSandbox (hash : TxHash) : List (Moment × Event) := boxSent hash ++ [
  (⟨5, .epoch, {}⟩, .answer 0 (.receipt (.ok jobReceipt))),
  (⟨6, .epoch, {}⟩, .wake),
  (⟨7, .epoch, {}⟩, .fetched 1 2 (.ok (some { call := ⟨.ofNat 7⟩, phase := .ready })))]

theorem state_and_shelf_agree_swiftSandbox :
    let es := swiftSandbox ⟨[1], by decide, by decide⟩
    let d := afterAll .sample .json .sandbox es
    ShelfWorks es ∧ d.tracker.snapshot.status = .confirmed ∧ d.state.value.status = .ready ∧
      ∃ r, d.shelf.get? "box" = some r ∧ r.status = .running := by
  intro es d
  have hworks : ShelfWorks es := by
    intro e he
    simp only [es, swiftSandbox, boxSent, boxInputs, List.cons_append, List.nil_append, List.mem_cons,
      List.not_mem_nil, or_false] at he
    rcases he with rfl | rfl | rfl | rfl | rfl | rfl | rfl | rfl <;> exact ⟨rfl, rfl⟩
  have hc : d.tracker.snapshot.status = .confirmed := by decide
  have hready : d.state.value.status = .ready := by decide
  obtain ⟨u, r, hcurrent, -, hget, -, -, -, -, -, hrunning, -⟩ :=
    (state_and_shelf_agree .sample .json .sandbox es hworks).1 hc
  have hkey : u.key = "box" := by
    have hname : ((new .sample .json .sandbox).undertaking none es).map Undertaking.key =
        some "box" := by decide
    rw [hcurrent] at hname
    exact Option.some.inj hname
  exact ⟨hworks, hc, hready, r, hkey ▸ hget, hrunning.mpr hready⟩

end Deployer

end ChainProvision
