import MagicShare.Cloud.Count

/-! Where a device document comes from, field by field.

`Written` lists every way a call can be responsible for a document that is there
after it, and `Written.of_apply` says there is no other. Which fields a call may
change follows from the list: a rename changes the name, a new icon the icon, a
re-registration the transient fields. The exception is a join onto a device id
its target already holds, which replaces the document (`fieldsKept_iff`). -/
namespace MagicShare.Cloud

/-- The document a join brings into its target: the source account's, or with no
source account the one the input describes. -/
def broughtDevice (s : Store) (uid : DocId) (input : JoinNetworkInput) : Option DeviceDoc :=
  match s.account uid with
  | some _ => s.device uid input.deviceId
  | none => input.newDevice.map NewDevice.deviceDoc

theorem JoinSource.brought {now : Timestamp} {uid : DocId} {input : JoinNetworkInput} {s left : Store}
    {doc : DeviceDoc} (h : JoinSource now uid input s doc left) : broughtDevice s uid input = some doc := by
  cases h with
  | survivor ha hd _ => simp [broughtDevice, ha, hd]
  | last ha hd _ => simp [broughtDevice, ha, hd]
  | welcome ha hn => simp [broughtDevice, ha, hn]

/-- A source account has lost the device. -/
theorem JoinSource.device_source {now : Timestamp} {uid : DocId} {input : JoinNetworkInput}
    {s left : Store} {doc : DeviceDoc} (h : JoinSource now uid input s doc left)
    (ha : (s.account uid).isSome) : left.device uid input.deviceId = none := by
  cases h with
  | survivor _ _ _ => simp [Store.leave]
  | last _ _ _ => simp
  | welcome hn _ => simp [hn] at ha

/-- Leaving the source adds no device document. -/
theorem JoinSource.device_le {now : Timestamp} {uid : DocId} {input : JoinNetworkInput} {s left : Store}
    {doc v : DeviceDoc} {a d : DocId} (h : JoinSource now uid input s doc left)
    (hv : left.device a d = some v) : s.device a d = some v := by
  cases h with
  | survivor _ _ _ =>
    simp only [Store.leave, Store.device_putAccount, Store.device_dropDevice] at hv
    split at hv
    · cases hv
    · exact hv
  | last _ _ _ =>
    simp only [Store.device_sweepAccount] at hv
    split at hv
    · cases hv
    · exact hv
  | welcome _ _ => exact hv

/-- How the document under `accounts/{a}/devices/{d}` after the call `c` came
about. -/
inductive Written (s : Store) (c : Call) (a d : DocId) : DeviceDoc → Prop where
  | kept {doc} : s.device a d = some doc → Written s c a d doc
  | created {now input} : c = .registerDevice now a input → input.deviceId = d →
      s.device a d = none → Written s c a d input.deviceDoc
  | refreshed {now input doc} : c = .registerDevice now a input → input.deviceId = d →
      s.device a d = some doc → Written s c a d (input.refresh.apply doc)
  | renamed {now input doc} : c = .renameDevice now a input → input.deviceId = d →
      s.device a d = some doc → Written s c a d {doc with displayName := input.displayName}
  | iconSet {now input doc} : c = .setDeviceIcon now a input → input.deviceId = d →
      s.device a d = some doc → Written s c a d {doc with icon := input.icon}
  | charged {now messaging input doc} : c = .notifyTransferIntent now messaging a input →
      input.sourceDeviceId = d → s.device a d = some doc →
      (trimmed doc.recentSendsAt now).length < sendRateLimitPerHour →
      Written s c a d {doc with recentSendsAt := some (trimmed doc.recentSendsAt now ++ [now])}
  | joined {env uid input token doc} : c = .joinNetwork env uid input → JoinCommits env uid input s →
      s.token input.tokenId = some token → token.accountId = a → input.deviceId = d →
      broughtDevice s uid input = some doc → Written s c a d doc

section Apply
variable {s : Store} {a d : DocId} {doc : DeviceDoc}

/-- The device that a write put there, or another one that was there. -/
theorem device_of_put {b e : DocId} {v : DeviceDoc} {account : AccountDoc}
    (h : ((s.putDevice b e v).putAccount b account).device a d = some doc) :
    (a = b ∧ d = e ∧ doc = v) ∨ ¬ (a = b ∧ d = e) ∧ s.device a d = some doc := by
  rw [Store.device_putAccount, Store.device_putDevice] at h
  split at h
  · next heq => exact .inl ⟨heq.1, heq.2, (Option.some.inj h).symm⟩
  · next hne => exact .inr ⟨hne, h⟩

theorem Written.of_register {now : Timestamp} {uid : DocId} {input : RegisterDeviceInput}
    (h : (registerDeviceLogic now uid input s).2.device a d = some doc) :
    Written s (.registerDevice now uid input) a d doc := by
  rcases registerDeviceLogic_cases now uid input s with
    ⟨_, e, hr⟩ | ⟨account, _, hd, hr⟩ | ⟨account, old, _, hd, hr⟩
  · rw [hr] at h
    exact .kept h
  · rw [hr] at h
    rcases device_of_put h with ⟨rfl, rfl, rfl⟩ | ⟨_, h⟩
    · exact .created rfl rfl hd
    · exact .kept h
  · rw [hr] at h
    rcases device_of_put h with ⟨rfl, rfl, rfl⟩ | ⟨_, h⟩
    · exact .refreshed rfl rfl hd
    · exact .kept h

/-- A patch rewrites one document, of its caller's account. -/
theorem device_of_patch {now : Timestamp} {uid deviceId : DocId} {patch : DevicePatch}
    (h : (patchDeviceField now uid deviceId patch s).2.device a d = some doc) :
    (a = uid ∧ d = deviceId ∧ ∃ old, s.device a d = some old ∧ doc = patch.apply old) ∨
      s.device a d = some doc := by
  rcases patchDeviceField_cases now uid deviceId patch s with ⟨e, hr⟩ | ⟨account, old, _, hd, hr⟩
  · rw [hr] at h
    exact .inr h
  · rw [hr] at h
    rcases device_of_put h with ⟨rfl, rfl, rfl⟩ | ⟨_, h⟩
    · exact .inl ⟨rfl, rfl, old, hd, rfl⟩
    · exact .inr h

theorem Written.of_remove {now : Timestamp} {uid : DocId} {input : RemoveDeviceInput}
    (h : (removeDeviceLogic now .completes uid input s).2.device a d = some doc) :
    Written s (.removeDevice now uid input) a d doc := by
  rcases removeDeviceLogic_cases now uid input s with hr | ⟨account, _, _, _, hr⟩ | ⟨account, _, _, _, hr⟩
  · rw [hr] at h
    exact .kept h
  · rw [hr, Store.leave, Store.device_putAccount, Store.device_dropDevice] at h
    split at h
    · cases h
    · exact .kept h
  · rw [hr, Store.device_sweepAccount] at h
    split at h
    · cases h
    · exact .kept h

theorem Written.of_join {env : JoinEnv} {uid : DocId} {input : JoinNetworkInput}
    (h : (joinNetworkLogic env.swept uid input s).2.device a d = some doc) :
    Written s (.joinNetwork env uid input) a d doc := by
  rcases joinNetworkLogic_cases env uid input s with ⟨_, hr⟩ | ⟨hc, token, target, v, left, g, hsrc, hr⟩
  · rw [hr] at h
    exact .kept h
  · rw [hr] at h
    rcases device_of_put h with ⟨rfl, rfl, rfl⟩ | ⟨_, h⟩
    · exact .joined rfl hc g.found rfl rfl hsrc.brought
    · exact .kept (hsrc.device_le h)

theorem Written.of_notify {now : Timestamp} {messaging : Message → Bool} {uid : DocId}
    {input : NotifyTransferIntentInput}
    (h : (notifyTransferIntentLogic now messaging uid input s).2.device a d = some doc) :
    Written s (.notifyTransferIntent now messaging uid input) a d doc := by
  rw [notifyTransferIntentLogic_store] at h
  rcases notifyTransferIntentTx_cases now uid input s with
    ⟨e, hr⟩ | ⟨account, source, target, _, hsrc, _, hlt, hr⟩
  · rw [hr] at h
    exact .kept h
  · rw [hr] at h
    rcases device_of_put h with ⟨rfl, rfl, rfl⟩ | ⟨_, h⟩
    · exact .charged rfl rfl hsrc hlt
    · exact .kept h

/-- **Every document after a call was written by it in one of these ways or was
there before.** -/
theorem Written.of_apply (c : Call) (h : (c.apply s).device a d = some doc) : Written s c a d doc := by
  cases c with
  | createAccount now uid =>
    simp only [Call.apply] at h
    rcases createAccountLogic_cases now uid s with ⟨_, hr⟩ | ⟨_, hr⟩
    · rw [hr] at h
      exact .kept h
    · rw [hr] at h
      exact .kept h
  | registerDevice now uid input => exact .of_register h
  | renameDevice now uid input =>
    rcases device_of_patch h with ⟨rfl, rfl, old, hold, rfl⟩ | hk
    · exact .renamed rfl rfl hold
    · exact .kept hk
  | setDeviceIcon now uid input =>
    rcases device_of_patch h with ⟨rfl, rfl, old, hold, rfl⟩ | hk
    · exact .iconSet rfl rfl hold
    · exact .kept hk
  | removeDevice now uid input => exact .of_remove h
  | createJoinToken now tokenId uid input =>
    simp only [Call.apply] at h
    rcases createJoinTokenLogic_cases now tokenId uid input s with ⟨e, hr⟩ | ⟨_, _, hr⟩
    · rw [hr] at h
      exact .kept h
    · rw [hr] at h
      exact .kept h
  | joinNetwork env uid input => exact .of_join h
  | notifyTransferIntent now messaging uid input => exact .of_notify h
  | deleteAccount uid =>
    simp only [Call.apply] at h
    rcases deleteAccountLogic_cases' uid s with ⟨_, hr⟩ | ⟨_, hr⟩
    · rw [hr] at h
      exact .kept h
    · rw [hr, Store.device_sweepAccount] at h
      split at h
      · cases h
      · exact .kept h

end Apply

/-- An accepted join puts the document it brings under its target. -/
theorem device_of_joinCommits {s : Store} {env : JoinEnv} {uid : DocId} {input : JoinNetworkInput}
    {token : JoinTokenDoc} (hc : JoinCommits env uid input s) (ht : s.token input.tokenId = some token) :
    ∃ doc, broughtDevice s uid input = some doc ∧
      ((Call.joinNetwork env uid input).apply s).device token.accountId input.deviceId = some doc := by
  rcases joinNetworkLogic_cases env uid input s with ⟨hn, _⟩ | ⟨_, token', target, doc, left, g, hsrc, h⟩
  · exact absurd hc hn
  · have hte := g.found.symm.trans ht
    obtain rfl := Option.some.inj hte
    refine ⟨doc, hsrc.brought, ?_⟩
    simp only [Call.apply, h]
    simp [joinTarget]

/-! ### The frame of every call -/

/-- The fields a user edits and the send history are the same. -/
structure DeviceDoc.Alike (doc doc' : DeviceDoc) : Prop where
  displayName : doc'.displayName = doc.displayName
  icon : doc'.icon = doc.icon
  fingerprint : doc'.fingerprint = doc.fingerprint
  recentSendsAt : doc'.recentSendsAt = doc.recentSendsAt

/-- What the call may change in a device document, and what it may not. -/
structure FieldsKept (s : Store) (c : Call) : Prop where
  displayName : ∀ {a d doc doc'}, s.device a d = some doc → (c.apply s).device a d = some doc' →
    doc'.displayName ≠ doc.displayName →
    ∃ now input, c = .renameDevice now a input ∧ input.deviceId = d
  icon : ∀ {a d doc doc'}, s.device a d = some doc → (c.apply s).device a d = some doc' →
    doc'.icon ≠ doc.icon → ∃ now input, c = .setDeviceIcon now a input ∧ input.deviceId = d
  fingerprint : ∀ {a d doc doc'}, s.device a d = some doc → (c.apply s).device a d = some doc' →
    doc'.fingerprint ≠ doc.fingerprint →
    ∃ now input, c = .registerDevice now a input ∧ input.deviceId = d ∧ input.fingerprint.isSome
  /-- A join from an existing source account moves the document as it is. -/
  moved : ∀ {env uid input token doc}, c = .joinNetwork env uid input → JoinCommits env uid input s →
    (s.account uid).isSome → s.token input.tokenId = some token →
    s.device uid input.deviceId = some doc →
    (c.apply s).device token.accountId input.deviceId = some doc
  /-- A join onto a device the target holds resets nothing. -/
  joinHeld : ∀ {env uid input token held}, c = .joinNetwork env uid input →
    JoinCommits env uid input s → s.token input.tokenId = some token →
    s.device token.accountId input.deviceId = some held →
    ∃ doc, (c.apply s).device token.accountId input.deviceId = some doc ∧ held.Alike doc
  /-- A registration of a device the account holds resets nothing; a fingerprint
  it supplies is written. -/
  registerHeld : ∀ {now uid input held}, c = .registerDevice now uid input →
    s.device uid input.deviceId = some held → ∃ doc, (c.apply s).device uid input.deviceId = some doc ∧
      (held.Alike doc ∨ input.fingerprint.isSome ∧ doc.fingerprint = input.fingerprint ∧
        held.Alike {doc with fingerprint := held.fingerprint})

/-- An accepted join onto a device the target holds brings a document that
agrees with the one it replaces. -/
def JoinsAlike (s : Store) : Call → Prop
  | .joinNetwork env uid input => JoinCommits env uid input s → ∀ token held doc,
      s.token input.tokenId = some token → s.device token.accountId input.deviceId = some held →
      broughtDevice s uid input = some doc → held.Alike doc
  | _ => True

/-- Joining fresh devices only, there is nothing to replace. -/
theorem JoinsFresh.alike {s : Store} {c : Call} (h : JoinsFresh s c) : JoinsAlike s c := by
  cases c with
  | joinNetwork env uid input =>
    intro hc token held doc ht hheld _
    rw [h hc token ht] at hheld
    cases hheld
  | _ => trivial

theorem DeviceDoc.Alike.refl (doc : DeviceDoc) : doc.Alike doc := ⟨rfl, rfl, rfl, rfl⟩

section Frame
variable {s : Store} {c : Call} {a d : DocId} {doc doc' : DeviceDoc}

/-- What can have become of a held document, when joins bring in nothing else. -/
theorem Written.held (w : Written s c a d doc') (hd : s.device a d = some doc) (hj : JoinsAlike s c) :
    doc.Alike doc' ∨
      (∃ now input, c = .registerDevice now a input ∧ input.deviceId = d ∧
        doc' = input.refresh.apply doc) ∨
      (∃ now input, c = .renameDevice now a input ∧ input.deviceId = d ∧
        doc' = {doc with displayName := input.displayName}) ∨
      (∃ now input, c = .setDeviceIcon now a input ∧ input.deviceId = d ∧
        doc' = {doc with icon := input.icon}) ∨
      ∃ sends, doc' = {doc with recentSendsAt := sends} := by
  cases w with
  | kept h =>
    obtain rfl := Option.some.inj (hd.symm.trans h)
    exact .inl (.refl doc)
  | created _ _ h => simp [hd] at h
  | refreshed hc hid h =>
    obtain rfl := Option.some.inj (hd.symm.trans h)
    exact .inr (.inl ⟨_, _, hc, hid, rfl⟩)
  | renamed hc hid h =>
    obtain rfl := Option.some.inj (hd.symm.trans h)
    exact .inr (.inr (.inl ⟨_, _, hc, hid, rfl⟩))
  | iconSet hc hid h =>
    obtain rfl := Option.some.inj (hd.symm.trans h)
    exact .inr (.inr (.inr (.inl ⟨_, _, hc, hid, rfl⟩)))
  | charged _ _ h _ =>
    obtain rfl := Option.some.inj (hd.symm.trans h)
    exact .inr (.inr (.inr (.inr ⟨_, rfl⟩)))
  | joined hc hcom ht ha hid hb =>
    subst hc ha hid
    exact .inl (hj hcom _ _ _ ht hd hb)

/-- A re-registration writes the transient fields and a supplied fingerprint. -/
theorem refresh_alike (input : RegisterDeviceInput) (doc : DeviceDoc) :
    doc.Alike (input.refresh.apply doc) ∨ input.fingerprint.isSome ∧
      (input.refresh.apply doc).fingerprint = input.fingerprint ∧
      doc.Alike {input.refresh.apply doc with fingerprint := doc.fingerprint} := by
  cases h : input.fingerprint with
  | none =>
    refine .inl ⟨rfl, rfl, ?_, rfl⟩
    simp [RegisterDeviceInput.refresh, DevicePatch.apply, h]
  | some fingerprint =>
    refine .inr ⟨rfl, ?_, rfl, rfl, rfl, rfl⟩
    simp [RegisterDeviceInput.refresh, DevicePatch.apply, h]

theorem registerDevice_held {now : Timestamp} {uid : DocId} {input : RegisterDeviceInput}
    {held : DeviceDoc} (hd : s.device uid input.deviceId = some held) :
    ∃ doc, ((Call.registerDevice now uid input).apply s).device uid input.deviceId = some doc ∧
      (held.Alike doc ∨ input.fingerprint.isSome ∧ doc.fingerprint = input.fingerprint ∧
        held.Alike {doc with fingerprint := held.fingerprint}) := by
  simp only [Call.apply]
  rcases registerDeviceLogic_cases now uid input s with
    ⟨_, e, hr⟩ | ⟨account, _, hnone, hr⟩ | ⟨account, old, _, hold, hr⟩
  · rw [hr]
    exact ⟨held, hd, .inl (.refl held)⟩
  · rw [hd] at hnone
    cases hnone
  · obtain rfl := Option.some.inj (hd.symm.trans hold)
    rw [hr]
    exact ⟨input.refresh.apply held, by simp, refresh_alike input held⟩

/-- **A call keeps the fields it should exactly when a join onto a held device
brings the fields the device has.** -/
theorem fieldsKept_iff (s : Store) (c : Call) : FieldsKept s c ↔ JoinsAlike s c := by
  constructor
  · intro h
    cases c with
    | joinNetwork env uid input =>
      intro hc token held doc ht hheld hb
      obtain ⟨doc', h', halike⟩ := h.joinHeld rfl hc ht hheld
      obtain ⟨doc'', hb', h''⟩ := device_of_joinCommits hc ht
      obtain rfl := Option.some.inj (hb.symm.trans hb')
      obtain rfl := Option.some.inj (h'.symm.trans h'')
      exact halike
    | _ => trivial
  · intro hj
    constructor
    · intro a d doc doc' hd hd' hne
      rcases (Written.of_apply c hd').held hd hj with
        h | ⟨_, _, _, _, rfl⟩ | ⟨now, input, hc, hid, _⟩ | ⟨_, _, _, _, rfl⟩ | ⟨_, rfl⟩
      · exact absurd h.displayName hne
      · exact absurd rfl hne
      · exact ⟨now, input, hc, hid⟩
      · exact absurd rfl hne
      · exact absurd rfl hne
    · intro a d doc doc' hd hd' hne
      rcases (Written.of_apply c hd').held hd hj with
        h | ⟨_, _, _, _, rfl⟩ | ⟨_, _, _, _, rfl⟩ | ⟨now, input, hc, hid, _⟩ | ⟨_, rfl⟩
      · exact absurd h.icon hne
      · exact absurd rfl hne
      · exact absurd rfl hne
      · exact ⟨now, input, hc, hid⟩
      · exact absurd rfl hne
    · intro a d doc doc' hd hd' hne
      rcases (Written.of_apply c hd').held hd hj with
        h | ⟨now, input, hc, hid, rfl⟩ | ⟨_, _, _, _, rfl⟩ | ⟨_, _, _, _, rfl⟩ | ⟨_, rfl⟩
      · exact absurd h.fingerprint hne
      · rcases refresh_alike input doc with h | ⟨hsome, _⟩
        · exact absurd h.fingerprint hne
        · exact ⟨now, input, hc, hid, hsome⟩
      · exact absurd rfl hne
      · exact absurd rfl hne
      · exact absurd rfl hne
    · rintro env uid input token doc rfl hc ha ht hd
      obtain ⟨doc', hb, h⟩ := device_of_joinCommits hc ht
      obtain ⟨account, ha⟩ := Option.isSome_iff_exists.mp ha
      simp only [broughtDevice, ha, hd] at hb
      rw [h, hb]
    · rintro env uid input token held rfl hc ht hheld
      obtain ⟨doc, hb, h⟩ := device_of_joinCommits hc ht
      exact ⟨doc, h, hj hc token held doc ht hheld hb⟩
    · rintro now uid input held rfl hd
      exact registerDevice_held hd

end Frame

/-- **Every step of a run keeps the fields it should exactly when every accepted
join of the run onto a held device brings the fields the device has.** -/
theorem fieldsKept_along_iff (calls : List Call) :
    cloud.Meets FieldsKept .empty calls ↔ cloud.Meets JoinsAlike .empty calls :=
  Transition.System.meets_congr fieldsKept_iff

/-- A run that keeps the device counts right keeps the fields too. -/
theorem fieldsKept_of_counted {calls : List Call} (h : cloud.Along Counted .empty calls) :
    cloud.Meets FieldsKept .empty calls := by
  have hfresh : cloud.Meets JoinsFresh .empty calls := (along_counted Tallied.empty calls).mp h
  exact (Transition.System.meets_congr fieldsKept_iff).mpr (hfresh.imp fun _ _ => JoinsFresh.alike)

/-! ### A retried join -/

namespace Retry

/-- Between the two joins the group renames the device. -/
def callsBefore : List Call :=
  [.createAccount 0 group,
    .registerDevice 1 group ⟨issuer, "Laptop", .laptop, none, .linux, none⟩,
    .createJoinToken 2 firstCode group ⟨issuer⟩,
    .joinNetwork (env 3) caller ⟨firstCode, joiner, some newDevice⟩,
    .renameDevice 4 group ⟨joiner, "My phone"⟩,
    .createJoinToken 5 secondCode group ⟨issuer⟩]

def secondJoin : Call := .joinNetwork (env 6) caller ⟨secondCode, joiner, some newDevice⟩

def storeBefore : Store := callsBefore.foldl (fun s c => c.apply s) .empty

theorem name_storeBefore :
    (storeBefore.device group joiner).map DeviceDoc.displayName = some "My phone" := by decide

theorem name_after :
    ((secondJoin.apply storeBefore).device group joiner).map DeviceDoc.displayName = some "Phone" := by
  decide

end Retry

/-- Joining once more with a new code puts the name back to what it was. -/
theorem fieldsKept_fails_on_retry : ¬ ∀ calls, cloud.Meets FieldsKept .empty calls := by
  intro h
  obtain ⟨_, hafter⟩ := (h (Retry.callsBefore ++ [Retry.secondJoin])).append
  obtain ⟨hkept, _⟩ := hafter Retry.storeBefore rfl (Retry.secondJoin.apply Retry.storeBefore) rfl
  obtain ⟨doc, hdoc, hname⟩ := Option.map_eq_some_iff.mp Retry.name_storeBefore
  obtain ⟨doc', hdoc', hname'⟩ := Option.map_eq_some_iff.mp Retry.name_after
  have hne : doc'.displayName ≠ doc.displayName := by
    rw [hname, hname']
    decide
  obtain ⟨now, input, hc, _⟩ := hkept.displayName hdoc hdoc' hne
  cases hc

end MagicShare.Cloud
