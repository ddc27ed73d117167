import MagicShare.Cloud.Calls

/-! The cached device count.

`deviceCount` is kept by increments alone, so it is right as long as every
increment comes with a new device document. `registerDevice` looks before it
writes; `joinNetwork` does not look at the target's device, and a device id the
target already holds is overwritten and counted again. That is the only way the
count goes wrong (`counted_along_iff`). -/
namespace MagicShare.Cloud

/-- `R` compares a count with a number of members and is kept when both move by
the same amount. -/
structure Shifts (R : Int → Int → Prop) : Prop where
  zero : R 0 0
  add : ∀ {x y}, R x y → ∀ n, R (x + n) (y + n)

theorem Shifts.eq : Shifts (· = ·) := ⟨rfl, fun h _ => by rw [h]⟩
theorem Shifts.ge : Shifts (· ≥ ·) := ⟨le_refl 0, fun h n => by simpa using h⟩

/-- Every account's count is related to its number of members, and no device is
without an account. -/
structure Tallied (R : Int → Int → Prop) (s : Store) : Prop where
  count : ∀ {a doc}, s.account a = some doc → R doc.deviceCount (s.members a)
  owned : ∀ {a d}, (s.device a d).isSome → (s.account a).isSome

/-- The count of every account is right, and no device is without an account. -/
abbrev Counted : Store → Prop := Tallied (· = ·)

/-- No account has more devices than it counts, and no device is without an
account. -/
abbrev Covered : Store → Prop := Tallied (· ≥ ·)

namespace Tallied
variable {R : Int → Int → Prop} {s : Store}

theorem empty : Tallied R .empty where
  count h := by simp at h
  owned h := by simp at h

/-- Where there is no account there is no device. -/
theorem no_device (h : Tallied R s) {a : DocId} (ha : s.account a = none) (d : DocId) :
    s.device a d = none := by
  by_contra hd
  have := h.owned (Option.isSome_iff_ne_none.mpr hd)
  simp [ha] at this

/-! ### What each effect does to the count -/

theorem putToken (h : Tallied R s) (k : DocId) (doc : JoinTokenDoc) : Tallied R (s.putToken k doc) where
  count ha := h.count ha
  owned hd := h.owned hd

/-- Devices outlive a write to an account. -/
theorem owned_putAccount (h : Tallied R s) {a b d : DocId} {doc : AccountDoc}
    (hd : (s.device b d).isSome) : ((s.putAccount a doc).account b).isSome := by
  rw [Store.account_putAccount]
  split
  · rfl
  · exact h.owned hd

/-- A device written under an account that is written too has an account. -/
theorem owned_put (h : Tallied R s) {a d b d' : DocId} {v : DeviceDoc} {doc : AccountDoc}
    (hd : (((s.putDevice a d v).putAccount a doc).device b d').isSome) :
    (((s.putDevice a d v).putAccount a doc).account b).isSome := by
  rw [Store.account_putAccount]
  split
  · rfl
  · next hne =>
    rw [Store.device_putAccount, Store.device_putDevice, if_neg fun hc => hne hc.1] at hd
    exact h.owned hd

/-- A new account has no devices yet. -/
theorem putAccount_new (h : Tallied R s) (hR : Shifts R) {a : DocId} (ha : s.account a = none)
    (now : Timestamp) : Tallied R (s.putAccount a (newAccount now)) where
  count {b doc} hb := by
    rw [Store.account_putAccount] at hb
    split at hb
    · next heq =>
      obtain rfl := Option.some.inj hb
      have hz : s.members a = 0 := (Store.members_eq_zero s a).mpr (h.no_device ha)
      rw [heq, Store.members_putAccount, hz]
      exact hR.zero
    · exact h.count hb
  owned hb := h.owned_putAccount hb

/-- One new device and one increment. -/
theorem addDevice (h : Tallied R s) (hR : Shifts R) {a d : DocId} {account : AccountDoc} (v : DeviceDoc)
    (now : Timestamp) (ha : s.account a = some account) (hd : s.device a d = none) :
    Tallied R ((s.putDevice a d v).putAccount a (account.touch now 1)) where
  count {b doc} hb := by
    rw [Store.members_putAccount]
    rw [Store.account_putAccount] at hb
    split at hb
    · next heq =>
      obtain rfl := Option.some.inj hb
      rw [heq, Store.members_putDevice_new v hd]
      exact_mod_cast hR.add (h.count ha) 1
    · next hne =>
      rw [Store.members_putDevice_ne s a b d v hne]
      exact h.count hb
  owned hb := h.owned_put hb

/-- A rewritten device, and the count moved by `n` beside it. -/
theorem rewriteDevice_of (h : Tallied R s) {a d : DocId} {account : AccountDoc} (v : DeviceDoc)
    (now : Timestamp) {n : Int} (hn : R (account.deviceCount + n) (s.members a))
    (hd : (s.device a d).isSome) : Tallied R ((s.putDevice a d v).putAccount a (account.touch now n)) where
  count {b doc} hb := by
    rw [Store.members_putAccount, Store.members_putDevice_old b v hd]
    rw [Store.account_putAccount] at hb
    split at hb
    · next heq =>
      obtain rfl := Option.some.inj hb
      rw [heq]
      exact hn
    · exact h.count hb
  owned hb := h.owned_put hb

/-- A rewritten device and no increment. -/
theorem rewriteDevice (h : Tallied R s) {a d : DocId} {account : AccountDoc} (v : DeviceDoc)
    (now : Timestamp) (ha : s.account a = some account) (hd : (s.device a d).isSome) :
    Tallied R ((s.putDevice a d v).putAccount a (account.touch now 0)) :=
  h.rewriteDevice_of v now (by simpa using h.count ha) hd

/-- One device less and one decrement. -/
theorem leave (h : Tallied R s) (hR : Shifts R) {a d : DocId} {account : AccountDoc} (now : Timestamp)
    (ha : s.account a = some account) (hd : (s.device a d).isSome) :
    Tallied R (s.leave a d account now) where
  count {b doc} hb := by
    rw [Store.leave, Store.members_putAccount]
    rw [Store.leave, Store.account_putAccount] at hb
    split at hb
    · next heq =>
      obtain rfl := Option.some.inj hb
      have hm := Store.members_dropDevice hd
      have hshift := hR.add (h.count ha) (-1)
      have hcast : (s.members a : Int) + -1 = (s.dropDevice a d).members a := by omega
      rw [heq, ← hcast]
      exact hshift
    · next hne =>
      rw [Store.members_dropDevice_ne s a b d hne]
      exact h.count hb
  owned {b d'} hb := by
    rw [Store.leave, Store.account_putAccount]
    split
    · rfl
    · next hne =>
      rw [Store.leave, Store.device_putAccount, Store.device_dropDevice, if_neg fun hc => hne hc.1] at hb
      exact h.owned hb

/-- The account and all its devices go together. -/
theorem sweepAccount (h : Tallied R s) (a : DocId) : Tallied R (s.sweepAccount a) where
  count {b doc} hb := by
    rw [Store.account_sweepAccount] at hb
    split at hb
    · cases hb
    · next hne =>
      have hm : (s.sweepAccount a).members b = s.members b := Store.members_congr (by simp [hne])
      rw [hm]
      exact h.count hb
  owned {b d} hb := by
    rw [Store.device_sweepAccount] at hb
    split at hb
    · cases hb
    · next hne =>
      rw [Store.account_sweepAccount, if_neg hne]
      exact h.owned hb

end Tallied

/-! ### The two sides of a join -/

section Join
variable {now : Timestamp} {uid : DocId} {input : JoinNetworkInput} {s left : Store} {doc : DeviceDoc}

theorem JoinSource.tallied {R : Int → Int → Prop} (hR : Shifts R)
    (h : JoinSource now uid input s doc left) (hs : Tallied R s) : Tallied R left := by
  cases h with
  | survivor ha hd _ => exact hs.leave hR now ha (by simp [hd])
  | last _ _ _ => exact hs.sweepAccount uid
  | welcome _ _ => exact hs

/-- Leaving the source changes no other account. -/
theorem JoinSource.account_ne (h : JoinSource now uid input s doc left) {a : DocId} (hne : a ≠ uid) :
    left.account a = s.account a := by
  cases h <;> simp [Store.leave, hne]

theorem JoinSource.device_ne (h : JoinSource now uid input s doc left) {a : DocId} (hne : a ≠ uid)
    (d : DocId) : left.device a d = s.device a d := by
  cases h <;> simp [Store.leave, hne]

theorem JoinSource.token (h : JoinSource now uid input s doc left) (k : DocId) :
    left.token k = s.token k := by
  cases h <;> simp [Store.leave]

/-- Entering the target adds a device and a count, or only a count. -/
theorem Tallied.joinTarget {s : Store} (h : Covered s) {clock : JoinClock} {input : JoinNetworkInput}
    {token : JoinTokenDoc} {target : AccountDoc} (doc : DeviceDoc)
    (ht : s.account token.accountId = some target) : Covered (joinTarget clock input token target doc s) := by
  have hp : Covered (s.putToken input.tokenId {token with consumedAt := some clock.now}) := h.putToken _ _
  cases hd : s.device token.accountId input.deviceId with
  | none => exact hp.addDevice .ge doc clock.now ht hd
  | some old =>
    refine hp.rewriteDevice_of doc clock.now ?_ (by simp [hd])
    have hcount : (s.members token.accountId : Int) ≤ target.deviceCount := h.count ht
    show target.deviceCount + 1 ≥ _
    rw [Store.members_putToken]
    omega

/-- Entering the target keeps the counts right exactly when the device is new
there: otherwise the target counts a device it does not have. -/
theorem counted_joinTarget_iff {clock : JoinClock} {token : JoinTokenDoc} {target : AccountDoc}
    (hl : Counted left) (ht : left.account token.accountId = some target) :
    Counted (joinTarget clock input token target doc left) ↔
      left.device token.accountId input.deviceId = none := by
  have hp : Counted (left.putToken input.tokenId {token with consumedAt := some clock.now}) :=
    hl.putToken _ _
  constructor
  · intro h
    by_contra hd
    have hd' : (left.device token.accountId input.deviceId).isSome := Option.isSome_iff_ne_none.mpr hd
    have hm : (joinTarget clock input token target doc left).members token.accountId =
        left.members token.accountId :=
      Store.members_putDevice_old (s := left.putToken input.tokenId _) token.accountId doc hd'
    have hacc : (joinTarget clock input token target doc left).account token.accountId =
        some (target.touch clock.now 1) := by
      simp [joinTarget]
    have h1 := h.count hacc
    have h0 := hl.count ht
    rw [hm] at h1
    simp only [AccountDoc.touch] at h1
    omega
  · intro hd
    exact hp.addDevice .eq doc clock.now ht hd

end Join

/-! ### One call, and every run -/

/-- An accepted join brings a device the target does not hold yet. -/
def JoinsFresh (s : Store) : Call → Prop
  | .joinNetwork env uid input => JoinCommits env uid input s →
      ∀ token, s.token input.tokenId = some token → s.device token.accountId input.deviceId = none
  | _ => True

/-- The patch calls keep the counts. -/
theorem Tallied.patchDeviceField {R : Int → Int → Prop} {s : Store} (hs : Tallied R s) (now : Timestamp)
    (uid deviceId : DocId) (patch : DevicePatch) : Tallied R (patchDeviceField now uid deviceId patch s).2 := by
  rcases patchDeviceField_cases now uid deviceId patch s with ⟨e, h⟩ | ⟨account, doc, ha, hd, h⟩
  · rwa [h]
  · rw [h]
    exact hs.rewriteDevice _ now ha (by simp [hd])

/-- Every call but a join keeps the counts. -/
theorem Tallied.apply_of_join {R : Int → Int → Prop} (hR : Shifts R) {s : Store} (hs : Tallied R s) (c : Call)
    (hj : ∀ env uid input, c = .joinNetwork env uid input → Tallied R (c.apply s)) :
    Tallied R (c.apply s) := by
  cases c with
  | createAccount now uid =>
    simp only [Call.apply]
    rcases createAccountLogic_cases now uid s with ⟨_, h⟩ | ⟨ha, h⟩
    · rwa [h]
    · rw [h]
      exact hs.putAccount_new hR ha now
  | registerDevice now uid input =>
    simp only [Call.apply]
    rcases registerDeviceLogic_cases now uid input s with
      ⟨_, e, h⟩ | ⟨account, ha, hd, h⟩ | ⟨account, doc, ha, hd, h⟩
    · rwa [h]
    · rw [h]
      exact hs.addDevice hR _ now ha hd
    · rw [h]
      exact hs.rewriteDevice _ now ha (by simp [hd])
  | renameDevice now uid input => exact hs.patchDeviceField ..
  | setDeviceIcon now uid input => exact hs.patchDeviceField ..
  | removeDevice now uid input =>
    simp only [Call.apply]
    rcases removeDeviceLogic_cases now uid input s with h | ⟨account, ha, hd, _, h⟩ | ⟨_, _, _, _, h⟩
    · rwa [h]
    · rw [h]
      exact hs.leave hR now ha hd
    · rw [h]
      exact hs.sweepAccount uid
  | createJoinToken now tokenId uid input =>
    simp only [Call.apply]
    rcases createJoinTokenLogic_cases now tokenId uid input s with ⟨e, h⟩ | ⟨_, _, h⟩
    · rwa [h]
    · rw [h]
      exact hs.putToken _ _
  | joinNetwork env uid input => exact hj env uid input rfl
  | notifyTransferIntent now messaging uid input =>
    simp only [Call.apply, notifyTransferIntentLogic_store]
    rcases notifyTransferIntentTx_cases now uid input s with
      ⟨e, h⟩ | ⟨account, source, target, ha, hsrc, _, _, h⟩
    · rwa [h]
    · rw [h]
      exact hs.rewriteDevice _ now ha (by simp [hsrc])
  | deleteAccount uid =>
    simp only [Call.apply]
    rcases deleteAccountLogic_cases' uid s with ⟨_, h⟩ | ⟨_, h⟩
    · rwa [h]
    · rw [h]
      exact hs.sweepAccount uid

theorem counted_joinNetwork_iff {s : Store} (hs : Counted s) (env : JoinEnv) (uid : DocId)
    (input : JoinNetworkInput) :
    Counted ((Call.joinNetwork env uid input).apply s) ↔ JoinsFresh s (.joinNetwork env uid input) := by
  simp only [Call.apply]
  rcases joinNetworkLogic_cases env uid input s with ⟨hn, h⟩ | ⟨hc, token, target, doc, left, g, hsrc, h⟩
  · rw [h]
    exact iff_of_true hs fun hc => absurd hc hn
  · have hne := Ne.symm g.notSelf
    rw [h, counted_joinTarget_iff (hsrc.tallied .eq hs) (by rw [hsrc.account_ne hne, g.targetFound]),
      hsrc.device_ne hne]
    constructor
    · intro hd _ token' ht'
      rw [g.found] at ht'
      obtain rfl := Option.some.inj ht'
      exact hd
    · exact fun hf => hf hc token g.found

/-- **One call keeps the counts right exactly when it joins no device onto
itself.** -/
theorem counted_apply_iff {s : Store} (hs : Counted s) (c : Call) :
    Counted (c.apply s) ↔ JoinsFresh s c := by
  cases c with
  | joinNetwork env uid input => exact counted_joinNetwork_iff hs env uid input
  | _ => exact iff_of_true (hs.apply_of_join .eq _ (by simp)) trivial

/-- A count may be too high, but no call makes it too low. -/
theorem covered_apply {s : Store} (hs : Covered s) (c : Call) : Covered (c.apply s) := by
  refine hs.apply_of_join .ge c ?_
  rintro env uid input rfl
  simp only [Call.apply]
  rcases joinNetworkLogic_cases env uid input s with ⟨_, h⟩ | ⟨_, token, target, doc, left, g, hsrc, h⟩
  · rwa [h]
  · rw [h]
    refine (hsrc.tallied .ge hs).joinTarget doc ?_
    rw [hsrc.account_ne g.notSelf.symm, g.targetFound]

/-- From right counts a run keeps them exactly when its accepted joins are fresh. -/
theorem along_counted {s : Store} (hs : Counted s) (calls : List Call) :
    cloud.Along Counted s calls ↔ cloud.Meets JoinsFresh s calls := by
  refine Transition.System.along_iff_meets ?_ hs
  intro s c t hs hst
  obtain rfl := Option.some.inj hst
  exact counted_apply_iff hs c

/-- **The counts are right in every state of a run exactly when every accepted
join of the run brings a device its target does not hold.** -/
theorem counted_along_iff (calls : List Call) :
    cloud.Along Counted .empty calls ↔ cloud.Meets JoinsFresh .empty calls :=
  along_counted Tallied.empty calls

/-! ### A retried join -/

namespace Retry

def group : DocId := ⟨"group", by decide, by decide⟩
def caller : DocId := ⟨"caller", by decide, by decide⟩
def issuer : DocId := ⟨"issuer", by decide, by decide⟩
def joiner : DocId := ⟨"joiner", by decide, by decide⟩
def firstCode : DocId := ⟨"first-code", by decide, by decide⟩
def secondCode : DocId := ⟨"second-code", by decide, by decide⟩

def env (now : Timestamp) : JoinEnv where
  clock := ⟨now, now⟩
  customTokenMinter uid := some uid.val
  localeLe a b := decide (a ≤ b)

def newDevice : NewDevice := ⟨"Phone", .phone, none, .android⟩

/-- A group with one device, and a caller without an account who redeems two of
its codes for one device. -/
def calls : List Call :=
  [.createAccount 0 group,
    .registerDevice 1 group ⟨issuer, "Laptop", .laptop, none, .linux, none⟩,
    .createJoinToken 2 firstCode group ⟨issuer⟩,
    .joinNetwork (env 3) caller ⟨firstCode, joiner, some newDevice⟩,
    .createJoinToken 4 secondCode group ⟨issuer⟩,
    .joinNetwork (env 5) caller ⟨secondCode, joiner, some newDevice⟩]

/-- The store after them. -/
def store : Store := calls.foldl (fun s c => c.apply s) .empty

theorem count_store : (store.account group).map AccountDoc.deviceCount = some 3 ∧
    store.members group = 2 := by decide

end Retry

/-- Joining once more with a new code counts the device twice. -/
theorem counted_fails_on_retry : ¬ ∀ calls, cloud.Along Counted .empty calls := by
  intro h
  have hreach : Counted Retry.store := (h (Retry.calls ++ [])).reached rfl
  obtain ⟨hcount, hmembers⟩ := Retry.count_store
  obtain ⟨doc, hdoc, hdc⟩ := Option.map_eq_some_iff.mp hcount
  have := hreach.count hdoc
  omega

end MagicShare.Cloud
