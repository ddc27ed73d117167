import MagicShare.Cloud.Devices

/-! `pairing.ts`: minting, previewing and redeeming a join token.

`joinNetwork` is one transaction followed by three steps outside it: a
`recursiveDelete` on the source side, the read of the target's device list, and
the minting of a custom token. `joinNetworkTx` is the transaction,
`joinNetworkLogic` the whole call with the outcome of every outside step given
(`JoinEnv`). -/
namespace MagicShare.Cloud

def tokenLifetimeMs : Int := 5 * 60000

/-! ### createJoinToken -/

structure CreateJoinTokenInput where
  issuingDeviceId : DocId

structure CreateJoinTokenResult where
  tokenId : DocId
  expiresAtMs : Int

/-- The reads of `createJoinToken`: the account and the issuing device exist. -/
def createJoinTokenCheck (uid : DocId) (input : CreateJoinTokenInput) (s : Store) :
    Except Rejection Unit :=
  if (s.account uid).isNone then
    .error (.https .failedPrecondition "Account does not exist; call createAccount first.")
  else if (s.device uid input.issuingDeviceId).isNone then
    .error (.https .failedPrecondition "Issuing device not found.")
  else .ok ()

/-- The token document `createJoinToken` writes. -/
def newJoinToken (now : Timestamp) (uid : DocId) (input : CreateJoinTokenInput) : JoinTokenDoc where
  accountId := uid
  createdAt := now
  expiresAt := now + tokenLifetimeMs
  consumedAt := none
  issuingDeviceId := input.issuingDeviceId

/-- The whole call. `tokenId` is what the random source gave. -/
def createJoinTokenLogic (now : Timestamp) (tokenId uid : DocId) (input : CreateJoinTokenInput)
    (s : Store) : Except Rejection CreateJoinTokenResult × Store :=
  match createJoinTokenCheck uid input s with
  | .error e => (.error e, s)
  | .ok () => (.ok ⟨tokenId, now + tokenLifetimeMs⟩, s.putToken tokenId (newJoinToken now uid input))

theorem createJoinTokenLogic_cases (now : Timestamp) (tokenId uid : DocId)
    (input : CreateJoinTokenInput) (s : Store) :
    (∃ e, createJoinTokenLogic now tokenId uid input s = (.error e, s)) ∨
      ((s.account uid).isSome ∧ (s.device uid input.issuingDeviceId).isSome ∧
        createJoinTokenLogic now tokenId uid input s =
          (.ok ⟨tokenId, now + tokenLifetimeMs⟩, s.putToken tokenId (newJoinToken now uid input))) := by
  unfold createJoinTokenLogic createJoinTokenCheck
  cases ha : s.account uid with
  | none => exact .inl ⟨_, rfl⟩
  | some account =>
    cases hd : s.device uid input.issuingDeviceId with
    | none => exact .inl ⟨_, rfl⟩
    | some doc => exact .inr ⟨rfl, rfl, rfl⟩

/-! ### previewJoinToken -/

structure JoinTokenPreviewDevice where
  deviceId : DocId
  displayName : String
  icon : DeviceIcon
  platform : DevicePlatform

structure PreviewJoinTokenResult where
  accountId : DocId
  issuingDeviceId : DocId
  expiresAtMs : Int
  devices : List JoinTokenPreviewDevice

def projectDeviceForPreview (deviceId : DocId) (doc : DeviceDoc) : JoinTokenPreviewDevice where
  deviceId := deviceId
  displayName := doc.displayName
  icon := doc.icon
  platform := doc.platform

/-- The ids under `accounts/{a}/devices`, in the order Firestore returns them. -/
def Store.deviceIds (s : Store) (a : DocId) : List DocId :=
  inOrder ((s.devices.keys.filter (Store.Under a)).image Prod.snd)

theorem Store.mem_deviceIds (s : Store) (a d : DocId) : d ∈ s.deviceIds a ↔ (s.device a d).isSome := by
  rw [Store.deviceIds, mem_inOrder, Finset.mem_image]
  constructor
  · rintro ⟨⟨b, d'⟩, hmem, rfl⟩
    obtain ⟨hkey, rfl⟩ := Finset.mem_filter.mp hmem
    exact (Documents.Collection.mem_keys_iff _ _).mp hkey
  · intro h
    exact ⟨(a, d), Finset.mem_filter.mpr ⟨(Documents.Collection.mem_keys_iff _ _).mpr h, rfl⟩, rfl⟩

/-- `localeLe` is `localeCompare(..) <= 0`. -/
def listGroupDevicesForPreview (localeLe : String → String → Bool) (s : Store) (accountId : DocId) :
    List JoinTokenPreviewDevice :=
  ((s.deviceIds accountId).filterMap fun d =>
    (s.device accountId d).map (projectDeviceForPreview d)).mergeSort
      fun a b => localeLe a.displayName b.displayName

def previewJoinTokenLogic (dateNow : Timestamp) (localeLe : String → String → Bool)
    (tokenId : DocId) (s : Store) : Except Rejection PreviewJoinTokenResult :=
  match s.token tokenId with
  | none => .error (.https .notFound "Join token not found.")
  | some token =>
    if token.consumedAt.isSome then
      .error (.https .failedPrecondition "Join token already consumed.")
    else if token.expiresAt ≤ dateNow then
      .error (.https .failedPrecondition "Join token expired.")
    else
      .ok {
        accountId := token.accountId
        issuingDeviceId := token.issuingDeviceId
        expiresAtMs := token.expiresAt
        devices := listGroupDevicesForPreview localeLe s token.accountId }

/-! ### joinNetwork -/

structure NewDevice where
  displayName : String
  icon : DeviceIcon
  fcmToken : Option String
  platform : DevicePlatform

structure JoinNetworkInput where
  tokenId : DocId
  deviceId : DocId
  newDevice : Option NewDevice

/-- The document the welcome-card route writes. -/
def NewDevice.deviceDoc (nd : NewDevice) : DeviceDoc where
  displayName := nd.displayName
  icon := nd.icon
  fcmToken := nd.fcmToken
  platform := nd.platform

/-- What the transaction returns. -/
structure JoinDecision where
  accountId : DocId
  oldAccountDeleted : Bool
  hadSourceAccount : Bool

/-- The two clock reads of the transaction: `Date.now()` for the expiry check,
`Timestamp.now()` for what it writes. -/
structure JoinClock where
  dateNow : Timestamp
  now : Timestamp

def joinNetworkBody (clock : JoinClock) (sourceUid : DocId) (input : JoinNetworkInput) (s : Store) :
    Staged JoinDecision :=
  match s.token input.tokenId with
  | none => .error (.https .notFound "Join token not found.")
  | some token =>
    if token.consumedAt.isSome then
      .error (.https .failedPrecondition "Join token already consumed.")
    else if token.expiresAt ≤ clock.dateNow then
      .error (.https .failedPrecondition "Join token expired.")
    else if sourceUid = token.accountId then
      .error (.https .failedPrecondition "Cannot join your own group.")
    else
      let accountId := token.accountId
      let joined : AccountPatch := {lastActiveAt := clock.now, deviceCount := some 1}
      match s.account accountId, s.account sourceUid, s.device sourceUid input.deviceId with
      | none, _, _ => .error (.https .failedPrecondition "Target account not found.")
      | some _, some _, none => .error (.https .failedPrecondition "Source device not found.")
      | some _, some sourceAccount, some sourceDevice =>
        if sourceAccount.deviceCount > 1 then
          .ok (⟨accountId, false, true⟩,
            [.consumeToken input.tokenId clock.now,
              .deleteDevice sourceUid input.deviceId,
              .setDevice accountId input.deviceId sourceDevice,
              .updateAccount accountId joined,
              .updateAccount sourceUid {lastActiveAt := clock.now, deviceCount := some (-1)}])
        else
          .ok (⟨accountId, true, true⟩,
            [.consumeToken input.tokenId clock.now,
              .deleteDevice sourceUid input.deviceId,
              .setDevice accountId input.deviceId sourceDevice,
              .updateAccount accountId joined,
              .deleteAccount sourceUid])
      | some _, none, _ =>
        -- The welcome-card route: nothing to move, so the input has to say what
        -- the device is. The consume is already staged when this throws.
        match input.newDevice with
        | none => .error (.https .failedPrecondition
            "newDevice is required when no source account exists for the caller.")
        | some newDevice =>
          .ok (⟨accountId, false, false⟩,
            [.consumeToken input.tokenId clock.now,
              .setDevice accountId input.deviceId newDevice.deviceDoc,
              .updateAccount accountId joined])

/-- The transaction of `joinNetwork`. -/
def joinNetworkTx (clock : JoinClock) (sourceUid : DocId) (input : JoinNetworkInput) (s : Store) :
    Except Rejection JoinDecision × Store :=
  runTransaction (joinNetworkBody clock sourceUid input) s

structure JoinNetworkResult where
  accountId : DocId
  oldAccountDeleted : Bool
  devices : List JoinTokenPreviewDevice
  customToken : String

/-- How the steps of one `joinNetwork` call go. -/
structure JoinEnv where
  clock : JoinClock
  /-- Firestore carries the transaction through rather than giving it up. -/
  transaction : Bool := true
  sweep : SweepRun := .completes
  /-- The device list can be read. -/
  deviceList : Bool := true
  /-- `customTokenMinter`: the token for a uid, or a failure. -/
  customTokenMinter : DocId → Option String
  localeLe : String → String → Bool

/-- The `recursiveDelete` after the transaction. -/
def joinSweep (r : SweepRun) (sourceUid deviceId : DocId) (decision : JoinDecision) (s : Store) :
    Except Rejection Unit × Store :=
  if decision.hadSourceAccount then
    if decision.oldAccountDeleted then recursiveDeleteAccount r sourceUid s
    else recursiveDeleteDevice r sourceUid deviceId s
  else (.ok (), s)

/-- The device list and the custom token, from the store the sweep left. -/
def joinResponse (env : JoinEnv) (decision : JoinDecision) (s : Store) :
    Except Rejection JoinNetworkResult :=
  if env.deviceList then
    match env.customTokenMinter decision.accountId with
    | none => .error .customToken
    | some customToken => .ok {
        accountId := decision.accountId
        oldAccountDeleted := decision.oldAccountDeleted
        devices := listGroupDevicesForPreview env.localeLe s decision.accountId
        customToken := customToken }
  else .error .deviceList

/-- The whole call. -/
def joinNetworkLogic (env : JoinEnv) (sourceUid : DocId) (input : JoinNetworkInput) (s : Store) :
    Except Rejection JoinNetworkResult × Store :=
  if env.transaction then
    match joinNetworkTx env.clock sourceUid input s with
    | (.error e, t) => (.error e, t)
    | (.ok decision, t) =>
      match joinSweep env.sweep sourceUid input.deviceId decision t with
      | (.error e, u) => (.error e, u)
      | (.ok (), u) => (joinResponse env decision u, u)
  else (.error .aborted, s)

section Logic
variable {env : JoinEnv} {sourceUid : DocId} {input : JoinNetworkInput} {s t : Store}

theorem joinNetworkLogic_aborted (h : ¬ env.transaction = true) :
    joinNetworkLogic env sourceUid input s = (.error .aborted, s) := by
  simp [joinNetworkLogic, h]

theorem joinNetworkLogic_rejected {e : Rejection} (h : env.transaction = true)
    (htx : joinNetworkTx env.clock sourceUid input s = (.error e, t)) :
    joinNetworkLogic env sourceUid input s = (.error e, t) := by
  simp only [joinNetworkLogic, h, if_true, htx]

/-- Past the transaction a call is its sweep and its response. -/
theorem joinNetworkLogic_eq {decision : JoinDecision} (h : env.transaction = true)
    (htx : joinNetworkTx env.clock sourceUid input s = (.ok decision, t)) :
    joinNetworkLogic env sourceUid input s =
      ((joinSweep env.sweep sourceUid input.deviceId decision t).1 >>= fun _ =>
          joinResponse env decision (joinSweep env.sweep sourceUid input.deviceId decision t).2,
        (joinSweep env.sweep sourceUid input.deviceId decision t).2) := by
  simp only [joinNetworkLogic, h, if_true, htx]
  rcases joinSweep env.sweep sourceUid input.deviceId decision t with ⟨_ | _, u⟩ <;> rfl

end Logic

/-! ### What a joinNetwork transaction can do -/

/-- What every accepted `joinNetwork` has checked. -/
structure JoinGuards (clock : JoinClock) (sourceUid : DocId) (input : JoinNetworkInput) (s : Store)
    (token : JoinTokenDoc) (target : AccountDoc) : Prop where
  found : s.token input.tokenId = some token
  unconsumed : token.consumedAt = none
  unexpired : clock.dateNow < token.expiresAt
  notSelf : sourceUid ≠ token.accountId
  targetFound : s.account token.accountId = some target

/-- The consumed token, the device under the target, and the target's count. -/
def joinTarget (clock : JoinClock) (input : JoinNetworkInput) (token : JoinTokenDoc)
    (target : AccountDoc) (doc : DeviceDoc) (s : Store) : Store :=
  ((s.putToken input.tokenId {token with consumedAt := some clock.now}).putDevice
    token.accountId input.deviceId doc).putAccount token.accountId (target.touch clock.now 1)

/-- A write to another account commutes with entering the target. -/
theorem joinTarget_putAccount (clock : JoinClock) (input : JoinNetworkInput) (token : JoinTokenDoc)
    (target : AccountDoc) (doc : DeviceDoc) (s : Store) {a : DocId} (v : AccountDoc)
    (h : a ≠ token.accountId) :
    (joinTarget clock input token target doc s).putAccount a v =
      joinTarget clock input token target doc (s.putAccount a v) := by
  refine Store.ext_lookup (fun a' => ?_) (fun _ _ => by simp [joinTarget]) (fun _ => by simp [joinTarget])
  by_cases ha : a' = a
  · simp [joinTarget, ha, h]
  · simp [joinTarget, ha]

theorem joinTarget_dropAccount (clock : JoinClock) (input : JoinNetworkInput) (token : JoinTokenDoc)
    (target : AccountDoc) (doc : DeviceDoc) (s : Store) {a : DocId} (h : a ≠ token.accountId) :
    (joinTarget clock input token target doc s).dropAccount a =
      joinTarget clock input token target doc (s.dropAccount a) := by
  refine Store.ext_lookup (fun a' => ?_) (fun _ _ => by simp [joinTarget]) (fun _ => by simp [joinTarget])
  by_cases ha : a' = a
  · simp [joinTarget, ha, h]
  · simp [joinTarget, ha]

section Join
variable {clock : JoinClock} {sourceUid : DocId} {input : JoinNetworkInput} {s : Store}
  {token : JoinTokenDoc} {target : AccountDoc}

/-- Past the guards the body looks at the source side only. -/
theorem joinNetworkBody_eq (g : JoinGuards clock sourceUid input s token target) :
    joinNetworkBody clock sourceUid input s =
      match s.account sourceUid, s.device sourceUid input.deviceId with
      | some _, none => .error (.https .failedPrecondition "Source device not found.")
      | some sourceAccount, some sourceDevice =>
        if sourceAccount.deviceCount > 1 then
          .ok (⟨token.accountId, false, true⟩,
            [.consumeToken input.tokenId clock.now,
              .deleteDevice sourceUid input.deviceId,
              .setDevice token.accountId input.deviceId sourceDevice,
              .updateAccount token.accountId {lastActiveAt := clock.now, deviceCount := some 1},
              .updateAccount sourceUid {lastActiveAt := clock.now, deviceCount := some (-1)}])
        else
          .ok (⟨token.accountId, true, true⟩,
            [.consumeToken input.tokenId clock.now,
              .deleteDevice sourceUid input.deviceId,
              .setDevice token.accountId input.deviceId sourceDevice,
              .updateAccount token.accountId {lastActiveAt := clock.now, deviceCount := some 1},
              .deleteAccount sourceUid])
      | none, _ =>
        match input.newDevice with
        | none => .error (.https .failedPrecondition
            "newDevice is required when no source account exists for the caller.")
        | some newDevice =>
          .ok (⟨token.accountId, false, false⟩,
            [.consumeToken input.tokenId clock.now,
              .setDevice token.accountId input.deviceId newDevice.deviceDoc,
              .updateAccount token.accountId {lastActiveAt := clock.now, deviceCount := some 1}]) := by
  have hexp : ¬ token.expiresAt ≤ clock.dateNow := not_le.mpr g.unexpired
  simp only [joinNetworkBody, g.found, g.unconsumed, Option.isSome_none, Bool.false_eq_true, if_false,
    hexp, g.notSelf, g.targetFound]
  cases s.account sourceUid <;> cases s.device sourceUid input.deviceId <;> rfl

/-- Without the guards the body rejects. -/
theorem joinNetworkBody_rejects
    (h : ¬ ∃ token target, JoinGuards clock sourceUid input s token target) :
    ∃ e, joinNetworkBody clock sourceUid input s = .error e := by
  unfold joinNetworkBody
  cases ht : s.token input.tokenId with
  | none => exact ⟨_, rfl⟩
  | some token =>
    by_cases hc : token.consumedAt = none
    · by_cases he : token.expiresAt ≤ clock.dateNow
      · exact ⟨_, by simp [hc, he]; rfl⟩
      · by_cases hs : sourceUid = token.accountId
        · exact ⟨_, by simp [hc, he, hs]; rfl⟩
        · cases htarget : s.account token.accountId with
          | none => exact ⟨_, by simp [hc, he, hs, htarget]; rfl⟩
          | some target =>
            exact absurd ⟨token, target, ht, hc, not_le.mp he, hs, htarget⟩ h
    · have hc' : token.consumedAt.isSome = true := Option.isSome_iff_ne_none.mpr hc
      exact ⟨_, by simp [hc']; rfl⟩

/-- One of several source devices moves. -/
theorem joinNetworkTx_survivor (g : JoinGuards clock sourceUid input s token target)
    {sourceAccount : AccountDoc} {sourceDevice : DeviceDoc}
    (ha : s.account sourceUid = some sourceAccount)
    (hd : s.device sourceUid input.deviceId = some sourceDevice)
    (hc : 1 < sourceAccount.deviceCount) :
    joinNetworkTx clock sourceUid input s = (.ok ⟨token.accountId, false, true⟩,
      joinTarget clock input token target sourceDevice
        (s.leave sourceUid input.deviceId sourceAccount clock.now)) := by
  rw [Store.leave, ← joinTarget_putAccount _ _ _ _ _ _ _ g.notSelf]
  have hb := joinNetworkBody_eq g
  simp only [ha, hd, gt_iff_lt, hc, if_true] at hb
  refine Transaction.run_committed hb ?_
  rw [commit_consumeToken _ g.found, commit_write rfl, commit_write rfl,
    commit_updateAccount _ (by simpa using g.targetFound),
    commit_updateAccount _ (by simpa [g.notSelf] using ha)]
  rfl

/-- The only source device moves, and its account goes. -/
theorem joinNetworkTx_last (g : JoinGuards clock sourceUid input s token target)
    {sourceAccount : AccountDoc} {sourceDevice : DeviceDoc}
    (ha : s.account sourceUid = some sourceAccount)
    (hd : s.device sourceUid input.deviceId = some sourceDevice)
    (hc : sourceAccount.deviceCount ≤ 1) :
    joinNetworkTx clock sourceUid input s = (.ok ⟨token.accountId, true, true⟩,
      joinTarget clock input token target sourceDevice (s.leaveLast sourceUid input.deviceId)) := by
  rw [Store.leaveLast, ← joinTarget_dropAccount _ _ _ _ _ _ g.notSelf]
  have hb := joinNetworkBody_eq g
  simp only [ha, hd, gt_iff_lt, not_lt.mpr hc, if_false] at hb
  refine Transaction.run_committed hb ?_
  rw [commit_consumeToken _ g.found, commit_write rfl, commit_write rfl,
    commit_updateAccount _ (by simpa using g.targetFound), commit_write rfl]
  rfl

/-- A caller without an account brings its device along in the input. -/
theorem joinNetworkTx_welcome (g : JoinGuards clock sourceUid input s token target)
    {newDevice : NewDevice} (ha : s.account sourceUid = none)
    (hn : input.newDevice = some newDevice) :
    joinNetworkTx clock sourceUid input s = (.ok ⟨token.accountId, false, false⟩,
      joinTarget clock input token target newDevice.deviceDoc s) := by
  have hb := joinNetworkBody_eq g
  simp only [ha, hn] at hb
  refine Transaction.run_committed hb ?_
  rw [commit_consumeToken _ g.found, commit_write rfl, commit_updateAccount _ (by simpa using g.targetFound)]
  rfl

variable (clock sourceUid input s) in
/-- When `joinNetwork` goes through: its guards, and a device to move or to write. -/
def JoinAccepts : Prop :=
  (∃ token target, JoinGuards clock sourceUid input s token target) ∧
    ((s.account sourceUid).isSome → (s.device sourceUid input.deviceId).isSome) ∧
    (s.account sourceUid = none → input.newDevice.isSome)

theorem joinNetworkTx_rejects (h : ¬ JoinAccepts clock sourceUid input s) :
    ∃ e, joinNetworkTx clock sourceUid input s = (.error e, s) := by
  suffices hb : ∃ e, joinNetworkBody clock sourceUid input s = .error e by
    obtain ⟨e, hb⟩ := hb
    exact ⟨e, Transaction.run_rejected hb⟩
  by_cases hg : ∃ token target, JoinGuards clock sourceUid input s token target
  · obtain ⟨token, target, g⟩ := hg
    rw [joinNetworkBody_eq g]
    cases ha : s.account sourceUid with
    | none =>
      cases hn : input.newDevice with
      | none => exact ⟨_, rfl⟩
      | some newDevice => exact absurd ⟨⟨token, target, g⟩, by simp [ha], by simp [hn]⟩ h
    | some account =>
      cases hd : s.device sourceUid input.deviceId with
      | none => exact ⟨_, rfl⟩
      | some doc => exact absurd ⟨⟨token, target, g⟩, by simp [hd], by simp [ha]⟩ h
  · exact joinNetworkBody_rejects hg

theorem joinAccepts_of_ok (h : (joinNetworkTx clock sourceUid input s).1.isOk = true) :
    JoinAccepts clock sourceUid input s := by
  by_contra hn
  obtain ⟨e, he⟩ := joinNetworkTx_rejects hn
  rw [he] at h
  cases h

variable (clock sourceUid input s) in
/-- **What a `joinNetwork` transaction can do**: nothing, or enter the target with
one of several devices, with the only one, or with a new one. -/
theorem joinNetworkTx_cases :
    (¬ JoinAccepts clock sourceUid input s ∧
      ∃ e, joinNetworkTx clock sourceUid input s = (.error e, s)) ∨
    (JoinAccepts clock sourceUid input s ∧
      ∃ token target, JoinGuards clock sourceUid input s token target ∧
      ((∃ account doc, s.account sourceUid = some account ∧
          s.device sourceUid input.deviceId = some doc ∧ 1 < account.deviceCount ∧
          joinNetworkTx clock sourceUid input s = (.ok ⟨token.accountId, false, true⟩,
            joinTarget clock input token target doc
              (s.leave sourceUid input.deviceId account clock.now))) ∨
        (∃ account doc, s.account sourceUid = some account ∧
          s.device sourceUid input.deviceId = some doc ∧ account.deviceCount ≤ 1 ∧
          joinNetworkTx clock sourceUid input s = (.ok ⟨token.accountId, true, true⟩,
            joinTarget clock input token target doc (s.leaveLast sourceUid input.deviceId))) ∨
        (∃ newDevice, s.account sourceUid = none ∧ input.newDevice = some newDevice ∧
          joinNetworkTx clock sourceUid input s = (.ok ⟨token.accountId, false, false⟩,
            joinTarget clock input token target newDevice.deviceDoc s)))) := by
  by_cases h : JoinAccepts clock sourceUid input s
  · obtain ⟨⟨token, target, g⟩, hdev, hnew⟩ := h
    refine .inr ⟨⟨⟨token, target, g⟩, hdev, hnew⟩, token, target, g, ?_⟩
    cases ha : s.account sourceUid with
    | none =>
      obtain ⟨newDevice, hn⟩ := Option.isSome_iff_exists.mp (hnew ha)
      exact .inr (.inr ⟨newDevice, rfl, hn, joinNetworkTx_welcome g ha hn⟩)
    | some account =>
      obtain ⟨doc, hd⟩ := Option.isSome_iff_exists.mp (hdev (by simp [ha]))
      by_cases hc : 1 < account.deviceCount
      · exact .inl ⟨account, doc, rfl, hd, hc, joinNetworkTx_survivor g ha hd hc⟩
      · exact .inr (.inl ⟨account, doc, rfl, hd, not_lt.mp hc, joinNetworkTx_last g ha hd (not_lt.mp hc)⟩)
  · exact .inl ⟨h, joinNetworkTx_rejects h⟩

end Join
end MagicShare.Cloud
