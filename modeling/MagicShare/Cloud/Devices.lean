import MagicShare.Cloud.Accounts

/-! `devices.ts` and `account-access.ts`: registering, renaming, re-iconing and
removing a device. -/
namespace MagicShare.Cloud

/-- `assertSameAccountTx`: the device document, if the caller's account has it. -/
def assertSameAccountTx (callerUid deviceId : DocId) (s : Store) : Except Rejection DeviceDoc :=
  match s.device callerUid deviceId with
  | none => .error (.https .notFound "Device not found.")
  | some doc => .ok doc

/-! ### registerDevice -/

/-- In `fingerprint` the outer `none` is an omitted field. -/
structure RegisterDeviceInput where
  deviceId : DocId
  displayName : String
  icon : DeviceIcon
  fcmToken : Option String
  platform : DevicePlatform
  fingerprint : Option (Option String)

structure RegisterDeviceResult where
  created : Bool

/-- The document a first registration writes. -/
def RegisterDeviceInput.deviceDoc (input : RegisterDeviceInput) : DeviceDoc where
  displayName := input.displayName
  icon := input.icon
  fcmToken := input.fcmToken
  platform := input.platform
  fingerprint := some (input.fingerprint.getD none)

/-- The fields a re-registration refreshes: never `displayName` or `icon`, and
`fingerprint` only when it was supplied. -/
def RegisterDeviceInput.refresh (input : RegisterDeviceInput) : DevicePatch where
  fcmToken := some input.fcmToken
  platform := some input.platform
  fingerprint := input.fingerprint

def registerDeviceBody (now : Timestamp) (uid : DocId) (input : RegisterDeviceInput) (s : Store) :
    Staged RegisterDeviceResult :=
  match s.account uid with
  | none => .error (.https .failedPrecondition "Account does not exist; call createAccount first.")
  | some _ =>
    match s.device uid input.deviceId with
    | none => .ok (⟨true⟩,
        [.setDevice uid input.deviceId input.deviceDoc,
          .updateAccount uid {lastActiveAt := now, deviceCount := some 1}])
    | some _ => .ok (⟨false⟩,
        [.updateDevice uid input.deviceId input.refresh,
          .updateAccount uid {lastActiveAt := now}])

def registerDeviceLogic (now : Timestamp) (uid : DocId) (input : RegisterDeviceInput) (s : Store) :
    Except Rejection RegisterDeviceResult × Store :=
  runTransaction (registerDeviceBody now uid input) s

/-- The account with its `lastActiveAt` bumped and its count moved by `n`. -/
def AccountDoc.touch (doc : AccountDoc) (now : Timestamp) (n : Int) : AccountDoc :=
  {doc with lastActiveAt := now, deviceCount := doc.deviceCount + n}

/-- `registerDevice` without an account rejects; with one it adds the device, or
refreshes it. -/
theorem registerDeviceLogic_cases (now : Timestamp) (uid : DocId) (input : RegisterDeviceInput)
    (s : Store) :
    (s.account uid = none ∧ ∃ e, registerDeviceLogic now uid input s = (.error e, s)) ∨
      (∃ account, s.account uid = some account ∧ s.device uid input.deviceId = none ∧
        registerDeviceLogic now uid input s = (.ok ⟨true⟩,
          (s.putDevice uid input.deviceId input.deviceDoc).putAccount uid (account.touch now 1))) ∨
      (∃ account doc, s.account uid = some account ∧ s.device uid input.deviceId = some doc ∧
        registerDeviceLogic now uid input s = (.ok ⟨false⟩,
          (s.putDevice uid input.deviceId (input.refresh.apply doc)).putAccount uid
            (account.touch now 0))) := by
  cases ha : s.account uid with
  | none =>
    have hb : registerDeviceBody now uid input s =
        .error (.https .failedPrecondition "Account does not exist; call createAccount first.") := by
      simp [registerDeviceBody, ha]
    exact .inl ⟨rfl, _, Transaction.run_rejected hb⟩
  | some account =>
    cases hd : s.device uid input.deviceId with
    | none =>
      have hb : registerDeviceBody now uid input s = .ok (⟨true⟩,
          [.setDevice uid input.deviceId input.deviceDoc,
            .updateAccount uid {lastActiveAt := now, deviceCount := some 1}]) := by
        simp [registerDeviceBody, ha, hd]
      refine .inr (.inl ⟨account, rfl, rfl, Transaction.run_committed hb ?_⟩)
      rw [commit_write rfl, commit_updateAccount _ (by simpa using ha)]
      rfl
    | some doc =>
      have hb : registerDeviceBody now uid input s = .ok (⟨false⟩,
          [.updateDevice uid input.deviceId input.refresh,
            .updateAccount uid {lastActiveAt := now}]) := by
        simp [registerDeviceBody, ha, hd]
      refine .inr (.inr ⟨account, doc, rfl, rfl, Transaction.run_committed hb ?_⟩)
      rw [commit_updateDevice _ hd, commit_updateAccount _ (by simpa using ha)]
      rfl

/-! ### renameDevice and setDeviceIcon -/

structure RenameDeviceInput where
  deviceId : DocId
  displayName : String

structure SetDeviceIconInput where
  deviceId : DocId
  icon : DeviceIcon

def patchDeviceFieldBody (now : Timestamp) (uid deviceId : DocId) (patch : DevicePatch) (s : Store) :
    Staged Unit :=
  match assertSameAccountTx uid deviceId s with
  | .error e => .error e
  | .ok _ => .ok ((), [.updateDevice uid deviceId patch, .updateAccount uid {lastActiveAt := now}])

def patchDeviceField (now : Timestamp) (uid deviceId : DocId) (patch : DevicePatch) (s : Store) :
    Except Rejection Unit × Store :=
  runTransaction (patchDeviceFieldBody now uid deviceId patch) s

def renameDeviceLogic (now : Timestamp) (uid : DocId) (input : RenameDeviceInput) (s : Store) :
    Except Rejection Unit × Store :=
  patchDeviceField now uid input.deviceId {displayName := some input.displayName} s

def setDeviceIconLogic (now : Timestamp) (uid : DocId) (input : SetDeviceIconInput) (s : Store) :
    Except Rejection Unit × Store :=
  patchDeviceField now uid input.deviceId {icon := some input.icon} s

/-- A patch rejects, or rewrites a device the caller's account has and touches
the account. -/
theorem patchDeviceField_cases (now : Timestamp) (uid deviceId : DocId) (patch : DevicePatch)
    (s : Store) :
    (∃ e, patchDeviceField now uid deviceId patch s = (.error e, s)) ∨
      (∃ account doc, s.account uid = some account ∧ s.device uid deviceId = some doc ∧
        patchDeviceField now uid deviceId patch s = (.ok (),
          (s.putDevice uid deviceId (patch.apply doc)).putAccount uid (account.touch now 0))) := by
  cases hd : s.device uid deviceId with
  | none =>
    have hb : patchDeviceFieldBody now uid deviceId patch s =
        .error (.https .notFound "Device not found.") := by
      simp [patchDeviceFieldBody, assertSameAccountTx, hd]
    exact .inl ⟨_, Transaction.run_rejected hb⟩
  | some doc =>
    have hb : patchDeviceFieldBody now uid deviceId patch s =
        .ok ((), [.updateDevice uid deviceId patch, .updateAccount uid {lastActiveAt := now}]) := by
      simp [patchDeviceFieldBody, assertSameAccountTx, hd]
    cases ha : s.account uid with
    | none =>
      refine .inl ⟨_, Transaction.run_refused hb ?_⟩
      rw [commit_updateDevice _ hd, Transaction.commit_cons]
      simp [Write.apply, ha]
    | some account =>
      refine .inr ⟨account, doc, rfl, rfl, Transaction.run_committed hb ?_⟩
      rw [commit_updateDevice _ hd, commit_updateAccount _ (by simpa using ha)]
      rfl

/-! ### removeDevice -/

structure RemoveDeviceInput where
  deviceId : DocId

structure RemoveDeviceResult where
  accountDeleted : Bool

def removeDeviceBody (now : Timestamp) (uid : DocId) (input : RemoveDeviceInput) (s : Store) :
    Staged RemoveDeviceResult :=
  match s.account uid with
  | none => .error (.https .notFound "Account not found.")
  | some account =>
    match assertSameAccountTx uid input.deviceId s with
    | .error e => .error e
    | .ok _ =>
      if account.deviceCount > 1 then
        .ok (⟨false⟩, [.deleteDevice uid input.deviceId,
          .updateAccount uid {lastActiveAt := now, deviceCount := some (-1)}])
      else
        .ok (⟨true⟩, [.deleteDevice uid input.deviceId, .deleteAccount uid])

/-- The transaction of `removeDevice`, without the sweep that follows it. -/
def removeDeviceTx (now : Timestamp) (uid : DocId) (input : RemoveDeviceInput) (s : Store) :
    Except Rejection RemoveDeviceResult × Store :=
  runTransaction (removeDeviceBody now uid input) s

/-- The whole call. -/
def removeDeviceLogic (now : Timestamp) (r : SweepRun) (uid : DocId) (input : RemoveDeviceInput)
    (s : Store) : Except Rejection RemoveDeviceResult × Store :=
  match removeDeviceTx now uid input s with
  | (.error e, t) => (.error e, t)
  | (.ok result, t) =>
    match if result.accountDeleted then recursiveDeleteAccount r uid t
      else recursiveDeleteDevice r uid input.deviceId t with
    | (.error e, u) => (.error e, u)
    | (.ok (), u) => (.ok result, u)

/-- One of several devices leaves its account. -/
def Store.leave (s : Store) (a d : DocId) (account : AccountDoc) (now : Timestamp) : Store :=
  (s.dropDevice a d).putAccount a (account.touch now (-1))

/-- The last device leaves, and its account goes with it. -/
def Store.leaveLast (s : Store) (a d : DocId) : Store := (s.dropDevice a d).dropAccount a

/-- `removeDevice` rejects, takes one of several devices away, or takes the last
one and its account. -/
theorem removeDeviceTx_cases (now : Timestamp) (uid : DocId) (input : RemoveDeviceInput) (s : Store) :
    (∃ e, removeDeviceTx now uid input s = (.error e, s)) ∨
      (∃ account, s.account uid = some account ∧ (s.device uid input.deviceId).isSome ∧
        1 < account.deviceCount ∧ removeDeviceTx now uid input s =
          (.ok ⟨false⟩, s.leave uid input.deviceId account now)) ∨
      (∃ account, s.account uid = some account ∧ (s.device uid input.deviceId).isSome ∧
        account.deviceCount ≤ 1 ∧ removeDeviceTx now uid input s =
          (.ok ⟨true⟩, s.leaveLast uid input.deviceId)) := by
  cases ha : s.account uid with
  | none =>
    have hb : removeDeviceBody now uid input s = .error (.https .notFound "Account not found.") := by
      simp [removeDeviceBody, ha]
    exact .inl ⟨_, Transaction.run_rejected hb⟩
  | some account =>
    cases hd : s.device uid input.deviceId with
    | none =>
      have hb : removeDeviceBody now uid input s = .error (.https .notFound "Device not found.") := by
        simp [removeDeviceBody, assertSameAccountTx, ha, hd]
      exact .inl ⟨_, Transaction.run_rejected hb⟩
    | some doc =>
      by_cases hc : 1 < account.deviceCount
      · have hb : removeDeviceBody now uid input s = .ok (⟨false⟩,
            [.deleteDevice uid input.deviceId,
              .updateAccount uid {lastActiveAt := now, deviceCount := some (-1)}]) := by
          simp [removeDeviceBody, assertSameAccountTx, ha, hd, hc]
        refine .inr (.inl ⟨account, rfl, rfl, hc, Transaction.run_committed hb ?_⟩)
        rw [commit_write rfl, commit_updateAccount _ (by simpa using ha)]
        rfl
      · have hb : removeDeviceBody now uid input s = .ok (⟨true⟩,
            [.deleteDevice uid input.deviceId, .deleteAccount uid]) := by
          simp [removeDeviceBody, assertSameAccountTx, ha, hd, hc]
        exact .inr (.inr ⟨account, rfl, rfl, by omega, Transaction.run_committed hb rfl⟩)

end MagicShare.Cloud
