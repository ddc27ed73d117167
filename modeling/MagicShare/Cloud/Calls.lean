import MagicShare.Base.Transition
import MagicShare.Cloud.Pairing
import MagicShare.Cloud.TransferNotify

/-! The callables as one transition system.

Each call is one step: its transaction, and the `recursiveDelete` that follows
it carried to its end. A call that rejects is a step too; it leaves the store to
whatever its outcome was. The interleavings in which a sweep runs later than its
transaction are in `Cloud/Sweeps.lean`. -/
namespace MagicShare.Cloud

/-- A call: its caller, its arguments, its clock reads and the outcome of the
steps outside Firestore. -/
inductive Call where
  | createAccount (now : Timestamp) (uid : DocId)
  | registerDevice (now : Timestamp) (uid : DocId) (input : RegisterDeviceInput)
  | renameDevice (now : Timestamp) (uid : DocId) (input : RenameDeviceInput)
  | setDeviceIcon (now : Timestamp) (uid : DocId) (input : SetDeviceIconInput)
  | removeDevice (now : Timestamp) (uid : DocId) (input : RemoveDeviceInput)
  | createJoinToken (now : Timestamp) (tokenId uid : DocId) (input : CreateJoinTokenInput)
  | joinNetwork (env : JoinEnv) (uid : DocId) (input : JoinNetworkInput)
  | notifyTransferIntent (now : Timestamp) (messaging : Message → Bool) (uid : DocId)
      (input : NotifyTransferIntentInput)
  | deleteAccount (uid : DocId)

/-- The same call with its sweep carried to the end. -/
def JoinEnv.swept (env : JoinEnv) : JoinEnv := {env with sweep := .completes}

/-- The store after a call. -/
def Call.apply : Call → Store → Store
  | .createAccount now uid, s => (createAccountLogic now uid s).2
  | .registerDevice now uid input, s => (registerDeviceLogic now uid input s).2
  | .renameDevice now uid input, s => (renameDeviceLogic now uid input s).2
  | .setDeviceIcon now uid input, s => (setDeviceIconLogic now uid input s).2
  | .removeDevice now uid input, s => (removeDeviceLogic now .completes uid input s).2
  | .createJoinToken now tokenId uid input, s => (createJoinTokenLogic now tokenId uid input s).2
  | .joinNetwork env uid input, s => (joinNetworkLogic env.swept uid input s).2
  | .notifyTransferIntent now messaging uid input, s =>
    (notifyTransferIntentLogic now messaging uid input s).2
  | .deleteAccount uid, s => (deleteAccountLogic .completes uid s).2

/-- Runs of calls from the empty store. -/
def cloud : Transition.System Store Call where
  init := .empty
  step s c := some (c.apply s)

/-- The store without an account and everything under it. -/
def Store.sweepAccount (s : Store) (a : DocId) : Store := (s.dropDevices a fun _ => true).dropAccount a

@[simp] theorem Store.account_sweepAccount (s : Store) (a a' : DocId) :
    (s.sweepAccount a).account a' = if a' = a then none else s.account a' := by
  simp [Store.sweepAccount]

@[simp] theorem Store.device_sweepAccount (s : Store) (a a' d : DocId) :
    (s.sweepAccount a).device a' d = if a' = a then none else s.device a' d := by
  simp [Store.sweepAccount]

@[simp] theorem Store.token_sweepAccount (s : Store) (a k : DocId) :
    (s.sweepAccount a).token k = s.token k := rfl

/-! ### What the calls with a sweep can do -/

/-- Sweeping a device that left finds nothing. -/
theorem leave_swept (s : Store) (a d : DocId) (account : AccountDoc) (now : Timestamp) :
    (s.leave a d account now).dropDevice a d = s.leave a d account now := by
  refine Store.ext_lookup (fun _ => by simp [Store.leave]) (fun a' d' => ?_) (fun _ => by simp [Store.leave])
  simp only [Store.leave, Store.device_dropDevice, Store.device_putAccount]
  split <;> rfl

/-- Sweeping an account whose last device left is sweeping the account. -/
theorem leaveLast_swept (s : Store) (a d : DocId) : (s.leaveLast a d).sweepAccount a = s.sweepAccount a := by
  refine Store.ext_lookup (fun a' => ?_) (fun a' d' => ?_) (fun _ => rfl)
  · simp only [Store.leaveLast, Store.account_sweepAccount, Store.account_dropAccount]
    split <;> rfl
  · by_cases h : a' = a
    · simp [h]
    · simp [h, Store.leaveLast]

/-- A sweep on the source side does not meet what the join wrote. -/
theorem joinTarget_sweepAccount (clock : JoinClock) (input : JoinNetworkInput) (token : JoinTokenDoc)
    (target : AccountDoc) (doc : DeviceDoc) (s : Store) {a : DocId} (h : a ≠ token.accountId) :
    (joinTarget clock input token target doc s).sweepAccount a =
      joinTarget clock input token target doc (s.sweepAccount a) := by
  refine Store.ext_lookup (fun a' => ?_) (fun a' d' => ?_) (fun _ => rfl)
  · by_cases ha : a' = a
    · simp [joinTarget, ha, h]
    · simp [joinTarget, ha]
  · by_cases ha : a' = a
    · simp [joinTarget, ha, h]
    · simp [joinTarget, ha]

theorem joinTarget_dropDevice (clock : JoinClock) (input : JoinNetworkInput) (token : JoinTokenDoc)
    (target : AccountDoc) (doc : DeviceDoc) (s : Store) {a : DocId} (d : DocId)
    (h : a ≠ token.accountId) :
    (joinTarget clock input token target doc s).dropDevice a d =
      joinTarget clock input token target doc (s.dropDevice a d) := by
  refine Store.ext_lookup (fun _ => by simp [joinTarget]) (fun a' d' => ?_) (fun _ => rfl)
  by_cases ha : a' = a
  · simp [joinTarget, ha, h]
  · simp [joinTarget, ha]

/-- A `removeDevice` call: nothing, one device gone, or the account gone. -/
theorem removeDeviceLogic_cases (now : Timestamp) (uid : DocId) (input : RemoveDeviceInput) (s : Store) :
    (removeDeviceLogic now .completes uid input s).2 = s ∨
      (∃ account, s.account uid = some account ∧ (s.device uid input.deviceId).isSome ∧
        1 < account.deviceCount ∧ (removeDeviceLogic now .completes uid input s).2 =
          s.leave uid input.deviceId account now) ∨
      (∃ account, s.account uid = some account ∧ (s.device uid input.deviceId).isSome ∧
        account.deviceCount ≤ 1 ∧ (removeDeviceLogic now .completes uid input s).2 =
          s.sweepAccount uid) := by
  unfold removeDeviceLogic
  rcases removeDeviceTx_cases now uid input s with ⟨e, h⟩ | ⟨account, ha, hd, hc, h⟩ | ⟨account, ha, hd, hc, h⟩
  · rw [h]
    exact .inl rfl
  · rw [h]
    exact .inr (.inl ⟨account, ha, hd, hc, leave_swept ..⟩)
  · rw [h]
    exact .inr (.inr ⟨account, ha, hd, hc, leaveLast_swept ..⟩)

/-- A `joinNetwork` call is accepted: Firestore carries it through and its guards
hold. -/
def JoinCommits (env : JoinEnv) (uid : DocId) (input : JoinNetworkInput) (s : Store) : Prop :=
  env.transaction = true ∧ JoinAccepts env.clock uid input s

/-- The device a join brings into the target, and the store it leaves behind on
the source side: one of several devices left, the last one left, or there was no
source account. -/
inductive JoinSource (now : Timestamp) (uid : DocId) (input : JoinNetworkInput) (s : Store) :
    DeviceDoc → Store → Prop where
  | survivor {account doc} : s.account uid = some account → s.device uid input.deviceId = some doc →
      1 < account.deviceCount → JoinSource now uid input s doc (s.leave uid input.deviceId account now)
  | last {account doc} : s.account uid = some account → s.device uid input.deviceId = some doc →
      account.deviceCount ≤ 1 → JoinSource now uid input s doc (s.sweepAccount uid)
  | welcome {newDevice} : s.account uid = none → input.newDevice = some newDevice →
      JoinSource now uid input s newDevice.deviceDoc s

/-- **A `joinNetwork` call**: nothing, or leave the source and enter the target. -/
theorem joinNetworkLogic_cases (env : JoinEnv) (uid : DocId) (input : JoinNetworkInput) (s : Store) :
    (¬ JoinCommits env uid input s ∧ (joinNetworkLogic env.swept uid input s).2 = s) ∨
    (JoinCommits env uid input s ∧
      ∃ token target doc left, JoinGuards env.clock uid input s token target ∧
        JoinSource env.clock.now uid input s doc left ∧
        (joinNetworkLogic env.swept uid input s).2 = joinTarget env.clock input token target doc left) := by
  by_cases ht : env.transaction = true
  · have hswept : env.swept.transaction = true := ht
    rcases joinNetworkTx_cases env.clock uid input s with ⟨hn, e, h⟩ | ⟨hacc, token, target, g, h⟩
    · exact .inl ⟨fun hc => hn hc.2, by rw [joinNetworkLogic_rejected hswept h]⟩
    · rcases h with ⟨account, doc, ha, hd, hc, h⟩ | ⟨account, doc, ha, hd, hc, h⟩ | ⟨nd, ha, hn, h⟩
      · refine .inr ⟨⟨ht, hacc⟩, token, target, doc, _, g, .survivor ha hd hc, ?_⟩
        rw [joinNetworkLogic_eq hswept h]
        exact (joinTarget_dropDevice _ _ _ _ _ _ _ g.notSelf).trans (congrArg _ (leave_swept ..))
      · refine .inr ⟨⟨ht, hacc⟩, token, target, doc, _, g, .last ha hd hc, ?_⟩
        rw [joinNetworkLogic_eq hswept h]
        exact (joinTarget_sweepAccount _ _ _ _ _ _ g.notSelf).trans (congrArg _ (leaveLast_swept ..))
      · refine .inr ⟨⟨ht, hacc⟩, token, target, _, _, g, .welcome ha hn, ?_⟩
        rw [joinNetworkLogic_eq hswept h]
        rfl
  · have hswept : ¬ env.swept.transaction = true := ht
    exact .inl ⟨fun hc => ht hc.1, by rw [joinNetworkLogic_aborted hswept]⟩

/-- A `deleteAccount` call sweeps the account, or finds none. -/
theorem deleteAccountLogic_cases' (uid : DocId) (s : Store) :
    (s.account uid = none ∧ (deleteAccountLogic .completes uid s).2 = s) ∨
      ((s.account uid).isSome ∧ (deleteAccountLogic .completes uid s).2 = s.sweepAccount uid) := by
  rcases deleteAccountLogic_cases .completes uid s with ⟨ha, h⟩ | ⟨ha, h⟩
  · exact .inl ⟨ha, by rw [h]⟩
  · exact .inr ⟨ha, h⟩

end MagicShare.Cloud
