import MagicShare.Cloud.Pairing
import MagicShare.Cloud.TransferNotify

/-! The transactions of the callables, apart from what follows them.

A `Tx` is one `runTransaction` of one callable. It commits or rejects at one
point in time; the document on which the callable calls `recursiveDelete`
afterwards is reported, for whoever interleaves the two with other transactions.
`TxEffect` says once what a transaction can do. -/
namespace MagicShare.Cloud

inductive Tx where
  | createAccount (now : Timestamp) (uid : DocId)
  | registerDevice (now : Timestamp) (uid : DocId) (input : RegisterDeviceInput)
  | renameDevice (now : Timestamp) (uid : DocId) (input : RenameDeviceInput)
  | setDeviceIcon (now : Timestamp) (uid : DocId) (input : SetDeviceIconInput)
  | removeDevice (now : Timestamp) (uid : DocId) (input : RemoveDeviceInput)
  | joinNetwork (clock : JoinClock) (uid : DocId) (input : JoinNetworkInput)
  | notifyTransferIntent (now : Timestamp) (uid : DocId) (input : NotifyTransferIntentInput)

/-- A document reference: `accounts/{a}` or `accounts/{a}/devices/{d}`. -/
inductive DocRef where
  | account (a : DocId)
  | device (a d : DocId)
  deriving DecidableEq

def RemoveDeviceResult.sweep (result : RemoveDeviceResult) (uid d : DocId) : DocRef :=
  if result.accountDeleted then .account uid else .device uid d

def JoinDecision.sweep (decision : JoinDecision) (sourceUid d : DocId) : Option DocRef :=
  if decision.hadSourceAccount then
    some (if decision.oldAccountDeleted then .account sourceUid else .device sourceUid d)
  else none

/-- The transaction against a store: the sweep it calls for, or its rejection. -/
def Tx.run : Tx → Store → Except Rejection (Option DocRef) × Store
  | .createAccount now uid, s => (createAccountLogic now uid s).map (·.map fun _ => none) id
  | .registerDevice now uid input, s => (registerDeviceLogic now uid input s).map (·.map fun _ => none) id
  | .renameDevice now uid input, s => (renameDeviceLogic now uid input s).map (·.map fun _ => none) id
  | .setDeviceIcon now uid input, s => (setDeviceIconLogic now uid input s).map (·.map fun _ => none) id
  | .removeDevice now uid input, s =>
    (removeDeviceTx now uid input s).map (·.map fun result => some (result.sweep uid input.deviceId)) id
  | .joinNetwork clock uid input, s =>
    (joinNetworkTx clock uid input s).map (·.map fun decision => decision.sweep uid input.deviceId) id
  | .notifyTransferIntent now uid input, s =>
    (notifyTransferIntentTx now uid input s).map (·.map fun _ => none) id

def Staged.writes {α : Type} : Staged α → List Write
  | .ok (_, writes) => writes
  | .error _ => []

/-- The document a write puts there, if it puts one. -/
def Write.puts : Write → Option DocRef
  | .setAccount a _ | .updateAccount a _ => some (.account a)
  | .setDevice a d _ | .updateDevice a d _ => some (.device a d)
  | .deleteAccount _ | .deleteDevice _ _ | .consumeToken _ _ => none

/-- The writes the transaction's body stages. -/
def Tx.writes : Tx → Store → List Write
  | .createAccount now uid, s => (createAccountBody now uid s).writes
  | .registerDevice now uid input, s => (registerDeviceBody now uid input s).writes
  | .renameDevice now uid input, s =>
    (patchDeviceFieldBody now uid input.deviceId {displayName := some input.displayName} s).writes
  | .setDeviceIcon now uid input, s =>
    (patchDeviceFieldBody now uid input.deviceId {icon := some input.icon} s).writes
  | .removeDevice now uid input, s => (removeDeviceBody now uid input s).writes
  | .joinNetwork clock uid input, s => (joinNetworkBody clock uid input s).writes
  | .notifyTransferIntent now uid input, s => (notifyTransferIntentBody now uid input s).writes

/-- The account and device documents it puts there. -/
def Tx.puts (tx : Tx) (s : Store) : List DocRef := (tx.writes s).filterMap Write.puts

/-- Whose account the transaction is run for. -/
def Tx.caller : Tx → DocId
  | .createAccount _ uid | .registerDevice _ uid _ | .renameDevice _ uid _ | .setDeviceIcon _ uid _
  | .removeDevice _ uid _ | .joinNetwork _ uid _ | .notifyTransferIntent _ uid _ => uid

/-- The device of the caller's account that a refresh, a patch or a charge
rewrites, and when. -/
def Tx.rewrites : Tx → Option (Timestamp × DocId)
  | .registerDevice now _ input => some (now, input.deviceId)
  | .renameDevice now _ input => some (now, input.deviceId)
  | .setDeviceIcon now _ input => some (now, input.deviceId)
  | .notifyTransferIntent now _ input => some (now, input.sourceDeviceId)
  | .createAccount _ _ | .removeDevice _ _ _ | .joinNetwork _ _ _ => none

/-- The source side of a join: the device it takes, the store it leaves, and the
sweep it calls for. -/
inductive JoinLeaves (now : Timestamp) (uid : DocId) (input : JoinNetworkInput) (s : Store) :
    DeviceDoc → Store → Option DocRef → Prop where
  | survivor {account doc} : s.account uid = some account → s.device uid input.deviceId = some doc →
      1 < account.deviceCount → JoinLeaves now uid input s doc
        (s.leave uid input.deviceId account now) (some (.device uid input.deviceId))
  | last {account doc} : s.account uid = some account → s.device uid input.deviceId = some doc →
      account.deviceCount ≤ 1 → JoinLeaves now uid input s doc
        (s.leaveLast uid input.deviceId) (some (.account uid))
  | welcome {newDevice} : s.account uid = none → input.newDevice = some newDevice →
      JoinLeaves now uid input s newDevice.deviceDoc s none

/-- What a transaction can do to a store. -/
inductive TxEffect (s : Store) : Tx → Except Rejection (Option DocRef) → Store → Prop where
  | rejected {tx e} : TxEffect s tx (.error e) s
  | existing {now uid} : (s.account uid).isSome → TxEffect s (.createAccount now uid) (.ok none) s
  | created {now uid} : s.account uid = none →
      TxEffect s (.createAccount now uid) (.ok none) (s.putAccount uid (newAccount now))
  | added {now uid input account} : s.account uid = some account → s.device uid input.deviceId = none →
      TxEffect s (.registerDevice now uid input) (.ok none)
        ((s.putDevice uid input.deviceId input.deviceDoc).putAccount uid (account.touch now 1))
  | rewritten {tx now d account doc v} : tx.rewrites = some (now, d) → s.account tx.caller = some account →
      s.device tx.caller d = some doc → TxEffect s tx (.ok none)
        ((s.putDevice tx.caller d v).putAccount tx.caller (account.touch now 0))
  | left {now uid input account} : s.account uid = some account →
      (s.device uid input.deviceId).isSome → 1 < account.deviceCount →
      TxEffect s (.removeDevice now uid input) (.ok (some (.device uid input.deviceId)))
        (s.leave uid input.deviceId account now)
  | leftLast {now uid input account} : s.account uid = some account →
      (s.device uid input.deviceId).isSome → account.deviceCount ≤ 1 →
      TxEffect s (.removeDevice now uid input) (.ok (some (.account uid)))
        (s.leaveLast uid input.deviceId)
  | joined {clock uid input token target doc left sweep} : JoinGuards clock uid input s token target →
      JoinLeaves clock.now uid input s doc left sweep →
      TxEffect s (.joinNetwork clock uid input) (.ok sweep) (joinTarget clock input token target doc left)

namespace TxEffect
variable (s : Store)

theorem of_create (now : Timestamp) (uid : DocId) :
    TxEffect s (.createAccount now uid) ((Tx.createAccount now uid).run s).1
      ((Tx.createAccount now uid).run s).2 := by
  simp only [Tx.run]
  rcases createAccountLogic_cases now uid s with ⟨ha, hr⟩ | ⟨ha, hr⟩
  · rw [hr]
    exact .existing ha
  · rw [hr]
    exact .created ha

theorem of_register (now : Timestamp) (uid : DocId) (input : RegisterDeviceInput) :
    TxEffect s (.registerDevice now uid input) ((Tx.registerDevice now uid input).run s).1
      ((Tx.registerDevice now uid input).run s).2 := by
  simp only [Tx.run]
  rcases registerDeviceLogic_cases now uid input s with
    ⟨_, e, hr⟩ | ⟨account, ha, hd, hr⟩ | ⟨account, doc, ha, hd, hr⟩
  · rw [hr]
    exact .rejected
  · rw [hr]
    exact .added ha hd
  · rw [hr]
    exact .rewritten rfl ha hd

/-- The two patch callables. -/
theorem of_patch {tx : Tx} {now : Timestamp} {deviceId : DocId} (htx : tx.rewrites = some (now, deviceId))
    (patch : DevicePatch) :
    TxEffect s tx ((patchDeviceField now tx.caller deviceId patch s).1.map fun _ => none)
      (patchDeviceField now tx.caller deviceId patch s).2 := by
  rcases patchDeviceField_cases now tx.caller deviceId patch s with ⟨e, hr⟩ | ⟨account, doc, ha, hd, hr⟩
  · rw [hr]
    exact .rejected
  · rw [hr]
    exact .rewritten htx ha hd

theorem of_remove (now : Timestamp) (uid : DocId) (input : RemoveDeviceInput) :
    TxEffect s (.removeDevice now uid input) ((Tx.removeDevice now uid input).run s).1
      ((Tx.removeDevice now uid input).run s).2 := by
  simp only [Tx.run]
  rcases removeDeviceTx_cases now uid input s with
    ⟨e, hr⟩ | ⟨account, ha, hd, hc, hr⟩ | ⟨account, ha, hd, hc, hr⟩
  · rw [hr]
    exact .rejected
  · rw [hr]
    exact .left ha hd hc
  · rw [hr]
    exact .leftLast ha hd hc

theorem of_join (clock : JoinClock) (uid : DocId) (input : JoinNetworkInput) :
    TxEffect s (.joinNetwork clock uid input) ((Tx.joinNetwork clock uid input).run s).1
      ((Tx.joinNetwork clock uid input).run s).2 := by
  simp only [Tx.run]
  rcases joinNetworkTx_cases clock uid input s with ⟨_, e, hr⟩ | ⟨_, token, target, g, hcases⟩
  · rw [hr]
    exact .rejected
  · rcases hcases with ⟨account, doc, ha, hd, hc, hr⟩ | ⟨account, doc, ha, hd, hc, hr⟩ | ⟨nd, ha, hn, hr⟩
    · rw [hr]
      exact .joined g (.survivor ha hd hc)
    · rw [hr]
      exact .joined g (.last ha hd hc)
    · rw [hr]
      exact .joined g (.welcome ha hn)

theorem of_notify (now : Timestamp) (uid : DocId) (input : NotifyTransferIntentInput) :
    TxEffect s (.notifyTransferIntent now uid input) ((Tx.notifyTransferIntent now uid input).run s).1
      ((Tx.notifyTransferIntent now uid input).run s).2 := by
  simp only [Tx.run]
  rcases notifyTransferIntentTx_cases now uid input s with
    ⟨e, hr⟩ | ⟨account, source, target, ha, hsrc, _, _, hr⟩
  · rw [hr]
    exact .rejected
  · rw [hr]
    exact .rewritten rfl ha hsrc

/-- **Every transaction does one of these things.** -/
theorem of_run (tx : Tx) : TxEffect s tx (tx.run s).1 (tx.run s).2 := by
  cases tx with
  | createAccount now uid => exact of_create s now uid
  | registerDevice now uid input => exact of_register s now uid input
  | renameDevice now uid input => exact of_patch s rfl _
  | setDeviceIcon now uid input => exact of_patch s rfl _
  | removeDevice now uid input => exact of_remove s now uid input
  | joinNetwork clock uid input => exact of_join s clock uid input
  | notifyTransferIntent now uid input => exact of_notify s now uid input

/-- A rejection has no effect. -/
theorem store_of_error {s t : Store} {tx : Tx} {e : Rejection} (h : TxEffect s tx (.error e) t) :
    t = s := by
  cases h
  rfl

end TxEffect

/-! ### What a commit can do to an account -/

/-- A transaction that went through committed the writes its body staged. -/
theorem committed_of_ok {α β : Type} {body : Store → Staged α} {s : Store} {f : α → β} {b : β}
    (h : ((runTransaction body s).map (·.map f) id).1 = .ok b) :
    Transaction.commit Write.apply (body s).writes s = some (runTransaction body s).2 := by
  rcases runTransaction_cases body s with ⟨e, hr⟩ | ⟨a, writes, t, hb, hc, hr⟩
  · rw [hr] at h
    cases h
  · rw [hr, hb]
    exact hc

theorem Tx.commit_of_ok {tx : Tx} {s : Store} {sweep : Option DocRef} (h : (tx.run s).1 = .ok sweep) :
    Transaction.commit Write.apply (tx.writes s) s = some (tx.run s).2 := by
  cases tx <;> exact committed_of_ok h

/-- The accounts whose document it writes; none if it is rejected. -/
def Tx.touched (tx : Tx) (s : Store) : List DocId :=
  match (tx.run s).1 with
  | .ok _ => (tx.puts s).filterMap fun ref =>
    match ref with
    | .account a => some a
    | .device _ _ => none
  | .error _ => []

/-- A write leaves an account alone, deletes it, or puts it. -/
theorem Write.account_of_apply {w : Write} {s t : Store} {a : DocId} (h : w.apply s = some t)
    (hw : w.puts ≠ some (.account a)) : t.account a = s.account a ∨ t.account a = none := by
  cases w with
  | setAccount b doc =>
    obtain rfl := Option.some.inj h
    have hne : a ≠ b := fun heq => hw (by rw [heq]; rfl)
    simp [hne]
  | updateAccount b patch =>
    obtain ⟨doc, _, rfl⟩ := Option.map_eq_some_iff.mp h
    have hne : a ≠ b := fun heq => hw (by rw [heq]; rfl)
    simp [hne]
  | deleteAccount b =>
    obtain rfl := Option.some.inj h
    rw [Store.account_dropAccount]
    split
    · exact .inr rfl
    · exact .inl rfl
  | setDevice b d doc =>
    obtain rfl := Option.some.inj h
    exact .inl rfl
  | updateDevice b d patch =>
    obtain ⟨doc, _, rfl⟩ := Option.map_eq_some_iff.mp h
    exact .inl rfl
  | deleteDevice b d =>
    obtain rfl := Option.some.inj h
    exact .inl rfl
  | consumeToken k now =>
    obtain ⟨doc, _, rfl⟩ := Option.map_eq_some_iff.mp h
    exact .inl rfl

theorem account_of_commit {writes : List Write} {s t : Store} {a : DocId}
    (h : Transaction.commit Write.apply writes s = some t)
    (hw : DocRef.account a ∉ writes.filterMap Write.puts) :
    t.account a = s.account a ∨ t.account a = none := by
  induction writes generalizing s with
  | nil =>
    obtain rfl := Option.some.inj h
    exact .inl rfl
  | cons w rest ih =>
    rw [Transaction.commit_cons] at h
    obtain ⟨u, hu, hrest⟩ := Option.bind_eq_some_iff.mp h
    simp only [List.mem_filterMap, List.mem_cons, not_exists, not_and] at hw
    have hfirst := Write.account_of_apply hu (hw w (.inl rfl))
    have hlater : DocRef.account a ∉ rest.filterMap Write.puts := by
      simp only [List.mem_filterMap, not_exists, not_and]
      exact fun v hv => hw v (.inr hv)
    rcases ih hrest hlater with hsame | hnone
    · rw [hsame]
      exact hfirst
    · exact .inr hnone

/-- **A transaction leaves every account it does not touch alone, or deletes
it.** -/
theorem Tx.account_untouched {tx : Tx} {s : Store} {a : DocId} (h : a ∉ tx.touched s) :
    (tx.run s).2.account a = s.account a ∨ (tx.run s).2.account a = none := by
  cases hr : (tx.run s).1 with
  | error e =>
    have heff := TxEffect.of_run s tx
    rw [hr] at heff
    exact .inl (by rw [heff.store_of_error])
  | ok sweep =>
    refine account_of_commit (Tx.commit_of_ok hr) fun hmem => h ?_
    simp only [Tx.touched, hr, List.mem_filterMap]
    exact ⟨_, hmem, rfl⟩

end MagicShare.Cloud
