import MagicShare.Cloud.Devices
import MagicShare.Cloud.RateLimit

/-! `transfer-notify.ts`: charging the sender's quota and notifying the target.

The quota is charged in a transaction; the message is sent after it commits. -/
namespace MagicShare.Cloud

inductive TransferKind where
  | file | text | url
  deriving DecidableEq

structure NotifyTransferIntentInput where
  sourceDeviceId : DocId
  targetDeviceId : DocId
  kind : TransferKind

inductive NotifyChannel where
  | fcm | none
  deriving DecidableEq

structure NotifyTransferIntentResult where
  delivered : Bool
  channel : NotifyChannel

def kindNoun : TransferKind → String
  | .file => "files"
  | .text => "a message"
  | .url => "a link"

def TransferKind.wire : TransferKind → String
  | .file => "file"
  | .text => "text"
  | .url => "url"

/-- The FCM message, less the fields that are the same in every message. -/
structure Message where
  token : String
  kind : String
  title : String
  body : String

def buildFcmMessage (token : String) (source : DeviceDoc) (kind : TransferKind) : Message :=
  let body :=
    if source.displayName.length > 0 then
      source.displayName ++ " wants to send you " ++ kindNoun kind ++ ". Tap to open MagicShare."
    else "Someone wants to send you " ++ kindNoun kind ++ ". Tap to open MagicShare."
  { token := token
    kind := kind.wire
    title := "MagicShare"
    body := body }

/-- What the transaction returns. -/
structure NotifyDecision where
  source : DeviceDoc
  target : DeviceDoc

def notifyTransferIntentBody (now : Timestamp) (callerUid : DocId) (input : NotifyTransferIntentInput)
    (s : Store) : Staged NotifyDecision :=
  match assertSameAccountTx callerUid input.sourceDeviceId s with
  | .error e => .error e
  | .ok source =>
    match assertSameAccountTx callerUid input.targetDeviceId s with
    | .error e => .error e
    | .ok target =>
      match consumeSendQuota source.recentSendsAt now with
      | .error e => .error e
      | .ok newQuota => .ok (⟨source, target⟩,
          [.updateDevice callerUid input.sourceDeviceId {recentSendsAt := some newQuota},
            .updateAccount callerUid {lastActiveAt := now}])

def notifyTransferIntentTx (now : Timestamp) (callerUid : DocId) (input : NotifyTransferIntentInput)
    (s : Store) : Except Rejection NotifyDecision × Store :=
  runTransaction (notifyTransferIntentBody now callerUid input) s

/-- What follows the commit; `messaging` says whether FCM takes the message. -/
def notifyDelivery (messaging : Message → Bool) (kind : TransferKind) (decision : NotifyDecision) :
    Except Rejection NotifyTransferIntentResult :=
  match decision.target.fcmToken with
  | none => .ok ⟨false, .none⟩
  | some token =>
    -- `!fcmToken` also takes the empty string.
    if token = "" then .ok ⟨false, .none⟩
    else if messaging (buildFcmMessage token decision.source kind) then .ok ⟨true, .fcm⟩
    else .error .messaging

/-- The whole call. -/
def notifyTransferIntentLogic (now : Timestamp) (messaging : Message → Bool) (callerUid : DocId)
    (input : NotifyTransferIntentInput) (s : Store) :
    Except Rejection NotifyTransferIntentResult × Store :=
  match notifyTransferIntentTx now callerUid input s with
  | (.error e, t) => (.error e, t)
  | (.ok decision, t) => (notifyDelivery messaging input.kind decision, t)

/-- Sending happens after the commit and writes nothing. -/
theorem notifyTransferIntentLogic_store (now : Timestamp) (messaging : Message → Bool)
    (callerUid : DocId) (input : NotifyTransferIntentInput) (s : Store) :
    (notifyTransferIntentLogic now messaging callerUid input s).2 =
      (notifyTransferIntentTx now callerUid input s).2 := by
  unfold notifyTransferIntentLogic
  rcases notifyTransferIntentTx now callerUid input s with ⟨_ | decision, t⟩ <;> rfl

/-- A notify rejects, or appends its time to the entries of the source's last
hour, of which there were fewer than 30, and touches the account. -/
theorem notifyTransferIntentTx_cases (now : Timestamp) (callerUid : DocId)
    (input : NotifyTransferIntentInput) (s : Store) :
    (∃ e, notifyTransferIntentTx now callerUid input s = (.error e, s)) ∨
      (∃ account source target, s.account callerUid = some account ∧
        s.device callerUid input.sourceDeviceId = some source ∧
        s.device callerUid input.targetDeviceId = some target ∧
        (trimmed source.recentSendsAt now).length < sendRateLimitPerHour ∧
        notifyTransferIntentTx now callerUid input s = (.ok ⟨source, target⟩,
          (s.putDevice callerUid input.sourceDeviceId
            {source with recentSendsAt := some (trimmed source.recentSendsAt now ++ [now])}).putAccount
              callerUid (account.touch now 0))) := by
  cases hs : s.device callerUid input.sourceDeviceId with
  | none =>
    have hb : notifyTransferIntentBody now callerUid input s =
        .error (.https .notFound "Device not found.") := by
      simp [notifyTransferIntentBody, assertSameAccountTx, hs]
    exact .inl ⟨_, Transaction.run_rejected hb⟩
  | some source =>
    cases ht : s.device callerUid input.targetDeviceId with
    | none =>
      have hb : notifyTransferIntentBody now callerUid input s =
          .error (.https .notFound "Device not found.") := by
        simp [notifyTransferIntentBody, assertSameAccountTx, hs, ht]
      exact .inl ⟨_, Transaction.run_rejected hb⟩
    | some target =>
      rcases consumeSendQuota_cases source.recentSendsAt now with ⟨_, e, hq⟩ | ⟨hlt, hq⟩
      · have hb : notifyTransferIntentBody now callerUid input s = .error e := by
          simp [notifyTransferIntentBody, assertSameAccountTx, hs, ht, hq]
        exact .inl ⟨_, Transaction.run_rejected hb⟩
      · have hb : notifyTransferIntentBody now callerUid input s = .ok (⟨source, target⟩,
            [.updateDevice callerUid input.sourceDeviceId
                {recentSendsAt := some (trimmed source.recentSendsAt now ++ [now])},
              .updateAccount callerUid {lastActiveAt := now}]) := by
          simp [notifyTransferIntentBody, assertSameAccountTx, hs, ht, hq]
        cases ha : s.account callerUid with
        | none =>
          refine .inl ⟨_, Transaction.run_refused hb ?_⟩
          rw [commit_updateDevice _ hs, Transaction.commit_cons]
          simp [Write.apply, ha]
        | some account =>
          refine .inr ⟨account, source, target, rfl, rfl, rfl, hlt, Transaction.run_committed hb ?_⟩
          rw [commit_updateDevice _ hs, commit_updateAccount _ (by simpa using ha)]
          rfl

end MagicShare.Cloud
