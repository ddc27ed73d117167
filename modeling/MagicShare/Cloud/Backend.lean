import Mathlib.Logic.Function.Basic
import MagicShare.Cloud.Calls
import MagicShare.Cloud.Scheduled

/-! The backend as its clients see it.

A client is signed in as one user or not at all. It calls the callables, which run with
the rights of the server and for the user that `requireAuth` finds (`auth.ts`), and it
reads documents, which the security rules allow or not (`firestore.rules`). A join makes
a custom token for the target account; signing in with it is how a client becomes a
member of another group. -/
namespace MagicShare.Cloud

/-! ### The security rules -/

/-- A path the rules match. -/
inductive RulePath where
  | account (accountId : DocId)
  | device (accountId deviceId : DocId)
  /-- A query for the documents of the subcollection. -/
  | devices (accountId : DocId)
  | joinToken (tokenId : DocId)

inductive RuleOperation where
  | read | write
  deriving DecidableEq

/-- `firestore.rules`. -/
def allowed (auth : Option DocId) (operation : RuleOperation) : RulePath → Bool
  | .account accountId | .device accountId _ | .devices accountId =>
    match operation with
    | .read => auth = some accountId
    | .write => false
  | .joinToken _ => false

/-- The path a write is for. -/
def Write.path : Write → RulePath
  | .setAccount a _ | .updateAccount a _ | .deleteAccount a => .account a
  | .setDevice a d _ | .updateDevice a d _ | .deleteDevice a d => .device a d
  | .consumeToken k _ => .joinToken k

/-! ### Requests and answers -/

/-- The user a call is for. -/
def Call.uid : Call → DocId
  | .createAccount _ uid => uid
  | .registerDevice _ uid _ => uid
  | .renameDevice _ uid _ => uid
  | .setDeviceIcon _ uid _ => uid
  | .removeDevice _ uid _ => uid
  | .createJoinToken _ _ uid _ => uid
  | .joinNetwork _ uid _ => uid
  | .notifyTransferIntent _ _ uid _ => uid
  | .deleteAccount uid => uid

/-- What a client asks for. -/
inductive Request where
  /-- A callable; `r` is how a `recursiveDelete` of it goes. -/
  | call (r : SweepRun) (call : Call)
  | previewJoinToken (dateNow : Timestamp) (localeLe : String → String → Bool) (tokenId : DocId)
  | read (path : RulePath)
  | write (write : Write)

inductive Answer where
  | unauthenticated
  | permissionDenied
  | createAccount (result : Except Rejection CreateAccountResult)
  | registerDevice (result : Except Rejection RegisterDeviceResult)
  | patchDevice (result : Except Rejection Unit)
  | removeDevice (result : Except Rejection RemoveDeviceResult)
  | createJoinToken (result : Except Rejection CreateJoinTokenResult)
  | previewJoinToken (result : Except Rejection PreviewJoinTokenResult)
  | joinNetwork (result : Except Rejection JoinNetworkResult)
  /-- With the message that FCM was given. -/
  | notifyTransferIntent (result : Except Rejection NotifyTransferIntentResult) (message : Option Message)
  | deleteAccount (result : Except Rejection DeleteAccountResult)
  | account (doc : Option AccountDoc)
  | device (doc : Option DeviceDoc)
  | joinToken (doc : Option JoinTokenDoc)
  | devices (docs : List (DocId × DeviceDoc))
  | written

/-- The message `notifyTransferIntent` gives to FCM once its transaction is through. -/
def notifyMessage (kind : TransferKind) (decision : NotifyDecision) : Option Message :=
  match decision.target.fcmToken with
  | none => none
  | some token => if token = "" then none else some (buildFcmMessage token decision.source kind)

/-- The documents under `accounts/{accountId}/devices`. -/
def Store.deviceDocs (s : Store) (accountId : DocId) : List (DocId × DeviceDoc) :=
  (s.deviceIds accountId).filterMap fun d => (s.device accountId d).map (d, ·)

/-- What is at a path. -/
def Store.read (s : Store) : RulePath → Answer
  | .account a => .account (s.account a)
  | .device a d => .device (s.device a d)
  | .devices a => .devices (s.deviceDocs a)
  | .joinToken k => .joinToken (s.token k)

/-- A call, its answer and the store after it. -/
def Call.perform (r : SweepRun) : Call → Store → Answer × Store
  | .createAccount now uid, s => (createAccountLogic now uid s).map .createAccount id
  | .registerDevice now uid input, s => (registerDeviceLogic now uid input s).map .registerDevice id
  | .renameDevice now uid input, s => (renameDeviceLogic now uid input s).map .patchDevice id
  | .setDeviceIcon now uid input, s => (setDeviceIconLogic now uid input s).map .patchDevice id
  | .removeDevice now uid input, s => (removeDeviceLogic now r uid input s).map .removeDevice id
  | .createJoinToken now tokenId uid input, s => (createJoinTokenLogic now tokenId uid input s).map .createJoinToken id
  | .joinNetwork env uid input, s => (joinNetworkLogic env uid input s).map .joinNetwork id
  | .notifyTransferIntent now messaging uid input, s =>
    (notifyTransferIntentLogic now messaging uid input s).map
      (.notifyTransferIntent · ((notifyTransferIntentTx now uid input s).1.toOption.bind (notifyMessage input.kind))) id
  | .deleteAccount uid, s => (deleteAccountLogic r uid s).map .deleteAccount id

/-! ### The clients -/

variable {ι : Type} [DecidableEq ι]

structure Backend (ι : Type) where
  store : Store := .empty
  /-- Who is signed in on each client. -/
  session : ι → Option DocId := fun _ => none
  /-- The custom tokens each client was answered, and whom they sign in. -/
  customTokens : ι → List (String × DocId) := fun _ => []
  /-- The users there have been. -/
  uids : List DocId := []

inductive BackendEvent (ι : Type) where
  | signInAnonymously (c : ι) (uid : DocId)
  | signInWithCustomToken (c : ι) (customToken : String)
  /-- The user is deleted or signed out. -/
  | signOut (c : ι)
  | request (c : ι) (r : Request)
  | cleanupExpiredJoinTokens (now : Timestamp)
  | cleanupInactiveAccounts (now : Timestamp)

namespace Backend

/-- The answer to a request, and the store after it. -/
def respond (s : Backend ι) (c : ι) : Request → Answer × Store
  | .call r call =>
    match s.session c with
    | none => (.unauthenticated, s.store)
    | some _ => call.perform r s.store
  | .previewJoinToken dateNow localeLe tokenId =>
    match s.session c with
    | none => (.unauthenticated, s.store)
    | some _ => (.previewJoinToken (previewJoinTokenLogic dateNow localeLe tokenId s.store), s.store)
  | .read path =>
    if allowed (s.session c) .read path then (s.store.read path, s.store) else (.permissionDenied, s.store)
  | .write write =>
    if allowed (s.session c) .write write.path then (.written, (write.apply s.store).getD s.store)
    else (.permissionDenied, s.store)

/-- The custom token of an answer, with the account it was minted for. -/
def mintedBy : Answer → List (String × DocId)
  | .joinNetwork (.ok result) => [(result.customToken, result.accountId)]
  | _ => []

/-- A call is for the user who is signed in. -/
def callsFor (s : Backend ι) (c : ι) : Request → Prop
  | .call _ call => ∀ uid, s.session c = some uid → call.uid = uid
  | _ => True

instance (s : Backend ι) (c : ι) (r : Request) : Decidable (s.callsFor c r) :=
  match r with
  | .call _ call =>
    match h : s.session c with
    | none => .isTrue fun uid hu => by rw [h] at hu; cases hu
    | some uid => decidable_of_iff (call.uid = uid)
        ⟨fun heq uid' hu => by rw [h] at hu; exact heq.trans (Option.some.inj hu), fun hall => hall uid h⟩
  | .previewJoinToken .. | .read _ | .write _ => .isTrue trivial

def step (s : Backend ι) : BackendEvent ι → Option (Backend ι)
  | .signInAnonymously c uid =>
    if s.session c = none ∧ uid ∉ s.uids then
      some {s with session := Function.update s.session c (some uid), uids := uid :: s.uids}
    else none
  | .signInWithCustomToken c customToken =>
    match (s.customTokens c).lookup customToken with
    | none => some s
    | some uid => some {s with session := Function.update s.session c (some uid)}
  | .signOut c => some {s with session := Function.update s.session c none}
  | .request c r =>
    if s.callsFor c r then
      some {s with
        store := (s.respond c r).2
        customTokens := Function.update s.customTokens c (mintedBy (s.respond c r).1 ++ s.customTokens c)}
    else none
  | .cleanupExpiredJoinTokens now => some {s with store := (cleanupExpiredJoinTokensLogic now s.store).2}
  | .cleanupInactiveAccounts now =>
    some {s with store := (cleanupInactiveAccountsLogic (fun _ => .completes) now s.store).2}

/-- What an event tells its client. -/
def answer (s : Backend ι) : BackendEvent ι → Option Answer
  | .request c r => some (s.respond c r).1
  | _ => none

end Backend

/-- The backend and its clients. -/
def backend (ι : Type) [DecidableEq ι] : Transition.System (Backend ι) (BackendEvent ι) where
  init := {}
  step := Backend.step

end MagicShare.Cloud
