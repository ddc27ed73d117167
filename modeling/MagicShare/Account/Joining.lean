import MagicShare.Account.Bootstrap
import MagicShare.Pairing.HalfPaired

/-! The app while a device joins a group.

`completePairing` changes the signed-in user, the device id, the cloud and the group
key. What it changes, others watch: `CloudAuthService` the user, `CloudBootstrapService`
and `AccountRepository` the auth state, and the repository the account document of the
group that is left. They write the same places in turn, each between its own awaits. An
event is what one of them does up to its next await, one call in the cloud, or one
delivery. -/
namespace MagicShare.Account
open Cloud Pairing

/-! ### The auth service -/

inductive CloudAuthState where
  | idle | awaitingChoice | signingIn | failed
  | authenticated (uid : DocId)
  deriving DecidableEq

/-- `_handleUidChange`; `none` where it sets no state. -/
def CloudAuthState.onUidChange : CloudAuthState → Option DocId → Option CloudAuthState
  | _, some uid => some (.authenticated uid)
  | .signingIn, none => none
  | _, none => some .awaitingChoice

/-- The state `init` returns. -/
def CloudAuthState.init : Option DocId → CloudAuthState
  | some uid => .authenticated uid
  | none => .awaitingChoice

/-- The user of the state, as the repository sees it. -/
def CloudAuthState.uid : CloudAuthState → Option DocId
  | .authenticated uid => some uid
  | _ => none

/-! ### What the streams deliver -/

def docId? (id : String) : Option DocId :=
  if h : id ≠ "" ∧ '/' ∉ id.toList then some ⟨id, h.1, h.2⟩ else none

/-- The document at `accounts/{accountId}`. -/
def accountAt (cloud : Store) (accountId : String) : Option AccountDoc := (docId? accountId).bind cloud.account

/-- The documents below `accounts/{accountId}/devices`. -/
def devicesAt (cloud : Store) (accountId : String) : List CloudDevice :=
  ((docId? accountId).elim [] cloud.deviceIds).map fun deviceId => ⟨deviceId.val⟩

/-! ### Resets and pairing -/

/-- The await a `resetForExternalGroupDeletion` is suspended at. -/
inductive ResetPhase where
  | clearingGroupKey (call : Nat)
  | deletingCurrentUser
  | signingOut
  | finished
  deriving DecidableEq

/-- The await `completePairing` is suspended at, with what it still needs. -/
inductive PairingPhase where
  | uncalled
  | signingInAnonymously
  | probing
  | ensuringDeviceId (host : String)
  /-- `joinNetwork` is called. -/
  | joining (host : String) (deviceId : DocId)
  /-- Its transaction has committed, for this user. -/
  | sweeping (host : String) (deviceId uid : DocId) (decision : JoinDecision)
  | responding (host : String) (deviceId : DocId) (decision : JoinDecision)
  | exchangingKey (host : String) (deviceId : DocId) (result : JoinNetworkResult)
  | replacing (deviceId : DocId) (result : JoinNetworkResult) (key : List UInt8) (call : Nat)
  | deletingCurrentUser (deviceId : DocId) (result : JoinNetworkResult) (key : List UInt8)
  | signingInWithCustomToken (deviceId : DocId) (result : JoinNetworkResult) (key : List UInt8)
  | succeeded (deviceId : DocId) (result : JoinNetworkResult) (key : List UInt8)
  /-- No outcome where an exception escapes. -/
  | failed (outcome : Option PairingCompleteOutcome)

/-- What the client throws when a call rejects. -/
def clientFailure (run : CallRun) (e : Rejection) : CallFailure :=
  match run with
  | .answered => .cloudException (cloudErrorCode e)
  | .unsent failure | .lost failure => failure

/-- What the client makes of the answer of a call that arrived. -/
def clientAnswer {α : Type} (run : CallRun) : Except Rejection α → Except CallFailure α
  | .error e => .error (clientFailure run e)
  | .ok a =>
    match run with
    | .answered => .ok a
    | .unsent failure | .lost failure => .error failure

/-- The outcome of a call that failed. -/
def callOutcome : CallFailure → Option PairingCompleteOutcome
  | .cloudException code => some (.cloudFailure (classifyCloudError code))
  | .other => none

/-- The host of the handshake where it needs no new race. -/
def previewHost (r : PairingRequest) : Option String :=
  r.reachableHost.filter (· ∈ r.payload.issuerLanAddresses)

/-- `peekDeviceId`. -/
def peekDeviceId (identity : DeviceIdentityService) : Option DocId := identity.cached.or identity.stored

/-! ### State -/

structure JoiningApp where
  /-- The cloud, the group key, the repository and the bootstraps. -/
  services : BootstrapRun AccountDoc
  /-- What the cloud was before, the oldest first. -/
  versions : List Store := []
  /-- The versions each account listener has been given. -/
  accountsDelivered : List (Nat × Nat) := []
  devicesDelivered : List (Nat × Nat) := []
  currentUser : Option DocId
  /-- Changes of the user that `CloudAuthService` has not heard of. -/
  userIdChanges : List (Option DocId) := []
  authState : CloudAuthState
  /-- Auth states on their way to the repository. -/
  repositoryNotices : List CloudAuthState := []
  /-- Auth states on their way to the bootstrap service. -/
  bootstrapNotices : List CloudAuthState
  identity : DeviceIdentityService
  resets : List ResetPhase := []
  pairing : PairingPhase := .uncalled

inductive JoiningEvent where
  /-- The user pairs. -/
  | completePairing
  /-- `completePairing` goes on after its await, or its call runs. -/
  | proceed
  /-- Firebase emits the user once more. -/
  | userIdEmitted
  | uidChange
  | repositoryHears
  /-- `adopts` says whether a fingerprint is known for an adoption pass. -/
  | bootstrapHears (adopts : Bool)
  | keyTakesEffect (call : Nat)
  | keyResumes (call : Nat)
  | repositoryResumes (task : Nat)
  | deviceIdResolved (task : Nat) (written : Bool) (fresh : DocId)
  | accountSnapshot (attachment version : Nat)
  | deviceSnapshot (attachment version : Nat)
  | accountError (attachment : Nat)
  | devicesError (attachment : Nat)
  | bootstrapResumes (bootstrap : Nat) (adopts : Bool)
  /-- The adoption pass is over, with the id it has found. -/
  | adopted (bootstrap : Nat) (existing : Option DocId)
  | deviceIdEnsured (bootstrap : Nat) (written : Bool) (fresh : DocId)
  | createAccount (bootstrap : Nat) (now : Timestamp)
  | answered (bootstrap : Nat) (key : List UInt8)
  | groupKeyEnsured (bootstrap : Nat)
  | registerDevice (bootstrap : Nat) (now : Timestamp) (input : RegisterDeviceInput) (answered : Bool)
  | callFails (bootstrap : Nat)
  | resetProceeds (reset : Nat) (succeeds : Bool)

namespace JoiningApp

/-- The app at its launch, with this cloud, key slot, auth user and device id slot. -/
def launch (cloud : Store) (stored : Option KeyText) (user deviceId : Option DocId) : JoiningApp where
  services := (bootstrapping AccountDoc cloud stored (user.map DocId.val)).init
  currentUser := user
  authState := .init user
  bootstrapNotices := [.init user]
  identity := ⟨none, deviceId⟩

/-! ### Steps of the services -/

def withServices (s : JoiningApp) (services : BootstrapRun AccountDoc) : JoiningApp :=
  {s with
    services := services
    versions := s.versions ++ [s.services.cloud]}

def withCloud (s : JoiningApp) (cloud : Store) : JoiningApp := s.withServices {s.services with cloud := cloud}

/-- A call of the group key service starts. -/
def startKeyCall (s : JoiningApp) (operation : KeyOperation) : JoiningApp :=
  s.withServices {s.services with keys := s.services.keys.start operation}

def serve (s : JoiningApp) (e : BootstrapEvent AccountDoc) : Option JoiningApp :=
  (s.services.step e).map s.withServices

/-- The cloud at a version, up to the present. -/
def version? (s : JoiningApp) (version : Nat) : Option Store := (s.versions ++ [s.services.cloud])[version]?

/-! ### The user -/

def changeUser (s : JoiningApp) (user : Option DocId) : JoiningApp :=
  {s with
    currentUser := user
    userIdChanges := s.userIdChanges ++ [user]}

/-- The user is deleted or signed out, if there is one. -/
def removeUser (s : JoiningApp) : JoiningApp :=
  match s.currentUser with
  | some _ => s.changeUser none
  | none => s

def setAuthState (s : JoiningApp) (state : CloudAuthState) : JoiningApp :=
  {s with
    authState := state
    repositoryNotices := s.repositoryNotices ++ [state]
    bootstrapNotices := s.bootstrapNotices ++ [state]}

def uidChange (s : JoiningApp) : Option JoiningApp :=
  match s.userIdChanges with
  | uid :: rest =>
    match s.authState.onUidChange uid with
    | some state => some ({s with userIdChanges := rest}.setAuthState state)
    | none => some {s with userIdChanges := rest}
  | [] => none

/-- `_onAuthStateChanged` of the repository. -/
def repositoryHears (s : JoiningApp) : Option JoiningApp :=
  match s.repositoryNotices with
  | state :: rest => {s with repositoryNotices := rest}.serve (.repository (.authState (state.uid.map DocId.val)))
  | [] => none

/-- The auth listener of the bootstrap service. -/
def bootstrapHears (s : JoiningApp) (adopts : Bool) : Option JoiningApp :=
  match s.bootstrapNotices with
  | .authenticated uid :: rest =>
    {s with bootstrapNotices := rest}.serve (.runBootstrap uid (adopts && (peekDeviceId s.identity).isNone))
  | _ :: rest => some {s with bootstrapNotices := rest}
  | [] => none

/-! ### The device id -/

/-- A caller of `ensureDeviceId` gets the id, or the exception of the storage. -/
def ensureDeviceId (s : JoiningApp) (written : Bool) (fresh : DocId) : Option DocId × JoiningApp :=
  match s.identity.ensureDeviceId written fresh with
  | some (deviceId, identity) => (some deviceId, {s with identity := identity})
  | none => (none, s)

/-- `adoptDeviceId` with what the adoption pass has found. -/
def adoptDeviceId (s : JoiningApp) : Option DocId → JoiningApp
  | some existing => {s with identity := ⟨some existing, some existing⟩}
  | none => s

/-- A call of the group key service goes on. A `clear` does so with `_clearDeviceId`,
which empties the slot and not the id in memory. -/
def keyResumes (s : JoiningApp) (call : Nat) : Option JoiningApp :=
  (s.serve (.keys (.resume call))).map fun t =>
    if (t.services.keys.calls[call]?).map KeyCall.phase = some .clearingDeviceId then
      {t with identity := {t.identity with stored := none}}
    else t

/-! ### The account document and its reset -/

def resetForExternalGroupDeletion (s : JoiningApp) : JoiningApp :=
  {s.startKeyCall .clear with resets := s.resets ++ [.clearingGroupKey s.services.keys.calls.length]}

/-- A listener is given a version no older than the ones before, and calls
`onAccountVanished` where the repository does. -/
def accountSnapshot (s : JoiningApp) (attachment version : Nat) : Option JoiningApp :=
  match s.services.repository.attachments[attachment]?, s.version? version with
  | some a, some cloud =>
    if ∀ p ∈ s.accountsDelivered, p.1 = attachment → p.2 ≤ version then
      (s.serve (.repository (.accountSnapshot attachment (accountAt cloud a.accountId)))).map fun t =>
        let t := {t with accountsDelivered := t.accountsDelivered ++ [(attachment, version)]}
        if s.services.repository.vanished.length < t.services.repository.vanished.length then
          t.resetForExternalGroupDeletion
        else t
    else none
  | _, _ => none

def deviceSnapshot (s : JoiningApp) (attachment version : Nat) : Option JoiningApp :=
  match s.services.repository.attachments[attachment]?, s.version? version with
  | some a, some cloud =>
    if ∀ p ∈ s.devicesDelivered, p.1 = attachment → p.2 ≤ version then
      (s.serve (.repository (.deviceSnapshot attachment (devicesAt cloud a.accountId)))).map fun t =>
        {t with devicesDelivered := t.devicesDelivered ++ [(attachment, version)]}
    else none
  | _, _ => none

def setReset (s : JoiningApp) (reset : Nat) (phase : ResetPhase) : JoiningApp :=
  {s with resets := s.resets.set reset phase}

/-- `_resetLocalState` goes on: `clear`, then `deleteAndReset`. -/
def resetProceeds (s : JoiningApp) (reset : Nat) (succeeds : Bool) : Option JoiningApp :=
  match s.resets[reset]? with
  | some (.clearingGroupKey call) =>
    if (s.services.keys.calls[call]?).map KeyCall.phase = some .finished then
      some (s.setReset reset .deletingCurrentUser)
    else none
  | some .deletingCurrentUser =>
    if succeeds then some (s.removeUser.setReset reset .finished) else some (s.setReset reset .signingOut)
  | some .signingOut =>
    if succeeds then some (s.removeUser.setReset reset .finished)
    else some ((s.setAuthState .failed).setReset reset .finished)
  | some .finished | none => none

/-! ### Pairing -/

section
variable (env : PairingEnv) (r : PairingRequest)

def fail (s : JoiningApp) (outcome : Option PairingCompleteOutcome) : JoiningApp := {s with pairing := .failed outcome}

/-- `joinNetwork` has rejected. -/
def rejected (s : JoiningApp) (e : Rejection) : JoiningApp := s.fail (callOutcome (clientFailure env.call e))

/-- From the signed-in user to the next await. -/
def resolveHost (s : JoiningApp) : JoiningApp :=
  match previewHost r with
  | some host => {s with pairing := .ensuringDeviceId host}
  | none => {s with pairing := .probing}

def completePairing (s : JoiningApp) : Option JoiningApp :=
  match s.pairing with
  | .uncalled =>
    if s.currentUser.isNone then some {s with pairing := .signingInAnonymously} else some (s.resolveHost r)
  | _ => none

/-- `joinNetwork` runs up to the end of its transaction. -/
def joinNetwork (s : JoiningApp) (host : String) (deviceId : DocId) : JoiningApp :=
  match env.call, s.currentUser with
  | .unsent failure, _ => s.fail (callOutcome failure)
  | _, none => s.rejected env (.https .unauthenticated "Caller must be signed in.")
  | _, some uid =>
    match parseJoinNetworkInput r.payload.tokenId deviceId r.newDeviceIdentity with
    | .error e => s.rejected env e
    | .ok input =>
      if env.join.transaction then
        match joinNetworkTx env.join.clock uid input s.services.cloud with
        | (.error e, cloud) => (s.withCloud cloud).rejected env e
        | (.ok decision, cloud) => {s.withCloud cloud with pairing := .sweeping host deviceId uid decision}
      else s.rejected env .aborted

def proceed (s : JoiningApp) : Option JoiningApp :=
  match s.pairing with
  | .uncalled | .succeeded _ _ _ | .failed _ => none
  | .signingInAnonymously =>
    match env.signInAnonymously with
    | none => some (s.fail (some .authFailure))
    | some uid => some ((s.changeUser (some uid)).resolveHost r)
  | .probing =>
    match env.lanReachabilityProbe r.payload.issuerLanAddresses r.payload.issuerLanPort with
    | none => some (s.fail (some (.lanHandshakeFailure .transport)))
    | some host => some {s with pairing := .ensuringDeviceId host}
  | .ensuringDeviceId host =>
    match s.ensureDeviceId env.deviceIdWritten env.freshDeviceId with
    | (none, s) => some (s.fail (some .unknownFailure))
    | (some deviceId, s) => some {s with pairing := .joining host deviceId}
  | .joining host deviceId => some (s.joinNetwork env r host deviceId)
  | .sweeping host deviceId uid decision =>
    match joinSweep env.join.sweep uid deviceId decision s.services.cloud with
    | (.error e, cloud) => some ((s.withCloud cloud).rejected env e)
    | (.ok _, cloud) => some {s.withCloud cloud with pairing := .responding host deviceId decision}
  | .responding host deviceId decision =>
    match clientAnswer env.call (joinResponse env.join decision s.services.cloud) with
    | .error failure => some (s.fail (callOutcome failure))
    | .ok result => some {s with pairing := .exchangingKey host deviceId result}
  | .exchangingKey host deviceId result =>
    match receiveKey env r host with
    | .error outcome => some (s.fail (some outcome))
    | .ok key =>
      if key.length ≠ groupKeyLengthBytes ∨ env.groupKeyWritten = false then some (s.fail (some .unknownFailure))
      else
        some {s.startKeyCall (.replace key) with
          pairing := .replacing deviceId result key s.services.keys.calls.length}
  | .replacing deviceId result key call =>
    if (s.services.keys.calls[call]?).map KeyCall.phase = some .finished then
      some {s with pairing := .deletingCurrentUser deviceId result key}
    else none
  | .deletingCurrentUser deviceId result key =>
    -- a user that cannot be deleted is replaced all the same
    some {(if env.deleteCurrentUser then s.removeUser else s) with
      pairing := .signingInWithCustomToken deviceId result key}
  | .signingInWithCustomToken deviceId result key =>
    match env.signInWithCustomToken result.customToken with
    | none => some (s.fail (some .authFailure))
    | some uid => some {s.changeUser (some uid) with pairing := .succeeded deviceId result key}

def step (s : JoiningApp) : JoiningEvent → Option JoiningApp
  | .completePairing => s.completePairing r
  | .proceed => s.proceed env r
  | .userIdEmitted => some (s.changeUser s.currentUser)
  | .uidChange => s.uidChange
  | .repositoryHears => s.repositoryHears
  | .bootstrapHears adopts => s.bootstrapHears adopts
  | .keyTakesEffect call => s.serve (.keys (.takeEffect call))
  | .keyResumes call => s.keyResumes call
  | .repositoryResumes task => s.serve (.repository (.resume task))
  | .deviceIdResolved task written fresh =>
    match s.ensureDeviceId written fresh with
    | (deviceId, s) => s.serve (.repository (.deviceIdResolved task (deviceId.map DocId.val)))
  | .accountSnapshot attachment version => s.accountSnapshot attachment version
  | .deviceSnapshot attachment version => s.deviceSnapshot attachment version
  | .accountError attachment => s.serve (.repository (.accountError attachment))
  | .devicesError attachment => s.serve (.repository (.devicesError attachment))
  | .bootstrapResumes bootstrap adopts =>
    s.serve (.resume bootstrap (adopts && (peekDeviceId s.identity).isNone))
  | .adopted bootstrap existing => (s.adoptDeviceId existing).serve (.adopted bootstrap)
  | .deviceIdEnsured bootstrap written fresh =>
    match s.ensureDeviceId written fresh with
    | (deviceId, s) => s.serve (.deviceIdEnsured bootstrap deviceId)
  | .createAccount bootstrap now =>
    match s.currentUser with
    | some caller => s.serve (.createAccount bootstrap caller now)
    | none => none
  | .answered bootstrap key => s.serve (.answered bootstrap key)
  | .groupKeyEnsured bootstrap => s.serve (.groupKeyEnsured bootstrap)
  | .registerDevice bootstrap now input answered =>
    match s.currentUser with
    | some caller => s.serve (.registerDevice bootstrap caller now input answered)
    | none => none
  | .callFails bootstrap => s.serve (.callFails bootstrap)
  | .resetProceeds reset succeeds => s.resetProceeds reset succeeds

end

/-! ### Rest -/

/-- Nothing is under way, and every account listener has been given the present document. -/
def Quiescent (s : JoiningApp) : Prop :=
  s.userIdChanges = [] ∧ s.repositoryNotices = [] ∧ s.bootstrapNotices = [] ∧
    (∀ c ∈ s.services.keys.calls, c.phase = .finished) ∧
    (∀ task ∈ s.services.repository.tasks, task.phase = .finished) ∧
    (∀ b ∈ s.services.bootstraps, b.phase = .finished) ∧
    (∀ phase ∈ s.resets, phase = .finished) ∧
    ∀ a ∈ s.services.repository.attachments, a.accountLive = true →
      a.accountSnapshots.getLast? = some (accountAt s.services.cloud a.accountId)

instance (s : JoiningApp) : Decidable s.Quiescent :=
  inferInstanceAs (Decidable (_ ∧ _ ∧ _ ∧ _ ∧ _ ∧ _ ∧ _ ∧ _))

end JoiningApp

/-- The app from this state on. -/
def joining (env : PairingEnv) (r : PairingRequest) (s : JoiningApp) : Transition.System JoiningApp JoiningEvent where
  init := s
  step := JoiningApp.step env r

end MagicShare.Account
