import MagicShare.Pairing.Services

/-! `completePairing` (`pairing_join_service.dart`).

The pipeline writes three stores one after the other: the cloud (`joinNetwork`),
the group key, and the signed-in user. It stops at the first step that fails and
takes nothing back. -/
namespace MagicShare.Pairing
open Cloud

inductive PairingCloudFailureReason where
  | notFound | expiredOrConsumed | unauthorized | unknown
  deriving DecidableEq

def classifyCloudError : CloudErrorCode → PairingCloudFailureReason
  | .notFound => .notFound
  | .failedPrecondition => .expiredOrConsumed
  | .unauthenticated => .unauthorized
  | .invalidArgument | .resourceExhausted | .unknown => .unknown

inductive PairingCompleteOutcome where
  | success (newAccountId : DocId)
  | cloudFailure (reason : PairingCloudFailureReason)
  | lanHandshakeFailure (error : PairingLanClientError)
  | authFailure
  | unknownFailure
  deriving DecidableEq

/-- What pairing reads and writes: the cloud, and on the device the group key, the
signed-in user and the device id. -/
structure PairingState where
  cloud : Store
  groupKey : GroupKeyService
  uid : Option DocId
  identity : DeviceIdentityService

/-- How the steps of one `completePairing` go. -/
structure PairingEnv where
  /-- The new user, or a failure. -/
  signInAnonymously : Option DocId
  lanReachabilityProbe : List String → Int → Option String
  freshDeviceId : DocId
  deviceIdWritten : Bool := true
  call : CallRun := .answered
  join : JoinEnv
  onCurve : List UInt8 → Bool
  /-- The cipher under the key the joiner's fresh key pair makes with a public key. -/
  gcm : ECPublicKey → List UInt8 → Option (List UInt8)
  /-- What a host, a port and a token get for an answer. -/
  lan : String → Int → String → LanAnswer
  groupKeyWritten : Bool := true
  deleteCurrentUser : Bool := true
  /-- The user a custom token signs in, or a failure. -/
  signInWithCustomToken : String → Option DocId

/-- The arguments of `completePairing`. -/
structure PairingRequest where
  payload : PairingPayload
  newDeviceIdentity : Option NewDevice := none
  reachableHost : Option String := none

section
variable (env : PairingEnv) (r : PairingRequest)

/-- The user of the call: the one signed in, or a new anonymous one. -/
def callerUid (w : PairingState) : Option DocId := w.uid.or env.signInAnonymously

/-- The host of the handshake: the one from the preview if the payload lists it,
else the winner of a new race. -/
def handshakeHost : Option String :=
  match r.reachableHost with
  | some host =>
    if host ∈ r.payload.issuerLanAddresses then some host
    else env.lanReachabilityProbe r.payload.issuerLanAddresses r.payload.issuerLanPort
  | none => env.lanReachabilityProbe r.payload.issuerLanAddresses r.payload.issuerLanPort

/-- The LAN handshake: the group key, or the outcome its failure is. -/
def receiveKey (host : String) : Except PairingCompleteOutcome (List UInt8) :=
  match decompressPublicKey env.onCurve r.payload.issuerPubKeyCompressed with
  | none => .error .unknownFailure
  | some issuerPubKey =>
    match exchangeKey env.gcm (env.lan host r.payload.issuerLanPort r.payload.tokenId) issuerPubKey with
    | .error (.client error) => .error (.lanHandshakeFailure error)
    | .error .other => .error .unknownFailure
    | .ok groupKey => .ok groupKey

/-- The old user is deleted, or stays if that fails; then the token's is signed in. -/
def reauthenticate (result : JoinNetworkResult) (w : PairingState) :
    PairingCompleteOutcome × PairingState :=
  let w := if env.deleteCurrentUser then {w with uid := none} else w
  match env.signInWithCustomToken result.customToken with
  | none => (.authFailure, w)
  | some uid => (.success result.accountId, {w with uid := some uid})

/-- What is left once `joinNetwork` has answered. -/
def finishPairing (host : String) (result : JoinNetworkResult) (w : PairingState) :
    PairingCompleteOutcome × PairingState :=
  match receiveKey env r host with
  | .error outcome => (outcome, w)
  | .ok groupKey =>
    match w.groupKey.replace env.groupKeyWritten groupKey with
    | none => (.unknownFailure, w)
    | some installed => reauthenticate env result {w with groupKey := installed}

/-- `completePairing`. The outcome is `none` when an exception escapes, which only
`joinNetwork` can throw. -/
def completePairing (w : PairingState) : Option PairingCompleteOutcome × PairingState :=
  match callerUid env w with
  | none => (some .authFailure, w)
  | some uid =>
    let w := {w with uid := some uid}
    match handshakeHost env r with
    | none => (some (.lanHandshakeFailure .transport), w)
    | some host =>
      match w.identity.ensureDeviceId env.deviceIdWritten env.freshDeviceId with
      | none => (some .unknownFailure, w)
      | some (joiningDeviceId, identity) =>
        let w := {w with identity := identity}
        match clientJoinNetwork env.call env.join w.uid r.payload.tokenId joiningDeviceId
            r.newDeviceIdentity w.cloud with
        | (.error (.cloudException code), cloud) =>
          (some (.cloudFailure (classifyCloudError code)), {w with cloud := cloud})
        | (.error .other, cloud) => (none, {w with cloud := cloud})
        | (.ok result, cloud) =>
          let finished := finishPairing env r host result {w with cloud := cloud}
          (some finished.1, finished.2)

end
end MagicShare.Pairing
