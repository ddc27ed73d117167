import MagicShare.Cloud.Callable
import MagicShare.Pairing.Payload

/-! The services a joining device drives: the callable client, the group key, the
device id and the LAN client.

What is outside the app (the network, secure storage, the curve and the cipher)
is given to each operation as an argument. -/
namespace MagicShare.Pairing
open Cloud

/-! ### The callable client -/

inductive CloudErrorCode where
  | unauthenticated | invalidArgument | notFound | failedPrecondition | resourceExhausted | unknown
  deriving DecidableEq

/-- The code the app sees. What is no `HttpsError` arrives as `internal`. -/
def cloudErrorCode : Rejection → CloudErrorCode
  | .https .unauthenticated _ => .unauthenticated
  | .https .invalidArgument _ => .invalidArgument
  | .https .notFound _ => .notFound
  | .https .failedPrecondition _ => .failedPrecondition
  | .https .resourceExhausted _ => .resourceExhausted
  | _ => .unknown

/-- What a client method throws. -/
inductive CallFailure where
  | cloudException (code : CloudErrorCode)
  /-- Anything else, as from decoding a response. -/
  | other
  deriving DecidableEq

/-- How a call fares on the network: it is answered, it never arrives, or its
answer never does. -/
inductive CallRun where
  | answered
  | unsent (failure : CallFailure)
  | lost (failure : CallFailure)

/-- `CloudFunctionsClient.joinNetwork`. -/
def clientJoinNetwork (run : CallRun) (env : JoinEnv) (auth : Option DocId) (tokenId : String)
    (deviceId : DocId) (newDevice : Option NewDevice) (s : Store) :
    Except CallFailure JoinNetworkResult × Store :=
  match run with
  | .unsent failure => (.error failure, s)
  | .lost failure => (.error failure, (joinNetwork env auth tokenId deviceId newDevice s).2)
  | .answered =>
    match joinNetwork env auth tokenId deviceId newDevice s with
    | (.error e, t) => (.error (.cloudException (cloudErrorCode e)), t)
    | (.ok result, t) => (.ok result, t)

/-! ### The group key -/

def groupKeyLengthBytes : Nat := 32

inductive GroupKeyState where
  | loading | missing | failed
  | ready (key : List UInt8)
  deriving DecidableEq

/-- The key in secure storage, and the state the app shows. -/
structure GroupKeyService where
  stored : Option (List UInt8)
  state : GroupKeyState
  deriving DecidableEq

/-- `replace`; `written` says whether secure storage takes the key. -/
def GroupKeyService.replace (written : Bool) (key : List UInt8) (_ : GroupKeyService) :
    Option GroupKeyService :=
  if key.length ≠ groupKeyLengthBytes then none
  else if written then some ⟨some key, .ready key⟩
  else none

/-! ### The device id -/

/-- The id in memory and the id in storage; an empty slot is `none`. -/
structure DeviceIdentityService where
  cached : Option DocId
  stored : Option DocId

/-- The id this device goes by. -/
def DeviceIdentityService.deviceId (fresh : DocId) (i : DeviceIdentityService) : DocId :=
  (i.cached.or i.stored).getD fresh

/-- `ensureDeviceId`; `fresh` is what the generator gives, and `written` says
whether storage takes it. -/
def DeviceIdentityService.ensureDeviceId (written : Bool) (fresh : DocId) (i : DeviceIdentityService) :
    Option (DocId × DeviceIdentityService) :=
  match i.cached, i.stored with
  | some cached, _ => some (cached, i)
  | none, some stored => some (stored, {i with cached := some stored})
  | none, none => if written then some (fresh, ⟨some fresh, some fresh⟩) else none

/-! ### The LAN client -/

def p256CompressedPubkeyBytes : Nat := 33

/-- A point of the curve, by its compressed bytes. -/
abbrev ECPublicKey := List UInt8

/-- `decompressPublicKey`; `onCurve` says which compressed bytes are a point. -/
def decompressPublicKey (onCurve : List UInt8 → Bool) (bytes : List UInt8) : Option ECPublicKey :=
  if bytes.length ≠ p256CompressedPubkeyBytes then none
  else if bytes.head? ≠ some 2 ∧ bytes.head? ≠ some 3 then none
  else if onCurve bytes then some bytes
  else none

theorem decompressPublicKey_some {onCurve : List UInt8 → Bool} {bytes : List UInt8} {key : ECPublicKey}
    (h : decompressPublicKey onCurve bytes = some key) : key = bytes := by
  simp only [decompressPublicKey] at h
  split_ifs at h
  exact (Option.some.inj h).symm

inductive PairingLanClientError where
  | transport | tokenMismatch | alreadyConsumed | unknownRoute | protocol | cryptoAuth
  deriving DecidableEq

/-- What `exchangeKey` throws. -/
inductive LanFailure where
  | client (error : PairingLanClientError)
  /-- Anything else, as a `TimeoutException`. -/
  | other
  deriving DecidableEq

/-- The body of a response with status 200. -/
inductive LanBody where
  | malformed
  /-- No `wrappedGroupKeyB64`, or none that base64url can decode. -/
  | undecodable
  | wrapped (bytes : List UInt8)

/-- What becomes of the request to the issuer. -/
inductive LanAnswer where
  /-- `SocketException` or `HttpException`. -/
  | unreachable
  /-- No answer in time, or one that is not UTF-8. -/
  | throws
  /-- `code` is the `error` field of the body, if it has one. -/
  | response (statusCode : Nat) (code : Option String) (body : LanBody)

def errorForStatusAndCode (status : Nat) (code : Option String) : PairingLanClientError :=
  if status = 410 ∨ code = some "alreadyConsumed" then .alreadyConsumed
  else if status = 403 ∨ code = some "tokenMismatch" then .tokenMismatch
  else if status = 404 then .unknownRoute
  else .protocol

/-- Nonce and tag. -/
def minWrappedBytes : Nat := 12 + 16

/-- `decryptWithGroupKey` under the key agreed with the issuer: `gcm` is the
cipher, which answers `none` when the tag does not verify. -/
def decryptWithGroupKey (gcm : List UInt8 → Option (List UInt8)) (blob : List UInt8) :
    Except LanFailure (List UInt8) :=
  if blob.length < minWrappedBytes then .error .other
  else
    match gcm blob with
    | none => .error (.client .cryptoAuth)
    | some plaintext => .ok plaintext

/-- `PairingLanClient.exchangeKey`; `gcm` takes the issuer's public key, which
with the joiner's private one makes the key of the cipher. -/
def exchangeKey (gcm : ECPublicKey → List UInt8 → Option (List UInt8)) (answer : LanAnswer)
    (issuerPublicKey : ECPublicKey) : Except LanFailure (List UInt8) :=
  match answer with
  | .unreachable => .error (.client .transport)
  | .throws => .error .other
  | .response statusCode code body =>
    if statusCode ≠ 200 then .error (.client (errorForStatusAndCode statusCode code))
    else
      match body with
      | .malformed | .undecodable => .error (.client .protocol)
      | .wrapped bytes => do
        let groupKey ← decryptWithGroupKey (gcm issuerPublicKey) bytes
        if groupKey.length ≠ groupKeyLengthBytes then .error (.client .protocol) else .ok groupKey

/-- A key that is exchanged is one the cipher gave, and it has the right length. -/
theorem exchangeKey_ok {gcm : ECPublicKey → List UInt8 → Option (List UInt8)} {answer : LanAnswer}
    {issuerPublicKey : ECPublicKey} {key : List UInt8} (h : exchangeKey gcm answer issuerPublicKey = .ok key) :
    key.length = groupKeyLengthBytes ∧ ∃ bytes, gcm issuerPublicKey bytes = some key := by
  match answer, h with
  | .response statusCode code body, h =>
    simp only [exchangeKey] at h
    split_ifs at h with hstatus
    match body, h with
    | .wrapped bytes, h =>
      obtain ⟨groupKey, hdecrypt, hlength⟩ := Fallible.bind_eq_ok.mp h
      split_ifs at hlength with hlen
      obtain rfl := Except.ok.inj hlength
      refine ⟨Decidable.not_not.mp hlen, bytes, ?_⟩
      simp only [decryptWithGroupKey] at hdecrypt
      split_ifs at hdecrypt
      cases hgcm : gcm issuerPublicKey bytes with
      | none =>
        rw [hgcm] at hdecrypt
        cases hdecrypt
      | some plaintext =>
        rw [hgcm] at hdecrypt
        rw [Except.ok.inj hdecrypt]

end MagicShare.Pairing
