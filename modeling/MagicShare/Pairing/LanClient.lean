import MagicShare.Base.Json
import MagicShare.Pairing.LanServer
import MagicShare.Pairing.UriForm

/-! The joiner's side of the LAN handshake (`pairing_lan_client.dart`), with every exception
it can end with.

The peer is whatever answers the request: it may fail in any way, answer with any status and
any bytes. `PairingLanClient` promises its own exception or a `TimeoutException`;
`exchange_key_contract` says for which answers it keeps that promise, and that the issuer's
own server (`LanServer`) hands over the group key. `JoinService` uses the coarser
`Pairing.exchangeKey`, which this one refines (`exchangeKey_coarse`). -/
namespace MagicShare.Pairing.LanClient
open Json Fallible

/-! ### Keys and ciphers -/

/-- The functions of `pairing_crypto.dart` and the cipher of `group_key_codec.dart`. -/
structure PairingCrypto where
  PrivateKey : Type
  /-- The other half of a key pair, as a compressed point. -/
  publicKey : PrivateKey → ECPublicKey
  onCurve : List UInt8 → Bool
  deriveSharedSecret : PrivateKey → ECPublicKey → List UInt8
  derivePairingAesKey : List UInt8 → List UInt8
  /-- The ciphertext and its tag, under a key and a nonce. -/
  gcmSeal : List UInt8 → List UInt8 → List UInt8 → List UInt8
  /-- The plaintext, or the message of the exception if the tag does not verify. -/
  gcmOpen : List UInt8 → List UInt8 → List UInt8 → Except String (List UInt8)

/-- What is assumed of them: public keys are points, ECDH is symmetric, HKDF gives 32 bytes,
AES-GCM decrypts what it encrypted and adds a tag of 16 bytes. -/
structure PairingCrypto.Lawful (c : PairingCrypto) : Prop where
  point : ∀ k, decompressPublicKey c.onCurve (c.publicKey k) = some (c.publicKey k)
  symmetric : ∀ a b, c.deriveSharedSecret a (c.publicKey b) = c.deriveSharedSecret b (c.publicKey a)
  aesKey : ∀ shared, (c.derivePairingAesKey shared).length = groupKeyLengthBytes
  decrypts : ∀ key nonce plaintext, c.gcmOpen key nonce (c.gcmSeal key nonce plaintext) = .ok plaintext
  tag : ∀ key nonce plaintext, (c.gcmSeal key nonce plaintext).length = plaintext.length + 16

def nonceLengthBytes : Nat := 12
def tagLengthBytes : Nat := 16

abbrev Nonce := {bytes : List UInt8 // bytes.length = nonceLengthBytes}

/-- What `decryptWithGroupKey` throws. -/
inductive DecryptFailure where
  | argument (message : String)
  /-- `GroupKeyAuthFailure`. -/
  | auth (message : String)

section Codec
variable (c : PairingCrypto)

def assertKeyLength (key : List UInt8) : Except DecryptFailure Unit :=
  if key.length ≠ groupKeyLengthBytes then
    .error (.argument s!"Group key must be {groupKeyLengthBytes} bytes; got {key.length}")
  else .ok ()

/-- `nonce` is drawn for each call. -/
def encryptWithGroupKey (key : List UInt8) (nonce : Nonce) (plaintext : List UInt8) :
    Except DecryptFailure (List UInt8) := do
  assertKeyLength key
  return nonce.val ++ c.gcmSeal key nonce.val plaintext

def decryptWithGroupKey (key blob : List UInt8) : Except DecryptFailure (List UInt8) := do
  assertKeyLength key
  if blob.length < nonceLengthBytes + tagLengthBytes then
    throw (.argument
      s!"Encrypted blob too short: {blob.length} bytes (need at least {nonceLengthBytes + tagLengthBytes})")
  match c.gcmOpen key (blob.take nonceLengthBytes) (blob.drop nonceLengthBytes) with
  | .ok plaintext => return plaintext
  | .error message => throw (.auth message)

end Codec

/-! ### Texts -/

/-- `jsonEncode` and `jsonDecode`; `none` for a `FormatException`. -/
structure JsonCodec where
  encode : Value → String
  decode : String → Option Value

/-- The codec reads back what it writes for `v`, an object. -/
def JsonCodec.Faithful (json : JsonCodec) (v : Value) : Prop :=
  json.decode (json.encode v) = some v ∧ (json.encode v).toList.head? = some '\x7b'

def utf8Encode (text : String) : List UInt8 := text.toUTF8.data.toList

/-- `utf8.decoder`: a byte order mark in front is dropped. -/
def utf8Decode (bytes : List UInt8) : Option String :=
  (String.fromUTF8? ⟨bytes.toArray⟩).map fun text =>
    if text.toList.head? = some '\uFEFF' then String.ofList text.toList.tail else text

/-- `as String?`. -/
def asString : Option Value → Option String
  | some (.string s) => some s
  | _ => none

/-! ### The peer -/

/-- An exception of the HTTP client or of a stream. -/
inductive IoException where
  | timeout
  | socket (text : String)
  | http (text : String)
  | other (text : String)
  deriving DecidableEq

structure ExchangeRequest where
  uri : String
  body : List UInt8

/-- How the peer behaves. A body that does not arrive whole ends its stream with an
exception. -/
inductive Answer where
  | fails (e : IoException)
  | response (statusCode : Nat) (body : Except IoException (List UInt8))

/-! ### The client -/

/-- What ends a call that does not return. -/
inductive Thrown where
  | client (error : PairingLanClientError) (message : String)
  | io (e : IoException)
  /-- `FormatException`. -/
  | format
  /-- `ArgumentError`. -/
  | argument (message : String)

section Client
variable (c : PairingCrypto) (json : JsonCodec)

def exchangeBody (tokenId : String) (joinerPublicKey : ECPublicKey) : Value :=
  .object [("tokenId", .string tokenId),
    ("joinerPubKeyB64", .string (String.ofList (base64UrlEncode joinerPublicKey)))]

def exchangeRequest (issuerHost : String) (issuerPort : Int) (tokenId : String) (joinerPublicKey : ECPublicKey) :
    ExchangeRequest where
  uri := s!"http://{issuerHost}:{issuerPort}{kPairingExchangeKeyPath}"
  body := utf8Encode (json.encode (exchangeBody tokenId joinerPublicKey))

/-- Up to the head of the response. -/
def connect (issuerHost : String) (issuerPort : Int) : Answer → Except Thrown (Nat × Except IoException (List UInt8))
  | .fails (.socket text) =>
    .error (.client .transport s!"Could not reach issuer at {issuerHost}:{issuerPort}: {text}")
  | .fails (.http text) => .error (.client .transport s!"HTTP error contacting issuer: {text}")
  | .fails e => .error (.io e)
  | .response statusCode body => .ok (statusCode, body)

def readBody : Except IoException (List UInt8) → Except Thrown String
  | .error e => .error (.io e)
  | .ok bytes =>
    match utf8Decode bytes with
    | some text => .ok text
    | none => .error .format

/-- The `error` of a refusal, as far as the body has one. -/
def errorCode (responseBody : String) : Option String :=
  match json.decode responseBody with
  | some (.object entries) => asString (member entries "error")
  | _ => none

def rejected (statusCode : Nat) (code : Option String) : Thrown :=
  let shown := code.getD "null"
  .client (errorForStatusAndCode statusCode code) s!"Issuer rejected handshake (HTTP {statusCode}, code={shown})"

/-- The bytes of `wrappedGroupKeyB64`. -/
def wrappedGroupKey (responseBody : String) : Except Thrown (List UInt8) :=
  match json.decode responseBody with
  | some (.object entries) =>
    match asString (member entries "wrappedGroupKeyB64") with
    | some wrappedB64 =>
      if wrappedB64.isEmpty then .error (.client .protocol "Issuer response missing wrappedGroupKeyB64")
      else
        match base64UrlDecode (padBase64Url wrappedB64).toList with
        | .ok wrappedBytes => .ok wrappedBytes
        | .error _ => .error (.client .protocol "wrappedGroupKeyB64 is not valid base64url")
    | none => .error (.client .protocol "Issuer response missing wrappedGroupKeyB64")
  | _ => .error (.client .protocol "Issuer returned malformed JSON")

/-- Only `GroupKeyAuthFailure` is caught. -/
def unwrap (aesKey wrappedBytes : List UInt8) : Except Thrown (List UInt8) :=
  match decryptWithGroupKey c aesKey wrappedBytes with
  | .ok groupKey =>
    if groupKey.length ≠ groupKeyLengthBytes then
      .error (.client .protocol s!"Issuer returned a group key of unexpected length: {groupKey.length}")
    else .ok groupKey
  | .error (.auth message) => .error (.client .cryptoAuth s!"AES-GCM auth failed: {message}")
  | .error (.argument message) => .error (.argument message)

/-- The key that the two sides agree on. -/
def agreedKey (privateKey : c.PrivateKey) (publicKey : ECPublicKey) : List UInt8 :=
  c.derivePairingAesKey (c.deriveSharedSecret privateKey publicKey)

/-- What is made of a response that was read. -/
def conclude (aesKey : List UInt8) (statusCode : Nat) (responseBody : String) : Except Thrown (List UInt8) := do
  if statusCode ≠ 200 then throw (rejected statusCode (errorCode json responseBody))
  let wrappedBytes ← wrappedGroupKey json responseBody
  unwrap c aesKey wrappedBytes

def exchangeKey (issuerHost : String) (issuerPort : Int) (tokenId : String) (joinerPrivateKey : c.PrivateKey)
    (joinerPublicKey issuerPublicKey : ECPublicKey) (peer : ExchangeRequest → Answer) :
    Except Thrown (List UInt8) := do
  let answer := peer (exchangeRequest json issuerHost issuerPort tokenId joinerPublicKey)
  let (statusCode, body) ← connect issuerHost issuerPort answer
  let responseBody ← readBody body
  conclude c json (agreedKey c joinerPrivateKey issuerPublicKey) statusCode responseBody

end Client

/-! ### The contract -/

/-- The exceptions the class comment names. -/
inductive Documented : Thrown → Prop
  | client (error : PairingLanClientError) (message : String) : Documented (.client error message)
  | timeout : Documented (.io .timeout)

/-- The wrapped key in an answer. -/
def Carries (json : JsonCodec) : Answer → List UInt8 → Prop
  | .response statusCode (.ok bytes), blob =>
    statusCode = 200 ∧ ∃ text, utf8Decode bytes = some text ∧ wrappedGroupKey json text = .ok blob
  | _, _ => False

/-- A call returns a 32-byte key, which is what it was sent, decrypted under the agreed one,
or throws what it promises. -/
inductive Honoured (c : PairingCrypto) (aesKey : List UInt8) (carried : List UInt8 → Prop) :
    Except Thrown (List UInt8) → Prop
  | returned {groupKey : List UInt8} (length : groupKey.length = groupKeyLengthBytes)
      (decrypts : ∃ blob, carried blob ∧ decryptWithGroupKey c aesKey blob = .ok groupKey) :
      Honoured c aesKey carried (.ok groupKey)
  | thrown {e : Thrown} (h : Documented e) : Honoured c aesKey carried (.error e)

/-- The answers the client is prepared for. -/
def Expected (json : JsonCodec) : Answer → Prop
  | .fails e => ∀ text, e ≠ .other text
  | .response _ (.error e) => e = .timeout
  | .response statusCode (.ok bytes) => (utf8Decode bytes).isSome ∧
      ∀ blob, Carries json (.response statusCode (.ok bytes)) blob → nonceLengthBytes + tagLengthBytes ≤ blob.length

section Contract
variable {c : PairingCrypto} {json : JsonCodec} {aesKey : List UInt8} {carried : List UInt8 → Prop}

/-- An exception is in the contract exactly if it is documented. -/
theorem honoured_error_iff {e : Thrown} : Honoured c aesKey carried (.error e) ↔ Documented e := by
  constructor
  · intro h
    cases h with
    | thrown h => exact h
  · exact .thrown

theorem documented_io_iff {e : IoException} : Documented (.io e) ↔ e = .timeout := by
  constructor
  · intro h
    cases h
    rfl
  · rintro rfl
    exact .timeout

theorem not_documented_format : ¬Documented .format := by
  intro h
  cases h

theorem not_documented_argument (message : String) : ¬Documented (.argument message) := by
  intro h
  cases h

theorem decryptWithGroupKey_short (hkey : aesKey.length = groupKeyLengthBytes) {blob : List UInt8}
    (h : blob.length < nonceLengthBytes + tagLengthBytes) :
    ∃ message, decryptWithGroupKey c aesKey blob = .error (.argument message) := by
  unfold decryptWithGroupKey assertKeyLength
  rw [if_neg (fun hne => hne hkey), if_pos h]
  exact ⟨_, rfl⟩

/-- Past the checks there is the cipher. -/
theorem decryptWithGroupKey_long (hkey : aesKey.length = groupKeyLengthBytes) {blob : List UInt8}
    (h : nonceLengthBytes + tagLengthBytes ≤ blob.length) : decryptWithGroupKey c aesKey blob =
      (c.gcmOpen aesKey (blob.take nonceLengthBytes) (blob.drop nonceLengthBytes)).mapError .auth := by
  unfold decryptWithGroupKey assertKeyLength
  rw [if_neg (fun hne => hne hkey), if_neg (by omega)]
  cases c.gcmOpen aesKey (blob.take nonceLengthBytes) (blob.drop nonceLengthBytes) with
  | ok plaintext => rfl
  | error message => rfl

/-- A blob decrypts, or fails in a way the client knows, unless it is too short. -/
theorem honoured_unwrap_iff (hkey : aesKey.length = groupKeyLengthBytes) {blob : List UInt8} (hblob : carried blob) :
    Honoured c aesKey carried (unwrap c aesKey blob) ↔ nonceLengthBytes + tagLengthBytes ≤ blob.length := by
  by_cases hshort : blob.length < nonceLengthBytes + tagLengthBytes
  · obtain ⟨message, hdecrypt⟩ := decryptWithGroupKey_short (c := c) hkey hshort
    rw [unwrap, hdecrypt]
    exact iff_of_false (fun h => not_documented_argument message (honoured_error_iff.mp h)) (by omega)
  · refine iff_of_true ?_ (by omega)
    have hdecrypt := decryptWithGroupKey_long (c := c) hkey (Nat.le_of_not_lt hshort)
    rw [unwrap, hdecrypt]
    cases hopen : c.gcmOpen aesKey (blob.take nonceLengthBytes) (blob.drop nonceLengthBytes) with
    | ok groupKey =>
      rw [hopen] at hdecrypt
      show Honoured c aesKey carried (if _ then _ else _)
      split
      · exact .thrown (.client _ _)
      · next hlength => exact .returned (Decidable.not_not.mp hlength) ⟨blob, hblob, hdecrypt⟩
    | error message => exact .thrown (.client _ _)

/-- What is not a wrapped key is refused by the client's own exception. -/
theorem wrappedGroupKey_error {text : String} {e : Thrown} (h : wrappedGroupKey json text = .error e) :
    ∃ message, e = .client .protocol message := by
  unfold wrappedGroupKey at h
  split at h
  · split at h
    · split_ifs at h
      · exact ⟨_, (Except.error.inj h).symm⟩
      · split at h
        · cases h
        · exact ⟨_, (Except.error.inj h).symm⟩
    · exact ⟨_, (Except.error.inj h).symm⟩
  · exact ⟨_, (Except.error.inj h).symm⟩

theorem readBody_some {bytes : List UInt8} {text : String} (h : utf8Decode bytes = some text) :
    readBody (.ok bytes) = .ok text := by
  rw [readBody, h]

theorem readBody_none {bytes : List UInt8} (h : utf8Decode bytes = none) : readBody (.ok bytes) = .error .format := by
  rw [readBody, h]

theorem honoured_conclude_iff (hkey : aesKey.length = groupKeyLengthBytes) {statusCode : Nat} {text : String}
    (hcarried : ∀ blob, carried blob ↔ statusCode = 200 ∧ wrappedGroupKey json text = .ok blob) :
    Honoured c aesKey carried (conclude c json aesKey statusCode text) ↔
      ∀ blob, carried blob → nonceLengthBytes + tagLengthBytes ≤ blob.length := by
  unfold conclude
  by_cases hstatus : statusCode ≠ 200
  · rw [if_pos hstatus]
    exact iff_of_true (.thrown (.client _ _)) fun blob h => absurd ((hcarried blob).mp h).1 hstatus
  · rw [if_neg hstatus]
    have hstatus := Decidable.not_not.mp hstatus
    cases hwrapped : wrappedGroupKey json text with
    | error e =>
      obtain ⟨message, rfl⟩ := wrappedGroupKey_error hwrapped
      refine iff_of_true (.thrown (.client _ message)) fun blob h => ?_
      have hblob := ((hcarried blob).mp h).2
      rw [hwrapped] at hblob
      cases hblob
    | ok blob =>
      have hblob : carried blob := (hcarried blob).mpr ⟨hstatus, hwrapped⟩
      refine (honoured_unwrap_iff hkey hblob).trans ⟨fun hlength blob' h => ?_, fun h => h blob hblob⟩
      have hsame := ((hcarried blob').mp h).2
      rw [hwrapped] at hsame
      obtain rfl := Except.ok.inj hsame
      exact hlength

/-- **Which answers the client is prepared for.** -/
theorem honoured_iff (hc : c.Lawful) (issuerHost : String) (issuerPort : Int) (tokenId : String)
    (joinerPrivateKey : c.PrivateKey) (joinerPublicKey issuerPublicKey : ECPublicKey) (peer : ExchangeRequest → Answer) :
    Honoured c (agreedKey c joinerPrivateKey issuerPublicKey)
        (Carries json (peer (exchangeRequest json issuerHost issuerPort tokenId joinerPublicKey)))
        (exchangeKey c json issuerHost issuerPort tokenId joinerPrivateKey joinerPublicKey issuerPublicKey peer) ↔
      Expected json (peer (exchangeRequest json issuerHost issuerPort tokenId joinerPublicKey)) := by
  rw [exchangeKey]
  generalize peer (exchangeRequest json issuerHost issuerPort tokenId joinerPublicKey) = answer
  cases answer with
  | fails e =>
    cases e with
    | timeout => exact iff_of_true (.thrown .timeout) fun text h => by cases h
    | socket text => exact iff_of_true (.thrown (.client _ _)) fun text h => by cases h
    | http text => exact iff_of_true (.thrown (.client _ _)) fun text h => by cases h
    | other text =>
      refine iff_of_false (fun h => ?_) fun h => h text rfl
      cases documented_io_iff.mp (honoured_error_iff.mp h)
  | response statusCode body =>
    cases body with
    | error e => exact honoured_error_iff.trans documented_io_iff
    | ok bytes =>
      show Honoured c _ _ (readBody (.ok bytes) >>= _) ↔ _
      cases hdecode : utf8Decode bytes with
      | none =>
        rw [readBody_none hdecode]
        refine iff_of_false (fun h => not_documented_format (honoured_error_iff.mp h)) fun h => ?_
        have hsome := h.1
        rw [hdecode] at hsome
        cases hsome
      | some text =>
        rw [readBody_some hdecode]
        have hcarried : ∀ blob, Carries json (.response statusCode (.ok bytes)) blob ↔
            statusCode = 200 ∧ wrappedGroupKey json text = .ok blob := by
          intro blob
          refine and_congr_right fun _ => ⟨?_, fun h => ⟨text, hdecode, h⟩⟩
          rintro ⟨text', htext, h⟩
          rw [hdecode] at htext
          obtain rfl := Option.some.inj htext
          exact h
        refine (honoured_conclude_iff (hc.aesKey _) hcarried).trans ?_
        refine ⟨fun h => ⟨?_, h⟩, And.right⟩
        rw [hdecode]
        rfl

end Contract

/-! ### The issuer's server answers -/

section Server
variable (c : PairingCrypto) (json : JsonCodec)

/-- What the server reads off a body. -/
def requestBody (bytes : List UInt8) : LanRequestBody :=
  match utf8Decode bytes with
  | none => .unreadable
  | some text =>
    match json.decode text with
    | some (.object entries) =>
      .fields (asString (member entries "tokenId")) (asString (member entries "joinerPubKeyB64"))
    | _ => .malformed

def replyBody : LanReply → Value
  | .error e => .object [("error", .string e.code)]
  | .wrappedGroupKey wrapped => .object [("wrappedGroupKeyB64", .string (String.ofList (base64UrlEncode wrapped)))]

/-- A reply of the server on the wire. -/
def answerOf (reply : LanReply) : Answer :=
  .response reply.status (.ok (utf8Encode (json.encode (replyBody reply))))

/-- The server of an issuer with a group key. -/
def serverConfig (tokenId : String) (issuerPrivateKey : c.PrivateKey) (groupKey : List UInt8) (nonces : Nat → Nonce) :
    LanServerConfig where
  tokenId := tokenId
  base64UrlDecode input := (base64UrlDecode input.toList).toOption
  onCurve := c.onCurve
  wrap i joinerPub := (encryptWithGroupKey c (agreedKey c issuerPrivateKey joinerPub) (nonces i) groupKey).toOption

end Server

section Exchange
variable {c : PairingCrypto} {json : JsonCodec}

def withoutMark (text : String) : String :=
  if text.toList.head? = some '\uFEFF' then String.ofList text.toList.tail else text

theorem utf8Decode_utf8Encode (text : String) : utf8Decode (utf8Encode text) = some (withoutMark text) := by
  have hbytes : (⟨(utf8Encode text).toArray⟩ : ByteArray) = text.toUTF8 := by
    rw [utf8Encode, Array.toArray_toList]
  have hdecode : String.fromUTF8? text.toUTF8 = some text := dif_pos text.isValidUTF8
  rw [utf8Decode, hbytes, hdecode, Option.map_some, withoutMark]

theorem utf8Decode_encode {text : String} (h : text.toList.head? = some '\x7b') :
    utf8Decode (utf8Encode text) = some text := by
  rw [utf8Decode_utf8Encode, withoutMark, if_neg]
  rw [h]
  decide

/-- What is decoded is the text that has these bytes. -/
theorem exists_of_utf8Decode {bytes : List UInt8} {text : String} (h : utf8Decode bytes = some text) :
    ∃ marked, bytes = utf8Encode marked ∧ text = withoutMark marked := by
  obtain ⟨marked, hbytes, rfl⟩ := Option.map_eq_some_iff.mp h
  refine ⟨marked, ?_, rfl⟩
  rw [String.fromUTF8?] at hbytes
  split at hbytes
  · next hvalid =>
    obtain rfl := Option.some.inj hbytes
    rfl
  · cases hbytes

theorem length_base64UrlEncode (bytes : List UInt8) : (base64UrlEncode bytes).length % 4 = 0 := by
  unfold base64UrlEncode
  rw [List.length_append, List.length_replicate]
  omega

/-- What was padded needs no padding. -/
theorem padBase64Url_encode (bytes : List UInt8) :
    padBase64Url (String.ofList (base64UrlEncode bytes)) = String.ofList (base64UrlEncode bytes) := by
  have hlength := length_base64UrlEncode bytes
  have hnone : ((base64UrlEncode bytes).length + 3) / 4 * 4 - (base64UrlEncode bytes).length = 0 := by omega
  rw [padBase64Url, String.length_ofList, hnone, String.toList_ofList, List.replicate_zero, List.append_nil]

theorem decrypt_encrypt (hc : c.Lawful) {key : List UInt8} (hkey : key.length = groupKeyLengthBytes) (nonce : Nonce)
    (plaintext : List UInt8) :
    ∃ blob, encryptWithGroupKey c key nonce plaintext = .ok blob ∧ decryptWithGroupKey c key blob = .ok plaintext ∧
      blob ≠ [] := by
  refine ⟨nonce.val ++ c.gcmSeal key nonce.val plaintext, ?_, ?_, ?_⟩
  · unfold encryptWithGroupKey assertKeyLength
    rw [if_neg (fun hne => hne hkey)]
    rfl
  · have htag := hc.tag key nonce.val plaintext
    have hlength : nonceLengthBytes + tagLengthBytes ≤ (nonce.val ++ c.gcmSeal key nonce.val plaintext).length := by
      rw [List.length_append, nonce.property, htag]
      unfold tagLengthBytes
      omega
    rw [decryptWithGroupKey_long hkey hlength, List.take_left' nonce.property, List.drop_left' nonce.property,
      hc.decrypts]
    rfl
  · intro hnil
    have hlength := congrArg List.length hnil
    rw [List.length_append, nonce.property] at hlength
    exact absurd hlength (by simp [nonceLengthBytes])

/-- The server reads the request it was sent. -/
theorem requestBody_exchange {tokenId : String} {joinerPublicKey : ECPublicKey}
    (hjson : json.Faithful (exchangeBody tokenId joinerPublicKey)) (issuerHost : String) (issuerPort : Int) :
    requestBody json (exchangeRequest json issuerHost issuerPort tokenId joinerPublicKey).body =
      .fields (some tokenId) (some (String.ofList (base64UrlEncode joinerPublicKey))) := by
  simp only [requestBody, exchangeRequest, utf8Decode_encode hjson.2, hjson.1]
  rfl

/-- A joiner with the token and a key pair is handed the group key under the agreed key. -/
theorem exchangeReply_grants (hc : c.Lawful) {tokenId : String} {issuer joiner : c.PrivateKey} {groupKey blob : List UInt8}
    {nonces : Nat → Nonce} {n : Nat}
    (hencrypt : encryptWithGroupKey c (agreedKey c issuer (c.publicKey joiner)) (nonces n) groupKey = .ok blob) :
    exchangeReply (serverConfig c tokenId issuer groupKey nonces) n
        (.fields (some tokenId) (some (String.ofList (base64UrlEncode (c.publicKey joiner))))) =
      .wrappedGroupKey blob := by
  have hdecode : (base64UrlDecode (padBase64Url (String.ofList (base64UrlEncode (c.publicKey joiner)))).toList).toOption =
      some (c.publicKey joiner) := by
    rw [padBase64Url_encode, String.toList_ofList, base64UrlDecode_encode, Except.toOption]
  have hwrap : (encryptWithGroupKey c (agreedKey c issuer (c.publicKey joiner)) (nonces n) groupKey).toOption =
      some blob := by
    rw [hencrypt, Except.toOption]
  simp only [exchangeReply, serverConfig, ne_eq, not_true_eq_false, if_false, hdecode, hc.point, Option.bind_some, hwrap]

/-- The client reads the reply it was sent. -/
theorem wrappedGroupKey_reply {blob : List UInt8} (hblob : blob ≠ []) (hjson : json.Faithful (replyBody (.wrappedGroupKey blob))) :
    wrappedGroupKey json (json.encode (replyBody (.wrappedGroupKey blob))) = .ok blob := by
  have hmember : asString (member [("wrappedGroupKeyB64", .string (String.ofList (base64UrlEncode blob)))]
      "wrappedGroupKeyB64") = some (String.ofList (base64UrlEncode blob)) := rfl
  have hnonempty : (String.ofList (base64UrlEncode blob)).isEmpty = false := by
    rw [Bool.eq_false_iff]
    intro hempty
    have hnil : base64UrlEncode blob = [] := by simpa using hempty
    have hdecoded := base64UrlDecode_encode blob
    rw [hnil] at hdecoded
    exact hblob (Except.ok.inj hdecoded).symm
  have hdecode : base64UrlDecode (padBase64Url (String.ofList (base64UrlEncode blob))).toList = .ok blob := by
    rw [padBase64Url_encode, String.toList_ofList, base64UrlDecode_encode]
  rw [wrappedGroupKey, hjson.1]
  simp only [replyBody, hmember, hnonempty, hdecode]
  rfl

/-- A wrapped key that arrives is unwrapped. -/
theorem exchangeKey_reply {blob : List UInt8} (hblob : blob ≠ []) (hjson : json.Faithful (replyBody (.wrappedGroupKey blob)))
    (issuerHost : String) (issuerPort : Int) (tokenId : String) (joinerPrivateKey : c.PrivateKey)
    (joinerPublicKey issuerPublicKey : ECPublicKey) :
    exchangeKey c json issuerHost issuerPort tokenId joinerPrivateKey joinerPublicKey issuerPublicKey
        (fun _ => answerOf json (.wrappedGroupKey blob)) =
      unwrap c (agreedKey c joinerPrivateKey issuerPublicKey) blob := by
  show readBody (.ok (utf8Encode (json.encode (replyBody (.wrappedGroupKey blob))))) >>= _ = _
  rw [readBody_some (utf8Decode_encode hjson.2)]
  show wrappedGroupKey json (json.encode (replyBody (.wrappedGroupKey blob))) >>= _ = _
  rw [wrappedGroupKey_reply hblob hjson]
  rfl

/-- A server that listens and is not consumed answers the next request. -/
theorem lanServer_answers {config : LanServerConfig} {σ : LanServer} (hlistening : σ.listening = true)
    (hconsumed : σ.consumed = false) {body : LanRequestBody} {blob : List UInt8}
    (hreply : exchangeReply config σ.handlers.length body = .wrappedGroupKey blob) :
    ∃ τ, (lanServer config).run σ [.request "POST" kPairingExchangeKeyPath, .body σ.handlers.length body,
        .closed σ.handlers.length] = some τ ∧
      τ.handlers[σ.handlers.length]? = some (.closed (.wrappedGroupKey blob)) := by
  have haccept : σ.accept "POST" kPairingExchangeKeyPath = .reading := by
    unfold LanServer.accept
    rw [if_neg (by simp), if_neg (by simp [hconsumed])]
  have hrequest : (lanServer config).step σ (.request "POST" kPairingExchangeKeyPath) =
      some {σ with handlers := σ.handlers ++ [.reading]} := by
    simp only [lanServer, hlistening, haccept, if_true]
  have hbody : (lanServer config).step {σ with handlers := σ.handlers ++ [.reading]} (.body σ.handlers.length body) =
      some {σ with
        consumed := true
        handlers := σ.handlers ++ [.closing (.wrappedGroupKey blob)]
        exchanges := σ.exchanges ++ [(σ.handlers.length, body)]} := by
    simp [lanServer, LanServer.exchange, hreply]
  refine ⟨{σ with
    consumed := true
    listening := false
    handshakeCompleted := if σ.handshakeCompleted = .pending then .completed else σ.handshakeCompleted
    handlers := σ.handlers ++ [.closed (.wrappedGroupKey blob)]
    exchanges := σ.exchanges ++ [(σ.handlers.length, body)]}, ?_, by simp⟩
  rw [Transition.System.run_cons, hrequest, Option.bind_some, Transition.System.run_cons, hbody, Option.bind_some]
  simp [Transition.System.run, lanServer, LanServer.finish]

/-- **The contract of the key exchange.** For every answer of the peer, the call returns a
32-byte key that decrypts under the agreed one or throws a documented exception exactly if
the answer is one the client expects. And the server of the issuer, with the same token and
listening, hands over the issuer's group key. -/
theorem exchange_key_contract (c : PairingCrypto) (hc : c.Lawful) (json : JsonCodec) (issuerHost : String) (issuerPort : Int)
    (tokenId : String) :
    (∀ (joinerPrivateKey : c.PrivateKey) (joinerPublicKey issuerPublicKey : ECPublicKey) (peer : ExchangeRequest → Answer),
      Honoured c (agreedKey c joinerPrivateKey issuerPublicKey)
          (Carries json (peer (exchangeRequest json issuerHost issuerPort tokenId joinerPublicKey)))
          (exchangeKey c json issuerHost issuerPort tokenId joinerPrivateKey joinerPublicKey issuerPublicKey peer) ↔
        Expected json (peer (exchangeRequest json issuerHost issuerPort tokenId joinerPublicKey))) ∧
    (∀ (issuer joiner : c.PrivateKey) (groupKey : List UInt8) (nonces : Nat → Nonce) (σ : LanServer),
      groupKey.length = groupKeyLengthBytes → json.Faithful (exchangeBody tokenId (c.publicKey joiner)) →
      (∀ wrapped, json.Faithful (replyBody (.wrappedGroupKey wrapped))) → σ.listening = true → σ.consumed = false →
      ∃ τ reply, (lanServer (serverConfig c tokenId issuer groupKey nonces)).run σ
          [.request "POST" kPairingExchangeKeyPath,
            .body σ.handlers.length (requestBody json
              (exchangeRequest json issuerHost issuerPort tokenId (c.publicKey joiner)).body),
            .closed σ.handlers.length] = some τ ∧
        τ.handlers[σ.handlers.length]? = some (.closed reply) ∧
        exchangeKey c json issuerHost issuerPort tokenId joiner (c.publicKey joiner) (c.publicKey issuer)
          (fun _ => answerOf json reply) = .ok groupKey) := by
  refine ⟨honoured_iff hc issuerHost issuerPort tokenId, ?_⟩
  intro issuer joiner groupKey nonces σ hlength hrequest hanswer hlistening hconsumed
  obtain ⟨blob, hencrypt, hdecrypt, hblob⟩ :=
    decrypt_encrypt hc (hc.aesKey (c.deriveSharedSecret issuer (c.publicKey joiner))) (nonces σ.handlers.length) groupKey
  have hreply : exchangeReply (serverConfig c tokenId issuer groupKey nonces) σ.handlers.length (requestBody json
      (exchangeRequest json issuerHost issuerPort tokenId (c.publicKey joiner)).body) = .wrappedGroupKey blob := by
    rw [requestBody_exchange hrequest]
    exact exchangeReply_grants hc hencrypt
  obtain ⟨τ, hrun, hhandler⟩ := lanServer_answers hlistening hconsumed hreply
  refine ⟨τ, _, hrun, hhandler, ?_⟩
  -- both sides have the same key
  have hagreed : agreedKey c joiner (c.publicKey issuer) = agreedKey c issuer (c.publicKey joiner) := by
    rw [agreedKey, hc.symmetric joiner issuer]
    rfl
  have hunwrap : unwrap c (agreedKey c issuer (c.publicKey joiner)) blob = .ok groupKey := by
    have hkey : decryptWithGroupKey c (agreedKey c issuer (c.publicKey joiner)) blob = .ok groupKey := hdecrypt
    rw [unwrap, hkey]
    exact if_neg fun hne => hne hlength
  rw [exchangeKey_reply hblob (hanswer blob), hagreed]
  exact hunwrap

/-! ### The coarser client -/

def coarse : Thrown → LanFailure
  | .client error _ => .client error
  | _ => .other

def coarseBody (json : JsonCodec) (text : String) : LanBody :=
  match wrappedGroupKey json text with
  | .ok wrapped => .wrapped wrapped
  | .error _ => .undecodable

def coarseAnswer (json : JsonCodec) : Answer → LanAnswer
  | .fails (.socket _) => .unreachable
  | .fails (.http _) => .unreachable
  | .fails _ => .throws
  | .response _ (.error _) => .throws
  | .response statusCode (.ok bytes) =>
    match utf8Decode bytes with
    | none => .throws
    | some text => .response statusCode (errorCode json text) (coarseBody json text)

/-- The cipher of a joiner, by the issuer's public key. -/
def joinerGcm (c : PairingCrypto) (joinerPrivateKey : c.PrivateKey) (issuerPublicKey : ECPublicKey) (blob : List UInt8) :
    Option (List UInt8) :=
  (c.gcmOpen (agreedKey c joinerPrivateKey issuerPublicKey) (blob.take nonceLengthBytes)
    (blob.drop nonceLengthBytes)).toOption

theorem unwrap_coarse (hc : c.Lawful) (joinerPrivateKey : c.PrivateKey) (issuerPublicKey : ECPublicKey) (blob : List UInt8) :
    (unwrap c (agreedKey c joinerPrivateKey issuerPublicKey) blob).mapError coarse =
      Pairing.decryptWithGroupKey (joinerGcm c joinerPrivateKey issuerPublicKey) blob >>= fun groupKey =>
        if groupKey.length ≠ groupKeyLengthBytes then .error (.client .protocol) else .ok groupKey := by
  have hkey : (agreedKey c joinerPrivateKey issuerPublicKey).length = groupKeyLengthBytes := hc.aesKey _
  by_cases hshort : blob.length < nonceLengthBytes + tagLengthBytes
  · obtain ⟨message, hdecrypt⟩ := decryptWithGroupKey_short (c := c) hkey hshort
    have hcoarse : Pairing.decryptWithGroupKey (joinerGcm c joinerPrivateKey issuerPublicKey) blob = .error .other :=
      if_pos hshort
    rw [hcoarse, unwrap, hdecrypt]
    rfl
  · have hdecrypt := decryptWithGroupKey_long (c := c) hkey (Nat.le_of_not_lt hshort)
    have hlong : ¬blob.length < minWrappedBytes := hshort
    rw [Pairing.decryptWithGroupKey, if_neg hlong, unwrap, hdecrypt, joinerGcm]
    cases c.gcmOpen (agreedKey c joinerPrivateKey issuerPublicKey) (blob.take nonceLengthBytes)
        (blob.drop nonceLengthBytes) with
    | ok groupKey =>
      show Except.mapError coarse (if _ then _ else _) = (if _ then _ else _)
      split
      · rfl
      · rfl
    | error message => rfl

/-- **The coarser client forgets messages and the kinds of other exceptions.** -/
theorem exchangeKey_coarse (hc : c.Lawful) (issuerHost : String) (issuerPort : Int) (tokenId : String)
    (joinerPrivateKey : c.PrivateKey) (joinerPublicKey issuerPublicKey : ECPublicKey) (peer : ExchangeRequest → Answer) :
    (exchangeKey c json issuerHost issuerPort tokenId joinerPrivateKey joinerPublicKey issuerPublicKey peer).mapError coarse =
      Pairing.exchangeKey (joinerGcm c joinerPrivateKey)
        (coarseAnswer json (peer (exchangeRequest json issuerHost issuerPort tokenId joinerPublicKey))) issuerPublicKey := by
  rw [exchangeKey]
  generalize peer (exchangeRequest json issuerHost issuerPort tokenId joinerPublicKey) = answer
  cases answer with
  | fails e => cases e <;> rfl
  | response statusCode body =>
    cases body with
    | error e => rfl
    | ok bytes =>
      show (readBody (.ok bytes) >>= _).mapError coarse = _
      cases hdecode : utf8Decode bytes with
      | none =>
        rw [readBody_none hdecode, coarseAnswer, hdecode]
        rfl
      | some text =>
        rw [readBody_some hdecode, coarseAnswer, hdecode]
        show (conclude c json _ statusCode text).mapError coarse = (if _ then _ else _)
        unfold conclude
        by_cases hstatus : statusCode ≠ 200
        · rw [if_pos hstatus, if_pos hstatus]
          rfl
        · rw [if_neg hstatus, if_neg hstatus, coarseBody]
          cases hwrapped : wrappedGroupKey json text with
          | error e =>
            obtain ⟨message, rfl⟩ := wrappedGroupKey_error hwrapped
            rfl
          | ok blob => exact unwrap_coarse hc joinerPrivateKey issuerPublicKey blob

end Exchange

/-! ### A small instance -/

/-- A point that ends in `k`. -/
def pointOf (k : UInt8) : ECPublicKey := 2 :: (List.replicate 31 0 ++ [k])

theorem pointOf_last (k : UInt8) : (pointOf k).getLastD 0 = k := by
  rw [pointOf, ← List.cons_append, List.getLastD_concat]

/-- Private keys are bytes, and the shared secret is their sum. -/
def sumCrypto : PairingCrypto where
  PrivateKey := UInt8
  publicKey := pointOf
  onCurve _ := true
  deriveSharedSecret (k : UInt8) pub := [k + pub.getLastD 0]
  derivePairingAesKey shared := List.replicate groupKeyLengthBytes (shared.headD 0)
  gcmSeal key _ plaintext := plaintext ++ List.replicate 16 (key.headD 0)
  gcmOpen key _ data :=
    if data.drop (data.length - 16) = List.replicate 16 (key.headD 0) then .ok (data.take (data.length - 16))
    else .error "mac check in GCM failed"

theorem sumCrypto_lawful : sumCrypto.Lawful where
  point k := rfl
  symmetric (a b : UInt8) := by
    show [a + (pointOf b).getLastD 0] = [b + (pointOf a).getLastD 0]
    rw [pointOf_last, pointOf_last, UInt8.add_comm]
  aesKey shared := by simp [sumCrypto]
  decrypts key nonce plaintext := by simp [sumCrypto]
  tag key nonce plaintext := by simp [sumCrypto]

def wrappedPrefix : List Char := '\x7b' :: '"' :: "wrappedGroupKeyB64".toList ++ ['"', ':', '"']

/-- The request of the joiner with the private key 3. -/
def codeBody : Value := exchangeBody "code" (pointOf 3)

/-- `"name":"text"`. -/
def plainEntry (e : String × Value) : List Char :=
  '"' :: e.1.toList ++ ['"', ':', '"'] ++ ((asString (some e.2)).getD "").toList ++ ['"']

/-- JSON, for the objects of the exchange. -/
def plainEncode : Value → List Char
  | .object entries => '\x7b' :: [','].intercalate (entries.map plainEntry) ++ ['\x7d']
  | _ => []

def plainJson : JsonCodec where
  encode v := String.ofList (plainEncode v)
  decode text :=
    if wrappedPrefix.isPrefixOf text.toList then
      some (.object [("wrappedGroupKeyB64",
        .string (String.ofList (text.toList.drop wrappedPrefix.length).dropLast.dropLast))])
    else if text.toList = plainEncode codeBody then some codeBody
    else none

theorem plainJson_code : plainJson.Faithful codeBody := by
  have hprefix : ¬wrappedPrefix.isPrefixOf (plainEncode codeBody) := by decide +kernel
  have htext : (plainJson.encode codeBody).toList = plainEncode codeBody := String.toList_ofList
  constructor
  · simp only [plainJson] at htext ⊢
    rw [htext, if_neg hprefix, if_pos rfl]
  · rw [htext]
    rfl

theorem plainEncode_single (name s : String) : plainEncode (.object [(name, .string s)]) =
    '\x7b' :: '"' :: name.toList ++ ['"', ':', '"'] ++ (s.toList ++ ['"'] ++ ['\x7d']) := by
  simp [plainEncode, plainEntry, asString, List.intercalate]

theorem plainJson_wrapped (wrapped : List UInt8) : plainJson.Faithful (replyBody (.wrappedGroupKey wrapped)) := by
  have htext : (plainJson.encode (replyBody (.wrappedGroupKey wrapped))).toList =
      wrappedPrefix ++ (base64UrlEncode wrapped ++ ['"'] ++ ['\x7d']) := by
    have hbase64 : (String.ofList (base64UrlEncode wrapped)).toList = base64UrlEncode wrapped := String.toList_ofList
    show (String.ofList (plainEncode _)).toList = _
    rw [String.toList_ofList, replyBody, plainEncode_single, hbase64]
    rfl
  have hprefix : wrappedPrefix.isPrefixOf (wrappedPrefix ++ (base64UrlEncode wrapped ++ ['"'] ++ ['\x7d'])) :=
    List.isPrefixOf_iff_prefix.mpr (List.prefix_append _ _)
  constructor
  · simp only [plainJson] at htext ⊢
    rw [htext, if_pos hprefix, List.drop_left, List.dropLast_concat, List.dropLast_concat]
    rfl
  · rw [htext]
    rfl

/-- The joiner with the private key 3 gets the group key of the issuer with the private key
5; and a peer that answers nothing in time is within the contract. -/
theorem exchange_key_contract_code :
    (∃ τ reply, (lanServer (serverConfig sumCrypto "code" (5 : UInt8) (List.replicate 32 9)
        (fun _ => ⟨List.replicate 12 0, rfl⟩))).run {listening := true}
        [.request "POST" kPairingExchangeKeyPath,
          .body 0 (requestBody plainJson (exchangeRequest plainJson "192.168.1.10" 53317 "code" (pointOf 3)).body),
          .closed 0] = some τ ∧
      τ.handlers[0]? = some (.closed reply) ∧
      exchangeKey sumCrypto plainJson "192.168.1.10" 53317 "code" (3 : UInt8) (pointOf 3) (pointOf 5)
        (fun _ => answerOf plainJson reply) = .ok (List.replicate 32 9)) ∧
    Honoured sumCrypto (agreedKey sumCrypto (3 : UInt8) (pointOf 5)) (Carries plainJson (.fails .timeout))
      (exchangeKey sumCrypto plainJson "192.168.1.10" 53317 "code" (3 : UInt8) (pointOf 3) (pointOf 5)
        (fun _ => .fails .timeout)) := by
  obtain ⟨hhonoured, hserver⟩ :=
    exchange_key_contract sumCrypto sumCrypto_lawful plainJson "192.168.1.10" 53317 "code"
  have hexpected : Expected plainJson (.fails .timeout) := by
    intro text h
    cases h
  exact ⟨hserver (5 : UInt8) (3 : UInt8) _ _ {listening := true} rfl plainJson_code plainJson_wrapped rfl rfl,
    (hhonoured (3 : UInt8) (pointOf 3) (pointOf 5) fun _ => .fails .timeout).mpr hexpected⟩

/-- An answer with status 200 whose wrapped key is three bytes: an `ArgumentError`. -/
theorem exchange_key_contract_short :
    exchangeKey sumCrypto plainJson "192.168.1.10" 53317 "code" (3 : UInt8) (pointOf 3) (pointOf 5)
        (fun _ => answerOf plainJson (.wrappedGroupKey [0, 0, 0])) =
      .error (.argument "Encrypted blob too short: 3 bytes (need at least 28)") ∧
    ¬Documented (.argument "Encrypted blob too short: 3 bytes (need at least 28)") := by
  refine ⟨?_, not_documented_argument _⟩
  exact (exchangeKey_reply (c := sumCrypto) (by decide) (plainJson_wrapped [0, 0, 0]) _ _ _ _ _ _).trans (by rfl)

end MagicShare.Pairing.LanClient
