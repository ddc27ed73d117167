import MagicShare.Base.Mailbox
import MagicShare.Crypto.TokenChecks
import MagicShare.Lan.Nonce
import MagicShare.WebRtc.PinAgreement

/-! The nonces and tokens at the start of a connection.

The sender sends its nonce and waits for the receiver's; the receiver answers with its
own. Both put the sender's nonce in front, sign the pair with their keys, and check the
other's token if they expect a key. A token is good for its own nonce and no other
(`verifyTokenNonce_generate`), so in every run both sides come to the same pair and take
the other's token, and a token of another session is refused (`tokens_bind`). -/
namespace MagicShare.WebRtc
open Base64 Network Transition.System
open Crypto (Ed25519 VerifyingTokenKey Answer Genuine toVerifyingKey ed25519VerifyingKey
  generateTokenNonce generateTokenNonce_genuine verifyTokenNonce tokenParts)
open Lan (GeneratedNonce validateNonce)

/-! ### A token and its nonce -/

section Token
variable {Secret Public : Type} {sha256 : Bytes → Bytes} {lib : Ed25519 Secret Public}

/-- **A token is good for its nonce and for no other.** -/
theorem verifyTokenNonce_generate (hlib : lib.Correct) {key : Secret} {salt : Bytes} {token : String}
    (htoken : generateTokenNonce sha256 lib key salt = .ok token) (nonce : Bytes) :
    verifyTokenNonce sha256 (toVerifyingKey lib key) token nonce = .value (decide (nonce = salt)) := by
  obtain ⟨token', htoken', hgenuine⟩ := generateTokenNonce_genuine sha256 hlib key salt
  obtain rfl := Except.ok.inj (htoken.symm.trans htoken')
  have hall : (tokenParts token).take 5 = tokenParts token :=
    List.take_of_length_le (Nat.le_of_eq hgenuine.length)
  by_cases hnonce : nonce = salt
  · subst hnonce
    rw [decide_eq_true rfl, Crypto.verifyTokenNonce_eq_true, hall]
    exact hgenuine
  · rw [decide_eq_false hnonce]
    cases hanswer : verifyTokenNonce sha256 (toVerifyingKey lib key) token nonce with
    | panicked message =>
      have hshort := Crypto.verifyTokenNonce_panics.mp ⟨message, hanswer⟩
      have hlength := hgenuine.length
      omega
    | value b =>
      cases b with
      | false => rfl
      | true =>
        rw [Crypto.verifyTokenNonce_eq_true, hall] at hanswer
        exact absurd (hanswer.announces.unique hgenuine.announces) hnonce

end Token

/-! ### Messages -/

structure RTCNonceMessage where
  nonce : String
  deriving DecidableEq

structure RTCTokenRequest where
  token : String
  deriving DecidableEq

/-- What the two sides start from, and the libraries. -/
structure ExchangeSetup (Secret Public : Type) where
  sha256 : Bytes → Bytes
  lib : Ed25519 Secret Public
  signingKey : Peer → Secret
  localNonce : Peer → GeneratedNonce
  expectingPublicKey : Peer → Option VerifyingTokenKey
  /-- Whether the receiver asks for a PIN. -/
  pin : Bool
  nonceJson : Codec RTCNonceMessage
  requestJson : Codec RTCTokenRequest
  responseJson : Codec RTCTokenResponse
  jsonError : Bytes → String
  sendError : String

variable {Secret Public : Type}

/-! ### The two sides -/

/-- `send_offer`. -/
inductive OfferCtl
  | sendNonce
  | receiveNonce
  | sendToken (nonce : Bytes)
  | receiveToken (nonce : Bytes)
  | exchanged (nonce : Bytes) (remoteToken : String)
  | failed (error : String)
  | panicked (message : String)
  deriving DecidableEq

/-- `accept_offer`. -/
inductive AcceptCtl
  | receiveNonce
  | sendNonce (remoteNonce : Bytes)
  | receiveToken (nonce : Bytes)
  | refuse
  | sendToken (nonce : Bytes) (remoteToken : String)
  | exchanged (nonce : Bytes) (remoteToken : String)
  | failed (error : String)
  | panicked (message : String)
  deriving DecidableEq

abbrev ExchangeCtl : Peer → Type
  | .sender => OfferCtl
  | .receiver => AcceptCtl

namespace ExchangeSetup
variable (x : ExchangeSetup Secret Public)

def nonceMessage (p : Peer) : DataChannelMessage :=
  text (x.nonceJson.toString ⟨String.ofList (urlSafe.encode (x.localNonce p).val)⟩)

/-- `receive_nonce`, on the next message. -/
def receiveNonce (msg : DataChannelMessage) : Except String Bytes :=
  if !msg.isString then .error "Expected string message"
  else
    match x.nonceJson.fromSlice msg.data with
    | none => .error (x.jsonError msg.data)
    | some nonceMsg =>
      match urlSafe.decode nonceMsg.nonce.toList with
      | none => .error "Failed to decode remote nonce"
      | some remoteNonce =>
        if validateNonce remoteNonce then .ok remoteNonce else .error "Invalid remote nonce"

/-- A token is looked at only if a key is expected. -/
def checkToken (p : Peer) (token : String) (nonce : Bytes) : Answer :=
  match x.expectingPublicKey p with
  | none => .value true
  | some key => verifyTokenNonce x.sha256 key token nonce

def localToken (p : Peer) (nonce : Bytes) : Except String String :=
  generateTokenNonce x.sha256 x.lib (x.signingKey p) nonce

def onResponse (nonce : Bytes) (token : String) : OfferCtl :=
  match x.checkToken .sender token nonce with
  | .value true => .exchanged nonce token
  | .value false => .failed "Invalid token signature or nonce"
  | .panicked message => .panicked message

def offerAct : OfferCtl → Act (fun _ : Peer => DataChannelMessage) OfferCtl
  | .sendNonce =>
    .on .receiver (.send (x.nonceMessage .sender) .receiveNonce (.failed ("Failed to send nonce: " ++ x.sendError)))
  | .receiveNonce =>
    .on .sender (.recv
      (fun msg =>
        match x.receiveNonce msg with
        | .error error => .failed error
        -- sender_nonce || receiver_nonce
        | .ok remoteNonce => .sendToken ((x.localNonce .sender).val ++ remoteNonce))
      (.failed "Failed to receive nonce"))
  | .sendToken nonce =>
    match x.localToken .sender nonce with
    | .error error => .tau (.failed ("Failed to generate token: " ++ error))
    | .ok token =>
      .on .receiver (.send (text (x.requestJson.toString ⟨token⟩)) (.receiveToken nonce)
        (.failed ("Failed to send token: " ++ x.sendError)))
  | .receiveToken nonce =>
    .on .sender (.recv
      (fun msg =>
        if !msg.isString then .failed "Expected string message"
        else
          match x.responseJson.fromSlice msg.data with
          | none => .failed (x.jsonError msg.data)
          | some (.ok token) => x.onResponse nonce token
          | some (.pinRequired token) => x.onResponse nonce token
          | some .invalidSignature => .failed "Invalid token signature from receiving peer")
      (.failed "Failed to receive token response"))
  | .exchanged _ _ => .halt
  | .failed _ => .halt
  | .panicked _ => .halt

def response (token : String) : RTCTokenResponse := if x.pin then .pinRequired token else .ok token

def onRequest (nonce : Bytes) (token : String) : AcceptCtl :=
  match x.checkToken .receiver token nonce with
  | .value true => .sendToken nonce token
  | .value false => .refuse
  | .panicked message => .panicked message

def acceptAct : AcceptCtl → Act (fun _ : Peer => DataChannelMessage) AcceptCtl
  | .receiveNonce =>
    .on .receiver (.recv
      (fun msg =>
        match x.receiveNonce msg with
        | .error error => .failed error
        | .ok remoteNonce => .sendNonce remoteNonce)
      (.failed "Failed to receive nonce"))
  | .sendNonce remoteNonce =>
    -- sender_nonce || receiver_nonce
    .on .sender (.send (x.nonceMessage .receiver) (.receiveToken (remoteNonce ++ (x.localNonce .receiver).val))
      (.failed ("Failed to send nonce: " ++ x.sendError)))
  | .receiveToken nonce =>
    .on .receiver (.recv
      (fun msg =>
        if !msg.isString then .failed "Expected string message"
        else
          match x.requestJson.fromSlice msg.data with
          | none => .failed (x.jsonError msg.data)
          | some request => x.onRequest nonce request.token)
      (.failed "Failed to receive token"))
  | .refuse =>
    .on .sender (.send (text (x.responseJson.toString .invalidSignature)) (.failed "Invalid token signature or nonce")
      (.failed x.sendError))
  | .sendToken nonce remoteToken =>
    match x.localToken .receiver nonce with
    | .error error => .tau (.failed ("Failed to generate token: " ++ error))
    | .ok token =>
      .on .sender (.send (text (x.responseJson.toString (x.response token))) (.exchanged nonce remoteToken)
        (.failed ("Failed to send token: " ++ x.sendError)))
  | .exchanged _ _ => .halt
  | .failed _ => .halt
  | .panicked _ => .halt

def act : (p : Peer) → ExchangeCtl p → Act (fun _ : Peer => DataChannelMessage) (ExchangeCtl p)
  | .sender => x.offerAct
  | .receiver => x.acceptAct

/-- Each side writes into the other's mailbox and reads its own. -/
theorem act_wired (p : Peer) (l : ExchangeCtl p) : (x.act p l).Keeps (fun c => c.other = p) (fun c => c = p) := by
  cases p with
  | sender =>
    cases l with
    | sendNonce => exact Act.keeps_send rfl
    | receiveNonce => exact Act.keeps_recv rfl
    | sendToken nonce =>
      simp only [act, offerAct]
      cases x.localToken .sender nonce with
      | error => exact Act.keeps_tau
      | ok => exact Act.keeps_send rfl
    | receiveToken => exact Act.keeps_recv rfl
    | exchanged => exact Act.keeps_halt
    | failed => exact Act.keeps_halt
    | panicked => exact Act.keeps_halt
  | receiver =>
    cases l with
    | receiveNonce => exact Act.keeps_recv rfl
    | sendNonce => exact Act.keeps_send rfl
    | receiveToken => exact Act.keeps_recv rfl
    | refuse => exact Act.keeps_send rfl
    | sendToken nonce =>
      simp only [act, acceptAct]
      cases x.localToken .receiver nonce with
      | error => exact Act.keeps_tau
      | ok => exact Act.keeps_send rfl
    | exchanged => exact Act.keeps_halt
    | failed => exact Act.keeps_halt
    | panicked => exact Act.keeps_halt

/-- The two sides over the data channel. -/
def net : Net Peer Peer ExchangeCtl (fun _ => DataChannelMessage) where
  act := x.act
  room _ := none
  writer := Peer.other
  reader c := c
  wired p l c op h := by
    have hwired := (x.act_wired p l c op h).1
    split at hwired
    · rename_i hop
      rw [if_pos hop]
      exact hwired
    · rename_i hop
      rw [if_neg hop]
      exact hwired

theorem keepsReading : x.net.KeepsReading := fun p l c op h => (x.act_wired p l c op h).2

end ExchangeSetup

abbrev ExchangeState := State ExchangeCtl (fun _ : Peer => DataChannelMessage)

/-- The data channel is open and nothing has been sent. -/
def exchangeStart : ExchangeState where
  ctl
    | .sender => .sendNonce
    | .receiver => .receiveNonce
  chan _ := .new

namespace ExchangeSetup
variable (x : ExchangeSetup Secret Public)

def system : Transition.System ExchangeState Peer := x.net.system exchangeStart

/-- The sender's nonce, then the receiver's. -/
def sessionNonce : Bytes := (x.localNonce .sender).val ++ (x.localNonce .receiver).val

/-- Both sides have the same nonce and the other's token for it. -/
def Exchanged (σ : ExchangeState) : Prop :=
  ∃ senderToken receiverToken,
    x.localToken .sender x.sessionNonce = .ok senderToken ∧ x.localToken .receiver x.sessionNonce = .ok receiverToken ∧
    σ.ctl .sender = .exchanged x.sessionNonce receiverToken ∧ σ.ctl .receiver = .exchanged x.sessionNonce senderToken

/-- The messages of an exchange are read back. -/
structure JsonReadsBack : Prop where
  nonce : ∀ p, x.nonceJson.ReadsBack ⟨String.ofList (urlSafe.encode (x.localNonce p).val)⟩
  request : ∀ token, x.localToken .sender x.sessionNonce = .ok token → x.requestJson.ReadsBack ⟨token⟩
  response : ∀ token, x.localToken .receiver x.sessionNonce = .ok token → x.responseJson.ReadsBack (x.response token)

/-- Each side expects the other's key, or none. -/
def ExpectsEachOther : Prop :=
  ∀ p, x.expectingPublicKey p = none ∨
    x.expectingPublicKey p = some (toVerifyingKey x.lib (x.signingKey p.other))

variable {x}

/-! ### Every run -/

theorem receiveNonce_message (hjson : x.JsonReadsBack) (p : Peer) :
    x.receiveNonce (x.nonceMessage p) = .ok (x.localNonce p).val := by
  have hread : x.nonceJson.fromSlice (x.nonceJson.toString
      ⟨String.ofList (urlSafe.encode (x.localNonce p).val)⟩) = some _ := hjson.nonce p
  simp only [receiveNonce, nonceMessage, text_isString, text_data, hread, String.toList_ofList,
    urlSafe.decode_encode, (x.localNonce p).valid, Bool.not_true, Bool.false_eq_true, if_false, if_true]

/-- The other's token passes. -/
theorem checkToken_other (hlib : x.lib.Correct) (hexpects : x.ExpectsEachOther) {p : Peer} {token : String}
    {nonce : Bytes} (htoken : x.localToken p.other nonce = .ok token) : x.checkToken p token nonce = .value true := by
  unfold checkToken
  obtain hnone | hsome := hexpects p
  · rw [hnone]
  · rw [hsome]
    exact (verifyTokenNonce_generate hlib htoken nonce).trans (by rw [decide_eq_true rfl])

section Schedule
variable {σ : ExchangeState} {m u : List DataChannelMessage}

/-- The sender's token arrives. -/
theorem request_arrives (hjson : x.JsonReadsBack) (hcheck : ∀ token, x.localToken .sender x.sessionNonce = .ok token →
    x.checkToken .receiver token x.sessionNonce = .value true) {token : String}
    (htoken : x.localToken .sender x.sessionNonce = .ok token) {l : OfferCtl}
    (h : Faces σ .receiver .sender (AcceptCtl.receiveToken x.sessionNonce) l
      (text (x.requestJson.toString ⟨token⟩) :: m) u) :
    ∃ τ, x.system.Leads σ τ ∧ Faces τ .receiver .sender (AcceptCtl.sendToken x.sessionNonce token) l m u := by
  have hread : x.requestJson.fromSlice (x.requestJson.toString ⟨token⟩) = some ⟨token⟩ := hjson.request token htoken
  have hgot : ∃ τ, x.system.Leads σ τ ∧ Faces τ .receiver .sender _ l m u := h.receives (by decide) rfl
  simp only [text_isString, text_data, hread, Bool.not_true, Bool.false_eq_true, if_false, onRequest,
    hcheck token htoken] at hgot
  exact hgot

/-- The receiver's token arrives. -/
theorem response_arrives (hjson : x.JsonReadsBack) (hcheck : ∀ token, x.localToken .receiver x.sessionNonce = .ok token →
    x.checkToken .sender token x.sessionNonce = .value true) {token : String}
    (htoken : x.localToken .receiver x.sessionNonce = .ok token) {k : AcceptCtl}
    (h : Faces σ .sender .receiver (OfferCtl.receiveToken x.sessionNonce) k
      (text (x.responseJson.toString (x.response token)) :: m) u) :
    ∃ τ, x.system.Leads σ τ ∧ Faces τ .sender .receiver (OfferCtl.exchanged x.sessionNonce token) k m u := by
  have hread : x.responseJson.fromSlice (x.responseJson.toString (x.response token)) = some (x.response token) :=
    hjson.response token htoken
  have hgot : ∃ τ, x.system.Leads σ τ ∧ Faces τ .sender .receiver _ k m u := h.receives (by decide) rfl
  simp only [text_isString, text_data, hread, Bool.not_true, Bool.false_eq_true, if_false] at hgot
  cases hpin : x.pin with
  | true =>
    simp only [response, hpin, if_true, onResponse, hcheck token htoken] at hgot
    exact hgot
  | false =>
    simp only [response, hpin, Bool.false_eq_true, if_false, onResponse, hcheck token htoken] at hgot
    exact hgot

/-- The nonces go back and forth. -/
theorem nonces_exchange (hjson : x.JsonReadsBack)
    (h : Faces σ .sender .receiver OfferCtl.sendNonce AcceptCtl.receiveNonce [] []) :
    ∃ τ, x.system.Leads σ τ ∧
      Faces τ .sender .receiver (OfferCtl.sendToken x.sessionNonce) (AcceptCtl.receiveToken x.sessionNonce) [] [] := by
  have hsent : ∃ τ, x.system.Leads σ τ ∧ Faces τ .sender .receiver _ AcceptCtl.receiveNonce [] [x.nonceMessage .sender] :=
    h.sends (by decide) rfl rfl
  obtain ⟨σ₁, hleads₁, h₁⟩ := hsent
  have hread : ∃ τ, x.system.Leads σ₁ τ ∧ Faces τ .receiver .sender _ OfferCtl.receiveNonce [] [] :=
    h₁.swap.receives (by decide) rfl
  simp only [receiveNonce_message hjson] at hread
  obtain ⟨σ₂, hleads₂, h₂⟩ := hread
  have hanswered : ∃ τ, x.system.Leads σ₂ τ ∧
      Faces τ .receiver .sender _ OfferCtl.receiveNonce [] [x.nonceMessage .receiver] := h₂.sends (by decide) rfl rfl
  obtain ⟨σ₃, hleads₃, h₃⟩ := hanswered
  have hdone : ∃ τ, x.system.Leads σ₃ τ ∧
      Faces τ .sender .receiver _ (AcceptCtl.receiveToken x.sessionNonce) [] [] := h₃.swap.receives (by decide) rfl
  simp only [receiveNonce_message hjson] at hdone
  obtain ⟨σ₄, hleads₄, h₄⟩ := hdone
  exact ⟨σ₄, ((hleads₁.trans hleads₂).trans hleads₃).trans hleads₄, h₄⟩

/-- One schedule that ends with both sides done. -/
theorem leads_to_exchanged (hlib : x.lib.Correct) (hjson : x.JsonReadsBack) (hexpects : x.ExpectsEachOther) :
    ∃ τ, x.system.Leads exchangeStart τ ∧ x.system.Stuck τ ∧ x.Exchanged τ := by
  obtain ⟨senderToken, hsender, -⟩ :=
    generateTokenNonce_genuine x.sha256 hlib (x.signingKey .sender) x.sessionNonce
  obtain ⟨receiverToken, hreceiver, -⟩ :=
    generateTokenNonce_genuine x.sha256 hlib (x.signingKey .receiver) x.sessionNonce
  have hstart : Faces exchangeStart .sender .receiver OfferCtl.sendNonce AcceptCtl.receiveNonce [] [] :=
    ⟨rfl, rfl, rfl, rfl, fun _ => ⟨rfl, rfl⟩⟩
  obtain ⟨σ₁, hleads₁, h₁⟩ := nonces_exchange hjson hstart
  have hact : x.net.act .sender (OfferCtl.sendToken x.sessionNonce) =
      .on .receiver (.send (text (x.requestJson.toString ⟨senderToken⟩)) (.receiveToken x.sessionNonce)
        (.failed ("Failed to send token: " ++ x.sendError))) := by
    simp only [net, act, offerAct, localToken, hsender]
  have hrequest : ∃ τ, x.system.Leads σ₁ τ ∧ Faces τ .sender .receiver (OfferCtl.receiveToken x.sessionNonce)
      (AcceptCtl.receiveToken x.sessionNonce) [] [text (x.requestJson.toString ⟨senderToken⟩)] :=
    h₁.sends (by decide) rfl hact
  obtain ⟨σ₂, hleads₂, h₂⟩ := hrequest
  obtain ⟨σ₃, hleads₃, h₃⟩ := request_arrives hjson (fun token htoken => checkToken_other hlib hexpects htoken)
    hsender h₂.swap
  have hact' : x.net.act .receiver (AcceptCtl.sendToken x.sessionNonce senderToken) =
      .on .sender (.send (text (x.responseJson.toString (x.response receiverToken)))
        (.exchanged x.sessionNonce senderToken) (.failed ("Failed to send token: " ++ x.sendError))) := by
    simp only [net, act, acceptAct, localToken, hreceiver]
  have hresponse : ∃ τ, x.system.Leads σ₃ τ ∧ Faces τ .receiver .sender
      (AcceptCtl.exchanged x.sessionNonce senderToken) (OfferCtl.receiveToken x.sessionNonce) []
      [text (x.responseJson.toString (x.response receiverToken))] := h₃.sends (by decide) rfl hact'
  obtain ⟨σ₄, hleads₄, h₄⟩ := hresponse
  obtain ⟨σ₅, hleads₅, h₅⟩ := response_arrives hjson (fun token htoken => checkToken_other hlib hexpects htoken)
    hreceiver h₄.swap
  refine ⟨σ₅, (((hleads₁.trans hleads₂).trans hleads₃).trans hleads₄).trans hleads₅, ?_, ?_⟩
  · intro p
    cases p with
    | sender => exact Net.step_halt ((congrArg (x.act .sender) h₅.ctl).trans rfl)
    | receiver => exact Net.step_halt ((congrArg (x.act .receiver) h₅.other).trans rfl)
  · exact ⟨senderToken, receiverToken, hsender, hreceiver, h₅.ctl, h₅.other⟩

end Schedule
end ExchangeSetup

/-- **Tokens bind to the key and to the session.** A token verifies under its key for
its own nonce and no other. Every run of the exchange ends, with the same nonce and the
other's token on both sides; and a token made for another nonce is refused there. -/
theorem tokens_bind (x : ExchangeSetup Secret Public) (hlib : x.lib.Correct) :
    (∀ (key : Secret) (salt nonce : Bytes), ∃ token, generateTokenNonce x.sha256 x.lib key salt = .ok token ∧
      (verifyTokenNonce x.sha256 (toVerifyingKey x.lib key) token nonce = .value true ↔ nonce = salt)) ∧
    (x.JsonReadsBack → x.ExpectsEachOther → x.system.Settles exchangeStart x.Exchanged) ∧
    (∀ (p : Peer) (other : Bytes) (recorded : String), x.localToken p other = .ok recorded →
      verifyTokenNonce x.sha256 (toVerifyingKey x.lib (x.signingKey p)) recorded x.sessionNonce =
        .value (decide (x.sessionNonce = other))) := by
  refine ⟨fun key salt nonce => ?_, fun hjson hexpects => ?_, fun p other recorded hrecorded => ?_⟩
  · obtain ⟨token, htoken, -⟩ := generateTokenNonce_genuine x.sha256 hlib key salt
    refine ⟨token, htoken, ?_⟩
    rw [verifyTokenNonce_generate hlib htoken]
    simp
  · obtain ⟨τ, hleads, hstuck, hexchanged⟩ := ExchangeSetup.leads_to_exchanged hlib hjson hexpects
    exact settles_of_leads (Net.diamond x.keepsReading exchangeStart) hleads hstuck hexchanged
  · exact verifyTokenNonce_generate hlib hrecorded x.sessionNonce

/-! ### A session with two fixed nonces -/

/-- The hash of the public key and the two nonces below, and its signature. -/
def sessionDigest : Bytes :=
  [52, 54, 228, 105, 187, 160, 20, 208, 234, 146, 123, 115, 197, 180, 205, 212, 31, 190, 82, 184, 16, 12, 234, 200,
    208, 253, 90, 207, 232, 111, 99, 247]

def sessionSignature : Bytes :=
  [70, 58, 46, 173, 92, 153, 11, 117, 153, 230, 26, 98, 62, 169, 87, 147, 215, 54, 213, 5, 105, 139, 150, 14, 63, 240,
    62, 202, 61, 94, 235, 14, 157, 64, 123, 105, 136, 171, 181, 158, 10, 114, 31, 65, 0, 207, 217, 170, 27, 133, 122,
    45, 69, 123, 52, 166, 52, 178, 227, 64, 152, 25, 134, 5]

/-- Begins with `sha256.NDbkabugFNDqkntzxbTN1B--UrgQDOrI0P1az-hvY_c.AQEBAQEB`. -/
def sessionToken : String :=
  Crypto.formatToken "sha256".toList (urlSafe.encode sessionDigest)
    (urlSafe.encode (List.replicate 32 1 ++ List.replicate 32 2)) "ed25519".toList (urlSafe.encode sessionSignature)

/-- The signature library with one key. -/
def oneKey : Ed25519 Unit Unit where
  verifyingKey key := key
  sign _ msg := if msg = sessionDigest then sessionSignature else msg
  verify _ msg signature := signature = if msg = sessionDigest then sessionSignature else msg
  toPublicKeyDer _ := .ok Crypto.sampleDer

theorem oneKey_correct : oneKey.Correct :=
  ⟨fun _ _ => decide_eq_true rfl, fun _ => ⟨Crypto.sampleDer, rfl⟩⟩

/-- Both sides use that key, and each expects the other to. -/
def oneKeySession : ExchangeSetup Unit Unit where
  sha256 input :=
    if input = Crypto.sampleDer ++ List.replicate 32 1 ++ List.replicate 32 2 then sessionDigest else []
  lib := oneKey
  signingKey _ := ()
  localNonce
    | .sender => ⟨List.replicate 32 1, rfl⟩
    | .receiver => ⟨List.replicate 32 2, rfl⟩
  expectingPublicKey _ := some (toVerifyingKey oneKey ())
  pin := false
  nonceJson := tableJson (fun message => "\x7b\"nonce\":\"" ++ message.nonce ++ "\"\x7d")
    [⟨"AQEBAQEBAQEBAQEBAQEBAQEBAQEBAQEBAQEBAQEBAQE"⟩, ⟨"AgICAgICAgICAgICAgICAgICAgICAgICAgICAgICAgI"⟩]
  requestJson := tableJson (fun request => "\x7b\"token\":\"" ++ request.token ++ "\"\x7d") [⟨sessionToken⟩]
  responseJson := tableJson
    (fun
      | .ok token => "\x7b\"status\":\"OK\",\"token\":\"" ++ token ++ "\"\x7d"
      | .pinRequired token => "\x7b\"status\":\"PIN_REQUIRED\",\"token\":\"" ++ token ++ "\"\x7d"
      | .invalidSignature => "\x7b\"status\":\"INVALID_SIGNATURE\"\x7d")
    [.ok sessionToken, .pinRequired sessionToken, .invalidSignature]
  jsonError _ := "EOF while parsing a value"
  sendError := "Data channel is closed"

theorem oneKeySession_token (p : Peer) :
    oneKeySession.localToken p oneKeySession.sessionNonce = .ok sessionToken := by
  cases p <;> rfl

theorem oneKeySession_readsBack : oneKeySession.JsonReadsBack where
  nonce p := by
    cases p <;> decide +kernel
  request token htoken := by
    obtain rfl := Except.ok.inj ((oneKeySession_token .sender).symm.trans htoken)
    simp [Codec.ReadsBack, oneKeySession, tableJson]
  response token htoken := by
    obtain rfl := Except.ok.inj ((oneKeySession_token .receiver).symm.trans htoken)
    simp [Codec.ReadsBack, oneKeySession, tableJson, ExchangeSetup.response]

/-- Every run of that session ends with both sides in agreement. -/
theorem tokens_bind_oneKey : oneKeySession.system.Settles exchangeStart oneKeySession.Exchanged :=
  (tokens_bind oneKeySession oneKey_correct).2.1 oneKeySession_readsBack fun _ => .inr rfl

end MagicShare.WebRtc
