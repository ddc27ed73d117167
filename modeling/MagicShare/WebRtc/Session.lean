import Mathlib.Data.List.Dedup
import MagicShare.Base.Duos
import MagicShare.Base.Parts
import MagicShare.WebRtc.NonceExchange
import MagicShare.WebRtc.Transfer

/-! A whole session over an open data channel.

`send_offer` and `accept_offer` go through the exchange of nonces and tokens, the PIN
phases and the transfer, which are modelled on their own, and between the last two
through the file list and the selection. Each phase is run where the one before has left
off; a state of a phase is a state of the session (`Session.offerAct`,
`Session.acceptAct`). The receiving application first decides what it takes. -/
namespace MagicShare.WebRtc
open Network
open Crypto (Ed25519 VerifyingTokenKey verifyTokenNonce tokenParts)
open Lan (GeneratedNonce)

/-! ### Messages -/

/-- Sent by the receiving peer after the file list. -/
inductive RTCFileListResponse
  | ok (files : List (String × String))
  | pair (publicKey : String)
  | declined
  | invalidSignature
  deriving DecidableEq

/-- Pair response by the sending peer. -/
inductive RTCPairResponse
  | ok (publicKey : String)
  | pairDeclined
  | invalidSignature
  deriving DecidableEq

/-- The statuses of the phases, and those that end a session. -/
inductive SessionStatus
  | during (status : RTCStatus)
  | declined
  | finished
  deriving DecidableEq

/-- `extract_signature_identifier`. -/
def extractSignatureIdentifier (token : String) : Option String := ((tokenParts token)[3]?).map String.ofList

/-! ### What a session starts from -/

structure Session (Secret Public : Type) where
  sha256 : Bytes → Bytes
  lib : Ed25519 Secret Public
  signingKey : Peer → Secret
  localNonce : Peer → GeneratedNonce
  expectingPublicKey : Peer → Option VerifyingTokenKey
  pin : Peer → Option PinConfig
  /-- What the user of a side types when asked for the n-th time. -/
  guess : Peer → Nat → String
  files : List FileDto
  /-- The ids that the receiver's user selects of a file list; `none` to decline. -/
  select : List FileDto → Option (String → Bool)
  /-- The UUID that is drawn for a selected file. -/
  fileToken : String → String
  /-- What the sending application queues once it knows the selected ids. -/
  queue : List String → List OutgoingFile
  outcome : Nat → Outcome
  /-- What the sender's user says to a request to pair. -/
  pairAnswer : Bool
  /-- `parse_public_key`. -/
  parsePublicKey : String → String → Option VerifyingTokenKey
  nonceJson : Codec RTCNonceMessage
  requestJson : Codec RTCTokenRequest
  tokenJson : Codec RTCTokenResponse
  pinJson : Codec RTCPinMessage
  receivingJson : Codec RTCPinReceivingResponse
  sendingJson : Codec (RTCPinSendingResponse (List FileDto))
  fileListJson : Codec RTCFileListResponse
  pairString : RTCPairResponse → Bytes
  headerJson : Codec RTCSendFileHeaderRequest
  responseString : RTCSendFileResponse → Bytes
  jsonError : Bytes → String
  sendError : String

variable {Secret Public : Type}

namespace Session
variable (s : Session Secret Public)

/-- The exchange of nonces and tokens. -/
def exchange : ExchangeSetup Secret Public where
  sha256 := s.sha256
  lib := s.lib
  signingKey := s.signingKey
  localNonce := s.localNonce
  expectingPublicKey := s.expectingPublicKey
  pin := (s.pin .receiver).isSome
  nonceJson := s.nonceJson
  requestJson := s.requestJson
  responseJson := s.tokenJson
  jsonError := s.jsonError
  sendError := s.sendError

/-- The PIN phases, for the receiver's token. -/
def pins (receiverToken : String) : Setup (List FileDto) where
  pin := s.pin
  guess := s.guess
  files := s.files
  localToken := receiverToken
  tokenJson := s.tokenJson
  pinJson := s.pinJson
  receivingJson := s.receivingJson
  sendingJson := s.sendingJson
  sendError := s.sendError
  jsonError := s.jsonError

/-- The selected files of a list: the keys of the tokens. -/
def selectedFiles (fileList : List FileDto) (selected : String → Bool) : List String :=
  ((fileList.map FileDto.id).filter selected).dedup

/-- `file_tokens`. -/
def fileTokens (fileList : List FileDto) (selected : String → Bool) : List (String × String) :=
  (selectedFiles fileList selected).map fun id => (id, s.fileToken id)

/-- What the receiving loop knows of the transfer. -/
def accepted (fileList : List FileDto) (selected : String → Bool) : Transfer where
  fileList := fileList
  selectedFiles := selectedFiles fileList selected
  token := s.fileToken
  queue := []
  header := s.headerJson
  responseString := s.responseString
  sendError := s.sendError
  selectedListed id hid := by
    simp only [selectedFiles, List.mem_dedup, List.mem_filter, List.mem_map] at hid
    obtain ⟨⟨f, hf, hfid⟩, -⟩ := hid
    exact ⟨f, hf, hfid⟩
  queueSelected f hf := by cases hf

/-- What the sending loop knows of the transfer: the tokens. -/
def granted (files : List (String × String)) : Transfer where
  fileList := files.map fun file => ⟨file.1, 0⟩
  selectedFiles := files.map Prod.fst
  token id := (files.lookup id).getD ""
  queue := []
  header := s.headerJson
  responseString := s.responseString
  sendError := s.sendError
  selectedListed id hid := by
    obtain ⟨file, hfile, rfl⟩ := List.mem_map.mp hid
    exact ⟨⟨file.1, 0⟩, List.mem_map.mpr ⟨file, hfile, rfl⟩, rfl⟩
  queueSelected f hf := by cases hf

end Session

/-! ### Channels -/

inductive SessionChannel
  /-- The data channel, by the peer that reads. -/
  | inbox (p : Peer)
  | status (p : Peer)
  | files
  | selection
  | selected
  | sendErrors
  | receiveErrors
  | receiving
  | binary (k : Nat)
  | results
  deriving DecidableEq

abbrev SessionChannel.Value : SessionChannel → Type
  | inbox _ => DataChannelMessage
  | status _ => SessionStatus
  | files => List FileDto
  | selection => Option (String → Bool)
  | selected => List String
  | sendErrors => RTCFileError
  | receiveErrors => RTCFileError
  | receiving => RTCFile
  | binary _ => Bytes
  | results => RTCSendFileResponse

def Peer.party : Peer → Party
  | sender => .sender
  | receiver => .receiver

namespace PinChannel

/-- Where a channel of the PIN phases is in the session. -/
def place : PinChannel → SessionChannel
  | inbox p => .inbox p
  | status p => .status p

def toWhole : (c : PinChannel) → c.Value → c.place.Value
  | inbox _, msg => msg
  | status _, st => .during st

/-- Nobody reads a status here. -/
def toPart : (c : PinChannel) → c.place.Value → c.Value
  | inbox _, msg => msg
  | status _, .during st => st
  | status _, _ => .connected

end PinChannel

namespace Channel

/-- Where a channel of the transfer is in the session. -/
def place : Channel → SessionChannel
  | down => .inbox .receiver
  | up => .inbox .sender
  | sendErrors => .sendErrors
  | receiveErrors => .receiveErrors
  | receiving => .receiving
  | binary k => .binary k
  | results => .results

def toWhole : (c : Channel) → c.Value → c.place.Value
  | down, v => v
  | up, v => v
  | sendErrors, v => v
  | receiveErrors, v => v
  | receiving, v => v
  | binary _, v => v
  | results, v => v

def toPart : (c : Channel) → c.place.Value → c.Value
  | down, v => v
  | up, v => v
  | sendErrors, v => v
  | receiveErrors, v => v
  | receiving, v => v
  | binary _, v => v
  | results, v => v

end Channel

/-! ### The sender -/

/-- Where the task of `send_offer` is. -/
inductive OfferSession
  | exchanging (l : OfferCtl)
  | checking (nonce : Bytes) (remoteToken : String) (l : Peer.sender.Ctl (List FileDto))
  /-- `receive_string_from_chunks`: the file list response, the second one after a request to pair. -/
  | collecting (nonce : Bytes) (remoteToken : String) (paired : Bool) (buffer : Bytes)
  | refusing
  | pairing (nonce : Bytes) (remoteToken : String) (response : RTCPairResponse)
  | publishing (files : List (String × String))
  | sending (files : List (String × String)) (l : SendCtl)
  | failing (error : String)
  | declined
  | finishing
  | ended (result : TaskResult)
  | panicked

namespace Session
variable (s : Session Secret Public)

/-- The receiver's token is looked at, and the PIN phases begin as its response says. -/
def checkResponse (nonce : Bytes) (token : String) (phase : Peer.sender.Phase (List FileDto)) : OfferSession :=
  match s.exchange.checkToken .sender token nonce with
  | .value true => .checking nonce token ⟨phase, none, none⟩
  | .value false => .ended .err
  | .panicked _ => .panicked

def onTokenResponse (nonce : Bytes) (msg : DataChannelMessage) : OfferSession :=
  if !msg.isString then .ended .err
  else
    match s.tokenJson.fromSlice msg.data with
    | none => .ended .err
    | some (.ok token) => s.checkResponse nonce token (startSenderPin (s.pins token))
    | some (.pinRequired token) => s.checkResponse nonce token (.handling (.notify 0))
    | some .invalidSignature => .ended .err

/-- A request to pair: the key must be the one that the receiver's token is signed with. -/
def onPair (nonce : Bytes) (remoteToken publicKey : String) : OfferSession :=
  match extractSignatureIdentifier remoteToken with
  | none => .ended .err
  | some identifier =>
    match s.parsePublicKey publicKey identifier with
    | none => .ended .err
    | some key =>
      match verifyTokenNonce s.sha256 key remoteToken nonce with
      | .value true => .pairing nonce remoteToken (if s.pairAnswer then .ok publicKey else .pairDeclined)
      | .value false => .refusing
      | .panicked _ => .panicked

def onFileListResponse (nonce : Bytes) (remoteToken : String) (paired : Bool) (data : Bytes) : OfferSession :=
  match s.fileListJson.fromSlice data with
  | none => .ended .err
  | some (.ok files) => .publishing files
  | some (.pair publicKey) =>
    if paired then .failing "Unexpected pair response" else s.onPair nonce remoteToken publicKey
  | some .declined => .declined
  | some .invalidSignature => .failing "Invalid signature (not expected)"

def offerAct : OfferSession → Act SessionChannel.Value OfferSession
  | .exchanging (.receiveToken nonce) =>
    .on (.inbox .sender) (.recv (s.onTokenResponse nonce) (.ended .err))
  | .exchanging (.failed _) => .tau (.ended .err)
  | .exchanging (.panicked _) => .tau .panicked
  | .exchanging l => (s.exchange.offerAct l).convey SessionChannel.inbox (fun _ v => v) (fun _ v => v) .exchanging
  | .checking nonce remoteToken ⟨.own .listed, _, _⟩ => .tau (.collecting nonce remoteToken false [])
  | .checking _ _ ⟨.own (.failed _), _, _⟩ => .tau (.ended .err)
  | .checking nonce remoteToken l =>
    ((s.pins remoteToken).act .sender l).convey PinChannel.place PinChannel.toWhole PinChannel.toPart
      (.checking nonce remoteToken)
  | .collecting nonce remoteToken paired buffer =>
    .on (.inbox .sender) (.recv
      (fun msg =>
        if msg.isString then s.onFileListResponse nonce remoteToken paired buffer
        else .collecting nonce remoteToken paired (buffer ++ msg.data))
      (s.onFileListResponse nonce remoteToken paired buffer))
  | .refusing =>
    .on (.inbox .receiver) (.send (text (s.pairString .invalidSignature)) (.ended .err) (.ended .err))
  | .pairing nonce remoteToken response =>
    .on (.inbox .receiver) (.send (text (s.pairString response)) (.collecting nonce remoteToken true []) (.ended .err))
  | .publishing files =>
    .on .selected (.send (files.map Prod.fst) (.sending files (.next (s.queue (files.map Prod.fst)))) (.ended .err))
  | .sending _ (.done .ok) => .tau .finishing
  | .sending _ (.done .err) => .tau (.ended .err)
  | .sending files l =>
    (sendAct (s.granted files) l).convey Channel.place Channel.toWhole Channel.toPart (.sending files)
  | .failing error => .on (.status .sender) (.send (.during (.error error)) (.ended .err) (.ended .err))
  | .declined => .on (.status .sender) (.send .declined .finishing .finishing)
  | .finishing => .on (.status .sender) (.send .finished (.ended .ok) (.ended .ok))
  | .ended _ => .halt
  | .panicked => .halt

end Session

/-! ### The receiver and its application -/

/-- Where the task of `accept_offer` is. -/
inductive AcceptSession
  | exchanging (l : AcceptCtl)
  | checking (localToken : String) (l : Peer.receiver.Ctl (List FileDto))
  | publishing (fileList : List FileDto)
  | choosing (fileList : List FileDto)
  | declining (more : List DataChannelMessage)
  | granting (fileList : List FileDto) (selected : String → Bool) (more : List DataChannelMessage)
  | receiving (fileList : List FileDto) (selected : String → Bool) (l : ReceiveCtl)
  | finishing
  | ended (result : TaskResult)
  | panicked

inductive AppSession
  | deciding
  | answering (selection : Option (String → Bool))
  | handling (l : AppCtl)

namespace Session
variable (s : Session Secret Public)

/-- The answer to the file list. -/
def onSelection (fileList : List FileDto) : Option (String → Bool) → AcceptSession
  | none => .declining (chunked (s.fileListJson.toString .declined))
  | some selected =>
    .granting fileList selected (chunked (s.fileListJson.toString (.ok (s.fileTokens fileList selected))))

def acceptAct : AcceptSession → Act SessionChannel.Value AcceptSession
  | .exchanging (.sendToken nonce _) =>
    match s.exchange.localToken .receiver nonce with
    | .error _ => .tau (.ended .err)
    | .ok token =>
      .on (.inbox .sender) (.send (text (s.tokenJson.toString (tokenResponse (s.pins token))))
        (.checking token ⟨afterToken (s.pins token), none, none⟩) (.ended .err))
  | .exchanging (.failed _) => .tau (.ended .err)
  | .exchanging (.panicked _) => .tau .panicked
  | .exchanging l => (s.exchange.acceptAct l).convey SessionChannel.inbox (fun _ v => v) (fun _ v => v) .exchanging
  | .checking _ ⟨.own (.received fileList), _, _⟩ => .tau (.publishing fileList)
  | .checking _ ⟨.own (.failed _), _, _⟩ => .tau (.ended .err)
  | .checking localToken l =>
    ((s.pins localToken).act .receiver l).convey PinChannel.place PinChannel.toWhole PinChannel.toPart
      (.checking localToken)
  | .publishing fileList => .on .files (.send fileList (.choosing fileList) (.ended .err))
  | .choosing fileList => .on .selection (.recv (s.onSelection fileList) .finishing)
  | .declining [] => .tau .finishing
  | .declining (msg :: more) => .on (.inbox .sender) (.send msg (.declining more) (.ended .err))
  | .granting fileList selected [] => .tau (.receiving fileList selected (.listening none 0))
  | .granting fileList selected (msg :: more) =>
    .on (.inbox .sender) (.send msg (.granting fileList selected more) (.ended .err))
  | .receiving _ _ (.done .ok) => .tau .finishing
  | .receiving _ _ (.done .err) => .tau (.ended .err)
  | .receiving fileList selected l =>
    (receiveAct (s.accepted fileList selected) l).convey Channel.place Channel.toWhole Channel.toPart
      (.receiving fileList selected)
  | .finishing => .on (.status .receiver) (.send .finished (.ended .ok) (.ended .ok))
  | .ended _ => .halt
  | .panicked => .halt

def appAct : AppSession → Act SessionChannel.Value AppSession
  | .deciding => .on .files (.recv (fun fileList => .answering (s.select fileList)) (.handling .stopped))
  | .answering selection => .on .selection (.send selection (.handling (.idle 0)) (.handling (.idle 0)))
  | .handling l => (WebRtc.appAct s.outcome l).convey Channel.place Channel.toWhole Channel.toPart .handling

end Session

/-! ### All together -/

abbrev Party.Session : Party → Type
  | sender => OfferSession
  | receiver => AcceptSession
  | app => AppSession

namespace SessionChannel

def room : SessionChannel → Option Nat
  | receiving => some 1
  | binary _ => some 4
  | results => some 1
  | _ => none

def writer : SessionChannel → Party
  | inbox p => p.other.party
  | status p => p.party
  | selected | sendErrors => .sender
  | files | receiveErrors | receiving | binary _ => .receiver
  | selection | results => .app

/-- The statuses are not read here. -/
def reader : SessionChannel → Party
  | inbox p => p.party
  | status p => p.other.party
  | selection | results => .receiver
  | files | selected | sendErrors | receiveErrors | receiving | binary _ => .app

end SessionChannel

/-- A party that uses its own ends of the channels. -/
def Party.Uses (p : Party) {L : Type} (act : Act SessionChannel.Value L) : Prop :=
  act.Uses (fun c => c.writer = p) (fun c => c.reader = p)

/-- One that keeps what it reads, too. -/
def Party.Keeps (p : Party) {L : Type} (act : Act SessionChannel.Value L) : Prop :=
  act.Keeps (fun c => c.writer = p) (fun c => c.reader = p)

theorem PinChannel.place_writer (c : PinChannel) : c.place.writer = c.writer.party := by
  cases c <;> rfl

theorem PinChannel.place_reader (c : PinChannel) : c.place.reader = c.reader.party := by
  cases c <;> rfl

theorem Channel.place_writer (c : Channel) : c.place.writer = c.writer := by
  cases c <;> rfl

theorem Channel.place_reader (c : Channel) : c.place.reader = c.reader := by
  cases c <;> rfl

namespace Session
variable (s : Session Secret Public)

def act : (p : Party) → p.Session → Act SessionChannel.Value p.Session
  | .sender => s.offerAct
  | .receiver => s.acceptAct
  | .app => s.appAct

/-! ### Who uses which end -/

section Ends
variable {s} {L : Type}

theorem exchange_keeps (p : Peer) (f : ExchangeCtl p → L) (l : ExchangeCtl p) :
    p.party.Keeps ((s.exchange.act p l).convey SessionChannel.inbox (fun _ v => v) (fun _ v => v) f) :=
  (s.exchange.act_wired p l).convey f (fun _ hc => congrArg Peer.party hc) (fun _ hc => congrArg Peer.party hc)

theorem pins_keeps (token : String) (p : Peer) (f : p.Ctl (List FileDto) → L) (l : p.Ctl (List FileDto)) :
    p.party.Keeps (((s.pins token).act p l).convey PinChannel.place PinChannel.toWhole PinChannel.toPart f) :=
  ((s.pins token).act_wired p l).convey f (fun c hc => c.place_writer.trans (congrArg Peer.party hc))
    (fun c hc => c.place_reader.trans (congrArg Peer.party hc))

theorem transfer_uses (t : Transfer) (outcome : Nat → Outcome) (p : Party) (f : p.Ctl → L) (l : p.Ctl) :
    p.Uses ((t.act outcome p l).convey Channel.place Channel.toWhole Channel.toPart f) :=
  ((t.net outcome).uses p l).convey f (fun c hc => c.place_writer.trans hc) (fun c hc => c.place_reader.trans hc)

theorem transfer_keeps (t : Transfer) {outcome : Nat → Outcome} (h : ReadsToTheEnd outcome) (p : Party) (f : p.Ctl → L)
    (l : p.Ctl) : p.Keeps ((t.act outcome p l).convey Channel.place Channel.toWhole Channel.toPart f) :=
  ((t.keepsReading h).keeps p l).convey f (fun c hc => c.place_writer.trans hc) (fun c hc => c.place_reader.trans hc)

/-- The loops let go of nothing, whatever the application does. -/
theorem reads_success : ReadsToTheEnd fun _ => .success := fun _ => rfl

theorem offerAct_keeps (l : OfferSession) : Party.sender.Keeps (s.offerAct l) := by
  cases l with
  | exchanging l =>
    have hexchange := exchange_keeps (s := s) .sender OfferSession.exchanging l
    cases l with
    | receiveToken => exact Act.keeps_recv rfl
    | failed => exact Act.keeps_tau
    | panicked => exact Act.keeps_tau
    | sendNonce => exact hexchange
    | receiveNonce => exact hexchange
    | sendToken => exact hexchange
    | exchanged => exact hexchange
  | checking nonce remoteToken l =>
    have hpins := pins_keeps (s := s) remoteToken .sender (OfferSession.checking nonce remoteToken) l
    obtain ⟨phase, handled, verified⟩ := l
    cases phase with
    | own phase =>
      cases phase with
      | listed => exact Act.keeps_tau
      | failed => exact Act.keeps_tau
      | token => exact hpins
      | connected => exact hpins
      | listing => exact hpins
    | handling => exact hpins
    | verifying => exact hpins
  | collecting => exact Act.keeps_recv rfl
  | refusing => exact Act.keeps_send rfl
  | pairing => exact Act.keeps_send rfl
  | publishing => exact Act.keeps_send rfl
  | sending files l =>
    have htransfer := transfer_keeps (s.granted files) reads_success .sender (OfferSession.sending files) l
    cases l with
    | done result => cases result <;> exact Act.keeps_tau
    | _ => exact htransfer
  | failing => exact Act.keeps_send rfl
  | declined => exact Act.keeps_send rfl
  | finishing => exact Act.keeps_send rfl
  | ended => exact Act.keeps_halt
  | panicked => exact Act.keeps_halt

theorem acceptAct_keeps (l : AcceptSession) : Party.receiver.Keeps (s.acceptAct l) := by
  cases l with
  | exchanging l =>
    have hexchange := exchange_keeps (s := s) .receiver AcceptSession.exchanging l
    cases l with
    | sendToken nonce =>
      simp only [acceptAct]
      split
      · exact Act.keeps_tau
      · exact Act.keeps_send rfl
    | failed => exact Act.keeps_tau
    | panicked => exact Act.keeps_tau
    | receiveNonce => exact hexchange
    | sendNonce => exact hexchange
    | receiveToken => exact hexchange
    | refuse => exact hexchange
    | exchanged => exact hexchange
  | checking localToken l =>
    have hpins := pins_keeps (s := s) localToken .receiver (AcceptSession.checking localToken) l
    obtain ⟨phase, handled, verified⟩ := l
    cases phase with
    | own phase =>
      cases phase with
      | received => exact Act.keeps_tau
      | failed => exact Act.keeps_tau
      | _ => exact hpins
    | handling => exact hpins
    | verifying => exact hpins
  | publishing => exact Act.keeps_send rfl
  | choosing => exact Act.keeps_recv rfl
  | declining more =>
    cases more with
    | nil => exact Act.keeps_tau
    | cons => exact Act.keeps_send rfl
  | granting fileList selected more =>
    cases more with
    | nil => exact Act.keeps_tau
    | cons => exact Act.keeps_send rfl
  | receiving fileList selected l =>
    have htransfer := transfer_keeps (s.accepted fileList selected) reads_success .receiver
      (AcceptSession.receiving fileList selected) l
    cases l with
    | done result => cases result <;> exact Act.keeps_tau
    | _ => exact htransfer
  | finishing => exact Act.keeps_send rfl
  | ended => exact Act.keeps_halt
  | panicked => exact Act.keeps_halt

theorem deciding_keeps : Party.app.Keeps (s.appAct .deciding) := Act.keeps_recv rfl

theorem answering_keeps (selection : Option (String → Bool)) : Party.app.Keeps (s.appAct (.answering selection)) :=
  Act.keeps_send rfl

theorem appAct_uses (l : AppSession) : Party.app.Uses (s.appAct l) := by
  cases l with
  | deciding => exact deciding_keeps.uses
  | answering selection => exact (answering_keeps selection).uses
  | handling l => exact transfer_uses (s.granted []) s.outcome .app AppSession.handling l

theorem appAct_keeps (h : ReadsToTheEnd s.outcome) (l : AppSession) : Party.app.Keeps (s.appAct l) := by
  cases l with
  | deciding => exact deciding_keeps
  | answering selection => exact answering_keeps selection
  | handling l => exact transfer_keeps (s.granted []) h .app AppSession.handling l

theorem act_uses (p : Party) (l : p.Session) : p.Uses (s.act p l) := by
  cases p with
  | sender => exact (offerAct_keeps l).uses
  | receiver => exact (acceptAct_keeps l).uses
  | app => exact appAct_uses l

theorem act_keeps (h : ReadsToTheEnd s.outcome) (p : Party) (l : p.Session) : p.Keeps (s.act p l) := by
  cases p with
  | sender => exact offerAct_keeps l
  | receiver => exact acceptAct_keeps l
  | app => exact appAct_keeps h l

end Ends

/-- The two tasks and the receiving application. -/
def net : Net Party SessionChannel Party.Session SessionChannel.Value where
  act := s.act
  room := SessionChannel.room
  writer := SessionChannel.writer
  reader := SessionChannel.reader
  wired p l _ _ hact := (act_uses p l).wired hact

theorem keepsReading (h : ReadsToTheEnd s.outcome) : s.net.KeepsReading := fun p l c op hact =>
  (act_keeps h p l c op hact).2

end Session

abbrev SessionState := State Party.Session SessionChannel.Value

/-- The data channel is open and nothing has been sent. -/
def sessionStart : SessionState where
  ctl
    | .sender => .exchanging .sendNonce
    | .receiver => .exchanging .receiveNonce
    | .app => .deciding
  chan _ := .new

def Session.system (s : Session Secret Public) : Transition.System SessionState Party := s.net.system sessionStart

/-! ### The phases as parts of a session -/

namespace Session
variable (s : Session Secret Public)

end Session
end MagicShare.WebRtc
