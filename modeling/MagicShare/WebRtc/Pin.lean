import MagicShare.WebRtc.Messages

/-! The PIN phases of a connection.

Each peer may ask the other for a PIN: first the receiver, with its token response,
then the sender, before it sends the file list. `verify_pin` runs at the peer that
asks, `handle_pin` at the one that is asked. The receiver puts its results in one
text each; the sender puts them, like the file list, in chunks with a delimiter.

The phases start with the token response, for a sender that accepts the token. What
the users type is a stream for each side; the file list is not looked into here. -/
namespace MagicShare.WebRtc
open Network

/-! ### Messages -/

inductive RTCTokenResponse
  | ok (token : String)
  | pinRequired (token : String)
  | invalidSignature
  deriving DecidableEq

structure RTCPinMessage where
  pin : String
  deriving DecidableEq

/-- Response to the PIN message by the receiving peer. -/
inductive RTCPinReceivingResponse
  | ok
  | pinRequired
  | tooManyAttempts
  deriving DecidableEq

/-- Response to the PIN message by the sending peer. -/
inductive RTCPinSendingResponse (Files : Type)
  | ok (files : Files)
  | pinRequired
  | tooManyAttempts
  deriving DecidableEq

inductive RTCStatus
  | connected
  | pinRequired
  | tooManyAttempts
  | error (error : String)
  deriving DecidableEq

structure PinConfig where
  pin : String
  maxTries : UInt8
  deriving DecidableEq

/-- The two ends of a connection. -/
inductive Peer
  | sender
  | receiver
  deriving DecidableEq

def Peer.other : Peer → Peer
  | sender => receiver
  | receiver => sender

/-- What the two peers start from, and the JSON of the messages. -/
structure Setup (Files : Type) where
  pin : Peer → Option PinConfig
  /-- What the user of a side types when asked for the n-th time. -/
  guess : Peer → Nat → String
  files : Files
  localToken : String
  tokenJson : Codec RTCTokenResponse
  pinJson : Codec RTCPinMessage
  receivingJson : Codec RTCPinReceivingResponse
  sendingJson : Codec (RTCPinSendingResponse Files)
  /-- What the data channel says when a message cannot be sent, and the JSON reader
  of what it cannot read. -/
  sendError : String
  jsonError : Bytes → String

inductive PinChannel
  /-- The messages on their way to a peer. -/
  | inbox (p : Peer)
  | status (p : Peer)
  deriving DecidableEq

abbrev PinChannel.Value : PinChannel → Type
  | inbox _ => DataChannelMessage
  | status _ => RTCStatus

variable {Files : Type}

/-! ### Being asked: handle_pin -/

inductive ChallengePinResult (T : Type)
  | ok (result : T)
  | pinRequired
  | tooManyAttempts
  | parseError (error : String)

inductive HandleCtl (T : Type)
  /-- The head of the loop, after this many PINs. -/
  | notify (sent : Nat)
  | sendPin (sent : Nat)
  | receive (sent : Nat) (buffer : Bytes)
  | tooMany
  | returned (result : Except String T)

/-- What `handle_pin` returns: the file list at the receiver. -/
abbrev Peer.Asked (Files : Type) : Peer → Type
  | sender => Unit
  | receiver => Files

/-- What the asked peer makes of a response. -/
def parseResponse (x : Setup Files) :
    (p : Peer) → Bytes → ChallengePinResult (p.Asked Files)
  | .sender, data =>
    match x.receivingJson.fromSlice data with
    | none => .parseError "Failed to parse pin response"
    | some .ok => .ok ()
    | some .pinRequired => .pinRequired
    | some .tooManyAttempts => .tooManyAttempts
  | .receiver, data =>
    match x.sendingJson.fromSlice data with
    | none => .parseError "Failed to parse pin response"
    | some (.ok files) => .ok files
    | some .pinRequired => .pinRequired
    | some .tooManyAttempts => .tooManyAttempts

def receiveInChunks : Peer → Bool
  | .sender => false
  | .receiver => true

def onResponse {T : Type} (sent : Nat) : ChallengePinResult T → HandleCtl T
  | .ok result => .returned (.ok result)
  | .pinRequired => .notify (sent + 1)
  | .tooManyAttempts => .tooMany
  | .parseError error => .returned (.error error)

def handleAct (x : Setup Files) (p : Peer) :
    HandleCtl (p.Asked Files) → Act PinChannel.Value (HandleCtl (p.Asked Files))
  | .notify sent =>
    .on (.status p) (.send .pinRequired (.sendPin sent) (.returned (.error x.sendError)))
  | .sendPin sent =>
    .on (.inbox p.other)
      (.send (text (x.pinJson.toString ⟨x.guess p sent⟩)) (.receive sent [])
        (.returned (.error x.sendError)))
  | .receive sent buffer =>
    if receiveInChunks p then
      .on (.inbox p) (.recv
        (fun msg =>
          if msg.isString then onResponse sent (parseResponse x p buffer)
          else .receive sent (buffer ++ msg.data))
        (onResponse sent (parseResponse x p buffer)))
    else
      .on (.inbox p) (.recv
        (fun msg =>
          if msg.isString then onResponse sent (parseResponse x p msg.data)
          else .returned (.error "Expected string message"))
        (.returned (.error "Failed to receive initial message")))
  | .tooMany =>
    .on (.status p) (.send .tooManyAttempts (.returned (.error "Too many requests"))
      (.returned (.error x.sendError)))
  | .returned _ => .halt

/-! ### Asking: verify_pin -/

inductive VerifyPinResult
  | pinRequired
  | tooManyAttempts

inductive VerifyCtl
  | start
  /-- A result on its way, message by message. -/
  | sending (more : List DataChannelMessage) (sent refused : VerifyCtl)
  | receive (pinTry : Nat)
  | tooMany
  | returned (result : Except String Unit)

/-- A string in chunks, and the delimiter. -/
def chunked (string : Bytes) : List DataChannelMessage :=
  (sendStringInChunks string).map binary ++ [delimiter]

/-- The messages a result is sent in. -/
def resultMessages (x : Setup Files) : Peer → VerifyPinResult → List DataChannelMessage
  | .sender, .pinRequired => chunked (x.sendingJson.toString .pinRequired)
  | .sender, .tooManyAttempts => chunked (x.sendingJson.toString .tooManyAttempts)
  | .receiver, .pinRequired => [text (x.receivingJson.toString .pinRequired)]
  | .receiver, .tooManyAttempts => [text (x.receivingJson.toString .tooManyAttempts)]

/-- Whether the first notice is sent: the receiver's is its token response. -/
def sendInitialNotice : Peer → Bool
  | .sender => true
  | .receiver => false

/-- The head of the loop. `pinTry` stays below `maxTries`, so a natural number does. -/
def verifyLoop (x : Setup Files) (p : Peer) (config : PinConfig) (remotePin : String)
    (pinTry : Nat) (notice : Bool) : VerifyCtl :=
  if remotePin = config.pin then .returned (.ok ())
  else if config.maxTries.toNat ≤ pinTry then
    -- whether the result could be sent does not matter here
    .sending (resultMessages x p .tooManyAttempts) .tooMany .tooMany
  else if notice || decide (0 < pinTry) then
    .sending (resultMessages x p .pinRequired) (.receive pinTry) (.returned (.error x.sendError))
  else .receive pinTry

def verifyAct (x : Setup Files) (p : Peer) (config : PinConfig) :
    VerifyCtl → Act PinChannel.Value VerifyCtl
  | .start =>
    .on (.status p) (.send .pinRequired (verifyLoop x p config "" 0 (sendInitialNotice p))
      (.returned (.error x.sendError)))
  | .sending [] sent _ => .tau sent
  | .sending (msg :: more) sent refused =>
    .on (.inbox p.other) (.send msg (.sending more sent refused) refused)
  | .receive pinTry =>
    .on (.inbox p) (.recv
      (fun msg =>
        match x.pinJson.fromSlice msg.data with
        | none => .returned (.error (x.jsonError msg.data))
        | some pinReq => verifyLoop x p config pinReq.pin (pinTry + 1) false)
      (.returned (.error "Failed to receive pin")))
  | .tooMany =>
    .on (.status p) (.send .tooManyAttempts (.returned (.error "Too many requests"))
      (.returned (.error x.sendError)))
  | .returned _ => .halt

/-! ### The phases of each side -/

inductive SenderPhase
  | token
  /-- The PIN phases are over: the file list follows. -/
  | connected
  | listing (more : List DataChannelMessage)
  /-- Waiting for the file tokens. -/
  | listed
  | failed (error : String)

inductive ReceiverPhase (Files : Type)
  | token
  | confirming
  /-- `receive_string_from_chunks`: the sender's first result. -/
  | collecting (buffer : Bytes)
  | unexpected
  | connected (files : Files)
  | received (files : Files)
  | failed (error : String)

abbrev Peer.Own (Files : Type) : Peer → Type
  | sender => SenderPhase
  | receiver => ReceiverPhase Files

inductive Phase (Own T : Type)
  | own (phase : Own)
  | handling (h : HandleCtl T)
  | verifying (config : PinConfig) (v : VerifyCtl)

/-- Where a side is, and what its `handle_pin` and its `verify_pin` returned. -/
structure PeerCtl (Own T : Type) where
  phase : Phase Own T
  handled : Option (Except String Unit)
  verified : Option (Except String Unit)

abbrev Peer.Phase (Files : Type) (p : Peer) : Type := WebRtc.Phase (p.Own Files) (p.Asked Files)

abbrev Peer.Ctl (Files : Type) (p : Peer) : Type := PeerCtl (p.Own Files) (p.Asked Files)

def Peer.failed : (p : Peer) → String → p.Phase Files
  | sender, error => .own (.failed error)
  | receiver, error => .own (.failed error)

/-- The sender asks if it has a PIN, and goes on to the file list otherwise. -/
def startSenderPin (x : Setup Files) : Peer.sender.Phase Files :=
  match x.pin .sender with
  | some pin => .verifying pin .start
  | none => .own .connected

def afterHandling (x : Setup Files) : (p : Peer) → p.Asked Files → p.Phase Files
  | .sender, _ => startSenderPin x
  | .receiver, files => .own (.connected files)

def afterVerifying : (p : Peer) → p.Phase Files
  | .sender => .own .connected
  | .receiver => .own .confirming

def tokenResponse (x : Setup Files) : RTCTokenResponse :=
  match x.pin .receiver with
  | some _ => .pinRequired x.localToken
  | none => .ok x.localToken

def onTokenResponse (x : Setup Files) (data : Bytes) : Peer.sender.Phase Files :=
  match x.tokenJson.fromSlice data with
  | none => .own (.failed (x.jsonError data))
  | some (.ok _) => startSenderPin x
  | some (.pinRequired _) => .handling (.notify 0)
  | some .invalidSignature => .own (.failed "Invalid token signature from receiving peer")

def senderAct (x : Setup Files) :
    SenderPhase → Act PinChannel.Value (Peer.sender.Phase Files)
  | .token =>
    .on (.inbox .sender) (.recv
      (fun msg =>
        if msg.isString then onTokenResponse x msg.data
        else .own (.failed "Expected string message"))
      (.own (.failed "Failed to receive token response")))
  | .connected =>
    .on (.status .sender) (.send .connected
      (.own (.listing (chunked (x.sendingJson.toString (.ok x.files)))))
      (.own (.failed x.sendError)))
  | .listing [] => .tau (.own .listed)
  | .listing (msg :: more) =>
    .on (.inbox .receiver) (.send msg (.own (.listing more)) (.own (.failed x.sendError)))
  | .listed => .halt
  | .failed _ => .halt

/-- The receiver asks if it has a PIN, and waits for the sender otherwise. -/
def afterToken (x : Setup Files) : Peer.receiver.Phase Files :=
  match x.pin .receiver with
  | some pin => .verifying pin .start
  | none => .own (.collecting [])

def onPinResponse (x : Setup Files) (data : Bytes) : Peer.receiver.Phase Files :=
  match x.sendingJson.fromSlice data with
  | none => .own (.failed ("Failed to deserialize file list response: " ++ x.jsonError data))
  | some (.ok files) => .own (.connected files)
  | some .pinRequired => .handling (.notify 0)
  | some .tooManyAttempts => .own .unexpected

def receiverAct (x : Setup Files) :
    ReceiverPhase Files → Act PinChannel.Value (Peer.receiver.Phase Files)
  | .token =>
    .on (.inbox .sender) (.send (text (x.tokenJson.toString (tokenResponse x)))
      (afterToken x) (.own (.failed x.sendError)))
  | .confirming =>
    .on (.inbox .sender) (.send (text (x.receivingJson.toString .ok))
      (.own (.collecting [])) (.own (.failed x.sendError)))
  | .collecting buffer =>
    .on (.inbox .receiver) (.recv
      (fun msg =>
        if msg.isString then onPinResponse x buffer
        else .own (.collecting (buffer ++ msg.data)))
      (onPinResponse x buffer))
  | .unexpected =>
    .on (.status .receiver) (.send (.error "Unexpected TooManyAttempts response")
      (.own (.failed "Unexpected TooManyAttempts response"))
      (.own (.failed "Unexpected TooManyAttempts response")))
  | .connected files =>
    .on (.status .receiver) (.send .connected (.own (.received files))
      (.own (.failed x.sendError)))
  | .received _ => .halt
  | .failed _ => .halt

def ownAct (x : Setup Files) :
    (p : Peer) → p.Own Files → Act PinChannel.Value (p.Phase Files)
  | .sender => senderAct x
  | .receiver => receiverAct x

/-- What a side does next. -/
def Setup.act (x : Setup Files) (p : Peer) (l : p.Ctl Files) : Act PinChannel.Value (p.Ctl Files) :=
  match l.phase with
  | .own phase => (ownAct x p phase).map fun next => { l with phase := next }
  | .handling (.returned (.ok result)) =>
    .tau { l with phase := afterHandling x p result, handled := some (.ok ()) }
  | .handling (.returned (.error error)) =>
    .tau { l with phase := p.failed error, handled := some (.error error) }
  | .handling h => (handleAct x p h).map fun next => { l with phase := .handling next }
  | .verifying _ (.returned (.ok _)) =>
    .tau { l with phase := afterVerifying p, verified := some (.ok ()) }
  | .verifying _ (.returned (.error error)) =>
    .tau { l with phase := p.failed error, verified := some (.error error) }
  | .verifying config v => (verifyAct x p config v).map fun next =>
      { l with phase := .verifying config next }

/-! ### The two sides together -/

def PinChannel.writer : PinChannel → Peer
  | inbox p => p.other
  | status p => p

def PinChannel.reader : PinChannel → Peer
  | inbox p => p
  | status p => p.other

theorem Peer.other_other (p : Peer) : p.other.other = p := by
  cases p <;> rfl

/-- A side writes to the other and to its own status, and reads what comes to it. -/
def Peer.Wired (p : Peer) {L : Type} (act : Act PinChannel.Value L) : Prop :=
  act.Keeps (fun c => c.writer = p) (fun c => c.reader = p)

theorem handle_wired (x : Setup Files) (p : Peer) (h : HandleCtl (p.Asked Files)) :
    p.Wired (handleAct x p h) := by
  cases h with
  | notify => exact Act.keeps_send rfl
  | sendPin => exact Act.keeps_send p.other_other
  | receive sent buffer =>
    cases p
    · exact Act.keeps_recv rfl
    · exact Act.keeps_recv rfl
  | tooMany => exact Act.keeps_send rfl
  | returned => exact Act.keeps_halt

theorem verify_wired (x : Setup Files) (p : Peer) (config : PinConfig) (v : VerifyCtl) :
    p.Wired (verifyAct x p config v) := by
  cases v with
  | start => exact Act.keeps_send rfl
  | sending more sent refused =>
    cases more with
    | nil => exact Act.keeps_tau
    | cons => exact Act.keeps_send p.other_other
  | receive => exact Act.keeps_recv rfl
  | tooMany => exact Act.keeps_send rfl
  | returned => exact Act.keeps_halt

theorem own_wired (x : Setup Files) (p : Peer) (phase : p.Own Files) :
    p.Wired (ownAct x p phase) := by
  cases p with
  | sender =>
    cases phase with
    | token => exact Act.keeps_recv rfl
    | connected => exact Act.keeps_send rfl
    | listing more =>
      cases more with
      | nil => exact Act.keeps_tau
      | cons => exact Act.keeps_send rfl
    | listed => exact Act.keeps_halt
    | failed => exact Act.keeps_halt
  | receiver =>
    cases phase with
    | token => exact Act.keeps_send rfl
    | confirming => exact Act.keeps_send rfl
    | collecting => exact Act.keeps_recv rfl
    | unexpected => exact Act.keeps_send rfl
    | connected => exact Act.keeps_send rfl
    | received => exact Act.keeps_halt
    | failed => exact Act.keeps_halt

theorem Setup.act_wired (x : Setup Files) (p : Peer) (l : p.Ctl Files) : p.Wired (x.act p l) := by
  obtain ⟨phase, handled, verified⟩ := l
  cases phase with
  | own phase => exact (own_wired x p phase).map _
  | handling h =>
    have hmap := (handle_wired x p h).map fun next =>
      (⟨.handling next, handled, verified⟩ : p.Ctl Files)
    cases h with
    | returned result => cases result <;> exact Act.keeps_tau
    | _ => exact hmap
  | verifying config v =>
    have hmap := (verify_wired x p config v).map fun next =>
      (⟨.verifying config next, handled, verified⟩ : p.Ctl Files)
    cases v with
    | returned result => cases result <;> exact Act.keeps_tau
    | _ => exact hmap

/-- The two sides over the data channel, which buffers what is sent. -/
def Setup.net (x : Setup Files) : Net Peer PinChannel (Peer.Ctl Files) PinChannel.Value where
  act := x.act
  room _ := none
  writer := PinChannel.writer
  reader := PinChannel.reader
  wired p l c op h := by
    have hwired := (x.act_wired p l c op h).1
    split at hwired
    · rename_i hop
      rw [if_pos hop]
      exact hwired
    · rename_i hop
      rw [if_neg hop]
      exact hwired

theorem Setup.keepsReading (x : Setup Files) : x.net.KeepsReading :=
  fun p l c op h => (x.act_wired p l c op h).2

abbrev PinState (Files : Type) := State (Peer.Ctl Files) PinChannel.Value

/-- Both sides before the token response, nothing on the channel. -/
def Setup.start (_x : Setup Files) : PinState Files where
  ctl
    | .sender => ⟨.own .token, none, none⟩
    | .receiver => ⟨.own .token, none, none⟩
  chan _ := .new

def Setup.system (x : Setup Files) : Transition.System (PinState Files) Peer :=
  x.net.system x.start

end MagicShare.WebRtc
