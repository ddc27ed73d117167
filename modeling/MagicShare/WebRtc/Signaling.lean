import MagicShare.Ws.Server
import MagicShare.Base.Records
import MagicShare.Base.Settling

/-! The client of the signaling server (`signaling.rs`), and the calls of
`send_offer` that wait at it for their answers (`webrtc.rs`).

`connect` starts a task that reads the websocket, and waits for the client that
this task finds in the `Hello`. The task puts every message into a channel of one
place; `start_listener` starts a second task that empties it, hands answers to the
callbacks that wait for them, and forwards every message to the application. Each
event is one await that comes through, up to the next. -/
namespace MagicShare.WebRtc
open Ws Documents

/-! ### Frames -/

/-- What the websocket gives: the JSON of a message, a text that is none, such as
`Limit reached`, or anything else. -/
inductive Frame
  | json (message : WsServerMessage)
  | text (text : String)
  | other
  deriving DecidableEq

def Frame.message : Frame → Option WsServerMessage
  | json message => some message
  | text _ => none
  | other => none

/-- The client of a `Hello`. -/
def helloClient : WsServerMessage → Option ClientInfo
  | .hello client _ => some client
  | _ => none

/-- What an `Answer` carries. -/
def answerSdp : WsServerMessage → Option WsServerSdpMessage
  | .answer sdp => some sdp
  | _ => none

/-! ### Tasks and calls -/

/-- The task that reads the websocket: waiting for a frame, about to send the client
of a `Hello`, about to pass a message on, or ended. -/
inductive Reader
  | reading
  | greeting (client : ClientInfo) (peers : List ClientInfo)
  | passing (message : WsServerMessage)
  | ended
  deriving DecidableEq

/-- The call of `connect`: waiting for the client, with it in hand, returned, or
panicked. -/
inductive ConnectCall
  | waiting
  | received (client : ClientInfo)
  | returned (client : ClientInfo)
  | panicked
  deriving DecidableEq

/-- `client_rx` is dropped when `connect` ends. -/
def ConnectCall.over : ConnectCall → Bool
  | waiting | received _ => false
  | returned _ | panicked => true

/-- The task of `start_listener`: not started, waiting for a message, with one in
hand, about to forward it, panicked, or ended. -/
inductive Listener
  | off
  | listening
  | holding (message : WsServerMessage)
  | forwarding (message : WsServerMessage)
  | panicked
  | ended
  deriving DecidableEq

/-- A call of `send_offer`: the offer has left, it waits with its callback
registered, its answer is in the oneshot channel, it has the answer, or it was
cancelled. -/
inductive OfferPhase
  | sent
  | waiting
  | answered (sdp : String)
  | received (sdp : String)
  | cancelled
  deriving DecidableEq

/-- The SDP a call was given. -/
def OfferPhase.sdp : OfferPhase → Option String
  | answered sdp | received sdp => some sdp
  | sent | waiting | cancelled => none

/-- The call still waits for its answer, so it can be cancelled. -/
def OfferPhase.pending : OfferPhase → Bool
  | sent | waiting | answered _ => true
  | received _ | cancelled => false

structure OfferCall where
  sessionId : String
  phase : OfferPhase
  deriving DecidableEq

def clientCapacity : Nat := 1
def receiveCapacity : Nat := 1
def appCapacity : Nat := 16

/-- One connection. `wire` is on its way from the server and `served` all it has
sent; `received` is what the application has taken. A callback of `on_answer` goes by
the number of its call. -/
structure Client where
  wire : List Frame := []
  closed : Bool := false
  served : List Frame := []
  reader : Reader := .reading
  clientQueue : List ClientInfo := []
  connect : ConnectCall := .waiting
  receiveQueue : List WsServerMessage := []
  listener : Listener := .off
  onAnswer : Collection String Nat := ∅
  calls : List OfferCall := []
  appQueue : List WsServerMessage := []
  appHolds : Bool := true
  received : List WsServerMessage := []

inductive ClientEvent
  /-- The server sends a frame, or closes the websocket. -/
  | serve (frame : Frame)
  | close
  /-- The reading task's next frame, or the end of the stream. -/
  | read
  | sendClient
  | sendMessage
  /-- `connect` goes on: it takes the client, or returns. -/
  | connect
  | startListener
  /-- The listener's next message, or the end of the channel. -/
  | recv
  /-- The listener looks for a callback and calls it. -/
  | callback
  | forward
  | appRecv
  | appDrop
  /-- A new call sends its offer. -/
  | sendOffer (sessionId : String)
  /-- The call registers its callback, or takes its answer, or is dropped. -/
  | onAnswer (call : Nat)
  | rxAnswer (call : Nat)
  | cancel (call : Nat)
  deriving DecidableEq

namespace Client

/-- The messages the server has sent. -/
def messages (s : Client) : List WsServerMessage := s.served.filterMap Frame.message

/-- `receive_rx` is dropped by a panic, or when the listener ends. -/
def receiveRxGone (s : Client) : Bool :=
  match s.connect, s.listener with
  | .panicked, _ | _, .panicked | _, .ended => true
  | _, _ => false

/-- A session id is a random UUID: no call and no answer has had it. -/
def Fresh (s : Client) (sessionId : String) : Prop :=
  (∀ call ∈ s.calls, call.sessionId ≠ sessionId) ∧
    ∀ answer ∈ s.messages.filterMap answerSdp, answer.sessionId ≠ sessionId

instance (s : Client) (sessionId : String) : Decidable (s.Fresh sessionId) :=
  inferInstanceAs (Decidable (_ ∧ _))

def setPhase (s : Client) (call : Nat) (phase : OfferPhase) : Client :=
  {s with calls := s.calls.modify call fun c => {c with phase}}

/-- What the reading task does with a frame first. -/
def handle (frame : Frame) : Reader :=
  match frame.message with
  | none => .reading
  | some (.hello client peers) => .greeting client peers
  | some message => .passing message

/-- `client_rx.recv().await.unwrap()`, and the return. -/
def connectStep (s : Client) : Option Client :=
  match s.connect, s.clientQueue with
  | .waiting, client :: rest => some {s with clientQueue := rest, connect := .received client}
  | .waiting, [] => if s.reader = .ended then some {s with connect := .panicked} else none
  | .received client, _ => some {s with clientQueue := [], connect := .returned client}
  | _, _ => none

/-- The callback of a call sends the SDP and unwraps: the call must still be there. -/
def callBack (s : Client) (call : Nat) (sdp : WsServerSdpMessage) : Client :=
  match (s.calls[call]?).map OfferCall.phase with
  | some .waiting => {s.setPhase call (.answered sdp.sdp) with listener := .forwarding (.answer sdp)}
  | _ => {s with listener := .panicked}

/-- `on_answer.lock().await.remove(&sdp.session_id)`, and the call of the callback. -/
def dispatch (s : Client) (message : WsServerMessage) : Client :=
  match message with
  | .answer sdp =>
    match s.onAnswer.lookup sdp.sessionId with
    | none => {s with listener := .forwarding message}
    | some call => callBack {s with onAnswer := s.onAnswer.erase sdp.sessionId} call sdp
  | _ => {s with listener := .forwarding message}

def step (s : Client) : ClientEvent → Option Client
  | .serve frame =>
    if s.closed then none else some {s with wire := s.wire ++ [frame], served := s.served ++ [frame]}
  | .close => if s.closed then none else some {s with closed := true}
  | .read =>
    match s.reader, s.wire with
    | .reading, frame :: rest => some {s with wire := rest, reader := handle frame}
    | .reading, [] => if s.closed then some {s with reader := .ended} else none
    | _, _ => none
  | .sendClient =>
    match s.reader with
    | .greeting client peers =>
      -- without a receiver the handling of this frame ends here, and the next is read
      if s.connect.over then some {s with reader := .reading}
      else if s.clientQueue.length < clientCapacity then
        some {s with clientQueue := s.clientQueue ++ [client], reader := .passing (.hello client peers)}
      else none
    | _ => none
  | .sendMessage =>
    match s.reader with
    | .passing message =>
      if s.receiveRxGone then some {s with reader := .reading}
      else if s.receiveQueue.length < receiveCapacity then
        some {s with receiveQueue := s.receiveQueue ++ [message], reader := .reading}
      else none
    | _ => none
  | .connect => s.connectStep
  | .startListener =>
    match s.connect, s.listener with
    | .returned _, .off => some {s with listener := .listening}
    | _, _ => none
  | .recv =>
    match s.listener, s.receiveQueue with
    | .listening, message :: rest => some {s with receiveQueue := rest, listener := .holding message}
    | .listening, [] => if s.reader = .ended then some {s with listener := .ended} else none
    | _, _ => none
  | .callback =>
    match s.listener with
    | .holding message => some (s.dispatch message)
    | _ => none
  | .forward =>
    match s.listener with
    | .forwarding message =>
      if !s.appHolds then some {s with listener := .panicked}
      else if s.appQueue.length < appCapacity then
        some {s with appQueue := s.appQueue ++ [message], listener := .listening}
      else none
    | _ => none
  | .appRecv =>
    match s.appHolds, s.appQueue with
    | true, message :: rest => some {s with appQueue := rest, received := s.received ++ [message]}
    | _, _ => none
  | .appDrop =>
    if s.appHolds ∧ s.listener ≠ .off then some {s with appHolds := false, appQueue := []} else none
  | .sendOffer sessionId =>
    if s.listener ≠ .off ∧ s.Fresh sessionId then some {s with calls := s.calls ++ [⟨sessionId, .sent⟩]}
    else none
  | .onAnswer call =>
    match s.calls[call]? with
    | some ⟨sessionId, .sent⟩ =>
      some {s.setPhase call .waiting with onAnswer := s.onAnswer.insert sessionId call}
    | _ => none
  | .rxAnswer call =>
    match s.calls[call]? with
    | some ⟨_, .answered sdp⟩ => some (s.setPhase call (.received sdp))
    | _ => none
  | .cancel call =>
    match s.calls[call]? with
    | some c => if c.phase.pending then some (s.setPhase call .cancelled) else none
    | none => none

/-! ### What a step can do -/

/-- The branches of a step. -/
inductive Moves (s : Client) : ClientEvent → Client → Prop
  | serve (frame : Frame) (hopen : s.closed = false) :
    Moves s (.serve frame) {s with wire := s.wire ++ [frame], served := s.served ++ [frame]}
  | close (hopen : s.closed = false) : Moves s .close {s with closed := true}
  | read {frame : Frame} {rest : List Frame} (hreader : s.reader = .reading) (hwire : s.wire = frame :: rest) :
    Moves s .read {s with wire := rest, reader := handle frame}
  | readEnd (hreader : s.reader = .reading) (hwire : s.wire = []) (hclosed : s.closed = true) :
    Moves s .read {s with reader := .ended}
  | ungreeted {client : ClientInfo} {peers : List ClientInfo} (hreader : s.reader = .greeting client peers)
      (hover : s.connect.over = true) :
    Moves s .sendClient {s with reader := .reading}
  | greeted {client : ClientInfo} {peers : List ClientInfo} (hreader : s.reader = .greeting client peers)
      (hover : s.connect.over = false) (hqueue : s.clientQueue = []) :
    Moves s .sendClient {s with clientQueue := [client], reader := .passing (.hello client peers)}
  | unpassed {message : WsServerMessage} (hreader : s.reader = .passing message)
      (hgone : s.receiveRxGone = true) :
    Moves s .sendMessage {s with reader := .reading}
  | passed {message : WsServerMessage} (hreader : s.reader = .passing message)
      (hgone : s.receiveRxGone = false) (hqueue : s.receiveQueue = []) :
    Moves s .sendMessage {s with receiveQueue := [message], reader := .reading}
  | recvClient {client : ClientInfo} {rest : List ClientInfo} (hconnect : s.connect = .waiting)
      (hqueue : s.clientQueue = client :: rest) :
    Moves s .connect {s with clientQueue := rest, connect := .received client}
  | connectPanics (hconnect : s.connect = .waiting) (hqueue : s.clientQueue = [])
      (hreader : s.reader = .ended) :
    Moves s .connect {s with connect := .panicked}
  | connectReturns {client : ClientInfo} (hconnect : s.connect = .received client) :
    Moves s .connect {s with clientQueue := [], connect := .returned client}
  | startListener {client : ClientInfo} (hconnect : s.connect = .returned client) (hoff : s.listener = .off) :
    Moves s .startListener {s with listener := .listening}
  | recv {message : WsServerMessage} {rest : List WsServerMessage} (hlistener : s.listener = .listening)
      (hqueue : s.receiveQueue = message :: rest) :
    Moves s .recv {s with receiveQueue := rest, listener := .holding message}
  | recvEnd (hlistener : s.listener = .listening) (hqueue : s.receiveQueue = []) (hreader : s.reader = .ended) :
    Moves s .recv {s with listener := .ended}
  | unasked {message : WsServerMessage} (hlistener : s.listener = .holding message)
      (hnone : ∀ sdp, message = .answer sdp → s.onAnswer.lookup sdp.sessionId = none) :
    Moves s .callback {s with listener := .forwarding message}
  | calledBack {sdp : WsServerSdpMessage} {call : Nat} (hlistener : s.listener = .holding (.answer sdp))
      (hlookup : s.onAnswer.lookup sdp.sessionId = some call)
      (hphase : (s.calls[call]?).map OfferCall.phase = some .waiting) :
    Moves s .callback
      {s with
        onAnswer := s.onAnswer.erase sdp.sessionId
        calls := s.calls.modify call fun c => {c with phase := .answered sdp.sdp}
        listener := .forwarding (.answer sdp)}
  | callbackPanics {sdp : WsServerSdpMessage} {call : Nat} (hlistener : s.listener = .holding (.answer sdp))
      (hlookup : s.onAnswer.lookup sdp.sessionId = some call)
      (hphase : (s.calls[call]?).map OfferCall.phase ≠ some .waiting) :
    Moves s .callback {s with onAnswer := s.onAnswer.erase sdp.sessionId, listener := .panicked}
  | forwarded {message : WsServerMessage} (hlistener : s.listener = .forwarding message)
      (hholds : s.appHolds = true) (hroom : s.appQueue.length < appCapacity) :
    Moves s .forward {s with appQueue := s.appQueue ++ [message], listener := .listening}
  | forwardPanics {message : WsServerMessage} (hlistener : s.listener = .forwarding message)
      (hholds : s.appHolds = false) :
    Moves s .forward {s with listener := .panicked}
  | appRecv {message : WsServerMessage} {rest : List WsServerMessage} (hholds : s.appHolds = true)
      (hqueue : s.appQueue = message :: rest) :
    Moves s .appRecv {s with appQueue := rest, received := s.received ++ [message]}
  | appDrop (hholds : s.appHolds = true) (hon : s.listener ≠ .off) :
    Moves s .appDrop {s with appHolds := false, appQueue := []}
  | sendOffer {sessionId : String} (hon : s.listener ≠ .off) (hfresh : s.Fresh sessionId) :
    Moves s (.sendOffer sessionId) {s with calls := s.calls ++ [⟨sessionId, .sent⟩]}
  | onAnswer {call : Nat} {sessionId : String} (hcall : s.calls[call]? = some ⟨sessionId, .sent⟩) :
    Moves s (.onAnswer call) {s.setPhase call .waiting with onAnswer := s.onAnswer.insert sessionId call}
  | rxAnswer {call : Nat} {sessionId sdp : String} (hcall : s.calls[call]? = some ⟨sessionId, .answered sdp⟩) :
    Moves s (.rxAnswer call) (s.setPhase call (.received sdp))
  | cancel {call : Nat} {c : OfferCall} (hcall : s.calls[call]? = some c) (hpending : c.phase.pending = true) :
    Moves s (.cancel call) (s.setPhase call .cancelled)

theorem callBack_of_waiting {s : Client} {call : Nat} (sdp : WsServerSdpMessage)
    (h : (s.calls[call]?).map OfferCall.phase = some .waiting) :
    s.callBack call sdp =
      {s.setPhase call (.answered sdp.sdp) with listener := .forwarding (.answer sdp)} := by
  simp only [callBack, h]

theorem callBack_of_gone {s : Client} {call : Nat} (sdp : WsServerSdpMessage)
    (h : (s.calls[call]?).map OfferCall.phase ≠ some .waiting) :
    s.callBack call sdp = {s with listener := .panicked} := by
  unfold callBack
  split
  · next heq => exact absurd heq h
  · rfl

/-- **A callback** is there or not, and its call still waits or not. -/
theorem dispatch_moves {s : Client} {message : WsServerMessage} (hlistener : s.listener = .holding message) :
    Moves s .callback (s.dispatch message) := by
  cases message with
  | answer sdp =>
    cases hlookup : s.onAnswer.lookup sdp.sessionId with
    | none =>
      have heq : s.dispatch (.answer sdp) = {s with listener := .forwarding (.answer sdp)} := by
        simp only [dispatch, hlookup]
      rw [heq]
      refine .unasked hlistener fun sdp' heq => ?_
      cases heq
      exact hlookup
    | some call =>
      have heq : s.dispatch (.answer sdp) =
          callBack {s with onAnswer := s.onAnswer.erase sdp.sessionId} call sdp := by
        simp only [dispatch, hlookup]
      by_cases hphase : (s.calls[call]?).map OfferCall.phase = some .waiting
      · rw [heq, callBack_of_waiting (s := {s with onAnswer := s.onAnswer.erase sdp.sessionId}) sdp hphase]
        exact .calledBack hlistener hlookup hphase
      · rw [heq, callBack_of_gone (s := {s with onAnswer := s.onAnswer.erase sdp.sessionId}) sdp hphase]
        exact .callbackPanics hlistener hlookup hphase
  | _ => exact .unasked hlistener (by simp)

theorem connectStep_moves {s t : Client} (h : s.connectStep = some t) : Moves s .connect t := by
  unfold connectStep at h
  split at h
  · next hconnect hqueue =>
    exact Option.some.inj h ▸ .recvClient hconnect hqueue
  · next hconnect hqueue =>
    split_ifs at h with hreader
    exact Option.some.inj h ▸ .connectPanics hconnect hqueue hreader
  · next hconnect => exact Option.some.inj h ▸ .connectReturns hconnect
  · cases h

/-- **Every step is one of the branches.** -/
theorem moves_of_step {s t : Client} {e : ClientEvent} (h : s.step e = some t) : Moves s e t := by
  cases e with
  | serve frame =>
    simp only [step] at h
    split_ifs at h with hclosed
    exact Option.some.inj h ▸ .serve frame (by simpa using hclosed)
  | close =>
    simp only [step] at h
    split_ifs at h with hclosed
    exact Option.some.inj h ▸ .close (by simpa using hclosed)
  | read =>
    simp only [step] at h
    split at h
    · next hreader hwire => exact Option.some.inj h ▸ .read hreader hwire
    · next hreader hwire =>
      split_ifs at h with hclosed
      exact Option.some.inj h ▸ .readEnd hreader hwire hclosed
    · cases h
  | sendClient =>
    simp only [step] at h
    split at h
    · next hreader =>
      split_ifs at h with hover hqueue
      · exact Option.some.inj h ▸ .ungreeted hreader hover
      · have hnil : s.clientQueue = [] := List.length_eq_zero_iff.mp (Nat.lt_one_iff.mp hqueue)
        rw [hnil] at h
        exact Option.some.inj h ▸ .greeted hreader (by simpa using hover) hnil
    · cases h
  | sendMessage =>
    simp only [step] at h
    split at h
    · next hreader =>
      split_ifs at h with hgone hqueue
      · exact Option.some.inj h ▸ .unpassed hreader hgone
      · have hnil : s.receiveQueue = [] := List.length_eq_zero_iff.mp (Nat.lt_one_iff.mp hqueue)
        rw [hnil] at h
        exact Option.some.inj h ▸ .passed hreader (by simpa using hgone) hnil
    · cases h
  | connect => exact connectStep_moves h
  | startListener =>
    simp only [step] at h
    split at h
    · next hconnect hoff => exact Option.some.inj h ▸ .startListener hconnect hoff
    · cases h
  | recv =>
    simp only [step] at h
    split at h
    · next hlistener hqueue => exact Option.some.inj h ▸ .recv hlistener hqueue
    · next hlistener hqueue =>
      split_ifs at h with hreader
      exact Option.some.inj h ▸ .recvEnd hlistener hqueue hreader
    · cases h
  | callback =>
    simp only [step] at h
    split at h
    · next hlistener => exact Option.some.inj h ▸ dispatch_moves hlistener
    · cases h
  | forward =>
    simp only [step] at h
    split at h
    · next hlistener =>
      split_ifs at h with hholds hroom
      · exact Option.some.inj h ▸ .forwardPanics hlistener (by simpa using hholds)
      · exact Option.some.inj h ▸ .forwarded hlistener (by simpa using hholds) hroom
    · cases h
  | appRecv =>
    simp only [step] at h
    split at h
    · next hholds hqueue => exact Option.some.inj h ▸ .appRecv hholds hqueue
    · cases h
  | appDrop =>
    simp only [step] at h
    split_ifs at h with hon
    exact Option.some.inj h ▸ .appDrop hon.1 hon.2
  | sendOffer sessionId =>
    simp only [step] at h
    split_ifs at h with hon
    exact Option.some.inj h ▸ .sendOffer hon.1 hon.2
  | onAnswer call =>
    simp only [step] at h
    split at h
    · next hcall => exact Option.some.inj h ▸ .onAnswer hcall
    · cases h
  | rxAnswer call =>
    simp only [step] at h
    split at h
    · next hcall => exact Option.some.inj h ▸ .rxAnswer hcall
    · cases h
  | cancel call =>
    simp only [step] at h
    split at h
    · next hcall =>
      split_ifs at h with hpending
      exact Option.some.inj h ▸ .cancel hcall hpending
    · cases h

/-! ### The tasks in order -/

@[simp] theorem handle_ne_ended (frame : Frame) : handle frame ≠ .ended := by
  unfold handle
  split <;> simp

/-- What the tasks know of each other: the listener comes after `connect`, and the
ends of the channels are reached in the order of the channels. -/
structure Sound (s : Client) : Prop where
  connected : s.listener ≠ .off → ∃ client, s.connect = .returned client
  readAll : s.reader = .ended → s.wire = [] ∧ s.closed = true
  heardAll : s.listener = .ended → s.reader = .ended ∧ s.receiveQueue = []
  panicked : s.connect = .panicked → s.reader = .ended

theorem Sound.step {s t : Client} {e : ClientEvent} (h : s.Sound) (hm : Moves s e t) : t.Sound := by
  obtain ⟨hconnected, hread, hheard, hpanicked⟩ := h
  cases hm with
  | serve frame hopen =>
    refine ⟨hconnected, fun hend => ?_, hheard, hpanicked⟩
    have hclosed := (hread hend).2
    rw [hopen] at hclosed
    cases hclosed
  | _ => constructor <;> simp_all [setPhase]

theorem sound_init : Sound {} := ⟨fun h => absurd rfl h, by simp, by simp, by simp⟩

/-! ### Calls and callbacks -/

theorem getElem_setPhase (s : Client) (call i : Nat) (phase : OfferPhase) :
    (s.setPhase call phase).calls[i]? =
      (s.calls[i]?).map fun c => if call = i then {c with phase} else c := List.getElem?_modify ..

/-- The calls have session ids of their own. -/
def OwnIds (s : Client) : Prop :=
  ∀ (i j : Nat) (c d : OfferCall), s.calls[i]? = some c → s.calls[j]? = some d →
    c.sessionId = d.sessionId → i = j

/-- Every callback is that of a call with the session id it waits for. -/
structure Registered (s : Client) : Prop where
  unique : s.OwnIds
  callback : ∀ sessionId i, s.onAnswer.lookup sessionId = some i →
    ∃ phase, s.calls[i]? = some ⟨sessionId, phase⟩ ∧ (phase = .waiting ∨ phase = .cancelled)
  waiting : ∀ i sessionId, s.calls[i]? = some ⟨sessionId, .waiting⟩ →
    s.onAnswer.lookup sessionId = some i

theorem registered_init : Registered {} := ⟨fun i j c d hc => by simp at hc, by simp, by simp⟩

/-- Session ids do not change. -/
theorem OwnIds.setPhase {s : Client} (h : s.OwnIds) (call : Nat) (phase : OfferPhase) :
    (s.setPhase call phase).OwnIds := by
  intro i j c d hi hj heq
  rw [getElem_setPhase, Option.map_eq_some_iff] at hi hj
  obtain ⟨c', hc, rfl⟩ := hi
  obtain ⟨d', hd, rfl⟩ := hj
  refine h i j c' d' hc hd ?_
  split_ifs at heq <;> exact heq

/-- A call that is done with, or whose callback stays behind. -/
theorem Registered.setPhase {s : Client} (h : s.Registered) {call : Nat} {c : OfferCall} {phase : OfferPhase}
    (hcall : s.calls[call]? = some c) (hphase : phase ≠ .waiting)
    (hkeep : c.phase = .waiting ∨ c.phase = .cancelled → phase = .cancelled) :
    (s.setPhase call phase).Registered where
  unique := h.unique.setPhase _ _
  callback sessionId i hlookup := by
    obtain ⟨phase', hi, hphase'⟩ := h.callback sessionId i hlookup
    rw [getElem_setPhase, hi]
    by_cases heq : call = i
    · subst heq
      obtain rfl := Option.some.inj (hcall.symm.trans hi)
      exact ⟨phase, by simp, .inr (hkeep hphase')⟩
    · exact ⟨phase', by simp [heq], hphase'⟩
  waiting i sessionId hi := by
    rw [getElem_setPhase, Option.map_eq_some_iff] at hi
    obtain ⟨c', hc', heq⟩ := hi
    split_ifs at heq
    · exact absurd (congrArg OfferCall.phase heq) hphase
    · exact h.waiting i sessionId (heq ▸ hc')

/-- A call that registers its callback. -/
theorem Registered.onAnswer {s : Client} (h : s.Registered) {call : Nat} {sessionId : String}
    (hcall : s.calls[call]? = some ⟨sessionId, .sent⟩) :
    Registered {s.setPhase call .waiting with onAnswer := s.onAnswer.insert sessionId call} where
  unique := h.unique.setPhase _ _
  callback sessionId' i hlookup := by
    have hget := getElem_setPhase s call i .waiting
    replace hlookup : (s.onAnswer.insert sessionId call).lookup sessionId' = some i := hlookup
    rw [Collection.lookup_insert_eq] at hlookup
    split_ifs at hlookup with heq
    · obtain rfl := Option.some.inj hlookup
      refine ⟨.waiting, ?_, .inl rfl⟩
      rw [hget, hcall]
      simp [heq]
    · obtain ⟨phase, hi, hphase⟩ := h.callback sessionId' i hlookup
      have hne : call ≠ i := by
        rintro rfl
        exact heq (congrArg OfferCall.sessionId (Option.some.inj (hi.symm.trans hcall)))
      exact ⟨phase, by rw [hget, hi]; simp [hne], hphase⟩
  waiting i sessionId' hi := by
    replace hi : (s.setPhase call .waiting).calls[i]? = some ⟨sessionId', .waiting⟩ := hi
    show (s.onAnswer.insert sessionId call).lookup sessionId' = some i
    rw [getElem_setPhase, Option.map_eq_some_iff] at hi
    obtain ⟨c, hc, heq⟩ := hi
    rw [Collection.lookup_insert_eq]
    by_cases hci : call = i
    · subst hci
      obtain rfl := Option.some.inj (hcall.symm.trans hc)
      rw [if_pos rfl] at heq
      rw [if_pos (congrArg OfferCall.sessionId heq).symm]
    · rw [if_neg hci] at heq
      subst heq
      rw [if_neg, h.waiting i sessionId' hc]
      rintro rfl
      exact hci (h.unique _ _ _ _ hcall hc rfl)

/-- A callback that is taken out, with its call answered or gone. -/
theorem Registered.taken {s t : Client} (h : s.Registered) {call : Nat} {sessionId : String}
    (hlookup : s.onAnswer.lookup sessionId = some call)
    (honAnswer : t.onAnswer = s.onAnswer.erase sessionId)
    (hunique : t.OwnIds)
    (hothers : ∀ i, i ≠ call → t.calls[i]? = s.calls[i]?)
    (hcall : ∀ sessionId', t.calls[call]? ≠ some ⟨sessionId', .waiting⟩) : t.Registered where
  unique := hunique
  callback sessionId' i hi := by
    rw [honAnswer, Collection.lookup_erase_eq] at hi
    split_ifs at hi with heq
    obtain ⟨phase, hget, hphase⟩ := h.callback sessionId' i hi
    refine ⟨phase, ?_, hphase⟩
    rw [hothers i, hget]
    -- one call cannot have two session ids
    rintro rfl
    obtain ⟨phase', hget', -⟩ := h.callback sessionId i hlookup
    exact heq (congrArg OfferCall.sessionId (Option.some.inj (hget.symm.trans hget')))
  waiting i sessionId' hi := by
    have hne : i ≠ call := by
      rintro rfl
      exact hcall sessionId' hi
    rw [hothers i hne] at hi
    have hback := h.waiting i sessionId' hi
    rw [honAnswer, Collection.lookup_erase_eq, if_neg, hback]
    rintro rfl
    exact hne (Option.some.inj (hback.symm.trans hlookup))

theorem Registered.step {s t : Client} {e : ClientEvent} (h : s.Registered) (hm : Moves s e t) :
    t.Registered := by
  cases hm with
  | calledBack hlistener hlookup hphase =>
    rename_i sdp call
    have hothers : ∀ i, (s.setPhase call (.answered sdp.sdp)).calls[i]? =
        (s.calls[i]?).map fun c => if call = i then {c with phase := .answered sdp.sdp} else c :=
      fun i => getElem_setPhase s call i _
    refine h.taken hlookup rfl (h.unique.setPhase _ _) (fun i hne => ?_) fun sessionId' heq => ?_
    · refine (hothers i).trans ?_
      simp [Ne.symm hne]
    · replace heq : (s.setPhase call (.answered sdp.sdp)).calls[call]? = some ⟨sessionId', .waiting⟩ := heq
      simp [hothers call] at heq
  | callbackPanics hlistener hlookup hphase =>
    rename_i call
    refine h.taken hlookup rfl h.unique (fun i _ => rfl) fun sessionId' heq => hphase ?_
    replace heq : s.calls[call]? = some ⟨sessionId', .waiting⟩ := heq
    rw [heq]
    rfl
  | sendOffer hon hfresh =>
    rename_i sessionId
    have hget : ∀ i c, (s.calls ++ [⟨sessionId, .sent⟩])[i]? = some c →
        s.calls[i]? = some c ∨ (i = s.calls.length ∧ c = ⟨sessionId, .sent⟩) := by
      exact fun i c hi => Records.of_append hi
    refine ⟨fun i j c d hi hj heq => ?_, fun sessionId' i hi => ?_, fun i sessionId' hi => ?_⟩
    · rcases hget i c hi with hc | ⟨rfl, rfl⟩ <;> rcases hget j d hj with hd | ⟨rfl, rfl⟩
      · exact h.unique i j c d hc hd heq
      · exact absurd heq (hfresh.1 c (List.mem_of_getElem? hc))
      · exact absurd heq.symm (hfresh.1 d (List.mem_of_getElem? hd))
      · rfl
    · obtain ⟨phase, hc, hphase⟩ := h.callback sessionId' i hi
      exact ⟨phase, Records.append hc, hphase⟩
    · rcases hget i _ hi with hc | ⟨-, heq⟩
      · exact h.waiting i sessionId' hc
      · cases heq
  | onAnswer hcall => exact h.onAnswer hcall
  | rxAnswer hcall => exact h.setPhase hcall (by simp) (by simp)
  | cancel hcall hpending => exact h.setPhase hcall (by simp) (fun _ => rfl)
  | _ => exact ⟨h.unique, h.callback, h.waiting⟩

end Client

/-- Frames, tasks and calls in any order, from the start of `connect`. -/
def signalingClient : Transition.System Client ClientEvent where
  init := {}
  step := Client.step

end MagicShare.WebRtc
