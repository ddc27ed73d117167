import MagicShare.WebRtc.SignalingFlow

/-! What the signaling client survives.

`connect` unwraps the client of the `Hello`, the reading task gives up a `Hello`
that comes when `connect` has returned, and a callback unwraps the channel of a call
that may be gone. Along every run without these the client stays up: `connect`
returns once the `Hello` is there, and every message after it is forwarded, once and
in order (`survives_of_benign`). -/
namespace MagicShare.WebRtc
open Ws Documents

/-! ### The Hello -/

def firstHello (messages : List WsServerMessage) : Option ClientInfo := messages.findSome? helloClient

def beforeHello (messages : List WsServerMessage) : List WsServerMessage :=
  messages.takeWhile fun message => (helloClient message).isNone

def afterHello (messages : List WsServerMessage) : List WsServerMessage :=
  (messages.dropWhile fun message => (helloClient message).isNone).tail

@[simp] theorem firstHello_nil : firstHello [] = none := rfl

theorem firstHello_append (a b : List WsServerMessage) :
    firstHello (a ++ b) = (firstHello a).or (firstHello b) := List.findSome?_append

theorem firstHello_append_of_some {a : List WsServerMessage} {client : ClientInfo}
    (h : firstHello a = some client) (b : List WsServerMessage) : firstHello (a ++ b) = some client := by
  rw [firstHello_append, h]
  rfl

/-- Without a `Hello` everything is before it. -/
theorem beforeHello_append {a : List WsServerMessage} (h : firstHello a = none) (b : List WsServerMessage) :
    beforeHello (a ++ b) = a ++ beforeHello b := by
  refine List.takeWhile_append_of_pos fun message hmem => ?_
  rw [List.findSome?_eq_none_iff.mp h message hmem]
  rfl

theorem beforeHello_append_of_some {a : List WsServerMessage} {client : ClientInfo}
    (h : firstHello a = some client) (b : List WsServerMessage) :
    beforeHello (a ++ b) = beforeHello a := by
  induction a with
  | nil => cases h
  | cons message rest ih =>
    cases hmessage : helloClient message with
    | some client' => simp [beforeHello, hmessage]
    | none =>
      have := ih (by simpa [firstHello, hmessage] using h)
      simpa [beforeHello, hmessage] using this

theorem afterHello_prefix {a b : List WsServerMessage} (h : a <+: b) : afterHello a <+: afterHello b := by
  obtain ⟨later, rfl⟩ := h
  induction a with
  | nil => exact List.nil_prefix
  | cons message rest ih =>
    cases hmessage : helloClient message with
    | some client => simp [afterHello, hmessage]
    | none => simpa [afterHello, hmessage] using ih

namespace Client

/-- The call whose callback the listener is about to call. -/
def awaiting (s : Client) : Option OfferPhase :=
  match s.listener with
  | .holding (.answer sdp) =>
    (s.onAnswer.lookup sdp.sessionId).bind fun call => (s.calls[call]?).map OfferCall.phase
  | _ => none

/-- The client is up. `connect` returns the client of the `Hello`, does not panic,
and comes to an end once the `Hello` is there or the websocket is closed; the
listener lives as long as the application holds its receiver, and the application
gets the messages after the `Hello`, once and in order, at rest all of them. -/
structure Survives (s : Client) : Prop where
  connect_ok : ∀ client, s.connect = .returned client → firstHello s.messages = some client
  connect_lives : s.connect ≠ .panicked
  connect_returns : s.Quiet → ∀ client, firstHello s.messages = some client → s.connect = .returned client
  connect_ends : s.Quiet → s.closed = true → s.connect ≠ .waiting
  listener_lives : s.appHolds = true → s.listener ≠ .panicked
  in_order : s.appHolds = true → afterHello s.received <+: afterHello s.messages
  forwarded : s.Quiet → s.appHolds = true → s.listener ≠ .off → afterHello s.received = afterHello s.messages

/-- The first `Hello` has at most one message before it and comes before the end; and
while the application holds its receiver, `connect` still waits when a `Hello` is
handled, and no cancelled call is called back. -/
def Benign (s : Client) : ClientEvent → Prop
  | .serve (.json (.hello _ _)) => firstHello s.messages = none → s.messages.length ≤ 1
  | .close => firstHello s.messages ≠ none
  | .sendClient => s.appHolds = true → s.connect.over = false
  | .callback => s.appHolds = true → s.awaiting ≠ some .cancelled
  | _ => True

instance (s : Client) : DecidablePred s.Benign := fun e =>
  match e with
  | .serve (.json (.hello ..)) => inferInstanceAs (Decidable (_ → _))
  | .close => inferInstanceAs (Decidable (_ ≠ _))
  | .sendClient => inferInstanceAs (Decidable (_ → _))
  | .callback => inferInstanceAs (Decidable (_ → _))
  | .serve (.json (.join _)) | .serve (.json (.update _)) | .serve (.json (.left _))
  | .serve (.json (.offer _)) | .serve (.json (.answer _)) | .serve (.json (.error _))
  | .serve (.text _) | .serve .other | .read | .sendMessage | .connect | .startListener | .recv
  | .forward | .appRecv | .appDrop | .sendOffer _ | .onAnswer _ | .rxAnswer _ | .cancel _ => .isTrue trivial

/-! ### What holds meanwhile -/

/-- A client that is up, with every message on its way or with the application. -/
structure Up (s : Client) : Prop where
  sound : s.Sound
  registered : s.Registered
  unpanicked : s.connect ≠ .panicked
  alive : s.appHolds = true → s.listener ≠ .panicked
  flow : s.appHolds = true → s.past ++ s.ahead = s.messages
  early : firstHello s.messages ≠ none → (beforeHello s.messages).length ≤ 1
  greeted : s.connect = .waiting → s.clientQueue = (firstHello s.past).toList
  client : ∀ client, s.connect = .received client ∨ s.connect = .returned client →
    firstHello s.messages = some client
  closed : s.closed = true → firstHello s.messages ≠ none
  unstarted : s.listener = .off → s.appHolds = true

variable {s t : Client} {e : ClientEvent}

/-- The server's messages only become more. -/
theorem messages_step (hm : Moves s e t) : ∃ new, t.messages = s.messages ++ new := by
  cases hm with
  | serve frame hopen => exact ⟨[frame].filterMap Frame.message, by simp [messages]⟩
  | _ => exact ⟨[], by simp [messages, setPhase]⟩

theorem firstHello_step (hm : Moves s e t) {client : ClientInfo} (h : firstHello s.messages = some client) :
    firstHello t.messages = some client := by
  obtain ⟨new, hnew⟩ := messages_step hm
  rw [hnew]
  exact firstHello_append_of_some h new

/-- Nothing has been forwarded while `connect` waits. -/
theorem Up.off (h : s.Up) (hwaiting : s.connect = .waiting) : s.listener = .off := by
  by_contra hon
  obtain ⟨client, hconnect⟩ := h.sound.connected hon
  rw [hwaiting] at hconnect
  cases hconnect

/-- The `Hello` that `connect` waits for is not lost: at the end of the stream its
client is in the channel. -/
theorem Up.waiting_ended (h : s.Up) (hwaiting : s.connect = .waiting) (hended : s.reader = .ended) :
    s.clientQueue ≠ [] := by
  obtain ⟨hwire, hclosed⟩ := h.sound.readAll hended
  have hflow := h.flow (h.unstarted (h.off hwaiting))
  have hahead : s.ahead = [] := by simp [ahead, hended, hwire]
  rw [hahead, List.append_nil] at hflow
  rw [h.greeted hwaiting, hflow]
  simpa using h.closed hclosed

theorem Up.unpanicked_step (h : s.Up) (hm : Moves s e t) : t.connect ≠ .panicked := by
  have hconnect := h.unpanicked
  cases hm with
  | connectPanics hwaiting hqueue hended => exact absurd hqueue (h.waiting_ended hwaiting hended)
  | recvClient | connectReturns => simp
  | _ => exact hconnect

theorem Up.alive_step (h : s.Up) (he : s.Benign e) (hm : Moves s e t) (hholds : t.appHolds = true) :
    t.listener ≠ .panicked := by
  have halive := h.alive
  cases hm with
  | callbackPanics hlistener hlookup hphase =>
    obtain ⟨phase, hcall, rfl | rfl⟩ := h.registered.callback _ _ hlookup
    · rw [hcall] at hphase
      exact absurd rfl hphase
    · exact absurd (by simp [awaiting, hlistener, hlookup, hcall]) (he hholds)
  | forwardPanics hlistener hgone =>
    rw [hgone] at hholds
    cases hholds
  | appDrop => cases hholds
  | startListener | recv | recvEnd | unasked | calledBack | forwarded => simp
  | _ => exact halive hholds

/-- The receiver of the application does not come back. -/
theorem holds_of_step (hm : Moves s e t) (hholds : t.appHolds = true) : s.appHolds = true := by
  cases hm with
  | appDrop => cases hholds
  | _ => exact hholds

theorem Up.flow_step (h : s.Up) (he : s.Benign e) (hm : Moves s e t) (hholds : t.appHolds = true) :
    t.past ++ t.ahead = t.messages := by
  rcases past_ahead h.sound hm hholds (h.alive_step he hm hholds) with
    ⟨client, peers, rfl, hover, -⟩ | ⟨new, hmessages, hflow⟩
  · have hwaits : s.connect.over = false := he (holds_of_step hm hholds)
    exact absurd (hwaits.symm.trans hover) (by simp)
  · rw [hflow, hmessages, h.flow (holds_of_step hm hholds)]

theorem Up.early_step (h : s.Up) (he : s.Benign e) (hm : Moves s e t) :
    firstHello t.messages ≠ none → (beforeHello t.messages).length ≤ 1 := by
  have hearly := h.early
  cases hm with
  | serve frame hopen =>
    have hmessages : messages {s with wire := s.wire ++ [frame], served := s.served ++ [frame]} =
        s.messages ++ [frame].filterMap Frame.message := by simp [messages]
    intro hhello
    rw [hmessages] at hhello ⊢
    cases hs : firstHello s.messages with
    | some client =>
      rw [beforeHello_append_of_some hs]
      exact hearly (by simp [hs])
    | none =>
      rw [beforeHello_append hs]
      rw [firstHello_append, hs] at hhello
      -- the frame is the first Hello
      cases frame with
      | json message =>
        cases message with
        | hello client peers =>
          have hlength := he hs
          simpa [beforeHello, Frame.message, helloClient] using hlength
        | _ => exact absurd rfl hhello
      | text => exact absurd rfl hhello
      | other => exact absurd rfl hhello
  | _ => exact hearly

/-- What the reading task passes on without greeting is no `Hello`. -/
theorem firstHello_handle (frame : Frame) : firstHello (handle frame).passed = none := by
  unfold handle
  split
  · rfl
  · rfl
  · next message hhello hmessage =>
    cases message with
    | hello client peers => exact absurd rfl (hhello client peers)
    | _ => rfl

theorem Up.greeted_step (h : s.Up) (hm : Moves s e t) (hwaiting : t.connect = .waiting) :
    t.clientQueue = (firstHello t.past).toList := by
  have hgreeted := h.greeted
  have hoff := h.off
  cases hm with
  | read hreader hwire =>
    rw [hgreeted hwaiting]
    simp [past, firstHello_append, hreader, firstHello_handle]
  | readEnd hreader => simpa [past, hreader] using hgreeted hwaiting
  | ungreeted hreader hover =>
    rw [hwaiting] at hover
    cases hover
  | greeted hreader hover hqueue =>
    rename_i client peers
    have hnone : firstHello s.past = none := by
      have hnil := hgreeted hwaiting
      rw [hqueue] at hnil
      exact Option.toList_eq_nil_iff.mp hnil.symm
    have hpast : past {s with clientQueue := [client], reader := .passing (.hello client peers)} =
        s.past ++ [.hello client peers] := by simp [past, hreader]
    rw [hpast, firstHello_append, hnone]
    rfl
  | unpassed hreader hgone =>
    have hrx := h.sound.receiveRx (by simp [hreader]) (by simp [hoff hwaiting])
    rw [hrx] at hgone
    cases hgone
  | passed hreader hgone hqueue => simpa [past, hreader, hqueue] using hgreeted hwaiting
  | recvClient | connectPanics | connectReturns => cases hwaiting
  | startListener hconnect => exact absurd (hwaiting.symm.trans hconnect) (by simp)
  | recv hlistener | recvEnd hlistener | unasked hlistener | calledBack hlistener | callbackPanics hlistener
  | forwarded hlistener | forwardPanics hlistener =>
    exact absurd (hlistener.symm.trans (hoff hwaiting)) (by simp)
  | appRecv hholds hqueue => simpa [past, hqueue] using hgreeted hwaiting
  | appDrop hholds hon => exact absurd (hoff hwaiting) hon
  | _ => exact hgreeted hwaiting

theorem Up.client_step (h : s.Up) (hm : Moves s e t) (client : ClientInfo)
    (hclient : t.connect = .received client ∨ t.connect = .returned client) :
    firstHello t.messages = some client := by
  refine firstHello_step hm ?_
  have hold := h.client client
  cases hm with
  | recvClient hwaiting hqueue =>
    rename_i client' rest
    obtain rfl : client' = client := by simpa using hclient
    have hpast : firstHello s.past = some client' := by
      have hgreeted := h.greeted hwaiting
      rw [hqueue] at hgreeted
      cases hfirst : firstHello s.past with
      | none => simp [hfirst] at hgreeted
      | some first => simp [hfirst] at hgreeted; simp [hgreeted.1]
    rw [← h.flow (h.unstarted (h.off hwaiting))]
    exact firstHello_append_of_some hpast s.ahead
  | connectPanics => simp at hclient
  | connectReturns hreceived =>
    obtain rfl : _ = client := by simpa using hclient
    exact hold (.inl hreceived)
  | _ => exact hold hclient

theorem Up.step (h : s.Up) (he : s.Benign e) (hm : Moves s e t) : t.Up where
  sound := h.sound.step hm
  registered := h.registered.step hm
  unpanicked := h.unpanicked_step hm
  alive := h.alive_step he hm
  flow := h.flow_step he hm
  early := h.early_step he hm
  greeted := h.greeted_step hm
  client := h.client_step hm
  closed hclosed := by
    have hbefore : firstHello s.messages ≠ none := by
      have := h.closed
      cases hm with
      | close => exact he
      | _ => exact this hclosed
    obtain ⟨client, hclient⟩ := Option.ne_none_iff_exists'.mp hbefore
    rw [firstHello_step hm hclient]
    simp
  unstarted hoff := by
    have hold := h.unstarted
    cases hm with
    | appDrop hholds hon => exact absurd hoff hon
    | startListener | recv | recvEnd | unasked | calledBack | callbackPanics | forwarded | forwardPanics =>
      cases hoff
    | _ => exact hold hoff

/-! ### At rest -/

/-- A waiting `connect` does not come to rest once the `Hello` is there. -/
theorem Up.not_waiting (h : s.Up) (hq : s.Quiet) {client : ClientInfo}
    (hclient : firstHello s.messages = some client) : s.connect ≠ .waiting := by
  intro hwaiting
  have hoff := h.off hwaiting
  have hstep := hq .connect trivial
  have hqueue : s.clientQueue = [] := by
    cases hqueue : s.clientQueue with
    | nil => rfl
    | cons client rest => simp [Client.step, connectStep, hwaiting, hqueue] at hstep
  have hnone : firstHello s.past = none := by
    have hgreeted := h.greeted hwaiting
    rw [hqueue] at hgreeted
    exact Option.toList_eq_nil_iff.mp hgreeted.symm
  have hflow := h.flow (h.unstarted hoff)
  have hahead : firstHello s.ahead = some client := by
    rw [← hflow, firstHello_append, hnone] at hclient
    exact hclient
  cases hreader : s.reader with
  | ended => exact h.waiting_ended hwaiting hreader hqueue
  | reading =>
    have hread := hq .read trivial
    cases hwire : s.wire with
    | nil => simp [ahead, hreader, hwire] at hahead
    | cons frame rest => simp [Client.step, hreader, hwire] at hread
  | greeting client peers =>
    have hsend := hq .sendClient trivial
    simp [Client.step, hreader, hwaiting, hqueue, ConnectCall.over, clientCapacity] at hsend
  | passing message =>
    -- the channel is full, so two messages come before the Hello
    have hsend := hq .sendMessage trivial
    have hrx := h.sound.receiveRx (by simp [hreader]) (by simp [hoff])
    have hfull : s.receiveQueue ≠ [] := by
      rintro hnil
      simp [Client.step, hreader, hrx, hnil, receiveCapacity] at hsend
    have hbefore := h.early (by simp [hclient])
    rw [← hflow, beforeHello_append hnone] at hbefore
    have hpast : s.past.length = s.received.length + s.appQueue.length + s.receiveQueue.length + 1 := by
      simp [past, hreader, hoff]
      omega
    have hlength := List.length_pos_iff.mpr hfull
    simp only [List.length_append] at hbefore
    omega

theorem Up.returns (h : s.Up) (hq : s.Quiet) {client : ClientInfo}
    (hclient : firstHello s.messages = some client) : s.connect = .returned client := by
  have hstep := hq .connect trivial
  cases hconnect : s.connect with
  | waiting => exact absurd hconnect (h.not_waiting hq hclient)
  | panicked => exact absurd hconnect h.unpanicked
  | received client' => simp [Client.step, connectStep, hconnect] at hstep
  | returned client' =>
    have := h.client client' (.inr hconnect)
    rw [Option.some.inj (this.symm.trans hclient)]

theorem Up.survives (h : s.Up) : s.Survives where
  connect_ok client hconnect := h.client client (.inr hconnect)
  connect_lives := h.unpanicked
  connect_returns hq client hclient := h.returns hq hclient
  connect_ends hq hclosed := by
    obtain ⟨client, hclient⟩ := Option.ne_none_iff_exists'.mp (h.closed hclosed)
    exact h.not_waiting hq hclient
  listener_lives := h.alive
  in_order hholds := by
    apply afterHello_prefix
    rw [← h.flow hholds, past, List.append_assoc]
    exact List.prefix_append ..
  forwarded hq hholds hon := by
    obtain ⟨hpast, hahead⟩ := drained h.sound hq hon (h.alive hholds) hholds
    rw [← h.flow hholds, hpast, hahead, List.append_nil]

theorem up_init : Up {} where
  sound := sound_init
  registered := registered_init
  unpanicked := by simp
  alive := by simp
  flow _ := rfl
  early h := absurd rfl h
  greeted _ := rfl
  client := by simp
  closed := by simp
  unstarted _ := rfl

end Client

open Client

/-- **The client survives every run of benign steps.** -/
theorem survives_of_benign (events : List ClientEvent)
    (h : signalingClient.Meets Benign signalingClient.init events) :
    signalingClient.Along Survives signalingClient.init events :=
  Transition.System.along_of_meets (I := Up) (fun _ _ _ hup hbenign hst => hup.step hbenign (moves_of_step hst))
    (fun _ hup => hup.survives) up_init h

/-- A peer joins before the `Hello`; of two offers one is answered and one given up,
and the application takes what it is sent. -/
def goodDay : List ClientEvent :=
  [.serve (.json (.join (.of phone ⟨1⟩))), .read, .sendMessage,
    .serve (.json (.hello (.of phone ⟨0⟩) [])), .read, .sendClient, .connect, .connect, .startListener,
    .recv, .callback, .forward, .sendMessage, .recv, .callback, .forward,
    .sendOffer "first", .onAnswer 0, .sendOffer "second", .onAnswer 1, .cancel 1, .serve (.text "?"), .read,
    .serve (.json (.answer ⟨.of phone ⟨1⟩, "first", "v=0"⟩)), .read, .sendMessage, .recv, .callback, .forward,
    .rxAnswer 0, .appRecv, .appRecv, .appRecv, .close, .read, .recv]

theorem survives_good_day : signalingClient.Along Survives signalingClient.init goodDay :=
  survives_of_benign goodDay (by decide +kernel)

/-- The server refuses the client, and closes. -/
def refusal : List ClientEvent := [.serve (.text "Limit reached"), .close, .read, .read, .connect]

theorem refused_client_panics : ¬ signalingClient.Along Survives signalingClient.init refusal := by
  intro h
  have hconnect : (signalingClient.run signalingClient.init refusal).map Client.connect = some .panicked := by
    decide +kernel
  obtain ⟨t, hrun, hpanicked⟩ := Option.map_eq_some_iff.mp hconnect
  have hup : t.Survives := Transition.System.Along.reached (b := []) (by simpa using h) hrun
  exact hup.connect_lives hpanicked

/-- An offer is given up, and its answer comes. -/
def lateAnswer : List ClientEvent :=
  [.serve (.json (.hello (.of phone ⟨0⟩) [])), .read, .sendClient, .sendMessage, .connect, .connect,
    .startListener, .recv, .callback, .forward, .sendOffer "session", .onAnswer 0, .cancel 0,
    .serve (.json (.answer ⟨.of phone ⟨1⟩, "session", "v=0"⟩)), .read, .sendMessage, .recv, .callback]

theorem cancelled_call_ends_listener :
    (signalingClient.run signalingClient.init lateAnswer).map (fun t => (t.listener, t.appHolds)) =
      some (.panicked, true) := by
  decide +kernel

end MagicShare.WebRtc
