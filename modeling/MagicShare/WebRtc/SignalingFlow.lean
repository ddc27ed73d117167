import MagicShare.WebRtc.Signaling

/-! What goes through the channels of the signaling client.

A message is on the wire, in the hands of a task, in a channel, or with the
application, in this order; a step moves it on (`Client.Carries.step`). Left to
themselves the tasks come to an end (`Client.tasks_end`), and where they can do no
more, a listener that is there has forwarded everything (`Client.drained`). -/
namespace MagicShare.WebRtc
open Ws Documents

def Reader.passed : Reader → List WsServerMessage
  | passing message => [message]
  | _ => []

def Reader.ungreeted : Reader → List WsServerMessage
  | greeting client peers => [.hello client peers]
  | _ => []

def Listener.hand : Listener → List WsServerMessage
  | holding message | forwarding message => [message]
  | _ => []

@[simp] theorem Reader.passed_reading : Reader.reading.passed = [] := rfl
@[simp] theorem Reader.passed_passing (message : WsServerMessage) : (Reader.passing message).passed = [message] := rfl
@[simp] theorem Reader.passed_greeting (client : ClientInfo) (peers : List ClientInfo) :
    (Reader.greeting client peers).passed = [] := rfl
@[simp] theorem Reader.passed_ended : Reader.ended.passed = [] := rfl
@[simp] theorem Reader.ungreeted_reading : Reader.reading.ungreeted = [] := rfl
@[simp] theorem Reader.ungreeted_passing (message : WsServerMessage) : (Reader.passing message).ungreeted = [] := rfl
@[simp] theorem Reader.ungreeted_greeting (client : ClientInfo) (peers : List ClientInfo) :
    (Reader.greeting client peers).ungreeted = [.hello client peers] := rfl
@[simp] theorem Reader.ungreeted_ended : Reader.ended.ungreeted = [] := rfl
@[simp] theorem Listener.hand_off : Listener.off.hand = [] := rfl
@[simp] theorem Listener.hand_listening : Listener.listening.hand = [] := rfl
@[simp] theorem Listener.hand_holding (message : WsServerMessage) : (Listener.holding message).hand = [message] := rfl
@[simp] theorem Listener.hand_forwarding (message : WsServerMessage) :
    (Listener.forwarding message).hand = [message] := rfl
@[simp] theorem Listener.hand_ended : Listener.ended.hand = [] := rfl

/-- What the reading task and the listener, `connect`, the application and the calls
do by themselves. -/
def ClientEvent.Task : ClientEvent → Prop
  | .read | .sendClient | .sendMessage | .connect | .recv | .callback | .forward | .appRecv
  | .onAnswer _ | .rxAnswer _ => True
  | _ => False

namespace Client

/-- The messages whose clients have been sent, from the oldest. -/
def past (s : Client) : List WsServerMessage :=
  s.received ++ (s.appQueue ++ (s.listener.hand ++ (s.receiveQueue ++ s.reader.passed)))

/-- The messages still to come. -/
def ahead (s : Client) : List WsServerMessage :=
  s.reader.ungreeted ++ s.wire.filterMap Frame.message

/-- No task can go on. -/
def Quiet (s : Client) : Prop := ∀ e : ClientEvent, e.Task → s.step e = none

/-- What `f` sees of the messages is on its way or has arrived, in order. -/
def Carries {α : Type} (f : WsServerMessage → Option α) (s : Client) : Prop :=
  (s.past ++ s.ahead).filterMap f = s.messages.filterMap f

variable {s t : Client} {e : ClientEvent}

/-- A frame goes to the reading task, a `Hello` as one still to greet. -/
theorem handle_hand (frame : Frame) :
    (handle frame).passed ++ (handle frame).ungreeted = frame.message.toList := by
  unfold handle
  split <;> next heq => simp [heq]

/-- The receiver of the messages is there while the listener can hear. -/
theorem Sound.receiveRx (h : s.Sound) (hreader : s.reader ≠ .ended) (halive : s.listener ≠ .panicked) :
    s.receiveRxGone = false := by
  have hended : s.listener ≠ .ended := fun hend => hreader (h.heardAll hend).1
  have hconnect : s.connect ≠ .panicked := fun hpanicked => hreader (h.panicked hpanicked)
  cases hc : s.connect <;> cases hl : s.listener <;> simp_all [receiveRxGone]

/-- **A step moves the messages on**, and none is lost or doubled while the listener
lives and the application holds its receiver, save a `Hello` that comes too late. -/
theorem past_ahead (hs : s.Sound) (hm : Moves s e t) (hholds : t.appHolds = true)
    (halive : t.listener ≠ .panicked) :
    (∃ client peers, e = .sendClient ∧ s.connect.over = true ∧ s.reader = .greeting client peers ∧
        t = {s with reader := .reading}) ∨
      ∃ new, t.messages = s.messages ++ new ∧ t.past ++ t.ahead = s.past ++ s.ahead ++ new := by
  cases hm with
  | serve frame hopen =>
    refine .inr ⟨frame.message.toList, ?_, ?_⟩
    · cases h : frame.message <;> simp [messages, h]
    · cases h : frame.message <;> simp [past, ahead, h]
  | read hreader hwire =>
    rename_i frame rest
    refine .inr ⟨[], by simp [messages], ?_⟩
    have hwire' : s.wire.filterMap Frame.message = frame.message.toList ++ rest.filterMap Frame.message := by
      rw [hwire]
      cases h : frame.message <;> simp [h]
    simp only [past, ahead, hreader, hwire', List.append_assoc, List.append_nil, List.nil_append,
      Reader.passed_reading, Reader.ungreeted_reading, ← handle_hand]
  | ungreeted hreader hover => exact .inl ⟨_, _, rfl, hover, hreader, rfl⟩
  | unpassed hreader hgone =>
    have hrx := hs.receiveRx (by simp [hreader]) halive
    rw [hrx] at hgone
    cases hgone
  | callbackPanics => exact absurd rfl halive
  | forwardPanics => exact absurd rfl halive
  | appDrop => cases hholds
  | _ => exact .inr ⟨[], by simp [messages, setPhase], by simp [past, ahead, setPhase, *]⟩

/-- What `f` sees is carried on, if it does not see a late `Hello`. -/
theorem Carries.step {α : Type} {f : WsServerMessage → Option α} (h : s.Carries f) (hs : s.Sound)
    (hm : Moves s e t) (hholds : t.appHolds = true) (halive : t.listener ≠ .panicked)
    (hgreet : e = .sendClient → s.connect.over = true → ∀ client peers, f (.hello client peers) = none) :
    t.Carries f := by
  rcases past_ahead hs hm hholds halive with ⟨client, peers, he, hover, hreader, rfl⟩ | ⟨new, hserved, hflow⟩
  · have hnone := hgreet he hover client peers
    simp only [Carries, past, ahead, messages, hreader] at h ⊢
    simpa [List.filterMap_append, hnone] using h
  · unfold Carries at h ⊢
    rw [hflow, hserved, List.filterMap_append, h, List.filterMap_append]

/-! ### Where the tasks come to rest -/

/-- **A listener at rest has forwarded everything**: every message on its way has
reached the application. -/
theorem drained (hs : s.Sound) (hq : s.Quiet) (hon : s.listener ≠ .off) (halive : s.listener ≠ .panicked)
    (hholds : s.appHolds = true) : s.past = s.received ∧ s.ahead = [] := by
  have happ : s.appQueue = [] := by
    have h := hq .appRecv trivial
    cases hqueue : s.appQueue with
    | nil => rfl
    | cons message rest => simp [step, hholds, hqueue] at h
  have hlistener : s.listener = .listening ∨ s.listener = .ended := by
    cases hl : s.listener with
    | off => exact absurd hl hon
    | panicked => exact absurd hl halive
    | listening => exact .inl rfl
    | ended => exact .inr rfl
    | holding message =>
      have h := hq .callback trivial
      simp [step, hl] at h
    | forwarding message =>
      have h := hq .forward trivial
      simp [step, hl, hholds, happ, appCapacity] at h
  obtain ⟨client, hconnect⟩ := hs.connected hon
  have hqueue : s.receiveQueue = [] := by
    rcases hlistener with hl | hl
    · have h := hq .recv trivial
      cases hqueue : s.receiveQueue with
      | nil => rfl
      | cons message rest => simp [step, hl, hqueue] at h
    · exact (hs.heardAll hl).2
  have hreader : (s.reader = .reading ∨ s.reader = .ended) ∧ s.wire = [] := by
    cases hr : s.reader with
    | ended => exact ⟨.inr rfl, (hs.readAll hr).1⟩
    | reading =>
      have h := hq .read trivial
      cases hwire : s.wire with
      | nil => exact ⟨.inl rfl, rfl⟩
      | cons frame rest => simp [step, hr, hwire] at h
    | greeting client peers =>
      have h := hq .sendClient trivial
      simp [step, hr, hconnect, ConnectCall.over] at h
    | passing message =>
      have h := hq .sendMessage trivial
      have hrx := hs.receiveRx (by simp [hr]) halive
      simp [step, hr, hrx, hqueue, receiveCapacity] at h
  obtain ⟨hr, hwire⟩ := hreader
  have hhand : s.listener.hand = [] := by rcases hlistener with hl | hl <;> simp [hl]
  rcases hr with hr | hr
  · simp [past, ahead, happ, hhand, hqueue, hr, hwire]
  · simp [past, ahead, happ, hhand, hqueue, hr, hwire]

end Client

/-! ### The tasks come to rest -/

/-- How many steps a task, a call or a message has before it, at most. -/
def Reader.work : Reader → Nat
  | reading => 1
  | greeting .. => 9
  | passing _ => 8
  | ended => 0

def ConnectCall.work : ConnectCall → Nat
  | waiting => 2
  | received _ => 1
  | returned _ | panicked => 0

def Listener.work : Listener → Nat
  | listening => 1
  | holding _ => 6
  | forwarding _ => 5
  | off | panicked | ended => 0

def OfferCall.work (c : OfferCall) : Nat :=
  match c.phase with
  | .sent => 3
  | .waiting => 2
  | .answered _ => 1
  | .received _ | .cancelled => 0

theorem work_handle (frame : Frame) : (Client.handle frame).work ≤ 9 := by
  unfold Client.handle
  split <;> simp [Reader.work]

def callsWork : List OfferCall → Nat
  | [] => 0
  | c :: rest => c.work + callsWork rest

/-- A change of one call changes the sum by as much. -/
theorem callsWork_modify (f : OfferCall → OfferCall) {calls : List OfferCall} {i : Nat} {c : OfferCall}
    (h : calls[i]? = some c) : callsWork (calls.modify i f) + c.work = callsWork calls + (f c).work := by
  induction calls generalizing i with
  | nil => simp at h
  | cons d rest ih =>
    cases i with
    | zero =>
      obtain rfl := Option.some.inj h
      simp only [List.modify_zero_cons, callsWork]
      omega
    | succ i =>
      have := ih (i := i) (by simpa using h)
      simp only [List.modify_succ_cons, callsWork]
      omega

namespace Client
variable {s t : Client} {e : ClientEvent}

def work (s : Client) : Nat :=
  10 * s.wire.length + s.reader.work + s.connect.work + 6 * s.receiveQueue.length + s.listener.work +
    3 * s.appQueue.length + callsWork s.calls

theorem work_step (htask : e.Task) (hm : Moves s e t) : t.work < s.work := by
  cases hm with
  | read hreader hwire =>
    rename_i frame rest
    have := work_handle frame
    have hreading : s.reader.work = 1 := by rw [hreader]; rfl
    simp only [work, hreading, hwire, List.length_cons]
    omega
  | calledBack hlistener hlookup hphase =>
    rename_i sdp call
    obtain ⟨c, hc, hwaiting⟩ := Option.map_eq_some_iff.mp hphase
    have := callsWork_modify (fun c => {c with phase := .answered sdp.sdp}) hc
    simp only [OfferCall.work, hwaiting] at this
    simp only [work, hlistener, Listener.work]
    omega
  | onAnswer hcall =>
    have := callsWork_modify (fun c => {c with phase := .waiting}) hcall
    simp only [OfferCall.work] at this
    simp only [work, setPhase]
    omega
  | rxAnswer hcall =>
    rename_i call sessionId sdp
    have := callsWork_modify (fun c => {c with phase := .received sdp}) hcall
    simp only [OfferCall.work] at this
    simp only [work, setPhase]
    omega
  | serve | close | startListener | appDrop | sendOffer | cancel => cases htask
  | _ => simp_all [work, Reader.work, ConnectCall.work, Listener.work] <;> omega

/-- **Left to themselves the tasks come to rest**: there is an end to what they can
do without a new frame or call. -/
theorem tasks_end {events : List ClientEvent} (htask : ∀ e ∈ events, e.Task)
    (hrun : signalingClient.run s events = some t) : events.length ≤ s.work := by
  induction events generalizing s with
  | nil => exact Nat.zero_le _
  | cons e rest ih =>
    obtain ⟨m, hm, hrest⟩ := signalingClient.run_cons_some hrun
    have hlt := work_step (htask e (List.mem_cons_self ..)) (moves_of_step hm)
    have := ih (fun e' he' => htask e' (List.mem_cons_of_mem e he')) hrest
    simp only [List.length_cons]
    omega

theorem comes_to_rest (s : Client) :
    ∃ events t, (∀ e ∈ events, ClientEvent.Task e) ∧ signalingClient.run s events = some t ∧ t.Quiet := by
  induction hwork : s.work using Nat.strong_induction_on generalizing s with
  | h n ih =>
    by_cases hq : s.Quiet
    · exact ⟨[], s, by simp, rfl, hq⟩
    · simp only [Quiet, not_forall] at hq
      obtain ⟨e, htask, hstep⟩ := hq
      obtain ⟨m, hm⟩ := Option.ne_none_iff_exists'.mp hstep
      have hlt := work_step htask (moves_of_step hm)
      obtain ⟨events, t, htasks, hrun, hquiet⟩ := ih m.work (by omega) m rfl
      refine ⟨e :: events, t, ?_, ?_, hquiet⟩
      · simpa using ⟨htask, htasks⟩
      · rw [Transition.System.run_cons]
        exact Option.bind_eq_some_iff.mpr ⟨m, hm, hrun⟩

end Client
end MagicShare.WebRtc
