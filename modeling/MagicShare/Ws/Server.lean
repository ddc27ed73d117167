import MagicShare.Base.Documents
import MagicShare.Base.Transition

/-! The signaling server's websocket handlers (`ws_controller.rs`).

A handler registers under the lock of the room map, announces itself to the
others, queues its own `Hello` and only then starts the task that empties its
queue. From then on three tasks run side by side: the one that writes frames, the
one that reads the client's messages, and the handler itself, which waits for
either to end, removes the peer under the lock and says goodbye.

Every event is one critical section or one send to a queue. A hash map is iterated
in an order of its own, so the events that do carry it. -/
namespace MagicShare.Ws
open Documents

/-! ### Messages -/

/-- The id of a peer; the server draws a fresh one for every connection. -/
structure Uuid where
  val : Nat
  deriving DecidableEq

inductive DeviceType where
  | mobile | desktop | web | headless | server
  deriving DecidableEq

structure ClientInfoWithoutId where
  «alias» : String
  version : String
  deviceModel : Option String
  deviceType : Option DeviceType
  token : String
  deriving DecidableEq

structure ClientInfo extends ClientInfoWithoutId where
  id : Uuid
  deriving DecidableEq

/-- `ClientInfo::from`. -/
def ClientInfo.of (info : ClientInfoWithoutId) (id : Uuid) : ClientInfo := {info with id := id}

structure WsServerSdpMessage where
  peer : ClientInfo
  sessionId : String
  sdp : String
  deriving DecidableEq

inductive WsServerMessage where
  | hello (client : ClientInfo) (peers : List ClientInfo)
  | join (peer : ClientInfo)
  | update (peer : ClientInfo)
  | left (peerId : Uuid)
  | offer (message : WsServerSdpMessage)
  | answer (message : WsServerSdpMessage)
  | error (code : Nat)
  deriving DecidableEq

structure WsClientSdpMessage where
  sessionId : String
  target : Uuid
  sdp : String
  deriving DecidableEq

inductive WsClientMessage where
  | update (info : ClientInfoWithoutId)
  | offer (message : WsClientSdpMessage)
  | answer (message : WsClientSdpMessage)
  deriving DecidableEq

/-! ### Handlers -/

/-- The capacity of a client's queue. -/
def channelCapacity : Nat := 4

/-- Where a handler is: announcing itself with the peers of its `Hello` in hand,
with the `Hello` queued, waiting for its tasks, about to remove the peer, or saying
goodbye. -/
inductive Phase where
  | connecting (peers : List ClientInfo)
  | greeted
  | serving
  | closing
  | leaving
  deriving DecidableEq

/-- The task that empties the queue; with it the queue is dropped. -/
inductive SendTask where
  | notStarted | running | dropped
  deriving DecidableEq

/-- The task that reads the client: waiting for a message, about to act on one it
has counted, sending to other clients, about to send the `Error` of a refused
message, or ended. -/
inductive RecvTask where
  | idle
  | accepted (message : WsClientMessage)
  | sending (sends : List (Uuid × WsServerMessage))
  | refused
  | over
  deriving DecidableEq

/-- One websocket. `peer` is what the client said of itself when it connected,
`announced` what it said last; `sends` is what the handler still has to send, and
`received` what the client was sent. `born` numbers the registrations. -/
structure Handler where
  ipGroup : String
  peer : ClientInfo
  announced : ClientInfoWithoutId
  born : Nat
  phase : Phase
  sends : List (Uuid × WsServerMessage)
  sendTask : SendTask := .notStarted
  recvTask : RecvTask := .over
  queue : List WsServerMessage := []
  received : List WsServerMessage := []
  deriving DecidableEq

/-- From registration to removal. -/
def Handler.Live (h : Handler) : Prop := h.phase ≠ .leaving

instance (h : Handler) : Decidable h.Live := inferInstanceAs (Decidable (_ ≠ _))

/-! ### The server -/

/-- The members of an IP group; each one's sender is that of its handler. -/
abbrev Room := Collection Uuid ClientInfoWithoutId

/-- `accepted` notes the groups of the requests counted since the last clear. -/
structure Server where
  rooms : Collection String Room := ∅
  requestCounts : Collection String Nat := ∅
  handlers : Uuid → Option Handler := fun _ => none
  next : Nat := 0
  accepted : List String := []

/-- `MAX_CONNECTIONS_PER_IP` and `MAX_REQUESTS_PER_IP_PER_HOUR`. -/
structure Limits where
  maxConnections : Nat
  maxRequests : Nat

namespace Server

def setHandler (σ : Server) (id : Uuid) (h : Handler) : Server :=
  {σ with handlers := Function.update σ.handlers id (some h)}

def room (σ : Server) (ipGroup : String) : Room := (σ.rooms.lookup ipGroup).getD ∅

/-- A possible order of a hash map's entries. -/
def Iterates (order : List Uuid) (room : Room) : Prop := order.Nodup ∧ order.toFinset = room.keys

instance (order : List Uuid) (room : Room) : Decidable (Iterates order room) :=
  inferInstanceAs (Decidable (_ ∧ _))

def requestCount (σ : Server) (ipGroup : String) : Nat := (σ.requestCounts.lookup ipGroup).getD 0

/-- `protect_ddos_request_count`: whether the request is accepted. -/
def protectDdosRequestCount (limits : Limits) (σ : Server) (ipGroup : String) : Bool × Server :=
  if σ.requestCount ipGroup ≥ limits.maxRequests then
    (false, {σ with requestCounts := σ.requestCounts.insert ipGroup (σ.requestCount ipGroup)})
  else
    (true, {σ with
      requestCounts := σ.requestCounts.insert ipGroup (σ.requestCount ipGroup + 1)
      accepted := ipGroup :: σ.accepted})

/-- `entry(ip_group).or_insert_with(HashMap::new)`. -/
def enterRoom (σ : Server) (ipGroup : String) : Server :=
  {σ with rooms := σ.rooms.insert ipGroup (σ.room ipGroup)}

/-- The peers of a room, in the order the map gives them. -/
def peersOf (room : Room) (order : List Uuid) : List ClientInfo :=
  order.filterMap fun id => (room.lookup id).map fun info => ClientInfo.of info id

/-- A new peer has the others to tell, and their list for its `Hello`. -/
def newcomer (σ : Server) (id : Uuid) (ipGroup : String) (info : ClientInfoWithoutId) (order : List Uuid) :
    Handler where
  ipGroup := ipGroup
  peer := .of info id
  announced := info
  born := σ.next
  phase := .connecting (peersOf (σ.room ipGroup) order)
  sends := order.map fun other => (other, .join (.of info id))

/-- The insertion of the new peer. -/
def register (σ : Server) (id : Uuid) (ipGroup : String) (info : ClientInfoWithoutId)
    (order : List Uuid) : Server :=
  {σ with
    rooms := σ.rooms.insert ipGroup ((σ.room ipGroup).insert id info)
    next := σ.next + 1
    handlers := Function.update σ.handlers id (some (σ.newcomer id ipGroup info order))}

/-- The critical section of a new connection; a refused one leaves no handler. -/
def connect (limits : Limits) (σ : Server) (id : Uuid) (ipGroup : String) (info : ClientInfoWithoutId)
    (order : List Uuid) : Server :=
  let σ := σ.enterRoom ipGroup
  if (σ.room ipGroup).keys.card ≥ limits.maxConnections then σ
  else
    match protectDdosRequestCount limits σ ipGroup with
    | (false, σ) => σ
    | (true, σ) => σ.register id ipGroup info order

/-- `tx.send`: waits while the queue is full, gives up when its receiver is gone. -/
def push (σ : Server) (target : Uuid) (message : WsServerMessage) : Option Server :=
  match σ.handlers target with
  | none => some σ
  | some h =>
    if h.sendTask = .dropped then some σ
    else if h.queue.length < channelCapacity then
      some (σ.setHandler target {h with queue := h.queue ++ [message]})
    else none

/-- What the reading task sends next, and what becomes of it. -/
def nextSend (id : Uuid) : RecvTask → Option ((Uuid × WsServerMessage) × RecvTask)
  | .sending [] => none
  | .sending [send] => some (send, .idle)
  | .sending (send :: rest) => some (send, .sending rest)
  | .refused => some ((id, .error 429), .over)
  | _ => none

/-- `send_update_to_other_peers_with_lock`, up to the release of the lock. -/
def sendUpdate (σ : Server) (id : Uuid) (h : Handler) (info : ClientInfoWithoutId) (order : List Uuid) :
    Server :=
  match (σ.room h.ipGroup).lookup id with
  | none => σ.setHandler id {h with recvTask := .idle}
  | some _ =>
    let others := order.filter fun other => decide (other ≠ id)
    let fanOut := others.map fun other => (other, WsServerMessage.update (.of info id))
    {σ with rooms := σ.rooms.insert h.ipGroup ((σ.room h.ipGroup).insert id info)}.setHandler id {h with
      announced := info
      recvTask := if fanOut = [] then RecvTask.idle else RecvTask.sending fanOut}

/-- `send_to_peer_with_lock`, up to the release of the lock. -/
def sendToPeer (σ : Server) (id : Uuid) (h : Handler) (target : Uuid) (message : WsServerMessage) : Server :=
  σ.setHandler id {h with
    recvTask :=
      if ((σ.room h.ipGroup).lookup target).isSome then RecvTask.sending [(target, message)]
      else RecvTask.idle}

def process (σ : Server) (id : Uuid) (h : Handler) (order : List Uuid) : WsClientMessage → Server
  | .update info => σ.sendUpdate id h info order
  | .offer m => σ.sendToPeer id h m.target (.offer ⟨h.peer, m.sessionId, m.sdp⟩)
  | .answer m => σ.sendToPeer id h m.target (.answer ⟨h.peer, m.sessionId, m.sdp⟩)

/-- The removal of the peer; an empty room goes with it. -/
def remove (σ : Server) (id : Uuid) (h : Handler) (order : List Uuid) : Server :=
  match σ.rooms.lookup h.ipGroup with
  | none => σ.setHandler id {h with phase := .leaving}
  | some room =>
    if room.erase id = ∅ then
      {σ with rooms := σ.rooms.erase h.ipGroup}.setHandler id {h with phase := .leaving}
    else
      {σ with rooms := σ.rooms.insert h.ipGroup (room.erase id)}.setHandler id {h with
        phase := .leaving
        sends := order.map fun other => (other, .left id)}

/-! ### What the operations leave alone -/

@[simp] theorem handlers_setHandler (σ : Server) (id id' : Uuid) (h : Handler) :
    (σ.setHandler id h).handlers id' = if id' = id then some h else σ.handlers id' := by
  by_cases heq : id' = id
  · subst heq
    simp [setHandler]
  · simp [setHandler, heq]

theorem handlers_setHandler_self (σ : Server) (id : Uuid) (h : Handler) :
    (σ.setHandler id h).handlers id = some h := by
  rw [handlers_setHandler, if_pos rfl]

@[simp] theorem rooms_setHandler (σ : Server) (id : Uuid) (h : Handler) :
    (σ.setHandler id h).rooms = σ.rooms := rfl

@[simp] theorem requestCounts_setHandler (σ : Server) (id : Uuid) (h : Handler) :
    (σ.setHandler id h).requestCounts = σ.requestCounts := rfl

@[simp] theorem accepted_setHandler (σ : Server) (id : Uuid) (h : Handler) :
    (σ.setHandler id h).accepted = σ.accepted := rfl

@[simp] theorem next_setHandler (σ : Server) (id : Uuid) (h : Handler) :
    (σ.setHandler id h).next = σ.next := rfl

theorem handlers_register (σ : Server) (id : Uuid) (ipGroup : String) (info : ClientInfoWithoutId)
    (order : List Uuid) (id' : Uuid) : (σ.register id ipGroup info order).handlers id' =
      if id' = id then some (σ.newcomer id ipGroup info order) else σ.handlers id' := by
  rw [register]
  exact Function.update_apply ..

theorem room_insert (σ : Server) (ipGroup ipGroup' : String) (members : Room) :
    room {σ with rooms := σ.rooms.insert ipGroup members} ipGroup' =
      if ipGroup' = ipGroup then members else σ.room ipGroup' := by
  unfold Server.room
  rw [Collection.lookup_insert_eq]
  split <;> rfl

theorem room_setHandler (σ : Server) (id : Uuid) (h : Handler) (ipGroup : String) :
    (σ.setHandler id h).room ipGroup = σ.room ipGroup := rfl

theorem room_erase (σ : Server) (ipGroup ipGroup' : String) :
    room {σ with rooms := σ.rooms.erase ipGroup} ipGroup' =
      if ipGroup' = ipGroup then ∅ else σ.room ipGroup' := by
  unfold Server.room
  rw [Collection.lookup_erase_eq]
  split <;> rfl

/-- **A send** is lost when there is no receiver, and queued otherwise. -/
theorem push_cases {σ τ : Server} {target : Uuid} {message : WsServerMessage}
    (h : σ.push target message = some τ) :
    (τ = σ ∧ ∀ t, σ.handlers target = some t → t.sendTask = .dropped) ∨
      ∃ t, σ.handlers target = some t ∧ t.sendTask ≠ .dropped ∧ t.queue.length < channelCapacity ∧
        τ = σ.setHandler target {t with queue := t.queue ++ [message]} := by
  unfold push at h
  cases ht : σ.handlers target with
  | none =>
    rw [ht] at h
    exact .inl ⟨(Option.some.inj h).symm, fun _ h => nomatch h⟩
  | some t =>
    simp only [ht] at h
    split_ifs at h with hdropped hroom
    · refine .inl ⟨(Option.some.inj h).symm, fun t' ht' => ?_⟩
      exact Option.some.inj ht' ▸ hdropped
    · exact .inr ⟨t, rfl, hdropped, hroom, (Option.some.inj h).symm⟩

@[simp] theorem room_enterRoom (σ : Server) (ipGroup ipGroup' : String) :
    (σ.enterRoom ipGroup).room ipGroup' = σ.room ipGroup' := by
  rw [enterRoom, room_insert]
  split
  · next heq => rw [heq]
  · rfl

/-- **A connection** is refused by the size of its room, by the requests of its
group, or registered. -/
theorem connect_cases (limits : Limits) (σ : Server) (id : Uuid) (ipGroup : String)
    (info : ClientInfoWithoutId) (order : List Uuid) :
    (limits.maxConnections ≤ (σ.room ipGroup).keys.card ∧
        σ.connect limits id ipGroup info order = σ.enterRoom ipGroup) ∨
      ((σ.room ipGroup).keys.card < limits.maxConnections ∧ limits.maxRequests ≤ σ.requestCount ipGroup ∧
        σ.connect limits id ipGroup info order =
          (protectDdosRequestCount limits (σ.enterRoom ipGroup) ipGroup).2) ∨
      ((σ.room ipGroup).keys.card < limits.maxConnections ∧ σ.requestCount ipGroup < limits.maxRequests ∧
        σ.connect limits id ipGroup info order =
          (protectDdosRequestCount limits σ ipGroup).2.register id ipGroup info order) := by
  have hcount : (σ.enterRoom ipGroup).requestCount ipGroup = σ.requestCount ipGroup := rfl
  unfold connect
  simp only [room_enterRoom]
  by_cases hcard : (σ.room ipGroup).keys.card ≥ limits.maxConnections
  · exact .inl ⟨hcard, if_pos hcard⟩
  · rw [if_neg hcard]
    by_cases hfull : σ.requestCount ipGroup ≥ limits.maxRequests
    · refine .inr (.inl ⟨by omega, hfull, ?_⟩)
      simp only [protectDdosRequestCount, hcount, if_pos hfull]
    · refine .inr (.inr ⟨by omega, by omega, ?_⟩)
      simp only [protectDdosRequestCount, hcount, if_neg hfull]
      have hroom : room {(σ.enterRoom ipGroup) with
          requestCounts := (σ.enterRoom ipGroup).requestCounts.insert ipGroup (σ.requestCount ipGroup + 1)
          accepted := ipGroup :: (σ.enterRoom ipGroup).accepted} ipGroup = σ.room ipGroup :=
        room_enterRoom σ ipGroup ipGroup
      unfold register newcomer
      rw [hroom]
      simp only [enterRoom, Finmap.insert_insert]
      rfl

end Server

inductive ServerEvent where
  | connect (id : Uuid) (ipGroup : String) (info : ClientInfoWithoutId) (order : List Uuid)
  /-- The handler's next `Join` or `Left`. -/
  | send (id : Uuid)
  | hello (id : Uuid)
  /-- The two tasks start. -/
  | spawn (id : Uuid)
  /-- A message of the queue becomes a frame. -/
  | deliver (id : Uuid)
  /-- The reading task takes a message off the socket and counts it. -/
  | message (id : Uuid) (message : WsClientMessage)
  | process (id : Uuid) (order : List Uuid)
  /-- The reading task's next send. -/
  | recvSend (id : Uuid)
  /-- The socket ends. -/
  | clientGone (id : Uuid)
  /-- The socket takes no more frames. -/
  | sinkFailed (id : Uuid)
  /-- One task has ended and the handler aborts the other. -/
  | close (id : Uuid)
  /-- The aborted task is dropped. -/
  | sendAborted (id : Uuid)
  | recvAborted (id : Uuid)
  | remove (id : Uuid) (order : List Uuid)
  | clearRequestCounts

open Server in
/-- One step of the handler `h` that goes by `id`. -/
def handlerStep (limits : Limits) (σ : Server) (id : Uuid) (h : Handler) : ServerEvent → Option Server
  | .send _ =>
    match h.sends with
    | [] => none
    | (target, message) :: rest => (σ.setHandler id {h with sends := rest}).push target message
  | .hello _ =>
    match h.phase with
    | .connecting peers =>
      if h.sends = [] then (σ.setHandler id {h with phase := .greeted}).push id (.hello h.peer peers) else none
    | _ => none
  | .spawn _ =>
    if h.phase = .greeted then
      some (σ.setHandler id {h with phase := .serving, sendTask := .running, recvTask := .idle})
    else none
  | .deliver _ =>
    match h.sendTask, h.queue with
    | .running, message :: rest =>
      some (σ.setHandler id {h with queue := rest, received := h.received ++ [message]})
    | _, _ => none
  | .message _ message =>
    if h.recvTask = .idle then
      match protectDdosRequestCount limits σ h.ipGroup with
      | (false, σ) => some (σ.setHandler id {h with recvTask := .refused})
      | (true, σ) => some (σ.setHandler id {h with recvTask := .accepted message})
    else none
  | .process _ order =>
    match h.recvTask with
    | .accepted message =>
      if Iterates order (σ.room h.ipGroup) then some (σ.process id h order message) else none
    | _ => none
  | .recvSend _ =>
    match nextSend id h.recvTask with
    | none => none
    | some ((target, message), task) => (σ.setHandler id {h with recvTask := task}).push target message
  | .clientGone _ => if h.recvTask = .idle then some (σ.setHandler id {h with recvTask := .over}) else none
  | .sinkFailed _ => if h.sendTask = .running then some (σ.setHandler id {h with sendTask := .dropped}) else none
  | .close _ =>
    if h.phase = .serving ∧ (h.sendTask = .dropped ∨ h.recvTask = .over) then
      some (σ.setHandler id {h with phase := .closing})
    else none
  | .sendAborted _ =>
    if h.sendTask = .running ∧ (h.phase = .closing ∨ h.phase = .leaving) then
      some (σ.setHandler id {h with sendTask := .dropped})
    else none
  | .recvAborted _ =>
    if h.phase = .closing ∨ h.phase = .leaving then some (σ.setHandler id {h with recvTask := .over}) else none
  | .remove _ order =>
    if h.phase = .closing ∧ Iterates order ((σ.room h.ipGroup).erase id) then some (σ.remove id h order)
    else none
  | .connect .. => none
  | .clearRequestCounts => none

/-- The handler an event belongs to. -/
def ServerEvent.handler : ServerEvent → Option Uuid
  | .connect .. => none
  | .clearRequestCounts => none
  | .send id | .hello id | .spawn id | .deliver id | .message id _ | .process id _ | .recvSend id
  | .clientGone id | .sinkFailed id | .close id | .sendAborted id | .recvAborted id | .remove id _ => some id

/-- Connections, messages and disconnects in any order, from an empty server. -/
def signaling (limits : Limits) : Transition.System Server ServerEvent where
  init := {}
  step σ
    | .connect id ipGroup info order =>
      if σ.handlers id = none ∧ Server.Iterates order (σ.room ipGroup) then
        some (σ.connect limits id ipGroup info order)
      else none
    | .clearRequestCounts => some {σ with requestCounts := ∅, accepted := []}
    | e => e.handler.bind fun id => (σ.handlers id).bind fun h => handlerStep limits σ id h e

/-- A step other than a connection or a clear belongs to a handler that is there. -/
theorem signaling_cases {limits : Limits} {σ τ : Server} {e : ServerEvent}
    (hst : (signaling limits).step σ e = some τ) :
    (∃ id ipGroup info order, e = .connect id ipGroup info order ∧ σ.handlers id = none ∧
        Server.Iterates order (σ.room ipGroup) ∧ τ = σ.connect limits id ipGroup info order) ∨
      (e = .clearRequestCounts ∧ τ = {σ with requestCounts := ∅, accepted := []}) ∨
      ∃ id h, e.handler = some id ∧ σ.handlers id = some h ∧ handlerStep limits σ id h e = some τ := by
  have hhandler : (e.handler.bind fun id => (σ.handlers id).bind fun h => handlerStep limits σ id h e) = some τ →
      ∃ id h, e.handler = some id ∧ σ.handlers id = some h ∧ handlerStep limits σ id h e = some τ := by
    intro h
    obtain ⟨id, hid, h⟩ := Option.bind_eq_some_iff.mp h
    obtain ⟨hd, hh, h⟩ := Option.bind_eq_some_iff.mp h
    exact ⟨id, hd, hid, hh, h⟩
  cases e with
  | connect id ipGroup info order =>
    simp only [signaling, Option.ite_none_right_eq_some, Option.some.injEq] at hst
    exact .inl ⟨id, ipGroup, info, order, rfl, hst.1.1, hst.1.2, hst.2.symm⟩
  | clearRequestCounts => exact .inr (.inl ⟨rfl, (Option.some.inj hst).symm⟩)
  | _ => exact .inr (.inr (hhandler hst))

/-- What a client may say of itself. -/
def phone : ClientInfoWithoutId := ⟨"Nice Orange", "2.3", some "Pixel 8", some .mobile, "token"⟩

end MagicShare.Ws
