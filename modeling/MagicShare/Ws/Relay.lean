import MagicShare.Ws.Tracking

/-! The offers and answers the signaling server passes on.

An offer or answer is relayed when the reading task of its sender finds the target in the
sender's room, and settled when that task puts it on the target's queue or gives it up.
Along every run nothing is relayed twice or lost on the way (`Server.Balanced`). What the
relayed message says of its sender is what the client said when it connected, so it is what
the client announced last exactly as long as the two agree
(`relays_faithfully_iff`). -/
namespace MagicShare.Ws
open Documents

/-! ### Relays -/

/-- The peer an offer or answer is said to come from. -/
def WsServerMessage.peer? : WsServerMessage → Option ClientInfo
  | .offer m | .answer m => some m.peer
  | _ => none

/-- The target of an offer or answer, and what it is passed on as if it comes from `peer`. -/
def WsClientMessage.sdp (peer : ClientInfo) : WsClientMessage → Option (Uuid × WsServerMessage)
  | .update _ => none
  | .offer m => some (m.target, .offer ⟨peer, m.sessionId, m.sdp⟩)
  | .answer m => some (m.target, .answer ⟨peer, m.sessionId, m.sdp⟩)

/-- An offer or answer on its way. -/
structure Relay where
  sender : Uuid
  target : Uuid
  message : WsServerMessage
  deriving DecidableEq

/-- The send of a reading task, if it is of an offer or answer. -/
def relay (sender : Uuid) (send : Uuid × WsServerMessage) : Option Relay :=
  if send.2.peer?.isSome then some ⟨sender, send.1, send.2⟩ else none

/-- What a reading task still has to send of offers and answers. -/
def RecvTask.relays (sender : Uuid) : RecvTask → List Relay
  | .sending sends => sends.filterMap (relay sender)
  | _ => []

/-- Everything that was ever put on the queue. -/
def Handler.history (h : Handler) : List WsServerMessage := h.received ++ h.queue

namespace Server

/-- The client is registered in the group, and not removed. -/
def Connected (σ : Server) (ipGroup : String) (id : Uuid) : Prop :=
  ∃ h, σ.handlers id = some h ∧ h.Live ∧ h.ipGroup = ipGroup

/-- The receiver of the client's queue is there. -/
def receives (σ : Server) (id : Uuid) : Bool := (σ.handlers id).any fun h => h.sendTask ≠ .dropped

def pending (σ : Server) (id : Uuid) : List Relay := (σ.handlers id).elim [] fun h => h.recvTask.relays id

/-- The offers and answers that were ever put on the client's queue. -/
def sdpHistory (σ : Server) (id : Uuid) : List WsServerMessage :=
  (σ.handlers id).elim [] fun h => h.history.filter fun m => m.peer?.isSome

/-- What a step relays: the message of a reading task whose target is in the room. -/
def relayedAt (σ : Server) : ServerEvent → List Relay
  | .process id _ =>
    (σ.handlers id).elim [] fun h =>
      match h.recvTask with
      | .accepted message =>
        ((message.sdp h.peer).filter fun s => ((σ.room h.ipGroup).lookup s.1).isSome).toList.map fun s => ⟨id, s.1, s.2⟩
      | _ => []
  | _ => []

/-- What a step settles, and whether it gets on the queue of its target. -/
def settledAt (σ : Server) : ServerEvent → List (Relay × Bool)
  | .recvSend id =>
    (σ.handlers id).elim [] fun h =>
      match h.recvTask with
      | .sending (s :: _) => (relay id s).toList.map fun r => (r, σ.receives r.target)
      | _ => []
  | .recvAborted id => (σ.pending id).map fun r => (r, false)
  | _ => []

end Server

/-- The message a relay puts on the queue of `target`. -/
def Relay.queued (target : Uuid) : Relay × Bool → Option WsServerMessage
  | (r, onQueue) => if r.target = target ∧ onQueue = true then some r.message else none

namespace Server
variable {limits : Limits} {σ σ' τ : Server} {e : ServerEvent}

/-! ### What a step does to the relays -/

/-- **What a step relays it takes on, and what it settles it is rid of**; the queues grow
by what is settled on them. -/
structure Balanced (σ : Server) (e : ServerEvent) (τ : Server) : Prop where
  tasks : ∀ c, σ.pending c ++ (σ.relayedAt e).filter (fun r => r.sender = c) =
    ((σ.settledAt e).map Prod.fst).filter (fun r => r.sender = c) ++ τ.pending c
  queues : ∀ target, τ.sdpHistory target = σ.sdpHistory target ++ (σ.settledAt e).filterMap (Relay.queued target)

theorem pending_of {id : Uuid} {h : Handler} (hh : σ.handlers id = some h) : σ.pending id = h.recvTask.relays id := by
  rw [pending, hh]
  rfl

theorem sdpHistory_of {id : Uuid} {h : Handler} (hh : σ.handlers id = some h) :
    σ.sdpHistory id = h.history.filter fun m => m.peer?.isSome := by
  rw [sdpHistory, hh]
  rfl

theorem relayedAt_sender {r : Relay} (h : r ∈ σ.relayedAt e) : e.handler = some r.sender := by
  cases e with
  | process id order =>
    simp only [relayedAt] at h
    cases hh : σ.handlers id with
    | none => simp [hh] at h
    | some hd =>
      rw [hh, Option.elim_some] at h
      split at h
      · obtain ⟨s, -, rfl⟩ := List.mem_map.mp h
        rfl
      · cases h
  | _ => cases h

theorem settledAt_sender {r : Relay × Bool} (h : r ∈ σ.settledAt e) : e.handler = some r.1.sender := by
  have hrelay : ∀ {id : Uuid} {s : Uuid × WsServerMessage} {r : Relay}, relay id s = some r → r.sender = id := by
    intro id s r hr
    unfold relay at hr
    split_ifs at hr
    exact (Option.some.inj hr) ▸ rfl
  cases e with
  | recvSend id =>
    simp only [settledAt] at h
    cases hh : σ.handlers id with
    | none => simp [hh] at h
    | some hd =>
      rw [hh, Option.elim_some] at h
      split at h
      · obtain ⟨r', hr', rfl⟩ := List.mem_map.mp h
        exact congrArg some (hrelay (Option.mem_toList.mp hr')).symm
      · cases h
  | recvAborted id =>
    obtain ⟨r', hr', rfl⟩ := List.mem_map.mp h
    rw [pending] at hr'
    cases hh : σ.handlers id with
    | none => simp [hh] at hr'
    | some hd =>
      rw [hh, Option.elim_some] at hr'
      unfold RecvTask.relays at hr'
      split at hr'
      · obtain ⟨s, -, hs⟩ := List.mem_filterMap.mp hr'
        exact congrArg some (hrelay hs).symm
      · cases hr'
  | _ => cases h

/-- It is enough to look at the reading task of the step's own handler. -/
theorem Balanced.of_handler {id : Uuid} (he : e.handler = some id) (hothers : ∀ c, c ≠ id → τ.pending c = σ.pending c)
    (hown : σ.pending id ++ σ.relayedAt e = (σ.settledAt e).map Prod.fst ++ τ.pending id)
    (hqueues : ∀ target, τ.sdpHistory target = σ.sdpHistory target ++ (σ.settledAt e).filterMap (Relay.queued target)) :
    Balanced σ e τ := by
  refine ⟨fun c => ?_, hqueues⟩
  have hrelayed : ∀ r ∈ σ.relayedAt e, r.sender = id := fun r hr =>
    (Option.some.inj (he.symm.trans (relayedAt_sender hr))).symm
  have hsettled : ∀ r ∈ (σ.settledAt e).map Prod.fst, r.sender = id := by
    intro r hr
    obtain ⟨r', hr', rfl⟩ := List.mem_map.mp hr
    exact (Option.some.inj (he.symm.trans (settledAt_sender hr'))).symm
  by_cases hc : c = id
  · subst hc
    rw [List.filter_eq_self.mpr fun r hr => by simp [hrelayed r hr], List.filter_eq_self.mpr fun r hr => by simp [hsettled r hr]]
    exact hown
  · rw [hothers c hc, List.filter_eq_nil_iff.mpr fun r hr => by simp [hrelayed r hr, Ne.symm hc],
      List.filter_eq_nil_iff.mpr fun r hr => by simp [hsettled r hr, Ne.symm hc], List.append_nil, List.nil_append]

/-- A send changes the queue of its target, and no task. -/
theorem pending_push {target : Uuid} {message : WsServerMessage} (h : σ.push target message = some τ) (c : Uuid) :
    τ.pending c = σ.pending c := by
  rcases push_cases h with ⟨rfl, -⟩ | ⟨t, ht, -, -, rfl⟩
  · rfl
  · rw [pending, handlers_setHandler]
    split
    · next heq =>
      rw [heq, pending_of ht]
      rfl
    · rfl

theorem sdpHistory_push {target : Uuid} {message : WsServerMessage} (h : σ.push target message = some τ) (c : Uuid) :
    τ.sdpHistory c = σ.sdpHistory c ++
      if c = target ∧ σ.receives target = true ∧ message.peer?.isSome = true then [message] else [] := by
  rcases push_cases h with ⟨rfl, hdropped⟩ | ⟨t, ht, halive, -, rfl⟩
  · have hnot : τ.receives target = false := by
      rw [receives, Option.any_eq_false]
      intro t ht
      simp [hdropped t ht]
    simp [hnot]
  · have hreceives : σ.receives target = true := by simp [receives, ht, halive]
    rw [sdpHistory, handlers_setHandler]
    split
    · next heq =>
      subst heq
      rw [sdpHistory_of ht]
      simp only [Option.elim_some, Handler.history, hreceives, true_and, ← List.append_assoc, List.filter_append]
      congr 1
      simp [List.filter_singleton]
    · next hne => simp [sdpHistory, hne]

/-- A move that settles nothing: the task keeps its relays, and the queue what it had. -/
theorem Balanced.quiet {id : Uuid} {h h' : Handler} {s : Option (Uuid × WsServerMessage)} (hh : σ.handlers id = some h)
    (hσ : σ'.handlers = σ.handlers) (hemit : (σ'.setHandler id h').emit s = some τ) (he : e.handler = some id)
    (hrelayed : σ.relayedAt e = []) (hsettled : σ.settledAt e = []) (htask : h'.recvTask.relays id = h.recvTask.relays id)
    (hhistory : h'.history = h.history) (hsdp : ∀ m ∈ s, m.2.peer?.isSome = false) : Balanced σ e τ := by
  have hset : ∀ c, (σ'.setHandler id h').pending c = σ.pending c ∧ (σ'.setHandler id h').sdpHistory c = σ.sdpHistory c := by
    intro c
    rw [pending, sdpHistory, handlers_setHandler, hσ]
    split
    · next heq =>
      rw [heq, pending_of hh, sdpHistory_of hh]
      exact ⟨htask, by rw [← hhistory]; rfl⟩
    · exact ⟨rfl, rfl⟩
  have hkept : ∀ c, τ.pending c = σ.pending c ∧ τ.sdpHistory c = σ.sdpHistory c := by
    intro c
    cases s with
    | none => exact Option.some.inj hemit ▸ hset c
    | some m =>
      have hm := hsdp m rfl
      rw [pending_push hemit, sdpHistory_push hemit, if_neg (by simp [hm]), List.append_nil]
      exact hset c
  refine .of_handler he (fun c _ => (hkept c).1) ?_ fun target => ?_
  · rw [hrelayed, hsettled, (hkept id).1, List.append_nil]
    rfl
  · rw [hsettled, (hkept target).2]
    exact (List.append_nil _).symm

theorem Balanced.recvSend {id : Uuid} {h : Handler} {s : Uuid × WsServerMessage} {task : RecvTask} (hh : σ.handlers id = some h)
    (hσ : σ'.handlers = σ.handlers) (hnext : nextSend id h.recvTask = some (s, task))
    (hemit : (σ'.setHandler id {h with recvTask := task}).emit (some s) = some τ) : Balanced σ (.recvSend id) τ := by
  have hreceives : (σ'.setHandler id {h with recvTask := task}).receives s.1 = σ.receives s.1 := by
    rw [receives, receives, handlers_setHandler, hσ]
    split
    · next heq =>
      rw [heq, hh]
      rfl
    · rfl
  have hpending : ∀ c, τ.pending c = if c = id then task.relays id else σ.pending c := by
    intro c
    rw [pending_push hemit, pending, handlers_setHandler, hσ]
    split
    · next heq => rw [heq]; rfl
    · rfl
  have hhistory : ∀ c, τ.sdpHistory c = σ.sdpHistory c ++
      if c = s.1 ∧ σ.receives s.1 = true ∧ s.2.peer?.isSome = true then [s.2] else [] := by
    intro c
    rw [sdpHistory_push hemit, hreceives]
    congr 1
    rw [sdpHistory, handlers_setHandler, hσ]
    split
    · next heq =>
      rw [heq, sdpHistory_of hh]
      rfl
    · rfl
  rcases nextSend_cases hnext with ⟨rest, htask, rfl⟩ | ⟨htask, rfl, rfl⟩
  · have hsettled : σ.settledAt (.recvSend id) = (relay id s).toList.map fun r => (r, σ.receives r.target) := by
      simp [settledAt, hh, htask]
    have hrest : (if rest = [] then RecvTask.idle else RecvTask.sending rest).relays id = rest.filterMap (relay id) := by
      split
      · next hnil => rw [hnil]; rfl
      · rfl
    refine .of_handler rfl (fun c hc => by rw [hpending, if_neg hc]) ?_ fun target => ?_
    · rw [hpending, if_pos rfl, hrest, hsettled, pending_of hh, htask]
      cases hrelay : relay id s <;> simp [RecvTask.relays, relayedAt, hrelay]
    · rw [hhistory, hsettled]
      congr 1
      by_cases hsdp : s.2.peer?.isSome = true
      · simp only [relay, hsdp, and_true, if_true, Option.toList_some, List.map_cons, List.map_nil, List.filterMap_cons,
          List.filterMap_nil, Relay.queued, eq_comm (a := target)]
        split_ifs <;> rfl
      · simp [relay, hsdp]
  · have hsettled : σ.settledAt (.recvSend id) = [] := by simp [settledAt, hh, htask]
    refine .of_handler rfl (fun c hc => by rw [hpending, if_neg hc]) ?_ fun target => ?_
    · rw [hpending, if_pos rfl, hsettled, pending_of hh, htask]
      rfl
    · rw [hhistory, hsettled, if_neg (by simp [WsServerMessage.peer?])]
      rfl

/-- What the task still had to send is given up. -/
theorem Balanced.recvAborted {id : Uuid} {h : Handler} (hh : σ.handlers id = some h) (hσ : σ'.handlers = σ.handlers)
    (hτ : τ = σ'.setHandler id {h with recvTask := .over}) : Balanced σ (.recvAborted id) τ := by
  subst hτ
  refine .of_handler rfl (fun c hc => ?_) ?_ fun target => ?_
  · rw [pending, handlers_setHandler, if_neg hc, hσ]
    rfl
  · rw [pending_of (handlers_setHandler_self σ' id _)]
    simp [settledAt, relayedAt, RecvTask.relays, Function.comp_def]
  · have hnone : (σ.settledAt (.recvAborted id)).filterMap (Relay.queued target) = [] := by
      rw [settledAt, List.filterMap_map, List.filterMap_eq_nil_iff]
      intro r _
      simp [Relay.queued]
    rw [hnone, List.append_nil, sdpHistory, handlers_setHandler, hσ]
    split
    · next heq =>
      rw [heq, sdpHistory_of hh]
      rfl
    · rfl

theorem Balanced.process {id : Uuid} {h : Handler} (hh : σ.handlers id = some h) {order : List Uuid} {message : WsClientMessage}
    (htask : h.recvTask = .accepted message) : Balanced σ (.process id order) (σ.process id h order message) := by
  have hnone : σ.pending id = [] := by rw [pending_of hh, htask]; rfl
  -- only the task of the handler changes
  have hset : ∀ {υ : Server} {info : ClientInfoWithoutId} {task : RecvTask}, υ.handlers = σ.handlers →
      σ.relayedAt (.process id order) = task.relays id →
      Balanced σ (.process id order) (υ.setHandler id {h with announced := info, recvTask := task}) := by
    intro υ info task hυ hrelays
    refine .of_handler rfl (fun c hc => ?_) ?_ fun target => ?_
    · rw [pending, handlers_setHandler, if_neg hc, hυ]
      rfl
    · rw [hnone, pending_of (handlers_setHandler_self υ id _), hrelays]
      rfl
    · rw [sdpHistory, handlers_setHandler, hυ]
      split
      · next heq =>
        rw [heq, sdpHistory_of hh]
        exact (List.append_nil _).symm
      · exact (List.append_nil _).symm
  have hpass : ∀ (target : Uuid) (m : WsServerMessage), message.sdp h.peer = some (target, m) → m.peer?.isSome = true →
      Balanced σ (.process id order) (σ.sendToPeer id h target m) := by
    intro target m hsdp hpeer
    refine hset rfl ?_
    simp only [relayedAt, hh, htask, hsdp, Option.elim_some]
    split
    · next hmember => simp [RecvTask.relays, relay, hpeer, hmember, Option.filter]
    · next hmember => simp [RecvTask.relays, hmember, Option.filter]
  cases message with
  | update info =>
    have hrelayed : σ.relayedAt (.process id order) = [] := by
      simp [relayedAt, hh, htask, WsClientMessage.sdp]
    rw [Server.process, Server.sendUpdate]
    split
    · exact hset rfl hrelayed
    · refine hset rfl (hrelayed.trans ?_)
      split
      · rfl
      · symm
        rw [RecvTask.relays, List.filterMap_eq_nil_iff]
        intro s hs
        obtain ⟨other, -, rfl⟩ := List.mem_map.mp hs
        rfl
  | offer m => exact hpass m.target _ rfl rfl
  | answer m => exact hpass m.target _ rfl rfl

/-- A connection relays nothing: the newcomer's reading task has not started. -/
theorem Balanced.connect {id : Uuid} {ipGroup : String} {info : ClientInfoWithoutId} {order : List Uuid}
    (hid : σ.handlers id = none) : Balanced σ (.connect id ipGroup info order) (σ.connect limits id ipGroup info order) := by
  have hset : ∀ c, (σ.connect limits id ipGroup info order).pending c = σ.pending c ∧
      (σ.connect limits id ipGroup info order).sdpHistory c = σ.sdpHistory c := by
    intro c
    rw [pending, sdpHistory]
    rcases handlers_connect limits σ id ipGroup info order with heq | heq
    · rw [heq]
      exact ⟨rfl, rfl⟩
    · rw [heq]
      split
      · next hc =>
        rw [hc, pending, sdpHistory, hid]
        exact ⟨rfl, rfl⟩
      · exact ⟨rfl, rfl⟩
  refine ⟨fun c => ?_, fun target => ?_⟩
  · rw [(hset c).1]
    exact List.append_nil _
  · rw [(hset target).2]
    exact (List.append_nil _).symm

/-- What a handler says of itself when it connects goes by its id. -/
def Named (σ : Server) : Prop := ∀ id h, σ.handlers id = some h → h.peer.id = id

/-- Whoever was there keeps what it connected with. -/
theorem peer_step (hst : (signaling limits).step σ e = some τ) {id : Uuid} {h' : Handler} (hh' : τ.handlers id = some h') :
    (∃ h, σ.handlers id = some h ∧ h'.peer = h.peer) ∨ h'.peer.id = id := by
  have hkept : ∀ {υ : Server} {id' : Uuid} {h k : Handler}, υ.handlers = σ.handlers → σ.handlers id' = some h → k.peer = h.peer →
      ∀ {h'}, (υ.setHandler id' k).handlers id = some h' → ∃ h, σ.handlers id = some h ∧ h'.peer = h.peer := by
    intro υ id' h k hυ hh hpeer h' hh'
    rw [handlers_setHandler, hυ] at hh'
    split at hh'
    · next heq =>
      obtain rfl := Option.some.inj hh'
      exact ⟨h, heq ▸ hh, hpeer⟩
    · exact ⟨h', hh', rfl⟩
  rcases signaling_cases hst with
    ⟨id', ipGroup, info, order, rfl, hnone, -, rfl⟩ | ⟨rfl, rfl⟩ | ⟨id', h, he, hh, hst⟩
  · rcases handlers_connect limits σ id' ipGroup info order with heq | heq
    · exact .inl ⟨h', heq ▸ hh', rfl⟩
    · rw [heq] at hh'
      split at hh'
      · next hid =>
        obtain rfl := Option.some.inj hh'
        exact .inr hid.symm
      · exact .inl ⟨h', hh', rfl⟩
  · exact .inl ⟨h', hh', rfl⟩
  · rcases handlerStep_cases he hst with
      ⟨order, message, rfl, -, -, rfl⟩ | ⟨order, rfl, -, -, rfl⟩ | ⟨σ', k, s, hcounts, hm, hemit⟩
    · obtain ⟨info, task, hhandlers⟩ := handlers_process σ id' h order message
      rw [hhandlers] at hh'
      split at hh'
      · next heq =>
        obtain rfl := Option.some.inj hh'
        exact .inl ⟨h, heq ▸ hh, rfl⟩
      · exact .inl ⟨h', hh', rfl⟩
    · obtain ⟨sends, hhandlers, -⟩ := handlers_remove σ id' h order
      rw [hhandlers] at hh'
      split at hh'
      · next heq =>
        obtain rfl := Option.some.inj hh'
        exact .inl ⟨h, heq ▸ hh, rfl⟩
      · exact .inl ⟨h', hh', rfl⟩
    · have hpeer : k.peer = h.peer := by cases hm <;> rfl
      refine .inl ?_
      cases s with
      | none => exact hkept hcounts.sameHandlers.handlers hh hpeer (Option.some.inj hemit ▸ hh')
      | some m =>
        rcases push_cases hemit with ⟨rfl, -⟩ | ⟨t, ht, -, -, rfl⟩
        · exact hkept hcounts.sameHandlers.handlers hh hpeer hh'
        · rw [handlers_setHandler] at hh'
          split at hh'
          · next heq =>
            obtain rfl := Option.some.inj hh'
            obtain ⟨before, hbefore, hsame⟩ := hkept hcounts.sameHandlers.handlers hh hpeer (heq ▸ ht)
            exact ⟨before, hbefore, hsame⟩
          · exact hkept hcounts.sameHandlers.handlers hh hpeer hh'

theorem Named.step (h : σ.Named) (hst : (signaling limits).step σ e = some τ) : τ.Named := by
  intro id h' hh'
  rcases peer_step hst hh' with ⟨hd, hh, hpeer⟩ | hid
  · rw [hpeer]
    exact h id hd hh
  · exact hid

/-- A handler that sends nothing sends no offer or answer. -/
theorem emits_none (m : Uuid × WsServerMessage) (hm : m ∈ (none : Option (Uuid × WsServerMessage))) :
    m.2.peer?.isSome = false := by cases hm

/-- **One step.** -/
theorem Balanced.step (hw : Wired σ) (hst : (signaling limits).step σ e = some τ) : Balanced σ e τ := by
  rcases signaling_cases hst with
    ⟨id, ipGroup, info, order, rfl, hnone, -, rfl⟩ | ⟨rfl, rfl⟩ | ⟨id, h, he, hh, hst⟩
  · exact .connect hnone
  · exact ⟨fun c => List.append_nil _, fun target => (List.append_nil _).symm⟩
  have hs := hw.sound id h hh
  rcases handlerStep_cases he hst with
    ⟨order, message, rfl, htask, -, rfl⟩ | ⟨order, rfl, -, -, rfl⟩ | ⟨σ', k, s, hcounts, hm, hemit⟩
  · exact .process hh htask
  · obtain ⟨sends, hhandlers, -⟩ := handlers_remove σ id h order
    have hset : ∀ c, (σ.remove id h order).pending c = σ.pending c ∧ (σ.remove id h order).sdpHistory c = σ.sdpHistory c := by
      intro c
      rw [pending, sdpHistory, hhandlers]
      split
      · next heq =>
        rw [heq, pending_of hh, sdpHistory_of hh]
        exact ⟨rfl, rfl⟩
      · exact ⟨rfl, rfl⟩
    refine .of_handler rfl (fun c _ => (hset c).1) ?_ fun target => ?_
    · rw [(hset id).1]
      exact List.append_nil _
    · rw [(hset target).2]
      exact (List.append_nil _).symm
  have hσ := hcounts.sameHandlers.handlers
  cases hm with
  | @send s rest hsends =>
    refine .quiet hh hσ hemit rfl rfl rfl rfl rfl fun m hm => ?_
    obtain rfl := Option.some.inj hm
    have hmem : s ∈ h.sends := by simp [hsends]
    rcases hs.fanOut (List.ne_nil_of_mem hmem) with hc | hl
    · rw [hs.joins hc s hmem]
      rfl
    · rw [hs.lefts hl s hmem]
      rfl
  | hello =>
    refine .quiet hh hσ hemit rfl rfl rfl rfl rfl fun m hm => ?_
    obtain rfl := Option.some.inj hm
    rfl
  | recvSend hnext => exact .recvSend hh hσ hnext hemit
  | spawn hphase => exact .quiet hh hσ hemit rfl rfl rfl (by rw [hs.quiet (.inr hphase)]; rfl) rfl emits_none
  | @deliver message rest htask hqueue =>
    refine .quiet hh hσ hemit rfl rfl rfl rfl ?_ emits_none
    simp [Handler.history, hqueue]
  | message htask hnext =>
    refine .quiet hh hσ hemit rfl rfl rfl ?_ rfl emits_none
    rw [htask]
    rcases hnext with rfl | rfl <;> rfl
  | clientGone htask => exact .quiet hh hσ hemit rfl rfl rfl (by rw [htask]; rfl) rfl emits_none
  | sinkFailed | close | sendAborted => exact .quiet hh hσ hemit rfl rfl rfl rfl rfl emits_none
  | recvAborted => exact .recvAborted hh hσ (Option.some.inj hemit).symm

/-! ### The property and its condition -/

/-- A relay is what its sender asks for: under the sender's id, with the alias and the token
it announced last. -/
structure Attributed (id : Uuid) (h : Handler) (message : WsClientMessage) (r : Relay) : Prop where
  sender : r.sender = id
  peer : ∃ peer : ClientInfo, message.sdp peer = some (r.target, r.message) ∧ peer.id = id ∧
    peer.alias = h.announced.alias ∧ peer.token = h.announced.token

/-- When the message of a client is processed it is relayed to its target, once, if that
is connected in the client's group, and to nobody if it is not. -/
structure RelaysAt (σ : Server) (e : ServerEvent) (_ : Server) : Prop where
  connected : ∀ id order h message target, e = .process id order → σ.handlers id = some h → h.recvTask = .accepted message →
    (message.sdp h.peer).map Prod.fst = some target → σ.Connected h.ipGroup target →
      ∃ r, σ.relayedAt e = [r] ∧ r.target = target ∧ Attributed id h message r
  absent : ∀ id order h message target, e = .process id order → σ.handlers id = some h → h.recvTask = .accepted message →
    (message.sdp h.peer).map Prod.fst = some target → ¬ σ.Connected h.ipGroup target → σ.relayedAt e = []

/-- Whoever relays an offer or answer has announced no other alias or token since it
connected. -/
def RelaysAsAnnounced (σ : Server) (e : ServerEvent) : Prop :=
  ∀ id order h message target, e = .process id order → σ.handlers id = some h → h.recvTask = .accepted message →
    (message.sdp h.peer).map Prod.fst = some target → σ.Connected h.ipGroup target →
      h.announced.alias = h.peer.alias ∧ h.announced.token = h.peer.token

/-- In every run: what is relayed is attributed and confined, it is settled once, in order, or
still pending, and what has got on a client's queue is what was settled on it. -/
structure RelaysFaithfully (limits : Limits) (events : List ServerEvent) : Prop where
  steps : (signaling limits).Steps RelaysAt {} events
  once : ∀ σ, (signaling limits).run {} events = some σ → ∀ c,
    ((signaling limits).log relayedAt {} events).filter (fun r => r.sender = c) =
      (((signaling limits).log settledAt {} events).map Prod.fst).filter (fun r => r.sender = c) ++ σ.pending c
  queued : ∀ σ, (signaling limits).run {} events = some σ → ∀ target,
    σ.sdpHistory target = ((signaling limits).log settledAt {} events).filterMap (Relay.queued target)

theorem Tracked.connected_iff (h : σ.Tracked) {ipGroup : String} {id : Uuid} :
    σ.Connected ipGroup id ↔ ((σ.room ipGroup).lookup id).isSome = true := by
  constructor
  · rintro ⟨k, hk, hlive, hgroup⟩
    rw [h, announcedIn_of hk, if_pos ⟨hlive, hgroup⟩]
    rfl
  · intro hsome
    obtain ⟨info, hinfo⟩ := Option.isSome_iff_exists.mp hsome
    obtain ⟨k, hk, hlive, hgroup, -⟩ := h.member hinfo
    exact ⟨k, hk, hlive, hgroup⟩

/-- What a processed message is relayed as. -/
theorem relayedAt_of {id : Uuid} {order : List Uuid} {h : Handler} {message : WsClientMessage} {target : Uuid}
    {m : WsServerMessage} (hh : σ.handlers id = some h) (htask : h.recvTask = .accepted message)
    (hsdp : message.sdp h.peer = some (target, m)) : σ.relayedAt (.process id order) =
      if ((σ.room h.ipGroup).lookup target).isSome then [⟨id, target, m⟩] else [] := by
  simp only [relayedAt, hh, htask, hsdp, Option.elim_some, Option.filter]
  split <;> rfl

/-- The peer of a message can be read off it. -/
theorem sdp_injective {message : WsClientMessage} {peer peer' : ClientInfo} {s : Uuid × WsServerMessage}
    (h : message.sdp peer = some s) (h' : message.sdp peer' = some s) : peer = peer' := by
  cases message with
  | update => cases h
  | offer m =>
    obtain rfl := Option.some.inj h
    simpa [WsClientMessage.sdp] using h'.symm
  | answer m =>
    obtain rfl := Option.some.inj h
    simpa [WsClientMessage.sdp] using h'.symm

/-- **One step** attributes what it relays exactly when its sender has kept to what it
connected with. -/
theorem relaysAt_iff (hw : Wired σ) (hn : σ.Named) : RelaysAt σ e τ ↔ σ.RelaysAsAnnounced e := by
  constructor
  · rintro ⟨hconnected, -⟩ id order h message target rfl hh htask htarget hto
    obtain ⟨r, hr, -, -, peer, hpeer, -, halias, htoken⟩ := hconnected id order h message target rfl hh htask htarget hto
    obtain ⟨⟨_, m⟩, hsdp, rfl⟩ := Option.map_eq_some_iff.mp htarget
    rw [relayedAt_of hh htask hsdp, if_pos (hw.tracked.connected_iff.mp hto)] at hr
    obtain rfl := (List.cons.inj hr).1
    obtain rfl := sdp_injective hsdp hpeer
    exact ⟨halias.symm, htoken.symm⟩
  · intro hc
    refine ⟨fun id order h message target he hh htask htarget hto => ?_, fun id order h message target he hh htask htarget hno => ?_⟩
    · subst he
      obtain ⟨halias, htoken⟩ := hc id order h message target rfl hh htask htarget hto
      obtain ⟨⟨_, m⟩, hsdp, rfl⟩ := Option.map_eq_some_iff.mp htarget
      refine ⟨_, (relayedAt_of hh htask hsdp).trans (if_pos (hw.tracked.connected_iff.mp hto)), rfl, rfl, ?_⟩
      exact ⟨h.peer, hsdp, hn id h hh, halias.symm, htoken.symm⟩
    · subst he
      obtain ⟨⟨_, m⟩, hsdp, rfl⟩ := Option.map_eq_some_iff.mp htarget
      exact (relayedAt_of hh htask hsdp).trans (if_neg fun hmember => hno (hw.tracked.connected_iff.mpr hmember))

end Server

/-- **Relayed offers and answers are attributed and confined** exactly in the runs in which
nobody relays after announcing another alias or token than it connected with. -/
theorem relays_faithfully_iff (limits : Limits) (events : List ServerEvent) :
    Server.RelaysFaithfully limits events ↔ (signaling limits).Meets Server.RelaysAsAnnounced {} events := by
  have hinit : Server.Wired {} ∧ Server.Named {} := ⟨.init, fun _ _ h => nomatch h⟩
  have hstep : ∀ σ e τ, Server.Wired σ ∧ σ.Named → (signaling limits).step σ e = some τ → Server.Wired τ ∧ τ.Named :=
    fun σ e τ h hst => ⟨h.1.step hst, h.2.step hst⟩
  have hiff : (signaling limits).Steps Server.RelaysAt {} events ↔ (signaling limits).Meets Server.RelaysAsAnnounced {} events :=
    Transition.System.steps_iff_meets (P := Server.RelaysAt) hstep (fun _ _ _ h _ => Server.relaysAt_iff h.1 h.2) hinit
  refine ⟨fun h => hiff.mp h.steps, fun h => ⟨hiff.mpr h, fun σ hrun c => ?_, fun σ hrun target => ?_⟩⟩
  · have hbalance := Transition.System.log_balance
      (fun σ e τ hI hst => ⟨hstep σ e τ hI hst, (Server.Balanced.step hI.1 hst).tasks c⟩) hinit hrun
    rw [Transition.System.log_hom (List.filter fun r : Relay => r.sender = c) rfl fun _ _ => List.filter_append ..,
      Transition.System.log_hom (fun settled => (settled.map Prod.fst).filter fun r : Relay => r.sender = c) rfl
        fun _ _ => by rw [List.map_append, List.filter_append]]
    exact hbalance
  · have hgrows := Transition.System.log_grows
      (fun σ e τ hI hst => ⟨hstep σ e τ hI hst, (Server.Balanced.step hI.1 hst).queues target⟩) hinit hrun
    rw [Transition.System.log_hom (List.filterMap (Relay.queued target)) rfl fun _ _ => List.filterMap_append ..]
    exact hgrows

/-- Two clients of a group connect; the first changes its name and is about to relay an offer. -/
def renamedThenOffers : List ServerEvent := [
  .connect ⟨1⟩ "203.0.113.5" phone [], .hello ⟨1⟩, .spawn ⟨1⟩,
  .connect ⟨2⟩ "203.0.113.5" phone [⟨1⟩], .send ⟨2⟩, .hello ⟨2⟩, .spawn ⟨2⟩,
  .message ⟨1⟩ (.update {phone with «alias» := "Quick Pear"}), .process ⟨1⟩ [⟨1⟩, ⟨2⟩], .recvSend ⟨1⟩,
  .message ⟨1⟩ (.offer ⟨"session", ⟨2⟩, "v=0"⟩)]

/-- The offer goes out under the old name. -/
theorem renamed_client_offers_under_old_name :
    ¬ Server.RelaysFaithfully ⟨10, 10⟩ (renamedThenOffers ++ [.process ⟨1⟩ [⟨1⟩, ⟨2⟩]]) := by
  intro h
  have hstate : ((signaling ⟨10, 10⟩).run {} renamedThenOffers).map (fun σ => decide
      (((signaling ⟨10, 10⟩).step σ (.process ⟨1⟩ [⟨1⟩, ⟨2⟩])).isSome ∧
      (σ.handlers ⟨1⟩).any (fun h => h.announced.alias = "Quick Pear" ∧ h.peer = .of phone ⟨1⟩ ∧
        h.recvTask = .accepted (.offer ⟨"session", ⟨2⟩, "v=0"⟩) ∧ h.ipGroup = "203.0.113.5") ∧
      (σ.handlers ⟨2⟩).any (fun h => h.Live ∧ h.ipGroup = "203.0.113.5") ∧
      σ.relayedAt (.process ⟨1⟩ [⟨1⟩, ⟨2⟩]) = [⟨⟨1⟩, ⟨2⟩, .offer ⟨.of phone ⟨1⟩, "session", "v=0"⟩⟩])) = some true := by
    decide +kernel
  obtain ⟨σ, hrun, hσ⟩ := Option.map_eq_some_iff.mp hstate
  obtain ⟨hstep, hphone, htablet, hrelayed⟩ := of_decide_eq_true hσ
  obtain ⟨τ, hτ⟩ := Option.isSome_iff_exists.mp hstep
  obtain ⟨k, hk, hfacts⟩ := (Option.any_eq_true _ _).mp hphone
  obtain ⟨t, ht, hlive⟩ := (Option.any_eq_true _ _).mp htablet
  obtain ⟨halias, hpeer, htask, hgroup⟩ := of_decide_eq_true hfacts
  obtain ⟨hlive, hgroup'⟩ := of_decide_eq_true hlive
  have hrelays := h.steps.taken hrun hτ
  obtain ⟨r, hr, -, -, peer, hsdp, -, hsame, -⟩ := hrelays.connected ⟨1⟩ _ k _ ⟨2⟩ rfl hk htask rfl
    ⟨t, ht, hlive, hgroup'.trans hgroup.symm⟩
  rw [hrelayed] at hr
  obtain rfl := (List.cons.inj hr).1
  obtain rfl : peer = .of phone ⟨1⟩ := Server.sdp_injective hsdp rfl
  rw [halias] at hsame
  exact absurd hsame (by decide)

end MagicShare.Ws
