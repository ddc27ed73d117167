import MagicShare.Ws.Handlers

/-! The room map of the signaling server.

A room is entered before the limits are looked at, so a connection that is refused
in a group without a room leaves an empty one behind. Everything else the map
should be it is: its members are the live handlers of the group, never more than
the limit, and the accepted requests of a group are counted and stay within theirs
(`rooms_sound_iff`). -/
namespace MagicShare.Ws
open Documents

/-- The IP group of a handler between its registration and its removal. -/
def Server.liveGroup (σ : Server) (id : Uuid) : Option String :=
  (σ.handlers id).bind fun h => if h.Live then some h.ipGroup else none

/-- No room is empty or too large, its members are the live handlers of its IP
group, and so no live handler is in two rooms or in none; the requests a group had
accepted since the last clear are counted, and are no more than it may have. -/
structure Server.RoomsSound (limits : Limits) (σ : Server) : Prop where
  nonempty : ∀ ipGroup room, σ.rooms.lookup ipGroup = some room → room ≠ ∅
  bounded : ∀ ipGroup, (σ.room ipGroup).keys.card ≤ limits.maxConnections
  members : ∀ ipGroup id, id ∈ (σ.room ipGroup).keys ↔ σ.liveGroup id = some ipGroup
  requests : ∀ ipGroup, σ.accepted.count ipGroup ≤ limits.maxRequests
  counted : ∀ ipGroup, σ.accepted.count ipGroup = σ.requestCount ipGroup

/-- A connection to a group without a room is within both limits. -/
def Admits (limits : Limits) (σ : Server) : ServerEvent → Prop
  | .connect _ ipGroup _ _ => σ.rooms.lookup ipGroup = none →
    0 < limits.maxConnections ∧ σ.requestCount ipGroup < limits.maxRequests
  | _ => True

namespace Server

theorem liveGroup_of {σ : Server} {id : Uuid} {h : Handler} (hh : σ.handlers id = some h) :
    σ.liveGroup id = if h.Live then some h.ipGroup else none := by
  rw [liveGroup, hh, Option.bind_some]

/-- A handler that moves on within its life keeps its group. -/
theorem liveGroup_setHandler {σ : Server} {id : Uuid} {h h' : Handler} (hh : σ.handlers id = some h)
    (hgroup : h'.ipGroup = h.ipGroup) (hlive : h'.Live ↔ h.Live) :
    (σ.setHandler id h').liveGroup = σ.liveGroup := by
  funext id'
  by_cases heq : id' = id
  · subst heq
    rw [liveGroup_of (by simp : (σ.setHandler id' h').handlers id' = some h'), liveGroup_of hh, hgroup]
    simp only [hlive]
  · simp [liveGroup, heq]

/-- A handler that leaves is no longer live. -/
theorem liveGroup_leaving {σ : Server} {id : Uuid} {h' : Handler} (hphase : h'.phase = .leaving)
    (id' : Uuid) : (σ.setHandler id h').liveGroup id' = if id' = id then none else σ.liveGroup id' := by
  by_cases heq : id' = id
  · simp [liveGroup, heq, Handler.Live, hphase]
  · simp [liveGroup, heq]

/-- The part of the server the invariant is about. -/
structure SameRooms (σ τ : Server) : Prop where
  rooms : τ.rooms = σ.rooms
  requestCounts : τ.requestCounts = σ.requestCounts
  accepted : τ.accepted = σ.accepted
  liveGroup : τ.liveGroup = σ.liveGroup

theorem SameRooms.setHandler {σ : Server} {id : Uuid} {h h' : Handler} (hh : σ.handlers id = some h)
    (hgroup : h'.ipGroup = h.ipGroup) (hlive : h'.Live ↔ h.Live) : SameRooms σ (σ.setHandler id h') where
  rooms := rfl
  requestCounts := rfl
  accepted := rfl
  liveGroup := liveGroup_setHandler hh hgroup hlive

theorem SameRooms.trans {σ τ υ : Server} (h : SameRooms σ τ) (h' : SameRooms τ υ) : SameRooms σ υ where
  rooms := h'.rooms.trans h.rooms
  requestCounts := h'.requestCounts.trans h.requestCounts
  accepted := h'.accepted.trans h.accepted
  liveGroup := h'.liveGroup.trans h.liveGroup

/-- A send touches queues only. -/
theorem SameRooms.push {σ τ : Server} {target : Uuid} {message : WsServerMessage}
    (h : σ.push target message = some τ) : SameRooms σ τ := by
  rcases push_cases h with ⟨rfl, _⟩ | ⟨t, ht, _, _, rfl⟩
  · exact ⟨rfl, rfl, rfl, rfl⟩
  · exact .setHandler ht rfl Iff.rfl

theorem SameRooms.emit {σ τ : Server} {s : Option (Uuid × WsServerMessage)} (h : σ.emit s = some τ) :
    SameRooms σ τ := by
  cases s with
  | none =>
    obtain rfl := Option.some.inj h
    exact ⟨rfl, rfl, rfl, rfl⟩
  | some s => exact .push h

namespace RoomsSound
variable {limits : Limits} {σ τ : Server}

theorem init (limits : Limits) : RoomsSound limits {} where
  nonempty ipGroup room h := by simp at h
  bounded ipGroup := by simp [Server.room]
  members ipGroup id := by simp [Server.room, Server.liveGroup]
  requests ipGroup := by simp
  counted ipGroup := by simp [Server.requestCount]

theorem same (h : RoomsSound limits σ) (hs : SameRooms σ τ) : RoomsSound limits τ where
  nonempty := hs.rooms ▸ h.nonempty
  bounded ipGroup := by
    have := h.bounded ipGroup
    unfold Server.room at this ⊢
    rwa [hs.rooms]
  members ipGroup id := by
    have := h.members ipGroup id
    unfold Server.room at this ⊢
    rwa [hs.rooms, hs.liveGroup]
  requests := hs.accepted ▸ h.requests
  counted ipGroup := by
    have := h.counted ipGroup
    unfold Server.requestCount at this ⊢
    rwa [hs.accepted, hs.requestCounts]

/-- A request is counted, or refused at the limit. -/
theorem protect (h : RoomsSound limits σ) (ipGroup : String) :
    RoomsSound limits (protectDdosRequestCount limits σ ipGroup).2 := by
  unfold protectDdosRequestCount
  split_ifs with hfull
  · refine ⟨h.nonempty, h.bounded, h.members, h.requests, fun g => ?_⟩
    rw [h.counted g, requestCount, requestCount, Collection.lookup_insert_eq]
    split
    · next heq => rw [heq, Option.getD_some, requestCount]
    · rfl
  · refine ⟨h.nonempty, h.bounded, h.members, fun g => ?_, fun g => ?_⟩
    · have hcount := h.counted g
      have hle := h.requests g
      rw [List.count_cons]
      split
      · next heq =>
        obtain rfl := beq_iff_eq.mp heq
        omega
      · omega
    · have hcount := h.counted g
      rw [List.count_cons, hcount, requestCount, requestCount, Collection.lookup_insert_eq]
      by_cases heq : g = ipGroup
      · subst heq
        simp [requestCount]
      · simp [heq, Ne.symm heq]

/-- The members of one room change with the live handlers of its group. -/
theorem setRoom (h : RoomsSound limits σ) {ipGroup : String} {members : Room} {handlers : Uuid → Option Handler}
    {next : Nat} (hne : members ≠ ∅) (hcard : members.keys.card ≤ limits.maxConnections)
    (hmembers : ∀ g id, Server.liveGroup {σ with handlers := handlers} id = some g ↔
      if g = ipGroup then id ∈ members.keys else σ.liveGroup id = some g) :
    RoomsSound limits {σ with
      rooms := σ.rooms.insert ipGroup members, handlers := handlers, next := next} where
  nonempty g room hroom := by
    rw [Collection.lookup_insert_eq] at hroom
    split at hroom
    · exact Option.some.inj hroom ▸ hne
    · exact h.nonempty g room hroom
  bounded g := by
    have hroom := room_insert {σ with handlers := handlers, next := next} ipGroup g members
    rw [hroom]
    split
    · exact hcard
    · exact h.bounded g
  members g id := by
    have hroom := room_insert {σ with handlers := handlers, next := next} ipGroup g members
    rw [hroom]
    refine Iff.trans ?_ (hmembers g id).symm
    split
    · rfl
    · exact h.members g id
  requests := h.requests
  counted := h.counted

end RoomsSound

/-! ### Connections -/

/-- Entering a room that is there changes nothing. -/
theorem enterRoom_of_some {σ : Server} {ipGroup : String} {members : Room}
    (h : σ.rooms.lookup ipGroup = some members) : σ.enterRoom ipGroup = σ := by
  have hrooms : σ.rooms.insert ipGroup (σ.room ipGroup) = σ.rooms := by
    refine Finmap.ext_lookup fun g => ?_
    rw [Collection.lookup_insert_eq]
    split
    · next heq => rw [heq, h, room, h, Option.getD_some]
    · rfl
  rw [enterRoom, hrooms]

theorem lookup_enterRoom_of_none {σ : Server} {ipGroup : String} (h : σ.rooms.lookup ipGroup = none) :
    (σ.enterRoom ipGroup).rooms.lookup ipGroup = some ∅ := by
  rw [enterRoom, Collection.lookup_insert_eq, if_pos rfl, room, h, Option.getD_none]

namespace RoomsSound
variable {limits : Limits} {σ τ : Server}

/-- A registration within the limits. -/
theorem register (h : RoomsSound limits σ) {id : Uuid} {ipGroup : String} (hid : σ.handlers id = none)
    (hcard : (σ.room ipGroup).keys.card < limits.maxConnections) (info : ClientInfoWithoutId)
    (order : List Uuid) : RoomsSound limits (σ.register id ipGroup info order) := by
  have hout : id ∉ (σ.room ipGroup).keys := by
    rw [h.members ipGroup id, liveGroup, hid, Option.bind_none]
    simp
  refine h.setRoom ?_ ?_ fun g id' => ?_
  · intro hempty
    have hin : id ∈ ((σ.room ipGroup).insert id info).keys := by
      rw [Collection.keys_insert]
      exact Finset.mem_insert_self ..
    rw [hempty] at hin
    simp at hin
  · rw [Collection.keys_insert, Finset.card_insert_of_notMem hout]
    omega
  · rw [Collection.keys_insert, Finset.mem_insert]
    by_cases heq : id' = id
    · subst heq
      simp only [liveGroup, newcomer, Function.update_self, Option.bind_some, Handler.Live, ne_eq, reduceCtorEq,
        not_false_eq_true, if_true, Option.some.injEq, hid, Option.bind_none, true_or]
      split
      · next hg => simp [hg]
      · next hg => simp [Ne.symm hg]
    · simp only [liveGroup, Function.update_of_ne heq, heq, false_or]
      split
      · next hg => rw [hg, h.members ipGroup id']; rfl
      · rfl

/-- A registration that was counted. -/
theorem register_counted (h : RoomsSound limits σ) {id : Uuid} {ipGroup : String} (hid : σ.handlers id = none)
    (hcard : (σ.room ipGroup).keys.card < limits.maxConnections) (info : ClientInfoWithoutId)
    (order : List Uuid) :
    RoomsSound limits ((protectDdosRequestCount limits σ ipGroup).2.register id ipGroup info order) := by
  have hsame : (protectDdosRequestCount limits σ ipGroup).2.room ipGroup = σ.room ipGroup ∧
      (protectDdosRequestCount limits σ ipGroup).2.handlers = σ.handlers := by
    unfold protectDdosRequestCount
    split <;> exact ⟨rfl, rfl⟩
  exact (h.protect ipGroup).register (hsame.2 ▸ hid) (hsame.1 ▸ hcard) info order

/-- **A connection keeps the rooms sound exactly when it is admitted**, or there
was a room to refuse it. -/
theorem connect_iff (h : RoomsSound limits σ) {id : Uuid} (hid : σ.handlers id = none) (ipGroup : String)
    (info : ClientInfoWithoutId) (order : List Uuid) :
    RoomsSound limits (σ.connect limits id ipGroup info order) ↔
      Admits limits σ (.connect id ipGroup info order) := by
  cases hroom : σ.rooms.lookup ipGroup with
  | some members =>
    refine iff_of_true ?_ fun hnone => nomatch hroom.symm.trans hnone
    rcases connect_cases limits σ id ipGroup info order with ⟨_, heq⟩ | ⟨_, _, heq⟩ | ⟨hcard, _, heq⟩
    · rw [heq, enterRoom_of_some hroom]
      exact h
    · rw [heq, enterRoom_of_some hroom]
      exact h.protect ipGroup
    · rw [heq]
      exact h.register_counted hid hcard info order
  | none =>
    have hempty : (σ.room ipGroup).keys.card = 0 := by simp [room, hroom]
    -- The entered room is empty and stays so if the connection is refused.
    have hunsound : ∀ υ : Server, υ.rooms = (σ.enterRoom ipGroup).rooms → ¬ RoomsSound limits υ := by
      intro υ hυ hsound
      exact hsound.nonempty ipGroup ∅ (hυ ▸ lookup_enterRoom_of_none hroom) rfl
    rcases connect_cases limits σ id ipGroup info order with ⟨hcard, heq⟩ | ⟨_, hfull, heq⟩ | ⟨hcard, hcount, heq⟩
    · refine iff_of_false (heq ▸ hunsound _ rfl) fun hadmits => ?_
      have := hadmits hroom
      omega
    · refine iff_of_false (heq ▸ hunsound _ ?_) fun hadmits => ?_
      · unfold protectDdosRequestCount
        split <;> rfl
      · have := hadmits hroom
        omega
    · exact iff_of_true (heq ▸ h.register_counted hid hcard info order) fun _ => ⟨by omega, hcount⟩

/-! ### The handlers -/

/-- The room of a live handler is there. -/
theorem lookup_room (h : RoomsSound limits σ) {id : Uuid} {ipGroup : String}
    (hlive : σ.liveGroup id = some ipGroup) :
    ∃ members, σ.rooms.lookup ipGroup = some members ∧ σ.room ipGroup = members ∧ id ∈ members.keys := by
  have hin := (h.members ipGroup id).mpr hlive
  unfold Server.room at hin ⊢
  cases hroom : σ.rooms.lookup ipGroup with
  | none => simp [hroom] at hin
  | some members =>
    rw [hroom] at hin
    exact ⟨members, rfl, rfl, hin⟩

/-- An update changes what a member says of itself. -/
theorem sendUpdate (h : RoomsSound limits σ) {id : Uuid} {hd : Handler} (hh : σ.handlers id = some hd)
    (info : ClientInfoWithoutId) (order : List Uuid) : RoomsSound limits (σ.sendUpdate id hd info order) := by
  unfold Server.sendUpdate
  cases hmember : (σ.room hd.ipGroup).lookup id with
  | none => exact h.same (.setHandler hh rfl Iff.rfl)
  | some old =>
    have hin : id ∈ (σ.room hd.ipGroup).keys :=
      (Collection.mem_keys_iff _ _).mpr (by rw [hmember]; rfl)
    have hkeys : ((σ.room hd.ipGroup).insert id info).keys = (σ.room hd.ipGroup).keys := by
      rw [Collection.keys_insert, Finset.insert_eq_of_mem hin]
    have hrooms : RoomsSound limits {σ with
        rooms := σ.rooms.insert hd.ipGroup ((σ.room hd.ipGroup).insert id info)} := by
      refine h.setRoom (fun hempty => ?_) (hkeys ▸ h.bounded hd.ipGroup) fun g id' => ?_
      · rw [← hkeys, hempty] at hin
        simp at hin
      · rw [hkeys]
        split
        · next heq => exact heq ▸ (h.members g id').symm
        · rfl
    exact hrooms.same (.setHandler hh rfl Iff.rfl)

/-- The removal of a live handler: the room loses it, and an empty room goes. -/
theorem remove (h : RoomsSound limits σ) {id : Uuid} {hd : Handler} (hh : σ.handlers id = some hd)
    (hlive : hd.Live) (order : List Uuid) : RoomsSound limits (σ.remove id hd order) := by
  have hgroup : σ.liveGroup id = some hd.ipGroup := by rw [liveGroup_of hh, if_pos hlive]
  obtain ⟨members, hroom, hmembers, _⟩ := h.lookup_room hgroup
  have hmember : ∀ id', id' ∈ members.keys ↔ σ.liveGroup id' = some hd.ipGroup := fun id' =>
    hmembers ▸ h.members hd.ipGroup id'
  -- Who is live after it, by the room it was in.
  have hgone : ∀ h' : Handler, h'.phase = .leaving → ∀ g id',
      (σ.setHandler id h').liveGroup id' = some g ↔
        if g = hd.ipGroup then id' ∈ (members.erase id).keys else σ.liveGroup id' = some g := by
    intro h' hleaving g id'
    rw [liveGroup_leaving hleaving, Finmap.keys_erase, Finset.mem_erase, hmember]
    by_cases hg : g = hd.ipGroup <;> by_cases heq : id' = id
    · simp [hg, heq]
    · simp [hg, heq]
    · simp [hg, heq, hgroup, Ne.symm hg]
    · simp [hg, heq]
  unfold Server.remove
  simp only [hroom]
  split_ifs with hempty
  · refine ⟨fun g room hg => ?_, fun g => ?_, fun g id' => ?_, h.requests, h.counted⟩
    · simp only [rooms_setHandler, Collection.lookup_erase_eq] at hg
      split at hg
      · exact nomatch hg
      · exact h.nonempty g room hg
    · rw [room_setHandler, room_erase]
      split
      · simp
      · exact h.bounded g
    · rw [room_setHandler, room_erase]
      refine Iff.trans ?_ (hgone {hd with phase := .leaving} rfl g id').symm
      split
      · rw [hempty]
      · exact h.members g id'
  · have hle := h.bounded hd.ipGroup
    rw [hmembers] at hle
    refine h.setRoom hempty ?_ (hgone _ rfl)
    rw [Finmap.keys_erase]
    exact Finset.card_erase_le.trans hle

/-- A handler's own step keeps the rooms sound. -/
theorem handlerStep (h : RoomsSound limits σ) {id : Uuid} {hd : Handler} (hh : σ.handlers id = some hd)
    {e : ServerEvent} (he : e.handler = some id) (hst : handlerStep limits σ id hd e = some τ) :
    RoomsSound limits τ := by
  rcases handlerStep_cases he hst with
    ⟨order, message, rfl, _, _, rfl⟩ | ⟨order, rfl, hphase, _, rfl⟩ | ⟨σ', h', s, hcounts, hm, hemit⟩
  · cases message with
    | update info => exact h.sendUpdate hh info order
    | offer m => exact h.same (.setHandler hh rfl Iff.rfl)
    | answer m => exact h.same (.setHandler hh rfl Iff.rfl)
  · exact h.remove hh (by simp [Handler.Live, hphase]) order
  · have hsound : RoomsSound limits σ' := by
      rcases hcounts with rfl | rfl
      · exact h
      · exact h.protect hd.ipGroup
    have hh' : σ'.handlers id = some hd := hcounts.sameHandlers.handlers ▸ hh
    have hsame := Handler.SameEntry.move hm
    exact hsound.same (.trans (.setHandler hh' hsame.ipGroup hsame.live) (.emit hemit))

theorem clearRequestCounts (h : RoomsSound limits σ) :
    RoomsSound limits {σ with requestCounts := ∅, accepted := []} where
  nonempty := h.nonempty
  bounded := h.bounded
  members := h.members
  requests ipGroup := by simp
  counted ipGroup := by simp [requestCount]

end RoomsSound
end Server

/-- **The room map is sound in every state of a run** exactly when the run lets no
connection enter a new room that it refuses. -/
theorem rooms_sound_iff (limits : Limits) (events : List ServerEvent) :
    (signaling limits).Along (Server.RoomsSound limits) {} events ↔
      (signaling limits).Meets (Admits limits) {} events := by
  refine Transition.System.along_iff_meets (fun σ e τ hsound hst => ?_) (.init limits)
  rcases signaling_cases hst with ⟨id, ipGroup, info, order, rfl, hid, _, rfl⟩ | ⟨rfl, rfl⟩ | ⟨id, h, he, hh, hst⟩
  · exact hsound.connect_iff hid ipGroup info order
  · exact iff_of_true hsound.clearRequestCounts trivial
  · refine iff_of_true (hsound.handlerStep hh he hst) ?_
    cases e with
    | connect => exact nomatch he
    | _ => trivial

/-- The only member of a group leaves, and the next connection is one request too
many for it. -/
def refusedAfterLast : List ServerEvent := [
  .connect ⟨1⟩ "203.0.113.5" phone [], .hello ⟨1⟩, .spawn ⟨1⟩, .clientGone ⟨1⟩, .close ⟨1⟩, .remove ⟨1⟩ [],
  .connect ⟨2⟩ "203.0.113.5" phone []]

/-- The refused connection leaves an empty room. -/
theorem refused_connection_leaves_empty_room :
    ¬ (signaling ⟨10, 1⟩).Along (Server.RoomsSound ⟨10, 1⟩) {} refusedAfterLast := by
  intro h
  have hroom : ((signaling ⟨10, 1⟩).run {} refusedAfterLast).map (fun σ => σ.rooms.lookup "203.0.113.5") =
      some (some ∅) := by decide
  cases hrun : (signaling ⟨10, 1⟩).run {} refusedAfterLast with
  | none => simp [hrun] at hroom
  | some σ =>
    rw [hrun] at hroom
    rw [← List.append_nil refusedAfterLast] at h
    exact (h.reached hrun).nonempty _ ∅ (Option.some.inj hroom) rfl

end MagicShare.Ws
