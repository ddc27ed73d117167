import MagicShare.Ws.Rooms

/-! Along every run the rooms of the signaling server keep track of its handlers.

A step takes every handler on (`Server.Evolves`) and leaves the members of a room
what its live handlers announced (`Server.Tracked`). With the order in which the
handlers came this is an invariant of the server (`Server.Wired.run`). -/
namespace MagicShare.Ws
open Documents

namespace Server

/-- What a live handler of the group announced last. -/
def announcedIn (σ : Server) (ipGroup : String) (id : Uuid) : Option ClientInfoWithoutId :=
  (σ.handlers id).bind fun h => if h.Live ∧ h.ipGroup = ipGroup then some h.announced else none

/-- The rooms hold the live handlers, with what they announced last. -/
def Tracked (σ : Server) : Prop := ∀ ipGroup id, (σ.room ipGroup).lookup id = σ.announcedIn ipGroup id

/-- Handlers are sound, a handler announces itself to earlier ones only, and the
rooms keep track of them. -/
structure Wired (σ : Server) : Prop where
  sound : ∀ id h, σ.handlers id = some h → h.Sound id
  young : ∀ id h, σ.handlers id = some h → h.born < σ.next
  earlier : ∀ id h, σ.handlers id = some h → h.phase.Connecting → ∀ s ∈ h.sends,
    ∃ t, σ.handlers s.1 = some t ∧ t.born < h.born
  tracked : σ.Tracked

/-- Every handler goes on; none comes or goes. -/
structure Evolves (σ τ : Server) : Prop where
  next : τ.next = σ.next
  follows : ∀ id h, σ.handlers id = some h → ∃ h', τ.handlers id = some h' ∧ h.Follows id h'
  absent : ∀ id, σ.handlers id = none → τ.handlers id = none

theorem Evolves.refl (σ : Server) : Evolves σ σ := ⟨rfl, fun id h hh => ⟨h, hh, .refl id h⟩, fun _ h => h⟩

theorem Evolves.trans {σ τ υ : Server} (h : Evolves σ τ) (h' : Evolves τ υ) : Evolves σ υ where
  next := h'.next.trans h.next
  follows id hd hh := by
    obtain ⟨hd', hh', hf⟩ := h.follows id hd hh
    obtain ⟨hd'', hh'', hf'⟩ := h'.follows id hd' hh'
    exact ⟨hd'', hh'', hf.trans hf'⟩
  absent id hh := h'.absent id (h.absent id hh)

/-- One handler goes on, whatever becomes of the rooms. -/
theorem Evolves.setHandler {σ σ' : Server} {id : Uuid} {h h' : Handler} (hh : σ.handlers id = some h)
    (hhandlers : σ'.handlers = σ.handlers) (hnext : σ'.next = σ.next) (hf : h.Follows id h') :
    Evolves σ (σ'.setHandler id h') where
  next := hnext
  follows id' k hk := by
    rw [handlers_setHandler, hhandlers]
    split
    · next heq =>
      obtain rfl := heq
      obtain rfl := Option.some.inj (hh.symm.trans hk)
      exact ⟨h', rfl, hf⟩
    · exact ⟨k, hk, .refl id' k⟩
  absent id' hnone := by
    rw [handlers_setHandler, hhandlers]
    split
    · next heq =>
      obtain rfl := heq
      exact nomatch hh.symm.trans hnone
    · exact hnone

theorem Evolves.push {σ τ : Server} {target : Uuid} {message : WsServerMessage}
    (h : σ.push target message = some τ) : Evolves σ τ := by
  rcases push_cases h with ⟨rfl, _⟩ | ⟨t, ht, _, hroom, rfl⟩
  · exact .refl _
  · exact .setHandler ht rfl rfl (.queued hroom message)

theorem Evolves.emit {σ τ : Server} {s : Option (Uuid × WsServerMessage)} (h : σ.emit s = some τ) :
    Evolves σ τ := by
  cases s with
  | none => exact Option.some.inj h ▸ .refl _
  | some s => exact .push h

theorem Evolves.process {σ : Server} {id : Uuid} {h : Handler} (hh : σ.handlers id = some h)
    {message : WsClientMessage} (htask : h.recvTask = .accepted message) (order : List Uuid) :
    Evolves σ (σ.process id h order message) := by
  have hpass : ∀ (target : Uuid) (m : WsServerMessage), ((∃ o, m = .offer o) ∨ ∃ a, m = .answer a) →
      Evolves σ (σ.sendToPeer id h target m) := by
    intro target m hm
    refine .setHandler hh rfl rfl (.act htask fun sends hsends s hs => ?_)
    split at hsends
    · obtain rfl := RecvTask.sending.inj hsends
      obtain rfl := List.mem_singleton.mp hs
      exact .inr hm
    · exact nomatch hsends
  cases message with
  | update info =>
    rw [Server.process, sendUpdate]
    split
    · exact .setHandler hh rfl rfl (.act htask fun _ h => nomatch h)
    · refine .setHandler hh rfl rfl (.act htask fun sends hsends s hs => ?_)
      split at hsends
      · exact nomatch hsends
      · obtain rfl := RecvTask.sending.inj hsends
        obtain ⟨other, _, rfl⟩ := List.mem_map.mp hs
        exact .inl rfl
  | offer m => exact hpass m.target _ (.inl ⟨_, rfl⟩)
  | answer m => exact hpass m.target _ (.inr ⟨_, rfl⟩)

theorem Evolves.remove {σ : Server} {id : Uuid} {h : Handler} (hh : σ.handlers id = some h)
    (hphase : h.phase = .closing) (hs : h.Sound id) (order : List Uuid) :
    Evolves σ (σ.remove id h order) := by
  have hnone : h.sends = [] := hs.noSends (by simp [hphase, Phase.connecting_iff]) (by simp [hphase])
  have hleave : h.Follows id {h with phase := .leaving} := .leave hphase (by simp [hnone])
  rw [Server.remove]
  split
  · exact .setHandler hh rfl rfl hleave
  · split_ifs
    · exact .setHandler hh rfl rfl hleave
    · refine .setHandler hh rfl rfl (.leave hphase fun s hs => ?_)
      obtain ⟨other, _, rfl⟩ := List.mem_map.mp hs
      rfl

/-! ### The rooms keep track -/

/-- What acting on a message does to the handlers. -/
theorem handlers_process (σ : Server) (id : Uuid) (hd : Handler) (order : List Uuid)
    (message : WsClientMessage) : ∃ info task, ∀ id', (σ.process id hd order message).handlers id' =
      if id' = id then some {hd with announced := info, recvTask := task} else σ.handlers id' := by
  cases message with
  | update info =>
    rw [Server.process, Server.sendUpdate]
    split
    · exact ⟨hd.announced, _, fun id' => handlers_setHandler σ id id' _⟩
    · exact ⟨info, _, fun id' => handlers_setHandler _ id id' _⟩
  | offer | answer => exact ⟨hd.announced, _, fun id' => handlers_setHandler σ id id' _⟩

/-- What a removal does to the handlers: the others of the room are to be told. -/
theorem handlers_remove (σ : Server) (id : Uuid) (hd : Handler) (order : List Uuid) :
    ∃ sends, (∀ id', (σ.remove id hd order).handlers id' =
      if id' = id then some {hd with phase := .leaving, sends := sends} else σ.handlers id') ∧
      ((∃ other ≠ id, ((σ.room hd.ipGroup).lookup other).isSome) →
        sends = order.map fun other => (other, .left id)) := by
  unfold Server.remove
  cases hroom : σ.rooms.lookup hd.ipGroup with
  | none =>
    refine ⟨_, fun id' => handlers_setHandler σ id id' _, ?_⟩
    rintro ⟨other, _, hother⟩
    rw [Server.room, hroom, Option.getD_none, Finmap.lookup_empty] at hother
    cases hother
  | some members =>
    dsimp only
    split_ifs with hempty
    · refine ⟨_, fun id' => handlers_setHandler _ id id' _, ?_⟩
      rintro ⟨other, hne, hother⟩
      have hlookup : (members.erase id).lookup other = members.lookup other := Finmap.lookup_erase_ne hne
      rw [Server.room, hroom, Option.getD_some, ← hlookup, hempty, Finmap.lookup_empty] at hother
      cases hother
    · exact ⟨_, fun id' => handlers_setHandler _ id id' _, fun _ => rfl⟩

theorem announcedIn_of {σ : Server} {id : Uuid} {h : Handler} (hh : σ.handlers id = some h)
    (ipGroup : String) : σ.announcedIn ipGroup id =
      if h.Live ∧ h.ipGroup = ipGroup then some h.announced else none := by
  rw [announcedIn, hh, Option.bind_some]

theorem announcedIn_setHandler (σ : Server) (id : Uuid) (h : Handler) (ipGroup : String) (id' : Uuid) :
    (σ.setHandler id h).announcedIn ipGroup id' =
      if id' = id then if h.Live ∧ h.ipGroup = ipGroup then some h.announced else none
      else σ.announcedIn ipGroup id' := by
  rw [announcedIn, handlers_setHandler]
  split
  · rfl
  · rw [announcedIn]

theorem announcedIn_sameEntry {σ : Server} {id : Uuid} {h h' : Handler} (hh : σ.handlers id = some h)
    (hsame : Handler.SameEntry h h') : (σ.setHandler id h').announcedIn = σ.announcedIn := by
  funext ipGroup id'
  rw [announcedIn_setHandler]
  split
  · next heq =>
    rw [heq, announcedIn_of hh, hsame.ipGroup, hsame.announced]
    simp only [hsame.live]
  · rfl

namespace Tracked
variable {σ τ : Server}

/-- A member of a room is a live handler of its group. -/
theorem member (h : σ.Tracked) {ipGroup : String} {id : Uuid} {info : ClientInfoWithoutId}
    (hmember : (σ.room ipGroup).lookup id = some info) :
    ∃ k, σ.handlers id = some k ∧ k.Live ∧ k.ipGroup = ipGroup ∧ k.announced = info := by
  rw [h, announcedIn] at hmember
  obtain ⟨k, hk, hif⟩ := Option.bind_eq_some_iff.mp hmember
  obtain ⟨⟨hlive, hgroup⟩, hinfo⟩ := Option.ite_none_right_eq_some.mp hif
  exact ⟨k, hk, hlive, hgroup, Option.some.inj hinfo⟩

theorem of_same (h : σ.Tracked) (hrooms : τ.rooms = σ.rooms) (hann : τ.announcedIn = σ.announcedIn) :
    τ.Tracked := by
  intro ipGroup id
  have := h ipGroup id
  unfold Server.room at this ⊢
  rw [hrooms, hann, this]

theorem push (h : σ.Tracked) {target : Uuid} {message : WsServerMessage}
    (hst : σ.push target message = some τ) : τ.Tracked := by
  rcases push_cases hst with ⟨rfl, _⟩ | ⟨t, ht, _, _, rfl⟩
  · exact h
  · exact h.of_same rfl (announcedIn_sameEntry ht ⟨rfl, rfl, Iff.rfl⟩)

theorem emit (h : σ.Tracked) {s : Option (Uuid × WsServerMessage)} (hst : σ.emit s = some τ) : τ.Tracked := by
  cases s with
  | none => exact Option.some.inj hst ▸ h
  | some s => exact h.push hst

theorem sendUpdate (h : σ.Tracked) {id : Uuid} {hd : Handler} (hh : σ.handlers id = some hd)
    (info : ClientInfoWithoutId) (order : List Uuid) : (σ.sendUpdate id hd info order).Tracked := by
  unfold Server.sendUpdate
  split
  · exact h.of_same rfl (announcedIn_sameEntry hh ⟨rfl, rfl, Iff.rfl⟩)
  · next old hmember =>
    rw [h, announcedIn_of hh, Option.ite_none_right_eq_some] at hmember
    intro ipGroup id'
    rw [announcedIn_setHandler]
    refine (congrArg (Finmap.lookup id') (room_insert σ hd.ipGroup ipGroup _)).trans ?_
    by_cases hg : ipGroup = hd.ipGroup
    · rw [if_pos hg, Collection.lookup_insert_eq]
      split
      · exact (if_pos ⟨hmember.1.1, hg.symm⟩).symm
      · exact hg ▸ h hd.ipGroup id'
    · rw [if_neg hg]
      split
      · next heq =>
        rw [heq, h ipGroup id, announcedIn_of hh, if_neg fun hp => hg hp.2.symm]
        exact (if_neg fun hp => hg hp.2.symm).symm
      · exact h ipGroup id'

theorem process (h : σ.Tracked) {id : Uuid} {hd : Handler} (hh : σ.handlers id = some hd)
    (order : List Uuid) (message : WsClientMessage) : (σ.process id hd order message).Tracked := by
  cases message with
  | update info => exact h.sendUpdate hh info order
  | offer | answer => exact h.of_same rfl (announcedIn_sameEntry hh ⟨rfl, rfl, Iff.rfl⟩)

/-- A removal takes the peer out of its room. -/
theorem lookup_room_remove (h : σ.Tracked) {id : Uuid} {hd : Handler} (hh : σ.handlers id = some hd)
    (hlive : hd.Live) (order : List Uuid) (ipGroup : String) (id' : Uuid) :
    ((σ.remove id hd order).room ipGroup).lookup id' =
      if id' = id ∧ ipGroup = hd.ipGroup then none else (σ.room ipGroup).lookup id' := by
  have hmember : (σ.room hd.ipGroup).lookup id = some hd.announced := by
    rw [h, announcedIn_of hh, if_pos ⟨hlive, rfl⟩]
  have herase : ∀ members : Room, σ.room hd.ipGroup = members → (if ipGroup = hd.ipGroup then
      (members.erase id).lookup id' else (σ.room ipGroup).lookup id') =
        if id' = id ∧ ipGroup = hd.ipGroup then none else (σ.room ipGroup).lookup id' := by
    intro members hroom
    rw [Collection.lookup_erase_eq]
    by_cases hg : ipGroup = hd.ipGroup <;> by_cases heq : id' = id <;> simp [hg, heq, hroom]
  unfold Server.remove
  cases hroom : σ.rooms.lookup hd.ipGroup with
  | none => simp [Server.room, hroom] at hmember
  | some members =>
    have hmembers : σ.room hd.ipGroup = members := by rw [Server.room, hroom, Option.getD_some]
    rw [← herase members hmembers]
    dsimp only
    split_ifs with hempty hg hg
    · rw [room_setHandler, room_erase, if_pos hg, hempty]
    · rw [room_setHandler, room_erase, if_neg hg]
    · rw [room_setHandler, room_insert, if_pos hg]
    · rw [room_setHandler, room_insert, if_neg hg]

theorem remove (h : σ.Tracked) {id : Uuid} {hd : Handler} (hh : σ.handlers id = some hd)
    (hlive : hd.Live) (order : List Uuid) : (σ.remove id hd order).Tracked := by
  intro ipGroup id'
  obtain ⟨sends, hhandlers, _⟩ := handlers_remove σ id hd order
  rw [h.lookup_room_remove hh hlive, announcedIn, hhandlers]
  by_cases heq : id' = id
  · subst heq
    by_cases hg : ipGroup = hd.ipGroup
    · simp [hg, Handler.Live]
    · have hother : (σ.room ipGroup).lookup id' = none := by
        rw [h, announcedIn_of hh, if_neg fun hp => hg hp.2.symm]
      simp [hg, Ne.symm hg, Handler.Live, hother]
  · simp only [heq, false_and, if_false]
    exact h ipGroup id'

theorem register (h : σ.Tracked) (id : Uuid) (ipGroup : String) (info : ClientInfoWithoutId)
    (order : List Uuid) (hid : σ.handlers id = none) : (σ.register id ipGroup info order).Tracked := by
  intro g id'
  have hroom : (σ.register id ipGroup info order).room g =
      if g = ipGroup then (σ.room ipGroup).insert id info else σ.room g :=
    room_insert {σ with handlers := (σ.register id ipGroup info order).handlers} ipGroup g _
  rw [hroom]
  by_cases heq : id' = id
  · subst heq
    have hnone : (σ.room g).lookup id' = none := by rw [h, announcedIn, hid, Option.bind_none]
    by_cases hg : g = ipGroup
    · simp [hg, announcedIn, handlers_register, newcomer, Handler.Live]
    · simp [hg, Ne.symm hg, announcedIn, handlers_register, newcomer, hnone]
  · have hkeep : (σ.register id ipGroup info order).announcedIn g id' = σ.announcedIn g id' := by
      simp [announcedIn, handlers_register, heq]
    rw [hkeep, ← h]
    split
    · next hg => rw [Finmap.lookup_insert_of_ne _ heq, hg]
    · rfl

end Tracked

theorem SameHandlers.room {σ τ : Server} (h : SameHandlers σ τ) : τ.room = σ.room := by
  funext ipGroup
  rw [Server.room, Server.room, h.rooms]

/-- What a connection does to the handlers. -/
theorem handlers_connect (limits : Limits) (σ : Server) (id : Uuid) (ipGroup : String)
    (info : ClientInfoWithoutId) (order : List Uuid) :
    (σ.connect limits id ipGroup info order).handlers = σ.handlers ∨
      ∀ id', (σ.connect limits id ipGroup info order).handlers id' =
        if id' = id then some (σ.newcomer id ipGroup info order) else σ.handlers id' := by
  have hprotect : ∀ υ, (protectDdosRequestCount limits υ ipGroup).2.handlers = υ.handlers := fun υ =>
    (SameHandlers.protect limits υ ipGroup).handlers
  rcases connect_cases limits σ id ipGroup info order with ⟨_, heq⟩ | ⟨_, _, heq⟩ | ⟨_, _, heq⟩
  · exact .inl (heq ▸ rfl)
  · exact .inl (heq ▸ hprotect _)
  · refine .inr fun id' => ?_
    have hsame := SameHandlers.protect limits σ ipGroup
    have hnew : (protectDdosRequestCount limits σ ipGroup).2.newcomer id ipGroup info order =
        σ.newcomer id ipGroup info order := by
      unfold newcomer
      rw [hsame.next, hsame.room]
    rw [heq, handlers_register, hsame.handlers, hnew]

/-! ### Along every run -/

theorem Iterates.mem {order : List Uuid} {members : Room} (h : Iterates order members) {id : Uuid} :
    id ∈ order ↔ (members.lookup id).isSome := by
  rw [← Collection.mem_keys_iff, ← h.2, List.mem_toFinset]

theorem SameHandlers.announcedIn {σ τ : Server} (h : SameHandlers σ τ) : τ.announcedIn = σ.announcedIn := by
  funext ipGroup id
  rw [Server.announcedIn, Server.announcedIn, h.handlers]

namespace Wired
variable {limits : Limits} {σ τ : Server}

theorem init : Wired {} where
  sound _ _ h := nomatch h
  young _ _ h := nomatch h
  earlier _ _ h := nomatch h
  tracked ipGroup id := by simp [Server.room, Server.announcedIn]

/-- A connecting handler still has its queue. -/
theorem not_dropped (h : Wired σ) {id : Uuid} {k : Handler} (hk : σ.handlers id = some k)
    (hc : k.phase.Connecting) : k.sendTask ≠ .dropped := by
  rw [(h.sound id k hk).notStarted.mpr (.inl hc)]
  exact fun h => nomatch h

theorem evolves (h : Wired σ) (he : Evolves σ τ) (htracked : τ.Tracked) : Wired τ := by
  have hback : ∀ id h', τ.handlers id = some h' → ∃ k, σ.handlers id = some k ∧ k.Follows id h' := by
    intro id h' hh'
    cases hh : σ.handlers id with
    | none => exact nomatch hh'.symm.trans (he.absent id hh)
    | some k =>
      obtain ⟨k', hk', hf⟩ := he.follows id k hh
      obtain rfl := Option.some.inj (hk'.symm.trans hh')
      exact ⟨k, rfl, hf⟩
  refine ⟨fun id h' hh' => ?_, fun id h' hh' => ?_, fun id h' hh' hc s hs => ?_, htracked⟩
  · obtain ⟨k, hk, hf⟩ := hback id h' hh'
    exact hf.sound (h.sound id k hk)
  · obtain ⟨k, hk, hf⟩ := hback id h' hh'
    rw [hf.born, he.next]
    exact h.young id k hk
  · obtain ⟨k, hk, hf⟩ := hback id h' hh'
    obtain ⟨hphase, hsub⟩ := hf.connecting hc
    obtain ⟨t, ht, hborn⟩ := h.earlier id k hk (hphase ▸ hc) s (hsub hs)
    obtain ⟨t', ht', hft⟩ := he.follows s.1 t ht
    exact ⟨t', ht', by rwa [hft.born, hf.born]⟩

/-- Entering a room is the same to the handlers. -/
theorem enterRoom (h : Wired σ) (ipGroup : String) : Wired (σ.enterRoom ipGroup) where
  sound := h.sound
  young := h.young
  earlier := h.earlier
  tracked g id := by
    rw [room_enterRoom]
    exact h.tracked g id

theorem same (h : Wired σ) (hs : SameHandlers σ τ) : Wired τ where
  sound := hs.handlers ▸ h.sound
  young := by
    rw [hs.handlers, hs.next]
    exact h.young
  earlier := hs.handlers ▸ h.earlier
  tracked := h.tracked.of_same hs.rooms hs.announcedIn

/-- A newcomer is sound, and has only members of the room to tell. -/
theorem newcomer_sound (σ : Server) (id : Uuid) (ipGroup : String) (info : ClientInfoWithoutId)
    (order : List Uuid) : (σ.newcomer id ipGroup info order).Sound id ∧
      ∀ s ∈ (σ.newcomer id ipGroup info order).sends, s.1 ∈ order := by
  refine ⟨⟨?_, fun _ => rfl, Nat.zero_le _, fun _ => .inl trivial, fun _ s hs => ?_, ?_, ?_⟩, fun s hs => ?_⟩
  · exact iff_of_true rfl (.inl trivial)
  · obtain ⟨other, _, rfl⟩ := List.mem_map.mp hs
    rfl
  · exact fun hl => nomatch hl
  · exact fun _ hr => nomatch hr
  · obtain ⟨other, hother, rfl⟩ := List.mem_map.mp hs
    exact hother

theorem register (h : Wired σ) {id : Uuid} {ipGroup : String} {order : List Uuid}
    (hid : σ.handlers id = none) (horder : Iterates order (σ.room ipGroup)) (info : ClientInfoWithoutId) :
    Wired (σ.register id ipGroup info order) := by
  obtain ⟨hsound, hsends⟩ := newcomer_sound σ id ipGroup info order
  have hhandlers : ∀ id' k, (σ.register id ipGroup info order).handlers id' = some k →
      (id' = id ∧ k = σ.newcomer id ipGroup info order) ∨ σ.handlers id' = some k := by
    intro id' k hk
    rw [handlers_register] at hk
    split at hk
    · next heq => exact .inl ⟨heq, (Option.some.inj hk).symm⟩
    · exact .inr hk
  have hkeep : ∀ id' k, σ.handlers id' = some k →
      (σ.register id ipGroup info order).handlers id' = some k := by
    intro id' k hk
    have hne : id' ≠ id := by
      rintro rfl
      exact nomatch hid.symm.trans hk
    rw [handlers_register, if_neg hne, hk]
  refine ⟨fun id' k hk => ?_, fun id' k hk => ?_, fun id' k hk hc s hs => ?_,
    h.tracked.register id ipGroup info order hid⟩
  · rcases hhandlers id' k hk with ⟨rfl, rfl⟩ | hk
    · exact hsound
    · exact h.sound id' k hk
  · rcases hhandlers id' k hk with ⟨_, rfl⟩ | hk
    · exact Nat.lt_succ_self σ.next
    · exact Nat.lt_succ_of_lt (h.young id' k hk)
  · rcases hhandlers id' k hk with ⟨_, rfl⟩ | hk
    · -- The others are members of the room, so their handlers are there.
      obtain ⟨info', hmember⟩ := Option.isSome_iff_exists.mp (horder.mem.mp (hsends s hs))
      obtain ⟨t, ht, _⟩ := h.tracked.member hmember
      exact ⟨t, hkeep s.1 t ht, h.young s.1 t ht⟩
    · obtain ⟨t, ht, hlt⟩ := h.earlier id' k hk hc s hs
      exact ⟨t, hkeep s.1 t ht, hlt⟩

/-- A handler's step takes every handler on. -/
theorem handlerStep_evolves (h : Wired σ) {e : ServerEvent} {id : Uuid} {k : Handler}
    (he : e.handler = some id) (hk : σ.handlers id = some k) (hst : handlerStep limits σ id k e = some τ) :
    Evolves σ τ := by
  rcases handlerStep_cases he hst with
    ⟨order, message, rfl, htask, _, rfl⟩ | ⟨order, rfl, hphase, _, rfl⟩ | ⟨σ', k', s, hcounts, hm, hemit⟩
  · exact .process hk htask order
  · exact .remove hk hphase (h.sound id k hk) order
  · have hsame := hcounts.sameHandlers
    exact (Evolves.setHandler hk hsame.handlers hsame.next (.move hm)).trans (.emit hemit)

theorem step {e : ServerEvent} (h : Wired σ) (hst : (signaling limits).step σ e = some τ) : Wired τ := by
  rcases signaling_cases hst with
    ⟨id, ipGroup, info, order, rfl, hid, horder, rfl⟩ | ⟨rfl, rfl⟩ | ⟨id, hd, he, hh, hst⟩
  · rcases connect_cases limits σ id ipGroup info order with ⟨_, heq⟩ | ⟨_, _, heq⟩ | ⟨_, _, heq⟩
    · exact heq ▸ h.enterRoom ipGroup
    · exact heq ▸ (h.enterRoom ipGroup).same (.protect limits _ ipGroup)
    · have hsame := SameHandlers.protect limits σ ipGroup
      refine heq ▸ (h.same hsame).register (hsame.handlers ▸ hid) ?_ info
      rwa [hsame.room]
  · exact h.same ⟨rfl, rfl, rfl⟩
  · refine h.evolves (h.handlerStep_evolves he hh hst) ?_
    rcases handlerStep_cases he hst with
      ⟨order, message, rfl, _, _, rfl⟩ | ⟨order, rfl, hphase, _, rfl⟩ | ⟨σ', h', s, hcounts, hm, hemit⟩
    · exact h.tracked.process hh order message
    · exact h.tracked.remove hh (by simp [Handler.Live, hphase]) order
    · have hsame := hcounts.sameHandlers
      have hh' : σ'.handlers id = some hd := hsame.handlers ▸ hh
      have htracked : (σ'.setHandler id h').Tracked :=
        (h.same hsame).tracked.of_same rfl (announcedIn_sameEntry hh' (.move hm))
      exact htracked.emit hemit

/-- **Every state of a run is wired.** -/
theorem run {events : List ServerEvent} (h : Wired σ) (hrun : (signaling limits).run σ events = some τ) :
    Wired τ :=
  Transition.System.run_invariant (fun _ _ _ => step) h hrun

/-- Nobody is there who did not connect. -/
theorem absent (h : Wired σ) {events : List ServerEvent} (hrun : (signaling limits).run σ events = some τ)
    {id : Uuid} (hid : σ.handlers id = none)
    (hnever : ∀ ipGroup info order, ServerEvent.connect id ipGroup info order ∉ events) :
    τ.handlers id = none := by
  induction events generalizing σ with
  | nil => exact Option.some.inj hrun ▸ hid
  | cons e rest ih =>
    obtain ⟨υ, hst, hrest⟩ := Transition.System.run_cons_some _ hrun
    refine ih (h.step hst) hrest ?_ fun g info order hmem => hnever g info order (List.mem_cons_of_mem e hmem)
    rcases signaling_cases hst with
      ⟨id', ipGroup, info, order, rfl, _, _, rfl⟩ | ⟨rfl, rfl⟩ | ⟨id', k, he, hk, hst⟩
    · have hne : id ≠ id' := by
        rintro rfl
        exact hnever ipGroup info order List.mem_cons_self
      rcases handlers_connect limits σ id' ipGroup info order with heq | heq
      · rw [heq, hid]
      · rw [heq, if_neg hne, hid]
    · exact hid
    · exact (h.handlerStep_evolves he hk hst).absent id hid

end Wired

end Server

end MagicShare.Ws
