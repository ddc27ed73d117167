import MagicShare.Ws.Progress

/-! The peer maps of the clients.

A client builds its map from the messages it was sent: the `Hello` sets it, later
messages add a peer or take it out. The recipients of a message are fixed under the
lock and the message is queued after it, so the map is behind the room; it comes up
to date as long as every piece of news that is still to be sent is sent in a place
where it counts (`Server.InOrder`): after the recipient's `Hello`, and an update of
a peer that has left before its `Left`. -/
namespace MagicShare.Ws
open Documents

/-! ### What a client makes of its messages -/

/-- The peers a client knows. -/
abbrev View := Uuid → Option ClientInfo

/-- The map a `Hello` sets. -/
def View.set (peers : List ClientInfo) : View := fun id => peers.find? fun peer => decide (peer.id = id)

def View.handle (view : View) : WsServerMessage → View
  | .hello _ peers => .set peers
  | .join peer | .update peer => Function.update view peer.id (some peer)
  | .left peerId => Function.update view peerId none
  | .offer _ | .answer _ | .error _ => view

def View.of (messages : List WsServerMessage) : View := messages.foldl View.handle fun _ => none

/-- What a message other than a `Hello` says of a peer, if anything. -/
def WsServerMessage.tells : WsServerMessage → Uuid → Option (Option ClientInfo)
  | .join peer, id | .update peer, id => if id = peer.id then some (some peer) else none
  | .left peerId, id => if id = peerId then some none else none
  | .hello .., _ | .offer _, _ | .answer _, _ | .error _, _ => none

/-- News of a peer. -/
def WsServerMessage.News : WsServerMessage → Prop
  | .join _ | .update _ | .left _ => True
  | _ => False

instance : DecidablePred WsServerMessage.News
  | .join _ | .update _ | .left _ => .isTrue trivial
  | .hello .. | .offer _ | .answer _ | .error _ => .isFalse id

/-- An update of a peer. -/
def WsServerMessage.Update : WsServerMessage → Prop
  | .update _ => True
  | _ => False

instance : DecidablePred WsServerMessage.Update
  | .update _ => .isTrue trivial
  | .join _ | .left _ | .hello .. | .offer _ | .answer _ | .error _ => .isFalse id

theorem View.handle_tells (view : View) {message : WsServerMessage}
    (h : ∀ client peers, message ≠ .hello client peers) (id : Uuid) :
    view.handle message id = (message.tells id).getD (view id) := by
  cases message with
  | hello client peers => exact absurd rfl (h client peers)
  | join peer | update peer | left peer =>
    simp only [View.handle, WsServerMessage.tells, Function.update_apply]
    split <;> rfl
  | offer | answer | error => rfl

theorem View.of_append (messages : List WsServerMessage) (message : WsServerMessage) :
    View.of (messages ++ [message]) = (View.of messages).handle message := by
  rw [View.of, View.of, List.foldl_append]
  rfl

theorem WsServerMessage.News.of_tells {message : WsServerMessage} {id : Uuid}
    {told : Option ClientInfo} (h : message.tells id = some told) : message.News := by
  cases message with
  | join | update | left => trivial
  | hello | offer | answer | error => exact nomatch h

/-- A client's map with everything on its way to it, from its `Hello` on. -/
def Handler.base (h : Handler) : View :=
  match h.phase with
  | .connecting peers => .set peers
  | _ => .of (h.received ++ h.queue)

/-- The handler still has the message to send. -/
def Handler.Owes (h : Handler) (target : Uuid) (message : WsServerMessage) : Prop :=
  (target, message) ∈ h.sends ∨ ∃ sends, h.recvTask = .sending sends ∧ (target, message) ∈ sends

/-- **What a handler owes** is news of its own client, or passed on. -/
theorem Handler.Sound.owes {id target : Uuid} {h : Handler} {message : WsServerMessage} (hs : h.Sound id)
    (ho : h.Owes target message) :
    (h.phase.Connecting ∧ message = .join (.of h.announced id)) ∨ (h.phase = .leaving ∧ message = .left id) ∨
      message = .update (.of h.announced id) ∨ (∃ m, message = .offer m) ∨ ∃ m, message = .answer m := by
  rcases ho with hmem | ⟨sends, htask, hmem⟩
  · rcases hs.fanOut (List.ne_nil_of_mem hmem) with hc | hl
    · exact .inl ⟨hc, hs.joins hc _ hmem⟩
    · exact .inr (.inl ⟨hl, hs.lefts hl _ hmem⟩)
  · exact .inr (.inr (hs.updates sends htask _ hmem))

/-- What is told is told of the sender, and is what it announced last or that it left. -/
theorem Handler.Sound.tells {id target peer : Uuid} {h : Handler} {message : WsServerMessage}
    {told : Option ClientInfo} (hs : h.Sound id) (ho : h.Owes target message)
    (ht : message.tells peer = some told) :
    peer = id ∧ (told = some (.of h.announced id) ∨ (told = none ∧ h.phase = .leaving)) := by
  rcases hs.owes ho with ⟨_, rfl⟩ | ⟨hl, rfl⟩ | rfl | ⟨m, rfl⟩ | ⟨m, rfl⟩
  · obtain ⟨heq, htold⟩ := Option.ite_none_right_eq_some.mp ht
    exact ⟨heq, .inl (Option.some.inj htold).symm⟩
  · obtain ⟨heq, htold⟩ := Option.ite_none_right_eq_some.mp ht
    exact ⟨heq, .inr ⟨(Option.some.inj htold).symm, hl⟩⟩
  · obtain ⟨heq, htold⟩ := Option.ite_none_right_eq_some.mp ht
    exact ⟨heq, .inl (Option.some.inj htold).symm⟩
  · exact nomatch ht
  · exact nomatch ht

/-- A move adds nothing to what is owed. -/
theorem HandlerMove.owes {id target : Uuid} {h h' : Handler} {e : ServerEvent}
    {s : Option (Uuid × WsServerMessage)} {message : WsServerMessage} (hm : HandlerMove id h e h' s)
    (ho : h'.Owes target message) : h.Owes target message := by
  rcases ho with hmem | ⟨sends, htask, hmem⟩
  · cases hm with
    | send hsends => exact .inl (hsends ▸ List.mem_cons_of_mem _ hmem)
    | _ => exact .inl hmem
  · cases hm with
    | recvSend hnext =>
      rcases nextSend_cases hnext with ⟨rest, htask', rfl⟩ | ⟨_, _, rfl⟩
      · dsimp only at htask
        split at htask
        · exact nomatch htask
        · obtain rfl := RecvTask.sending.inj htask
          exact .inr ⟨_, htask', List.mem_cons_of_mem _ hmem⟩
      · exact nomatch htask
    | message _ hnext => rcases hnext with rfl | rfl <;> exact nomatch htask
    | spawn | clientGone | recvAborted => exact nomatch htask
    | _ => exact .inr ⟨sends, htask, hmem⟩

namespace Server
variable {limits : Limits} {σ τ : Server}

/-- What is owed goes to handlers of the same group, and news to others only. -/
def Addressed (σ : Server) : Prop := ∀ id h target message, σ.handlers id = some h → h.Owes target message →
  (∃ t, σ.handlers target = some t ∧ t.ipGroup = h.ipGroup) ∧ (message.News → target ≠ id)

namespace Addressed

theorem init : Addressed {} := fun _ _ _ _ h => nomatch h

/-- What is owed was owed before, or goes to a member of the room. -/
theorem evolves (h : Addressed σ) (he : Evolves σ τ) (howes : ∀ id k, τ.handlers id = some k →
    ∀ target message, k.Owes target message → (∃ k₀, σ.handlers id = some k₀ ∧ k₀.Owes target message) ∨
      ((∃ t, σ.handlers target = some t ∧ t.ipGroup = k.ipGroup) ∧ (message.News → target ≠ id))) :
    Addressed τ := by
  intro id k target message hk ho
  rcases howes id k hk target message ho with ⟨k₀, hk₀, ho₀⟩ | ⟨⟨t, ht, hgroup⟩, hnews⟩
  · obtain ⟨⟨t, ht, hgroup⟩, hnews⟩ := h id k₀ target message hk₀ ho₀
    obtain ⟨t', ht', hft⟩ := he.follows target t ht
    obtain ⟨k', hk', hfk⟩ := he.follows id k₀ hk₀
    obtain rfl := Option.some.inj (hk'.symm.trans hk)
    exact ⟨⟨t', ht', by rw [hft.ipGroup, hfk.ipGroup, hgroup]⟩, hnews⟩
  · obtain ⟨t', ht', hft⟩ := he.follows target t ht
    exact ⟨⟨t', ht', by rw [hft.ipGroup, hgroup]⟩, hnews⟩

/-- One handler goes on. -/
theorem setHandler (h : Addressed σ) {id : Uuid} {k k' : Handler} (hk : σ.handlers id = some k)
    (he : Evolves σ τ) (hhandlers : ∀ id', τ.handlers id' = if id' = id then some k' else σ.handlers id')
    (howes : ∀ target message, k'.Owes target message → k.Owes target message ∨
      ((∃ t, σ.handlers target = some t ∧ t.ipGroup = k'.ipGroup) ∧ (message.News → target ≠ id))) :
    Addressed τ := by
  refine h.evolves he fun id' l hl target message ho => ?_
  rw [hhandlers] at hl
  split at hl
  · next heq =>
    obtain rfl := heq
    obtain rfl := Option.some.inj hl
    exact (howes target message ho).imp (fun ho => ⟨k, hk, ho⟩) fun h => h
  · exact .inl ⟨l, hl, ho⟩

theorem push (h : Addressed σ) {target : Uuid} {message : WsServerMessage}
    (hst : σ.push target message = some τ) : Addressed τ := by
  rcases push_cases hst with ⟨rfl, _⟩ | ⟨t, ht, _, _, rfl⟩
  · exact h
  · exact h.setHandler ht (.push hst) (fun id' => handlers_setHandler ..) fun _ _ ho => .inl ho

theorem emit (h : Addressed σ) {s : Option (Uuid × WsServerMessage)} (hst : σ.emit s = some τ) :
    Addressed τ := by
  cases s with
  | none => exact Option.some.inj hst ▸ h
  | some s => exact h.push hst

/-- What acting on a message has the task send: news to the other members of the
room, or a message passed on to one of them. -/
theorem process (h : Addressed σ) (hw : Wired σ) {id : Uuid} {k : Handler} (hk : σ.handlers id = some k)
    {message : WsClientMessage} (htask : k.recvTask = .accepted message) {order : List Uuid}
    (horder : Iterates order (σ.room k.ipGroup)) : Addressed (σ.process id k order message) := by
  have hmember : ∀ target, ((σ.room k.ipGroup).lookup target).isSome →
      ∃ t, σ.handlers target = some t ∧ t.ipGroup = k.ipGroup := by
    intro target hsome
    obtain ⟨info, hinfo⟩ := Option.isSome_iff_exists.mp hsome
    obtain ⟨t, ht, _, hgroup, _⟩ := hw.tracked.member hinfo
    exact ⟨t, ht, hgroup⟩
  have hpass : ∀ (target : Uuid) (m : WsServerMessage), ¬ m.News → Evolves σ (σ.sendToPeer id k target m) →
      Addressed (σ.sendToPeer id k target m) := by
    intro target m hnews he
    refine h.setHandler hk he (fun id' => handlers_setHandler ..) fun target' m' ho => ?_
    rcases ho with hmem | ⟨sends, hsends, hmem⟩
    · exact .inl (.inl hmem)
    · refine .inr ?_
      dsimp only at hsends
      split at hsends
      · next hsome =>
        obtain rfl := RecvTask.sending.inj hsends
        obtain ⟨rfl, rfl⟩ := Prod.mk.inj (List.mem_singleton.mp hmem)
        exact ⟨hmember _ hsome, fun hn => absurd hn hnews⟩
      · cases hsends
  have he := Evolves.process hk htask order
  cases message with
  | offer m => exact hpass m.target _ (fun hn => hn) he
  | answer m => exact hpass m.target _ (fun hn => hn) he
  | update info =>
    rw [Server.process, sendUpdate] at he ⊢
    split at he
    · refine h.setHandler hk he (fun id' => handlers_setHandler ..) fun target' m' ho => ?_
      rcases ho with hmem | ⟨sends, hsends, _⟩
      · exact .inl (.inl hmem)
      · cases hsends
    · refine h.setHandler hk he (fun id' => handlers_setHandler ..) fun target' m' ho => ?_
      rcases ho with hmem | ⟨sends, hsends, hmem⟩
      · exact .inl (.inl hmem)
      · refine .inr ?_
        dsimp only at hsends
        split at hsends
        · cases hsends
        · obtain rfl := RecvTask.sending.inj hsends
          obtain ⟨other, hother, heq⟩ := List.mem_map.mp hmem
          obtain ⟨rfl, _⟩ := Prod.mk.inj heq
          obtain ⟨hin, hne⟩ := List.mem_filter.mp hother
          exact ⟨hmember _ (horder.mem.mp hin), fun _ => of_decide_eq_true hne⟩

theorem remove (h : Addressed σ) (hw : Wired σ) {id : Uuid} {k : Handler} (hk : σ.handlers id = some k)
    (hphase : k.phase = .closing) {order : List Uuid} (horder : Iterates order ((σ.room k.ipGroup).erase id)) :
    Addressed (σ.remove id k order) := by
  have he := Evolves.remove hk hphase (hw.sound id k hk) order
  unfold Server.remove at he ⊢
  split at he
  · exact h.setHandler hk he (fun id' => handlers_setHandler ..) fun _ _ ho => .inl ho
  · split_ifs at he ⊢
    · exact h.setHandler hk he (fun id' => handlers_setHandler ..) fun _ _ ho => .inl ho
    · refine h.setHandler hk he (fun id' => handlers_setHandler ..) fun target m ho => ?_
      rcases ho with hmem | hrecv
      · obtain ⟨other, hother, heq⟩ := List.mem_map.mp hmem
        obtain ⟨rfl, _⟩ := Prod.mk.inj heq
        have hin := horder.mem.mp hother
        rw [Collection.lookup_erase_eq] at hin
        split at hin
        · exact nomatch hin
        · next hne =>
          obtain ⟨info, hinfo⟩ := Option.isSome_iff_exists.mp hin
          obtain ⟨t, ht, _, hgroup, _⟩ := hw.tracked.member hinfo
          exact .inr ⟨⟨t, ht, hgroup⟩, fun _ => hne⟩
      · exact .inl (.inr hrecv)

theorem of_handlers (h : Addressed σ) (hhandlers : τ.handlers = σ.handlers) : Addressed τ := by
  unfold Addressed
  rw [hhandlers]
  exact h

theorem connect (h : Addressed σ) (hw : Wired σ) {id : Uuid} {ipGroup : String} {order : List Uuid}
    (hid : σ.handlers id = none) (horder : Iterates order (σ.room ipGroup)) (info : ClientInfoWithoutId) :
    Addressed (σ.connect limits id ipGroup info order) := by
  rcases handlers_connect limits σ id ipGroup info order with heq | heq
  · exact h.of_handlers heq
  have hold : ∀ id' k, σ.handlers id' = some k →
      (σ.connect limits id ipGroup info order).handlers id' = some k := by
    intro id' k hk
    rw [heq, if_neg, hk]
    rintro rfl
    exact nomatch hid.symm.trans hk
  intro id' k target m hk ho
  rw [heq] at hk
  split at hk
  · next hid' =>
    obtain rfl := hid'
    obtain rfl := Option.some.inj hk
    rcases ho with hmem | ⟨_, htask, _⟩
    · obtain ⟨other, hother, hpair⟩ := List.mem_map.mp hmem
      obtain ⟨rfl, _⟩ := Prod.mk.inj hpair
      obtain ⟨info', hinfo⟩ := Option.isSome_iff_exists.mp (horder.mem.mp hother)
      obtain ⟨t, ht, _, hgroup, _⟩ := hw.tracked.member hinfo
      refine ⟨⟨t, hold _ t ht, hgroup⟩, ?_⟩
      rintro _ rfl
      exact nomatch hid.symm.trans ht
    · exact nomatch htask
  · obtain ⟨⟨t, ht, hgroup⟩, hnews⟩ := h id' k target m hk ho
    exact ⟨⟨t, hold target t ht, hgroup⟩, hnews⟩

theorem step (h : Addressed σ) (hw : Wired σ) {e : ServerEvent} (hst : (signaling limits).step σ e = some τ) :
    Addressed τ := by
  rcases signaling_cases hst with
    ⟨id, ipGroup, info, order, rfl, hid, horder, rfl⟩ | ⟨rfl, rfl⟩ | ⟨id, k, he, hk, hst⟩
  · exact h.connect hw hid horder info
  · exact h.of_handlers rfl
  · rcases handlerStep_cases he hst with
      ⟨order, message, rfl, htask, horder, rfl⟩ | ⟨order, rfl, hphase, horder, rfl⟩ | ⟨σ', k', s, hcounts, hm, hemit⟩
    · exact h.process hw hk htask horder
    · exact h.remove hw hk hphase horder
    · have hhandlers := hcounts.sameHandlers.handlers
      have hk' : σ'.handlers id = some k := hhandlers ▸ hk
      have hmoved := (h.of_handlers hhandlers).setHandler hk' (.setHandler hk' rfl rfl (.move hm))
        (fun id' => handlers_setHandler ..) fun _ _ ho => .inl (hm.owes ho)
      exact hmoved.emit hemit

end Addressed
end Server

end MagicShare.Ws
