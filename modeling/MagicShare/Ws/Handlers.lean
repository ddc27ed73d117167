import MagicShare.Ws.Server

/-! What the handlers of a running signaling server have in common.

A step of a handler other than an update or a removal moves the handler and sends
at most one message (`handlerStep_cases`). Whatever it does, its tasks and its sends
keep to its phase (`Handler.Sound`) and it does not start over
(`Handler.Follows`). -/
namespace MagicShare.Ws
open Documents

/-- Before its `Hello` is queued. -/
def Phase.Connecting : Phase → Prop
  | .connecting _ => True
  | _ => False

instance : DecidablePred Phase.Connecting
  | .connecting _ => .isTrue trivial
  | .greeted | .serving | .closing | .leaving => .isFalse id

theorem Phase.connecting_iff {phase : Phase} : phase.Connecting ↔ ∃ peers, phase = .connecting peers := by
  cases phase <;> simp [Connecting]

/-- Before its two tasks are started. -/
def Handler.Starting (h : Handler) : Prop := h.phase.Connecting ∨ h.phase = .greeted

/-! ### Moves -/

/-- What a step does to its handler, and what it sends. -/
inductive HandlerMove (id : Uuid) (h : Handler) :
    ServerEvent → Handler → Option (Uuid × WsServerMessage) → Prop where
  | send {s : Uuid × WsServerMessage} {rest : List (Uuid × WsServerMessage)} (hsends : h.sends = s :: rest) :
    HandlerMove id h (.send id) {h with sends := rest} (some s)
  | hello {peers : List ClientInfo} (hphase : h.phase = .connecting peers) (hsends : h.sends = []) :
    HandlerMove id h (.hello id) {h with phase := .greeted} (some (id, .hello h.peer peers))
  | recvSend {s : Uuid × WsServerMessage} {task : RecvTask} (hnext : Server.nextSend id h.recvTask = some (s, task)) :
    HandlerMove id h (.recvSend id) {h with recvTask := task} (some s)
  | spawn (hphase : h.phase = .greeted) :
    HandlerMove id h (.spawn id) {h with phase := .serving, sendTask := .running, recvTask := .idle} none
  | deliver {message : WsServerMessage} {rest : List WsServerMessage} (htask : h.sendTask = .running)
    (hqueue : h.queue = message :: rest) :
    HandlerMove id h (.deliver id) {h with queue := rest, received := h.received ++ [message]} none
  | message {message : WsClientMessage} {task : RecvTask} (htask : h.recvTask = .idle)
    (hnext : task = .refused ∨ task = .accepted message) :
    HandlerMove id h (.message id message) {h with recvTask := task} none
  | clientGone (htask : h.recvTask = .idle) : HandlerMove id h (.clientGone id) {h with recvTask := .over} none
  | sinkFailed (htask : h.sendTask = .running) :
    HandlerMove id h (.sinkFailed id) {h with sendTask := .dropped} none
  | close (hphase : h.phase = .serving) : HandlerMove id h (.close id) {h with phase := .closing} none
  | sendAborted (htask : h.sendTask = .running) :
    HandlerMove id h (.sendAborted id) {h with sendTask := .dropped} none
  | recvAborted (hphase : h.phase = .closing ∨ h.phase = .leaving) :
    HandlerMove id h (.recvAborted id) {h with recvTask := .over} none

namespace Server

/-- What an event is about to send, if not a `Hello`. -/
def sending (σ : Server) : ServerEvent → Option (Uuid × WsServerMessage)
  | .send id => (σ.handlers id).bind fun h => h.sends.head?
  | .recvSend id => (σ.handlers id).bind fun h => (nextSend id h.recvTask).map Prod.fst
  | _ => none

/-- Send what a move sends. -/
def emit (σ : Server) : Option (Uuid × WsServerMessage) → Option Server
  | none => some σ
  | some (target, message) => σ.push target message

/-- The same rooms and handlers; the request counts may differ. -/
structure SameHandlers (σ τ : Server) : Prop where
  rooms : τ.rooms = σ.rooms
  handlers : τ.handlers = σ.handlers
  next : τ.next = σ.next

theorem SameHandlers.refl (σ : Server) : SameHandlers σ σ := ⟨rfl, rfl, rfl⟩

theorem SameHandlers.protect (limits : Limits) (σ : Server) (ipGroup : String) :
    SameHandlers σ (protectDdosRequestCount limits σ ipGroup).2 := by
  unfold protectDdosRequestCount
  split <;> exact ⟨rfl, rfl, rfl⟩

/-- Where a move starts: a message is counted first. -/
def Counts (limits : Limits) (σ : Server) (ipGroup : String) (τ : Server) : Prop :=
  τ = σ ∨ τ = (protectDdosRequestCount limits σ ipGroup).2

theorem Counts.sameHandlers {limits : Limits} {σ τ : Server} {ipGroup : String}
    (h : Counts limits σ ipGroup τ) : SameHandlers σ τ := by
  rcases h with rfl | rfl
  · exact .refl _
  · exact .protect limits σ ipGroup

end Server

open Server in
/-- **A handler's step** is an update, a message passed on, a removal, or a move
and what it sends. -/
theorem handlerStep_cases {limits : Limits} {σ τ : Server} {id : Uuid} {h : Handler} {e : ServerEvent}
    (he : e.handler = some id) (hst : handlerStep limits σ id h e = some τ) :
    (∃ order message, e = .process id order ∧ h.recvTask = .accepted message ∧
        Iterates order (σ.room h.ipGroup) ∧ τ = σ.process id h order message) ∨
      (∃ order, e = .remove id order ∧ h.phase = .closing ∧
        Iterates order ((σ.room h.ipGroup).erase id) ∧ τ = σ.remove id h order) ∨
      ∃ σ' h' s, Counts limits σ h.ipGroup σ' ∧ HandlerMove id h e h' s ∧
        (σ'.setHandler id h').emit s = some τ := by
  have hmove : ∀ {h' : Handler} {s : Option (Uuid × WsServerMessage)}, HandlerMove id h e h' s →
      (σ.setHandler id h').emit s = some τ → ∃ σ' h' s, Counts limits σ h.ipGroup σ' ∧
        HandlerMove id h e h' s ∧ (σ'.setHandler id h').emit s = some τ :=
    fun hm hs => ⟨σ, _, _, .inl rfl, hm, hs⟩
  cases e with
  | connect | clearRequestCounts => exact nomatch he
  | send =>
    obtain rfl := Option.some.inj he
    simp only [handlerStep] at hst
    split at hst
    · exact nomatch hst
    · next hsends => exact .inr (.inr (hmove (.send hsends) hst))
  | hello =>
    obtain rfl := Option.some.inj he
    simp only [handlerStep] at hst
    split at hst
    · next hphase =>
      split_ifs at hst with hsends
      exact .inr (.inr (hmove (.hello hphase hsends) hst))
    · exact nomatch hst
  | recvSend =>
    obtain rfl := Option.some.inj he
    simp only [handlerStep] at hst
    split at hst
    · exact nomatch hst
    · next hnext => exact .inr (.inr (hmove (.recvSend hnext) hst))
  | spawn =>
    obtain rfl := Option.some.inj he
    simp only [handlerStep, Option.ite_none_right_eq_some] at hst
    exact .inr (.inr (hmove (.spawn hst.1) hst.2))
  | deliver =>
    obtain rfl := Option.some.inj he
    simp only [handlerStep] at hst
    split at hst
    · next htask hqueue => exact .inr (.inr (hmove (.deliver htask hqueue) hst))
    · exact nomatch hst
  | message _ message =>
    obtain rfl := Option.some.inj he
    have hcounts : Counts limits σ h.ipGroup (protectDdosRequestCount limits σ h.ipGroup).2 := .inr rfl
    simp only [handlerStep] at hst
    split_ifs at hst with htask
    split at hst
    · next heq =>
      rw [heq] at hcounts
      exact .inr (.inr ⟨_, _, _, hcounts, .message htask (.inl rfl), hst⟩)
    · next heq =>
      rw [heq] at hcounts
      exact .inr (.inr ⟨_, _, _, hcounts, .message htask (.inr rfl), hst⟩)
  | process _ order =>
    obtain rfl := Option.some.inj he
    simp only [handlerStep] at hst
    split at hst
    · next message htask =>
      split_ifs at hst with hiter
      exact .inl ⟨order, message, rfl, htask, hiter, (Option.some.inj hst).symm⟩
    · exact nomatch hst
  | clientGone =>
    obtain rfl := Option.some.inj he
    simp only [handlerStep, Option.ite_none_right_eq_some] at hst
    exact .inr (.inr (hmove (.clientGone hst.1) hst.2))
  | sinkFailed =>
    obtain rfl := Option.some.inj he
    simp only [handlerStep, Option.ite_none_right_eq_some] at hst
    exact .inr (.inr (hmove (.sinkFailed hst.1) hst.2))
  | close =>
    obtain rfl := Option.some.inj he
    simp only [handlerStep, Option.ite_none_right_eq_some] at hst
    exact .inr (.inr (hmove (.close hst.1.1) hst.2))
  | sendAborted =>
    obtain rfl := Option.some.inj he
    simp only [handlerStep, Option.ite_none_right_eq_some] at hst
    exact .inr (.inr (hmove (.sendAborted hst.1.1) hst.2))
  | recvAborted =>
    obtain rfl := Option.some.inj he
    simp only [handlerStep, Option.ite_none_right_eq_some] at hst
    exact .inr (.inr (hmove (.recvAborted hst.1) hst.2))
  | remove _ order =>
    obtain rfl := Option.some.inj he
    simp only [handlerStep, Option.ite_none_right_eq_some, Option.some.injEq] at hst
    exact .inr (.inl ⟨order, rfl, hst.1.1, hst.1.2, hst.2.symm⟩)

/-- The part of a handler the rooms hold. -/
structure Handler.SameEntry (h h' : Handler) : Prop where
  ipGroup : h'.ipGroup = h.ipGroup
  announced : h'.announced = h.announced
  live : h'.Live ↔ h.Live

theorem Handler.SameEntry.move {id : Uuid} {h h' : Handler} {e : ServerEvent}
    {s : Option (Uuid × WsServerMessage)} (hm : HandlerMove id h e h' s) : Handler.SameEntry h h' := by
  cases hm with
  | hello hphase | spawn hphase | close hphase => exact ⟨rfl, rfl, by simp [Handler.Live, hphase]⟩
  | _ => exact ⟨rfl, rfl, Iff.rfl⟩

/-- **The reading task's next send** is the first it has left, or the error it ends on. -/
theorem nextSend_cases {id : Uuid} {task task' : RecvTask} {s : Uuid × WsServerMessage}
    (h : Server.nextSend id task = some (s, task')) :
    (∃ rest, task = .sending (s :: rest) ∧ task' = if rest = [] then .idle else .sending rest) ∨
      (task = .refused ∧ s = (id, .error 429) ∧ task' = .over) := by
  match task, h with
  | .sending [_], h =>
    obtain ⟨rfl, rfl⟩ := Prod.mk.inj (Option.some.inj h)
    exact .inl ⟨[], rfl, rfl⟩
  | .sending (_ :: second :: rest), h =>
    obtain ⟨rfl, rfl⟩ := Prod.mk.inj (Option.some.inj h)
    exact .inl ⟨second :: rest, rfl, rfl⟩
  | .refused, h =>
    obtain ⟨rfl, rfl⟩ := Prod.mk.inj (Option.some.inj h)
    exact .inr ⟨rfl, rfl, rfl⟩

/-! ### What holds of a handler -/

/-- The tasks and the sends of a handler fit its phase. -/
structure Handler.Sound (id : Uuid) (h : Handler) : Prop where
  /-- The queue is not emptied before the tasks start. -/
  notStarted : h.sendTask = .notStarted ↔ h.Starting
  quiet : h.Starting → h.recvTask = .over
  bounded : h.queue.length ≤ channelCapacity
  fanOut : h.sends ≠ [] → h.phase.Connecting ∨ h.phase = .leaving
  joins : h.phase.Connecting → ∀ s ∈ h.sends, s.2 = .join (.of h.announced id)
  lefts : h.phase = .leaving → ∀ s ∈ h.sends, s.2 = .left id
  updates : ∀ sends, h.recvTask = .sending sends → ∀ s ∈ sends,
    s.2 = .update (.of h.announced id) ∨ (∃ m, s.2 = .offer m) ∨ ∃ m, s.2 = .answer m

/-- The tasks of a handler that serves or closes were started. -/
theorem Handler.Sound.started {id : Uuid} {h : Handler} (hs : h.Sound id)
    (hphase : h.phase = .serving ∨ h.phase = .closing) : h.sendTask ≠ .notStarted := by
  rw [Ne, hs.notStarted]
  rcases hphase with hphase | hphase <;> simp [Handler.Starting, Phase.Connecting, hphase]

/-- A handler sends while it announces itself and while it leaves. -/
theorem Handler.Sound.noSends {id : Uuid} {h : Handler} (hs : h.Sound id) (hc : ¬ h.phase.Connecting)
    (hl : h.phase ≠ .leaving) : h.sends = [] := by
  by_contra hne
  exact (hs.fanOut hne).elim hc hl

/-- How one handler goes on: it keeps its place, and it does not start over. -/
structure Handler.Follows (id : Uuid) (h h' : Handler) : Prop where
  born : h'.born = h.born
  ipGroup : h'.ipGroup = h.ipGroup
  connecting : h'.phase.Connecting → h'.phase = h.phase ∧ h'.sends ⊆ h.sends
  sound : h.Sound id → h'.Sound id

namespace Handler.Follows
variable {id : Uuid} {h h' h'' : Handler}

theorem refl (id : Uuid) (h : Handler) : h.Follows id h := ⟨rfl, rfl, fun _ => ⟨rfl, List.Subset.refl _⟩, fun hs => hs⟩

theorem trans (hf : Handler.Follows id h h') (hf' : Handler.Follows id h' h'') : Handler.Follows id h h'' where
  born := hf'.born.trans hf.born
  ipGroup := hf'.ipGroup.trans hf.ipGroup
  connecting hc := by
    obtain ⟨hphase, hsub⟩ := hf'.connecting hc
    obtain ⟨hphase', hsub'⟩ := hf.connecting (hphase ▸ hc)
    exact ⟨hphase.trans hphase', List.Subset.trans hsub hsub'⟩
  sound hs := hf'.sound (hf.sound hs)

/-- A message more in the queue. -/
theorem queued (hroom : h.queue.length < channelCapacity) (message : WsServerMessage) :
    Handler.Follows id h {h with queue := h.queue ++ [message]} where
  born := rfl
  ipGroup := rfl
  connecting _ := ⟨rfl, List.Subset.refl _⟩
  sound hs := {hs with
    bounded := by
      rw [List.length_append, List.length_singleton]
      omega}

/-- A move is a way of going on. -/
theorem move {e : ServerEvent} {s : Option (Uuid × WsServerMessage)} (hm : HandlerMove id h e h' s) :
    Handler.Follows id h h' := by
  cases hm with
  | @send s rest hsends =>
    refine ⟨rfl, rfl, fun _ => ⟨rfl, ?_⟩, fun hs => {hs with fanOut := ?_, joins := ?_, lefts := ?_}⟩
    · rw [hsends]
      exact List.subset_cons_self s rest
    · exact fun _ => hs.fanOut (by simp [hsends])
    · exact fun hc s' hs' => hs.joins hc s' (by simp [hsends, hs'])
    · exact fun hl s' hs' => hs.lefts hl s' (by simp [hsends, hs'])
  | hello hphase hsends =>
    have hstarting : h.Starting := .inl (Phase.connecting_iff.mpr ⟨_, hphase⟩)
    refine ⟨rfl, rfl, fun hc => hc.elim, fun hs => {hs with
      notStarted := iff_of_true (hs.notStarted.mpr hstarting) (.inr rfl)
      quiet := fun _ => hs.quiet hstarting
      fanOut := fun hne => absurd hsends hne
      joins := fun hc => hc.elim
      lefts := fun hl => nomatch hl}⟩
  | @recvSend s task hnext =>
    refine ⟨rfl, rfl, fun _ => ⟨rfl, List.Subset.refl _⟩, fun hs => {hs with quiet := ?_, updates := ?_}⟩
    · intro hstarting
      rw [hs.quiet hstarting] at hnext
      exact nomatch hnext
    · rcases nextSend_cases hnext with ⟨rest, htask, rfl⟩ | ⟨_, _, rfl⟩
      · intro sends hsends s' hs'
        split at hsends
        · exact nomatch hsends
        · obtain rfl := RecvTask.sending.inj hsends
          exact hs.updates _ htask s' (List.mem_cons_of_mem s hs')
      · exact fun _ h => nomatch h
  | spawn hphase =>
    refine ⟨rfl, rfl, fun hc => hc.elim, fun hs => ?_⟩
    have hsends : h.sends = [] := hs.noSends (by simp [hphase, Phase.connecting_iff]) (by simp [hphase])
    exact {
      notStarted := by simp [Handler.Starting, Phase.connecting_iff]
      quiet := by simp [Handler.Starting, Phase.connecting_iff]
      bounded := hs.bounded
      fanOut := fun hne => absurd hsends hne
      joins := fun hc => hc.elim
      lefts := fun hl => nomatch hl
      updates := fun _ h => nomatch h}
  | @deliver message rest htask hqueue =>
    refine ⟨rfl, rfl, fun _ => ⟨rfl, List.Subset.refl _⟩, fun hs => {hs with bounded := ?_}⟩
    have := hs.bounded
    rw [hqueue, List.length_cons] at this
    exact Nat.le_of_succ_le this
  | message htask hnext =>
    refine ⟨rfl, rfl, fun _ => ⟨rfl, List.Subset.refl _⟩, fun hs => {hs with quiet := ?_, updates := ?_}⟩
    · exact fun hstarting => nomatch htask.symm.trans (hs.quiet hstarting)
    · rcases hnext with rfl | rfl <;> exact fun _ h => nomatch h
  | clientGone =>
    exact ⟨rfl, rfl, fun _ => ⟨rfl, List.Subset.refl _⟩, fun hs => {hs with
      quiet := fun _ => rfl
      updates := fun _ h => nomatch h}⟩
  | recvAborted =>
    exact ⟨rfl, rfl, fun _ => ⟨rfl, List.Subset.refl _⟩, fun hs => {hs with
      quiet := fun _ => rfl
      updates := fun _ h => nomatch h}⟩
  | sinkFailed htask =>
    refine ⟨rfl, rfl, fun _ => ⟨rfl, List.Subset.refl _⟩, fun hs => {hs with
      notStarted := iff_of_false (fun h => nomatch h) fun hstarting => ?_}⟩
    exact nomatch htask.symm.trans (hs.notStarted.mpr hstarting)
  | sendAborted htask =>
    refine ⟨rfl, rfl, fun _ => ⟨rfl, List.Subset.refl _⟩, fun hs => {hs with
      notStarted := iff_of_false (fun h => nomatch h) fun hstarting => ?_}⟩
    exact nomatch htask.symm.trans (hs.notStarted.mpr hstarting)
  | close hphase =>
    refine ⟨rfl, rfl, fun hc => hc.elim, fun hs => ?_⟩
    have hsends : h.sends = [] := hs.noSends (by simp [hphase, Phase.connecting_iff]) (by simp [hphase])
    have htask := hs.started (.inl hphase)
    exact {hs with
      notStarted := by simp [Handler.Starting, Phase.Connecting, htask]
      quiet := by simp [Handler.Starting, Phase.connecting_iff]
      fanOut := fun hne => absurd hsends hne
      joins := fun hc => hc.elim
      lefts := fun hl => nomatch hl}

/-- Acting on a message: what it announces, and what it has the task send. -/
theorem act {message : WsClientMessage} (htask : h.recvTask = .accepted message) {info : ClientInfoWithoutId}
    {task : RecvTask} (hsends : ∀ sends, task = .sending sends → ∀ s ∈ sends,
      s.2 = .update (.of info id) ∨ (∃ m, s.2 = .offer m) ∨ ∃ m, s.2 = .answer m) :
    Handler.Follows id h {h with announced := info, recvTask := task} := by
  refine ⟨rfl, rfl, fun _ => ⟨rfl, List.Subset.refl _⟩, fun hs => ?_⟩
  have hstarted : ¬ h.Starting := fun hstarting => nomatch htask.symm.trans (hs.quiet hstarting)
  exact {hs with
    quiet := fun hstarting => absurd hstarting hstarted
    joins := fun hc => absurd (.inl hc) hstarted
    updates := hsends}

/-- Leaving: what it still sends. -/
theorem leave (hphase : h.phase = .closing) {sends : List (Uuid × WsServerMessage)}
    (hsends : ∀ s ∈ sends, s.2 = .left id) :
    Handler.Follows id h {h with phase := .leaving, sends := sends} := by
  refine ⟨rfl, rfl, fun hc => hc.elim, fun hs => ?_⟩
  have htask := hs.started (.inr hphase)
  exact {hs with
    notStarted := by simp [Handler.Starting, Phase.Connecting, htask]
    quiet := by simp [Handler.Starting, Phase.connecting_iff]
    fanOut := fun _ => .inr rfl
    joins := fun hc => hc.elim
    lefts := fun _ => hsends}

end Handler.Follows

end MagicShare.Ws
