import MagicShare.Ws.Tracking

/-! Whether the handlers of the signaling server can go on.

A queue holds four messages, and a handler that announces itself sends its own
`Hello` to a queue nothing empties yet. While that queue has room every handler has
a way on: the handlers it waits for come before it, so the earliest can always
start (`Server.Roomy.starts`). Once others have filled the queue the handler waits
for itself, and in every run from there it stays where it is (`Server.Crowded.run`). -/
namespace MagicShare.Ws
open Documents

namespace Server

/-- Where the send of an event goes to. -/
def sendsTo (σ : Server) (e : ServerEvent) : Option Uuid := (σ.sending e).map Prod.fst

/-- A handler has come to the send of the event and waits for it to go through. -/
def Waits (σ : Server) : ServerEvent → Prop
  | .hello id => ∃ h, σ.handlers id = some h ∧ h.phase.Connecting ∧ h.sends = []
  | e => (σ.sendsTo e).isSome

end Server

/-- What the server does by itself while sockets take frames. -/
def ServerEvent.Inner : ServerEvent → Prop
  | .send _ | .hello _ | .spawn _ | .deliver _ | .recvSend _ => True
  | _ => False

namespace Server

/-- The server can get from one state to the other by itself. -/
def Reaches (limits : Limits) (σ τ : Server) : Prop :=
  ∃ events, (∀ e ∈ events, ServerEvent.Inner e) ∧ (signaling limits).run σ events = some τ

/-- No handler is blocked for good: every send that a handler waits for can still go
through, and every connecting handler can still come to start its tasks. -/
structure Progresses (limits : Limits) (σ : Server) : Prop where
  sends : ∀ e, σ.Waits e → ∃ τ, Reaches limits σ τ ∧ ((signaling limits).step τ e).isSome
  starts : ∀ id h, σ.handlers id = some h → h.phase.Connecting →
    ∃ τ h', Reaches limits σ τ ∧ τ.handlers id = some h' ∧ h'.phase = .serving

/-- A handler whose own `Hello` no longer fits. -/
def Crowded (σ : Server) (id : Uuid) : Prop :=
  ∃ h, σ.handlers id = some h ∧ h.phase.Connecting ∧ channelCapacity ≤ h.queue.length

/-- Every connecting handler has room for its `Hello`. -/
def Roomy (σ : Server) : Prop := ∀ id, ¬ σ.Crowded id

/-- A send to a handler that is still connecting leaves room for its `Hello`. -/
def LeavesRoom (σ : Server) (e : ServerEvent) : Prop :=
  ∀ target t, σ.sendsTo e = some target → σ.handlers target = some t → t.phase.Connecting →
    t.queue.length + 1 < channelCapacity

/-- What sends nothing leaves room. -/
theorem leavesRoom_of_none {σ : Server} {e : ServerEvent} (h : σ.sendsTo e = none) : LeavesRoom σ e := by
  intro target t hto
  rw [h] at hto
  cases hto

/-! ### A full queue -/

/-- A move takes nothing out of the queue of a connecting handler. -/
theorem move_connecting {id : Uuid} {h h' : Handler} {e : ServerEvent}
    {s : Option (Uuid × WsServerMessage)} (hm : HandlerMove id h e h' s) (hs : h.Sound id)
    (hc : h'.phase.Connecting) : h.phase.Connecting ∧ h'.queue = h.queue := by
  have hphase := ((Handler.Follows.move hm).connecting hc).1
  rw [hphase] at hc
  refine ⟨hc, ?_⟩
  cases hm with
  | deliver htask => exact nomatch htask.symm.trans (hs.notStarted.mpr (.inl hc))
  | _ => rfl

variable {limits : Limits} {σ σ' τ : Server}

/-- The send of a move is the one its event stands for; a `Hello` goes to the
handler that has just queued it. -/
theorem sendsTo_move {id : Uuid} {h h' : Handler} {e : ServerEvent} {s : Option (Uuid × WsServerMessage)}
    (hh : σ.handlers id = some h) (hm : HandlerMove id h e h' s) :
    (σ.sendsTo e = s.map Prod.fst ∧ (s ≠ none → h'.phase = h.phase ∧ h'.queue = h.queue)) ∨
      (σ.sendsTo e = none ∧ ∃ m, s = some (id, m) ∧ h'.phase = .greeted) := by
  cases hm with
  | send hsends => exact .inl ⟨by simp [sendsTo, sending, hh, hsends], fun _ => ⟨rfl, rfl⟩⟩
  | hello => exact .inr ⟨rfl, _, rfl, rfl⟩
  | recvSend hnext => exact .inl ⟨by simp [sendsTo, sending, hh, hnext], fun _ => ⟨rfl, rfl⟩⟩
  | _ => exact .inl ⟨rfl, fun hne => absurd rfl hne⟩

/-- **A full queue of a connecting handler stays as it is**: nothing empties it, and
the `Hello` that would end the announcement does not fit. -/
theorem Crowded.step {id : Uuid} {e : ServerEvent} (hw : Wired σ) (h : σ.Crowded id)
    (hst : (signaling limits).step σ e = some τ) : τ.Crowded id := by
  obtain ⟨k, hk, hc, hfull⟩ := h
  have hsound := hw.sound id k hk
  have hkeep : τ.handlers id = some k → τ.Crowded id := fun heq => ⟨k, heq, hc, hfull⟩
  have hquiet : k.recvTask = .over := hsound.quiet (.inl hc)
  rcases signaling_cases hst with
    ⟨id', ipGroup, info, order, rfl, hnone, _, rfl⟩ | ⟨rfl, rfl⟩ | ⟨id', h, he, hh, hst⟩
  · have hne : id ≠ id' := by
      rintro rfl
      exact absurd (hnone.symm.trans hk) (by simp)
    apply hkeep
    rcases handlers_connect limits σ id' ipGroup info order with heq | heq
    · rw [heq, hk]
    · rw [heq, if_neg hne, hk]
  · exact hkeep hk
  rcases handlerStep_cases he hst with
    ⟨order, message, rfl, htask, _, rfl⟩ | ⟨order, rfl, hphase, _, rfl⟩ | ⟨σ', h', s, hcounts, hm, hemit⟩
  · have hne : id ≠ id' := by
      rintro rfl
      obtain rfl := Option.some.inj (hh.symm.trans hk)
      exact absurd (hquiet.symm.trans htask) (by simp)
    obtain ⟨info, task, hhandlers⟩ := handlers_process σ id' h order message
    exact hkeep (by rw [hhandlers, if_neg hne, hk])
  · have hne : id ≠ id' := by
      rintro rfl
      obtain rfl := Option.some.inj (hh.symm.trans hk)
      exact absurd hc (by simp [hphase, Phase.connecting_iff])
    obtain ⟨sends, hhandlers, _⟩ := handlers_remove σ id' h order
    exact hkeep (by rw [hhandlers, if_neg hne, hk])
  -- A send to the full queue does not go through, so the handlers are those of the move.
  have hpush : (σ'.setHandler id' h').Crowded id → τ.Crowded id := by
    rintro ⟨k', hk', hc', hfull'⟩
    cases s with
    | none => exact Option.some.inj hemit ▸ ⟨k', hk', hc', hfull'⟩
    | some s =>
      rcases push_cases hemit with ⟨rfl, _⟩ | ⟨t, ht, _, hroom, rfl⟩
      · exact ⟨k', hk', hc', hfull'⟩
      · have hne : id ≠ s.1 := by
          rintro rfl
          obtain rfl := Option.some.inj (hk'.symm.trans ht)
          omega
        exact ⟨k', by rw [handlers_setHandler, if_neg hne, hk'], hc', hfull'⟩
  by_cases heq : id = id'
  · subst heq
    obtain rfl := Option.some.inj (hh.symm.trans hk)
    cases hm with
    | hello hphase hsends =>
      -- The handler waits for itself.
      rcases push_cases hemit with ⟨_, hdropped⟩ | ⟨t, ht, _, hroom, _⟩
      · exact absurd (hdropped _ (handlers_setHandler_self ..)) (hw.not_dropped hk hc :)
      · obtain rfl := Option.some.inj ((handlers_setHandler_self ..).symm.trans ht)
        exact absurd hroom (Nat.not_lt.mpr hfull)
    | send hsends => exact hpush ⟨_, handlers_setHandler_self .., hc, hfull⟩
    | recvSend hnext =>
      rw [hquiet] at hnext
      exact absurd hnext (by simp [nextSend])
    | spawn hphase | close hphase => exact absurd hc (by simp [hphase, Phase.connecting_iff])
    | deliver htask | sinkFailed htask | sendAborted htask =>
      exact absurd (htask.symm.trans (hsound.notStarted.mpr (.inl hc))) (by simp)
    | message htask | clientGone htask => exact absurd (htask.symm.trans hquiet) (by simp)
    | recvAborted hphase => exact absurd hc (by rcases hphase with hp | hp <;> simp [hp, Phase.connecting_iff])
  · exact hpush ⟨k, by rw [handlers_setHandler, if_neg heq, hcounts.sameHandlers.handlers, hk], hc, hfull⟩

theorem Crowded.run {id : Uuid} {events : List ServerEvent} (hw : Wired σ) (h : σ.Crowded id)
    (hrun : (signaling limits).run σ events = some τ) : τ.Crowded id := by
  have hinv : ∀ σ e τ, (Wired σ ∧ σ.Crowded id) → (signaling limits).step σ e = some τ →
      Wired τ ∧ τ.Crowded id := fun _ _ _ h hst => ⟨h.1.step hst, h.2.step h.1 hst⟩
  exact (Transition.System.run_invariant hinv ⟨hw, h⟩ hrun).2

/-- **Nobody can start a handler that waits for itself.** -/
theorem Crowded.blocked {id : Uuid} (hw : Wired σ) (h : σ.Crowded id) : ¬ Progresses limits σ := by
  intro hp
  obtain ⟨k, hk, hc, hfull⟩ := h
  obtain ⟨τ, k', ⟨events, _, hrun⟩, hk', hserving⟩ := hp.starts id k hk hc
  obtain ⟨k'', hk'', hc'', _⟩ := Crowded.run hw ⟨k, hk, hc, hfull⟩ hrun
  obtain rfl := Option.some.inj (hk'.symm.trans hk'')
  simp [hserving, Phase.connecting_iff] at hc''

/-! ### Room for the `Hello` -/

/-- Handlers as they were, or further on, crowd nobody. -/
theorem Roomy.of_handlers (h : Roomy σ) (hτ : ∀ id k', τ.handlers id = some k' → k'.phase.Connecting →
    k'.queue = [] ∨ ∃ k, σ.handlers id = some k ∧ k.phase.Connecting ∧ k'.queue = k.queue) : Roomy τ := by
  rintro id ⟨k', hk', hc', hfull⟩
  rcases hτ id k' hk' hc' with hempty | ⟨k, hk, hc, hqueue⟩
  · rw [hempty] at hfull
    exact absurd hfull (by simp [channelCapacity])
  · exact h id ⟨k, hk, hc, hqueue ▸ hfull⟩

theorem Roomy.setHandler (h : Roomy σ) {id : Uuid} {k k' : Handler} (hk : σ.handlers id = some k)
    (hhandlers : ∀ id', τ.handlers id' = if id' = id then some k' else σ.handlers id')
    (hkeep : k'.phase.Connecting → k.phase.Connecting ∧ k'.queue = k.queue) : Roomy τ := by
  refine h.of_handlers fun id' l hl hc => .inr ?_
  rw [hhandlers] at hl
  split at hl
  · next heq =>
    obtain rfl := Option.some.inj hl
    exact ⟨k, heq ▸ hk, hkeep hc⟩
  · exact ⟨l, hl, hc, rfl⟩

/-- **A send crowds nobody exactly when it leaves room**, if its target is still
connecting. -/
theorem Roomy.push_iff (h : Roomy σ) {target : Uuid} {message : WsServerMessage}
    (hst : σ.push target message = some τ) (hkept : ∀ t, σ.handlers target = some t →
      t.phase.Connecting → t.sendTask ≠ .dropped) :
    Roomy τ ↔ ∀ t, σ.handlers target = some t → t.phase.Connecting →
      t.queue.length + 1 < channelCapacity := by
  rcases push_cases hst with ⟨rfl, hdropped⟩ | ⟨t, ht, _, _, rfl⟩
  · exact iff_of_true h fun t ht hc => absurd (hdropped t ht) (hkept t ht hc)
  · constructor
    · intro hr t' ht' hc
      obtain rfl := Option.some.inj (ht.symm.trans ht')
      by_contra hfull
      refine hr target ⟨_, handlers_setHandler_self .., hc, ?_⟩
      rw [List.length_append, List.length_singleton]
      omega
    · rintro hroom id ⟨k, hk, hc, hfull⟩
      rw [handlers_setHandler] at hk
      split at hk
      · obtain rfl := Option.some.inj hk
        have hlt := hroom t ht hc
        rw [List.length_append, List.length_singleton] at hfull
        omega
      · exact h id ⟨k, hk, hc, hfull⟩

/-- **A step keeps room for every `Hello`** exactly when its send leaves room. -/
theorem Roomy.step_iff (hw : Wired σ) (h : Roomy σ) {e : ServerEvent}
    (hst : (signaling limits).step σ e = some τ) : Roomy τ ↔ LeavesRoom σ e := by
  rcases signaling_cases hst with
    ⟨id', ipGroup, info, order, rfl, hnone, _, rfl⟩ | ⟨rfl, rfl⟩ | ⟨id', k, he, hk, hst⟩
  · refine iff_of_true (h.of_handlers fun id l hl hc => ?_) (leavesRoom_of_none rfl)
    rcases handlers_connect limits σ id' ipGroup info order with heq | heq
    · exact .inr ⟨l, heq ▸ hl, hc, rfl⟩
    · rw [heq] at hl
      split at hl
      · exact .inl (Option.some.inj hl ▸ rfl)
      · exact .inr ⟨l, hl, hc, rfl⟩
  · exact iff_of_true h (leavesRoom_of_none rfl)
  rcases handlerStep_cases he hst with
    ⟨order, message, rfl, htask, _, rfl⟩ | ⟨order, rfl, hphase, _, rfl⟩ | ⟨σ', k', s, hcounts, hm, hemit⟩
  · obtain ⟨info, task, hhandlers⟩ := handlers_process σ id' k order message
    refine iff_of_true (h.setHandler hk hhandlers fun hc => ⟨hc, rfl⟩) (leavesRoom_of_none rfl)
  · obtain ⟨sends, hhandlers, _⟩ := handlers_remove σ id' k order
    exact iff_of_true (h.setHandler hk hhandlers fun hc => hc.elim) (leavesRoom_of_none rfl)
  have hhandlers : ∀ id, (σ'.setHandler id' k').handlers id = if id = id' then some k' else σ.handlers id := by
    intro id
    rw [handlers_setHandler, hcounts.sameHandlers.handlers]
  have hmove := move_connecting hm (hw.sound id' k hk)
  have hr : Roomy (σ'.setHandler id' k') := h.setHandler hk hhandlers hmove
  have hsends := sendsTo_move hk hm
  cases s with
  | none =>
    refine iff_of_true (Option.some.inj hemit ▸ hr) (leavesRoom_of_none ?_)
    rcases hsends with ⟨heq, _⟩ | ⟨heq, _⟩ <;> exact heq
  | some s =>
    have hkept : ∀ t, (σ'.setHandler id' k').handlers s.1 = some t → t.phase.Connecting → t.sendTask ≠ .dropped := by
      intro t ht hc
      rw [hhandlers] at ht
      split at ht
      · obtain rfl := Option.some.inj ht
        have hsound := (Handler.Follows.move hm).sound (hw.sound id' k hk)
        rw [hsound.notStarted.mpr (.inl hc)]
        exact fun h => nomatch h
      · exact hw.not_dropped ht hc
    refine (hr.push_iff hemit hkept).trans ?_
    rcases hsends with ⟨hto, hsame⟩ | ⟨hto, m, hs, hgreeted⟩
    · obtain ⟨hphase, hqueue⟩ := hsame (Option.some_ne_none s)
      -- The handler's own queue is as long as before.
      have htarget : ∀ P : Phase → List WsServerMessage → Prop,
          (∀ t, (σ'.setHandler id' k').handlers s.1 = some t → P t.phase t.queue) ↔
            ∀ t, σ.handlers s.1 = some t → P t.phase t.queue := by
        intro P
        rw [hhandlers]
        split
        · next heq => simp [heq, hk, hphase, hqueue]
        · rfl
      rw [htarget fun phase queue => phase.Connecting → queue.length + 1 < channelCapacity]
      simp only [LeavesRoom, hto, Option.map_some, Option.some.injEq]
      exact ⟨fun hroom target t heq => heq ▸ hroom t, fun hroom t => hroom s.1 t rfl⟩
    · refine iff_of_true (fun t ht hc => ?_) (leavesRoom_of_none hto)
      rw [Option.some.inj hs, hhandlers, if_pos rfl] at ht
      rw [← Option.some.inj ht, hgreeted] at hc
      exact hc.elim

/-! ### The way on -/

theorem Reaches.refl (limits : Limits) (σ : Server) : Reaches limits σ σ :=
  ⟨[], fun _ h => absurd h List.not_mem_nil, rfl⟩

theorem Reaches.step {e : ServerEvent} (he : e.Inner) (hst : (signaling limits).step σ e = some τ) :
    Reaches limits σ τ := by
  refine ⟨[e], fun e' h => List.mem_singleton.mp h ▸ he, ?_⟩
  rw [Transition.System.run_cons, hst]
  rfl

theorem Reaches.trans {υ : Server} (h : Reaches limits σ τ) (h' : Reaches limits τ υ) : Reaches limits σ υ := by
  obtain ⟨events, hinner, hrun⟩ := h
  obtain ⟨events', hinner', hrun'⟩ := h'
  refine ⟨events ++ events', fun e he => ?_, ?_⟩
  · exact (List.mem_append.mp he).elim (hinner e) (hinner' e)
  · rw [Transition.System.run_append, hrun]
    exact hrun'

/-- A way on that handlers registered after the `n`th take no part in, and that
keeps room for every `Hello`. -/
structure Advances (limits : Limits) (n : Nat) (σ τ : Server) : Prop where
  reaches : Reaches limits σ τ
  wired : Wired τ
  roomy : Roomy τ
  later : ∀ id k, σ.handlers id = some k → n < k.born → τ.handlers id = some k

theorem Advances.refl (n : Nat) (hw : Wired σ) (h : Roomy σ) : Advances limits n σ σ :=
  ⟨.refl limits σ, hw, h, fun _ _ hk _ => hk⟩

theorem Advances.trans {n m : Nat} {υ : Server} (h : Advances limits n σ τ) (h' : Advances limits m τ υ)
    (hle : n ≤ m) : Advances limits m σ υ where
  reaches := h.reaches.trans h'.reaches
  wired := h'.wired
  roomy := h'.roomy
  later id k hk hlt := h'.later id k (h.later id k hk (by omega)) hlt

theorem Advances.mono {n m : Nat} (h : Advances limits n σ τ) (hle : n ≤ m) : Advances limits m σ τ :=
  {h with later := fun id k hk hlt => h.later id k hk (by omega)}

/-- One step, of a handler and on a handler that came no later. -/
theorem Advances.step {n : Nat} {e : ServerEvent} (hw : Wired σ) (h : Roomy σ)
    (hst : (signaling limits).step σ e = some τ) (he : e.Inner) (hroom : LeavesRoom σ e)
    (hlater : ∀ id k, σ.handlers id = some k → n < k.born → τ.handlers id = some k) :
    Advances limits n σ τ :=
  ⟨.step he hst, hw.step hst, (h.step_iff hw hst).mpr hroom, hlater⟩

/-- Neither full nor gone. -/
def Accepts (σ : Server) (target : Uuid) : Prop :=
  ∀ t, σ.handlers target = some t → t.sendTask = .dropped ∨ t.queue.length < channelCapacity

theorem Accepts.of_none {target : Uuid} (h : σ.handlers target = none) : σ.Accepts target :=
  fun _ ht => nomatch h.symm.trans ht

/-- Room for the `Hello`. -/
theorem Roomy.accepts_connecting (h : Roomy σ) {id : Uuid} {k : Handler} (hk : σ.handlers id = some k)
    (hc : k.phase.Connecting) : σ.Accepts id := by
  intro t ht
  obtain rfl := Option.some.inj (hk.symm.trans ht)
  exact .inr (Nat.lt_of_not_le fun hfull => h id ⟨k, hk, hc, hfull⟩)

/-- A send goes through when its target accepts it. -/
theorem Accepts.push {target : Uuid} (h : σ.Accepts target) (message : WsServerMessage) :
    (σ.push target message).isSome := by
  unfold Server.push
  cases ht : σ.handlers target with
  | none => rfl
  | some t =>
    dsimp only
    split_ifs with hdropped hroom
    · rfl
    · rfl
    · exact absurd (h t ht) (by simp [hdropped, hroom])

/-- The sender moves on; the queues are as they were. -/
theorem Accepts.setHandler {target id : Uuid} {k k' : Handler} (h : σ.Accepts target)
    (hk : σ.handlers id = some k) (htask : k'.sendTask = k.sendTask) (hqueue : k'.queue = k.queue) :
    (σ.setHandler id k').Accepts target := by
  intro t ht
  rw [handlers_setHandler] at ht
  split at ht
  · next heq =>
    obtain rfl := Option.some.inj ht
    rw [htask, hqueue]
    exact h k (heq ▸ hk)
  · exact h t ht

theorem step_handler {e : ServerEvent} {id : Uuid} {h : Handler} (he : e.handler = some id)
    (hh : σ.handlers id = some h) : (signaling limits).step σ e = handlerStep limits σ id h e := by
  cases e with
  | connect | clearRequestCounts => exact nomatch he
  | _ =>
    obtain rfl := Option.some.inj he
    simp [signaling, ServerEvent.handler, hh]

/-- A running task takes a message off a full queue. -/
theorem Roomy.delivers (limits : Limits) (hw : Wired σ) (h : Roomy σ) {target : Uuid} {t : Handler}
    (ht : σ.handlers target = some t) (htask : t.sendTask = .running) (hfull : channelCapacity ≤ t.queue.length) :
    ∃ τ rest received, Advances limits t.born σ τ ∧ Accepts τ target ∧
      τ = σ.setHandler target {t with queue := rest, received := received} := by
  cases hqueue : t.queue with
  | nil =>
    rw [hqueue] at hfull
    exact absurd hfull (by simp [channelCapacity])
  | cons message rest =>
    have hst : (signaling limits).step σ (.deliver target) = some (σ.setHandler target {t with
        queue := rest, received := t.received ++ [message]}) := by
      rw [step_handler rfl ht]
      simp only [handlerStep, htask, hqueue]
    refine ⟨_, rest, _, .step hw h hst trivial (leavesRoom_of_none rfl) ?_, ?_, rfl⟩
    · intro id k hk hlt
      have hne : id ≠ target := by
        rintro rfl
        obtain rfl := Option.some.inj (ht.symm.trans hk)
        omega
      rw [handlers_setHandler, if_neg hne, hk]
    · intro t' ht'
      obtain rfl := Option.some.inj ((handlers_setHandler_self ..).symm.trans ht')
      have hbound := (hw.sound target t ht).bounded
      rw [hqueue, List.length_cons] at hbound
      exact .inr hbound

/-- A handler that has queued its `Hello` starts its tasks. -/
theorem Roomy.spawns (limits : Limits) (hw : Wired σ) (h : Roomy σ) {id : Uuid} {k : Handler} (hk : σ.handlers id = some k)
    (hphase : k.phase = .greeted) : Advances limits k.born σ (σ.setHandler id {k with
      phase := .serving, sendTask := .running, recvTask := .idle}) := by
  have hst : (signaling limits).step σ (.spawn id) = some (σ.setHandler id {k with
      phase := .serving, sendTask := .running, recvTask := .idle}) := by
    rw [step_handler rfl hk]
    simp only [handlerStep, hphase, if_true]
  refine .step hw h hst trivial (leavesRoom_of_none rfl) fun id' k' hk' hlt => ?_
  have hne : id' ≠ id := by
    rintro rfl
    obtain rfl := Option.some.inj (hk.symm.trans hk')
    omega
  rw [handlers_setHandler, if_neg hne, hk']

/-- **Every queue can be drained while every `Hello` has room**: the handler's own
sends are as before, and so is what its reading task was sending. -/
theorem Roomy.drains (limits : Limits) (hw : Wired σ) (h : Roomy σ) {target : Uuid} {t : Handler}
    (ht : σ.handlers target = some t) :
    ∃ τ t', Advances limits t.born σ τ ∧ Accepts τ target ∧ t'.sends = t.sends ∧
      (t'.phase.Connecting → t.phase.Connecting) ∧ (¬ t.Starting → t'.recvTask = t.recvTask) ∧
      ∀ id, τ.handlers id = if id = target then some t' else σ.handlers id := by
  have hkeep : ∀ id, σ.handlers id = if id = target then some t else σ.handlers id := by
    intro id
    split
    · next heq => rw [heq, ht]
    · rfl
  by_cases hroom : t.sendTask = .dropped ∨ t.queue.length < channelCapacity
  · refine ⟨σ, t, .refl _ hw h, fun t' ht' => ?_, rfl, id, fun _ => rfl, hkeep⟩
    exact Option.some.inj (ht.symm.trans ht') ▸ hroom
  push Not at hroom
  obtain ⟨hnot, hfull⟩ := hroom
  have hsound := hw.sound target t ht
  cases htask : t.sendTask with
  | dropped => exact absurd htask hnot
  | running =>
    obtain ⟨τ, rest, received, hadv, haccepts, rfl⟩ := h.delivers limits hw ht htask hfull
    exact ⟨_, {t with queue := rest, received := received}, hadv, haccepts, rfl, id, fun _ => rfl,
      fun id' => handlers_setHandler ..⟩
  | notStarted =>
    -- Its `Hello` is queued, or the queue would not be full.
    have hstarting := hsound.notStarted.mp htask
    have hphase : t.phase = .greeted :=
      hstarting.resolve_left fun hc => h target ⟨t, ht, hc, hfull⟩
    have hspawn := h.spawns limits hw ht hphase
    obtain ⟨τ, rest, received, hadv, haccepts, rfl⟩ :=
      hspawn.roomy.delivers limits hspawn.wired (handlers_setHandler_self ..) rfl hfull
    refine ⟨_, {t with
        phase := .serving, sendTask := .running, recvTask := .idle, queue := rest, received := received},
      hspawn.trans hadv le_rfl, haccepts, rfl, fun hc => hc.elim, absurd hstarting, fun id => ?_⟩
    simp only [handlers_setHandler]
    split <;> rfl

/-- The target of a send can come to accept it, with the sends of all as they were. -/
theorem Roomy.accepts (limits : Limits) (hw : Wired σ) (h : Roomy σ) (target : Uuid) :
    ∃ τ, Reaches limits σ τ ∧ Accepts τ target ∧ ∀ id k, σ.handlers id = some k →
      ∃ k', τ.handlers id = some k' ∧ k'.sends = k.sends ∧ (¬ k.Starting → k'.recvTask = k.recvTask) := by
  cases ht : σ.handlers target with
  | none =>
    exact ⟨σ, .refl limits σ, .of_none ht, fun id k hk => ⟨k, hk, rfl, fun _ => rfl⟩⟩
  | some t =>
    obtain ⟨τ, t', hadv, haccepts, hsends, _, hrecv, hτ⟩ := h.drains limits hw ht
    refine ⟨τ, hadv.reaches, haccepts, fun id k hk => ?_⟩
    rw [hτ]
    split
    · next heq =>
      obtain rfl := Option.some.inj (ht.symm.trans (heq ▸ hk))
      exact ⟨t', rfl, hsends, hrecv⟩
    · exact ⟨k, hk, rfl, fun _ => rfl⟩

/-- **While every `Hello` has room, every send can go through.** -/
theorem Roomy.sends (limits : Limits) (hw : Wired σ) (h : Roomy σ) {e : ServerEvent} (he : σ.Waits e) :
    ∃ τ, Reaches limits σ τ ∧ ((signaling limits).step τ e).isSome := by
  cases e with
  | hello id =>
    obtain ⟨k, hk, hc, hsends⟩ := he
    obtain ⟨peers, hphase⟩ := Phase.connecting_iff.mp hc
    refine ⟨σ, .refl limits σ, ?_⟩
    rw [step_handler rfl hk]
    simp only [handlerStep, hphase, hsends, if_true]
    refine Accepts.push ?_ _
    exact (h.accepts_connecting hk hc).setHandler hk rfl rfl
  | send id =>
    obtain ⟨target, hto⟩ := Option.isSome_iff_exists.mp he
    obtain ⟨s, hsending, rfl⟩ := Option.map_eq_some_iff.mp hto
    obtain ⟨k, hk, hhead⟩ := Option.bind_eq_some_iff.mp hsending
    obtain ⟨rest, hsends⟩ := List.head?_eq_some_iff.mp hhead
    obtain ⟨τ, hreach, haccepts, hkeep⟩ := h.accepts limits hw s.1
    obtain ⟨k', hk', hsends', _⟩ := hkeep id k hk
    refine ⟨τ, hreach, ?_⟩
    rw [step_handler rfl hk']
    simp only [handlerStep, hsends'.trans hsends]
    refine Accepts.push ?_ _
    exact haccepts.setHandler hk' rfl rfl
  | recvSend id =>
    obtain ⟨target, hto⟩ := Option.isSome_iff_exists.mp he
    obtain ⟨s, hsending, rfl⟩ := Option.map_eq_some_iff.mp hto
    obtain ⟨k, hk, hmap⟩ := Option.bind_eq_some_iff.mp hsending
    obtain ⟨⟨s, task⟩, hnext, rfl⟩ := Option.map_eq_some_iff.mp hmap
    obtain ⟨τ, hreach, haccepts, hkeep⟩ := h.accepts limits hw s.1
    obtain ⟨k', hk', _, hrecv⟩ := hkeep id k hk
    have hstarted : ¬ k.Starting := by
      intro hstarting
      rw [(hw.sound id k hk).quiet hstarting] at hnext
      exact absurd hnext (by simp [nextSend])
    refine ⟨τ, hreach, ?_⟩
    rw [step_handler rfl hk']
    simp only [handlerStep, hrecv hstarted, hnext]
    refine Accepts.push ?_ _
    exact haccepts.setHandler hk' rfl rfl
  | _ => exact absurd he (by simp [Waits, sendsTo, sending])

/-- The handlers a send leaves alone. -/
theorem push_other {target id : Uuid} {message : WsServerMessage} (hst : σ.push target message = some τ)
    (hne : id ≠ target) : τ.handlers id = σ.handlers id := by
  rcases push_cases hst with ⟨rfl, _⟩ | ⟨t, _, _, _, rfl⟩
  · rfl
  · rw [handlers_setHandler, if_neg hne]

/-- Every connecting handler of the `n`th registration can start its tasks. -/
def Starts (limits : Limits) (n : Nat) : Prop :=
  ∀ σ, Wired σ → Roomy σ → ∀ id k, σ.handlers id = some k → k.phase.Connecting → k.born = n →
    ∃ τ k', Advances limits n σ τ ∧ τ.handlers id = some k' ∧ k'.phase = .serving

/-- **A `Join` gets through** once the handlers that came before can start. -/
theorem Roomy.joins {n : Nat} (ih : ∀ m < n, Starts limits m) (hw : Wired σ) (h : Roomy σ) {id : Uuid}
    {k : Handler} (hk : σ.handlers id = some k) (hc : k.phase.Connecting) (hborn : k.born = n)
    {s : Uuid × WsServerMessage} {rest : List (Uuid × WsServerMessage)} (hsends : k.sends = s :: rest) :
    ∃ τ, Advances limits n σ τ ∧ τ.handlers id = some {k with sends := rest} := by
  have hmem : s ∈ k.sends := hsends ▸ List.mem_cons_self
  -- First its target starts, if it is still connecting itself.
  have hstarted : ∃ τ t, Advances limits n σ τ ∧ τ.handlers id = some k ∧ τ.handlers s.1 = some t ∧
      ¬ t.phase.Connecting := by
    obtain ⟨t, ht, hlt⟩ := hw.earlier id k hk hc s hmem
    by_cases htc : t.phase.Connecting
    · obtain ⟨τ, t', hadv, ht', hserving⟩ := ih t.born (hborn ▸ hlt) σ hw h s.1 t ht htc rfl
      exact ⟨τ, t', hadv.mono (by omega), hadv.later id k hk hlt, ht',
        by simp [hserving, Phase.connecting_iff]⟩
    · exact ⟨σ, t, .refl n hw h, hk, ht, htc⟩
  obtain ⟨σ₁, t, hadv₁, hk₁, ht₁, htc₁⟩ := hstarted
  -- Then its queue is drained, and the `Join` goes in.
  obtain ⟨u, hu, hlt⟩ := hadv₁.wired.earlier id k hk₁ hc s hmem
  obtain rfl := Option.some.inj (ht₁.symm.trans hu)
  obtain ⟨σ₂, t₂, hadv₂, haccepts, _, htc₂, _, hσ₂⟩ := hadv₁.roomy.drains limits hadv₁.wired ht₁
  have hk₂ : σ₂.handlers id = some k := hadv₂.later id k hk₁ hlt
  have ht₂ : σ₂.handlers s.1 = some t₂ := by rw [hσ₂, if_pos rfl]
  have hne : id ≠ s.1 := by
    rintro rfl
    obtain rfl := Option.some.inj (hk₁.symm.trans ht₁)
    omega
  have hst : (signaling limits).step σ₂ (.send id) =
      (σ₂.setHandler id {k with sends := rest}).push s.1 s.2 := by
    rw [step_handler rfl hk₂]
    simp only [handlerStep, hsends]
  have hpush : ((σ₂.setHandler id {k with sends := rest}).push s.1 s.2).isSome := by
    refine Accepts.push ?_ _
    exact haccepts.setHandler hk₂ rfl rfl
  obtain ⟨τ, hτ⟩ := Option.isSome_iff_exists.mp hpush
  have hother : ∀ id', id' ≠ id → id' ≠ s.1 → τ.handlers id' = σ₂.handlers id' := fun id' h h' => by
    rw [push_other hτ h', handlers_setHandler, if_neg h]
  have hadv : Advances limits n σ₂ τ := by
    refine .step hadv₂.wired hadv₂.roomy (hst.trans hτ) trivial (fun target u hto hu hcu => ?_) fun id' l hl hlt' => ?_
    · have : target = s.1 := by simpa [sendsTo, sending, hk₂, hsends] using hto.symm
      obtain rfl := Option.some.inj (ht₂.symm.trans (this ▸ hu))
      exact absurd (htc₂ hcu) htc₁
    · rw [hother id', hl]
      · rintro rfl
        obtain rfl := Option.some.inj (hk₂.symm.trans hl)
        omega
      · rintro rfl
        have := hadv₂.wired.earlier id k hk₂ hc s hmem
        obtain ⟨u, hu, hlt⟩ := this
        obtain rfl := Option.some.inj (hl.symm.trans hu)
        omega
  refine ⟨τ, (hadv₁.trans (hadv₂.mono (by omega)) le_rfl).trans hadv le_rfl, ?_⟩
  rw [push_other hτ hne, handlers_setHandler_self]

/-- The announcement gets to its end, by induction on what is left of it. -/
theorem Roomy.announces {n : Nat} (ih : ∀ m < n, Starts limits m) (hw : Wired σ) (h : Roomy σ) {id : Uuid}
    {k : Handler} (hk : σ.handlers id = some k) (hc : k.phase.Connecting) (hborn : k.born = n) :
    ∃ τ, Advances limits n σ τ ∧ τ.handlers id = some {k with sends := []} := by
  generalize hsends : k.sends = sends
  induction sends generalizing σ k with
  | nil => exact ⟨σ, .refl n hw h, by rw [hk, ← hsends]⟩
  | cons s rest ihs =>
    obtain ⟨τ, hadv, hτ⟩ := h.joins ih hw hk hc hborn hsends
    obtain ⟨υ, hadv', hυ⟩ := ihs hadv.wired hadv.roomy hτ hc hborn rfl
    exact ⟨υ, hadv.trans hadv' le_rfl, hυ⟩

/-- **While every `Hello` has room, every connecting handler can start its tasks**:
the induction is on the order in which the handlers came. -/
theorem starts (limits : Limits) (n : Nat) : Starts limits n := by
  induction n using Nat.strong_induction_on with
  | _ n ih =>
    intro σ hw h id k hk hc hborn
    obtain ⟨σ₁, hadv₁, hk₁⟩ := h.announces ih hw hk hc hborn
    obtain ⟨peers, hphase⟩ := Phase.connecting_iff.mp hc
    -- Its `Hello` has room, and nothing else is in the way.
    have hst : (signaling limits).step σ₁ (.hello id) =
        (σ₁.setHandler id {k with sends := [], phase := .greeted}).push id (.hello k.peer peers) := by
      rw [step_handler rfl hk₁]
      simp only [handlerStep, hphase, if_true]
    have hpush : ((σ₁.setHandler id {k with sends := [], phase := .greeted}).push id
        (.hello k.peer peers)).isSome := by
      refine Accepts.push ?_ _
      exact (hadv₁.roomy.accepts_connecting hk₁ hc).setHandler hk₁ rfl rfl
    obtain ⟨σ₂, hσ₂⟩ := Option.isSome_iff_exists.mp hpush
    have hadv₂ : Advances limits n σ₁ σ₂ := by
      refine .step hadv₁.wired hadv₁.roomy (hst.trans hσ₂) trivial (leavesRoom_of_none rfl) fun id' l hl hlt => ?_
      have hne : id' ≠ id := by
        rintro rfl
        obtain rfl := Option.some.inj (hk₁.symm.trans hl)
        exact absurd hborn (Nat.ne_of_gt hlt)
      rw [push_other hσ₂ hne, handlers_setHandler, if_neg hne, hl]
    obtain ⟨k₂, hk₂, hphase₂, hborn₂⟩ : ∃ k₂, σ₂.handlers id = some k₂ ∧ k₂.phase = .greeted ∧ k₂.born = n := by
      rcases push_cases hσ₂ with ⟨rfl, _⟩ | ⟨t, ht, _, _, rfl⟩
      · exact ⟨_, handlers_setHandler_self .., rfl, hborn⟩
      · obtain rfl := Option.some.inj ((handlers_setHandler_self ..).symm.trans ht)
        exact ⟨_, handlers_setHandler_self .., rfl, hborn⟩
    have hadv₃ := hadv₂.roomy.spawns limits hadv₂.wired hk₂ hphase₂
    exact ⟨_, _, (hadv₁.trans hadv₂ le_rfl).trans (hadv₃.mono hborn₂.le) le_rfl, handlers_setHandler_self .., rfl⟩

/-- **Handlers can go on exactly while every `Hello` has room.** -/
theorem progresses_iff (hw : Wired σ) : Progresses limits σ ↔ Roomy σ := by
  constructor
  · exact fun hp id hcrowded => hcrowded.blocked hw hp
  · refine fun h => ⟨fun e he => h.sends limits hw he, fun id k hk hc => ?_⟩
    obtain ⟨τ, k', hadv, hk', hserving⟩ := starts limits k.born σ hw h id k hk hc rfl
    exact ⟨τ, k', hadv.reaches, hk', hserving⟩

theorem Roomy.init : Roomy {} := fun _ ⟨_, hk, _⟩ => nomatch hk

end Server

/-- **No handler is blocked for good in any state of a run** exactly when every
send of the run to a connecting handler leaves room for its `Hello`. -/
theorem progresses_iff_leaves_room (limits : Limits) (events : List ServerEvent) :
    (signaling limits).Along (Server.Progresses limits) {} events ↔
      (signaling limits).Meets Server.LeavesRoom {} events := by
  have hroomy : (signaling limits).Along (Server.Progresses limits) {} events ↔
      (signaling limits).Along (fun σ => σ.Wired ∧ σ.Roomy) {} events := by
    refine Transition.System.along_congr_of_invariant Server.Wired (fun _ _ _ hw => hw.step)
      (fun σ hw => ?_) .init
    rw [Server.progresses_iff hw, and_iff_right hw]
  refine hroomy.trans (Transition.System.along_iff_meets (fun σ e τ h hst => ?_) ⟨.init, .init⟩)
  rw [and_iff_right (h.1.step hst), h.2.step_iff h.1 hst]

/-- A client connects, and before its handler has queued the `Hello` four more
connect and announce themselves. -/
def fourJoins : List ServerEvent := [
  .connect ⟨1⟩ "203.0.113.5" phone [], .connect ⟨2⟩ "203.0.113.5" phone [⟨1⟩],
  .connect ⟨3⟩ "203.0.113.5" phone [⟨1⟩, ⟨2⟩], .connect ⟨4⟩ "203.0.113.5" phone [⟨1⟩, ⟨2⟩, ⟨3⟩],
  .connect ⟨5⟩ "203.0.113.5" phone [⟨1⟩, ⟨2⟩, ⟨3⟩, ⟨4⟩],
  .send ⟨2⟩, .send ⟨3⟩, .send ⟨4⟩, .send ⟨5⟩]

/-- The first handler waits for its own queue, and nothing gets it out. -/
theorem four_joins_block : ¬ (signaling ⟨10, 1000⟩).Along (Server.Progresses ⟨10, 1000⟩) {} fourJoins := by
  intro h
  have hfull : ((signaling ⟨10, 1000⟩).run {} fourJoins).map (fun σ =>
      (σ.handlers ⟨1⟩).map fun k => (k.phase, k.queue.length)) = some (some (.connecting [], 4)) := by decide
  obtain ⟨σ, hrun, hσ⟩ := Option.map_eq_some_iff.mp hfull
  obtain ⟨k, hk, hqueue⟩ := Option.map_eq_some_iff.mp hσ
  obtain ⟨hphase, hlength⟩ := Prod.mk.inj hqueue
  have hcrowded : σ.Crowded ⟨1⟩ :=
    ⟨k, hk, by rw [hphase]; trivial, by rw [hlength]; exact le_rfl⟩
  rw [← List.append_nil fourJoins] at h
  exact hcrowded.blocked (Server.Wired.init.run hrun) (h.reached hrun)

end MagicShare.Ws
