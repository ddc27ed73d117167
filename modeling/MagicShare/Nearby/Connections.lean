import MagicShare.Base.Records
import MagicShare.Base.Transition
import MagicShare.Nearby.Signaling

/-! The connections to the signaling servers (`SetupSignalingConnection`).

A setup starts an action for every server that is not connected. The action generates a
key, connects, and only then is the server listed as connected; until then another setup
starts another action. Whichever of the two ends first takes the server off the list, and
this device's identities with it. Along a run each server has one connection, is listed
while it is established, and keeps its identities exactly if no setup is dispatched while
an action for an unconnected server is under way (`oneConnection_iff`). -/
namespace MagicShare.Nearby
open Transition

/-- Where a `_SetupSignalingConnection` is. -/
inductive ConnectionPhase where
  | generatingKey
  | connecting
  /-- `onConnection` has been called. -/
  | established
  | ended
  deriving DecidableEq

structure ConnectionAction where
  signalingServer : String
  phase : ConnectionPhase
  /-- The identities its server has given to this device. Nothing reads them. -/
  identities : List String
  deriving DecidableEq

def ConnectionAction.Running (a : ConnectionAction) : Prop := a.phase ≠ .ended

theorem ConnectionAction.Running.of_phase {a : ConnectionAction} {phase : ConnectionPhase} (h : a.phase = phase)
    (hphase : phase ≠ .ended) : a.Running := by
  rw [Running, h]
  exact hphase

structure ConnectionsState where
  signaling : SignalingState
  /-- An action is known by its index. -/
  actions : List ConnectionAction

inductive ConnectionEvent where
  | setup
  /-- `generateKeyPair` throws; the action has not reached its `try` yet. -/
  | keyFailed (action : Nat)
  | keyGenerated (action : Nat)
  | onConnection (action : Nat)
  | hello (action : Nat) (signalingId serverToken : String)
  /-- The stream ends or fails, also before the connection is there. -/
  | streamEnded (action : Nat)

namespace ConnectionsState
variable (σ : ConnectionsState)

/-- The servers that `SetupSignalingConnection` does not pass over. -/
def unconnected : List String :=
  σ.signaling.signalingServers.filter fun server => (Dict.get σ.signaling.connections server).isNone

def setAction (i : Nat) (a : ConnectionAction) : ConnectionsState := { σ with actions := σ.actions.set i a }

def step : ConnectionEvent → Option ConnectionsState
  | .setup => some { σ with actions := σ.actions ++ σ.unconnected.map fun server => ⟨server, .generatingKey, []⟩ }
  | .keyFailed i => do
    let a ← σ.actions[i]?
    guard (a.phase = .generatingKey)
    return σ.setAction i { a with phase := .ended }
  | .keyGenerated i => do
    let a ← σ.actions[i]?
    guard (a.phase = .generatingKey)
    return σ.setAction i { a with phase := .connecting }
  | .onConnection i => do
    let a ← σ.actions[i]?
    guard (a.phase = .connecting)
    let σ := σ.setAction i { a with phase := .established, identities := [] }
    return { σ with signaling := σ.signaling.setConnection a.signalingServer i }
  | .hello i signalingId serverToken => do
    let a ← σ.actions[i]?
    guard (a.phase = .established)
    let σ := σ.setAction i { a with identities := a.identities ++ [signalingId, serverToken] }
    return { σ with signaling := σ.signaling.registerLocalIdentity a.signalingServer signalingId serverToken }
  | .streamEnded i => do
    let a ← σ.actions[i]?
    guard (a.phase = .connecting ∨ a.phase = .established)
    let σ := σ.setAction i { a with phase := .ended }
    return { σ with signaling := σ.signaling.removeConnection a.signalingServer }

end ConnectionsState

def connections (signalingServers : List String) : System ConnectionsState ConnectionEvent where
  init := ⟨⟨signalingServers, [], []⟩, []⟩
  step := ConnectionsState.step

/-- Each server has one connection at most. -/
structure OneConnection (σ : ConnectionsState) : Prop where
  running : ∀ (i j : Nat) (a b : ConnectionAction), σ.actions[i]? = some a → σ.actions[j]? = some b →
    a.Running → b.Running → a.signalingServer = b.signalingServer → i = j
  /-- A server is listed, with its connection, exactly while that is established. -/
  listed : ∀ (server : String) (i : Nat), Dict.get σ.signaling.connections server = some i ↔
    ∃ a, σ.actions[i]? = some a ∧ a.phase = .established ∧ a.signalingServer = server
  /-- Of an established connection, no identity is dropped. -/
  identities : ∀ a ∈ σ.actions, a.phase = .established →
    ∀ x ∈ a.identities, x ∈ σ.signaling.identitiesOf a.signalingServer

/-- A setup starts one action for a server, and none has one under way already. -/
def SetupAlone (σ : ConnectionsState) : ConnectionEvent → Prop
  | .setup => σ.unconnected.Nodup ∧ ∀ a ∈ σ.actions, a.Running → a.signalingServer ∉ σ.unconnected
  | _ => True

/-! ### One event of an action -/

/-- The server of an action that has not connected yet is not listed. -/
theorem OneConnection.unlisted {σ : ConnectionsState} (h : OneConnection σ) {i : Nat} {a : ConnectionAction}
    (ha : σ.actions[i]? = some a) (hrunning : a.Running) (hphase : a.phase ≠ .established) :
    Dict.get σ.signaling.connections a.signalingServer = none := by
  cases hget : Dict.get σ.signaling.connections a.signalingServer with
  | none => rfl
  | some j =>
    obtain ⟨b, hb, hestablished, hserver⟩ := (h.listed _ _).mp hget
    have hb' : b.Running := .of_phase hestablished (by decide)
    obtain rfl := h.running j i b a hb ha hb' hrunning hserver
    rw [hb, Option.some_inj] at ha
    exact absurd (ha ▸ hestablished) hphase

/-- A running action moves on; the provider lists its server exactly if it is established
then, and keeps the identities of the other servers. -/
theorem OneConnection.moved {σ : ConnectionsState} (h : OneConnection σ) {i : Nat} {a b : ConnectionAction}
    (ha : σ.actions[i]? = some a) (hrunning : a.Running) (hserver : b.signalingServer = a.signalingServer)
    {signaling : SignalingState}
    (hlisted : ∀ server, Dict.get signaling.connections server =
      if server = a.signalingServer then (if b.phase = .established then some i else none)
      else Dict.get σ.signaling.connections server)
    (hself : b.phase = .established → ∀ x ∈ b.identities, x ∈ signaling.identitiesOf a.signalingServer)
    (hothers : ∀ server, server ≠ a.signalingServer →
      ∀ x ∈ σ.signaling.identitiesOf server, x ∈ signaling.identitiesOf server) :
    OneConnection ⟨signaling, σ.actions.set i b⟩ := by
  have hset : (σ.actions.set i b)[i]? = some b := Records.set_self ha
  have hmem : ∀ {j : Nat} {c : ConnectionAction}, (σ.actions.set i b)[j]? = some c → c.Running →
      ∃ d, σ.actions[j]? = some d ∧ d.Running ∧ d.signalingServer = c.signalingServer := by
    intro j c hc hrun
    obtain ⟨rfl, rfl⟩ | ⟨-, hc⟩ := Records.of_set hc
    · exact ⟨a, ha, hrunning, hserver.symm⟩
    · exact ⟨c, hc, hrun, rfl⟩
  -- another action of the same server is not running
  have hother : ∀ {j : Nat} {c : ConnectionAction}, j ≠ i → σ.actions[j]? = some c → c.Running → c.signalingServer ≠ a.signalingServer :=
    fun hji hc hrun hs => hji (h.running _ _ _ _ hc ha hrun hrunning hs)
  refine ⟨fun j k c d hc hd hcr hdr hs => ?_, fun server j => ?_, fun c hc hphase x hx => ?_⟩
  · obtain ⟨c', hc', hcr', hcs⟩ := hmem hc hcr
    obtain ⟨d', hd', hdr', hds⟩ := hmem hd hdr
    exact h.running j k c' d' hc' hd' hcr' hdr' (hcs.trans (hs.trans hds.symm))
  · rw [hlisted]
    by_cases hs : server = a.signalingServer
    · rw [if_pos hs]
      constructor
      · intro hj
        split at hj
        · rename_i hphase
          obtain rfl := Option.some_inj.mp hj
          exact ⟨b, hset, hphase, hserver.trans hs.symm⟩
        · cases hj
      · rintro ⟨c, hc, hphase, hcs⟩
        obtain ⟨rfl, rfl⟩ | ⟨hji, hc⟩ := Records.of_set hc
        · rw [if_pos hphase]
        · exact absurd (hcs.trans hs) (hother hji hc (.of_phase hphase (by decide)))
    · rw [if_neg hs, h.listed]
      constructor
      · rintro ⟨c, hc, hphase, hcs⟩
        have hji : j ≠ i := by
          rintro rfl
          rw [ha, Option.some_inj] at hc
          exact hs (hc ▸ hcs.symm)
        exact ⟨c, by rwa [List.getElem?_set_ne (Ne.symm hji)], hphase, hcs⟩
      · rintro ⟨c, hc, hphase, hcs⟩
        obtain ⟨rfl, rfl⟩ | ⟨-, hc⟩ := Records.of_set hc
        · exact absurd (hcs.symm.trans hserver) hs
        · exact ⟨c, hc, hphase, hcs⟩
  · obtain ⟨j, hj⟩ := List.mem_iff_getElem?.mp hc
    obtain ⟨rfl, rfl⟩ | ⟨hji, hj⟩ := Records.of_set hj
    · rw [hserver]
      exact hself hphase x hx
    · have hs := hother hji hj (.of_phase hphase (by decide))
      exact hothers _ hs x (h.identities c (List.mem_of_getElem? hj) hphase x hx)

/-- Nothing but a setup makes a second connection. -/
theorem OneConnection.step {σ τ : ConnectionsState} (h : OneConnection σ) {e : ConnectionEvent} (he : e ≠ .setup)
    (hstep : σ.step e = some τ) : OneConnection τ := by
  cases e with
  | setup => exact absurd rfl he
  | keyFailed i =>
    obtain ⟨a, ha, hphase, rfl⟩ := guarded_eq_some.mp hstep
    have hrunning : a.Running := .of_phase hphase (by decide)
    have hunlisted := h.unlisted ha hrunning (by simp [hphase])
    refine h.moved (b := { a with phase := .ended }) ha hrunning rfl (fun server => ?_) (fun hp => by cases hp)
      fun _ _ _ hx => hx
    by_cases hs : server = a.signalingServer <;> simp [hs, hunlisted]
  | keyGenerated i =>
    obtain ⟨a, ha, hphase, rfl⟩ := guarded_eq_some.mp hstep
    have hrunning : a.Running := .of_phase hphase (by decide)
    have hunlisted := h.unlisted ha hrunning (by simp [hphase])
    refine h.moved (b := { a with phase := .connecting }) ha hrunning rfl (fun server => ?_) (fun hp => by cases hp)
      fun _ _ _ hx => hx
    by_cases hs : server = a.signalingServer <;> simp [hs, hunlisted]
  | onConnection i =>
    obtain ⟨a, ha, hphase, rfl⟩ := guarded_eq_some.mp hstep
    have hrunning : a.Running := .of_phase hphase (by decide)
    refine h.moved (b := { a with phase := .established, identities := [] }) ha hrunning rfl (fun server => ?_)
      (fun _ x hx => (List.not_mem_nil hx).elim) fun _ _ _ hx => hx
    show Dict.get (Dict.put σ.signaling.connections a.signalingServer i) server = _
    rw [Dict.get_put]
    simp
  | hello i id token =>
    obtain ⟨a, ha, hphase, rfl⟩ := guarded_eq_some.mp hstep
    have hrunning : a.Running := .of_phase hphase (by decide)
    have hlisted := (h.listed a.signalingServer i).mpr ⟨a, ha, hphase, rfl⟩
    refine h.moved (b := { a with identities := a.identities ++ [id, token] }) ha hrunning rfl (fun server => ?_)
      (fun _ x hx => ?_) fun server _ x hx => SignalingState.mem_identitiesOf_register.mpr (.inl hx)
    · show Dict.get σ.signaling.connections server = _
      by_cases hs : server = a.signalingServer <;> simp [hs, hphase, hlisted]
    · refine SignalingState.mem_identitiesOf_register.mpr ?_
      rcases List.mem_append.mp hx with hx | hx
      · exact .inl (h.identities a (List.mem_of_getElem? ha) hphase x hx)
      · exact .inr ⟨rfl, by simpa using hx⟩
  | streamEnded i =>
    obtain ⟨a, ha, hphase, rfl⟩ := guarded_eq_some.mp hstep
    have hrunning : a.Running := by
      rcases hphase with hp | hp
      · exact .of_phase hp (by decide)
      · exact .of_phase hp (by decide)
    refine h.moved (b := { a with phase := .ended }) ha hrunning rfl (fun server => ?_) (fun hp => by cases hp)
      fun server hs x hx => ?_
    · show Dict.get (Dict.remove σ.signaling.connections a.signalingServer) server = _
      rw [Dict.get_remove]
      simp
    · rw [SignalingState.identitiesOf_remove, if_neg hs]
      exact hx

/-! ### A setup -/

/-- The actions after a setup: the old ones, and one for each place among the unconnected servers. -/
theorem setup_getElem? {σ : ConnectionsState} {j : Nat} {c : ConnectionAction}
    (hc : (σ.actions ++ σ.unconnected.map fun server => (⟨server, .generatingKey, []⟩ : ConnectionAction))[j]? = some c) :
    σ.actions[j]? = some c ∨
      ∃ k server, j = σ.actions.length + k ∧ σ.unconnected[k]? = some server ∧ c = ⟨server, .generatingKey, []⟩ := by
  rw [List.getElem?_append] at hc
  split at hc
  · exact .inl hc
  · rename_i hj
    rw [List.getElem?_map] at hc
    obtain ⟨server, hserver, rfl⟩ := Option.map_eq_some_iff.mp hc
    exact .inr ⟨j - σ.actions.length, server, by omega, hserver, rfl⟩

theorem setup_new {σ : ConnectionsState} {k : Nat} {server : String} (h : σ.unconnected[k]? = some server) :
    (σ.actions ++ σ.unconnected.map fun server => (⟨server, .generatingKey, []⟩ : ConnectionAction))[
      σ.actions.length + k]? = some ⟨server, .generatingKey, []⟩ := by
  rw [List.getElem?_append_right (by omega), List.getElem?_map]
  simp [h]

theorem OneConnection.setup_iff {σ τ : ConnectionsState} (h : OneConnection σ) (hstep : σ.step .setup = some τ) :
    OneConnection τ ↔ SetupAlone σ .setup := by
  obtain rfl := Option.some_inj.mp hstep
  have hnew : ∀ server, (⟨server, .generatingKey, []⟩ : ConnectionAction).Running := fun _ => by simp [ConnectionAction.Running]
  constructor
  · intro hafter
    refine ⟨List.nodup_iff_getElem?_ne_getElem?.mpr fun k l hkl hl heq => ?_, fun a ha hrunning hserver => ?_⟩
    · -- a server that is listed twice gets two actions
      obtain ⟨server, hserver⟩ : ∃ server, σ.unconnected[l]? = some server := ⟨_, List.getElem?_eq_getElem hl⟩
      have := hafter.running _ _ _ _ (setup_new (heq.trans hserver)) (setup_new hserver) (hnew server)
        (hnew server) rfl
      omega
    · obtain ⟨i, hi⟩ := List.mem_iff_getElem?.mp ha
      obtain ⟨k, hk⟩ := List.mem_iff_getElem?.mp hserver
      have hlt := (List.getElem?_eq_some_iff.mp hi).1
      have := hafter.running _ _ _ _ (Records.append hi) (setup_new hk) hrunning (hnew _) rfl
      omega
  · rintro ⟨hnodup, halone⟩
    refine ⟨fun i j a b ha hb har hbr hs => ?_, fun server i => ?_, fun a ha hphase x hx => ?_⟩
    · obtain ha | ⟨k, server, rfl, hk, rfl⟩ := setup_getElem? ha <;>
        obtain hb | ⟨l, server', rfl, hl, rfl⟩ := setup_getElem? hb
      · exact h.running i j a b ha hb har hbr hs
      · exact absurd (hs ▸ List.mem_of_getElem? hl) (halone a (List.mem_of_getElem? ha) har)
      · exact absurd (hs ▸ List.mem_of_getElem? hk) (halone b (List.mem_of_getElem? hb) hbr)
      · have hlt := (List.getElem?_eq_some_iff.mp hk).1
        have hkl : k = l := (List.getElem?_inj hlt hnodup).mp (hk.trans ((congrArg some hs).trans hl.symm))
        rw [hkl]
    · rw [h.listed]
      constructor
      · rintro ⟨a, ha, hphase, hserver⟩
        exact ⟨a, Records.append ha, hphase, hserver⟩
      · rintro ⟨a, ha, hphase, hserver⟩
        obtain ha | ⟨k, server', -, -, rfl⟩ := setup_getElem? ha
        · exact ⟨a, ha, hphase, hserver⟩
        · cases hphase
    · rcases List.mem_append.mp ha with ha | ha
      · exact h.identities a ha hphase x hx
      · obtain ⟨server, -, rfl⟩ := List.mem_map.mp ha
        cases hphase

/-- Along every run each server has one connection, listed while it is established, and
keeps its identities, exactly if every setup finds no action under way for the servers
that are not connected. -/
theorem oneConnection_iff (signalingServers : List String) (events : List ConnectionEvent) :
    (connections signalingServers).Along OneConnection (connections signalingServers).init events ↔
      (connections signalingServers).Meets SetupAlone (connections signalingServers).init events := by
  have hinit : OneConnection (connections signalingServers).init := by
    refine ⟨fun i j a b ha => ?_, fun server i => ?_, fun a ha => (List.not_mem_nil ha).elim⟩
    · simp [connections] at ha
    · simp [connections, Dict.get]
  refine System.along_iff_meets (fun σ e τ h hstep => ?_) hinit
  by_cases he : e = .setup
  · subst he
    exact h.setup_iff hstep
  · refine iff_of_true (h.step he hstep) ?_
    cases e <;> first | exact absurd rfl he | trivial

/-- Two setups before the first connection is there: two actions run for the server. -/
theorem two_setups : ¬(connections ["s"]).Along OneConnection (connections ["s"]).init [.setup, .setup] := by
  intro h
  have hlast := (h.2 _ rfl).2 _ rfl
  have hsame : 0 = 1 := hlast.running 0 1 ⟨"s", .generatingKey, []⟩ ⟨"s", .generatingKey, []⟩ (by decide) (by decide)
    (.of_phase rfl (by decide)) (.of_phase rfl (by decide)) rfl
  exact absurd hsame (by decide)

end MagicShare.Nearby
