import MagicShare.Base.Transition
import MagicShare.Nearby.Signaling

/-! Which signaling peers are listed (`_SetupSignalingConnection`, the message loop).

Every message of a server becomes a few dispatches to the two providers. A peer should be
listed once, as it was last announced, and only while it is present. An `Update` may bring
a new token, but the peer is looked for under that token only; the end of a connection
removes the identities of this device, but not the peers. So along a run the peers are
listed as they should be exactly if none of this comes up (`peersListed_iff`). -/
namespace MagicShare.Nearby
open Transition

/-- The messages that concern the devices, and the end of the stream. -/
inductive Message where
  | hello (server : String) (client : ClientInfo) (peers : List ClientInfo)
  | join (server : String) (peer : ClientInfo)
  | update (server : String) (peer : ClientInfo)
  | left (server peerId : String)
  | ended (server : String)

/-- One dispatch of the message loop; `client` is this device, as the server sees it. -/
inductive Dispatch where
  | identity (server : String) (client : ClientInfo)
  | peerOf (server : String) (client peer : ClientInfo)
  | announced (server : String) (peer : ClientInfo)
  | left (peerId : String)
  | ended (server : String)

def Message.dispatches : Message → List Dispatch
  | hello server client peers => .identity server client :: peers.map (.peerOf server client)
  | join server peer => [.announced server peer]
  | update server peer => [.announced server peer]
  | left _ peerId => [.left peerId]
  | ended server => [.ended server]

structure PresenceState where
  signaling : SignalingState
  nearby : NearbyDevicesState
  /-- What was last announced of an id, and by which server, until the peer leaves or the
  connection ends. Nothing reads it. -/
  latest : String → Option (String × ClientInfo)

namespace PresenceState
variable (σ : PresenceState)

def announce (server : String) (peer : ClientInfo) : PresenceState :=
  { σ with latest := fun id => if id = peer.id then some (server, peer) else σ.latest id }

/-- `RegisterSignalingDeviceAction` with the identities of the server. -/
def register (server : String) (peer : ClientInfo) : PresenceState :=
  { σ with nearby :=
      σ.nearby.registerSignalingDevice (peer.toDevice server) (σ.signaling.identitiesOf server) }

def step : Dispatch → PresenceState
  | .identity server client =>
    { σ with signaling := σ.signaling.registerLocalIdentity server client.id client.token }
  | .peerOf server client peer =>
    -- the server occasionally echoes this device among its peers
    if peer.id = client.id ∨ peer.token = client.token then σ.announce server peer
    else (σ.announce server peer).register server peer
  | .announced server peer => (σ.announce server peer).register server peer
  | .left peerId =>
    { σ with
      nearby := σ.nearby.unregisterSignalingDevice peerId
      latest := fun id => if id = peerId then none else σ.latest id }
  | .ended server =>
    { σ with
      signaling := σ.signaling.removeConnection server
      latest := fun id => (σ.latest id).filter fun announced => announced.1 ≠ server }

end PresenceState

/-- The providers as the app starts, and what the messages do to them. -/
def presence (signalingServers : List String) (devices : List (String × Device)) : System PresenceState Dispatch where
  init := ⟨⟨signalingServers, [], []⟩, ⟨devices, []⟩, fun _ => none⟩
  step σ e := some (σ.step e)

/-- The peers are listed once, as they were last announced, and only while present. -/
structure PeersListed (σ : PresenceState) : Prop where
  nodup : ∀ token, (σ.nearby.groupOf token).Nodup
  /-- An id occurs in one device at most. -/
  once : ∀ id token token', ∀ d ∈ σ.nearby.groupOf token, ∀ d' ∈ σ.nearby.groupOf token',
    d.carries id = true → d'.carries id = true → token = token' ∧ d = d'
  /-- A device stands for what was last announced of its id, under the token announced,
  and the peer has not left nor has the connection ended. -/
  latest : ∀ token, ∀ d ∈ σ.nearby.groupOf token, ∃ server info,
    σ.latest info.id = some (server, info) ∧ d = info.toDevice server ∧ token = info.token
  /-- No device carries an identity that the server has given to this one. -/
  foreign : ∀ token, ∀ d ∈ σ.nearby.groupOf token, ∀ sig ∈ d.signalingEndpoints,
    sig.signalingId ∉ σ.signaling.identitiesOf sig.signalingServer ∧
      sig.serverToken ∉ σ.signaling.identitiesOf sig.signalingServer

/-- A peer that is announced is not listed, or is listed under the token that is announced
and is not this device. -/
def AnnouncedAgain (σ : PresenceState) (server : String) (peer : ClientInfo) : Prop :=
  ∀ token, ∀ d ∈ σ.nearby.groupOf token, d.carries peer.id = true →
    token = peer.token ∧ peer.id ∉ σ.signaling.identitiesOf server ∧ peer.token ∉ σ.signaling.identitiesOf server

/-- The condition on a dispatch. -/
def NothingStale (σ : PresenceState) : Dispatch → Prop
  /- No listed device of the server carries the identity that it gives to this one. -/
  | .identity server client => ∀ token, ∀ d ∈ σ.nearby.groupOf token, ∀ sig ∈ d.signalingEndpoints,
    sig.signalingServer = server → sig.signalingId ∉ [client.id, client.token] ∧
      sig.serverToken ∉ [client.id, client.token]
  | .peerOf server client peer =>
    if peer.id = client.id ∨ peer.token = client.token then
      ∀ token, ∀ d ∈ σ.nearby.groupOf token, d.carries peer.id = true →
        token = peer.token ∧ d = peer.toDevice server
    else AnnouncedAgain σ server peer
  | .announced server peer => AnnouncedAgain σ server peer
  | .left _ => True
  /- No device of the server is listed when its connection ends. -/
  | .ended server => ∀ token, ∀ d ∈ σ.nearby.groupOf token, ∀ sig ∈ d.signalingEndpoints,
    sig.signalingServer ≠ server

/-! ### One dispatch -/

/-- An announced device has one id, that of what was announced. -/
theorem once_of_latest {σ : PresenceState}
    (h : ∀ token, ∀ d ∈ σ.nearby.groupOf token, ∃ server info,
      σ.latest info.id = some (server, info) ∧ d = info.toDevice server ∧ token = info.token)
    (id token token' : String) (d : Device) (hd : d ∈ σ.nearby.groupOf token) (d' : Device)
    (hd' : d' ∈ σ.nearby.groupOf token') (hid : d.carries id = true) (hid' : d'.carries id = true) :
    token = token' ∧ d = d' := by
  obtain ⟨server, info, hlatest, rfl, rfl⟩ := h token d hd
  obtain ⟨server', info', hlatest', rfl, rfl⟩ := h token' d' hd'
  rw [carries_toDevice] at hid hid'
  rw [hid] at hlatest
  rw [hid', hlatest, Option.some_inj, Prod.mk.injEq] at hlatest'
  obtain ⟨rfl, rfl⟩ := hlatest'
  exact ⟨rfl, rfl⟩

theorem listed_identity {σ : PresenceState} (h : PeersListed σ) (server : String) (client : ClientInfo) :
    PeersListed (σ.step (.identity server client)) ↔ NothingStale σ (.identity server client) := by
  constructor
  · intro hafter token d hd sig hsig hserver
    obtain ⟨hid, htoken⟩ := hafter.foreign token d hd sig hsig
    have hnew : ∀ x, x ∈ [client.id, client.token] →
        x ∈ (σ.step (.identity server client)).signaling.identitiesOf sig.signalingServer := by
      intro x hx
      refine SignalingState.mem_identitiesOf_register.mpr (.inr ⟨hserver, ?_⟩)
      simpa using hx
    exact ⟨fun hx => hid (hnew _ hx), fun hx => htoken (hnew _ hx)⟩
  · intro hcond
    refine ⟨h.nodup, h.once, h.latest, fun token d hd sig hsig => ?_⟩
    obtain ⟨hid, htoken⟩ := h.foreign token d hd sig hsig
    have hold : ∀ x, x ∈ (σ.step (.identity server client)).signaling.identitiesOf sig.signalingServer →
        x ∉ σ.signaling.identitiesOf sig.signalingServer →
        sig.signalingServer = server ∧ x ∈ [client.id, client.token] := by
      intro x hx hnot
      obtain hx | ⟨hs, hx⟩ := SignalingState.mem_identitiesOf_register.mp hx
      · exact absurd hx hnot
      · exact ⟨hs, by simpa using hx⟩
    refine ⟨fun hx => ?_, fun hx => ?_⟩
    · obtain ⟨hs, hx⟩ := hold _ hx hid
      exact (hcond token d hd sig hsig hs).1 hx
    · obtain ⟨hs, hx⟩ := hold _ hx htoken
      exact (hcond token d hd sig hsig hs).2 hx

/-- What was announced of another id stays. -/
theorem latest_announce {σ : PresenceState} {server : String} {peer info : ClientInfo} (h : info.id ≠ peer.id) :
    (σ.announce server peer).latest info.id = σ.latest info.id := if_neg h

theorem latest_announce_self (σ : PresenceState) (server : String) (peer : ClientInfo) :
    (σ.announce server peer).latest peer.id = some (server, peer) := if_pos rfl

/-- An echo is not listed anew, so what is listed has to be what it says. -/
theorem listed_echo {σ : PresenceState} (h : PeersListed σ) (server : String) (peer : ClientInfo) :
    PeersListed (σ.announce server peer) ↔
      ∀ token, ∀ d ∈ σ.nearby.groupOf token, d.carries peer.id = true →
        token = peer.token ∧ d = peer.toDevice server := by
  constructor
  · intro hafter token d hd hid
    obtain ⟨server', info, hlatest, rfl, rfl⟩ := hafter.latest token d hd
    rw [carries_toDevice] at hid
    rw [hid, latest_announce_self, Option.some_inj, Prod.mk.injEq] at hlatest
    obtain ⟨rfl, rfl⟩ := hlatest
    exact ⟨rfl, rfl⟩
  · intro hcond
    refine ⟨h.nodup, h.once, fun token d hd => ?_, h.foreign⟩
    by_cases hid : d.carries peer.id = true
    · obtain ⟨rfl, rfl⟩ := hcond token d hd hid
      exact ⟨server, peer, latest_announce_self .., rfl, rfl⟩
    · obtain ⟨server', info, hlatest, rfl, rfl⟩ := h.latest token d hd
      rw [carries_toDevice] at hid
      exact ⟨server', info, (latest_announce hid).trans hlatest, rfl, rfl⟩

theorem listed_announced {σ : PresenceState} (h : PeersListed σ) (server : String) (peer : ClientInfo) :
    PeersListed ((σ.announce server peer).register server peer) ↔ AnnouncedAgain σ server peer := by
  by_cases hlocal : peer.id ∈ σ.signaling.identitiesOf server ∨ peer.token ∈ σ.signaling.identitiesOf server
  · -- this device: nothing is listed anew
    have hsame : (σ.announce server peer).register server peer = σ.announce server peer := by
      have hregister : σ.nearby.registerSignalingDevice (peer.toDevice server) (σ.signaling.identitiesOf server) =
          σ.nearby := NearbyDevicesState.register_local hlocal
      show ({ (σ.announce server peer) with nearby := _ } : PresenceState) = _
      rw [show (σ.announce server peer).nearby = σ.nearby from rfl,
        show (σ.announce server peer).signaling = σ.signaling from rfl, hregister]
      rfl
    rw [hsame]
    constructor
    · intro hafter token d hd hid
      obtain ⟨rfl, rfl⟩ := (listed_echo h server peer).mp hafter token d hd hid
      have hforeign := h.foreign _ _ hd ⟨peer.id, server, peer.token⟩ (by simp)
      exact absurd hlocal (not_or.mpr hforeign)
    · intro hcond
      refine (listed_echo h server peer).mpr fun token d hd hid => ?_
      exact absurd hlocal (not_or.mpr (hcond token d hd hid).2)
  · have honce : ∀ d ∈ σ.nearby.groupOf peer.token, ∀ d' ∈ σ.nearby.groupOf peer.token,
        d.carries peer.id = true → d'.carries peer.id = true → d = d' :=
      fun d hd d' hd' hid hid' => (h.once peer.id _ _ d hd d' hd' hid hid').2
    have hmem : ∀ {token d}, d ∈ ((σ.announce server peer).register server peer).nearby.groupOf token ↔
        (token = peer.token ∧ d = peer.toDevice server) ∨
          d ∈ σ.nearby.groupOf token ∧ (token = peer.token → d.carries peer.id = false) :=
      NearbyDevicesState.mem_groupOf_register hlocal (h.nodup _) honce
    constructor
    · intro hafter token d hd hid
      refine ⟨?_, not_or.mp hlocal⟩
      by_contra ht
      -- the device under the old token is still there
      have hold := hmem.mpr (.inr ⟨hd, fun h' => absurd h' ht⟩)
      have hnew := hmem.mpr (.inl ⟨rfl, rfl⟩)
      exact ht (hafter.once peer.id _ _ _ hold _ hnew hid (by simp)).1
    · intro hcond
      have hlatest : ∀ token, ∀ d ∈ ((σ.announce server peer).register server peer).nearby.groupOf token,
          ∃ server' info, ((σ.announce server peer).register server peer).latest info.id = some (server', info) ∧
            d = info.toDevice server' ∧ token = info.token := by
        intro token d hd
        obtain ⟨rfl, rfl⟩ | ⟨hd, hnot⟩ := hmem.mp hd
        · exact ⟨server, peer, latest_announce_self .., rfl, rfl⟩
        · obtain ⟨server', info, hlatest, rfl, rfl⟩ := h.latest token d hd
          refine ⟨server', info, (latest_announce fun hid => ?_).trans hlatest, rfl, rfl⟩
          have hcarries : (info.toDevice server').carries peer.id = true := carries_toDevice.mpr hid
          rw [hnot (hcond _ _ hd hcarries).1] at hcarries
          cases hcarries
      refine ⟨NearbyDevicesState.nodup_groupOf_register h.nodup, once_of_latest hlatest, hlatest, ?_⟩
      intro token d hd sig hsig
      obtain ⟨rfl, rfl⟩ | ⟨hd, -⟩ := hmem.mp hd
      · rw [signalingEndpoints_toDevice, List.mem_singleton] at hsig
        subst hsig
        exact not_or.mp hlocal
      · exact h.foreign token d hd sig hsig

theorem listed_left {σ : PresenceState} (h : PeersListed σ) (peerId : String) :
    PeersListed (σ.step (.left peerId)) := by
  have hmem : ∀ {token d}, d ∈ (σ.step (.left peerId)).nearby.groupOf token ↔
      d ∈ σ.nearby.groupOf token ∧ d.carries peerId = false := NearbyDevicesState.mem_groupOf_unregister
  have hlatest : ∀ token, ∀ d ∈ (σ.step (.left peerId)).nearby.groupOf token, ∃ server info,
      (σ.step (.left peerId)).latest info.id = some (server, info) ∧ d = info.toDevice server ∧
        token = info.token := by
    intro token d hd
    obtain ⟨hd, hnot⟩ := hmem.mp hd
    obtain ⟨server, info, hlatest, rfl, rfl⟩ := h.latest token d hd
    have hid : info.id ≠ peerId := fun hid => by
      rw [carries_toDevice.mpr hid] at hnot
      cases hnot
    exact ⟨server, info, (if_neg hid).trans hlatest, rfl, rfl⟩
  exact ⟨fun token => NearbyDevicesState.nodup_groupOf_unregister (h.nodup token), once_of_latest hlatest, hlatest,
    fun token d hd => h.foreign token d (hmem.mp hd).1⟩

theorem listed_ended {σ : PresenceState} (h : PeersListed σ) (server : String) :
    PeersListed (σ.step (.ended server)) ↔ NothingStale σ (.ended server) := by
  constructor
  · rintro hafter token d hd sig hsig rfl
    obtain ⟨server, info, hlatest, rfl, rfl⟩ := hafter.latest token d hd
    rw [signalingEndpoints_toDevice, List.mem_singleton] at hsig
    subst hsig
    obtain ⟨-, hne⟩ := Option.filter_eq_some_iff.mp hlatest
    simp at hne
  · intro hcond
    have hlatest : ∀ token, ∀ d ∈ σ.nearby.groupOf token, ∃ server' info,
        (σ.step (.ended server)).latest info.id = some (server', info) ∧ d = info.toDevice server' ∧
          token = info.token := by
      intro token d hd
      obtain ⟨server', info, hlatest, rfl, rfl⟩ := h.latest token d hd
      have hne : server' ≠ server := hcond _ _ hd ⟨info.id, server', info.token⟩ (by simp)
      exact ⟨server', info, Option.filter_eq_some_iff.mpr ⟨hlatest, by simpa using hne⟩, rfl, rfl⟩
    refine ⟨h.nodup, h.once, hlatest, fun token d hd sig hsig => ?_⟩
    have hidentities : (σ.step (.ended server)).signaling.identitiesOf sig.signalingServer =
        σ.signaling.identitiesOf sig.signalingServer :=
      (SignalingState.identitiesOf_remove ..).trans (if_neg (hcond token d hd sig hsig))
    rw [hidentities]
    exact h.foreign token d hd sig hsig

theorem listed_step {σ : PresenceState} (h : PeersListed σ) (e : Dispatch) :
    PeersListed (σ.step e) ↔ NothingStale σ e := by
  cases e with
  | identity server client => exact listed_identity h server client
  | peerOf server client peer =>
    by_cases hecho : peer.id = client.id ∨ peer.token = client.token
    · rw [PresenceState.step, if_pos hecho, NothingStale, if_pos hecho]
      exact listed_echo h server peer
    · rw [PresenceState.step, if_neg hecho, NothingStale, if_neg hecho]
      exact listed_announced h server peer
  | announced server peer => exact listed_announced h server peer
  | left peerId => exact iff_of_true (listed_left h peerId) trivial
  | ended server => exact listed_ended h server

/-- Along every run the peers are listed as they should be exactly if no dispatch meets a
device that is stale: listed under another token, under an identity of this device, or
when its connection ends. -/
theorem peersListed_iff (signalingServers : List String) (devices : List (String × Device))
    (messages : List Message) :
    (presence signalingServers devices).Along PeersListed (presence signalingServers devices).init
        (messages.flatMap Message.dispatches) ↔
      (presence signalingServers devices).Meets NothingStale (presence signalingServers devices).init
        (messages.flatMap Message.dispatches) := by
  have hinit : PeersListed (presence signalingServers devices).init :=
    ⟨fun _ => List.nodup_nil, fun _ _ _ _ hd => (List.not_mem_nil hd).elim,
      fun _ _ hd => (List.not_mem_nil hd).elim, fun _ _ hd => (List.not_mem_nil hd).elim⟩
  refine System.along_iff_meets (fun σ e τ h hstep => ?_) hinit
  obtain rfl := Option.some_inj.mp hstep
  exact listed_step h e

/-! ### An update with a new token -/

def laptop : ClientInfo := ⟨"1", "Laptop", "2.1", none, none, "t1"⟩

def laptopAgain : ClientInfo := ⟨"1", "Laptop", "2.1", none, none, "t2"⟩

/-- The peer gets a new token: it is listed under both. -/
theorem update_lists_twice :
    ¬(presence ["s"] []).Along PeersListed (presence ["s"] []).init
      ([.hello "s" ⟨"0", "Phone", "2.1", none, none, "t0"⟩ [], .join "s" laptop,
        .update "s" laptopAgain].flatMap Message.dispatches) := by
  intro h
  have hall : (presence ["s"] []).Along PeersListed (presence ["s"] []).init
    [.identity "s" ⟨"0", "Phone", "2.1", none, none, "t0"⟩, .announced "s" laptop, .announced "s" laptopAgain] := h
  have hlast := ((hall.2 _ rfl).2 _ rfl).2 _ rfl
  obtain ⟨htoken, -⟩ := hlast.once "1" "t1" "t2" (laptop.toDevice "s") (by decide) (laptopAgain.toDevice "s")
    (by decide) (by decide) (by decide)
  exact absurd htoken (by decide)

end MagicShare.Nearby
