import MagicShare.Nearby.AllDevices

/-! What a signaling connection does to the two providers (`signaling_provider.dart`,
`nearby_devices_provider.dart`).

The signaling provider holds the connections and, for each server, the ids and tokens it
has given to this device. The provider of the devices nearby holds the peers that the
servers announce, in sets by their tokens. -/
namespace MagicShare.Nearby

/-- What a server says of a client. The device types of the two languages have the same
members. -/
structure ClientInfo where
  id : String
  «alias» : String
  version : String
  deviceModel : Option String
  deviceType : Option DeviceType
  token : String
  deriving DecidableEq

def ClientInfo.toDevice (info : ClientInfo) (signalingServer : String) : Device where
  version := info.version
  «alias» := info.alias
  deviceModel := info.deviceModel
  deviceType := info.deviceType.getD .desktop
  download := false
  endpoints := [.signaling ⟨info.id, signalingServer, info.token⟩]
  discoveryMethods := [.signaling signalingServer]

@[simp] theorem signalingEndpoints_toDevice (info : ClientInfo) (server : String) :
    (info.toDevice server).signalingEndpoints = [⟨info.id, server, info.token⟩] := rfl

/-- The device has an endpoint with the id. -/
def Device.carries (d : Device) (signalingId : String) : Bool :=
  d.signalingEndpoints.any fun sig => sig.signalingId = signalingId

@[simp] theorem carries_toDevice {info : ClientInfo} {server id : String} :
    (info.toDevice server).carries id = true ↔ info.id = id := by
  simp [Device.carries]

/-! ### The signaling provider -/

structure SignalingState where
  signalingServers : List String
  /-- By the server; a connection is that of the action that opened it. -/
  connections : List (String × Nat)
  localIdentities : List (String × List String)

namespace SignalingState

/-- `localIdentities[signalingServer] ?? {}`. -/
def identitiesOf (s : SignalingState) (signalingServer : String) : List String :=
  (Dict.get s.localIdentities signalingServer).getD []

def setConnection (s : SignalingState) (signalingServer : String) (connection : Nat) : SignalingState :=
  { s with connections := Dict.put s.connections signalingServer connection }

def removeConnection (s : SignalingState) (signalingServer : String) : SignalingState :=
  { s with
    connections := Dict.remove s.connections signalingServer
    localIdentities := Dict.remove s.localIdentities signalingServer }

def registerLocalIdentity (s : SignalingState) (signalingServer signalingId serverToken : String) : SignalingState :=
  { s with
    localIdentities :=
      Dict.put s.localIdentities signalingServer (spread (s.identitiesOf signalingServer) [signalingId, serverToken]) }

theorem mem_identitiesOf_register {s : SignalingState} {server server' id token x : String} :
    x ∈ (s.registerLocalIdentity server id token).identitiesOf server' ↔
      x ∈ s.identitiesOf server' ∨ server' = server ∧ (x = id ∨ x = token) := by
  rw [identitiesOf, registerLocalIdentity, Dict.get_put]
  by_cases h : server' = server
  · subst h
    simp
  · simp [h, identitiesOf]

theorem identitiesOf_remove (s : SignalingState) (server server' : String) :
    (s.removeConnection server).identitiesOf server' = if server' = server then [] else s.identitiesOf server' := by
  rw [identitiesOf, removeConnection, Dict.get_remove]
  by_cases h : server' = server <;> simp [h, identitiesOf]

end SignalingState

/-! ### The peers -/

namespace NearbyDevicesState

/-- The set of the devices with a token. -/
def groupOf (state : NearbyDevicesState) (token : String) : List Device :=
  (Dict.get state.signalingDevices token).getD []

/-- `RegisterSignalingDeviceAction`. -/
def registerSignalingDevice (state : NearbyDevicesState) (device : Device) (localIdentities : List String) :
    NearbyDevicesState :=
  match device.firstSignalingEndpoint with
  | none => state
  | some endpoint =>
    if endpoint.signalingId ∈ localIdentities ∨ endpoint.serverToken ∈ localIdentities then state
    else
      let existingDevices := state.groupOf endpoint.serverToken
      let others := match existingDevices.find? fun d => d.carries endpoint.signalingId with
        | some existingDevice => existingDevices.erase existingDevice
        | none => existingDevices
      { state with signalingDevices := Dict.put state.signalingDevices endpoint.serverToken (spread others [device]) }

/-- `UnregisterSignalingDeviceAction`. -/
def unregisterSignalingDevice (state : NearbyDevicesState) (signalingId : String) : NearbyDevicesState :=
  { state with
    signalingDevices := Dict.mapValues state.signalingDevices fun set =>
      set.filter fun d => d.signalingEndpoints.all fun sig => sig.signalingId != signalingId }

variable {state : NearbyDevicesState}

theorem mem_groupOf_unregister {id token : String} {d : Device} :
    d ∈ (state.unregisterSignalingDevice id).groupOf token ↔ d ∈ state.groupOf token ∧ d.carries id = false := by
  rw [groupOf, groupOf, unregisterSignalingDevice, Dict.get_mapValues]
  cases Dict.get state.signalingDevices token with
  | none => simp
  | some set => simp [Device.carries]

theorem nodup_groupOf_unregister {id token : String} (h : (state.groupOf token).Nodup) :
    ((state.unregisterSignalingDevice id).groupOf token).Nodup := by
  rw [groupOf] at h
  rw [groupOf, unregisterSignalingDevice, Dict.get_mapValues]
  cases hg : Dict.get state.signalingDevices token with
  | none => exact List.nodup_nil
  | some set =>
    rw [hg] at h
    exact h.filter _

/-- This device looping back is not listed. -/
theorem register_local {info : ClientInfo} {server : String} {localIdentities : List String}
    (h : info.id ∈ localIdentities ∨ info.token ∈ localIdentities) :
    state.registerSignalingDevice (info.toDevice server) localIdentities = state := if_pos h

/-- A peer replaces the device that carries its id under its token. -/
theorem groupOf_register {info : ClientInfo} {server : String} {localIdentities : List String}
    (h : ¬(info.id ∈ localIdentities ∨ info.token ∈ localIdentities)) (token : String) :
    (state.registerSignalingDevice (info.toDevice server) localIdentities).groupOf token =
      if token = info.token then
        spread (match (state.groupOf info.token).find? fun d => d.carries info.id with
          | some existingDevice => (state.groupOf info.token).erase existingDevice
          | none => state.groupOf info.token) [info.toDevice server]
      else state.groupOf token := by
  have hregister : state.registerSignalingDevice (info.toDevice server) localIdentities =
      { state with
        signalingDevices := Dict.put state.signalingDevices info.token
          (spread (match (state.groupOf info.token).find? fun d => d.carries info.id with
            | some existingDevice => (state.groupOf info.token).erase existingDevice
            | none => state.groupOf info.token) [info.toDevice server]) } := if_neg h
  rw [hregister, groupOf, Dict.get_put]
  by_cases ht : token = info.token
  · rw [if_pos ht, if_pos ht]
    rfl
  · rw [if_neg ht, if_neg ht]
    rfl

/-- Where no two devices of the set carry the id, none that did is left but the new one. -/
theorem mem_groupOf_register {info : ClientInfo} {server : String} {localIdentities : List String}
    (h : ¬(info.id ∈ localIdentities ∨ info.token ∈ localIdentities)) (hnodup : (state.groupOf info.token).Nodup)
    (honce : ∀ d ∈ state.groupOf info.token, ∀ d' ∈ state.groupOf info.token,
      d.carries info.id = true → d'.carries info.id = true → d = d') {token : String} {d : Device} :
    d ∈ (state.registerSignalingDevice (info.toDevice server) localIdentities).groupOf token ↔
      (token = info.token ∧ d = info.toDevice server) ∨
        d ∈ state.groupOf token ∧ (token = info.token → d.carries info.id = false) := by
  rw [groupOf_register h]
  by_cases ht : token = info.token
  · subst ht
    rw [if_pos rfl, mem_spread, List.mem_singleton, or_comm]
    refine or_congr (by simp) ?_
    cases hfind : (state.groupOf info.token).find? fun d => d.carries info.id with
    | none =>
      have hnone := List.find?_eq_none.mp hfind
      exact ⟨fun hd => ⟨hd, fun _ => by simpa using hnone d hd⟩, And.left⟩
    | some e =>
      have he := List.mem_of_find?_eq_some hfind
      have hcarries : e.carries info.id = true := by simpa using List.find?_some hfind
      show d ∈ (state.groupOf info.token).erase e ↔ _
      rw [hnodup.mem_erase_iff]
      constructor
      · rintro ⟨hde, hd⟩
        refine ⟨hd, fun _ => ?_⟩
        rw [← Bool.not_eq_true]
        exact fun hdc => hde (honce d hd e he hdc hcarries)
      · rintro ⟨hd, hdc⟩
        refine ⟨?_, hd⟩
        rintro rfl
        rw [hdc rfl] at hcarries
        cases hcarries
  · simp [ht]

theorem nodup_groupOf_register {info : ClientInfo} {server : String} {localIdentities : List String}
    (hnodup : ∀ token, (state.groupOf token).Nodup) (token : String) :
    ((state.registerSignalingDevice (info.toDevice server) localIdentities).groupOf token).Nodup := by
  by_cases h : info.id ∈ localIdentities ∨ info.token ∈ localIdentities
  · rw [register_local h]
    exact hnodup token
  · rw [groupOf_register h]
    split
    · have hspread : ∀ set : List Device, set.Nodup → (spread set [info.toDevice server]).Nodup := by
        intro set hset
        refine List.nodup_append.mpr ⟨hset, (List.nodup_singleton _).filter _, ?_⟩
        rintro a ha b hb rfl
        exact of_decide_eq_true (List.mem_filter.mp hb).2 ha
      refine hspread _ ?_
      split
      · exact (hnodup _).erase _
      · exact hnodup _
    · exact hnodup token

end NearbyDevicesState
end MagicShare.Nearby
