import MagicShare.Base.Grouping
import MagicShare.Nearby.Device

/-! One list of all devices nearby (`nearby_devices_state.dart`).

`allDevices` goes through the devices of the network, and then through those of the
signaling servers. A device is merged into the first entry that announces one of its
certificate hashes, and one of a signaling server otherwise into the first entry that
looks like it; else it gets an entry of its own, under its certificate hash, its address
or its token. The keys are of three kinds and tokens are not unique, so an entry may be
overwritten; the view loses nothing exactly if no two devices that get an entry of their
own have the same key (`lossless_iff`). -/
namespace MagicShare.Nearby
open Grouping

/-- The part of the state the view is made of. -/
structure NearbyDevicesState where
  /-- By the address, in the order of the map. -/
  devices : List (String × Device)
  /-- By the token. -/
  signalingDevices : List (String × List Device)

/-- `merge`: the endpoints and discovery methods of both, and the identity of the first. -/
def Device.merge (d other : Device) : Device :=
  { d with
    endpoints := spread d.endpoints other.endpoints
    discoveryMethods := spread d.discoveryMethods other.discoveryMethods }

/-- Prefers the certificate hash; empty when there is no usable HTTP endpoint. -/
def stableLanKey (device : Device) : String :=
  match device.firstHttpEndpoint with
  | some e => if e.certHash.isEmpty then e.ip else e.certHash
  | none => ""

/-- `signaling.firstSignalingEndpoint?.serverToken ?? ''`. -/
def tokenOf (signaling : Device) : String := (signaling.firstSignalingEndpoint.map SignalingEndpoint.serverToken).getD ""

/-! ### The two searches -/

def sharesHash (entry candidate : Device) : Bool := entry.certHashes.any candidate.certHashes.contains

def findCertHashMatch (map : List (String × Device)) (candidate : Device) : Option String :=
  if candidate.certHashes.isEmpty then none
  else (map.find? fun entry => !entry.2.certHashes.isEmpty && sharesHash entry.2 candidate).map Prod.fst

def looksLike (existing candidate : Device) : Bool :=
  existing.alias == candidate.alias && existing.deviceModel == candidate.deviceModel &&
    existing.deviceType == candidate.deviceType

def findIdentityMatch (map : List (String × Device)) (candidate : Device) : Option String :=
  if candidate.alias.isEmpty then none
  else (map.find? fun entry => looksLike entry.2 candidate).map Prod.fst

/-! ### The two passes -/

/-- `result[key] = result[key]!.merge(device)`. The key comes from the map. -/
def mergeInto (result : List (String × Device)) (key : String) (device : Device) : List (String × Device) :=
  match Dict.get result key with
  | some existing => Dict.put result key (existing.merge device)
  | none => result

def addLan (result : List (String × Device)) (device : Device) : List (String × Device) :=
  match findCertHashMatch result device with
  | some existingKey => mergeInto result existingKey device
  | none =>
    let key := stableLanKey device
    if key.isEmpty then result else Dict.put result key device

def addSignaling (result : List (String × Device)) (signaling : Device) : List (String × Device) :=
  match (findCertHashMatch result signaling).or (findIdentityMatch result signaling) with
  | some existingKey => mergeInto result existingKey signaling
  | none =>
    let token := tokenOf signaling
    if token.isEmpty then result else Dict.put result token signaling

namespace NearbyDevicesState
variable (state : NearbyDevicesState)

def lanDevices : List Device := state.devices.map Prod.snd

def signalingList : List Device := state.signalingDevices.flatMap Prod.snd

def allDevices : List (String × Device) :=
  state.signalingList.foldl addSignaling (state.lanDevices.foldl addLan [])

end NearbyDevicesState

/-! ### The devices in the order in which they are added -/

/-- A device on its way into the view, from the pass that adds it. -/
inductive Arrival where
  | lan (device : Device)
  | signaling (device : Device)

namespace Arrival

def device : Arrival → Device
  | lan d => d
  | signaling d => d

/-- The key an entry of its own would have. -/
def ownKey : Arrival → String
  | lan d => stableLanKey d
  | signaling d => tokenOf d

/-- The entry it is merged into. -/
def matchKey (result : List (String × Device)) : Arrival → Option String
  | lan d => findCertHashMatch result d
  | signaling d => (findCertHashMatch result d).or (findIdentityMatch result d)

def add (result : List (String × Device)) : Arrival → List (String × Device)
  | lan d => addLan result d
  | signaling d => addSignaling result d

end Arrival

def NearbyDevicesState.arrivals (state : NearbyDevicesState) : List Arrival :=
  state.lanDevices.map .lan ++ state.signalingList.map .signaling

theorem allDevices_eq_foldl (state : NearbyDevicesState) : state.allDevices = state.arrivals.foldl Arrival.add [] := by
  rw [NearbyDevicesState.allDevices, NearbyDevicesState.arrivals, List.foldl_append, List.foldl_map, List.foldl_map]
  rfl

theorem add_eq (result : List (String × Device)) (a : Arrival) :
    a.add result =
      match a.matchKey result with
      | some existingKey => mergeInto result existingKey a.device
      | none => if a.ownKey.isEmpty then result else Dict.put result a.ownKey a.device := by
  cases a <;> rfl

/-! ### The entries are groups

The items are whatever the devices come from: `source` says which arrival an item is. -/

section Groups
variable {α : Type} (source : α → Arrival)

/-- The device of an entry: its first one, with what the others bring. -/
def deviceOf (g : Cluster α) : Device := g.more.foldl (fun d a => d.merge (source a).device) (source g.first).device

/-- What an entry has to be for a device to be merged into it. -/
def criteriaOf : Arrival → List (Cluster α → Bool)
  | .lan d => [fun g => sharesHash (deviceOf source g) d]
  | .signaling d =>
    [fun g => sharesHash (deviceOf source g) d, fun g => !d.alias.isEmpty && looksLike (deviceOf source g) d]

def viewScheme : Scheme α String where
  key a := if (source a).ownKey.isEmpty then none else some (source a).ownKey
  criteria a := criteriaOf source (source a)

def entries (s : List (String × Cluster α)) : List (String × Device) := s.map fun e => (e.1, deviceOf source e.2)

variable {source}

@[simp] theorem deviceOf_add (g : Cluster α) (a : α) :
    deviceOf source (g.add a) = (deviceOf source g).merge (source a).device := by
  simp [deviceOf, Cluster.add]

@[simp] theorem keys_entries (s : List (String × Cluster α)) : Dict.keys (entries source s) = Dict.keys s := by
  simp [entries, Dict.keys]

/-- An entry has all endpoints of the devices merged into it, and no others. -/
theorem mem_endpoints_deviceOf {g : Cluster α} {x : DeviceEndpoint} :
    x ∈ (deviceOf source g).endpoints ↔ ∃ a ∈ g.items, x ∈ (source a).device.endpoints := by
  have hfold : ∀ (more : List α) (d : Device),
      x ∈ (more.foldl (fun d a => d.merge (source a).device) d).endpoints ↔
        x ∈ d.endpoints ∨ ∃ a ∈ more, x ∈ (source a).device.endpoints := by
    intro more
    induction more with
    | nil => simp
    | cons a more ih =>
      intro d
      rw [List.foldl_cons, ih]
      simp [Device.merge, or_assoc]
  rw [deviceOf, hfold]
  simp [Cluster.items]

theorem mem_certHashes {d : Device} {h : String} :
    h ∈ d.certHashes ↔ ∃ e : HttpEndpoint, .http e ∈ d.endpoints ∧ e.certHash = h := by
  have hhttp : ∀ e : HttpEndpoint, e ∈ d.httpEndpoints ↔ .http e ∈ d.endpoints := by
    intro e
    rw [Device.httpEndpoints, List.mem_filterMap]
    constructor
    · rintro ⟨x, hx, he⟩
      cases x with
      | http e' => exact (Option.some_inj.mp he : e' = e) ▸ hx
      | signaling _ => cases he
    · exact fun he => ⟨_, he, rfl⟩
  simp only [Device.certHashes, List.mem_map, hhttp]

theorem mem_certHashes_deviceOf {g : Cluster α} {h : String} :
    h ∈ (deviceOf source g).certHashes ↔ ∃ a ∈ g.items, h ∈ (source a).device.certHashes := by
  simp only [mem_certHashes, mem_endpoints_deviceOf]
  constructor
  · rintro ⟨e, ⟨a, ha, he⟩, hh⟩
    exact ⟨a, ha, e, he, hh⟩
  · rintro ⟨a, ha, e, he, hh⟩
    exact ⟨e, ⟨a, ha, he⟩, hh⟩

theorem sharesHash_iff {d d' : Device} : sharesHash d d' = true ↔ ∃ h ∈ d.certHashes, h ∈ d'.certHashes := by
  simp [sharesHash, List.any_eq_true]

theorem findCertHashMatch_eq (map : List (String × Device)) (d : Device) :
    findCertHashMatch map d = (map.find? fun entry => sharesHash entry.2 d).map Prod.fst := by
  rw [findCertHashMatch]
  split
  · rename_i hempty
    have hnone : (map.find? fun entry => sharesHash entry.2 d) = none := by
      refine List.find?_eq_none.mpr fun e _ he => ?_
      obtain ⟨h, -, hh⟩ := sharesHash_iff.mp he
      rw [List.isEmpty_iff.mp hempty] at hh
      cases hh
    rw [hnone]
    rfl
  · congr 2
    funext entry
    cases hshares : sharesHash entry.2 d with
    | false => exact Bool.and_false _
    | true =>
      obtain ⟨h, hh, -⟩ := sharesHash_iff.mp hshares
      have : entry.2.certHashes ≠ [] := List.ne_nil_of_mem hh
      simpa using this

theorem findIdentityMatch_eq (map : List (String × Device)) (d : Device) :
    findIdentityMatch map d = (map.find? fun entry => !d.alias.isEmpty && looksLike entry.2 d).map Prod.fst := by
  rw [findIdentityMatch]
  split
  · rename_i hempty
    have hnone : (map.find? fun entry => !d.alias.isEmpty && looksLike entry.2 d) = none :=
      List.find?_eq_none.mpr fun e _ he => by simp [hempty] at he
    rw [hnone]
    rfl
  · rename_i halias
    simp [halias]

/-- A search of the map finds the key of the group that a search of the groups finds. -/
theorem find?_entries (s : List (String × Cluster α)) (p : Device → Bool) :
    ((entries source s).find? fun e => p e.2).map Prod.fst =
      ((s.map Prod.snd).findIdx? fun g => p (deviceOf source g)).bind fun i => (Dict.keys s)[i]? := by
  induction s with
  | nil => rfl
  | cons e s ih =>
    have ih : ((entries source s).find? fun e => p e.2).map Prod.fst =
        ((s.map Prod.snd).findIdx? fun g => p (deviceOf source g)).bind fun i => (Dict.keys s)[i]? := ih
    rw [entries, List.map_cons, List.find?_cons, List.map_cons, List.findIdx?_cons]
    by_cases hp : p (deviceOf source e.2) = true
    · simp [hp, Dict.keys]
    · rw [Bool.not_eq_true] at hp
      rw [entries] at ih
      simp only [hp, ih, Bool.false_eq_true, if_false]
      cases (s.map Prod.snd).findIdx? fun g => p (deviceOf source g) <;> rfl

theorem find_lan (groups : List (Cluster α)) {a : α} {d : Device} (h : source a = .lan d) :
    (viewScheme source).find groups a = groups.findIdx? fun g => sharesHash (deviceOf source g) d := by
  show (criteriaOf source (source a)).findSome? _ = _
  rw [h, criteriaOf, List.findSome?_cons]
  cases groups.findIdx? fun g => sharesHash (deviceOf source g) d <;> rfl

theorem find_signaling (groups : List (Cluster α)) {a : α} {d : Device} (h : source a = .signaling d) :
    (viewScheme source).find groups a =
      (groups.findIdx? fun g => sharesHash (deviceOf source g) d).or
        (groups.findIdx? fun g => !d.alias.isEmpty && looksLike (deviceOf source g) d) := by
  show (criteriaOf source (source a)).findSome? _ = _
  rw [h, criteriaOf, List.findSome?_cons, List.findSome?_cons]
  cases groups.findIdx? fun g => sharesHash (deviceOf source g) d with
  | some i => rfl
  | none => cases groups.findIdx? fun g => !d.alias.isEmpty && looksLike (deviceOf source g) d <;> rfl

variable (source) in
theorem matchKey_entries (s : List (String × Cluster α)) (a : α) :
    (source a).matchKey (entries source s) =
      ((viewScheme source).find (s.map Prod.snd) a).bind fun i => (Dict.keys s)[i]? := by
  cases hsource : source a with
  | lan d =>
    rw [find_lan _ hsource, Arrival.matchKey, findCertHashMatch_eq, find?_entries s fun e => sharesHash e d]
  | signaling d =>
    rw [find_signaling _ hsource, Arrival.matchKey, findCertHashMatch_eq, findIdentityMatch_eq,
      find?_entries s fun e => sharesHash e d, find?_entries s fun e => !d.alias.isEmpty && looksLike e d]
    cases hcert : (s.map Prod.snd).findIdx? fun g => sharesHash (deviceOf source g) d with
    | some i =>
      obtain ⟨hlt, -⟩ := List.findIdx?_eq_some_iff_getElem.mp hcert
      have hi : i < (Dict.keys s).length := by simpa [Dict.keys] using hlt
      simp [hi]
    | none => rfl

/-- A device is added to the view as its item is put into the groups. -/
theorem add_entries {s : List (String × Cluster α)} (h : (Dict.keys s).Nodup) (a : α) :
    (source a).add (entries source s) = entries source ((viewScheme source).place s a) := by
  rw [add_eq, matchKey_entries source]
  cases hf : (viewScheme source).find (s.map Prod.snd) a with
  | some i =>
    have hi : i < s.length := by simpa using Scheme.find_lt hf
    have hkey : (Dict.keys s)[i]? = some s[i].1 := by simp [Dict.keys, hi]
    have hentry : (entries source s)[i]? = some (s[i].1, deviceOf source s[i].2) := by simp [entries, hi]
    have hnodup : (Dict.keys (entries source s)).Nodup := by rwa [keys_entries]
    rw [Option.bind_some, hkey, Scheme.place_joins hf]
    show mergeInto _ _ _ = _
    rw [mergeInto, Dict.get_of_getElem? hnodup hentry, entries]
    refine (Dict.put_of_getElem? hnodup hentry _).trans (List.ext_getElem? fun j => ?_)
    simp only [entries, List.getElem?_map, List.getElem?_modify]
    by_cases hij : i = j
    · subst hij
      simp [hi]
    · simp [hij]
  | none =>
    rw [Option.bind_none]
    by_cases hempty : (source a).ownKey.isEmpty
    · have hkey : (viewScheme source).key a = none := if_pos hempty
      rw [Scheme.place_drops hf hkey]
      exact if_pos hempty
    · have hkey : (viewScheme source).key a = some (source a).ownKey := if_neg hempty
      rw [Scheme.place_starts hf hkey]
      refine (if_neg hempty).trans ?_
      rw [Dict.put, Dict.put, keys_entries]
      split
      · rw [entries, entries, List.map_map, List.map_map]
        refine List.map_congr_left fun e _ => ?_
        by_cases he : e.1 = (source a).ownKey <;> simp [he, deviceOf]
      · simp [entries, deviceOf]

/-- The view of a list of devices is made of the groups their items are put into. -/
theorem foldl_add (items : List α) :
    (items.map source).foldl Arrival.add [] = entries source ((viewScheme source).collect items) := by
  induction items using List.reverseRecOn with
  | nil => rfl
  | append_singleton items a ih =>
    rw [List.map_append, List.foldl_append, ih, Scheme.collect_append]
    exact add_entries (Scheme.nodup_collect items) a

end Groups

/-! ### Nothing is lost -/

namespace NearbyDevicesState
variable (state : NearbyDevicesState)

/-- Every endpoint is in the view, and no entry is overwritten. -/
structure Lossless : Prop where
  lan : ∀ d ∈ state.lanDevices, stableLanKey d ≠ "" → ∀ x ∈ d.endpoints,
    ∃ e ∈ state.allDevices, x ∈ e.2.endpoints
  signaling : ∀ d ∈ state.signalingList, tokenOf d ≠ "" → ∀ x ∈ d.endpoints,
    ∃ e ∈ state.allDevices, x ∈ e.2.endpoints
  /-- A device that is merged into no entry is stored under a key that is not there. -/
  kept : ∀ before a after, state.arrivals = before ++ a :: after →
    a.matchKey (before.foldl Arrival.add []) = none → a.ownKey ≠ "" →
    a.ownKey ∉ Dict.keys (before.foldl Arrival.add [])

/-- The devices that get an entry of their own: those with a key that share no certificate
hash with the devices of an entry before, and for a signaling server look like none. -/
def starters : List Arrival := ((viewScheme id).arrange state.arrivals).map Cluster.first

end NearbyDevicesState

theorem key_eq_some {a : Arrival} {k : String} : (viewScheme id).key a = some k ↔ k ≠ "" ∧ a.ownKey = k := by
  show (if a.ownKey.isEmpty then none else some a.ownKey) = some k ↔ _
  by_cases h : a.ownKey = ""
  · rw [if_pos (by simp [h])]
    constructor
    · exact fun hk => absurd hk (by simp)
    · exact fun hk => absurd (hk.2.symm.trans h) hk.1
  · rw [if_neg (by simpa using h), Option.some_inj]
    exact ⟨fun hk => ⟨hk ▸ h, hk⟩, fun hk => hk.2⟩

theorem foldl_add_id (items : List Arrival) :
    items.foldl Arrival.add [] = entries id ((viewScheme id).collect items) := by
  rw [← foldl_add, List.map_id]

theorem kept_iff (state : NearbyDevicesState) :
    (∀ before a after, state.arrivals = before ++ a :: after →
      a.matchKey (before.foldl Arrival.add []) = none → a.ownKey ≠ "" →
      a.ownKey ∉ Dict.keys (before.foldl Arrival.add [])) ↔ (viewScheme id).Undisplaced state.arrivals := by
  have hmatch : ∀ (before : List Arrival) (a : Arrival), a.matchKey (before.foldl Arrival.add []) = none ↔
      (viewScheme id).find (((viewScheme id).collect before).map Prod.snd) a = none := by
    intro before a
    have hkey := matchKey_entries id ((viewScheme id).collect before) a
    rw [foldl_add_id]
    refine (iff_of_eq (congrArg (· = none) hkey)).trans ?_
    cases hf : (viewScheme id).find (((viewScheme id).collect before).map Prod.snd) a with
    | none => simp
    | some i =>
      have hi : i < ((viewScheme id).collect before).length := by simpa using Scheme.find_lt hf
      simp [Dict.keys, hi]
  constructor
  · rintro h before a after hsplit ⟨hfind, k, hk, hmem⟩
    obtain ⟨hne, rfl⟩ := key_eq_some.mp hk
    refine h before a after hsplit ((hmatch before a).mpr hfind) hne ?_
    rwa [foldl_add_id, keys_entries]
  · intro h before a after hsplit hnone hne hmem
    rw [foldl_add_id, keys_entries] at hmem
    exact h before a after hsplit ⟨(hmatch before a).mp hnone, a.ownKey, key_eq_some.mpr ⟨hne, rfl⟩, hmem⟩

/-- What is in the groups is in the view. -/
theorem endpoints_shown {state : NearbyDevicesState} (h : (viewScheme id).Undisplaced state.arrivals) {a : Arrival}
    (ha : a ∈ state.arrivals) (hkey : a.ownKey ≠ "") {x : DeviceEndpoint} (hx : x ∈ a.device.endpoints) :
    ∃ e ∈ state.allDevices, x ∈ e.2.endpoints := by
  have hk : ((viewScheme id).key a).isSome := by rw [key_eq_some.mpr ⟨hkey, rfl⟩]; rfl
  obtain ⟨g, hg, hag⟩ := Scheme.mem_arrange ha hk
  rw [← (Scheme.tracks_collect h).held] at hg
  obtain ⟨e, he, rfl⟩ := List.mem_map.mp hg
  refine ⟨(e.1, deviceOf id e.2), ?_, mem_endpoints_deviceOf.mpr ⟨a, hag, hx⟩⟩
  rw [allDevices_eq_foldl, foldl_add_id]
  exact List.mem_map_of_mem he

/-- A device that gets an entry of its own has a key. -/
theorem key_starter {state : NearbyDevicesState} {a : Arrival} (ha : a ∈ state.starters) :
    (viewScheme id).key a = some a.ownKey := by
  obtain ⟨g, hg, rfl⟩ := List.mem_map.mp ha
  obtain ⟨k, hk⟩ := Option.isSome_iff_exists.mp (Scheme.arrange_key hg)
  rw [hk, (key_eq_some.mp hk).2]

/-- The view is lossless exactly if the devices that get an entry of their own have
distinct keys. -/
theorem lossless_iff (state : NearbyDevicesState) :
    state.Lossless ↔ (state.starters.map Arrival.ownKey).Nodup := by
  have hkeys : (viewScheme id).startKeys ((viewScheme id).arrange state.arrivals) =
      (state.starters.map Arrival.ownKey).map some := by
    rw [Scheme.startKeys, NearbyDevicesState.starters, List.map_map, List.map_map]
    exact List.map_congr_left fun g hg => key_starter (List.mem_map_of_mem hg)
  have hundisplaced : (viewScheme id).Undisplaced state.arrivals ↔ (state.starters.map Arrival.ownKey).Nodup := by
    rw [Scheme.undisplaced_iff, hkeys]
    exact List.nodup_map_iff (Option.some_injective _)
  constructor
  · exact fun h => hundisplaced.mp ((kept_iff state).mp h.kept)
  · intro h
    have h := hundisplaced.mpr h
    refine ⟨fun d hd hkey x hx => ?_, fun d hd hkey x hx => ?_, (kept_iff state).mpr h⟩
    · have ha : Arrival.lan d ∈ state.arrivals := List.mem_append_left _ (List.mem_map_of_mem hd)
      exact endpoints_shown h ha hkey hx
    · have ha : Arrival.signaling d ∈ state.arrivals := List.mem_append_right _ (List.mem_map_of_mem hd)
      exact endpoints_shown h ha hkey hx

/-- Two devices of a signaling server, of different names, with the same token. -/
def sharedToken : NearbyDevicesState where
  devices := []
  signalingDevices :=
    [("t", [⟨"2.1", "Mac", none, .desktop, false, [.signaling ⟨"1", "s", "t"⟩], []⟩,
      ⟨"2.1", "iPhone", none, .mobile, false, [.signaling ⟨"2", "s", "t"⟩], []⟩])]

/-- The second one overwrites the first. -/
theorem sharedToken_lost : ¬sharedToken.Lossless := by
  intro h
  obtain ⟨e, he, hx⟩ := h.signaling ⟨"2.1", "Mac", none, .desktop, false, [.signaling ⟨"1", "s", "t"⟩], []⟩
    (by decide) (by decide) (.signaling ⟨"1", "s", "t"⟩) (by decide)
  have hview : sharedToken.allDevices =
      [("t", ⟨"2.1", "iPhone", none, .mobile, false, [.signaling ⟨"2", "s", "t"⟩], []⟩)] := by decide
  rw [hview, List.mem_singleton] at he
  subst he
  exact absurd hx (by decide)

end MagicShare.Nearby
