import Mathlib.Data.List.Forall2
import MagicShare.Base.Allotment
import MagicShare.Nearby.Device
import MagicShare.Pairing.UriForm

/-! The devices of the Send tab (`merged_network_devices_provider.dart`).

The devices of the local network come first. Each device of the account is folded into
the first of them that is not bound yet and announces its certificate hash; failing that,
into the first one that bears its name; failing that, it becomes an entry of its own. No
device is lost or listed twice, and what an entry was bound to stays (`merge_partition`). -/
namespace MagicShare.Nearby
open Pairing (trimmed toLowerCase)

inductive CloudDeviceIcon where
  | laptop | desktop | phone | tablet | server | headless | other
  deriving DecidableEq, Repr

/-- A device of the account. -/
structure CloudDevice where
  deviceId : String
  displayName : String
  icon : CloudDeviceIcon
  fingerprint : Option String
  deriving DecidableEq, Repr

structure MergedDevice where
  displayDevice : Device
  cloud : Option CloudDevice
  isLanReachable : Bool
  deriving DecidableEq, Repr

/-- What this device knows of itself. -/
structure OwnDevice where
  currentDeviceId : Option String
  ownFingerprint : Option String
  ownLocalIps : Option (List String)

def mapCloudIconToDeviceType : CloudDeviceIcon → DeviceType
  | .phone | .tablet => .mobile
  | .server => .server
  | .headless => .headless
  | .laptop | .desktop | .other => .desktop

def synthesizeDevice (cloud : CloudDevice) : Device where
  version := ""
  «alias» := cloud.displayName
  deviceModel := none
  deviceType := mapCloudIconToDeviceType cloud.icon
  download := false
  endpoints := []
  discoveryMethods := []

/-! ### The two filters -/

namespace OwnDevice
variable (own : OwnDevice)

def ownIpSet : List String := own.ownLocalIps.getD []

def isOwnFingerprint (h : String) : Bool :=
  match own.ownFingerprint with
  | some ownFingerprint => !ownFingerprint.isEmpty && h == ownFingerprint
  | none => false

/-- A device of the local network is listed unless it has no endpoint, announces the own
hash, or has an own address. -/
def keepsLan (d : Device) : Bool :=
  d.hasAnyEndpoint && !d.certHashes.any own.isOwnFingerprint &&
    (d.httpEndpoints.filter fun e => !e.ip.isEmpty && own.ownIpSet.contains e.ip).isEmpty

/-- A device of the account is listed unless it is this one, by its id or its hash. -/
def keepsCloud (c : CloudDevice) : Bool :=
  own.currentDeviceId != some c.deviceId && !c.fingerprint.any own.isOwnFingerprint

end OwnDevice

/-! ### The merge -/

section Merge
variable (other : Char → List Char)

/-- `alias.trim().toLowerCase()`. -/
def needleOf (name : String) : List Char := toLowerCase other (trimmed name.toList)

/-- The loop of `_findAliasMatchIndex`, from the entry `i` on. -/
def findAliasMatchFrom (needle : List Char) : Nat → Option Nat → List MergedDevice → Option Nat
  | _, cloudOnlyMatch, [] => cloudOnlyMatch
  | i, cloudOnlyMatch, entry :: entries =>
    if entry.cloud.isSome then findAliasMatchFrom needle (i + 1) cloudOnlyMatch entries
    else if needleOf other entry.displayDevice.alias ≠ needle then
      findAliasMatchFrom needle (i + 1) cloudOnlyMatch entries
    else if entry.isLanReachable then some i
    else findAliasMatchFrom needle (i + 1) (cloudOnlyMatch.or (some i)) entries

def findAliasMatchIndex (entries : List MergedDevice) (name : String) : Option Nat :=
  if name.isEmpty then none
  else
    let needle := needleOf other name
    if needle.isEmpty then none else findAliasMatchFrom other needle 0 none entries

def findCertHashIndex (entries : List MergedDevice) (c : CloudDevice) : Option Nat :=
  match c.fingerprint with
  | some certHash =>
    if certHash.isEmpty then none
    else entries.findIdx? fun e => e.cloud.isNone && e.displayDevice.certHashes.contains certHash
  | none => none

/-- The entry takes the name and the icon of the account, and keeps its endpoints. -/
def foldCloud (c : CloudDevice) (isLanReachable : Bool) (existing : MergedDevice) : MergedDevice where
  displayDevice :=
    { existing.displayDevice with «alias» := c.displayName, deviceType := mapCloudIconToDeviceType c.icon }
  cloud := some c
  isLanReachable := isLanReachable

/-- One round of the loop over the devices of the account. -/
def mergeCloudDevice (own : OwnDevice) (entries : List MergedDevice) (c : CloudDevice) : List MergedDevice :=
  if own.keepsCloud c then
    match findCertHashIndex entries c with
    | some idx => entries.modify idx (foldCloud c true)
    | none =>
      match findAliasMatchIndex other entries c.displayName with
      | some aliasIdx =>
        entries.modify aliasIdx fun existing => foldCloud c existing.isLanReachable existing
      | none => entries ++ [⟨synthesizeDevice c, some c, false⟩]
  else entries

def lanEntries (own : OwnDevice) (lan : List Device) : List MergedDevice :=
  (lan.filter own.keepsLan).map fun d => ⟨d, none, true⟩

def mergeNetworkDevices (own : OwnDevice) (lan : List Device) (cloud : List CloudDevice) : List MergedDevice :=
  cloud.foldl (mergeCloudDevice other own) (lanEntries own lan)

/-! ### What the entries are

The devices of the network are seats, and those of the account take them one after the
other: each would sit where its hash is announced, or else where its name is borne. -/

/-- The device announces the hash under which the account knows the other one. -/
def sharesCertHash (c : CloudDevice) (d : Device) : Bool :=
  c.fingerprint.any fun h => !h.isEmpty && d.certHashes.contains h

def sharesName (c : CloudDevice) (d : Device) : Bool :=
  !(needleOf other c.displayName).isEmpty && needleOf other d.alias == needleOf other c.displayName

/-- The positions among the devices of the network that a device of the account would take. -/
def wants (kept : List Device) (c : CloudDevice) : List Nat :=
  ((List.range kept.length).filter fun i => kept[i]?.any (sharesCertHash c)) ++
    (List.range kept.length).filter fun i => kept[i]?.any (sharesName other c)

/-- The entry of a device of the network. -/
def entryOf (d : Device) : Option CloudDevice → MergedDevice
  | some c => foldCloud c true ⟨d, none, true⟩
  | none => ⟨d, none, true⟩

def cloudOnly (c : CloudDevice) : MergedDevice := ⟨synthesizeDevice c, some c, false⟩

def view (kept : List Device) (s : Allotment.State Nat CloudDevice) : List MergedDevice :=
  (kept.mapIdx fun i d => entryOf d (s.taken i)) ++ s.left.map cloudOnly

@[simp] theorem entryOf_cloud (d : Device) (binding : Option CloudDevice) : (entryOf d binding).cloud = binding := by
  cases binding <;> rfl

@[simp] theorem entryOf_isLanReachable (d : Device) (binding : Option CloudDevice) :
    (entryOf d binding).isLanReachable = true := by
  cases binding <;> rfl

@[simp] theorem entryOf_endpoints (d : Device) (binding : Option CloudDevice) :
    (entryOf d binding).displayDevice.endpoints = d.endpoints := by
  cases binding <;> rfl

theorem view_empty (kept : List Device) :
    view kept Allotment.State.empty = kept.map fun d => ⟨d, none, true⟩ := by
  refine List.ext_getElem? fun i => ?_
  simp [view, Allotment.State.empty, entryOf]

theorem view_getElem?_lt {kept : List Device} (s : Allotment.State Nat CloudDevice) {i : Nat} {d : Device}
    (h : kept[i]? = some d) : (view kept s)[i]? = some (entryOf d (s.taken i)) := by
  have hi : i < kept.length := (List.getElem?_eq_some_iff.mp h).1
  rw [view, List.getElem?_append_left (by simpa using hi), List.getElem?_mapIdx, h]
  rfl

theorem view_getElem?_ge {kept : List Device} (s : Allotment.State Nat CloudDevice) {i : Nat}
    (h : kept.length ≤ i) : (view kept s)[i]? = (s.left[i - kept.length]?).map cloudOnly := by
  rw [view, List.getElem?_append_right (by simpa using h), List.length_mapIdx, List.getElem?_map]

theorem mem_view {kept : List Device} {s : Allotment.State Nat CloudDevice} {e : MergedDevice} :
    e ∈ view kept s ↔ (∃ i d, kept[i]? = some d ∧ e = entryOf d (s.taken i)) ∨ ∃ c ∈ s.left, e = cloudOnly c := by
  rw [view, List.mem_append, List.mem_mapIdx, List.mem_map]
  refine or_congr ⟨?_, ?_⟩ ⟨?_, ?_⟩
  · rintro ⟨i, hi, rfl⟩
    exact ⟨i, kept[i], List.getElem?_eq_getElem hi, rfl⟩
  · rintro ⟨i, d, hd, rfl⟩
    obtain ⟨hi, rfl⟩ := List.getElem?_eq_some_iff.mp hd
    exact ⟨i, hi, rfl⟩
  · exact fun ⟨c, hc, h⟩ => ⟨c, hc, h.symm⟩
  · exact fun ⟨c, hc, h⟩ => ⟨c, hc, h.symm⟩

/-- An entry that is not bound is the device of the network as it was announced. -/
theorem mem_view_unbound {kept : List Device} {s : Allotment.State Nat CloudDevice} {e : MergedDevice}
    (he : e ∈ view kept s) (h : e.cloud = none) : e.isLanReachable = true := by
  obtain ⟨i, d, -, rfl⟩ | ⟨c, -, rfl⟩ := mem_view.mp he
  · exact entryOf_isLanReachable ..
  · cases h

/-- The first entry that is free and meets `p` is the first free seat whose device does. -/
theorem findIdx?_view (kept : List Device) (s : Allotment.State Nat CloudDevice) (p : Device → Bool) :
    ((view kept s).findIdx? fun e => e.cloud.isNone && p e.displayDevice) =
      ((List.range kept.length).filter fun i => kept[i]?.any p).find? fun i => (s.taken i).isNone := by
  have hentry : ∀ i d, kept[i]? = some d →
      ((entryOf d (s.taken i)).cloud.isNone && p (entryOf d (s.taken i)).displayDevice) =
        decide (kept[i]?.any p = true ∧ (s.taken i).isNone = true) := by
    intro i d hd
    cases ht : s.taken i <;> simp [entryOf, foldCloud, hd]
  have htail : ((s.left.map cloudOnly).findIdx? fun e => e.cloud.isNone && p e.displayDevice) = none := by
    refine List.findIdx?_eq_none_iff.mpr fun e he => ?_
    obtain ⟨c, -, rfl⟩ := List.mem_map.mp he
    rfl
  rw [view, List.findIdx?_append, htail, Option.map_none, Option.or_none, List.find?_filter]
  refine Option.ext fun i => ?_
  rw [List.findIdx?_eq_some_iff_getElem, List.find?_range_eq_some]
  constructor
  · rintro ⟨hi, hp, hbefore⟩
    rw [List.length_mapIdx] at hi
    rw [List.getElem_mapIdx, hentry i _ (List.getElem?_eq_getElem hi)] at hp
    refine ⟨hp, List.mem_range.mpr hi, fun j hj => ?_⟩
    have hj' := hbefore j hj
    rw [List.getElem_mapIdx, hentry j _ (List.getElem?_eq_getElem (hj.trans hi)), Bool.not_eq_true] at hj'
    rw [hj']
    rfl
  · rintro ⟨hp, hi, hbefore⟩
    have hi := List.mem_range.mp hi
    refine ⟨by simpa using hi, ?_, fun j hj => ?_⟩
    · rw [List.getElem_mapIdx, hentry i _ (List.getElem?_eq_getElem hi)]
      exact hp
    · rw [List.getElem_mapIdx, hentry j _ (List.getElem?_eq_getElem (hj.trans hi)), Bool.not_eq_true]
      simpa only [Bool.not_eq_true'] using hbefore j hj

/-! ### The two searches -/

theorem findIdx?_false (entries : List MergedDevice) : entries.findIdx? (fun _ => false) = none :=
  List.findIdx?_eq_none_iff.mpr fun _ _ => rfl

theorem findCertHashIndex_eq (entries : List MergedDevice) (c : CloudDevice) :
    findCertHashIndex entries c =
      entries.findIdx? fun e => e.cloud.isNone && sharesCertHash c e.displayDevice := by
  cases hf : c.fingerprint with
  | none => simp [findCertHashIndex, sharesCertHash, hf, findIdx?_false]
  | some h =>
    by_cases hh : h.isEmpty
    · simp [findCertHashIndex, sharesCertHash, hf, hh, findIdx?_false]
    · simp [findCertHashIndex, sharesCertHash, hf, hh]

/-- Where every free entry is one of the network, the loop stops at the first one with the name. -/
theorem findAliasMatchFrom_eq (needle : List Char) {entries : List MergedDevice}
    (h : ∀ e ∈ entries, e.cloud = none → e.isLanReachable = true) (i : Nat) :
    findAliasMatchFrom other needle i none entries =
      (entries.findIdx? fun e => e.cloud.isNone && needleOf other e.displayDevice.alias == needle).map (· + i) := by
  induction entries generalizing i with
  | nil => rfl
  | cons e entries ih =>
    have ih := ih (fun e he => h e (List.mem_cons_of_mem _ he)) (i + 1)
    have hshift : ∀ o : Option Nat, (o.map (· + 1)).map (· + i) = o.map (· + (i + 1)) := by
      intro o
      cases o <;> simp; omega
    rw [findAliasMatchFrom, List.findIdx?_cons]
    by_cases hbound : e.cloud.isSome
    · simp [hbound, ih, hshift, Option.isNone_iff_eq_none, Option.isSome_iff_ne_none.mp hbound]
    · have hfree : e.cloud = none := by simpa using hbound
      by_cases hneedle : needleOf other e.displayDevice.alias = needle
      · simp [hfree, hneedle, h e List.mem_cons_self hfree]
      · simp [hfree, hneedle, ih, hshift]

theorem findAliasMatchIndex_eq {entries : List MergedDevice}
    (h : ∀ e ∈ entries, e.cloud = none → e.isLanReachable = true) (c : CloudDevice) :
    findAliasMatchIndex other entries c.displayName =
      entries.findIdx? fun e => e.cloud.isNone && sharesName other c e.displayDevice := by
  rw [findAliasMatchIndex]
  by_cases hneedle : needleOf other c.displayName = []
  · simp [sharesName, hneedle, findIdx?_false]
  · have hname : ¬c.displayName.isEmpty := by
      intro hname
      rw [String.isEmpty_iff] at hname
      exact hneedle (by rw [hname]; rfl)
    have hlist : (needleOf other c.displayName).isEmpty = false := by simpa using hneedle
    simp [hname, hlist, sharesName, findAliasMatchFrom_eq other _ h 0]

/-! ### The merge gives the seats out -/

theorem modify_view {kept : List Device} {s : Allotment.State Nat CloudDevice} {i : Nat} (c : CloudDevice)
    (hi : i < kept.length) (hfree : s.taken i = none) {f : MergedDevice → MergedDevice}
    (hf : f (entryOf kept[i] none) = entryOf kept[i] (some c)) :
    (view kept s).modify i f = view kept { s with taken := Function.update s.taken i (some c) } := by
  refine List.ext_getElem? fun j => ?_
  rw [List.getElem?_modify]
  by_cases hj : j < kept.length
  · have hget := List.getElem?_eq_getElem hj
    rw [view_getElem?_lt s hget, view_getElem?_lt _ hget]
    by_cases hij : i = j
    · subst hij
      simp [hfree, hf]
    · simp [hij, Function.update_of_ne (Ne.symm hij)]
  · have hge : kept.length ≤ j := Nat.le_of_not_lt hj
    have hij : i ≠ j := by omega
    simp [view_getElem?_ge _ hge, hij]

theorem mergeCloudDevice_view {own : OwnDevice} (kept : List Device) (s : Allotment.State Nat CloudDevice)
    {c : CloudDevice} (hc : own.keepsCloud c = true) :
    mergeCloudDevice other own (view kept s) c = view kept (Allotment.step (wants other kept) s c) := by
  have hpick : Allotment.pick (wants other kept) s c =
      (findCertHashIndex (view kept s) c).or (findAliasMatchIndex other (view kept s) c.displayName) := by
    rw [findCertHashIndex_eq, findAliasMatchIndex_eq other fun e he => mem_view_unbound he, findIdx?_view,
      findIdx?_view, Allotment.pick, wants, List.find?_append]
  have hin : ∀ i ∈ wants other kept c, i < kept.length := by
    intro i hi
    rcases List.mem_append.mp hi with hi | hi <;> exact List.mem_range.mp (List.mem_filter.mp hi).1
  rw [mergeCloudDevice, if_pos hc]
  obtain ⟨i, hi, hwants, hfree, hs⟩ | ⟨hnone, -, hs⟩ := Allotment.step_cases (wants other kept) s c
  · have hlt := hin i hwants
    rw [hs]
    rw [hpick] at hi
    cases hcert : findCertHashIndex (view kept s) c with
    | some idx =>
      rw [hcert, Option.some_or, Option.some_inj] at hi
      subst hi
      exact modify_view c hlt hfree rfl
    | none =>
      rw [hcert, Option.none_or] at hi
      rw [hi]
      exact modify_view c hlt hfree rfl
  · rw [hpick, Option.or_eq_none_iff] at hnone
    rw [hnone.1, hnone.2, hs]
    simp [view, cloudOnly]

/-- The devices of the account that are listed. -/
def listed (own : OwnDevice) (cloud : List CloudDevice) : List CloudDevice := cloud.filter own.keepsCloud

def allotted (own : OwnDevice) (lan : List Device) (cloud : List CloudDevice) : Allotment.State Nat CloudDevice :=
  Allotment.allot (wants other (lan.filter own.keepsLan)) (listed own cloud)

/-- The result of the merge: the listed devices of the account take their seats among
those of the network, in the order in which they come. -/
theorem mergeNetworkDevices_eq (own : OwnDevice) (lan : List Device) (cloud : List CloudDevice) :
    mergeNetworkDevices other own lan cloud =
      view (lan.filter own.keepsLan) (allotted other own lan cloud) := by
  have hrun : ∀ s : Allotment.State Nat CloudDevice,
      cloud.foldl (mergeCloudDevice other own) (view (lan.filter own.keepsLan) s) =
        view (lan.filter own.keepsLan)
          (Allotment.run (wants other (lan.filter own.keepsLan)) s (listed own cloud)) := by
    induction cloud with
    | nil => exact fun _ => rfl
    | cons c cloud ih =>
      intro s
      rw [List.foldl_cons]
      by_cases hc : own.keepsCloud c = true
      · have hcons : listed own (c :: cloud) = c :: listed own cloud := List.filter_cons_of_pos hc
        rw [mergeCloudDevice_view other _ s hc, ih, hcons, Allotment.run_cons]
      · have hcons : listed own (c :: cloud) = listed own cloud := List.filter_cons_of_neg hc
        rw [mergeCloudDevice, if_neg hc, ih, hcons]
  rw [mergeNetworkDevices, lanEntries, ← view_empty, hrun]
  rfl

/-! ### A partition -/

/-- The entry stems from a device of the network: with its endpoints, and with the name
and the icon of the account if it is bound. -/
structure StemsFrom (d : Device) (e : MergedDevice) : Prop where
  isLanReachable : e.isLanReachable = true
  endpoints : e.displayDevice.endpoints = d.endpoints
  otherwise : e = entryOf d e.cloud

/-- No device is lost, none is listed twice, and nothing else is listed. -/
structure Partitions (own : OwnDevice) (lan : List Device) (cloud : List CloudDevice) : Prop where
  /-- The devices of the network in their order, then those that only the account knows. -/
  entries : ∃ reachable rest, mergeNetworkDevices other own lan cloud = reachable ++ rest ∧
    List.Forall₂ StemsFrom (lan.filter own.keepsLan) reachable ∧
    ∀ e ∈ rest, e.isLanReachable = false ∧ ∃ c ∈ cloud, own.keepsCloud c = true ∧ e = cloudOnly c
  bound : ∀ c ∈ cloud, own.keepsCloud c = true →
    ∃! i : Nat, ∃ e, (mergeNetworkDevices other own lan cloud)[i]? = some e ∧ e.cloud = some c
  noOther : ∀ e ∈ mergeNetworkDevices other own lan cloud, ∀ c, e.cloud = some c →
    c ∈ cloud ∧ own.keepsCloud c = true
  /-- What an entry is bound to by some round of the loop, it is bound to at its end. -/
  kept : ∀ before after, cloud = before ++ after → ∀ (i : Nat) (e : MergedDevice),
    (mergeNetworkDevices other own lan before)[i]? = some e → e.cloud ≠ none →
    (mergeNetworkDevices other own lan cloud)[i]? = some e

theorem mem_listed {own : OwnDevice} {cloud : List CloudDevice} {c : CloudDevice} :
    c ∈ listed own cloud ↔ c ∈ cloud ∧ own.keepsCloud c = true := List.mem_filter

theorem allotted_append (own : OwnDevice) (lan : List Device) (before after : List CloudDevice) :
    allotted other own lan (before ++ after) =
      Allotment.run (wants other (lan.filter own.keepsLan)) (allotted other own lan before) (listed own after) := by
  rw [allotted, listed, List.filter_append]
  exact Allotment.run_append ..

/-- The seats are positions of the kept devices. -/
theorem taken_lt {own : OwnDevice} {lan : List Device} {cloud : List CloudDevice} {i : Nat} {c : CloudDevice}
    (h : (allotted other own lan cloud).taken i = some c) : i < (lan.filter own.keepsLan).length := by
  rcases List.mem_append.mp (Allotment.allot_seated _ h).2 with hi | hi <;>
    exact List.mem_range.mp (List.mem_filter.mp hi).1

/-- An entry of the list is bound to `c` where `c` has its seat, or where it is left over. -/
theorem view_bound {kept : List Device} {s : Allotment.State Nat CloudDevice}
    (hin : ∀ i c, s.taken i = some c → i < kept.length) {i : Nat} {c : CloudDevice} :
    (∃ e, (view kept s)[i]? = some e ∧ e.cloud = some c) ↔
      s.taken i = some c ∨ kept.length ≤ i ∧ s.left[i - kept.length]? = some c := by
  by_cases hi : i < kept.length
  · rw [view_getElem?_lt s (List.getElem?_eq_getElem hi)]
    constructor
    · rintro ⟨e, he, hc⟩
      rw [Option.some_inj] at he
      subst he
      exact .inl ((entryOf_cloud ..).symm.trans hc)
    · rintro (h | ⟨hle, -⟩)
      · exact ⟨_, rfl, (entryOf_cloud ..).trans h⟩
      · omega
  · have hge : kept.length ≤ i := Nat.le_of_not_lt hi
    rw [view_getElem?_ge s hge]
    constructor
    · rintro ⟨e, he, hc⟩
      obtain ⟨c', hc', rfl⟩ := Option.map_eq_some_iff.mp he
      exact .inr ⟨hge, hc'.trans hc⟩
    · rintro (h | ⟨-, h⟩)
      · exact absurd (hin i c h) hi
      · exact ⟨cloudOnly c, by rw [h]; rfl, rfl⟩

theorem merge_kept (own : OwnDevice) (lan : List Device) (before after : List CloudDevice) {i : Nat}
    {e : MergedDevice} (he : (mergeNetworkDevices other own lan before)[i]? = some e) (hbound : e.cloud ≠ none) :
    (mergeNetworkDevices other own lan (before ++ after))[i]? = some e := by
  rw [mergeNetworkDevices_eq] at he ⊢
  rw [allotted_append]
  by_cases hi : i < (lan.filter own.keepsLan).length
  · have hget := List.getElem?_eq_getElem hi
    rw [view_getElem?_lt _ hget, Option.some_inj] at he
    rw [view_getElem?_lt _ hget]
    cases ht : (allotted other own lan before).taken i with
    | none =>
      rw [ht] at he
      exact absurd (by rw [← he]; rfl) hbound
    | some c => rw [Allotment.run_keeps ht, ← he, ht]
  · have hge : (lan.filter own.keepsLan).length ≤ i := Nat.le_of_not_lt hi
    rw [view_getElem?_ge _ hge] at he ⊢
    obtain ⟨c, hc, rfl⟩ := Option.map_eq_some_iff.mp he
    obtain ⟨more, hmore⟩ := Allotment.run_left (wants other (lan.filter own.keepsLan))
      (allotted other own lan before) (listed own after)
    rw [← hmore, List.getElem?_append_left (List.getElem?_eq_some_iff.mp hc).1, hc]
    rfl

/-- Merging is a partition of the devices: each device of the network that passes the
filters has one entry, each other device of the account one binding. -/
theorem merge_partition (own : OwnDevice) (lan : List Device) (cloud : List CloudDevice)
    (hids : (cloud.map CloudDevice.deviceId).Nodup) : Partitions other own lan cloud := by
  have hnodup : (listed own cloud).Nodup := (List.Nodup.of_map _ hids).filter _
  have hplaced : Allotment.Placed (wants other (lan.filter own.keepsLan)) (listed own cloud)
      (allotted other own lan cloud) := Allotment.placed_allot hnodup
  have hin : ∀ i c, (allotted other own lan cloud).taken i = some c → i < (lan.filter own.keepsLan).length :=
    fun i c h => taken_lt other h
  refine ⟨?_, fun c hc hkeeps => ?_, fun e he c hc => ?_, ?_⟩
  · refine ⟨_, _, mergeNetworkDevices_eq other own lan cloud, ?_, ?_⟩
    · rw [List.forall₂_iff_get]
      refine ⟨by simp, fun i hi hi' => ?_⟩
      rw [List.get_eq_getElem, List.get_eq_getElem, List.getElem_mapIdx]
      exact ⟨entryOf_isLanReachable .., entryOf_endpoints .., by rw [entryOf_cloud]⟩
    · intro e he
      obtain ⟨c, hc, rfl⟩ := List.mem_map.mp he
      exact ⟨rfl, c, (mem_listed.mp (hplaced.apart c hc).1).1, (mem_listed.mp (hplaced.apart c hc).1).2, rfl⟩
  · simp only [mergeNetworkDevices_eq, view_bound hin]
    rcases hplaced.somewhere c (mem_listed.mpr ⟨hc, hkeeps⟩) with hleft | ⟨i, hi⟩
    · obtain ⟨k, hk⟩ := List.mem_iff_getElem?.mp hleft
      refine ⟨(lan.filter own.keepsLan).length + k, .inr ⟨by omega, by simpa using hk⟩, ?_⟩
      rintro j (hj | ⟨hle, hj⟩)
      · exact absurd hj ((hplaced.apart c hleft).2 j)
      · have hkj : k = j - (lan.filter own.keepsLan).length :=
          (List.getElem?_inj (List.getElem?_eq_some_iff.mp hk).1 hplaced.leftOnce).mp (hk.trans hj.symm)
        omega
    · refine ⟨i, .inl hi, ?_⟩
      rintro j (hj | ⟨-, hj⟩)
      · exact hplaced.once j i c hj hi
      · exact absurd hi ((hplaced.apart c (List.mem_of_getElem? hj)).2 i)
  · rw [mergeNetworkDevices_eq] at he
    obtain ⟨i, d, -, rfl⟩ | ⟨c', hc', rfl⟩ := mem_view.mp he
    · rw [entryOf_cloud] at hc
      exact mem_listed.mp (hplaced.seated i c hc).1
    · cases hc
      exact mem_listed.mp (hplaced.apart c hc').1
  · rintro before after rfl i e he hbound
    exact merge_kept other own lan before after he hbound

/-- A device with an address of its own, and one of the account that is not this one. -/
theorem merge_partition_two :
    Partitions (fun c => [c]) ⟨some "self", none, none⟩
      [⟨"2.1", "Mac", none, .desktop, false, [.http ⟨"192.168.0.2", 53317, true, "ab"⟩], []⟩]
      [⟨"self", "This", .phone, none⟩, ⟨"other", "Mac", .laptop, some "ab"⟩] :=
  merge_partition _ _ _ _ (by decide)

end Merge
end MagicShare.Nearby
