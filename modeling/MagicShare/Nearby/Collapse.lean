import Mathlib.Logic.Relation
import MagicShare.Nearby.AllDevices

/-! Which devices of the network become one (`allDevices`, first pass).

The entries of the network are keyed by the address, so a device with several interfaces
has several entries; those with a certificate hash in common are collapsed into one. An
entry joins the first one it shares a hash with, and what is together then stays together:
so the result depends on the order, and the empty hash of a device without a certificate
counts like any other. The entries are collapsed by identity in every order exactly if
sharing a hash, the empty one included, is identity already, and no two different devices
compete for a key (`collapsesExactly_iff`). -/
namespace MagicShare.Nearby
open Grouping

/-- The map of the devices of the network, in some order. -/
structure LanDevices where
  entries : List (String × Device)
  distinct : (Dict.keys entries).Nodup

namespace LanDevices
variable (devices : LanDevices)

/-- Two entries announce one certificate. -/
def Identified (x y : String × Device) : Prop := ∃ h, h ≠ "" ∧ h ∈ x.2.certHashes ∧ h ∈ y.2.certHashes

def Linked (x y : String × Device) : Prop := x ∈ devices.entries ∧ y ∈ devices.entries ∧ Identified x y

/-- A chain of entries, each of which announces one certificate with the next. -/
def Connected : String × Device → String × Device → Prop := Relation.TransGen devices.Linked

end LanDevices

/-- The entry at an address, on its way into the view. -/
def lanSource (x : String × Device) : Arrival := .lan x.2

/-- The entries of the network that each device of the view is made of. -/
def collapse (order : List (String × Device)) : List (String × Cluster (String × Device)) :=
  (viewScheme lanSource).collect order

/-- The view of the network is made of these. -/
theorem allDevices_collapse (order : List (String × Device)) :
    (⟨order, []⟩ : NearbyDevicesState).allDevices = entries lanSource (collapse order) := by
  rw [allDevices_eq_foldl, collapse, ← foldl_add]
  have harrivals : (⟨order, []⟩ : NearbyDevicesState).arrivals = order.map lanSource := by
    simp [NearbyDevicesState.arrivals, NearbyDevicesState.lanDevices, NearbyDevicesState.signalingList, lanSource]
  rw [harrivals]

/-- In whatever order the map is gone through, two entries end up in one device exactly if
a chain of certificates connects them. -/
def CollapsesExactly (devices : LanDevices) : Prop :=
  ∀ order, order.Perm devices.entries → ∀ x ∈ devices.entries, ∀ y ∈ devices.entries, x ≠ y →
    (Together (collapse order) x y ↔ devices.Connected x y)

/-- Sharing a hash is being connected, and keys keep apart what is not. -/
structure HashesIdentify (devices : LanDevices) : Prop where
  connected : ∀ x ∈ devices.entries, ∀ y ∈ devices.entries, x ≠ y →
    (devices.Connected x y ↔ stableLanKey x.2 ≠ "" ∧ sharesHash x.2 y.2 = true)
  apart : ∀ x ∈ devices.entries, ∀ y ∈ devices.entries, x ≠ y → devices.Connected x y →
    ∀ d ∈ devices.entries, d ≠ x → sharesHash x.2 d.2 = false → stableLanKey x.2 ≠ stableLanKey d.2

/-! ### The groups are those of a relation -/

def lanKey (x : String × Device) : Option String := if (stableLanKey x.2).isEmpty then none else some (stableLanKey x.2)

theorem isSome_lanKey {x : String × Device} : (lanKey x).isSome ↔ stableLanKey x.2 ≠ "" := by
  rw [lanKey]
  by_cases h : stableLanKey x.2 = "" <;> simp [h]

theorem lanKey_eq {x d : String × Device} (hx : stableLanKey x.2 ≠ "") :
    lanKey x = lanKey d ↔ stableLanKey x.2 = stableLanKey d.2 := by
  rw [lanKey, lanKey, if_neg (by simpa using hx)]
  by_cases hd : stableLanKey d.2 = ""
  · simp [hd, hx]
  · rw [if_neg (by simpa using hd), Option.some_inj]

theorem viewScheme_lan : viewScheme lanSource = sharing lanKey fun x y => sharesHash x.2 y.2 := by
  have hcriteria : ∀ a : String × Device,
      (fun g => sharesHash (deviceOf lanSource g) a.2) = fun g => g.items.any fun m => sharesHash m.2 a.2 := by
    intro a
    funext g
    rw [Bool.eq_iff_iff, sharesHash_iff, List.any_eq_true]
    simp only [mem_certHashes_deviceOf, sharesHash_iff]
    constructor
    · rintro ⟨h, ⟨m, hm, hmh⟩, ha⟩
      exact ⟨m, hm, h, hmh, ha⟩
    · rintro ⟨m, hm, h, hmh, ha⟩
      exact ⟨h, ⟨m, hm, hmh⟩, ha⟩
  have hall : (viewScheme lanSource).criteria = (sharing lanKey fun x y => sharesHash x.2 y.2).criteria := by
    funext a
    exact congrArg (fun c => [c]) (hcriteria a)
  exact congrArg (Scheme.mk lanKey) hall

theorem sharesHash_comm (d d' : Device) : sharesHash d d' = sharesHash d' d := by
  rw [Bool.eq_iff_iff, sharesHash_iff, sharesHash_iff]
  exact ⟨fun ⟨h, hd, hd'⟩ => ⟨h, hd', hd⟩, fun ⟨h, hd', hd⟩ => ⟨h, hd, hd'⟩⟩

namespace LanDevices
variable {devices : LanDevices}

theorem Linked.symm {x y : String × Device} (h : devices.Linked x y) : devices.Linked y x := by
  obtain ⟨hx, hy, c, hc, hcx, hcy⟩ := h
  exact ⟨hy, hx, c, hc, hcy, hcx⟩

theorem Connected.symm {x y : String × Device} (h : devices.Connected x y) : devices.Connected y x := by
  have hlinked : Std.Symm devices.Linked := ⟨fun _ _ h => h.symm⟩
  exact Relation.TransGen.stdSymm.symm _ _ h

end LanDevices

/-- The entries are collapsed by identity, in every order, exactly if sharing a hash is
being connected and no two different devices compete for a key. -/
theorem collapsesExactly_iff (devices : LanDevices) : CollapsesExactly devices ↔ HashesIdentify devices := by
  have hgroups : CollapsesExactly devices ↔
      Classes lanKey (fun x y => sharesHash x.2 y.2) devices.entries devices.Connected := by
    have hrefl := together_iff lanKey (C := devices.Connected) (fun x y => sharesHash_comm x.2 y.2)
      (fun _ _ h => LanDevices.Connected.symm h) (fun _ _ _ h h' => Relation.TransGen.trans h h')
      (List.Nodup.of_map _ devices.distinct)
    rw [← hrefl, ← viewScheme_lan]
    rfl
  rw [hgroups]
  constructor
  · intro h
    have hconnected : ∀ x ∈ devices.entries, ∀ y ∈ devices.entries, x ≠ y →
        (devices.Connected x y ↔ stableLanKey x.2 ≠ "" ∧ sharesHash x.2 y.2 = true) :=
      fun x hx y hy hxy => (h.shared x hx y hy hxy).trans (and_congr_left' isSome_lanKey)
    refine ⟨hconnected, fun x hx y hy hxy hC d hd hdx hfar hkeys => ?_⟩
    exact h.apart x hx y hy hxy hC d hd hdx hfar ((lanKey_eq ((hconnected x hx y hy hxy).mp hC).1).mpr hkeys)
  · intro h
    refine ⟨fun x hx y hy hxy => (h.connected x hx y hy hxy).trans (and_congr_left' isSome_lanKey.symm), ?_⟩
    intro x hx y hy hxy hC d hd hdx hfar hkeys
    exact h.apart x hx y hy hxy hC d hd hdx hfar
      ((lanKey_eq ((h.connected x hx y hy hxy).mp hC).1).mp hkeys)

/-- Two devices without a certificate, at different addresses. -/
def certLess : LanDevices where
  entries :=
    [("10.0.0.1", ⟨"2.1", "Mac", none, .desktop, false, [.http ⟨"10.0.0.1", 53317, false, ""⟩], []⟩),
      ("10.0.0.2", ⟨"2.1", "iPhone", none, .mobile, false, [.http ⟨"10.0.0.2", 53317, false, ""⟩], []⟩)]
  distinct := by decide

/-- They become one device, although they have no certificate in common. -/
theorem certLess_merged : ¬CollapsesExactly certLess := by
  intro h
  have hconnected : certLess.Connected certLess.entries[0] certLess.entries[1] := by
    refine (h _ (List.Perm.refl _) _ (List.getElem_mem _) _ (List.getElem_mem _) (by decide)).mp ?_
    exact ⟨_, List.mem_singleton.mpr rfl, List.mem_cons_self, List.mem_cons_of_mem _ List.mem_cons_self⟩
  have hnone : ∀ x ∈ certLess.entries, ∀ h ∈ x.2.certHashes, h = "" := by decide
  obtain ⟨z, ⟨-, -, c, hc, hcz, -⟩, -⟩ := Relation.TransGen.head'_iff.mp hconnected
  exact hc (hnone _ (List.getElem_mem _) c hcz)

end MagicShare.Nearby
