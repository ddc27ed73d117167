import Mathlib.Data.List.Nodup
import Mathlib.Data.List.Basic
import Mathlib.Logic.Function.Basic

/-! Maps that keep the order in which their keys came.

A map is the list of its entries. Storing under a key that is there replaces the value and
keeps the place of the entry; storing under a new key adds the entry at the end. -/
namespace Dict
variable {κ ν : Type*} [DecidableEq κ]

def keys (d : List (κ × ν)) : List κ := d.map Prod.fst

def get (d : List (κ × ν)) (k : κ) : Option ν := (d.find? fun e => decide (e.1 = k)).map Prod.snd

def put (d : List (κ × ν)) (k : κ) (v : ν) : List (κ × ν) :=
  if k ∈ keys d then d.map fun e => if e.1 = k then (k, v) else e else d ++ [(k, v)]

theorem keys_put (d : List (κ × ν)) (k : κ) (v : ν) :
    keys (put d k v) = if k ∈ keys d then keys d else keys d ++ [k] := by
  rw [put]
  split
  · rw [keys, keys, List.map_map]
    refine List.map_congr_left fun e _ => ?_
    by_cases he : e.1 = k <;> simp [he]
  · simp [keys]

theorem nodup_put {d : List (κ × ν)} (h : (keys d).Nodup) (k : κ) (v : ν) : (keys (put d k v)).Nodup := by
  rw [keys_put]
  split
  · exact h
  · rename_i hk
    exact List.nodup_append.mpr ⟨h, List.nodup_singleton k, by
      rintro a ha b hb rfl
      exact hk (List.mem_singleton.mp hb ▸ ha)⟩

theorem mem_put {d : List (κ × ν)} {k : κ} {v : ν} {e : κ × ν} :
    e ∈ put d k v ↔ e = (k, v) ∨ e ∈ d ∧ e.1 ≠ k := by
  rw [put]
  split
  · rename_i hk
    rw [List.mem_map]
    constructor
    · rintro ⟨a, ha, rfl⟩
      by_cases hak : a.1 = k
      · exact .inl (if_pos hak)
      · exact .inr (by rw [if_neg hak]; exact ⟨ha, hak⟩)
    · rintro (rfl | ⟨he, hek⟩)
      · obtain ⟨a, ha, rfl⟩ := List.mem_map.mp hk
        exact ⟨a, ha, if_pos rfl⟩
      · exact ⟨e, he, if_neg hek⟩
  · rename_i hk
    rw [List.mem_append, List.mem_singleton]
    constructor
    · rintro (he | rfl)
      · exact .inr ⟨he, fun hek => hk (hek ▸ List.mem_map_of_mem he)⟩
      · exact .inl rfl
    · rintro (rfl | ⟨he, -⟩)
      · exact .inr rfl
      · exact .inl he

theorem get_cons (e : κ × ν) (d : List (κ × ν)) (k : κ) : get (e :: d) k = if e.1 = k then some e.2 else get d k := by
  by_cases he : e.1 = k <;> simp [get, he]

theorem get_replace (d : List (κ × ν)) (k k' : κ) (v : ν) :
    get (d.map fun e => if e.1 = k then (k, v) else e) k' = if k' = k ∧ k ∈ keys d then some v else get d k' := by
  induction d with
  | nil => simp [get, keys]
  | cons e d ih =>
    rw [List.map_cons, get_cons, get_cons, ih]
    by_cases hek : e.1 = k
    · by_cases hkk : k' = k
      · simp [hek, hkk, keys]
      · simp [hek, hkk, Ne.symm hkk]
    · have hkeys : k ∈ keys (e :: d) ↔ k ∈ keys d := by simp [keys, Ne.symm hek]
      by_cases hkk : k' = k
      · simp [hek, hkk, hkeys]
      · simp [hek, hkk]

theorem get_put (d : List (κ × ν)) (k k' : κ) (v : ν) : get (put d k v) k' = if k' = k then some v else get d k' := by
  rw [put]
  split
  · rename_i hk
    simp [get_replace, hk]
  · rename_i hk
    induction d with
    | nil => simp [get, eq_comm]
    | cons e d ih =>
      obtain ⟨hek, hkd⟩ : k ≠ e.1 ∧ k ∉ keys d := by simpa [keys] using hk
      rw [List.cons_append, get_cons, get_cons, ih hkd]
      by_cases hkk : k' = k
      · simp [hkk, Ne.symm hek]
      · simp [hkk]

/-- The entries but those under a key. -/
def remove (d : List (κ × ν)) (k : κ) : List (κ × ν) := d.filter fun e => decide (e.1 ≠ k)

theorem get_remove (d : List (κ × ν)) (k k' : κ) : get (remove d k) k' = if k' = k then none else get d k' := by
  induction d with
  | nil => simp [remove, get]
  | cons e d ih =>
    have ih : get (d.filter fun e => decide (e.1 ≠ k)) k' = if k' = k then none else get d k' := ih
    rw [remove, List.filter_cons, get_cons]
    by_cases hek : e.1 = k
    · rw [if_neg (by simp [hek]), ih]
      by_cases hkk : k' = k
      · simp [hkk]
      · have hne : e.1 ≠ k' := fun h => hkk (h.symm.trans hek)
        simp [hkk, hne]
    · rw [if_pos (by simp [hek]), get_cons, ih]
      by_cases hkk : k' = k
      · have hne : e.1 ≠ k' := fun h => hek (h.trans hkk)
        simp [hkk, hek]
      · simp [hkk]

theorem nodup_remove {d : List (κ × ν)} (h : (keys d).Nodup) (k : κ) : (keys (remove d k)).Nodup :=
  h.sublist (List.filter_sublist.map Prod.fst)

theorem get_foldl_remove (ks : List κ) (d : List (κ × ν)) (k : κ) :
    get (ks.foldl remove d) k = if k ∈ ks then none else get d k := by
  induction ks generalizing d with
  | nil => simp
  | cons k' ks ih =>
    rw [List.foldl_cons, ih, get_remove]
    by_cases hk : k = k' <;> simp [hk]

/-- The values changed, under the same keys. -/
def mapValues (d : List (κ × ν)) (f : ν → ν) : List (κ × ν) := d.map fun e => (e.1, f e.2)

theorem get_mapValues (d : List (κ × ν)) (f : ν → ν) (k : κ) : get (mapValues d f) k = (get d k).map f := by
  induction d with
  | nil => rfl
  | cons e d ih =>
    have ih : get (d.map fun e => (e.1, f e.2)) k = (get d k).map f := ih
    rw [mapValues, List.map_cons, get_cons, get_cons, ih]
    split <;> rfl

/-- With distinct keys, what stands at a position is what its key is mapped to. -/
theorem get_of_getElem? {d : List (κ × ν)} (h : (keys d).Nodup) {i : Nat} {k : κ} {v : ν}
    (hi : d[i]? = some (k, v)) : get d k = some v := by
  have hmem : (k, v) ∈ d := List.mem_of_getElem? hi
  cases hf : d.find? fun e => decide (e.1 = k) with
  | none =>
    have := List.find?_eq_none.mp hf (k, v) hmem
    simp at this
  | some e =>
    have hek : e.1 = k := by simpa using List.find?_some hf
    have he : e = (k, v) := List.inj_on_of_nodup_map h (List.mem_of_find?_eq_some hf) hmem hek
    rw [get, hf, he]
    rfl

/-- Storing under the key at a position changes the entry at that position. -/
theorem put_of_getElem? {d : List (κ × ν)} (h : (keys d).Nodup) {i : Nat} {k : κ} {v : ν}
    (hi : d[i]? = some (k, v)) (w : ν) : put d k w = d.modify i fun e => (e.1, w) := by
  have hk : k ∈ keys d := List.mem_map_of_mem (f := Prod.fst) (List.mem_of_getElem? hi)
  rw [put, if_pos hk]
  refine List.ext_getElem? fun j => ?_
  rw [List.getElem?_map, List.getElem?_modify]
  cases hj : d[j]? with
  | none => rfl
  | some e =>
    by_cases hij : i = j
    · subst hij
      rw [hi, Option.some_inj] at hj
      simp [← hj]
    · have hne : e.1 ≠ k := by
        intro hek
        have hpos : ∀ {n : Nat} {a : κ × ν}, d[n]? = some a → (keys d)[n]? = some a.1 := fun ha => by simp [keys, ha]
        have hlt : i < (keys d).length := (List.getElem?_eq_some_iff.mp (hpos hi)).1
        exact hij ((List.getElem?_inj hlt h).mp ((hpos hi).trans (hek ▸ (hpos hj).symm)))
      simp [hij, hne]

end Dict

/-- A map with the order of its keys: no key comes twice. -/
structure OrderedMap (κ ν : Type*) where
  entries : List (κ × ν)
  distinct : (Dict.keys entries).Nodup

namespace OrderedMap
variable {κ ν : Type*}

def empty : OrderedMap κ ν := ⟨[], List.nodup_nil⟩

variable [DecidableEq κ]

def get (m : OrderedMap κ ν) (k : κ) : Option ν := Dict.get m.entries k

def put (m : OrderedMap κ ν) (k : κ) (v : ν) : OrderedMap κ ν :=
  ⟨Dict.put m.entries k v, Dict.nodup_put m.distinct k v⟩

def remove (m : OrderedMap κ ν) (k : κ) : OrderedMap κ ν := ⟨Dict.remove m.entries k, Dict.nodup_remove m.distinct k⟩

@[simp] theorem get_empty (k : κ) : (empty : OrderedMap κ ν).get k = none := rfl

theorem get_put (m : OrderedMap κ ν) (k : κ) (v : ν) : (m.put k v).get = Function.update m.get k (some v) := by
  funext other
  rw [get, put, Dict.get_put, Function.update_apply]
  rfl

theorem get_remove (m : OrderedMap κ ν) (k : κ) : (m.remove k).get = Function.update m.get k none := by
  funext other
  rw [get, remove, Dict.get_remove, Function.update_apply]
  rfl

end OrderedMap
