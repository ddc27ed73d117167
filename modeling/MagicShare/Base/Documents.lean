import Mathlib.Data.Finmap

/-! Collections of documents.

A collection holds finitely many documents under keys: Mathlib's `Finmap` at a
constant family. What a document database adds to a map is here: deleting every
document of a subtree, and counting the documents of a subtree, with how each
write moves that count. -/
namespace Documents

/-- Finitely many documents, each under its key. -/
abbrev Collection (K V : Type*) := Finmap (fun _ : K => V)

namespace Collection
variable {K V : Type*} [DecidableEq K]

theorem lookup_insert_eq (c : Collection K V) (k k' : K) (v : V) :
    (c.insert k v).lookup k' = if k' = k then some v else c.lookup k' := by
  by_cases h : k' = k
  · subst h
    simp
  · rw [Finmap.lookup_insert_of_ne _ h, if_neg h]

theorem lookup_erase_eq (c : Collection K V) (k k' : K) :
    (c.erase k).lookup k' = if k' = k then none else c.lookup k' := by
  by_cases h : k' = k
  · subst h
    simp
  · rw [Finmap.lookup_erase_ne h, if_neg h]

/-! ### Subtrees -/

/-- Without the documents whose key is in `p`. -/
def deleteAll (c : Collection K V) (p : K → Prop) [DecidablePred p] : Collection K V :=
  ⟨c.entries.filter fun e => ¬ p e.1, Multiset.nodup_keys.mp
    (Multiset.nodup_of_le (Multiset.map_le_map (Multiset.filter_le _ _))
      (Multiset.nodup_keys.mpr c.nodupKeys))⟩

theorem lookup_deleteAll (c : Collection K V) (p : K → Prop) [DecidablePred p] (k : K) :
    (c.deleteAll p).lookup k = if p k then none else c.lookup k := by
  ext v
  rw [← Option.mem_def, Finmap.mem_lookup_iff]
  simp only [deleteAll, Multiset.mem_filter]
  rw [← Finmap.mem_lookup_iff, Option.mem_def]
  by_cases h : p k <;> simp [h]

/-! ### Counting -/

variable (p : K → Prop) [DecidablePred p]

/-- How many documents have their key in `p`. -/
def count (c : Collection K V) : Nat := (c.keys.filter p).card

theorem mem_keys_iff (c : Collection K V) (k : K) : k ∈ c.keys ↔ (c.lookup k).isSome := by
  rw [Finmap.mem_keys, Finmap.lookup_isSome]

theorem keys_insert (c : Collection K V) (k : K) (v : V) :
    Finmap.keys (c.insert k v) = Insert.insert k c.keys := by
  ext k'
  simp [Finmap.mem_keys, Finmap.mem_insert]

omit [DecidableEq K] in
theorem count_empty : count p (∅ : Collection K V) = 0 := by
  simp [count]

theorem count_eq_zero (c : Collection K V) : count p c = 0 ↔ ∀ k, p k → c.lookup k = none := by
  rw [count, Finset.card_eq_zero, Finset.filter_eq_empty_iff]
  simp only [mem_keys_iff]
  constructor
  · intro h k hk
    by_contra hne
    exact h (Option.isSome_iff_ne_none.mpr hne) hk
  · intro h k hk hp
    simp [h k hp] at hk

/-- Writing a new document inside adds one. -/
theorem count_insert_new {c : Collection K V} {k : K} (v : V) (hk : p k) (h : c.lookup k = none) :
    count p (c.insert k v) = count p c + 1 := by
  have hnot : k ∉ c.keys := by rw [mem_keys_iff, h]; simp
  rw [count, keys_insert, Finset.filter_insert, if_pos hk, Finset.card_insert_of_notMem, count]
  simp [hnot]

/-- Overwriting a document moves no count. -/
theorem count_insert_old {c : Collection K V} {k : K} (v : V) (h : (c.lookup k).isSome) :
    count p (c.insert k v) = count p c := by
  rw [count, keys_insert, Finset.insert_eq_of_mem ((mem_keys_iff c k).mpr h), count]

/-- Writing outside moves no count. -/
theorem count_insert_outside (c : Collection K V) {k : K} (v : V) (hk : ¬ p k) :
    count p (c.insert k v) = count p c := by
  rw [count, keys_insert, Finset.filter_insert, if_neg hk, count]

theorem count_erase_outside (c : Collection K V) {k : K} (hk : ¬ p k) :
    count p (c.erase k) = count p c := by
  rw [count, Finmap.keys_erase, Finset.filter_erase, Finset.erase_eq_of_notMem, count]
  simp [hk]

/-- Deleting a document inside takes one away. -/
theorem count_erase {c : Collection K V} {k : K} (hk : p k) (h : (c.lookup k).isSome) :
    count p (c.erase k) + 1 = count p c := by
  have hmem : k ∈ c.keys.filter p := Finset.mem_filter.mpr ⟨(mem_keys_iff c k).mpr h, hk⟩
  rw [count, Finmap.keys_erase, Finset.filter_erase, count]
  exact Finset.card_erase_add_one hmem

/-- Collections that agree inside count the same. -/
theorem count_congr {c d : Collection K V} (h : ∀ k, p k → c.lookup k = d.lookup k) :
    count p c = count p d := by
  unfold count
  congr 1
  ext k
  simp only [Finset.mem_filter, mem_keys_iff]
  constructor
  · rintro ⟨hs, hk⟩
    exact ⟨h k hk ▸ hs, hk⟩
  · rintro ⟨hs, hk⟩
    exact ⟨h k hk ▸ hs, hk⟩

end Collection
end Documents
