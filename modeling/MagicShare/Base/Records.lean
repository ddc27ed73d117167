import Mathlib.Data.List.Basic
import Mathlib.Algebra.Ring.Nat

/-! Records that are known by their index, in a list that grows at its end and is written
to at an index. -/
namespace Records
variable {α : Type*} {records more : List α} {i j : Nat} {x y : α}

theorem append (h : records[i]? = some y) : (records ++ more)[i]? = some y := by
  rw [List.getElem?_append_left (List.getElem?_eq_some_iff.mp h).1, h]

/-- Where one record was added: an old one, or the new one. -/
theorem of_append (h : (records ++ [x])[i]? = some y) : records[i]? = some y ∨ i = records.length ∧ y = x := by
  rw [List.getElem?_append] at h
  split at h
  · exact .inl h
  · have hlt := (List.getElem?_eq_some_iff.mp h).1
    simp only [List.length_singleton] at hlt
    exact .inr ⟨by omega, List.mem_singleton.mp (List.mem_of_getElem? h)⟩

theorem set_self (h : records[i]? = some y) : (records.set i x)[i]? = some x :=
  List.getElem?_set_self (List.getElem?_eq_some_iff.mp h).1

/-- Where one record was written: that one, or another. -/
theorem of_set (h : (records.set i x)[j]? = some y) : j = i ∧ y = x ∨ j ≠ i ∧ records[j]? = some y := by
  by_cases hji : j = i
  · subst hji
    have hlt := (List.getElem?_eq_some_iff.mp h).1
    rw [List.length_set] at hlt
    rw [List.getElem?_set_self hlt] at h
    exact .inl ⟨rfl, (Option.some.inj h).symm⟩
  · rw [List.getElem?_set_ne (Ne.symm hji)] at h
    exact .inr ⟨hji, h⟩

/-- Where one record is replaced by one of less weight, the whole weighs less. -/
theorem sum_set_lt {weight : α → Nat} (h : records[i]? = some x) (hlt : weight y < weight x) :
    ((records.set i y).map weight).sum < (records.map weight).sum := by
  induction records generalizing i with
  | nil => simp at h
  | cons record records ih =>
    cases i with
    | zero =>
      obtain rfl : record = x := by simpa using h
      simp only [List.set_cons_zero, List.map_cons, List.sum_cons]
      omega
    | succ i =>
      have hrest := ih (i := i) (by simpa using h)
      simp only [List.set_cons_succ, List.map_cons, List.sum_cons]
      omega

/-- Where one record was taken out: that one, or one that is left. -/
theorem eq_or_mem_eraseIdx (h : records[i]? = some x) (hy : y ∈ records) : y = x ∨ y ∈ records.eraseIdx i := by
  obtain ⟨j, hj⟩ := List.mem_iff_getElem?.mp hy
  by_cases hij : j = i
  · subst hij
    exact .inl (Option.some.inj (hj.symm.trans h))
  · exact .inr (List.mem_eraseIdx_iff_getElem?.mpr ⟨j, hij, hj⟩)

/-- A record set in place of one with the same value under `f`. -/
theorem map_set {β : Type*} {f : α → β} (h : records[i]? = some x) (hf : f y = f x) :
    (records.set i y).map f = records.map f := by
  refine List.ext_getElem? fun k => ?_
  rw [List.getElem?_map, List.getElem?_map]
  by_cases hik : i = k
  · rw [← hik, set_self h, h, Option.map_some, Option.map_some, hf]
  · rw [List.getElem?_set_ne hik]

/-- A record other than the one that is set. -/
theorem exists_set_of_ne {Q : α → Prop} (h : records[i]? = some x) (hx : ¬ Q x) (hQ : ∃ z ∈ records, Q z) :
    ∃ z ∈ records.set i y, Q z := by
  obtain ⟨z, hz, hQ⟩ := hQ
  obtain ⟨k, hk⟩ := List.mem_iff_getElem?.mp hz
  refine ⟨z, List.mem_iff_getElem?.mpr ⟨k, ?_⟩, hQ⟩
  rw [List.getElem?_set_ne, hk]
  rintro rfl
  exact hx (Option.some.inj (h.symm.trans hk) ▸ hQ)

/-- A record at another index than the one that is set. -/
theorem exists_set_of_eraseIdx {Q : α → Prop} (hQ : ∃ z ∈ records.eraseIdx i, Q z) : ∃ z ∈ records.set i y, Q z := by
  obtain ⟨z, hz, hQ⟩ := hQ
  obtain ⟨k, hne, hk⟩ := List.mem_eraseIdx_iff_getElem?.mp hz
  exact ⟨z, List.mem_iff_getElem?.mpr ⟨k, by rw [List.getElem?_set_ne (Ne.symm hne), hk]⟩, hQ⟩

end Records
