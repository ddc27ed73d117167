import Mathlib.Data.BitVec

/-! The low bits of a word, most significant first.

A codec that regroups bits (bytes into five-bit symbols, say) keeps what it has
not written yet in the low bits of a buffer. These lemmas say which bits those
are once the buffer was shifted, masked or refilled. -/
namespace Bits
variable {w : Nat}

/-- The `n` low bits of a word, most significant first. -/
def low : Nat → BitVec w → List Bool
  | 0, _ => []
  | n + 1, v => v.getLsbD n :: low n v

@[simp] theorem low_zero (v : BitVec w) : low 0 v = [] := rfl

theorem low_succ (n : Nat) (v : BitVec w) : low (n + 1) v = v.getLsbD n :: low n v := rfl

@[simp] theorem length_low (n : Nat) (v : BitVec w) : (low n v).length = n := by
  induction n with
  | zero => rfl
  | succ n ih => rw [low_succ, List.length_cons, ih]

/-- Words of any widths with the same low bits. -/
theorem low_congr {u : Nat} {n : Nat} {v : BitVec w} {x : BitVec u}
    (h : ∀ i < n, v.getLsbD i = x.getLsbD i) : low n v = low n x := by
  induction n with
  | zero => rfl
  | succ n ih => rw [low_succ, low_succ, h n (by omega), ih fun i hi => h i (by omega)]

/-- The low bits in which two words agree. -/
theorem getLsbD_of_low {u : Nat} {n : Nat} {v : BitVec w} {x : BitVec u} (h : low n v = low n x) :
    ∀ i < n, v.getLsbD i = x.getLsbD i := by
  induction n with
  | zero => exact fun i hi => absurd hi (Nat.not_lt_zero i)
  | succ n ih =>
    obtain ⟨hn, hrest⟩ := List.cons.inj h
    intro i hi
    rcases Nat.lt_succ_iff_lt_or_eq.mp hi with hlt | rfl
    · exact ih hrest i hlt
    · exact hn

/-- A word is its bits. -/
theorem low_injective {v x : BitVec w} (h : low w v = low w x) : v = x :=
  BitVec.eq_of_getLsbD_eq fun i hi => getLsbD_of_low h i hi

theorem low_of_zero (n : Nat) : low n (0#w) = List.replicate n false := by
  induction n with
  | zero => rfl
  | succ n ih => rw [low_succ, ih, BitVec.getLsbD_zero, List.replicate_succ]

/-- A mask of ones keeps the bits it covers. -/
theorem low_and (n : Nat) (v mask : BitVec w) (h : ∀ i < n, mask.getLsbD i = true) :
    low n (v &&& mask) = low n v :=
  low_congr fun i hi => by rw [BitVec.getLsbD_and, h i hi, Bool.and_true]

/-- The higher bits are those of the shifted word. -/
theorem low_add {u : Nat} {m n : Nat} {v : BitVec w} {x : BitVec u}
    (h : ∀ i < m, x.getLsbD i = v.getLsbD (n + i)) : low (m + n) v = low m x ++ low n v := by
  induction m with
  | zero => rw [Nat.zero_add, low_zero, List.nil_append]
  | succ m ih =>
    rw [Nat.succ_add, low_succ, low_succ, List.cons_append, h m (by omega), Nat.add_comm n m,
      ih fun i hi => h i (by omega)]

/-- The bits a shift to the right uncovers, and those it drops. -/
theorem low_sshiftRight (m n : Nat) (v : BitVec w) (h : m + n ≤ w) :
    low (m + n) v = low m (v.sshiftRight n) ++ low n v :=
  low_add fun i hi => by simp [BitVec.getLsbD_sshiftRight, show ¬ w ≤ i by omega, show n + i < w by omega]

/-- New bits come in below the old ones. -/
theorem low_refill (m n : Nat) (v x : BitVec w) (h : m + n ≤ w) (hx : x.toNat < 2 ^ n) :
    low (m + n) ((v <<< n) ||| x) = low m v ++ low n x := by
  have hhigh : ∀ i, n ≤ i → x.getLsbD i = false := fun i hi =>
    Nat.testBit_lt_two_pow (lt_of_lt_of_le hx (Nat.pow_le_pow_right (by decide) hi))
  rw [low_add fun i hi => ?_]
  · refine congrArg _ (low_congr fun i hi => ?_)
    rw [BitVec.getLsbD_or, BitVec.getLsbD_shiftLeft]
    simp [hi]
  · rw [BitVec.getLsbD_or, BitVec.getLsbD_shiftLeft, hhigh (n + i) (by omega)]
    simp [show n + i < w by omega]

/-- Zeros come in below the old bits. -/
theorem low_shiftLeft (m n : Nat) (v : BitVec w) (h : m + n ≤ w) :
    low (m + n) (v <<< n) = low m v ++ List.replicate n false := by
  have hrefill := low_refill m n v (0#w) h (by simp [Nat.two_pow_pos])
  rwa [BitVec.or_zero, low_of_zero] at hrefill

/-! ### The low bits of a number

A number that grows without bounds, and a word that loses what leaves it at the top: a field
near the bottom is the same in both. -/

theorem ofNat_shiftLeft (n k : Nat) : BitVec.ofNat w (n <<< k) = BitVec.ofNat w n <<< k := by
  refine BitVec.eq_of_getLsbD_eq fun i hi => ?_
  rw [BitVec.getLsbD_shiftLeft, BitVec.getLsbD_ofNat, BitVec.getLsbD_ofNat, Nat.testBit_shiftLeft]
  by_cases hk : i < k
  · simp [hk]
  · simp [hk, hi, show k ≤ i by omega, show i - k < w by omega]

theorem toNat_field (n shift size : Nat) (mask : BitVec w) (hfits : shift + size ≤ w) (hmask : mask.toNat < 2 ^ size) :
    ((BitVec.ofNat w n).sshiftRight shift &&& mask).toNat = (n >>> shift) &&& mask.toNat := by
  refine Nat.eq_of_testBit_eq fun i => ?_
  rw [Nat.testBit_and, Nat.testBit_shiftRight, BitVec.testBit_toNat, BitVec.getLsbD_and, BitVec.testBit_toNat]
  by_cases hi : i < size
  · rw [BitVec.getLsbD_sshiftRight, BitVec.getLsbD_ofNat]
    simp [show ¬w ≤ i by omega, show shift + i < w by omega]
  · have hzero : mask.getLsbD i = false :=
      Nat.testBit_lt_two_pow (lt_of_lt_of_le hmask (Nat.pow_le_pow_right (by decide) (by omega)))
    rw [hzero, Bool.and_false, Bool.and_false]

end Bits
