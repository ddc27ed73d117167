import MagicShare.Base.Bits

/-! Cyclic redundancy checks, one bit at a time.

The register of a check is linear in exclusive or, and a shift loses nothing when
the polynomial has its lowest bit. So two messages that differ in a stretch of
bits only have the same check value exactly when the difference alone leaves the
register empty (`residue_of_same`). -/
namespace Crc
open Bits

variable {w : Nat} (poly : BitVec w)

/-- The register moves up; the bit that leaves it comes back through the
polynomial. -/
def shift (s : BitVec w) : BitVec w := if s.msb then (s <<< 1) ^^^ poly else s <<< 1

/-- The word with only its highest bit, or no bit. -/
def top (b : Bool) : BitVec w := if b then BitVec.twoPow w (w - 1) else 0

/-- One bit of the message comes in. -/
def feed (s : BitVec w) (b : Bool) : BitVec w := shift poly (s ^^^ top b)

/-- The register after a message. -/
def register (s : BitVec w) (bits : List Bool) : BitVec w := bits.foldl (feed poly) s

@[simp] theorem register_nil (s : BitVec w) : register poly s [] = s := rfl

theorem register_cons (s : BitVec w) (b : Bool) (bits : List Bool) :
    register poly s (b :: bits) = register poly (feed poly s b) bits := rfl

theorem register_append (s : BitVec w) (a b : List Bool) :
    register poly s (a ++ b) = register poly (register poly s a) b := List.foldl_append

theorem shift_xor (s t : BitVec w) : shift poly (s ^^^ t) = shift poly s ^^^ shift poly t := by
  have hcancel : ∀ x y : BitVec w, x ^^^ poly ^^^ (y ^^^ poly) = x ^^^ y := fun x y => by
    rw [BitVec.xor_assoc, ← BitVec.xor_assoc poly, BitVec.xor_comm poly y, BitVec.xor_assoc y,
      BitVec.xor_self, BitVec.xor_zero]
  unfold shift
  rw [BitVec.msb_xor, BitVec.shiftLeft_xor_distrib]
  cases s.msb <;> cases t.msb
  · rfl
  · simp [BitVec.xor_assoc]
  · simp only [Bool.xor_false, if_true, Bool.false_eq_true, if_false]
    rw [BitVec.xor_assoc, BitVec.xor_assoc, BitVec.xor_comm poly]
  · simp [hcancel]

theorem top_xor (a b : Bool) : (top (a ^^ b) : BitVec w) = top a ^^^ top b := by
  cases a <;> cases b <;> simp [top]

/-- The difference of two registers is the register of the difference. -/
theorem feed_xor (s t : BitVec w) (a b : Bool) :
    feed poly (s ^^^ t) (a ^^ b) = feed poly s a ^^^ feed poly t b := by
  unfold feed
  rw [← shift_xor, top_xor]
  ac_rfl

theorem register_xor (s t : BitVec w) {a b : List Bool} (h : a.length = b.length) :
    register poly (s ^^^ t) (List.zipWith xor a b) = register poly s a ^^^ register poly t b := by
  induction a generalizing s t b with
  | nil =>
    obtain rfl := List.length_eq_zero_iff.mp h.symm
    rfl
  | cons x a ih =>
    cases b with
    | nil => cases h
    | cons y b =>
      rw [List.zipWith_cons_cons, register_cons, register_cons, register_cons, feed_xor]
      exact ih _ _ (Nat.succ.inj h)

variable {poly}

/-- A shift loses nothing. -/
theorem shift_eq_zero (hw : 0 < w) (hp : poly.getLsbD 0 = true) {s : BitVec w} (h : shift poly s = 0) :
    s = 0 := by
  unfold shift at h
  cases hs : s.msb with
  | true =>
    rw [hs, if_pos rfl] at h
    have hbit := congrArg (fun x : BitVec w => x.getLsbD 0) h
    simp [hp] at hbit
  | false =>
    rw [hs, if_neg Bool.false_ne_true] at h
    refine BitVec.eq_of_getLsbD_eq fun i hi => ?_
    by_cases hlast : i + 1 < w
    · have hbit : (s <<< 1).getLsbD (i + 1) = (0#w).getLsbD (i + 1) := congrArg (BitVec.getLsbD · (i + 1)) h
      rw [BitVec.getLsbD_shiftLeft, BitVec.getLsbD_zero] at hbit
      show s.getLsbD i = (0#w).getLsbD i
      rw [BitVec.getLsbD_zero]
      simpa only [hlast, decide_true, Bool.true_and, Nat.add_sub_cancel, show ¬ i + 1 < 1 by omega,
        decide_false, Bool.not_false] using hbit
    · obtain rfl : i = w - 1 := by omega
      simpa [BitVec.msb_eq_getLsbD_last] using hs

/-- Registers that differ still differ after the same message. -/
theorem register_injective (hw : 0 < w) (hp : poly.getLsbD 0 = true) (bits : List Bool) {s t : BitVec w}
    (h : register poly s bits = register poly t bits) : s = t := by
  induction bits generalizing s t with
  | nil => exact h
  | cons b bits ih =>
    have hfeed := ih h
    have hzero : shift poly (s ^^^ t) = 0 := by
      have := feed_xor poly s t b b
      rw [hfeed, BitVec.xor_self, Bool.xor_self] at this
      simpa [feed, top] using this
    exact BitVec.xor_eq_zero_iff.mp (shift_eq_zero hw hp hzero)

/-- **Two messages that differ in one stretch of bits** and leave the same register
differ by a stretch that leaves the register empty. -/
theorem residue_of_same (hw : 0 < w) (hp : poly.getLsbD 0 = true) {s : BitVec w} {a u v b : List Bool}
    (hlen : u.length = v.length) (h : register poly s (a ++ u ++ b) = register poly s (a ++ v ++ b)) :
    register poly 0 (List.zipWith xor u v) = 0 := by
  rw [register_append, register_append, register_append, register_append] at h
  have hstretch := register_injective hw hp b h
  have hxor := register_xor poly (register poly s a) (register poly s a) hlen
  rwa [hstretch, BitVec.xor_self, BitVec.xor_self] at hxor

/-- No difference, no residue but none. -/
theorem eq_of_difference {u v : List Bool} {n : Nat} (hlen : u.length = v.length)
    (h : List.zipWith xor u v = List.replicate n false) : u = v := by
  induction u generalizing v n with
  | nil => exact (List.length_eq_zero_iff.mp hlen.symm).symm
  | cons x u ih =>
    cases v with
    | nil => cases hlen
    | cons y v =>
      cases n with
      | zero => cases h
      | succ n =>
        obtain ⟨hxy, hrest⟩ := List.cons.inj h
        rw [ih (Nat.succ.inj hlen) hrest]
        cases x <;> cases y <;> first | rfl | cases hxy

/-! ### Whole words -/

/-- Without its highest bit a word only moves up. -/
theorem shift_top_xor (x : BitVec w) : shift poly (top x.msb ^^^ x) = x <<< 1 := by
  have hmsb : (top x.msb ^^^ x).msb = false := by
    rcases Nat.eq_zero_or_pos w with rfl | hw
    · simp [BitVec.of_length_zero]
    · cases hx : x.msb <;> simp [top, hx, BitVec.msb_twoPow, Nat.sub_lt hw]
  have hgone : (top x.msb : BitVec w) <<< 1 = 0 := by
    unfold top
    split
    · refine BitVec.eq_of_getLsbD_eq fun i hi => ?_
      simp only [BitVec.getLsbD_shiftLeft, BitVec.getLsbD_twoPow]
      grind
    · simp
  rw [shift, hmsb, if_neg Bool.false_ne_true, BitVec.shiftLeft_xor_distrib, hgone]
  exact BitVec.zero_xor

/-- The low bits of a word come in one by one, or all at once at the top of the
register. -/
theorem register_low (poly : BitVec w) (s x : BitVec w) {k : Nat} (hk : k ≤ w) :
    register poly s (low k x) = (shift poly)^[k] (s ^^^ (x <<< (w - k))) := by
  induction k generalizing s with
  | zero => simp [BitVec.shiftLeft_eq_zero]
  | succ k ih =>
    have hmsb : (x <<< (w - (k + 1))).msb = x.getLsbD k := by
      rw [BitVec.msb_eq_getLsbD_last, BitVec.getLsbD_shiftLeft]
      simp [show w - 1 < w by omega, show ¬ w - 1 < w - (k + 1) by omega,
        show w - 1 - (w - (k + 1)) = k by omega]
    have hshift : x <<< (w - k) = shift poly (top (x.getLsbD k) ^^^ x <<< (w - (k + 1))) := by
      rw [← hmsb, shift_top_xor, ← BitVec.shiftLeft_add]
      congr 1
      omega
    rw [low_succ, register_cons, ih _ (by omega), Function.iterate_succ_apply, feed, hshift, ← shift_xor]
    congr 2
    rw [BitVec.xor_assoc, ← BitVec.xor_assoc (top _), BitVec.xor_self, BitVec.zero_xor]

/-- A word as wide as the register. -/
theorem register_word (poly : BitVec w) (s x : BitVec w) :
    register poly s (low w x) = (shift poly)^[w] (s ^^^ x) := by
  rw [register_low poly s x (Nat.le_refl w), Nat.sub_self, BitVec.shiftLeft_zero]

end Crc
