import Mathlib.Data.List.GetD

/-! Base64: bytes as texts over 64 symbols.

Three bytes are four numbers below 64, the last one or two bytes two or three; what is
left of the last number is zero. `octets` undoes `sextets` and refuses everything that
`sextets` does not write in its last group. An alphabet gives the numbers symbols;
without padding, `decode` undoes `encode` (`Alphabet.decode_encode`). -/
namespace Base64

/-! ### Numbers below 64 -/

def sextets : List UInt8 → List Nat
  | [] => []
  | [a] => [a.toNat / 4, a.toNat % 4 * 16]
  | [a, b] => [a.toNat / 4, a.toNat % 4 * 16 + b.toNat / 16, b.toNat % 16 * 4]
  | a :: b :: c :: rest =>
    a.toNat / 4 :: (a.toNat % 4 * 16 + b.toNat / 16) :: (b.toNat % 16 * 4 + c.toNat / 64) ::
      c.toNat % 64 :: sextets rest

/-- `none` when a single number is left, or bits that are not zero. -/
def octets : List Nat → Option (List UInt8)
  | [] => some []
  | [_] => none
  | [p, q] => if q % 16 = 0 then some [UInt8.ofNat (p * 4 + q / 16)] else none
  | [p, q, r] =>
    if r % 4 = 0 then some [UInt8.ofNat (p * 4 + q / 16), UInt8.ofNat (q % 16 * 16 + r / 4)] else none
  | p :: q :: r :: s :: rest =>
    (octets rest).map fun bytes =>
      UInt8.ofNat (p * 4 + q / 16) :: UInt8.ofNat (q % 16 * 16 + r / 4) :: UInt8.ofNat (r % 4 * 64 + s) :: bytes

theorem sextets_lt (bytes : List UInt8) : ∀ v ∈ sextets bytes, v < 64 := by
  induction bytes using sextets.induct with
  | case1 => simp [sextets]
  | case2 a =>
    have := a.toNat_lt
    simp only [sextets, List.mem_cons, List.not_mem_nil, or_false, forall_eq_or_imp, forall_eq]
    omega
  | case3 a b =>
    have := a.toNat_lt
    have := b.toNat_lt
    simp only [sextets, List.mem_cons, List.not_mem_nil, or_false, forall_eq_or_imp, forall_eq]
    omega
  | case4 a b c rest ih =>
    have := a.toNat_lt
    have := b.toNat_lt
    have := c.toNat_lt
    simp only [sextets, List.mem_cons, forall_eq_or_imp]
    exact ⟨by omega, by omega, by omega, by omega, ih⟩

/-- A byte is what is left of a number. -/
theorem ofNat_eq_of_mod {n : Nat} {b : UInt8} (h : n % 256 = b.toNat) : UInt8.ofNat n = b := by
  refine UInt8.toNat_inj.mp ?_
  rw [UInt8.toNat_ofNat', ← h]

theorem ofNat_eq {n : Nat} {b : UInt8} (h : n = b.toNat) : UInt8.ofNat n = b := by
  rw [h, UInt8.ofNat_toNat]

/-- **The bytes come back.** -/
theorem octets_sextets (bytes : List UInt8) : octets (sextets bytes) = some bytes := by
  induction bytes using sextets.induct with
  | case1 => rfl
  | case2 a =>
    have ha : UInt8.ofNat (a.toNat / 4 * 4 + a.toNat % 4 * 16 / 16) = a := ofNat_eq (by omega)
    simp only [sextets, octets, ha]
    rw [if_pos (by omega)]
  | case3 a b =>
    have hb := b.toNat_lt
    have hfirst : UInt8.ofNat (a.toNat / 4 * 4 + (a.toNat % 4 * 16 + b.toNat / 16) / 16) = a :=
      ofNat_eq (by omega)
    have hsecond : UInt8.ofNat ((a.toNat % 4 * 16 + b.toNat / 16) % 16 * 16 + b.toNat % 16 * 4 / 4) = b :=
      ofNat_eq (by omega)
    simp only [sextets, octets, hfirst, hsecond]
    rw [if_pos (by omega)]
  | case4 a b c rest ih =>
    have hb := b.toNat_lt
    have hc := c.toNat_lt
    have hfirst : UInt8.ofNat (a.toNat / 4 * 4 + (a.toNat % 4 * 16 + b.toNat / 16) / 16) = a :=
      ofNat_eq (by omega)
    have hsecond : UInt8.ofNat ((a.toNat % 4 * 16 + b.toNat / 16) % 16 * 16 +
        (b.toNat % 16 * 4 + c.toNat / 64) / 4) = b := ofNat_eq (by omega)
    have hthird : UInt8.ofNat ((b.toNat % 16 * 4 + c.toNat / 64) % 4 * 64 + c.toNat % 64) = c :=
      ofNat_eq (by omega)
    simp only [sextets, octets, hfirst, hsecond, hthird, ih, Option.map_some]

/-! ### Symbols -/

/-- Sixty-four different symbols. -/
structure Alphabet where
  symbols : List Char
  size : symbols.length = 64
  distinct : symbols.Nodup

namespace Alphabet
variable (a : Alphabet)

def symbol (v : Nat) : Char := a.symbols.getD v 'A'

def value (c : Char) : Option Nat := if c ∈ a.symbols then some (a.symbols.idxOf c) else none

/-- Without padding. -/
def encode (bytes : List UInt8) : List Char := (sextets bytes).map a.symbol

def decode (text : List Char) : Option (List UInt8) := (text.mapM a.value).bind octets

theorem symbol_mem {v : Nat} (h : v < 64) : a.symbol v ∈ a.symbols := by
  have hv : v < a.symbols.length := by rw [a.size]; exact h
  rw [symbol, List.getD_eq_getElem _ _ hv]
  exact List.getElem_mem hv

theorem value_symbol {v : Nat} (h : v < 64) : a.value (a.symbol v) = some v := by
  have hv : v < a.symbols.length := by rw [a.size]; exact h
  rw [value, if_pos (a.symbol_mem h), symbol, List.getD_eq_getElem _ _ hv, a.distinct.idxOf_getElem v hv]

/-- Symbols give their numbers back. -/
theorem mapM_value {vs : List Nat} (h : ∀ v ∈ vs, v < 64) : (vs.map a.symbol).mapM a.value = some vs := by
  induction vs with
  | nil => rfl
  | cons v vs ih =>
    rw [List.map_cons, List.mapM_cons, a.value_symbol (h v List.mem_cons_self),
      ih fun w hw => h w (List.mem_cons_of_mem v hw)]
    rfl

theorem mem_encode {bytes : List UInt8} {c : Char} (h : c ∈ a.encode bytes) : c ∈ a.symbols := by
  obtain ⟨v, hv, rfl⟩ := List.mem_map.mp h
  exact a.symbol_mem (sextets_lt bytes v hv)

/-- **Decoding undoes encoding.** -/
theorem decode_encode (bytes : List UInt8) : a.decode (a.encode bytes) = some bytes := by
  rw [decode, encode, a.mapM_value (sextets_lt bytes)]
  exact octets_sextets bytes

end Alphabet

/-- The alphabet that is safe in URLs and file names. -/
def urlSafe : Alphabet where
  symbols := "ABCDEFGHIJKLMNOPQRSTUVWXYZabcdefghijklmnopqrstuvwxyz0123456789-_".toList
  size := by decide
  distinct := by decide

end Base64
