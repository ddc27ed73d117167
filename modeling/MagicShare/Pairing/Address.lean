import MagicShare.Pairing.Payload

/-! Dotted quads as the codec writes and reads them.

`encodeIPv4` takes more than the decoder writes: signs, spaces, leading zeros and
hexadecimal parts. The canonical quads are the addresses the decoder writes
(`canonicalQuad_iff`), and on these the two are inverse. -/
namespace MagicShare.Pairing

/-- A decimal octet without sign, space or leading zero. -/
structure CanonicalOctet (cs : List Char) : Prop where
  nonempty : cs ≠ []
  digits : ∀ c ∈ cs, c.isDigit = true
  noLeadingZero : cs.head? = some '0' → cs = ['0']
  range : Nat.ofDigitChars 10 cs 0 ≤ 255

/-- Four canonical octets with dots between them. -/
def CanonicalQuad (s : String) : Prop :=
  (s.toList.splitOn '.').length = 4 ∧ ∀ part ∈ s.toList.splitOn '.', CanonicalOctet part

/-- A byte in decimal. -/
def octetChars (b : UInt8) : List Char := Nat.toDigits 10 b.toNat

/-! ### Octets -/

theorem encodeOctet_octetChars (b : UInt8) : encodeOctet (octetChars b) = .ok b := by
  have h : ∀ n < 256, encodeOctet (Nat.toDigits 10 n) = .ok (UInt8.ofNat n) := by decide +kernel
  rw [octetChars, h _ b.toNat_lt, UInt8.ofNat_toNat]

theorem dot_notMem_octetChars (b : UInt8) : '.' ∉ octetChars b := fun h =>
  absurd (Nat.isDigit_of_mem_toDigits (by decide) (by decide) h) (by decide)

/-- The digits, by value. -/
theorem exists_digit {c : Char} (h : c.isDigit = true) : ∃ d < 10, c = Nat.digitChar d := by
  have h0 : '0'.toNat = 48 := rfl
  have h9 : '9'.toNat = 57 := rfl
  rw [Char.isDigit_iff_toNat, h0, h9] at h
  refine ⟨c.toNat - 48, by omega, Char.toNat_inj.mp ?_⟩
  rw [Nat.toNat_digitChar_of_lt_ten (by omega)]
  omega

/-- Digits behind a number are the last digits of its value. -/
theorem toDigits_ofDigitChars {cs : List Char} (hdigits : ∀ c ∈ cs, c.isDigit = true) {n : Nat} (hn : 0 < n) :
    Nat.toDigits 10 (Nat.ofDigitChars 10 cs n) = Nat.toDigits 10 n ++ cs := by
  induction cs generalizing n with
  | nil => rw [Nat.ofDigitChars_nil, List.append_nil]
  | cons c cs ih =>
    obtain ⟨d, hd, rfl⟩ := exists_digit (hdigits c (by simp))
    rw [Nat.ofDigitChars_cons_digitChar_of_lt_ten hd, ih (fun c hc => hdigits c (by simp [hc])) (by omega),
      ← Nat.toDigits_append_toDigits (by decide) hn hd, Nat.toDigits_of_lt_base hd, List.append_assoc]
    rfl

/-- A canonical octet is its value in decimal. -/
theorem CanonicalOctet.eq_toDigits {cs : List Char} (h : CanonicalOctet cs) :
    Nat.toDigits 10 (Nat.ofDigitChars 10 cs 0) = cs := by
  match cs, h with
  | [], h => exact absurd rfl h.nonempty
  | c :: cs, h =>
    obtain ⟨d, hd, rfl⟩ := exists_digit (h.digits c (by simp))
    rcases Nat.eq_zero_or_pos d with rfl | hpos
    · rw [h.noLeadingZero rfl]
      rfl
    · rw [Nat.ofDigitChars_cons_digitChar_of_lt_ten hd,
        toDigits_ofDigitChars (fun c hc => h.digits c (by simp [hc])) (by omega),
        Nat.mul_zero, Nat.zero_add, Nat.toDigits_of_lt_base hd]
      rfl

/-- **The canonical octets are the bytes in decimal.** -/
theorem canonicalOctet_iff (cs : List Char) : CanonicalOctet cs ↔ ∃ b, cs = octetChars b := by
  constructor
  · intro h
    refine ⟨UInt8.ofNat (Nat.ofDigitChars 10 cs 0), ?_⟩
    rw [octetChars, UInt8.toNat_ofNat_of_lt' (Nat.lt_succ_of_le h.range), h.eq_toDigits]
  · rintro ⟨b, rfl⟩
    have hzero : ∀ n < 256, (Nat.toDigits 10 n).head? = some '0' → Nat.toDigits 10 n = ['0'] := by
      decide +kernel
    exact ⟨Nat.toDigits_ne_nil, fun c hc => Nat.isDigit_of_mem_toDigits (by decide) (by decide) hc,
      hzero _ b.toNat_lt, by rw [octetChars, Nat.ofDigitChars_ten_toDigits]; exact Nat.le_of_lt_succ b.toNat_lt⟩

/-! ### Quads -/

/-- `a` is the text of the four bytes of `block`. -/
def Dotted (a : String) (block : List UInt8) : Prop :=
  ∃ b0 b1 b2 b3, a = dotted b0 b1 b2 b3 ∧ block = [b0, b1, b2, b3]

theorem toList_dotted (b0 b1 b2 b3 : UInt8) : (dotted b0 b1 b2 b3).toList =
    ['.'].intercalate [octetChars b0, octetChars b1, octetChars b2, octetChars b3] := by
  have hdot : (toString ".").toList = ['.'] := rfl
  simp [dotted, octetChars, List.intercalate, hdot]

theorem splitOn_dotted (b0 b1 b2 b3 : UInt8) : (dotted b0 b1 b2 b3).toList.splitOn '.' =
    [octetChars b0, octetChars b1, octetChars b2, octetChars b3] := by
  rw [toList_dotted, List.splitOn_intercalate]
  · intro part hpart
    simp only [List.mem_cons, List.not_mem_nil, or_false] at hpart
    rcases hpart with rfl | rfl | rfl | rfl <;> exact dot_notMem_octetChars _
  · simp

/-- **The canonical quads are the addresses a decoder writes.** -/
theorem canonicalQuad_iff (a : String) : CanonicalQuad a ↔ ∃ block, Dotted a block := by
  constructor
  · rintro ⟨hlen, hparts⟩
    obtain ⟨p0, p1, p2, p3, heq⟩ := List.length_eq_four.mp hlen
    rw [heq] at hparts
    obtain ⟨b0, rfl⟩ := (canonicalOctet_iff p0).mp (hparts _ (by simp))
    obtain ⟨b1, rfl⟩ := (canonicalOctet_iff p1).mp (hparts _ (by simp))
    obtain ⟨b2, rfl⟩ := (canonicalOctet_iff p2).mp (hparts _ (by simp))
    obtain ⟨b3, rfl⟩ := (canonicalOctet_iff p3).mp (hparts _ (by simp))
    refine ⟨[b0, b1, b2, b3], b0, b1, b2, b3, String.toList_inj.mp ?_, rfl⟩
    rw [toList_dotted, ← heq, List.intercalate_splitOn]
  · rintro ⟨block, b0, b1, b2, b3, rfl, rfl⟩
    rw [CanonicalQuad, splitOn_dotted]
    refine ⟨rfl, fun part hpart => ?_⟩
    simp only [List.mem_cons, List.not_mem_nil, or_false] at hpart
    rcases hpart with rfl | rfl | rfl | rfl <;> exact (canonicalOctet_iff _).mpr ⟨_, rfl⟩

/-- Encoding a canonical quad gives its bytes. -/
theorem encodeIPv4_dotted {a : String} {block : List UInt8} (h : Dotted a block) :
    encodeIPv4 a = .ok block := by
  obtain ⟨b0, b1, b2, b3, rfl, rfl⟩ := h
  simp only [encodeIPv4, splitOn_dotted]
  simp [encodeOctet_octetChars, pure, Except.pure, bind, Except.bind]

end MagicShare.Pairing
