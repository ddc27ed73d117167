import MagicShare.Base.Bits
import MagicShare.Pairing.Payload

/-! The manual form of a pairing payload (`pairing_payload.dart`): the Crockford
Base32 of its bytes, in groups of four symbols.

The codec carries the bits it has not written yet in a 64-bit buffer and never
clears the ones it has. `crockfordEncode_bits` and `crockfordDecode_bits` say what
both ends do to the stream of bits: symbols are five bits each, bytes eight, and
what is left over at the end is shorter than a byte. -/
namespace MagicShare.Pairing
open Bits

def crockfordAlphabet : List Char := "0123456789ABCDEFGHJKMNPQRSTVWXYZ".toList

/-! ### Dart's strings -/

/-- `toUpperCase`. Unicode's table for the characters above 127 is `other`; it may
give several characters for one. -/
def toUpperCase (other : Char → List Char) (s : List Char) : List Char :=
  s.flatMap fun c => if c.toNat < 128 then [c.toUpper] else other c

/-- `indexOf`: where the text starts first. -/
def indexOf (s sub : List Char) : Option Nat :=
  (List.range (s.length + 1)).find? fun i => sub.isPrefixOf (s.drop i)

/-! ### Encoding -/

def crockfordSymbol (idx : BitVec 64) : Char := crockfordAlphabet.getD idx.toNat ' '

/-- The inner loop: symbols as long as there are five bits, and the bits left. -/
def writeSymbols (buffer : BitVec 64) : Nat → List Char × Nat
  | bits + 5 =>
    let rest := writeSymbols buffer bits
    (crockfordSymbol (buffer.sshiftRight bits &&& 0x1f) :: rest.1, rest.2)
  | bits => ([], bits)

def crockfordEncodeFrom (buffer : BitVec 64) (bits : Nat) : List UInt8 → List Char
  | [] => if bits > 0 then [crockfordSymbol ((buffer <<< (5 - bits)) &&& 0x1f)] else []
  | byte :: rest =>
    let buffer := (buffer <<< 8) ||| byte.toBitVec.setWidth 64
    let written := writeSymbols buffer (bits + 8)
    written.1 ++ crockfordEncodeFrom buffer written.2 rest

def crockfordEncode (bytes : List UInt8) : List Char := crockfordEncodeFrom 0 0 bytes

def groupFourFrom (i : Nat) : List Char → List Char
  | [] => []
  | c :: rest => (if i > 0 ∧ i % 4 = 0 then ['-', c] else [c]) ++ groupFourFrom (i + 1) rest

def groupFour (raw : List Char) : List Char := groupFourFrom 0 raw

def encodePairingManualCode (payload : PairingPayload) : Except ArgumentError String := do
  let bytes ← encodePairingPayload payload
  return String.ofList (groupFour (crockfordEncode bytes))

/-! ### Decoding -/

section Decoding
variable (other : Char → List Char)

def normalizeManualCode (input : List Char) : List Char :=
  toUpperCase other (input.filter fun ch => decide (ch ∉ ['-', ' ', '\t', '\n', '\r']))

def crockfordIndex (ch : Char) : Option Nat :=
  let upper := toUpperCase other [ch]
  if upper = ['I'] ∨ upper = ['L'] then indexOf crockfordAlphabet ['1']
  else if upper = ['O'] then indexOf crockfordAlphabet ['0']
  else if upper = ['U'] then indexOf crockfordAlphabet ['V']
  else indexOf crockfordAlphabet upper

/-- A character outside the basic plane is reported whole, where Dart reports the
first half of its surrogate pair. -/
def crockfordDecodeFrom (buffer : BitVec 64) (bits i : Nat) : List Char → Except DecodeFailure (List UInt8)
  | [] => .ok []
  | ch :: rest =>
    match crockfordIndex other ch with
    | none => .error (.payload .badAlphabet
        s!"character {String.ofList (toUpperCase other [ch])} at index {i} is not Crockford Base32")
    | some v =>
      let buffer := (buffer <<< 5) ||| BitVec.ofNat 64 v
      if bits + 5 ≥ 8 then do
        let bytes ← crockfordDecodeFrom buffer (bits + 5 - 8) (i + 1) rest
        return UInt8.ofBitVec ((buffer.sshiftRight (bits + 5 - 8) &&& 0xff).setWidth 8) :: bytes
      else crockfordDecodeFrom buffer (bits + 5) (i + 1) rest

def crockfordDecode (input : List Char) : Except DecodeFailure (List UInt8) :=
  crockfordDecodeFrom other 0 0 0 input

def decodePairingManualCode (input : String) : Except DecodeFailure PairingPayload := do
  let bytes ← crockfordDecode other (normalizeManualCode other input.toList)
  decodePairingPayload bytes

end Decoding

/-! ### The symbols -/

/-- The value of a symbol. -/
def symbolValue (c : Char) : Nat := crockfordAlphabet.idxOf c

/-- Checked element by element. -/
theorem forall_mem_of_all {p : Char → Prop} [DecidablePred p] {cs : List Char}
    (h : cs.all fun c => decide (p c)) : ∀ c ∈ cs, p c :=
  fun c hc => of_decide_eq_true (List.all_eq_true.mp h c hc)

theorem symbol_facts : ∀ c ∈ crockfordAlphabet, c.toNat < 128 ∧ c.toUpper = c ∧ symbolValue c < 32 ∧
    c ∉ ['I', 'L', 'O', 'U', '-', ' ', '\t', '\n', '\r'] ∧
    indexOf crockfordAlphabet [c] = some (symbolValue c) := forall_mem_of_all (by decide)

theorem symbolValue_symbol : ∀ v < 32, crockfordSymbol (BitVec.ofNat 64 v) ∈ crockfordAlphabet ∧
    symbolValue (crockfordSymbol (BitVec.ofNat 64 v)) = v := by decide

section Symbols
variable {other : Char → List Char} {c : Char} {cs : List Char}

theorem toUpperCase_symbols (h : ∀ c ∈ cs, c ∈ crockfordAlphabet) : toUpperCase other cs = cs := by
  induction cs with
  | nil => rfl
  | cons c cs ih =>
    obtain ⟨hascii, hupper, _⟩ := symbol_facts c (h c List.mem_cons_self)
    unfold toUpperCase at ih ⊢
    rw [List.flatMap_cons, if_pos hascii, hupper, ih fun d hd => h d (List.mem_cons_of_mem c hd)]
    rfl

theorem crockfordIndex_symbol (h : c ∈ crockfordAlphabet) : crockfordIndex other c = some (symbolValue c) := by
  obtain ⟨_, _, _, hnot, hindex⟩ := symbol_facts c h
  have hupper : toUpperCase other [c] = [c] := toUpperCase_symbols (by simpa using h)
  simp only [List.mem_cons, not_or] at hnot
  simp only [crockfordIndex, hupper, List.cons.injEq, and_true, hnot, or_self, if_false]
  exact hindex

theorem symbolValue_lt (h : c ∈ crockfordAlphabet) : symbolValue c < 32 := (symbol_facts c h).2.2.1

/-- The five bits of a symbol. -/
def symbolBits (c : Char) : List Bool := low 5 (BitVec.ofNat 64 (symbolValue c))

@[simp] theorem length_symbolBits (c : Char) : (symbolBits c).length = 5 := length_low ..

/-- Different symbols have different bits. -/
theorem symbolBits_injective : ∀ a ∈ crockfordAlphabet, ∀ b ∈ crockfordAlphabet,
    symbolBits a = symbolBits b → a = b := by
  have hbits : ∀ v < 32, ∀ w < 32, low 5 (BitVec.ofNat 64 v) = low 5 (BitVec.ofNat 64 w) → v = w := by
    decide +kernel
  intro a ha b hb h
  exact (List.idxOf_inj ha).mp (hbits _ (symbolValue_lt ha) _ (symbolValue_lt hb) h)

/-- The eight bits of a byte. -/
def byteBits (b : UInt8) : List Bool := low 8 b.toBitVec

@[simp] theorem length_byteBits (b : UInt8) : (byteBits b).length = 8 := length_low ..

theorem byteBits_injective {a b : UInt8} (h : byteBits a = byteBits b) : a = b :=
  UInt8.toBitVec_inj.mp (low_injective h)

@[simp] theorem length_bytesBits (bytes : List UInt8) : (bytes.flatMap byteBits).length = 8 * bytes.length := by
  simp [List.length_flatMap, Nat.mul_comm]

@[simp] theorem length_symbolsBits (cs : List Char) : (cs.flatMap symbolBits).length = 5 * cs.length := by
  simp [List.length_flatMap, Nat.mul_comm]

/-- A stream of bits has one reading as bytes and less than a byte. -/
theorem bytes_of_bits {a b : List UInt8} {x y : List Bool} (hx : x.length < 8) (hy : y.length < 8)
    (h : a.flatMap byteBits ++ x = b.flatMap byteBits ++ y) : a = b ∧ x = y := by
  induction a generalizing b with
  | nil =>
    cases b with
    | nil => exact ⟨rfl, h⟩
    | cons c b =>
      have hlen := congrArg List.length h
      simp at hlen
      omega
  | cons d a ih =>
    cases b with
    | nil =>
      have hlen := congrArg List.length h
      simp at hlen
      omega
    | cons c b =>
      simp only [List.flatMap_cons, List.append_assoc] at h
      obtain ⟨hd, hrest⟩ := List.append_inj h (by simp)
      obtain ⟨rfl, hxy⟩ := ih hrest
      exact ⟨by rw [byteBits_injective hd], hxy⟩

end Symbols

/-! ### The stream of bits -/

/-- What the encoder writes are symbols. -/
theorem crockfordSymbol_mem (x : BitVec 64) : crockfordSymbol (x &&& 0x1f) ∈ crockfordAlphabet ∧
    symbolBits (crockfordSymbol (x &&& 0x1f)) = low 5 x := by
  have hlt : (x &&& 0x1f).toNat < 32 := by
    rw [BitVec.toNat_and]
    exact Nat.lt_of_le_of_lt Nat.and_le_right (by decide)
  obtain ⟨hmem, hvalue⟩ := symbolValue_symbol _ hlt
  rw [BitVec.ofNat_toNat, BitVec.setWidth_eq] at hmem hvalue
  refine ⟨hmem, ?_⟩
  rw [symbolBits, hvalue, BitVec.ofNat_toNat, BitVec.setWidth_eq]
  exact low_and 5 x _ (by decide)

/-- The inner loop writes the upper bits of what is pending and keeps less than a
symbol. -/
theorem writeSymbols_bits (buffer : BitVec 64) (bits : Nat) (h : bits ≤ 64) :
    (∀ c ∈ (writeSymbols buffer bits).1, c ∈ crockfordAlphabet) ∧ (writeSymbols buffer bits).2 < 5 ∧
      low bits buffer =
        (writeSymbols buffer bits).1.flatMap symbolBits ++ low (writeSymbols buffer bits).2 buffer := by
  fun_induction writeSymbols buffer bits with
  | case1 bits rest ih =>
    obtain ⟨hmem, hleft, hbits⟩ := ih (by omega)
    obtain ⟨hsymbol, hvalue⟩ := crockfordSymbol_mem (buffer.sshiftRight bits)
    refine ⟨?_, hleft, ?_⟩
    · intro c hc
      rcases List.mem_cons.mp hc with rfl | hc
      · exact hsymbol
      · exact hmem c hc
    · rw [List.flatMap_cons, hvalue, List.append_assoc, ← hbits,
        ← low_sshiftRight 5 bits buffer (by omega), Nat.add_comm 5 bits]
  | case2 bits hnot =>
    refine ⟨by simp, ?_, by simp⟩
    by_contra hge
    exact hnot (bits - 5) (by omega)

/-- **The encoder's bits.** The symbols are those of the pending bits, the bytes and
less than a symbol of zeros. -/
theorem crockfordEncodeFrom_bits (buffer : BitVec 64) (bits : Nat) (bytes : List UInt8) (h : bits < 5) :
    (∀ c ∈ crockfordEncodeFrom buffer bits bytes, c ∈ crockfordAlphabet) ∧
      ∃ pad < 5, (crockfordEncodeFrom buffer bits bytes).flatMap symbolBits =
        low bits buffer ++ bytes.flatMap byteBits ++ List.replicate pad false := by
  induction bytes generalizing buffer bits with
  | nil =>
    by_cases hbits : bits > 0
    · obtain ⟨hmem, hvalue⟩ := crockfordSymbol_mem (buffer <<< (5 - bits))
      have hlast := low_shiftLeft bits (5 - bits) buffer (by omega)
      rw [Nat.add_sub_cancel' (by omega)] at hlast
      simp only [crockfordEncodeFrom, if_pos hbits, List.mem_singleton, forall_eq]
      exact ⟨hmem, 5 - bits, by omega, by rw [List.flatMap_singleton, hvalue, hlast, List.flatMap_nil, List.append_nil]⟩
    · obtain rfl : bits = 0 := by omega
      exact ⟨by simp [crockfordEncodeFrom], 0, by decide, by simp [crockfordEncodeFrom]⟩
  | cons byte rest ih =>
    have hrefill : low (bits + 8) ((buffer <<< 8) ||| byte.toBitVec.setWidth 64) =
        low bits buffer ++ byteBits byte := by
      rw [low_refill bits 8 buffer _ (by omega) (by simpa using byte.toBitVec.isLt)]
      refine congrArg _ (low_congr fun i hi => ?_)
      simp [show i < 64 by omega]
    obtain ⟨hmem, hleft, hwritten⟩ :=
      writeSymbols_bits ((buffer <<< 8) ||| byte.toBitVec.setWidth 64) (bits + 8) (by omega)
    obtain ⟨hrest, pad, hpad, hbits⟩ := ih ((buffer <<< 8) ||| byte.toBitVec.setWidth 64) _ hleft
    simp only [crockfordEncodeFrom, List.mem_append, List.flatMap_append, List.flatMap_cons]
    refine ⟨?_, pad, hpad, ?_⟩
    · rintro c (hc | hc)
      · exact hmem c hc
      · exact hrest c hc
    · rw [hbits, ← List.append_assoc, ← List.append_assoc, ← hwritten, hrefill]
      simp only [List.append_assoc]

/-- **The decoder's bits.** Symbols decode to the bytes of their bits, and less than
a byte is dropped. -/
theorem crockfordDecodeFrom_bits (other : Char → List Char) (buffer : BitVec 64) (bits i : Nat)
    {cs : List Char} (hcs : ∀ c ∈ cs, c ∈ crockfordAlphabet) (h : bits < 8) :
    ∃ bytes left, crockfordDecodeFrom other buffer bits i cs = .ok bytes ∧ left.length < 8 ∧
      low bits buffer ++ cs.flatMap symbolBits = bytes.flatMap byteBits ++ left := by
  induction cs generalizing buffer bits i with
  | nil => exact ⟨[], low bits buffer, rfl, by simpa using h, by simp⟩
  | cons c cs ih =>
    have hc := hcs c List.mem_cons_self
    have hrest : ∀ d ∈ cs, d ∈ crockfordAlphabet := fun d hd => hcs d (List.mem_cons_of_mem c hd)
    have hvalue := symbolValue_lt hc
    have hrefill : low (bits + 5) ((buffer <<< 5) ||| BitVec.ofNat 64 (symbolValue c)) =
        low bits buffer ++ symbolBits c :=
      low_refill bits 5 buffer _ (by omega) (by rw [BitVec.toNat_ofNat]; omega)
    simp only [crockfordDecodeFrom, crockfordIndex_symbol hc]
    by_cases hfull : bits + 5 ≥ 8
    · obtain ⟨bytes, left, hok, hleft, hbits⟩ :=
        ih ((buffer <<< 5) ||| BitVec.ofNat 64 (symbolValue c)) (bits + 5 - 8) (i + 1) hrest (by omega)
      refine ⟨_, left, by rw [if_pos hfull, hok]; rfl, hleft, ?_⟩
      have hsplit := low_sshiftRight 8 (bits + 5 - 8)
        ((buffer <<< 5) ||| BitVec.ofNat 64 (symbolValue c)) (by omega)
      rw [Nat.add_sub_cancel' hfull, hrefill] at hsplit
      rw [List.flatMap_cons, ← List.append_assoc, hsplit, List.append_assoc, hbits, List.flatMap_cons,
        List.append_assoc]
      refine congrArg (· ++ _) ?_
      rw [← low_and 8 _ 0xff (by decide)]
      refine low_congr fun j hj => ?_
      rw [UInt8.toBitVec_ofBitVec, BitVec.getLsbD_setWidth, decide_eq_true hj, Bool.true_and]
    · obtain ⟨bytes, left, hok, hleft, hbits⟩ :=
        ih ((buffer <<< 5) ||| BitVec.ofNat 64 (symbolValue c)) (bits + 5) (i + 1) hrest (by omega)
      refine ⟨bytes, left, by rw [if_neg hfull, hok], hleft, ?_⟩
      rw [List.flatMap_cons, ← List.append_assoc, ← hrefill, hbits]

/-- Decoding gives back what was encoded. -/
theorem crockfordDecode_encode (other : Char → List Char) (bytes : List UInt8) :
    crockfordDecode other (crockfordEncode bytes) = .ok bytes := by
  obtain ⟨hmem, pad, hpad, henc⟩ := crockfordEncodeFrom_bits 0 0 bytes (by decide)
  obtain ⟨decoded, left, hok, hleft, hdec⟩ := crockfordDecodeFrom_bits other 0 0 0 hmem (by decide)
  rw [henc] at hdec
  obtain ⟨rfl, _⟩ := bytes_of_bits (by simp; omega) hleft hdec
  exact hok

end MagicShare.Pairing
