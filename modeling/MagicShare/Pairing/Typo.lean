import MagicShare.Base.Crc
import MagicShare.Pairing.ManualCode
import MagicShare.Pairing.RoundTrip

/-! Mistyped manual codes.

A wrong symbol changes five bits in a row and two exchanged symbols ten, wherever
the bytes begin in between. The checksum of `pairing_payload.dart` is the register
of the polynomial `x⁸ + x² + x + 1` over the bits of the bytes, so such a change
goes unnoticed only if the changed bits alone leave the register empty, and then
they are the padding of the last symbol (`manual_code_detects_typos`). -/
namespace MagicShare.Pairing
open Bits

/-! ### The checksum as a register of bits -/

/-- `0x07`: the polynomial without its highest term. -/
def crcPoly : BitVec 8 := 0x07

theorem crcShift_toBitVec (crc : UInt8) : (crcShift crc).toBitVec = Crc.shift crcPoly crc.toBitVec := by
  revert crc
  have h : ∀ crc : BitVec 8, (crcShift (UInt8.ofBitVec crc)).toBitVec = Crc.shift crcPoly crc := by
    decide +kernel
  exact fun crc => h crc.toBitVec

theorem crcByte_toBitVec (crc b : UInt8) :
    (crcByte crc b).toBitVec = Crc.register crcPoly crc.toBitVec (byteBits b) := by
  rw [byteBits, Crc.register_word]
  have hshifts : ∀ (n : Nat) (x : UInt8), (crcShift^[n] x).toBitVec = (Crc.shift crcPoly)^[n] x.toBitVec := by
    intro n
    induction n with
    | zero => exact fun _ => rfl
    | succ n ih =>
      intro x
      rw [Function.iterate_succ_apply, Function.iterate_succ_apply, ih, crcShift_toBitVec]
  exact hshifts 8 (crc ^^^ b)

/-- The bytes of the checksum, bit by bit. -/
theorem crc8_toBitVec (bytes : List UInt8) :
    (crc8 bytes).toBitVec = Crc.register crcPoly 0 (bytes.flatMap byteBits) := by
  have hfold : ∀ crc : UInt8, (bytes.foldl crcByte crc).toBitVec =
      Crc.register crcPoly crc.toBitVec (bytes.flatMap byteBits) := by
    induction bytes with
    | nil => exact fun _ => rfl
    | cons b bytes ih =>
      intro crc
      rw [List.foldl_cons, ih, crcByte_toBitVec, List.flatMap_cons, Crc.register_append]
  exact hfold 0

/-- With its checksum a core leaves the register empty. -/
theorem register_withCrc (core : List UInt8) :
    Crc.register crcPoly 0 ((withCrc core).flatMap byteBits) = 0 := by
  have hlast : crc8 (withCrc core) = crcShift^[8] (crc8 core ^^^ crc8 core) := by
    rw [crc8, withCrc, List.foldl_append]
    rfl
  rw [← crc8_toBitVec, hlast, UInt8.xor_self]
  decide

/-! ### Typos -/

/-- One symbol replaced by another, or two neighbours exchanged across a hyphen at
most. -/
inductive Typo : List Char → List Char → Prop where
  | replaced {pre post c d} : c ∈ crockfordAlphabet → d ∈ crockfordAlphabet → c ≠ d →
      Typo (pre ++ c :: post) (pre ++ d :: post)
  | exchanged {pre hyphens post c d} : (∀ h ∈ hyphens, h = '-') → c ∈ crockfordAlphabet →
      d ∈ crockfordAlphabet → c ≠ d →
      Typo (pre ++ c :: (hyphens ++ d :: post)) (pre ++ d :: (hyphens ++ c :: post))

/-- The bits of the last symbol that `n` bytes do not fill. -/
def paddingBits (n : Nat) : Nat := (5 - 8 * n % 5) % 5

/-- The texts differ in their last symbol, and there in padding bits only. -/
def PaddingOnly (pad : Nat) (code code' : List Char) : Prop :=
  ∃ pre c d, code = pre ++ [c] ∧ code' = pre ++ [d] ∧
    (symbolBits c).take (5 - pad) = (symbolBits d).take (5 - pad)

theorem symbol_ne_hyphen {c : Char} (hc : c ∈ crockfordAlphabet) : c ≠ '-' := by
  rintro rfl
  revert hc
  decide

def withoutHyphens (code : List Char) : List Char := code.filter fun ch => decide (ch ≠ '-')

/-- Text as the encoder writes it: symbols and hyphens. -/
def Grouped (code : List Char) : Prop := ∀ ch ∈ code, ch ∈ crockfordAlphabet ∨ ch = '-'

theorem groupFourFrom_grouped (i : Nat) {raw : List Char} (h : ∀ c ∈ raw, c ∈ crockfordAlphabet) :
    Grouped (groupFourFrom i raw) ∧ withoutHyphens (groupFourFrom i raw) = raw := by
  induction raw generalizing i with
  | nil => exact ⟨fun ch hch => (nomatch hch), rfl⟩
  | cons c raw ih =>
    have hc := h c List.mem_cons_self
    have hne := symbol_ne_hyphen hc
    obtain ⟨hgrouped, hfilter⟩ := ih (i + 1) fun d hd => h d (List.mem_cons_of_mem c hd)
    refine ⟨?_, ?_⟩
    · intro ch hch
      rcases List.mem_append.mp hch with hch | hch
      · split at hch
        · rcases List.mem_cons.mp hch with rfl | hch
          · exact .inr rfl
          · exact .inl ((List.mem_singleton.mp hch) ▸ hc)
        · exact .inl ((List.mem_singleton.mp hch) ▸ hc)
      · exact hgrouped ch hch
    · unfold withoutHyphens at hfilter ⊢
      rw [groupFourFrom, List.filter_append, hfilter]
      split <;> simp [hne]

/-- Of what the decoder strips, only the hyphens are there. -/
theorem Grouped.filter {code : List Char} (h : Grouped code) :
    code.filter (fun ch => decide (ch ∉ ['-', ' ', '\t', '\n', '\r'])) = withoutHyphens code := by
  refine List.filter_congr fun ch hch => ?_
  rcases h ch hch with hsymbol | rfl
  · have hnot := (symbol_facts ch hsymbol).2.2.2.1
    simp only [List.mem_cons, List.not_mem_nil, or_false, not_or] at hnot ⊢
    simp [hnot]
  · rfl

/-- The decoder strips the hyphens and finds the symbols in upper case. -/
theorem normalizeManualCode_grouped (other : Char → List Char) {code : List Char} (h : Grouped code) :
    normalizeManualCode other code = withoutHyphens code ∧
      ∀ c ∈ normalizeManualCode other code, c ∈ crockfordAlphabet := by
  have hmem : ∀ c ∈ withoutHyphens code, c ∈ crockfordAlphabet := by
    intro c hc
    rw [withoutHyphens, List.mem_filter, decide_eq_true_iff] at hc
    exact (h c hc.1).resolve_right hc.2
  have hnormal : normalizeManualCode other code = withoutHyphens code := by
    rw [normalizeManualCode, h.filter, toUpperCase_symbols hmem]
  exact ⟨hnormal, hnormal ▸ hmem⟩

/-- The encoder never ends on a hyphen. -/
theorem groupFourFrom_getLast (i : Nat) (raw : List Char) :
    (groupFourFrom i raw).getLast? = raw.getLast? := by
  induction raw generalizing i with
  | nil => rfl
  | cons c raw ih =>
    rw [groupFourFrom, List.getLast?_append, ih]
    cases raw with
    | nil => split <;> rfl
    | cons d raw => simp [List.getLast?_cons]

/-! ### Differences the checksum notices -/

/-- What is cut off the end of a text that differs in one stretch: a part of what
follows the stretch, or of the stretch if nothing follows. -/
theorem take_stretch {a u b : List Bool} {pad : Nat} (hu : pad ≤ u.length) (hb : b = [] ∨ pad ≤ b.length) :
    ∃ k b', (k = 0 ∨ (k = pad ∧ b = [])) ∧ ∀ w : List Bool, w.length = u.length →
      (a ++ w ++ b).take ((a ++ u ++ b).length - pad) = a ++ w.take (u.length - k) ++ b' := by
  rcases hb with rfl | hb
  · refine ⟨pad, [], .inr ⟨rfl, rfl⟩, fun w hw => ?_⟩
    rw [List.append_nil, List.append_nil, List.append_nil, List.length_append, List.take_append,
      List.take_of_length_le (by omega), Nat.add_sub_assoc hu, Nat.add_sub_cancel_left]
  · refine ⟨0, b.take (b.length - pad), .inl rfl, fun w hw => ?_⟩
    rw [List.take_append, List.take_of_length_le (by simp; omega),
      List.take_of_length_le (by omega : w.length ≤ u.length - 0)]
    congr 2
    simp only [List.length_append]
    omega

/-- Five bits, or what is left of them, are noticed. -/
theorem single_residue {e : List Bool} (he : e.length = 5) {k : Nat} (hk : k < 5)
    (h : Crc.register crcPoly 0 (e.take (5 - k)) = 0) : e.take (5 - k) = List.replicate (5 - k) false := by
  have hall : ∀ b₀ b₁ b₂ b₃ b₄ : Bool, ∀ k < 5, Crc.register crcPoly 0 ([b₀, b₁, b₂, b₃, b₄].take (5 - k)) = 0 →
      [b₀, b₁, b₂, b₃, b₄].take (5 - k) = List.replicate (5 - k) false := by decide +kernel
  match e, he with
  | [b₀, b₁, b₂, b₃, b₄], _ => exact hall b₀ b₁ b₂ b₃ b₄ k hk h

/-- The same five bits twice, or what is left of them, are noticed. -/
theorem double_residue {e : List Bool} (he : e.length = 5) {k : Nat} (hk : k < 5)
    (h : Crc.register crcPoly 0 ((e ++ e).take (10 - k)) = 0) : e = List.replicate 5 false := by
  have hall : ∀ b₀ b₁ b₂ b₃ b₄ : Bool, ∀ k < 5,
      Crc.register crcPoly 0 (([b₀, b₁, b₂, b₃, b₄] ++ [b₀, b₁, b₂, b₃, b₄]).take (10 - k)) = 0 →
      [b₀, b₁, b₂, b₃, b₄] = List.replicate 5 false := by decide +kernel
  match e, he with
  | [b₀, b₁, b₂, b₃, b₄], _ => exact hall b₀ b₁ b₂ b₃ b₄ k hk h

/-- A replaced symbol that goes unnoticed is the last one, and the same up to its
padding. -/
theorem replaced_unnoticed {a b : List Char} {c d : Char} {pad : Nat} (hc : c ∈ crockfordAlphabet)
    (hd : d ∈ crockfordAlphabet) (hne : c ≠ d) (hpad : pad < 5)
    (h : ∀ e ∈ [c, d], Crc.register crcPoly 0 (((a ++ [e] ++ b).flatMap symbolBits).take
      (((a ++ [c] ++ b).flatMap symbolBits).length - pad)) = 0) :
    b = [] ∧ (symbolBits c).take (5 - pad) = (symbolBits d).take (5 - pad) := by
  have hb : b.flatMap symbolBits = [] ∨ pad ≤ (b.flatMap symbolBits).length := by
    cases b with
    | nil => exact .inl rfl
    | cons x b => exact .inr (by simp; omega)
  obtain ⟨k, b', hk, htake⟩ := take_stretch (a := a.flatMap symbolBits) (u := symbolBits c)
    (by simp; omega) hb
  simp only [List.flatMap_append, List.flatMap_singleton] at h
  have hzero := (h c (by simp)).trans (h d (by simp)).symm
  rw [htake _ rfl, htake _ (by simp)] at hzero
  have hres := Crc.residue_of_same (by decide) (by decide) (by simp) hzero
  rw [← List.take_zipWith, length_symbolBits] at hres
  have hsame := Crc.eq_of_difference (by simp)
    (List.take_zipWith.symm.trans (single_residue (by simp) (by omega) hres))
  rcases hk with rfl | ⟨rfl, hnil⟩
  · rw [List.take_of_length_le (by simp), List.take_of_length_le (by simp)] at hsame
    exact absurd (symbolBits_injective c hc d hd hsame) hne
  · refine ⟨?_, hsame⟩
    cases b with
    | nil => rfl
    | cons x b => simp [symbolBits, low_succ] at hnil

/-- Exchanged symbols are always noticed. -/
theorem exchanged_noticed {a b : List Char} {c d : Char} {pad : Nat} (hc : c ∈ crockfordAlphabet)
    (hd : d ∈ crockfordAlphabet) (hne : c ≠ d) (hpad : pad < 5)
    (h : ∀ e ∈ [[c, d], [d, c]], Crc.register crcPoly 0 (((a ++ e ++ b).flatMap symbolBits).take
      (((a ++ [c, d] ++ b).flatMap symbolBits).length - pad)) = 0) : False := by
  have hb : b.flatMap symbolBits = [] ∨ pad ≤ (b.flatMap symbolBits).length := by
    cases b with
    | nil => exact .inl rfl
    | cons x b => exact .inr (by simp; omega)
  obtain ⟨k, b', hk, htake⟩ := take_stretch (a := a.flatMap symbolBits) (u := [c, d].flatMap symbolBits)
    (by simp; omega) hb
  simp only [List.flatMap_append] at h
  have hzero := (h [c, d] (by simp)).trans (h [d, c] (by simp)).symm
  rw [htake _ rfl, htake _ (by simp)] at hzero
  have hres := Crc.residue_of_same (by decide) (by decide) (by simp) hzero
  have hdouble : List.zipWith xor ([c, d].flatMap symbolBits) ([d, c].flatMap symbolBits) =
      List.zipWith xor (symbolBits c) (symbolBits d) ++ List.zipWith xor (symbolBits c) (symbolBits d) := by
    simp only [List.flatMap_cons, List.flatMap_nil, List.append_nil]
    rw [List.zipWith_append (by simp), List.zipWith_comm_of_comm (fun x y => Bool.xor_comm x y)]
  rw [← List.take_zipWith, hdouble, length_symbolsBits] at hres
  have hsame := Crc.eq_of_difference (by simp) (double_residue (by simp) (by omega) hres)
  exact hne (symbolBits_injective c hc d hd hsame)

/-! ### Typos of a code -/

/-- What an encoded payload looks like as a code and as a stream of bits. -/
theorem encodePairingManualCode_bits {p : PairingPayload} {code : String}
    (h : encodePairingManualCode p = .ok code) : ∃ core, encodePairingPayload p = .ok (withCrc core) ∧
      code.toList = groupFour (crockfordEncode (withCrc core)) ∧
      (∀ c ∈ crockfordEncode (withCrc core), c ∈ crockfordAlphabet) ∧
      (crockfordEncode (withCrc core)).flatMap symbolBits = (withCrc core).flatMap byteBits ++
        List.replicate (paddingBits (withCrc core).length) false := by
  obtain ⟨bytes, hbytes, hcode⟩ := Fallible.bind_eq_ok.mp h
  obtain ⟨tokenBytes, blocks, -, rfl⟩ := encodePairingPayload_eq_ok.mp hbytes
  obtain ⟨hmem, pad, hpad, hbits⟩ := crockfordEncodeFrom_bits 0 0
    (withCrc (p.core pairingPayloadVersionV2 tokenBytes blocks)) (by decide)
  refine ⟨_, hbytes, ?_, hmem, ?_⟩
  · rw [← Except.ok.inj hcode, String.toList_ofList]
  · have hlen := congrArg List.length hbits
    simp only [length_symbolsBits, List.length_append, length_low, length_bytesBits, List.length_replicate] at hlen
    obtain rfl : pad = paddingBits (withCrc (p.core pairingPayloadVersionV2 tokenBytes blocks)).length := by
      unfold paddingBits
      omega
    exact hbits

/-- A typo leaves symbols and hyphens, and changes the symbols in one place. -/
theorem Typo.symbols {code code' : List Char} (h : Typo code code') (hcode : Grouped code) :
    Grouped code' ∧ ∃ a b c d, c ∈ crockfordAlphabet ∧ d ∈ crockfordAlphabet ∧ c ≠ d ∧
      ((withoutHyphens code = a ++ [c] ++ b ∧ withoutHyphens code' = a ++ [d] ++ b ∧
          ∃ pre post, code = pre ++ c :: post ∧ code' = pre ++ d :: post ∧ b = withoutHyphens post) ∨
        (withoutHyphens code = a ++ [c, d] ++ b ∧ withoutHyphens code' = a ++ [d, c] ++ b)) := by
  have happend : ∀ x y, withoutHyphens (x ++ y) = withoutHyphens x ++ withoutHyphens y :=
    fun x y => List.filter_append x y
  have hsymbol : ∀ c ∈ crockfordAlphabet, ∀ x, withoutHyphens (c :: x) = [c] ++ withoutHyphens x := by
    intro c hc x
    exact List.filter_cons_of_pos (decide_eq_true (symbol_ne_hyphen hc))
  cases h with
  | @replaced pre post c d hc hd hne =>
    refine ⟨?_, withoutHyphens pre, withoutHyphens post, c, d, hc, hd, hne,
      .inl ⟨?_, ?_, pre, post, rfl, rfl, rfl⟩⟩
    · intro ch hch
      rcases List.mem_append.mp hch with hch | hch
      · exact hcode ch (by simp [hch])
      · rcases List.mem_cons.mp hch with rfl | hch
        · exact .inl hd
        · exact hcode ch (by simp [hch])
    · rw [happend, hsymbol c hc, List.append_assoc]
    · rw [happend, hsymbol d hd, List.append_assoc]
  | @exchanged pre hyphens post c d hhyphens hc hd hne =>
    have hgone : withoutHyphens hyphens = [] :=
      List.filter_eq_nil_iff.mpr fun ch hch => by simp [hhyphens ch hch]
    refine ⟨?_, withoutHyphens pre, withoutHyphens post, c, d, hc, hd, hne, .inr ⟨?_, ?_⟩⟩
    · intro ch hch
      simp only [List.mem_append, List.mem_cons] at hch
      refine hcode ch ?_
      simp only [List.mem_append, List.mem_cons]
      rcases hch with hpre | rfl | hhyphen | rfl | hpost
      · exact .inl hpre
      · exact .inr (.inr (.inr (.inl rfl)))
      · exact .inr (.inr (.inl hhyphen))
      · exact .inr (.inl rfl)
      · exact .inr (.inr (.inr (.inr hpost)))
    · rw [happend, hsymbol c hc, happend, hgone, List.nil_append, hsymbol d hd]
      simp
    · rw [happend, hsymbol d hd, happend, hgone, List.nil_append, hsymbol c hc]
      simp

/-- A group of symbols ends in a symbol, so hyphens cannot follow the last one. -/
theorem groupFour_no_hyphens {raw pre post : List Char} {c : Char}
    (hraw : ∀ c ∈ raw, c ∈ crockfordAlphabet) (h : groupFour raw = pre ++ c :: post)
    (hpost : withoutHyphens post = []) : post = [] := by
  rcases List.eq_nil_or_concat post with rfl | ⟨front, x, rfl⟩
  · rfl
  · have hx : x = '-' := by
      have hgone := List.filter_eq_nil_iff.mp hpost x (by simp)
      simpa using hgone
    have hlast := groupFourFrom_getLast 0 raw
    rw [show groupFourFrom 0 raw = _ from h] at hlast
    have hmem := hraw x (List.mem_of_getLast? (hlast.symm.trans (by simp [List.getLast?_cons])))
    rw [hx] at hmem
    exact absurd hmem (by decide)

/-- Symbols of equal number decode to bytes of equal number, read off the front of
their bits. -/
theorem bits_of_decoded {raw raw' : List Char} {bytes bytes' : List UInt8} {pad : Nat} {left : List Bool}
    (hlen : raw'.length = raw.length) (hpad : pad < 5)
    (hbits : raw.flatMap symbolBits = bytes.flatMap byteBits ++ List.replicate pad false)
    (hleft : left.length < 8) (hbits' : raw'.flatMap symbolBits = bytes'.flatMap byteBits ++ left) :
    bytes.flatMap byteBits = (raw.flatMap symbolBits).take ((raw.flatMap symbolBits).length - pad) ∧
      bytes'.flatMap byteBits = (raw'.flatMap symbolBits).take ((raw.flatMap symbolBits).length - pad) := by
  have h := congrArg List.length hbits
  have h' := congrArg List.length hbits'
  simp only [length_symbolsBits, List.length_append, length_bytesBits, List.length_replicate] at h h'
  rw [length_symbolsBits, hbits, hbits']
  exact ⟨(List.take_left' (by rw [length_bytesBits]; omega)).symm,
    (List.take_left' (by rw [length_bytesBits]; omega)).symm⟩

/-- A typo the checksum does not notice leaves the bytes as they are. -/
theorem Typo.unnoticed {raw raw' a b : List Char} {c d : Char} {pad : Nat} (hc : c ∈ crockfordAlphabet)
    (hd : d ∈ crockfordAlphabet) (hne : c ≠ d) (hpad : pad < 5)
    (h : (raw = a ++ [c] ++ b ∧ raw' = a ++ [d] ++ b) ∨ (raw = a ++ [c, d] ++ b ∧ raw' = a ++ [d, c] ++ b))
    (hzero : ∀ r ∈ [raw, raw'], Crc.register crcPoly 0 ((r.flatMap symbolBits).take
      ((raw.flatMap symbolBits).length - pad)) = 0) :
    raw = a ++ [c] ∧ raw' = a ++ [d] ∧ b = [] ∧ (symbolBits c).take (5 - pad) = (symbolBits d).take (5 - pad) := by
  rcases h with ⟨rfl, rfl⟩ | ⟨rfl, rfl⟩
  · obtain ⟨rfl, hsame⟩ := replaced_unnoticed (a := a) (b := b) hc hd hne hpad (by simpa using hzero)
    exact ⟨by simp, by simp, rfl, hsame⟩
  · exact (exchanged_noticed (a := a) (b := b) hc hd hne hpad (by simpa using hzero)).elim

/-- **A mistyped code is noticed.** With one symbol replaced, or two neighbours
exchanged, a code no longer decodes, or it decodes to the same payload because
nothing but the padding of its last symbol was touched. -/
theorem manual_code_detects_typos (other : Char → List Char) {p : PairingPayload} {code code' : String}
    (h : encodePairingManualCode p = .ok code) (htypo : Typo code.toList code'.toList) :
    (∃ e, decodePairingManualCode other code' = .error e) ∨
      ∃ q bytes, decodePairingManualCode other code = .ok q ∧ decodePairingManualCode other code' = .ok q ∧
        encodePairingPayload p = .ok bytes ∧
        PaddingOnly (paddingBits bytes.length) code.toList code'.toList := by
  obtain ⟨core, hp, hcode, hraw, hbits⟩ := encodePairingManualCode_bits h
  obtain ⟨hgrouped, hfilter⟩ := groupFourFrom_grouped 0 hraw
  rw [show groupFourFrom 0 _ = code.toList from hcode.symm] at hgrouped hfilter
  obtain ⟨hgrouped', a, b, c, d, hc, hd, hne, hplace⟩ := htypo.symbols hgrouped
  obtain ⟨hnormal, -⟩ := normalizeManualCode_grouped other hgrouped
  obtain ⟨hnormal', hraw'⟩ := normalizeManualCode_grouped other hgrouped'
  obtain ⟨bytes', left, hdecode', hleft, hbits'⟩ := crockfordDecodeFrom_bits other 0 0 0 hraw' (by decide)
  have hcode' : decodePairingManualCode other code' = decodePairingPayload bytes' := by
    rw [decodePairingManualCode, crockfordDecode, hdecode']
    rfl
  have hdecode : decodePairingManualCode other code = decodePairingPayload (withCrc core) := by
    rw [decodePairingManualCode, hnormal, hfilter, crockfordDecode_encode]
    rfl
  cases hq : decodePairingPayload bytes' with
  | error e => exact .inl ⟨e, hcode'.trans hq⟩
  | ok q =>
    obtain ⟨core', rfl, -⟩ := withCrc_of_decode hq
    have hpad : paddingBits (withCrc core).length < 5 := Nat.mod_lt _ (by decide)
    rw [hnormal', low_zero, List.nil_append] at hbits'
    rw [hfilter] at hplace
    have hlen : (withoutHyphens code'.toList).length = (crockfordEncode (withCrc core)).length := by
      rcases hplace with ⟨h₁, h₂, -⟩ | ⟨h₁, h₂⟩ <;> rw [h₁, h₂] <;> simp
    obtain ⟨hread, hread'⟩ := bits_of_decoded hlen hpad hbits hleft hbits'
    have hzero : ∀ r ∈ [crockfordEncode (withCrc core), withoutHyphens code'.toList],
        Crc.register crcPoly 0 ((r.flatMap symbolBits).take
          (((crockfordEncode (withCrc core)).flatMap symbolBits).length - paddingBits (withCrc core).length)) = 0 := by
      intro r hr
      simp only [List.mem_cons, List.not_mem_nil, or_false] at hr
      rcases hr with rfl | rfl
      · rw [← hread, register_withCrc]
      · rw [← hread', register_withCrc]
    obtain ⟨hlast, hlast', rfl, hsame⟩ :=
      Typo.unnoticed hc hd hne hpad (hplace.imp (fun h => ⟨h.1, h.2.1⟩) id) hzero
    refine .inr ⟨q, withCrc core, ?_, hcode'.trans hq, hp, ?_⟩
    · -- Cut to the bytes, the two last symbols are the same.
      have hbytes : (withCrc core').flatMap byteBits = (withCrc core).flatMap byteBits := by
        rw [hread, hread', hlast, hlast', List.flatMap_append, List.flatMap_append, List.flatMap_singleton,
          List.flatMap_singleton, List.take_append, List.take_append, List.length_append, length_symbolBits,
          Nat.add_sub_assoc (by omega), Nat.add_sub_cancel_left, hsame]
      obtain ⟨hsamebytes, -⟩ := bytes_of_bits (by decide) (by decide) (congrArg (· ++ []) hbytes)
      rw [hdecode, ← hsamebytes, hq]
    · rcases hplace with ⟨-, -, pre, post, hpre, hpre', hb⟩ | ⟨h₁, -⟩
      · obtain rfl : post = [] := groupFour_no_hyphens hraw (hcode.symm.trans hpre) hb.symm
        exact ⟨pre, c, d, hpre, hpre', hsame⟩
      · exact absurd (hlast.symm.trans h₁) (by simp)

/-- Two symbols exchanged across a hyphen. -/
theorem manual_code_detects_typos_exchanged :
    encodePairingManualCode ⟨"code", ["192.168.1.10"], 53317, [2, 7], 2⟩ =
        .ok "0826-6VV4-CM0G-9G58-045D-0H82-083S-6" ∧
      ∃ e, decodePairingManualCode (fun c => [c]) "0826-6VVC-4M0G-9G58-045D-0H82-083S-6" = .error e := by
  have hencode : encodePairingManualCode ⟨"code", ["192.168.1.10"], 53317, [2, 7], 2⟩ =
      .ok "0826-6VV4-CM0G-9G58-045D-0H82-083S-6" := by decide +kernel
  have htypo : Typo "0826-6VV4-CM0G-9G58-045D-0H82-083S-6".toList
      "0826-6VVC-4M0G-9G58-045D-0H82-083S-6".toList :=
    @Typo.exchanged "0826-6VV".toList ['-'] "M0G-9G58-045D-0H82-083S-6".toList '4' 'C' (by simp)
      (by decide) (by decide) (by decide)
  refine ⟨hencode, ?_⟩
  rcases manual_code_detects_typos (fun c => [c]) hencode htypo with he | ⟨_, _, _, _, _, pre, c, d, h, h', _⟩
  · exact he
  · have hinit : "0826-6VV4-CM0G-9G58-045D-0H82-083S-6".toList.dropLast =
        "0826-6VVC-4M0G-9G58-045D-0H82-083S-6".toList.dropLast := by
      rw [h, h', List.dropLast_concat, List.dropLast_concat]
    exact absurd hinit (by decide)

end MagicShare.Pairing
