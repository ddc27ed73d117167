import Mathlib.Data.List.TakeWhile
import MagicShare.Pairing.Typo
import MagicShare.Pairing.UriForm

/-! Text forms that were copied by hand or by another program.

`UriVariant` and `ManualVariant` say what may happen to the text of a payload on its way:
`text_forms_survive`, it still decodes to that payload. The manual code's buffers are words
of 64 bits that are never masked; `crockfordEncode_wide` and `crockfordDecode_wide` compare
them with buffers that never overflow. -/
namespace MagicShare.Pairing
open Bits Fallible

/-! ### Buffers without bounds -/

def writeSymbolsWide (buffer : Nat) : Nat → List Char × Nat
  | bits + 5 =>
    let rest := writeSymbolsWide buffer bits
    (crockfordAlphabet.getD ((buffer >>> bits) &&& 0x1f) ' ' :: rest.1, rest.2)
  | bits => ([], bits)

def crockfordEncodeWideFrom (buffer bits : Nat) : List UInt8 → List Char
  | [] => if bits > 0 then [crockfordAlphabet.getD ((buffer <<< (5 - bits)) &&& 0x1f) ' '] else []
  | byte :: rest =>
    let buffer := (buffer <<< 8) ||| byte.toNat
    let written := writeSymbolsWide buffer (bits + 8)
    written.1 ++ crockfordEncodeWideFrom buffer written.2 rest

def crockfordEncodeWide (bytes : List UInt8) : List Char := crockfordEncodeWideFrom 0 0 bytes

def crockfordDecodeWideFrom (other : Char → List Char) (buffer bits i : Nat) :
    List Char → Except DecodeFailure (List UInt8)
  | [] => .ok []
  | ch :: rest =>
    match crockfordIndex other ch with
    | none => .error (.payload .badAlphabet
        s!"character {String.ofList (toUpperCase other [ch])} at index {i} is not Crockford Base32")
    | some v =>
      let buffer := (buffer <<< 5) ||| v
      if bits + 5 ≥ 8 then do
        let bytes ← crockfordDecodeWideFrom other buffer (bits + 5 - 8) (i + 1) rest
        return UInt8.ofNat ((buffer >>> (bits + 5 - 8)) &&& 0xff) :: bytes
      else crockfordDecodeWideFrom other buffer (bits + 5) (i + 1) rest

def crockfordDecodeWide (other : Char → List Char) (input : List Char) : Except DecodeFailure (List UInt8) :=
  crockfordDecodeWideFrom other 0 0 0 input

theorem writeSymbols_wide (n bits : Nat) (h : bits ≤ 64) :
    writeSymbols (BitVec.ofNat 64 n) bits = writeSymbolsWide n bits := by
  fun_induction writeSymbolsWide n bits with
  | case1 bits rest ih =>
    have hfield := toNat_field n bits 5 (0x1f : BitVec 64) (by omega) (by decide)
    rw [writeSymbols, ih (by omega), crockfordSymbol, hfield]
    rfl
  | case2 bits hnot =>
    rw [writeSymbols]
    exact hnot

theorem writeSymbolsWide_left (n bits : Nat) : (writeSymbolsWide n bits).2 < 5 := by
  fun_induction writeSymbolsWide n bits with
  | case1 bits rest ih => exact ih
  | case2 bits hnot =>
    by_contra hge
    exact hnot (bits - 5) (by omega)

theorem crockfordEncodeFrom_wide (n bits : Nat) (h : bits < 5) (bytes : List UInt8) :
    crockfordEncodeFrom (BitVec.ofNat 64 n) bits bytes = crockfordEncodeWideFrom n bits bytes := by
  induction bytes generalizing n bits with
  | nil =>
    have hfield := toNat_field (n <<< (5 - bits)) 0 5 (0x1f : BitVec 64) (by omega) (by decide)
    rw [BitVec.sshiftRight_zero, Nat.shiftRight_zero, ofNat_shiftLeft] at hfield
    rw [crockfordEncodeFrom, crockfordEncodeWideFrom, crockfordSymbol, hfield]
    rfl
  | cons byte rest ih =>
    have hbuffer : (BitVec.ofNat 64 n <<< 8) ||| byte.toBitVec.setWidth 64 =
        BitVec.ofNat 64 ((n <<< 8) ||| byte.toNat) := by
      rw [BitVec.ofNat_or, ofNat_shiftLeft, ← UInt8.toNat_toBitVec, BitVec.ofNat_toNat]
    rw [crockfordEncodeFrom, crockfordEncodeWideFrom, hbuffer]
    simp only [writeSymbols_wide _ (bits + 8) (by omega), ih _ _ (writeSymbolsWide_left _ _)]

/-- **The encoder's overflow is harmless.** -/
theorem crockfordEncode_wide (bytes : List UInt8) : crockfordEncode bytes = crockfordEncodeWide bytes :=
  crockfordEncodeFrom_wide 0 0 (by decide) bytes

theorem crockfordDecodeFrom_wide (other : Char → List Char) (n bits i : Nat) (h : bits < 8) (cs : List Char) :
    crockfordDecodeFrom other (BitVec.ofNat 64 n) bits i cs = crockfordDecodeWideFrom other n bits i cs := by
  induction cs generalizing n bits i with
  | nil => rfl
  | cons c cs ih =>
    rw [crockfordDecodeFrom, crockfordDecodeWideFrom]
    cases crockfordIndex other c with
    | none => rfl
    | some v =>
      have hbuffer : (BitVec.ofNat 64 n <<< 5) ||| BitVec.ofNat 64 v = BitVec.ofNat 64 ((n <<< 5) ||| v) := by
        rw [BitVec.ofNat_or, ofNat_shiftLeft]
      simp only [hbuffer]
      by_cases hfull : bits + 5 ≥ 8
      · have hfield := toNat_field ((n <<< 5) ||| v) (bits + 5 - 8) 8 (0xff : BitVec 64) (by omega) (by decide)
        have hbyte : UInt8.ofBitVec (((BitVec.ofNat 64 ((n <<< 5) ||| v)).sshiftRight (bits + 5 - 8) &&& 0xff).setWidth 8) =
            UInt8.ofNat ((((n <<< 5) ||| v) >>> (bits + 5 - 8)) &&& 0xff) := by
          refine UInt8.toBitVec_inj.mp (BitVec.eq_of_toNat_eq ?_)
          rw [UInt8.toBitVec_ofBitVec, BitVec.toNat_setWidth, hfield]
          rfl
        rw [if_pos hfull, if_pos hfull, ih _ _ _ (by omega), hbyte]
      · rw [if_neg hfull, if_neg hfull, ih _ _ _ (by omega)]

/-- **The decoder's overflow is harmless**, and so it is for the error it reports. -/
theorem crockfordDecode_wide (other : Char → List Char) (input : List Char) :
    crockfordDecode other input = crockfordDecodeWide other input :=
  crockfordDecodeFrom_wide other 0 0 0 (by decide) input

/-! ### The manual code, retyped -/

/-- What separates groups, and what the decoder strips. -/
def separators : List Char := ['-', ' ', '\t', '\n', '\r']

def withoutSeparators (code : List Char) : List Char := code.filter fun ch => decide (ch ∉ separators)

/-- A symbol, or a letter that looks like it. -/
inductive Confused : Char → Char → Prop
  | same (c : Char) : Confused c c
  | zero : Confused '0' 'O'
  | oneI : Confused '1' 'I'
  | oneL : Confused '1' 'L'
  | letterV : Confused 'V' 'U'

/-- A symbol or a letter that looks like it, in either case. -/
def Retyped (c d : Char) : Prop := ∃ e, Confused c e ∧ d.toUpper = e.toUpper

/-- The same symbols, each retyped, with separators anywhere. -/
def ManualVariant (code input : List Char) : Prop :=
  List.Forall₂ Retyped (withoutSeparators code) (withoutSeparators input)

/-- What the letters that may stand for a symbol are. -/
theorem Confused.facts {c e : Char} (hc : c ∈ crockfordAlphabet) (h : Confused c e) (other : Char → List Char) :
    e.toNat < 128 ∧ e.toUpper = e ∧ crockfordIndex other e = some (symbolValue c) := by
  cases h with
  | same =>
    obtain ⟨hascii, hupper, -⟩ := symbol_facts c hc
    exact ⟨hascii, hupper, crockfordIndex_symbol hc⟩
  | zero => exact ⟨by decide, by decide, rfl⟩
  | oneI => exact ⟨by decide, by decide, rfl⟩
  | oneL => exact ⟨by decide, by decide, rfl⟩
  | letterV => exact ⟨by decide, by decide, rfl⟩

/-- Only letters have another case. -/
theorem toNat_lt_of_toUpper {d : Char} (h : d.toUpper.toNat < 128) : d.toNat < 128 := by
  unfold Char.toUpper at h
  split at h
  · next hd =>
    have hle : d.toNat ≤ 'z'.toNat := UInt32.le_iff_toNat_le.mp hd.2
    exact Nat.lt_of_le_of_lt hle (by decide)
  · exact h

theorem toNat_lt_of_toLower {d : Char} (h : d.toLower.toNat < 128) : d.toNat < 128 := by
  unfold Char.toLower at h
  split at h
  · next hd =>
    have hle : d.toNat ≤ 'Z'.toNat := UInt32.le_iff_toNat_le.mp hd.2
    exact Nat.lt_of_le_of_lt hle (by decide)
  · exact h

/-- A retyped symbol has the value of the symbol. -/
theorem forall₂_toUpperCase (other : Char → List Char) {cs ds : List Char} (hcs : ∀ c ∈ cs, c ∈ crockfordAlphabet)
    (h : List.Forall₂ Retyped cs ds) :
    List.Forall₂ (fun c e => crockfordIndex other e = some (symbolValue c)) cs (toUpperCase other ds) := by
  induction h with
  | nil => exact .nil
  | @cons c d cs ds hretyped _ ih =>
    obtain ⟨e, hconfused, hcase⟩ := hretyped
    obtain ⟨hascii, hupper, hindex⟩ := hconfused.facts (hcs c List.mem_cons_self) other
    rw [hupper] at hcase
    have hd : d.toNat < 128 := toNat_lt_of_toUpper (hcase ▸ hascii)
    rw [toUpperCase, List.flatMap_cons, ← toUpperCase, if_pos hd, hcase]
    exact .cons hindex (ih fun b hb => hcs b (List.mem_cons_of_mem c hb))

/-- The decoder sees values, not letters. -/
theorem crockfordDecodeFrom_values (other : Char → List Char) (buffer : BitVec 64) (bits i : Nat) {cs es : List Char}
    (hcs : ∀ c ∈ cs, c ∈ crockfordAlphabet)
    (h : List.Forall₂ (fun c e => crockfordIndex other e = some (symbolValue c)) cs es) :
    crockfordDecodeFrom other buffer bits i es = crockfordDecodeFrom other buffer bits i cs := by
  induction h generalizing buffer bits i with
  | nil => rfl
  | @cons c e cs es hindex _ ih =>
    have hrest : ∀ d ∈ cs, d ∈ crockfordAlphabet := fun d hd => hcs d (List.mem_cons_of_mem c hd)
    rw [crockfordDecodeFrom, crockfordDecodeFrom, hindex, crockfordIndex_symbol (hcs c List.mem_cons_self)]
    simp only [ih _ _ _ hrest]

theorem decode_manualVariant (other : Char → List Char) {bytes : List UInt8} {input : String}
    (h : ManualVariant (groupFour (crockfordEncode bytes)) input.toList) :
    decodePairingManualCode other input = decodePairingPayload bytes := by
  have hsymbols : ∀ c ∈ crockfordEncode bytes, c ∈ crockfordAlphabet :=
    (crockfordEncodeFrom_bits 0 0 bytes (by decide)).1
  obtain ⟨hgrouped, hraw⟩ := groupFourFrom_grouped 0 hsymbols
  have hcode : withoutSeparators (groupFour (crockfordEncode bytes)) = crockfordEncode bytes :=
    hgrouped.filter.trans hraw
  rw [ManualVariant, hcode] at h
  have hdecode : crockfordDecode other (normalizeManualCode other input.toList) = .ok bytes := by
    rw [← crockfordDecode_encode other bytes]
    exact crockfordDecodeFrom_values other 0 0 0 hsymbols (forall₂_toUpperCase other hsymbols h)
  rw [decodePairingManualCode, hdecode]
  rfl

/-! ### The URI, re-encoded -/

/-- A symbol of the one alphabet, or the symbol of the other in its place. -/
inductive Reencoded : Char → Char → Prop
  | same (c : Char) : Reencoded c c
  | plus : Reencoded '-' '+'
  | slash : Reencoded '_' '/'

/-- White space around the text, the scheme in any case or gone, symbols of either alphabet,
and as much of the padding as was kept. -/
structure UriVariant (uri input : List Char) : Prop where
  parts : ∃ before scheme text text' after kept dropped,
    uri = pairingUriScheme ++ text ++ List.replicate (kept + dropped) '=' ∧ '=' ∉ text ∧
    input = before ++ (scheme ++ text' ++ List.replicate kept '=') ++ after ∧
    (∀ c ∈ before, isWhitespace c) ∧ (∀ c ∈ after, isWhitespace c) ∧
    (scheme = [] ∨ scheme.map Char.toLower = pairingUriScheme) ∧ List.Forall₂ Reencoded text text'

/-- What is left of a text between white space. -/
theorem trimmed_between {before s after : List Char} (hbefore : ∀ c ∈ before, isWhitespace c)
    (hafter : ∀ c ∈ after, isWhitespace c) (hs : ∀ c ∈ s, isWhitespace c = false) :
    trimmed (before ++ s ++ after) = s := by
  have hfront : ∀ t : List Char, (before ++ t).dropWhile isWhitespace = t.dropWhile isWhitespace := fun t =>
    List.dropWhile_append_of_pos hbefore
  have hstop : ∀ t : List Char, (∀ c ∈ t, isWhitespace c = false) → t.dropWhile isWhitespace = t := fun t ht =>
    List.dropWhile_eq_self_iff.mpr fun hpos => by simp [ht]
  have hback : ∀ c ∈ after.reverse, isWhitespace c := fun c hc => hafter c (List.mem_reverse.mp hc)
  cases s with
  | nil =>
    have hnil : after.dropWhile isWhitespace = [] := List.dropWhile_eq_nil_iff.mpr hafter
    rw [trimmed, List.append_nil, hfront, hnil]
    rfl
  | cons c s =>
    have hc := hs c List.mem_cons_self
    have hkept : ((c :: s) ++ after).dropWhile isWhitespace = (c :: s) ++ after :=
      List.dropWhile_cons_of_neg (by simp [hc])
    rw [trimmed, List.append_assoc, hfront, hkept, List.reverse_append, List.dropWhile_append_of_pos hback,
      hstop _ fun d hd => hs d (List.mem_reverse.mp hd), List.reverse_reverse]

/-- The characters of a text in base64, of either alphabet. -/
def uriSymbols : List Char := '+' :: '/' :: '=' :: Base64.urlSafe.symbols

theorem uriSymbols_facts : ∀ c ∈ uriSymbols, c.toNat < 128 ∧ isWhitespace c = false ∧ c.toLower ≠ ':' :=
  forall_mem_of_all (by decide)

theorem scheme_facts {scheme : List Char} (h : scheme.map Char.toLower = pairingUriScheme) :
    ∀ c ∈ scheme, c.toNat < 128 ∧ isWhitespace c = false := by
  intro c hc
  have hmem : c.toLower ∈ pairingUriScheme := by
    rw [← h]
    exact List.mem_map_of_mem hc
  have hascii : c.toNat < 128 := toNat_lt_of_toLower (scheme_ascii _ hmem)
  have hspace : ∀ n < 128, (Char.ofNat n).toLower ∈ pairingUriScheme → isWhitespace (Char.ofNat n) = false := by
    decide +kernel
  refine ⟨hascii, ?_⟩
  rw [← Char.ofNat_toNat c] at hmem ⊢
  exact hspace _ hascii hmem

theorem lengthOf_ascii {s : List Char} (h : ∀ c ∈ s, c.toNat < 128) : lengthOf s = s.length := by
  induction s with
  | nil => rfl
  | cons c s ih =>
    have hc := h c List.mem_cons_self
    have hunit : codeUnits c = 1 := if_pos (by omega)
    rw [lengthOf] at ih ⊢
    rw [List.map_cons, List.sum_cons, hunit, ih fun d hd => h d (List.mem_cons_of_mem c hd), List.length_cons,
      Nat.add_comm]

theorem dropUnits_ascii {s : List Char} (h : ∀ c ∈ s, c.toNat < 128) (rest : List Char) :
    dropUnits s.length (s ++ rest) = rest := by
  induction s with
  | nil =>
    cases rest with
    | nil => rfl
    | cons c rest => rfl
  | cons c s ih =>
    have hc := h c List.mem_cons_self
    have hunit : codeUnits c = 1 := if_pos (by omega)
    rw [List.length_cons, List.cons_append, dropUnits, if_pos hunit]
    exact ih fun d hd => h d (List.mem_cons_of_mem c hd)

theorem toLowerCase_ascii (other : Char → List Char) {s : List Char} (h : ∀ c ∈ s, c.toNat < 128) :
    toLowerCase other s = s.map Char.toLower := by
  induction s with
  | nil => rfl
  | cons c s ih =>
    rw [toLowerCase, List.flatMap_cons, ← toLowerCase, if_pos (h c List.mem_cons_self),
      ih fun d hd => h d (List.mem_cons_of_mem c hd)]
    rfl

/-- The scheme goes, in any case; a text without one stays. -/
theorem withoutScheme_variant (other : Char → List Char) {scheme text : List Char}
    (hscheme : scheme = [] ∨ scheme.map Char.toLower = pairingUriScheme) (htext : ∀ c ∈ text, c ∈ uriSymbols) :
    withoutScheme other (scheme ++ text) = .ok text := by
  have hascii : ∀ c ∈ text, c.toNat < 128 := fun c hc => (uriSymbols_facts c (htext c hc)).1
  obtain rfl | hscheme := hscheme
  · have hnot : ¬pairingUriScheme.isPrefixOf (toLowerCase other text) := by
      intro hprefix
      have hcolon : ':' ∈ toLowerCase other text := (List.isPrefixOf_iff_prefix.mp hprefix).subset (by decide)
      rw [toLowerCase_ascii other hascii] at hcolon
      obtain ⟨c, hc, hlower⟩ := List.mem_map.mp hcolon
      exact (uriSymbols_facts c (htext c hc)).2.2 hlower
    exact if_neg hnot
  · have hlength : pairingUriScheme.length = scheme.length := by rw [← hscheme, List.length_map]
    have hschemeAscii : ∀ c ∈ scheme, c.toNat < 128 := fun c hc => (scheme_facts hscheme c hc).1
    have hall : ∀ c ∈ scheme ++ text, c.toNat < 128 := List.forall_mem_append.mpr ⟨hschemeAscii, hascii⟩
    have hprefix : pairingUriScheme.isPrefixOf (toLowerCase other (scheme ++ text)) := by
      rw [toLowerCase_ascii other hall, List.map_append, hscheme]
      exact List.isPrefixOf_iff_prefix.mpr (List.prefix_append _ _)
    rw [withoutScheme, if_pos hprefix, substring, lengthOf_ascii hall, hlength, List.length_append,
      if_neg (by omega), dropUnits_ascii hschemeAscii]

/-- A re-encoded symbol is restored. -/
theorem replaceAll_reencoded {text text' : List Char} (htext : ∀ c ∈ text, c ∈ Base64.urlSafe.symbols)
    (h : List.Forall₂ Reencoded text text') :
    replaceAll (replaceAll text' '+' '-') '/' '_' = text ∧ ∀ c ∈ text', c ∈ uriSymbols := by
  induction h with
  | nil => exact ⟨rfl, List.forall_mem_nil _⟩
  | @cons c d cs ds hreencoded _ ih =>
    obtain ⟨hrestored, hmem⟩ := ih fun b hb => htext b (List.mem_cons_of_mem c hb)
    have hc := htext c List.mem_cons_self
    have hhead : replaceAll (replaceAll [d] '+' '-') '/' '_' = [c] ∧ d ∈ uriSymbols := by
      cases hreencoded with
      | same =>
        have hplus : c ≠ '+' := by
          rintro rfl
          exact absurd hc (by decide)
        have hslash : c ≠ '/' := by
          rintro rfl
          exact absurd hc (by decide)
        refine ⟨by simp [replaceAll, hplus, hslash], ?_⟩
        exact List.mem_cons_of_mem _ (List.mem_cons_of_mem _ (List.mem_cons_of_mem _ hc))
      | plus => exact ⟨rfl, by decide⟩
      | slash => exact ⟨rfl, by decide⟩
    refine ⟨?_, List.forall_mem_cons.mpr ⟨hhead.2, hmem⟩⟩
    show replaceAll (replaceAll [d] '+' '-') '/' '_' ++ replaceAll (replaceAll ds '+' '-') '/' '_' = c :: cs
    rw [hhead.1, hrestored]
    rfl

/-- What is missing of the padding comes back. -/
theorem padded_variant {text text' : List Char} {kept : Nat} (htext : ∀ c ∈ text, c ∈ Base64.urlSafe.symbols)
    (h : List.Forall₂ Reencoded text text') (hkept : kept ≤ (text.length + 3) / 4 * 4 - text.length) :
    padded (text' ++ List.replicate kept '=') =
      text ++ List.replicate ((text.length + 3) / 4 * 4 - text.length) '=' := by
  obtain ⟨hrestored, -⟩ := replaceAll_reencoded htext h
  have hreplaced : replaceAll (replaceAll (text' ++ List.replicate kept '=') '+' '-') '/' '_' =
      text ++ List.replicate kept '=' := by
    rw [replaceAll, replaceAll, List.map_append, List.map_append, List.map_replicate, List.map_replicate]
    exact congrArg (· ++ _) hrestored
  have hascii : ∀ c ∈ text ++ List.replicate kept '=', c.toNat < 128 := by
    have hsymbols : ∀ c ∈ Base64.urlSafe.symbols, c.toNat < 128 := forall_mem_of_all (by decide)
    refine List.forall_mem_append.mpr ⟨fun c hc => hsymbols c (htext c hc), fun c hc => ?_⟩
    rw [List.eq_of_mem_replicate hc]
    decide
  have hlength : (text ++ List.replicate kept '=').length = text.length + kept := by
    rw [List.length_append, List.length_replicate]
  have hcount : kept + ((text.length + kept + 3) / 4 * 4 - (text.length + kept)) =
      (text.length + 3) / 4 * 4 - text.length := by omega
  rw [padded]
  simp only [hreplaced, padRight, lengthOf_ascii hascii, hlength]
  rw [List.append_assoc, ← List.replicate_add, hcount]

/-- The two ends of a text and its padding. -/
theorem append_replicate_inj {s t : List Char} {m n : Nat} (hs : '=' ∉ s) (ht : '=' ∉ t)
    (h : s ++ List.replicate m '=' = t ++ List.replicate n '=') : s = t ∧ m = n := by
  induction s generalizing t with
  | nil =>
    cases t with
    | nil => exact ⟨rfl, by simpa using congrArg List.length h⟩
    | cons d t =>
      cases m with
      | zero => cases h
      | succ m =>
        obtain ⟨rfl, -⟩ := List.cons.inj h
        exact absurd List.mem_cons_self ht
  | cons c s ih =>
    cases t with
    | nil =>
      cases n with
      | zero => cases h
      | succ n =>
        obtain ⟨rfl, -⟩ := List.cons.inj h
        exact absurd List.mem_cons_self hs
    | cons d t =>
      obtain ⟨rfl, htail⟩ := List.cons.inj h
      obtain ⟨rfl, hmn⟩ := ih (fun hmem => hs (List.mem_cons_of_mem c hmem))
        (fun hmem => ht (List.mem_cons_of_mem c hmem)) htail
      exact ⟨rfl, hmn⟩

theorem decode_uriVariant (other : Char → List Char) {bytes : List UInt8} {input : String}
    (h : UriVariant (pairingUriScheme ++ base64UrlEncode bytes) input.toList) :
    decodePairingUri other input = decodePairingPayload bytes := by
  obtain ⟨before, scheme, text, text', after, kept, dropped, huri, heq, hinput, hbefore, hafter, hscheme, hreencoded⟩ :=
    h.parts
  have hnot : '=' ∉ Base64.urlSafe.encode bytes := by
    intro hmem
    exact absurd (Base64.urlSafe.mem_encode hmem) (by decide)
  rw [List.append_assoc, base64UrlEncode] at huri
  obtain ⟨rfl, hcount⟩ := append_replicate_inj hnot heq (List.append_cancel_left huri)
  have htext : ∀ c ∈ Base64.urlSafe.encode bytes, c ∈ Base64.urlSafe.symbols := fun c hc =>
    Base64.urlSafe.mem_encode hc
  have hsymbols : ∀ c ∈ text' ++ List.replicate kept '=', c ∈ uriSymbols := by
    refine List.forall_mem_append.mpr ⟨(replaceAll_reencoded htext hreencoded).2, fun c hc => ?_⟩
    rw [List.eq_of_mem_replicate hc]
    decide
  have hinner : ∀ c ∈ scheme ++ (text' ++ List.replicate kept '='), isWhitespace c = false := by
    refine List.forall_mem_append.mpr ⟨?_, fun c hc => (uriSymbols_facts c (hsymbols c hc)).2.1⟩
    obtain rfl | hscheme := hscheme
    · exact List.forall_mem_nil _
    · exact fun c hc => (scheme_facts hscheme c hc).2
  rw [List.append_assoc scheme] at hinput
  rw [decodePairingUri, hinput, trimmed_between hbefore hafter hinner, withoutScheme_variant other hscheme hsymbols]
  show base64UrlDecode (padded _) >>= _ = _
  rw [padded_variant htext hreencoded (by omega)]
  show base64UrlDecode (base64UrlEncode bytes) >>= _ = _
  rw [base64UrlDecode_encode]
  rfl

/-! ### The texts of a payload -/

theorem decode_encoded {p : PairingPayload} {bytes : List UInt8} (hversion : p.version = 2)
    (hcanonical : ∀ a ∈ p.issuerLanAddresses, CanonicalQuad a) (h : encodePairingPayload p = .ok bytes) :
    decodePairingPayload bytes = .ok p := by
  obtain ⟨tokenBytes, blocks, hfits, rfl⟩ := encodePairingPayload_eq_ok.mp h
  rw [decode_withCrc_core (hfits.dotted hcanonical), ← show p.version = pairingPayloadVersionV2 from hversion]

/-- **The text forms survive transcription**: a URI that was re-encoded in its base64 part,
and a manual code that was retyped; and neither buffer of the manual code needs more than
its 64 bits, whatever it is given. -/
theorem text_forms_survive (lower upper : Char → List Char) (p : PairingPayload) (hversion : p.version = 2)
    (hcanonical : ∀ a ∈ p.issuerLanAddresses, CanonicalQuad a) :
    (∀ uri input, encodePairingUri p = .ok uri → UriVariant uri.toList input.toList →
      decodePairingUri lower input = .ok p) ∧
    (∀ code input, encodePairingManualCode p = .ok code → ManualVariant code.toList input.toList →
      decodePairingManualCode upper input = .ok p) ∧
    (∀ bytes, crockfordEncode bytes = crockfordEncodeWide bytes) ∧
    (∀ input, crockfordDecode upper input = crockfordDecodeWide upper input) := by
  refine ⟨fun uri input huri hvariant => ?_, fun code input hcode hvariant => ?_, crockfordEncode_wide,
    crockfordDecode_wide upper⟩
  · obtain ⟨bytes, hbytes, heq⟩ := bind_eq_ok.mp huri
    obtain rfl := Except.ok.inj heq
    rw [String.toList_ofList] at hvariant
    rw [decode_uriVariant lower hvariant]
    exact decode_encoded hversion hcanonical hbytes
  · obtain ⟨bytes, hbytes, heq⟩ := bind_eq_ok.mp hcode
    obtain rfl := Except.ok.inj heq
    rw [String.toList_ofList] at hvariant
    rw [decode_manualVariant upper hvariant]
    exact decode_encoded hversion hcanonical hbytes

/-- A payload with one address. -/
def codesPayload : PairingPayload := ⟨"codes", ["192.168.1.10"], 53317, [2, 7], 2⟩

theorem codesPayload_canonical : ∀ a ∈ codesPayload.issuerLanAddresses, CanonicalQuad a := by
  intro a ha
  obtain rfl := List.mem_singleton.mp ha
  exact (canonicalQuad_iff _).mpr ⟨_, 192, 168, 1, 10, by decide +kernel, rfl⟩

theorem codesPayload_uri : encodePairingUri codesPayload = .ok "magicshare-pair:AgVjb2RlcwEEwKgBCtBFAgIHyQ==" := by
  decide +kernel

/-- Its URI in capitals, with a space before it and one `=` gone, and its manual code in one
piece with the letter `O` for the first zero. -/
theorem text_forms_survive_codes :
    decodePairingUri (fun c => [c]) " MAGICSHARE-PAIR:AgVjb2RlcwEEwKgBCtBFAgIHyQ=" = .ok codesPayload ∧
    decodePairingManualCode (fun c => [c]) "O82P6VV4CNSG2160N00GNM250810FJ8" = .ok codesPayload := by
  obtain ⟨huri, hcode, -⟩ :=
    text_forms_survive (fun c => [c]) (fun c => [c]) codesPayload rfl codesPayload_canonical
  refine ⟨huri _ _ codesPayload_uri ⟨?_⟩,
    hcode "082P-6VV4-CNSG-2160-N00G-NM25-0810-FJ8" _ (by decide +kernel) ?_⟩
  · exact ⟨[' '], "MAGICSHARE-PAIR:".toList, "AgVjb2RlcwEEwKgBCtBFAgIHyQ".toList, _, [], 1, 1, by decide +kernel,
      by decide, by decide +kernel, forall_mem_of_all (by decide), List.forall_mem_nil _, .inr (by decide),
      List.forall₂_same.mpr fun c _ => .same c⟩
  · exact .cons ⟨'O', .zero, by decide⟩ (List.forall₂_same.mpr fun c _ => ⟨c, .same c, rfl⟩)

/-- The hyphen of the scheme is not one of base64: with it replaced, the scheme is not
found. -/
theorem text_forms_survive_scheme :
    codesPayload.version = 2 ∧ (∀ a ∈ codesPayload.issuerLanAddresses, CanonicalQuad a) ∧
    encodePairingUri codesPayload = .ok "magicshare-pair:AgVjb2RlcwEEwKgBCtBFAgIHyQ==" ∧
    String.ofList (replaceAll (replaceAll "magicshare-pair:AgVjb2RlcwEEwKgBCtBFAgIHyQ==".toList '-' '+') '_' '/') =
      "magicshare+pair:AgVjb2RlcwEEwKgBCtBFAgIHyQ==" ∧
    decodePairingUri (fun c => [c]) "magicshare+pair:AgVjb2RlcwEEwKgBCtBFAgIHyQ==" =
      .error (.format "Invalid character") := by
  exact ⟨rfl, codesPayload_canonical, codesPayload_uri, by decide +kernel, by decide +kernel⟩

end MagicShare.Pairing
