import MagicShare.Base.Cursor
import MagicShare.Pairing.UriForm

/-! The grammar of a pairing blob.

`Indexed.decodePairingPayload` is the decoder as it is written, with one index that goes
through the whole core; `core[i]` and `sublistView` throw past the end. It follows the
readers of `Payload` field by field, so it does the same (`decode_indexed`). A `Blob` is
what the format says a payload is; `decoder_grammar`: the decoder accepts the bytes of the
blobs and nothing else, returns what they say, and never looks outside its list. -/
namespace MagicShare.Pairing
open Parsing Fallible

/-! ### The decoder and its index -/

namespace Indexed

/-- `bytes[i]`. -/
def byteAt (bytes : List UInt8) (i : Nat) : Except DecodeFailure UInt8 :=
  match bytes[i]? with
  | some b => .ok b
  | none => .error .range

/-- `Uint8List.sublistView`, and `sublist`. -/
def sublistView (bytes : List UInt8) (start stop : Nat) : Except DecodeFailure (List UInt8) :=
  if start ≤ stop ∧ stop ≤ bytes.length then .ok ((bytes.drop start).take (stop - start)) else .error .range

section Core
variable (core : List UInt8)

def token : Cursor DecodeFailure String := fun i => do
  let tokenLen ← byteAt core i
  let i := i + 1
  if tokenLen.toNat = 0 ∨ tokenLen.toNat > maxTokenLengthBytes ∨ i + tokenLen.toNat > core.length then
    throw (wrongLength s!"token length out of range: {tokenLen.toNat}")
  let tokenBytes ← sublistView core i (i + tokenLen.toNat)
  let tokenId ← asciiDecode tokenBytes
  return (tokenId, i + tokenLen.toNat)

def addrCount (version : Nat) : Cursor DecodeFailure Nat := fun i => do
  if i ≥ core.length then throw (wrongLength "truncated before address section")
  if version = pairingPayloadVersionV2 then
    let addrCount ← byteAt core i
    if addrCount.toNat = 0 ∨ addrCount.toNat > kMaxPairingAddresses then
      throw (wrongLength s!"addrCount out of range: {addrCount.toNat}")
    return (addrCount.toNat, i + 1)
  else return (1, i)

/-- The body of the loop, for entry `n`. -/
def address (n : Nat) : Cursor DecodeFailure String := fun i => do
  if i ≥ core.length then throw (wrongLength s!"truncated before address family for entry {n}")
  let addrFamily ← byteAt core i
  let i := i + 1
  if addrFamily.toNat ≠ addrFamilyIPv4 then
    throw (.payload .malformed s!"unsupported address family: {addrFamily.toNat} (only IPv4 supported)")
  if i + 4 > core.length then throw (wrongLength s!"truncated IPv4 octets for entry {n}")
  let b0 ← byteAt core i
  let b1 ← byteAt core (i + 1)
  let b2 ← byteAt core (i + 2)
  let b3 ← byteAt core (i + 3)
  return (dotted b0 b1 b2 b3, i + 4)

def port : Cursor DecodeFailure Nat := fun i => do
  if i + 2 > core.length then throw (wrongLength "truncated port")
  let hi ← byteAt core i
  let lo ← byteAt core (i + 1)
  let port := (hi.toNat <<< 8) ||| lo.toNat
  if port = 0 then throw (.payload .badPort "port may not be 0")
  return (port, i + 2)

def pub (i : Nat) : Except DecodeFailure (List UInt8) := do
  if i ≥ core.length then throw (wrongLength "truncated before pubkey length")
  let pubLen ← byteAt core i
  let i := i + 1
  if pubLen.toNat = 0 ∨ pubLen.toNat > maxPubkeyLengthBytes ∨ i + pubLen.toNat ≠ core.length then
    throw (wrongLength s!"pubkey length out of range or trailing bytes: {pubLen.toNat}")
  sublistView core i (i + pubLen.toNat)

end Core

/-- From the version on. -/
def decodeCore (core : List UInt8) : Except DecodeFailure PairingPayload := do
  let version ← byteAt core 0
  if version.toNat ≠ pairingPayloadVersionV1 ∧ version.toNat ≠ pairingPayloadVersionV2 then
    throw (.payload .wrongVersion s!"unknown version: {version.toNat}")
  let (tokenId, i) ← token core 1
  let (count, i) ← addrCount core version.toNat i
  let (addresses, i) ← repeatedAt (address core) 0 count i
  let (port, i) ← port core i
  let pub ← pub core i
  return {
    tokenId := tokenId
    issuerLanAddresses := addresses
    issuerLanPort := port
    issuerPubKeyCompressed := pub
    version := version.toNat }

def decodePairingPayload (bytes : List UInt8) : Except DecodeFailure PairingPayload := do
  if bytes.length < 12 then throw (wrongLength s!"payload too short: {bytes.length} bytes")
  let core ← sublistView bytes 0 (bytes.length - 1)
  let crc ← byteAt bytes (bytes.length - 1)
  if crc8 core ≠ crc then throw (.payload .badChecksum "CRC-8 mismatch")
  decodeCore core

/-! ### Field by field -/

variable {core : List UInt8} {i : Nat}

theorem byteAt_lt (h : i < core.length) : byteAt core i = .ok core[i] := by
  rw [byteAt, List.getElem?_eq_getElem h]

theorem follows_token (h : i ≤ core.length) : Follows core (token core i) (decodeToken (core.drop i)) := by
  unfold token
  by_cases hi : i < core.length
  · rw [byteAt_lt hi, List.drop_eq_getElem_cons hi, decodeToken, List.length_drop]
    show Follows core (if _ then _ else _) _
    by_cases hbad : core[i].toNat = 0 ∨ core[i].toNat > maxTokenLengthBytes ∨ i + 1 + core[i].toNat > core.length
    · rw [if_pos hbad, if_pos (by omega)]
      exact .error _
    · rw [if_neg hbad, if_neg (by omega), sublistView, if_pos (by omega), Nat.add_sub_cancel_left, List.drop_drop]
      show Follows core (asciiDecode _ >>= _) (asciiDecode _ >>= _)
      cases asciiDecode ((core.drop (i + 1)).take core[i].toNat) with
      | error e => exact .error e
      | ok tokenId => exact .ok tokenId (by omega)
  · rw [byteAt, List.getElem?_eq_none (by omega), List.drop_eq_nil_of_le (by omega)]
    exact .error _

theorem follows_addrCount (version : Nat) (h : i ≤ core.length) :
    Follows core (addrCount core version i) (decodeAddrCount version (core.drop i)) := by
  unfold addrCount
  by_cases hi : i < core.length
  · rw [byteAt_lt hi, if_neg (by omega), List.drop_eq_getElem_cons hi, decodeAddrCount]
    by_cases hv : version = pairingPayloadVersionV2
    · rw [if_pos hv, if_pos hv]
      show Follows core (if _ then _ else _) _
      split
      · exact .error _
      · exact .ok _ hi
    · rw [if_neg hv, if_neg hv, ← List.drop_eq_getElem_cons hi]
      exact .ok 1 h
  · rw [if_pos (by omega), List.drop_eq_nil_of_le (by omega)]
    exact .error _

theorem follows_address (n : Nat) (h : i ≤ core.length) :
    Follows core (address core n i) (decodeAddress n (core.drop i)) := by
  unfold address
  by_cases hi : i < core.length
  · rw [byteAt_lt hi, if_neg (by omega), List.drop_eq_getElem_cons hi]
    show Follows core (if _ then _ else _) (if _ then _ else _)
    by_cases hfamily : core[i].toNat ≠ addrFamilyIPv4
    · rw [if_pos hfamily, if_pos hfamily]
      exact .error _
    · rw [if_neg hfamily, if_neg hfamily]
      by_cases hoctets : i + 1 + 4 > core.length
      · rw [if_pos hoctets]
        -- fewer than four octets are left
        have hshort : (core.drop (i + 1)).length < 4 := by
          rw [List.length_drop]
          omega
        generalize core.drop (i + 1) = rest at hshort
        split
        · simp only [List.length_cons] at hshort
          omega
        · exact .error _
      · rw [if_neg hoctets, byteAt_lt (by omega), byteAt_lt (by omega), byteAt_lt (by omega), byteAt_lt (by omega),
          List.drop_eq_getElem_cons (by omega), List.drop_eq_getElem_cons (by omega),
          List.drop_eq_getElem_cons (by omega), List.drop_eq_getElem_cons (by omega)]
        exact .ok _ (by omega)
  · rw [if_pos (by omega), List.drop_eq_nil_of_le (by omega)]
    exact .error _

theorem follows_port (h : i ≤ core.length) : Follows core (port core i) (decodePort (core.drop i)) := by
  unfold port
  by_cases hi : i + 2 > core.length
  · rw [if_pos hi]
    have hshort : (core.drop i).length < 2 := by
      rw [List.length_drop]
      omega
    generalize core.drop i = rest at hshort
    unfold decodePort
    split
    · simp only [List.length_cons] at hshort
      omega
    · exact .error _
  · rw [if_neg hi, byteAt_lt (by omega), byteAt_lt (by omega), List.drop_eq_getElem_cons (by omega),
      List.drop_eq_getElem_cons (by omega), decodePort]
    show Follows core (if _ then _ else _) _
    split
    · exact .error _
    · exact .ok _ (by omega)

theorem pub_eq (h : i ≤ core.length) : pub core i = decodePub (core.drop i) := by
  unfold pub
  by_cases hi : i < core.length
  · rw [byteAt_lt hi, if_neg (by omega), List.drop_eq_getElem_cons hi, decodePub, List.length_drop]
    show (if _ then _ else _) = _
    by_cases hbad : core[i].toNat = 0 ∨ core[i].toNat > maxPubkeyLengthBytes ∨ i + 1 + core[i].toNat ≠ core.length
    · rw [if_pos hbad, if_pos (by omega)]
      rfl
    · rw [if_neg hbad, if_neg (by omega), sublistView, if_pos (by omega), Nat.add_sub_cancel_left,
        List.take_of_length_le (by rw [List.length_drop]; omega)]
  · rw [if_pos (by omega), List.drop_eq_nil_of_le (by omega)]
    rfl

theorem decodeCore_eq (h : 1 ≤ core.length) : decodeCore core = Pairing.decodeCore core := by
  have hrest : core = core[0] :: core.drop 1 := by
    rw [← List.drop_eq_getElem_cons (by omega), List.drop_zero]
  generalize hcore : core.drop 1 = rest at hrest
  unfold decodeCore
  rw [byteAt_lt (by omega)]
  conv => rhs; rw [hrest]
  show (if _ then _ else _) = (if _ then _ else _)
  split
  · rfl
  · rw [← hcore]
    refine (follows_token h).bind_eq fun tokenId i hi => ?_
    show (addrCount core _ i >>= _) = (andThen _ _ _ >>= _)
    unfold andThen
    rw [bind_assoc]
    refine (follows_addrCount _ hi).bind_eq fun count j hj => ?_
    refine (follows_repeated (fun n i hi => follows_address n hi) 0 count j hj).bind_eq fun addresses k hk => ?_
    refine (follows_port hk).bind_eq fun port l hl => ?_
    show (pub core l >>= _) = _
    rw [pub_eq hl]

end Indexed

/-- **The index does not matter.** -/
theorem decode_indexed (bytes : List UInt8) : Indexed.decodePairingPayload bytes = decodePairingPayload bytes := by
  unfold Indexed.decodePairingPayload decodePairingPayload
  by_cases hlen : bytes.length < 12
  · rw [if_pos hlen, if_pos hlen]
    rfl
  · have hcore : Indexed.sublistView bytes 0 (bytes.length - 1) = .ok bytes.dropLast := by
      rw [Indexed.sublistView, if_pos (by omega), List.drop_zero, Nat.sub_zero, List.dropLast_eq_take]
    have hcrc : bytes[bytes.length - 1] = bytes.getLastD 0 := by
      rw [List.getLastD_eq_getLast?, List.getLast?_eq_getElem?, List.getElem?_eq_getElem, Option.getD_some]
    rw [if_neg hlen, if_neg hlen, hcore, Indexed.byteAt_lt (by omega), hcrc]
    show (if _ then _ else _) = (if _ then _ else _)
    split
    · rfl
    · exact Indexed.decodeCore_eq (by rw [List.length_dropLast]; omega)

/-! ### The format -/

/-- What a blob consists of. -/
structure Blob where
  version : Nat
  known : version = 1 ∨ version = 2
  token : List UInt8
  token_length : 1 ≤ token.length ∧ token.length ≤ 96
  token_ascii : ∀ b ∈ token, b.toNat < 128
  /-- The octets of the addresses. -/
  addresses : List (UInt8 × UInt8 × UInt8 × UInt8)
  one_address : version = 1 → addresses.length = 1
  some_addresses : version = 2 → 1 ≤ addresses.length ∧ addresses.length ≤ 4
  portHi : UInt8
  portLo : UInt8
  port_ne_zero : ¬(portHi = 0 ∧ portLo = 0)
  key : List UInt8
  key_length : 1 ≤ key.length ∧ key.length ≤ 64

namespace Blob

/-- version | tokenLen | token | addrCount, in version 2 | (4 | octets)* | port | keyLen | key -/
def core (g : Blob) : List UInt8 :=
  [UInt8.ofNat g.version, UInt8.ofNat g.token.length] ++ g.token ++
    (if g.version = 2 then [UInt8.ofNat g.addresses.length] else []) ++
    g.addresses.flatMap (fun q => [4, q.1, q.2.1, q.2.2.1, q.2.2.2]) ++
    [g.portHi, g.portLo, UInt8.ofNat g.key.length] ++ g.key

def bytes (g : Blob) : List UInt8 := g.core ++ [crc8 g.core]

def payload (g : Blob) : PairingPayload where
  tokenId := String.ofList (g.token.map asciiChar)
  issuerLanAddresses := g.addresses.map fun q => dotted q.1 q.2.1 q.2.2.1 q.2.2.2
  issuerLanPort := (g.portHi.toNat * 256 + g.portLo.toNat : Nat)
  issuerPubKeyCompressed := g.key
  version := g.version

end Blob

/-- Texts of octets, and the octets. -/
theorem forall₂_dotted {as : List String} {blocks : List (List UInt8)} : List.Forall₂ Dotted as blocks ↔
    ∃ quads : List (UInt8 × UInt8 × UInt8 × UInt8), as = quads.map (fun q => dotted q.1 q.2.1 q.2.2.1 q.2.2.2) ∧
      blocks = quads.map fun q => [q.1, q.2.1, q.2.2.1, q.2.2.2] := by
  constructor
  · intro h
    induction h with
    | nil => exact ⟨[], rfl, rfl⟩
    | cons hdotted _ ih =>
      obtain ⟨b0, b1, b2, b3, rfl, rfl⟩ := hdotted
      obtain ⟨quads, rfl, rfl⟩ := ih
      exact ⟨(b0, b1, b2, b3) :: quads, rfl, rfl⟩
  · rintro ⟨quads, rfl, rfl⟩
    induction quads with
    | nil => exact .nil
    | cons q quads ih => exact .cons ⟨q.1, q.2.1, q.2.2.1, q.2.2.2, rfl, rfl⟩ ih

/-- A blob is within the limits of the codec. -/
theorem Blob.fits (g : Blob) : Fits Dotted g.payload g.token
    (g.addresses.map fun q => [q.1, q.2.1, q.2.2.1, q.2.2.2]) := by
  have hcount : 0 < g.addresses.length ∧ g.addresses.length ≤ 4 := by
    obtain h | h := g.known
    · have := g.one_address h
      omega
    · exact g.some_addresses h
  have hhi := g.portHi.toNat_lt
  have hlo := g.portLo.toNat_lt
  have hport : g.portHi.toNat ≠ 0 ∨ g.portLo.toNat ≠ 0 := by
    by_contra h
    push Not at h
    exact g.port_ne_zero ⟨UInt8.toNat_inj.mp h.1, UInt8.toNat_inj.mp h.2⟩
  constructor
  · exact asciiDecode_iff_encode.mp (asciiDecode_eq_ok.mpr ⟨g.token_ascii, rfl⟩)
  · exact g.token_length.1
  · exact g.token_length.2
  · exact forall₂_dotted.mpr ⟨g.addresses, rfl, rfl⟩
  · rw [Blob.payload, List.length_map]
    exact hcount.1
  · rw [Blob.payload, List.length_map]
    exact hcount.2
  · show (0 : Int) < ((g.portHi.toNat * 256 + g.portLo.toNat : Nat) : Int)
    omega
  · show ((g.portHi.toNat * 256 + g.portLo.toNat : Nat) : Int) ≤ 0xffff
    omega
  · exact g.key_length.1
  · exact g.key_length.2

theorem Blob.core_eq (g : Blob) : g.core = g.payload.core g.version g.token
    (g.addresses.map fun q => [q.1, q.2.1, q.2.2.1, q.2.2.2]) := by
  have hport : portBytes (g.portHi.toNat * 256 + g.portLo.toNat) = [g.portHi, g.portLo] := by
    rw [← shiftLeft_or g.portLo.toNat_lt]
    exact (bytes_of_port _ _).1
  show g.core = coreOf g.version g.token _ (g.portHi.toNat * 256 + g.portLo.toNat) g.key
  simp [Blob.core, coreOf, countBytes, hport, List.flatMap_def, pairingPayloadVersionV2, addrFamilyIPv4,
    Function.comp_def]

theorem Blob.countFits (g : Blob) : CountFits g.version g.payload.issuerLanAddresses.length := by
  rw [CountFits, Blob.payload, List.length_map]
  split
  · next hv => exact g.some_addresses hv
  · next hv =>
    obtain h | h := g.known
    · exact g.one_address h
    · exact absurd h hv

/-- A port is two bytes. -/
theorem exists_port_bytes {port : Nat} (h : port ≤ 0xffff) : ∃ hi lo : UInt8, port = hi.toNat * 256 + lo.toNat := by
  refine ⟨UInt8.ofNat (port / 256), UInt8.ofNat (port % 256), ?_⟩
  rw [UInt8.toNat_ofNat', UInt8.toNat_ofNat']
  omega

/-- What fits is a blob. -/
theorem exists_blob {version : Nat} {p : PairingPayload} {tokenBytes : List UInt8} {blocks : List (List UInt8)}
    (hknown : KnownVersion version) (hversion : p.version = version)
    (hcount : CountFits version p.issuerLanAddresses.length) (hfits : Fits Dotted p tokenBytes blocks) :
    ∃ g : Blob, p.core version tokenBytes blocks = g.core ∧ p = g.payload := by
  obtain ⟨tokenId, addresses, port, pub, _⟩ := p
  obtain ⟨hascii, htoken₀, htoken₁, haddresses, -, -, hport₀, hport₁, hpub₀, hpub₁⟩ := hfits
  simp only at hversion hcount hascii haddresses hport₀ hport₁ hpub₀ hpub₁
  obtain ⟨quads, rfl, rfl⟩ := forall₂_dotted.mp haddresses
  obtain ⟨hall, rfl⟩ := asciiDecode_eq_ok.mp (asciiDecode_iff_encode.mpr hascii)
  obtain ⟨port, rfl⟩ := Int.eq_ofNat_of_zero_le (Int.le_of_lt hport₀)
  obtain ⟨hi, lo, rfl⟩ := exists_port_bytes (Int.ofNat_le.mp hport₁)
  rw [List.length_map] at hcount
  subst hversion
  have hzero : ¬(hi = 0 ∧ lo = 0) := by
    rintro ⟨rfl, rfl⟩
    exact absurd hport₀ (by decide)
  have hone : version = 1 → quads.length = 1 := by
    rintro rfl
    exact hcount
  have hsome : version = 2 → 1 ≤ quads.length ∧ quads.length ≤ 4 := by
    rintro rfl
    exact hcount
  refine ⟨⟨version, hknown, tokenBytes, ⟨htoken₀, htoken₁⟩, hall, quads, hone, hsome, hi, lo, hzero, pub,
    hpub₀, hpub₁⟩, ?_, rfl⟩
  rw [Blob.core_eq]
  rfl

/-- **A core decodes exactly if it is that of a blob.** -/
theorem decodeCore_blob {core : List UInt8} {p : PairingPayload} :
    decodeCore core = .ok p ↔ ∃ g : Blob, core = g.core ∧ p = g.payload := by
  rw [decodeCore_eq_ok]
  constructor
  · rintro ⟨version, tokenBytes, blocks, hknown, hversion, hcount, hfits, rfl⟩
    exact exists_blob hknown hversion hcount hfits
  · rintro ⟨g, rfl, rfl⟩
    exact ⟨g.version, g.token, _, g.known, rfl, g.countFits, g.fits, g.core_eq⟩

/-- **A blob decodes exactly if it is one.** -/
theorem decode_blob {b : List UInt8} {p : PairingPayload} :
    decodePairingPayload b = .ok p ↔ ∃ g : Blob, b = g.bytes ∧ p = g.payload := by
  constructor
  · intro h
    obtain ⟨core, rfl, hcore⟩ := withCrc_of_decode h
    obtain ⟨g, rfl, rfl⟩ := decodeCore_blob.mp hcore
    exact ⟨g, rfl, rfl⟩
  · rintro ⟨g, rfl, rfl⟩
    have hlength : 11 ≤ g.core.length := by
      rw [g.core_eq]
      exact g.fits.eleven_le _
    show decodePairingPayload (withCrc g.core) = _
    rw [decodePairingPayload_withCrc hlength]
    exact decodeCore_blob.mpr ⟨g, rfl, rfl⟩

/-! ### Every read is inside -/

theorem caught_asciiDecode (bytes : List UInt8) : Caught (asciiDecode bytes) := by
  unfold asciiDecode
  split
  · exact caught_format _
  · exact caught_ok _

/-- The length is there, since something follows the version. -/
theorem caught_decodeToken (b : UInt8) (rest : List UInt8) : Caught (decodeToken (b :: rest)) := by
  show Caught (if _ then _ else _)
  split
  · exact caught_payload _ _
  · exact (caught_asciiDecode _).bind fun tokenId => caught_ok _

theorem caught_decodeAddrCount (version : Nat) (bs : List UInt8) : Caught (decodeAddrCount version bs) := by
  cases bs with
  | nil => exact caught_payload _ _
  | cons b rest =>
    show Caught (if _ then (if _ then _ else _) else _)
    split_ifs
    · exact caught_payload _ _
    · exact caught_ok _
    · exact caught_ok _

theorem caught_decodeAddress (n : Nat) (bs : List UInt8) : Caught (decodeAddress n bs) := by
  cases bs with
  | nil => exact caught_payload _ _
  | cons addrFamily rest =>
    show Caught (if _ then _ else _)
    split
    · exact caught_payload _ _
    · split
      · exact caught_ok _
      · exact caught_payload _ _

theorem caught_repeated (count n : Nat) (bs : List UInt8) : Caught (repeated decodeAddress n count bs) := by
  induction count generalizing n bs with
  | zero => exact caught_ok _
  | succ count ih =>
    exact (caught_decodeAddress n bs).bind fun p => (ih (n + 1) p.2).bind fun q => caught_ok _

theorem caught_decodePort (bs : List UInt8) : Caught (decodePort bs) := by
  unfold decodePort
  split
  · show Caught (if _ then _ else _)
    split
    · exact caught_payload _ _
    · exact caught_ok _
  · exact caught_payload _ _

theorem caught_decodePub (bs : List UInt8) : Caught (decodePub bs) := by
  cases bs with
  | nil => exact caught_payload _ _
  | cons pubLen rest =>
    show Caught (if _ then _ else _)
    split
    · exact caught_payload _ _
    · exact caught_ok _

theorem caught_decodeCore (version b : UInt8) (rest : List UInt8) : Caught (decodeCore (version :: b :: rest)) := by
  show Caught (if _ then _ else _)
  split
  · exact caught_payload _ _
  · refine (caught_decodeToken b rest).bind fun token => ?_
    refine Caught.bind ?_ fun addresses => ?_
    · exact (caught_decodeAddrCount _ _).bind fun count => caught_repeated _ _ _
    · exact (caught_decodePort _).bind fun port => (caught_decodePub _).bind fun pub => caught_ok _

/-- **No read is outside the list.** -/
theorem caught_decode (b : List UInt8) : Caught (decodePairingPayload b) := by
  unfold decodePairingPayload
  split_ifs with hlen hcrc
  · exact caught_payload _ _
  · exact caught_payload _ _
  · have hcore : 11 ≤ b.dropLast.length := by
      rw [List.length_dropLast]
      omega
    -- a version and a length byte are there
    generalize b.dropLast = core at hcore
    cases core with
    | nil => exact absurd hcore (by decide)
    | cons version rest =>
      cases rest with
      | nil => exact absurd hcore (by simp)
      | cons tokenLen rest => exact caught_decodeCore version tokenLen rest

/-- **The decoder's grammar.** It accepts the bytes of the blobs and nothing else, returns
what the blob says, and otherwise throws one of the two exceptions that are caught, never
the `RangeError` of a read outside its list; so neither of the two text forms ever throws. -/
theorem decoder_grammar (lower upper : Char → List Char) (hlower : LowersSingly lower) :
    (∀ b p, Indexed.decodePairingPayload b = .ok p ↔ ∃ g : Blob, b = g.bytes ∧ p = g.payload) ∧
    (∀ b failure, Indexed.decodePairingPayload b = .error failure →
      (∃ error detail, failure = .payload error detail) ∨ ∃ message, failure = .format message) ∧
    (∀ input, ∃ answer, tryDecodePairingUri lower input = .ok answer) ∧
    (∀ input, ∃ answer, tryDecodePairingManualCode upper input = .ok answer) := by
  refine ⟨fun b p => ?_, fun b failure h => ?_, fun input => ?_, fun input => ?_⟩
  · rw [decode_indexed]
    exact decode_blob
  · rw [decode_indexed] at h
    cases failure with
    | payload error detail => exact .inl ⟨error, detail, rfl⟩
    | format message => exact .inr ⟨message, rfl⟩
    | range => exact absurd h (caught_decode b)
  · exact caught_orNull ((caught_withoutScheme hlower _).bind fun text =>
      (caught_decodeChunk 0 0 _).bind fun bytes => caught_decode bytes)
  · exact caught_orNull ((caught_crockfordDecode upper 0 0 0 _).bind fun bytes => caught_decode bytes)

/-- Two letters above 127 that become ASCII: the Kelvin sign, and the dotted `I`. -/
def lowerTable (c : Char) : List Char :=
  if c = '\u212A' then ['k'] else if c = '\u0130' then ['i', '\u0307'] else [c]

theorem lowersSingly_lowerTable : LowersSingly lowerTable := by
  intro c x y rest h _
  unfold lowerTable at h
  split_ifs at h
  · cases h
  · cases h
    decide
  · cases h

/-- A blob with two addresses, and a text with the dotted `I` in its scheme. -/
theorem decoder_grammar_code :
    (∃ g : Blob, [2, 4, 99, 111, 100, 101, 2, 4, 192, 168, 1, 10, 4, 10, 0, 0, 2, 208, 69, 2, 2, 7, 10] = g.bytes ∧
      ⟨"code", ["192.168.1.10", "10.0.0.2"], 53317, [2, 7], 2⟩ = g.payload) ∧
    ∃ answer, tryDecodePairingUri lowerTable "mag\u0130cshare-pair:AgRj" = .ok answer := by
  obtain ⟨haccepts, -, huri, -⟩ := decoder_grammar lowerTable (fun c => [c]) lowersSingly_lowerTable
  exact ⟨(haccepts _ _).mp (by decide +kernel), huri _⟩

end MagicShare.Pairing
