import MagicShare.Pairing.Address

/-! The binary codec inverts, in both directions.

The layout of a core is read off its decoder field by field (`decodeCore_eq_ok`),
and what the encoder accepts and writes is read off the encoder
(`encodePairingPayload_eq_ok`). Both check the same limits (`Fits`), so the two
meet on the canonical addresses: `pairing_round_trip`. -/
namespace MagicShare.Pairing
open Parsing Fallible

/-! ### ASCII -/

theorem asciiEncode_eq_ok {s : String} {bytes : List UInt8} : asciiEncode s = .ok bytes ↔
    (∀ c ∈ s.toList, c.toNat < 128) ∧ bytes = s.toList.map asciiByte := by
  simp only [asciiEncode]
  split_ifs with h <;> simp only [List.all_eq_true, decide_eq_true_eq] at h
  · exact ⟨fun heq => ⟨h, (Except.ok.inj heq).symm⟩, fun heq => by rw [heq.2]⟩
  · exact iff_of_false (fun heq => nomatch heq) fun heq => h heq.1

theorem asciiDecode_eq_ok {bytes : List UInt8} {s : String} : asciiDecode bytes = .ok s ↔
    (∀ b ∈ bytes, b.toNat < 128) ∧ s = String.ofList (bytes.map asciiChar) := by
  simp only [asciiDecode]
  split
  · next b hfind =>
    have hb : 128 ≤ b.toNat := by simpa using List.find?_some hfind
    refine iff_of_false (fun heq => nomatch heq) fun heq => ?_
    exact absurd (heq.1 b (List.mem_of_find?_eq_some hfind)) (by omega)
  · next hfind =>
    have hall : ∀ b ∈ bytes, b.toNat < 128 := by simpa using hfind
    exact ⟨fun heq => ⟨hall, (Except.ok.inj heq).symm⟩, fun heq => by rw [heq.2]⟩

theorem toNat_asciiByte {c : Char} (h : c.toNat < 128) : (asciiByte c).toNat = c.toNat :=
  UInt8.toNat_ofNat_of_lt' (by simp only [UInt8.size]; omega)

theorem toNat_asciiChar {b : UInt8} (h : b.toNat < 128) : (asciiChar b).toNat = b.toNat := by
  have key : ∀ n < 128, (Char.ofNat n).toNat = n := by decide +kernel
  exact key _ h

theorem asciiChar_asciiByte {c : Char} (h : c.toNat < 128) : asciiChar (asciiByte c) = c := by
  rw [asciiChar, toNat_asciiByte h, Char.ofNat_toNat]

theorem asciiByte_asciiChar {b : UInt8} (h : b.toNat < 128) : asciiByte (asciiChar b) = b := by
  rw [asciiByte, toNat_asciiChar h, UInt8.ofNat_toNat]

/-- Mapping there and back. -/
theorem map_map_cancel {α β : Type} {f : α → β} {g : β → α} {l : List α} (h : ∀ a ∈ l, g (f a) = a) :
    (l.map f).map g = l := by
  rw [List.map_map]
  exact (List.map_congr_left h).trans (List.map_id' l)

/-- **Decoding ASCII undoes encoding it, and the other way.** -/
theorem asciiDecode_iff_encode {bytes : List UInt8} {s : String} :
    asciiDecode bytes = .ok s ↔ asciiEncode s = .ok bytes := by
  rw [asciiDecode_eq_ok, asciiEncode_eq_ok]
  constructor
  · rintro ⟨hbytes, rfl⟩
    rw [String.toList_ofList, map_map_cancel fun b hb => asciiByte_asciiChar (hbytes b hb)]
    refine ⟨fun c hc => ?_, rfl⟩
    obtain ⟨b, hb, rfl⟩ := List.mem_map.mp hc
    rw [toNat_asciiChar (hbytes b hb)]
    exact hbytes b hb
  · rintro ⟨hchars, rfl⟩
    rw [map_map_cancel fun c hc => asciiChar_asciiByte (hchars c hc), String.ofList_toList]
    refine ⟨fun b hb => ?_, rfl⟩
    obtain ⟨c, hc, rfl⟩ := List.mem_map.mp hb
    rw [toNat_asciiByte (hchars c hc)]
    exact hchars c hc

/-! ### The layout of the fields -/

/-- A length that fits a byte comes back. -/
theorem toNat_ofNat_of_le {n bound : Nat} (h : n ≤ bound) (hbound : bound < 256) :
    (UInt8.ofNat n).toNat = n :=
  UInt8.toNat_ofNat_of_lt' (by simp only [UInt8.size]; omega)

/-- A length byte, then that many ASCII bytes. -/
def tokenLayout : Layout UInt8 String := fun x s => ∃ bytes, x = UInt8.ofNat bytes.length :: bytes ∧
  0 < bytes.length ∧ bytes.length ≤ maxTokenLengthBytes ∧ asciiEncode s = .ok bytes

theorem exact_decodeToken : Exact decodeToken tokenLayout := by
  intro bs s rest
  constructor
  · intro h
    match bs, h with
    | tokenLen :: tail, h =>
      simp only [decodeToken] at h
      split_ifs at h with hbad
      simp only [bind_eq_ok] at h
      obtain ⟨s', hascii, heq⟩ := h
      obtain ⟨rfl, rfl⟩ := Prod.mk.inj (Except.ok.inj heq)
      have hlen : (tail.take tokenLen.toNat).length = tokenLen.toNat := by
        rw [List.length_take]
        omega
      refine ⟨tokenLen :: tail.take tokenLen.toNat, ?_, tail.take tokenLen.toNat, ?_, ?_, ?_, ?_⟩
      · rw [List.cons_append, List.take_append_drop]
      · rw [hlen, UInt8.ofNat_toNat]
      · omega
      · omega
      · exact asciiDecode_iff_encode.mp hascii
  · rintro ⟨x, rfl, bytes, rfl, hpos, hle, hascii⟩
    have hbyte := toNat_ofNat_of_le hle (by decide)
    simp only [List.cons_append, decodeToken, hbyte, List.length_append]
    rw [if_neg (by omega), List.take_left, List.drop_left, asciiDecode_iff_encode.mpr hascii]
    rfl

/-- The family, then four octets. -/
def addressLayout : Layout UInt8 String := fun x a =>
  ∃ block, x = UInt8.ofNat addrFamilyIPv4 :: block ∧ Dotted a block

theorem exact_decodeAddress (n : Nat) : Exact (decodeAddress n) addressLayout := by
  intro bs a rest
  constructor
  · intro h
    match bs, h with
    | addrFamily :: tail, h =>
      simp only [decodeAddress] at h
      split_ifs at h with hfamily
      match tail, h with
      | b0 :: b1 :: b2 :: b3 :: tail, h =>
        obtain ⟨rfl, rfl⟩ := Prod.mk.inj (Except.ok.inj h)
        refine ⟨[addrFamily, b0, b1, b2, b3], rfl, [b0, b1, b2, b3], ?_, b0, b1, b2, b3, rfl, rfl⟩
        rw [← Decidable.not_not.mp hfamily, UInt8.ofNat_toNat]
  · rintro ⟨x, rfl, block, rfl, b0, b1, b2, b3, rfl, rfl⟩
    rfl

/-- Only version 2 has a count byte. -/
def countBytes (version count : Nat) : List UInt8 :=
  if version = pairingPayloadVersionV2 then [UInt8.ofNat count] else []

/-- How many addresses a version can hold. -/
def CountFits (version count : Nat) : Prop :=
  if version = pairingPayloadVersionV2 then 0 < count ∧ count ≤ kMaxPairingAddresses else count = 1

def addressesLayout (version : Nat) : Layout UInt8 (List String) := fun x as =>
  ∃ y, x = countBytes version as.length ++ y ∧ CountFits version as.length ∧ addressLayout.list y as

theorem exact_decodeAddrCount : Exact (decodeAddrCount pairingPayloadVersionV2) fun x n =>
    x = [UInt8.ofNat n] ∧ 0 < n ∧ n ≤ kMaxPairingAddresses := by
  intro bs n rest
  constructor
  · intro h
    match bs, h with
    | b :: tail, h =>
      simp only [decodeAddrCount, if_true] at h
      split_ifs at h with hbad
      obtain ⟨rfl, rfl⟩ := Prod.mk.inj (Except.ok.inj h)
      exact ⟨[b], rfl, by rw [UInt8.ofNat_toNat], by omega, by omega⟩
  · rintro ⟨x, rfl, rfl, hpos, hle⟩
    have hbyte := toNat_ofNat_of_le hle (by decide)
    simp only [List.cons_append, List.nil_append, decodeAddrCount, if_true, hbyte]
    rw [if_neg (by omega)]

/-- Without a count byte there is one address; an empty input fails either way. -/
theorem decodeAddresses_one {version : Nat} (hv : version ≠ pairingPayloadVersionV2) (bs : List UInt8)
    (r : List String × List UInt8) :
    decodeAddresses version bs = .ok r ↔ repeated decodeAddress 0 1 bs = .ok r := by
  cases bs with
  | nil => exact iff_of_false (fun h => nomatch h) fun h => nomatch h
  | cons b tail => simp only [decodeAddresses, andThen, decodeAddrCount, if_neg hv, bind, Except.bind]

theorem exact_decodeAddresses (version : Nat) :
    Exact (decodeAddresses version) (addressesLayout version) := by
  intro bs as rest
  by_cases hv : version = pairingPayloadVersionV2
  · subst hv
    rw [decodeAddresses, exact_decodeAddrCount.andThen (Exact.repeated exact_decodeAddress 0) bs as rest]
    simp only [addressesLayout, countBytes, CountFits, if_true]
    constructor
    · rintro ⟨z, rfl, n, x, y, rfl, ⟨rfl, hfits⟩, rfl, hlist⟩
      exact ⟨_, rfl, y, rfl, hfits, hlist⟩
    · rintro ⟨z, rfl, y, rfl, hfits, hlist⟩
      exact ⟨_, rfl, as.length, _, y, rfl, ⟨rfl, hfits⟩, rfl, hlist⟩
  · rw [decodeAddresses_one hv, Exact.repeated exact_decodeAddress 0 1 bs as rest]
    simp only [addressesLayout, countBytes, CountFits, if_neg hv, List.nil_append]
    constructor
    · rintro ⟨z, rfl, hone, hlist⟩
      exact ⟨z, rfl, z, rfl, hone, hlist⟩
    · rintro ⟨z, rfl, y, rfl, hone, hlist⟩
      exact ⟨z, rfl, hone, hlist⟩

/-- High byte first. -/
def portBytes (port : Nat) : List UInt8 :=
  [UInt8.ofNat ((port >>> 8) &&& 0xff), UInt8.ofNat (port &&& 0xff)]

/-- A high and a low byte side by side. -/
theorem shiftLeft_or {hi lo : Nat} (h : lo < 256) : (hi <<< 8) ||| lo = hi * 256 + lo := by
  rw [← Nat.shiftLeft_add_eq_or_of_lt (show lo < 2 ^ 8 from h), Nat.shiftLeft_eq]

theorem portBytes_eq (port : Nat) :
    portBytes port = [UInt8.ofNat (port / 256 % 256), UInt8.ofNat (port % 256)] := by
  have hmod : ∀ n, n &&& 0xff = n % 256 := fun n => Nat.and_two_pow_sub_one_eq_mod n 8
  rw [portBytes, hmod, hmod, Nat.shiftRight_eq_div_pow]

/-- The two bytes of a port make the port. -/
theorem port_of_bytes {port : Nat} {hi lo : UInt8} (h : portBytes port = [hi, lo]) (hle : port ≤ 0xffff) :
    (hi.toNat <<< 8) ||| lo.toNat = port := by
  rw [portBytes_eq] at h
  simp only [List.cons.injEq, and_true] at h
  obtain ⟨rfl, rfl⟩ := h
  rw [shiftLeft_or (UInt8.toNat_lt _), UInt8.toNat_ofNat', UInt8.toNat_ofNat']
  omega

/-- The bytes of the port that two bytes make. -/
theorem bytes_of_port (hi lo : UInt8) : portBytes ((hi.toNat <<< 8) ||| lo.toNat) = [hi, lo] ∧
    (hi.toNat <<< 8) ||| lo.toNat ≤ 0xffff := by
  have hhi := hi.toNat_lt
  have hlo := lo.toNat_lt
  rw [shiftLeft_or hlo, portBytes_eq]
  have hdiv : (hi.toNat * 256 + lo.toNat) / 256 % 256 = hi.toNat := by omega
  have hmod : (hi.toNat * 256 + lo.toNat) % 256 = lo.toNat := by omega
  rw [hdiv, hmod, UInt8.ofNat_toNat, UInt8.ofNat_toNat]
  exact ⟨rfl, by omega⟩

theorem exact_decodePort : Exact decodePort fun x port => x = portBytes port ∧ 0 < port ∧ port ≤ 0xffff := by
  intro bs port rest
  constructor
  · intro h
    match bs, h with
    | hi :: lo :: tail, h =>
      simp only [decodePort] at h
      split_ifs at h with hzero
      obtain ⟨rfl, rfl⟩ := Prod.mk.inj (Except.ok.inj h)
      obtain ⟨hbytes, hle⟩ := bytes_of_port hi lo
      exact ⟨[hi, lo], rfl, hbytes.symm, Nat.pos_of_ne_zero hzero, hle⟩
  · rintro ⟨x, rfl, rfl, hpos, hle⟩
    simp only [portBytes, List.cons_append, List.nil_append, decodePort, port_of_bytes rfl hle]
    rw [if_neg (by omega)]

/-- A length byte, then that many bytes to the end of the core. -/
theorem decodePub_eq_ok {bs pub : List UInt8} : decodePub bs = .ok pub ↔
    bs = UInt8.ofNat pub.length :: pub ∧ 0 < pub.length ∧ pub.length ≤ maxPubkeyLengthBytes := by
  constructor
  · intro h
    match bs, h with
    | pubLen :: rest, h =>
      simp only [decodePub] at h
      split_ifs at h with hbad
      obtain rfl := Except.ok.inj h
      have hlen : pubLen.toNat = rest.length := by omega
      exact ⟨by rw [← hlen, UInt8.ofNat_toNat], by omega, by omega⟩
  · rintro ⟨rfl, hpos, hle⟩
    have hbyte := toNat_ofNat_of_le hle (by decide)
    simp only [decodePub, hbyte]
    rw [if_neg (by omega)]

/-! ### The layout of a core -/

/-- The core of a version around its fields. -/
def coreOf (version : Nat) (tokenBytes : List UInt8) (ipByteBlocks : List (List UInt8)) (port : Nat)
    (pub : List UInt8) : List UInt8 :=
  UInt8.ofNat version :: (UInt8.ofNat tokenBytes.length :: tokenBytes) ++
    (countBytes version ipByteBlocks.length ++
      (ipByteBlocks.map fun ipBytes => UInt8.ofNat addrFamilyIPv4 :: ipBytes).flatten) ++
    portBytes port ++ UInt8.ofNat pub.length :: pub

theorem encodeCore_eq (tokenBytes : List UInt8) (ipByteBlocks : List (List UInt8)) (port : Nat)
    (pub : List UInt8) : encodeCore tokenBytes ipByteBlocks port pub =
      coreOf pairingPayloadVersionV2 tokenBytes ipByteBlocks port pub := by
  simp [encodeCore, coreOf, countBytes, portBytes]

/-- The payload is within the limits, its token is `tokenBytes`, and `R` relates
its addresses to the blocks. Both sides of the codec check the same. -/
structure Fits (R : String → List UInt8 → Prop) (p : PairingPayload) (tokenBytes : List UInt8)
    (ipByteBlocks : List (List UInt8)) : Prop where
  token : asciiEncode p.tokenId = .ok tokenBytes
  token_pos : 0 < tokenBytes.length
  token_le : tokenBytes.length ≤ maxTokenLengthBytes
  addresses : List.Forall₂ R p.issuerLanAddresses ipByteBlocks
  addresses_pos : 0 < p.issuerLanAddresses.length
  addresses_le : p.issuerLanAddresses.length ≤ kMaxPairingAddresses
  port_pos : 0 < p.issuerLanPort
  port_le : p.issuerLanPort ≤ 0xffff
  pub_pos : 0 < p.issuerPubKeyCompressed.length
  pub_le : p.issuerPubKeyCompressed.length ≤ maxPubkeyLengthBytes

/-- The core of a payload. -/
def PairingPayload.core (p : PairingPayload) (version : Nat) (tokenBytes : List UInt8)
    (ipByteBlocks : List (List UInt8)) : List UInt8 :=
  coreOf version tokenBytes ipByteBlocks p.issuerLanPort.toNat p.issuerPubKeyCompressed

/-- **What the encoder accepts, and what it writes.** -/
theorem encodePairingPayload_eq_ok {p : PairingPayload} {b : List UInt8} :
    encodePairingPayload p = .ok b ↔ ∃ tokenBytes ipByteBlocks,
      Fits (fun a ipBytes => encodeIPv4 a = .ok ipBytes) p tokenBytes ipByteBlocks ∧
        b = withCrc (p.core pairingPayloadVersionV2 tokenBytes ipByteBlocks) := by
  simp only [encodePairingPayload, bind_eq_ok, guard_eq_ok, mapM_eq_ok, encodeCore_eq, not_or,
    List.isEmpty_iff_length_eq_zero]
  constructor
  · rintro ⟨tokenBytes, htoken, ⟨htoken₀, htoken₁⟩, haddr₀, haddr₁, ipByteBlocks, haddr, ⟨hport₀, hport₁⟩,
      ⟨hpub₀, hpub₁⟩, heq⟩
    refine ⟨tokenBytes, ipByteBlocks, ?_, (Except.ok.inj heq).symm⟩
    constructor <;> first | assumption | omega
  · rintro ⟨tokenBytes, ipByteBlocks, hfits, rfl⟩
    obtain ⟨htoken, htoken₀, htoken₁, haddr, haddr₀, haddr₁, hport₀, hport₁, hpub₀, hpub₁⟩ := hfits
    exact ⟨tokenBytes, htoken, ⟨by omega, by omega⟩, by omega, by omega, ipByteBlocks, haddr,
      ⟨by omega, by omega⟩, ⟨by omega, by omega⟩, rfl⟩

/-- The addresses of a core are the texts of its blocks. -/
theorem addressLayout_list {y : List UInt8} {as : List String} : addressLayout.list y as ↔
    ∃ ipByteBlocks, List.Forall₂ Dotted as ipByteBlocks ∧
      y = (ipByteBlocks.map fun ipBytes => UInt8.ofNat addrFamilyIPv4 :: ipBytes).flatten := by
  constructor
  · rintro ⟨xs, rfl, hxs⟩
    induction hxs with
    | nil => exact ⟨[], .nil, rfl⟩
    | cons hx _ ih =>
      obtain ⟨block, rfl, hdotted⟩ := hx
      obtain ⟨blocks, hblocks, heq⟩ := ih
      exact ⟨block :: blocks, .cons hdotted hblocks,
        by rw [List.flatten_cons, List.map_cons, List.flatten_cons, heq]⟩
  · rintro ⟨blocks, hblocks, rfl⟩
    induction hblocks with
    | nil => exact Layout.list_nil _
    | cons hdotted _ ih => exact Layout.list_cons ⟨_, rfl, hdotted⟩ ih

/-- The versions the decoder reads. -/
def KnownVersion (version : Nat) : Prop :=
  version = pairingPayloadVersionV1 ∨ version = pairingPayloadVersionV2

theorem CountFits.le {version count : Nat} (h : CountFits version count) :
    0 < count ∧ count ≤ kMaxPairingAddresses := by
  rw [CountFits] at h
  split_ifs at h with hv
  · exact h
  · subst h
    decide

/-- **What the decoder accepts, and what it reads off it.** -/
theorem decodeCore_eq_ok {core : List UInt8} {p : PairingPayload} : decodeCore core = .ok p ↔
    ∃ version tokenBytes ipByteBlocks, KnownVersion version ∧ p.version = version ∧
      CountFits version p.issuerLanAddresses.length ∧ Fits Dotted p tokenBytes ipByteBlocks ∧
      core = p.core version tokenBytes ipByteBlocks := by
  constructor
  · intro h
    match core, h with
    | b :: rest, h =>
      simp only [decodeCore, bind_eq_ok, guard_eq_ok] at h
      obtain ⟨hknown, ⟨tokenId, rest₁⟩, htoken, ⟨addresses, rest₂⟩, haddr, ⟨port, rest₃⟩, hport, pub, hpub,
        heq⟩ := h
      obtain rfl := Except.ok.inj heq
      simp only at haddr hport hpub
      obtain ⟨_, rfl, tokenBytes, rfl, htoken₀, htoken₁, hascii⟩ := (exact_decodeToken _ _ _).mp htoken
      obtain ⟨_, rfl, _, rfl, hcount, hlist⟩ := (exact_decodeAddresses _ _ _ _).mp haddr
      obtain ⟨blocks, hblocks, rfl⟩ := addressLayout_list.mp hlist
      obtain ⟨_, rfl, rfl, hport₀, hport₁⟩ := (exact_decodePort _ _ _).mp hport
      obtain ⟨rfl, hpub₀, hpub₁⟩ := decodePub_eq_ok.mp hpub
      refine ⟨b.toNat, tokenBytes, blocks, by unfold KnownVersion; omega, rfl, hcount, ?_, ?_⟩
      · exact ⟨hascii, htoken₀, htoken₁, hblocks, hcount.le.1, hcount.le.2, Int.natCast_pos.mpr hport₀,
          by simp only; omega, hpub₀, hpub₁⟩
      · simp [PairingPayload.core, coreOf, hblocks.length_eq]
  · rintro ⟨version, tokenBytes, blocks, hknown, hversion, hcount, hfits, rfl⟩
    obtain ⟨tokenId, addresses, port, pub, _⟩ := p
    obtain ⟨hascii, htoken₀, htoken₁, hblocks, -, -, hport₀, hport₁, hpub₀, hpub₁⟩ := hfits
    simp only at hversion hcount hascii hblocks hport₀ hport₁ hpub₀ hpub₁
    subst hversion
    obtain ⟨port, rfl⟩ := Int.eq_ofNat_of_zero_le (Int.le_of_lt hport₀)
    have hbyte : (UInt8.ofNat version).toNat = version := by
      rcases hknown with rfl | rfl <;> rfl
    have htoken := fun rest => (exact_decodeToken _ tokenId rest).mpr
      ⟨_, rfl, tokenBytes, rfl, htoken₀, htoken₁, hascii⟩
    have haddr := fun rest => (exact_decodeAddresses version _ addresses rest).mpr
      ⟨_, rfl, _, rfl, hcount, addressLayout_list.mpr ⟨blocks, hblocks, rfl⟩⟩
    have hport := fun rest => (exact_decodePort _ port rest).mpr ⟨_, rfl, rfl, by omega, by omega⟩
    have hpub := decodePub_eq_ok.mpr ⟨rfl, hpub₀, hpub₁⟩
    simp only [PairingPayload.core, coreOf, List.cons_append, decodeCore, hbyte, bind_eq_ok, guard_eq_ok,
      Int.toNat_natCast, ← hblocks.length_eq, List.append_assoc] at htoken haddr ⊢
    exact ⟨by unfold KnownVersion at hknown; omega, _, htoken _, _, haddr _, _, hport _, _, hpub, rfl⟩

/-- One address block is five bytes, so a core is never too short for the decoder. -/
theorem Fits.eleven_le {p : PairingPayload} {tokenBytes : List UInt8} {ipByteBlocks : List (List UInt8)}
    (h : Fits Dotted p tokenBytes ipByteBlocks) (version : Nat) :
    11 ≤ (p.core version tokenBytes ipByteBlocks).length := by
  have htoken := h.token_pos
  have hpub := h.pub_pos
  have haddr := h.addresses
  have hpos := h.addresses_pos
  generalize p.issuerLanAddresses = addresses at haddr hpos
  cases haddr with
  | nil => exact absurd hpos (by simp)
  | cons hdotted _ =>
    obtain ⟨b0, b1, b2, b3, -, rfl⟩ := hdotted
    simp only [PairingPayload.core, coreOf, portBytes, List.length_append, List.length_cons, List.map_cons,
      List.flatten_cons, List.length_nil]
    omega

/-- A canonical address that encodes is the text of its block. -/
theorem Fits.dotted {p : PairingPayload} {tokenBytes : List UInt8} {ipByteBlocks : List (List UInt8)}
    (h : Fits (fun a ipBytes => encodeIPv4 a = .ok ipBytes) p tokenBytes ipByteBlocks)
    (hcanonical : ∀ a ∈ p.issuerLanAddresses, CanonicalQuad a) : Fits Dotted p tokenBytes ipByteBlocks := by
  refine { h with addresses := ?_ }
  refine ((List.forall₂_and_left _ _).mpr ⟨hcanonical, h.addresses⟩).imp fun a ipBytes ha => ?_
  obtain ⟨block, hdotted⟩ := (canonicalQuad_iff a).mp ha.1
  obtain rfl := Except.ok.inj ((encodeIPv4_dotted hdotted).symm.trans ha.2)
  exact hdotted

theorem Fits.encodes {p : PairingPayload} {tokenBytes : List UInt8} {ipByteBlocks : List (List UInt8)}
    (h : Fits Dotted p tokenBytes ipByteBlocks) :
    Fits (fun a ipBytes => encodeIPv4 a = .ok ipBytes) p tokenBytes ipByteBlocks :=
  { h with addresses := h.addresses.imp fun _ _ => encodeIPv4_dotted }

/-! ### The checksum -/

theorem decodePairingPayload_withCrc {core : List UInt8} (h : 11 ≤ core.length) :
    decodePairingPayload (withCrc core) = decodeCore core := by
  have hlen : ¬(withCrc core).length < 12 := by
    rw [withCrc, List.length_append, List.length_singleton]
    omega
  rw [decodePairingPayload, if_neg hlen, withCrc, List.dropLast_concat, List.getLastD_concat]
  exact if_neg fun hne => hne rfl

/-- What is accepted ends in the checksum of its core. -/
theorem withCrc_of_decode {b : List UInt8} {p : PairingPayload} (h : decodePairingPayload b = .ok p) :
    ∃ core, b = withCrc core ∧ decodeCore core = .ok p := by
  rw [decodePairingPayload] at h
  split_ifs at h with hlen hcrc
  have hne : b ≠ [] := by
    rintro rfl
    exact hlen (by decide)
  refine ⟨b.dropLast, ?_, h⟩
  rw [withCrc, Decidable.not_not.mp hcrc, List.getLastD_eq_getLast?, List.getLast?_eq_getLast_of_ne_nil hne,
    Option.getD_some, List.dropLast_append_getLast]

/-! ### The round trip -/

/-- Decoding what was encoded reads the same payload, at version 2. -/
theorem decode_withCrc_core {p : PairingPayload} {tokenBytes : List UInt8} {ipByteBlocks : List (List UInt8)}
    (h : Fits Dotted p tokenBytes ipByteBlocks) :
    decodePairingPayload (withCrc (p.core pairingPayloadVersionV2 tokenBytes ipByteBlocks)) =
      .ok { p with version := pairingPayloadVersionV2 } := by
  rw [decodePairingPayload_withCrc (h.eleven_le _), decodeCore_eq_ok]
  exact ⟨pairingPayloadVersionV2, tokenBytes, ipByteBlocks, .inr rfl, rfl, ⟨h.addresses_pos, h.addresses_le⟩,
    { h with }, rfl⟩

/-- **The codec inverts.** On canonical addresses decoding undoes encoding, at
version 2; encoding undoes decoding of a version 2 blob; and a version 1 blob
comes back as version 2 with everything else as it was. -/
theorem pairing_round_trip :
    (∀ p b, (∀ a ∈ p.issuerLanAddresses, CanonicalQuad a) → encodePairingPayload p = .ok b →
      decodePairingPayload b = .ok { p with version := 2 }) ∧
    (∀ b p, b.head? = some 2 → decodePairingPayload b = .ok p → encodePairingPayload p = .ok b) ∧
    (∀ b p, b.head? = some 1 → decodePairingPayload b = .ok p → p.version = 1 ∧
      ∃ b', encodePairingPayload p = .ok b' ∧ decodePairingPayload b' = .ok { p with version := 2 }) := by
  refine ⟨fun p b hcanonical h => ?_, fun b p hhead h => ?_, fun b p hhead h => ?_⟩
  · obtain ⟨tokenBytes, blocks, hfits, rfl⟩ := encodePairingPayload_eq_ok.mp h
    exact decode_withCrc_core (hfits.dotted hcanonical)
  · obtain ⟨core, rfl, hcore⟩ := withCrc_of_decode h
    obtain ⟨version, tokenBytes, blocks, hknown, -, -, hfits, rfl⟩ := decodeCore_eq_ok.mp hcore
    obtain rfl : version = pairingPayloadVersionV2 := by
      rcases hknown with rfl | rfl
      · exact absurd hhead (by simp [PairingPayload.core, coreOf, withCrc, pairingPayloadVersionV1])
      · rfl
    exact encodePairingPayload_eq_ok.mpr ⟨tokenBytes, blocks, hfits.encodes, rfl⟩
  · obtain ⟨core, rfl, hcore⟩ := withCrc_of_decode h
    obtain ⟨version, tokenBytes, blocks, hknown, hversion, -, hfits, rfl⟩ := decodeCore_eq_ok.mp hcore
    obtain rfl : version = pairingPayloadVersionV1 := by
      rcases hknown with rfl | rfl
      · rfl
      · exact absurd hhead (by simp [PairingPayload.core, coreOf, withCrc, pairingPayloadVersionV2])
    exact ⟨hversion, _, encodePairingPayload_eq_ok.mpr ⟨tokenBytes, blocks, hfits.encodes, rfl⟩,
      decode_withCrc_core hfits⟩

/-- A payload with two addresses and its blob, and a version 1 blob. -/
theorem pairing_round_trip_code :
    decodePairingPayload
        [2, 4, 99, 111, 100, 101, 2, 4, 192, 168, 1, 10, 4, 10, 0, 0, 2, 208, 69, 2, 2, 7, 10] =
      .ok ⟨"code", ["192.168.1.10", "10.0.0.2"], 53317, [2, 7], 2⟩ ∧
    encodePairingPayload ⟨"code", ["192.168.1.10", "10.0.0.2"], 53317, [2, 7], 2⟩ =
      .ok [2, 4, 99, 111, 100, 101, 2, 4, 192, 168, 1, 10, 4, 10, 0, 0, 2, 208, 69, 2, 2, 7, 10] ∧
    ∃ b, encodePairingPayload ⟨"code", ["192.168.1.10"], 53317, [2, 7], 1⟩ = .ok b ∧
      decodePairingPayload b = .ok ⟨"code", ["192.168.1.10"], 53317, [2, 7], 2⟩ := by
  obtain ⟨hencode, hdecode, hupgrade⟩ := pairing_round_trip
  refine ⟨hencode ⟨"code", ["192.168.1.10", "10.0.0.2"], 53317, [2, 7], 1⟩ _ ?_ (by decide +kernel),
    hdecode _ _ rfl (by decide +kernel),
    (hupgrade [1, 4, 99, 111, 100, 101, 4, 192, 168, 1, 10, 208, 69, 2, 2, 7, 124]
      ⟨"code", ["192.168.1.10"], 53317, [2, 7], 1⟩ rfl (by decide +kernel)).2⟩
  intro a ha
  simp only [List.mem_cons, List.not_mem_nil, or_false] at ha
  rcases ha with rfl | rfl
  · exact (canonicalQuad_iff _).mpr ⟨_, 192, 168, 1, 10, by decide +kernel, rfl⟩
  · exact (canonicalQuad_iff _).mpr ⟨_, 10, 0, 0, 2, by decide +kernel, rfl⟩

end MagicShare.Pairing
