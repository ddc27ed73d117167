import Mathlib.Logic.Function.Iterate
import MagicShare.Base.Parsing

/-! The binary form of a pairing payload (`pairing_payload.dart`).

Version 1 carries one address, version 2 counts its addresses; the encoder
always writes version 2. Bytes are `UInt8`, so a store into a `Uint8List` is the
conversion to `UInt8`. The QR and the manual form are texts over these bytes. -/
namespace MagicShare.Pairing
open Parsing

def pairingPayloadVersionV1 : Nat := 1
def pairingPayloadVersionV2 : Nat := 2
def addrFamilyIPv4 : Nat := 4
def maxPubkeyLengthBytes : Nat := 64
def maxTokenLengthBytes : Nat := 96
def kMaxPairingAddresses : Nat := 4

structure PairingPayload where
  tokenId : String
  issuerLanAddresses : List String
  issuerLanPort : Int
  issuerPubKeyCompressed : List UInt8
  version : Int := pairingPayloadVersionV2
  deriving DecidableEq

inductive PairingPayloadDecodeError where
  | malformed | wrongLength | badChecksum | wrongVersion | badAlphabet | badAddress | badPort
  deriving DecidableEq

/-- What a decoder throws. -/
inductive DecodeFailure where
  | payload (error : PairingPayloadDecodeError) (detail : String)
  /-- `FormatException`, from `ascii.decode`. -/
  | format (message : String)
  /-- `RangeError`, from an index past the end. -/
  | range
  deriving DecidableEq

/-- `ArgumentError`, what the encoder throws. -/
structure ArgumentError where
  message : String
  deriving DecidableEq

/-! ### Dart's strings and numbers -/

/-- The byte of an ASCII character. -/
def asciiByte (c : Char) : UInt8 := UInt8.ofNat c.toNat

/-- The character of an ASCII byte. -/
def asciiChar (b : UInt8) : Char := Char.ofNat b.toNat

/-- `ascii.encode`. -/
def asciiEncode (s : String) : Except ArgumentError (List UInt8) :=
  if s.toList.all fun c => decide (c.toNat < 128) then .ok (s.toList.map asciiByte)
  else .error ⟨"Contains invalid characters."⟩

/-- `ascii.decode`: the first byte above 127 is the one it complains about. -/
def asciiDecode (bytes : List UInt8) : Except DecodeFailure String :=
  match bytes.find? fun b => decide (128 ≤ b.toNat) with
  | some b => .error (.format s!"Invalid value in input: {b.toNat}")
  | none => .ok (String.ofList (bytes.map asciiChar))

/-- The white space that `int.tryParse` ignores at both ends. -/
def isWhitespace (c : Char) : Bool :=
  decide (c.toNat ∈ [0x20, 0x85, 0xA0, 0x1680, 0x2028, 0x2029, 0x202F, 0x205F, 0x3000, 0xFEFF]) ||
    decide (9 ≤ c.toNat ∧ c.toNat ≤ 13) || decide (0x2000 ≤ c.toNat ∧ c.toNat ≤ 0x200A)

def trimmed (cs : List Char) : List Char :=
  ((cs.dropWhile isWhitespace).reverse.dropWhile isWhitespace).reverse

/-- The value of a digit in a base up to 16. -/
def digitValue (base : Nat) (c : Char) : Option Nat :=
  let v :=
    if '0' ≤ c ∧ c ≤ '9' then c.toNat - '0'.toNat
    else if 'a' ≤ c ∧ c ≤ 'f' then c.toNat - 'a'.toNat + 10
    else if 'A' ≤ c ∧ c ≤ 'F' then c.toNat - 'A'.toNat + 10
    else 16
  if v < base then some v else none

/-- One digit or more. -/
def digitsValue (base : Nat) (cs : List Char) : Option Nat :=
  if cs.isEmpty then none
  else cs.foldlM (fun acc c => (digitValue base c).map (acc * base + ·)) 0

/-- Decimal digits, or hexadecimal ones after `0x`. -/
def unsignedValue (cs : List Char) : Option Nat :=
  match cs with
  | '0' :: 'x' :: hex => digitsValue 16 hex
  | '0' :: 'X' :: hex => digitsValue 16 hex
  | _ => digitsValue 10 cs

/-- `int.tryParse`, on integers without a bound: past 64 bits Dart answers `null`
or wraps a hexadecimal literal to a negative number, which no caller here accepts
either. -/
def intTryParse (s : List Char) : Option Int :=
  match trimmed s with
  | '-' :: cs => (unsignedValue cs).map fun n => -(n : Int)
  | '+' :: cs => (unsignedValue cs).map Int.ofNat
  | cs => (unsignedValue cs).map Int.ofNat

/-! ### Encoding -/

/-- One part of a dotted address. -/
def encodeOctet (part : List Char) : Except ArgumentError UInt8 :=
  match intTryParse part with
  | none => .error ⟨"Invalid IPv4 octet: " ++ String.ofList part⟩
  | some v =>
    if v < 0 ∨ v > 255 then .error ⟨"Invalid IPv4 octet: " ++ String.ofList part⟩
    else .ok (UInt8.ofNat v.toNat)

def encodeIPv4 (dotted : String) : Except ArgumentError (List UInt8) :=
  let parts := dotted.toList.splitOn '.'
  if parts.length ≠ 4 then .error ⟨"Not an IPv4 address: " ++ dotted⟩
  else parts.mapM encodeOctet

/-- Eight shifts of the register, dropping the bit that leaves it. -/
def crcShift (crc : UInt8) : UInt8 :=
  if crc &&& 0x80 ≠ 0 then (crc <<< 1) ^^^ 0x07 else crc <<< 1

def crcByte (crc b : UInt8) : UInt8 := crcShift^[8] (crc ^^^ b)

def crc8 (bytes : List UInt8) : UInt8 := bytes.foldl crcByte 0

/-- The payload without its checksum. -/
def encodeCore (tokenBytes : List UInt8) (ipByteBlocks : List (List UInt8)) (port : Nat)
    (pub : List UInt8) : List UInt8 :=
  UInt8.ofNat pairingPayloadVersionV2 :: UInt8.ofNat tokenBytes.length :: tokenBytes ++
    UInt8.ofNat ipByteBlocks.length ::
      (ipByteBlocks.map fun ipBytes => UInt8.ofNat addrFamilyIPv4 :: ipBytes).flatten ++
    [UInt8.ofNat ((port >>> 8) &&& 0xff), UInt8.ofNat (port &&& 0xff)] ++
    UInt8.ofNat pub.length :: pub

/-- The core and its checksum. -/
def withCrc (core : List UInt8) : List UInt8 := core ++ [crc8 core]

def encodePairingPayload (payload : PairingPayload) : Except ArgumentError (List UInt8) := do
  let tokenBytes ← asciiEncode payload.tokenId
  if tokenBytes.isEmpty ∨ tokenBytes.length > maxTokenLengthBytes then
    throw ⟨s!"Token byte length out of range: {tokenBytes.length}"⟩
  if payload.issuerLanAddresses.isEmpty then
    throw ⟨"Pairing payload must carry at least one LAN address"⟩
  if payload.issuerLanAddresses.length > kMaxPairingAddresses then
    throw ⟨s!"Too many LAN addresses ({payload.issuerLanAddresses.length}, max {kMaxPairingAddresses})"⟩
  let ipByteBlocks ← payload.issuerLanAddresses.mapM encodeIPv4
  if payload.issuerLanPort < 1 ∨ payload.issuerLanPort > 0xffff then
    throw ⟨s!"Port out of range: {payload.issuerLanPort}"⟩
  let pub := payload.issuerPubKeyCompressed
  if pub.isEmpty ∨ pub.length > maxPubkeyLengthBytes then
    throw ⟨s!"Pubkey length out of range: {pub.length}"⟩
  return withCrc (encodeCore tokenBytes ipByteBlocks payload.issuerLanPort.toNat pub)

/-! ### Decoding -/

def wrongLength (detail : String) : DecodeFailure := .payload .wrongLength detail

def decodeToken : Reader UInt8 DecodeFailure String
  | [] => .error .range
  | tokenLen :: rest =>
    if tokenLen.toNat = 0 ∨ tokenLen.toNat > maxTokenLengthBytes ∨ tokenLen.toNat > rest.length then
      .error (wrongLength s!"token length out of range: {tokenLen.toNat}")
    else do
      let tokenId ← asciiDecode (rest.take tokenLen.toNat)
      return (tokenId, rest.drop tokenLen.toNat)

/-- Version 1 has one address and no count. -/
def decodeAddrCount (version : Nat) : Reader UInt8 DecodeFailure Nat
  | [] => .error (wrongLength "truncated before address section")
  | b :: rest =>
    if version = pairingPayloadVersionV2 then
      if b.toNat = 0 ∨ b.toNat > kMaxPairingAddresses then
        .error (wrongLength s!"addrCount out of range: {b.toNat}")
      else .ok (b.toNat, rest)
    else .ok (1, b :: rest)

/-- Four octets in decimal, with dots between them. -/
def dotted (b0 b1 b2 b3 : UInt8) : String :=
  s!"{b0.toNat}.{b1.toNat}.{b2.toNat}.{b3.toNat}"

def decodeAddress (n : Nat) : Reader UInt8 DecodeFailure String
  | [] => .error (wrongLength s!"truncated before address family for entry {n}")
  | addrFamily :: rest =>
    if addrFamily.toNat ≠ addrFamilyIPv4 then
      .error (.payload .malformed s!"unsupported address family: {addrFamily.toNat} (only IPv4 supported)")
    else
      match rest with
      | b0 :: b1 :: b2 :: b3 :: rest => .ok (dotted b0 b1 b2 b3, rest)
      | _ => .error (wrongLength s!"truncated IPv4 octets for entry {n}")

def decodeAddresses (version : Nat) : Reader UInt8 DecodeFailure (List String) :=
  andThen (decodeAddrCount version) (repeated decodeAddress 0)

def decodePort : Reader UInt8 DecodeFailure Nat
  | hi :: lo :: rest =>
    let port := (hi.toNat <<< 8) ||| lo.toNat
    if port = 0 then .error (.payload .badPort "port may not be 0") else .ok (port, rest)
  | _ => .error (wrongLength "truncated port")

/-- The public key ends the core. -/
def decodePub : List UInt8 → Except DecodeFailure (List UInt8)
  | [] => .error (wrongLength "truncated before pubkey length")
  | pubLen :: rest =>
    if pubLen.toNat = 0 ∨ pubLen.toNat > maxPubkeyLengthBytes ∨ pubLen.toNat ≠ rest.length then
      .error (wrongLength s!"pubkey length out of range or trailing bytes: {pubLen.toNat}")
    else .ok rest

def decodeCore : List UInt8 → Except DecodeFailure PairingPayload
  | [] => .error .range
  | b :: rest => do
    let version := b.toNat
    if version ≠ pairingPayloadVersionV1 ∧ version ≠ pairingPayloadVersionV2 then
      throw (.payload .wrongVersion s!"unknown version: {version}")
    let (tokenId, rest) ← decodeToken rest
    let (addresses, rest) ← decodeAddresses version rest
    let (port, rest) ← decodePort rest
    let pub ← decodePub rest
    return {
      tokenId := tokenId
      issuerLanAddresses := addresses
      issuerLanPort := port
      issuerPubKeyCompressed := pub
      version := version }

def decodePairingPayload (bytes : List UInt8) : Except DecodeFailure PairingPayload :=
  if bytes.length < 12 then .error (wrongLength s!"payload too short: {bytes.length} bytes")
  else if crc8 bytes.dropLast ≠ bytes.getLastD 0 then .error (.payload .badChecksum "CRC-8 mismatch")
  else decodeCore bytes.dropLast

end MagicShare.Pairing
