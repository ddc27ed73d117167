import MagicShare.Base.Base64
import MagicShare.Pairing.ManualCode
import MagicShare.Pairing.RoundTrip

/-! The QR form of a pairing payload (`pairing_payload.dart`): a scheme and the base64url
of its bytes.

The reader is lenient: the scheme may be missing or in capitals, white space may stand
around the text, the padding may be gone and the symbols may be those of plain base64.
`tryDecode…` answers `null` for the two exceptions it knows, so it throws exactly if
something else does. -/
namespace MagicShare.Pairing
open Fallible

def pairingUriScheme : List Char := "magicshare-pair:".toList

/-! ### Dart's strings -/

/-- The UTF-16 code units of a character. -/
def codeUnits (c : Char) : Nat := if c.toNat < 0x10000 then 1 else 2

/-- `length`. -/
def lengthOf (s : List Char) : Nat := (s.map codeUnits).sum

/-- `toLowerCase`. Unicode's table for the characters above 127 is `other`. -/
def toLowerCase (other : Char → List Char) (s : List Char) : List Char :=
  s.flatMap fun c => if c.toNat < 128 then [c.toLower] else other c

/-- What follows `n` code units. Of a surrogate pair that is cut in two the second half
is left, which is no character: U+FFFD stands for it. -/
def dropUnits : Nat → List Char → List Char
  | 0, s => s
  | _, [] => []
  | n + 1, c :: s =>
    if codeUnits c = 1 then dropUnits n s
    else if n = 0 then '\uFFFD' :: s
    else dropUnits (n - 1) s

def substring (s : List Char) (start : Nat) : Except DecodeFailure (List Char) :=
  if start > lengthOf s then .error .range else .ok (dropUnits start s)

def replaceAll (s : List Char) (old new : Char) : List Char := s.map fun c => if c = old then new else c

def padRight (s : List Char) (width : Nat) (padding : Char) : List Char :=
  s ++ List.replicate (width - lengthOf s) padding

/-! ### Base64 -/

/-- `base64UrlEncode`: whole groups of four. -/
def base64UrlEncode (bytes : List UInt8) : List Char :=
  let text := Base64.urlSafe.encode bytes
  text ++ List.replicate ((text.length + 3) / 4 * 4 - text.length) '='

/-- The decoder takes the symbols of both alphabets. -/
def inverseAlphabet (c : Char) : Option Nat :=
  if c = '+' then some 62 else if c = '/' then some 63 else Base64.urlSafe.value c

/-- What may follow the first padding character: `expectedPadding` counts down, by three
for a `=`, one by one for `%3D`. -/
def checkPadding (expectedPadding : Nat) : List Char → Except DecodeFailure Nat
  | [] => .ok expectedPadding
  | c :: rest =>
    if expectedPadding = 3 ∧ c = '=' then checkPadding 0 rest
    else if expectedPadding = 3 ∧ c = '%' then checkPadding 2 rest
    else if (expectedPadding = 5 ∨ expectedPadding = 2) ∧ c = '3' then checkPadding (expectedPadding - 1) rest
    else if (expectedPadding = 4 ∨ expectedPadding = 1) ∧ (c = 'D' ∨ c = 'd') then
      checkPadding (expectedPadding - 1) rest
    else .error (.format "Invalid padding character")

/-- From the first padding character on. Two or three symbols are pending, and the bits
that are no byte have to be zero. -/
def decodePadding (count bits : Nat) (c : Char) (rest : List Char) : Except DecodeFailure (List UInt8) := do
  if count = 3 ∧ bits &&& 0x03 ≠ 0 ∨ count ≠ 3 ∧ bits &&& 0x0F ≠ 0 then
    throw (.format "Invalid encoding before padding")
  let bytes := if count = 3 then [UInt8.ofNat (bits >>> 10), UInt8.ofNat (bits >>> 2)] else [UInt8.ofNat (bits >>> 4)]
  let expectedPadding := (3 - count) * 3 + if c = '%' then 2 else 0
  let missing ← checkPadding expectedPadding rest
  if missing > 0 then throw (.format "Missing padding character")
  return bytes

/-- The bits that are pending, and another symbol. -/
def pushSymbol (bits code : Nat) : Nat := ((bits <<< 6) ||| code) &&& 0xFFFFFF

/-- `count` symbols are pending. -/
def decodeChunk (count bits : Nat) : List Char → Except DecodeFailure (List UInt8)
  | [] => if count = 0 then .ok [] else .error (.format "Invalid length, must be multiple of four")
  | c :: rest =>
    match inverseAlphabet c with
    | some code =>
      let bits := pushSymbol bits code
      if count = 3 then do
        let bytes ← decodeChunk 0 0 rest
        return UInt8.ofNat (bits >>> 16) :: UInt8.ofNat (bits >>> 8) :: UInt8.ofNat bits :: bytes
      else decodeChunk (count + 1) bits rest
    | none =>
      if (c = '=' ∨ c = '%') ∧ count > 1 then decodePadding count bits c rest
      else .error (.format "Invalid character")

/-- `base64Url.decode`. -/
def base64UrlDecode (input : List Char) : Except DecodeFailure (List UInt8) := decodeChunk 0 0 input

/-! ### The codec -/

def encodePairingUri (payload : PairingPayload) : Except ArgumentError String := do
  let bytes ← encodePairingPayload payload
  return String.ofList (pairingUriScheme ++ base64UrlEncode bytes)

def withoutScheme (other : Char → List Char) (text : List Char) : Except DecodeFailure (List Char) :=
  if pairingUriScheme.isPrefixOf (toLowerCase other text) then substring text pairingUriScheme.length
  else .ok text

/-- In the url-safe alphabet, and padded. The width is `(length + 3) & ~3`. -/
def padded (text : List Char) : List Char :=
  let text := replaceAll (replaceAll text '+' '-') '/' '_'
  padRight text ((lengthOf text + 3) / 4 * 4) '='

def decodePairingUri (other : Char → List Char) (input : String) : Except DecodeFailure PairingPayload := do
  let text ← withoutScheme other (trimmed input.toList)
  let bytes ← base64UrlDecode (padded text)
  decodePairingPayload bytes

/-- The two exceptions that are caught. -/
def orNull : Except DecodeFailure PairingPayload → Except DecodeFailure (Option PairingPayload)
  | .ok payload => .ok (some payload)
  | .error (.payload _ _) => .ok none
  | .error (.format _) => .ok none
  | .error .range => .error .range

def tryDecodePairingUri (other : Char → List Char) (input : String) : Except DecodeFailure (Option PairingPayload) :=
  orNull (decodePairingUri other input)

def tryDecodePairingManualCode (other : Char → List Char) (input : String) :
    Except DecodeFailure (Option PairingPayload) := orNull (decodePairingManualCode other input)

/-! ### Base64 comes back -/

theorem inverseAlphabet_symbol {v : Nat} (h : v < 64) : inverseAlphabet (Base64.urlSafe.symbol v) = some v := by
  have hmem := Base64.urlSafe.symbol_mem h
  have hplus : Base64.urlSafe.symbol v ≠ '+' := by
    intro heq
    rw [heq] at hmem
    exact absurd hmem (by decide)
  have hslash : Base64.urlSafe.symbol v ≠ '/' := by
    intro heq
    rw [heq] at hmem
    exact absurd hmem (by decide)
  rw [inverseAlphabet, if_neg hplus, if_neg hslash, Base64.urlSafe.value_symbol h]

/-- Six more bits, as long as they fit. -/
theorem pushSymbol_eq {bits v : Nat} (hbits : bits < 2 ^ 18) (hv : v < 64) : pushSymbol bits v = bits * 64 + v := by
  have hor : (bits <<< 6) ||| v = bits * 64 + v := by
    rw [← Nat.shiftLeft_add_eq_or_of_lt (show v < 2 ^ 6 from hv), Nat.shiftLeft_eq]
  have hmask : (bits * 64 + v) &&& 0xFFFFFF = (bits * 64 + v) % 2 ^ 24 := Nat.and_two_pow_sub_one_eq_mod _ 24
  rw [pushSymbol, hor, hmask, Nat.mod_eq_of_lt (by omega)]

/-- A symbol that does not fill its group. -/
theorem decodeChunk_pending {count bits v : Nat} {rest : List Char} (hcount : count ≠ 3) (hbits : bits < 2 ^ 18)
    (hv : v < 64) : decodeChunk count bits (Base64.urlSafe.symbol v :: rest) =
      decodeChunk (count + 1) (bits * 64 + v) rest := by
  rw [decodeChunk, inverseAlphabet_symbol hv]
  show (if _ then _ else _) = _
  rw [if_neg hcount, pushSymbol_eq hbits hv]

/-- The fourth symbol gives the three bytes of the group. -/
theorem decodeChunk_full {a b c : UInt8} {bits v : Nat} {rest : List Char} {bytes : List UInt8} (hbits : bits < 2 ^ 18)
    (hv : v < 64) (hgroup : bits * 64 + v = a.toNat * 65536 + b.toNat * 256 + c.toNat)
    (hrest : decodeChunk 0 0 rest = .ok bytes) :
    decodeChunk 3 bits (Base64.urlSafe.symbol v :: rest) = .ok (a :: b :: c :: bytes) := by
  have ha := a.toNat_lt
  have hb := b.toNat_lt
  have hc := c.toNat_lt
  rw [decodeChunk, inverseAlphabet_symbol hv]
  show (if _ then _ else _) = _
  rw [if_pos rfl, hrest, pushSymbol_eq hbits hv, hgroup, Nat.shiftRight_eq_div_pow, Nat.shiftRight_eq_div_pow]
  have hfirst : UInt8.ofNat ((a.toNat * 65536 + b.toNat * 256 + c.toNat) / 2 ^ 16) = a :=
    Base64.ofNat_eq_of_mod (by omega)
  have hsecond : UInt8.ofNat ((a.toNat * 65536 + b.toNat * 256 + c.toNat) / 2 ^ 8) = b :=
    Base64.ofNat_eq_of_mod (by omega)
  have hthird : UInt8.ofNat (a.toNat * 65536 + b.toNat * 256 + c.toNat) = c :=
    Base64.ofNat_eq_of_mod (by omega)
  rw [hfirst, hsecond, hthird]
  rfl

/-- One byte at the end. -/
theorem decodePadding_one (a : UInt8) : decodePadding 2 (a.toNat * 16) '=' ['='] = .ok [a] := by
  have hmask : a.toNat * 16 &&& 0x0F = a.toNat * 16 % 2 ^ 4 := Nat.and_two_pow_sub_one_eq_mod _ 4
  have hbyte : UInt8.ofNat (a.toNat * 16 / 2 ^ 4) = a := Base64.ofNat_eq (by omega)
  unfold decodePadding
  rw [if_neg (by omega), if_neg (by decide), Nat.shiftRight_eq_div_pow, hbyte]
  rfl

/-- Two bytes at the end. -/
theorem decodePadding_two (a b : UInt8) : decodePadding 3 (a.toNat * 1024 + b.toNat * 4) '=' [] = .ok [a, b] := by
  have hb := b.toNat_lt
  have hmask : a.toNat * 1024 + b.toNat * 4 &&& 0x03 = (a.toNat * 1024 + b.toNat * 4) % 2 ^ 2 :=
    Nat.and_two_pow_sub_one_eq_mod _ 2
  have hfirst : UInt8.ofNat ((a.toNat * 1024 + b.toNat * 4) / 2 ^ 10) = a := Base64.ofNat_eq (by omega)
  have hsecond : UInt8.ofNat ((a.toNat * 1024 + b.toNat * 4) / 2 ^ 2) = b :=
    Base64.ofNat_eq_of_mod (by omega)
  unfold decodePadding
  rw [if_neg (by omega), if_pos rfl, Nat.shiftRight_eq_div_pow, Nat.shiftRight_eq_div_pow, hfirst, hsecond]
  rfl

theorem decodeChunk_padding {count bits : Nat} {rest : List Char} (h : count > 1) :
    decodeChunk count bits ('=' :: rest) = decodePadding count bits '=' rest := by
  have hnone : inverseAlphabet '=' = none := by decide
  rw [decodeChunk, hnone]
  exact if_pos ⟨.inl rfl, h⟩

/-- **Decoding undoes encoding.** -/
theorem base64UrlDecode_encode (bytes : List UInt8) : base64UrlDecode (base64UrlEncode bytes) = .ok bytes := by
  simp only [base64UrlDecode, base64UrlEncode, Base64.Alphabet.encode, List.length_map]
  induction bytes using Base64.sextets.induct with
  | case1 => rfl
  | case2 a =>
    have ha := a.toNat_lt
    have hpadding : List.replicate ((0 + 1 + 1 + 3) / 4 * 4 - (0 + 1 + 1)) '=' = ['=', '='] := rfl
    simp only [Base64.sextets, List.map_cons, List.map_nil, List.length_cons, List.length_nil, hpadding,
      List.cons_append, List.nil_append]
    rw [decodeChunk_pending (by decide) (by decide) (by omega), decodeChunk_pending (by decide) (by omega) (by omega),
      decodeChunk_padding (by decide), ← decodePadding_one a]
    exact congrArg (decodePadding 2 · '=' ['=']) (by omega)
  | case3 a b =>
    have ha := a.toNat_lt
    have hb := b.toNat_lt
    have hpadding : List.replicate ((0 + 1 + 1 + 1 + 3) / 4 * 4 - (0 + 1 + 1 + 1)) '=' = ['='] := rfl
    simp only [Base64.sextets, List.map_cons, List.map_nil, List.length_cons, List.length_nil, hpadding,
      List.cons_append, List.nil_append]
    rw [decodeChunk_pending (by decide) (by decide) (by omega), decodeChunk_pending (by decide) (by omega) (by omega),
      decodeChunk_pending (by decide) (by omega) (by omega), decodeChunk_padding (by decide), ← decodePadding_two a b]
    exact congrArg (decodePadding 3 · '=' []) (by omega)
  | case4 a b c rest ih =>
    have ha := a.toNat_lt
    have hb := b.toNat_lt
    have hc := c.toNat_lt
    -- a whole group does not change the padding
    have hpadding : ((Base64.sextets (a :: b :: c :: rest)).length + 3) / 4 * 4 -
        (Base64.sextets (a :: b :: c :: rest)).length =
          ((Base64.sextets rest).length + 3) / 4 * 4 - (Base64.sextets rest).length := by
      rw [Base64.sextets]
      simp only [List.length_cons]
      omega
    rw [hpadding]
    simp only [Base64.sextets, List.map_cons, List.cons_append]
    rw [decodeChunk_pending (by decide) (by decide) (by omega), decodeChunk_pending (by decide) (by omega) (by omega),
      decodeChunk_pending (by decide) (by omega) (by omega)]
    exact decodeChunk_full (by omega) (by omega) (by omega) ih

/-! ### The scheme is long enough -/

/-- No character becomes two characters of ASCII in lower case. Unicode has one that
becomes two at all: U+0130, an `i` and a combining dot. -/
def LowersSingly (other : Char → List Char) : Prop :=
  ∀ c x y rest, other c = x :: y :: rest → x.toNat < 128 → 128 ≤ y.toNat

/-- A text is not shorter than an ASCII prefix of its lower case. -/
theorem length_le_of_toLowerCase {other : Char → List Char} (hother : LowersSingly other) {p s : List Char}
    (hp : ∀ c ∈ p, c.toNat < 128) (h : p <+: toLowerCase other s) : p.length ≤ s.length := by
  induction s generalizing p with
  | nil => rw [List.prefix_nil.mp h]
  | cons c s ih =>
    cases p with
    | nil => exact Nat.zero_le _
    | cons d p =>
      have hd := hp d List.mem_cons_self
      have hp' : ∀ e ∈ p, e.toNat < 128 := fun e he => hp e (List.mem_cons_of_mem d he)
      rw [toLowerCase, List.flatMap_cons, ← toLowerCase] at h
      -- how many characters `c` becomes
      generalize hchars : (if c.toNat < 128 then [c.toLower] else other c) = chars at h
      cases chars with
      | nil => exact Nat.le_succ_of_le (ih hp h)
      | cons x chars =>
        obtain ⟨rfl, htail⟩ := List.cons_prefix_cons.mp h
        cases chars with
        | nil => exact Nat.succ_le_succ (ih hp' htail)
        | cons y chars =>
          have hother' : other c = d :: y :: chars := by
            by_cases hc : c.toNat < 128
            · simp [if_pos hc] at hchars
            · rwa [if_neg hc] at hchars
          cases p with
          | nil => exact Nat.succ_le_succ (Nat.zero_le _)
          | cons e p =>
            obtain ⟨rfl, -⟩ := List.cons_prefix_cons.mp htail
            have hy := hother c d e chars hother' hd
            have he := hp' e List.mem_cons_self
            omega

theorem scheme_ascii : ∀ c ∈ pairingUriScheme, c.toNat < 128 := forall_mem_of_all (by decide)

theorem length_le_lengthOf (s : List Char) : s.length ≤ lengthOf s := by
  induction s with
  | nil => exact Nat.zero_le _
  | cons c s ih =>
    rw [lengthOf] at ih ⊢
    rw [List.map_cons, List.sum_cons, List.length_cons]
    have hc : 1 ≤ codeUnits c := by
      unfold codeUnits
      split <;> omega
    omega

/-! ### What is thrown -/

/-- Only the two exceptions that are caught. -/
def Caught {α : Type} (result : Except DecodeFailure α) : Prop := result ≠ .error .range

section Caught
variable {α : Type}

theorem caught_ok (a : α) : Caught (.ok a) := by
  intro h
  cases h

theorem caught_payload (error : PairingPayloadDecodeError) (detail : String) :
    Caught (.error (.payload error detail) : Except DecodeFailure α) := by
  intro h
  cases h

theorem caught_format (message : String) : Caught (.error (.format message) : Except DecodeFailure α) := by
  intro h
  cases h

end Caught

theorem Caught.bind {α β : Type} {x : Except DecodeFailure α} {f : α → Except DecodeFailure β} (hx : Caught x)
    (hf : ∀ a, Caught (f a)) : Caught (x >>= f) := by
  intro h
  obtain h | ⟨a, -, h⟩ := bind_eq_error.mp h
  · exact hx h
  · exact hf a h

theorem caught_orNull {result : Except DecodeFailure PairingPayload} (h : Caught result) :
    ∃ answer, orNull result = .ok answer := by
  cases result with
  | ok payload => exact ⟨_, rfl⟩
  | error failure =>
    cases failure with
    | payload error detail => exact ⟨_, rfl⟩
    | format message => exact ⟨_, rfl⟩
    | range => exact absurd rfl h

theorem caught_withoutScheme {other : Char → List Char} (hother : LowersSingly other) (text : List Char) :
    Caught (withoutScheme other text) := by
  unfold withoutScheme
  split
  · next hscheme =>
    have hlength := length_le_of_toLowerCase hother scheme_ascii (List.isPrefixOf_iff_prefix.mp hscheme)
    have hunits := length_le_lengthOf text
    rw [substring, if_neg (by omega)]
    exact caught_ok _
  · exact caught_ok _

theorem caught_checkPadding (expectedPadding : Nat) (cs : List Char) : Caught (checkPadding expectedPadding cs) := by
  induction cs generalizing expectedPadding with
  | nil => exact caught_ok _
  | cons c rest ih =>
    rw [checkPadding]
    split_ifs
    · exact ih 0
    · exact ih 2
    · exact ih _
    · exact ih _
    · exact caught_format _

theorem caught_decodePadding (count bits : Nat) (c : Char) (rest : List Char) :
    Caught (decodePadding count bits c rest) := by
  intro h
  simp only [decodePadding, guard_eq_error, bind_eq_error] at h
  obtain ⟨-, h⟩ | ⟨-, h | ⟨missing, -, ⟨-, h⟩ | ⟨-, h⟩⟩⟩ := h
  · cases h
  · exact caught_checkPadding _ _ h
  · cases h
  · cases h

theorem caught_decodeChunk (count bits : Nat) (cs : List Char) : Caught (decodeChunk count bits cs) := by
  induction cs generalizing count bits with
  | nil =>
    rw [decodeChunk]
    split_ifs
    · exact caught_ok _
    · exact caught_format _
  | cons c rest ih =>
    rw [decodeChunk]
    split
    · split_ifs
      · exact (ih 0 0).bind fun bytes => caught_ok _
      · exact ih _ _
    · split_ifs
      · exact caught_decodePadding count bits c rest
      · exact caught_format _

theorem caught_crockfordDecode (other : Char → List Char) (buffer : BitVec 64) (bits i : Nat) (cs : List Char) :
    Caught (crockfordDecodeFrom other buffer bits i cs) := by
  induction cs generalizing buffer bits i with
  | nil => exact caught_ok _
  | cons c rest ih =>
    rw [crockfordDecodeFrom]
    split
    · exact caught_payload _ _
    · split_ifs
      · exact (ih _ _ _).bind fun bytes => caught_ok _
      · exact ih _ _ _

end MagicShare.Pairing
