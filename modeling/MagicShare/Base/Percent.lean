import MagicShare.Base.Query

/-! Percent coding of bytes, strictly.

Some characters stand for themselves; any other byte is written as `%` and two digits. The
reader takes any character below 128 for its byte, and nothing else but well-formed
escapes. It reads back what is written, whatever follows (`decode_encode_append`). -/
namespace Percent

/-- `none` for a character that is not ASCII, and for a `%` that no two digits follow. -/
def decode : List Char → Option (List UInt8)
  | [] => some []
  | c :: rest =>
    if c.toNat > 127 then none
    else if c = '%' then
      match rest with
      | x :: y :: rest =>
        match Query.hexByte x y with
        | some b => (decode rest).map (b :: ·)
        | none => none
      | _ => none
    else (decode rest).map (UInt8.ofNat c.toNat :: ·)

/-- The characters that stand for themselves. -/
structure Unreserved where
  keeps : Char → Bool
  ascii : ∀ c, keeps c = true → c.toNat ≤ 127
  percent : keeps '%' = false

def hexDigit (n : Nat) : Char := Char.ofNat (if n < 10 then '0'.toNat + n else 'A'.toNat + n - 10)

def encodeByte (unreserved : Unreserved) (b : UInt8) : List Char :=
  if unreserved.keeps (Char.ofNat b.toNat) then [Char.ofNat b.toNat]
  else ['%', hexDigit (b.toNat / 16), hexDigit (b.toNat % 16)]

def encode (unreserved : Unreserved) (bytes : List UInt8) : List Char := bytes.flatMap (encodeByte unreserved)

/-! ### What is written is read back -/

theorem decode_plain {c : Char} (hascii : c.toNat ≤ 127) (hpercent : c ≠ '%') (rest : List Char) :
    decode (c :: rest) = (decode rest).map (UInt8.ofNat c.toNat :: ·) := by
  rw [decode.eq_def]
  simp only
  rw [if_neg (Nat.not_lt.mpr hascii), if_neg hpercent]

theorem decode_escape {x y : Char} {b : UInt8} (h : Query.hexByte x y = some b) (rest : List Char) :
    decode ('%' :: x :: y :: rest) = (decode rest).map (b :: ·) := by
  rw [decode.eq_def]
  simp only [h]
  rw [if_neg (by decide), if_pos trivial]

theorem hexByte_hexDigit (b : UInt8) : Query.hexByte (hexDigit (b.toNat / 16)) (hexDigit (b.toNat % 16)) = some b := by
  have hall : ∀ n < 256, Query.hexByte (hexDigit (n / 16)) (hexDigit (n % 16)) = some (UInt8.ofNat n) := by
    decide +kernel
  rw [hall b.toNat b.toNat_lt, UInt8.ofNat_toNat]

theorem toNat_ofNat (b : UInt8) : (Char.ofNat b.toNat).toNat = b.toNat := by
  have hall : ∀ n < 256, (Char.ofNat n).toNat = n := by decide +kernel
  exact hall b.toNat b.toNat_lt

theorem decode_encodeByte (unreserved : Unreserved) (b : UInt8) (rest : List Char) :
    decode (encodeByte unreserved b ++ rest) = (decode rest).map (b :: ·) := by
  rw [encodeByte]
  split
  · next hkeeps =>
    have hpercent : Char.ofNat b.toNat ≠ '%' := by
      intro heq
      rw [heq, unreserved.percent] at hkeeps
      cases hkeeps
    rw [List.singleton_append, decode_plain (unreserved.ascii _ hkeeps) hpercent, toNat_ofNat, UInt8.ofNat_toNat]
  · exact decode_escape (hexByte_hexDigit b) rest

/-- Bytes that are written are read back in front of any text. -/
theorem decode_encode_append (unreserved : Unreserved) (bytes : List UInt8) (rest : List Char) :
    decode (encode unreserved bytes ++ rest) = (decode rest).map (bytes ++ ·) := by
  induction bytes with
  | nil => simp [encode]
  | cons b bytes ih =>
    rw [encode, List.flatMap_cons, List.append_assoc, decode_encodeByte, ← encode, ih, Option.map_map]
    rfl

theorem decode_encode (unreserved : Unreserved) (bytes : List UInt8) :
    decode (encode unreserved bytes) = some bytes := by
  have happend := decode_encode_append unreserved bytes []
  rw [List.append_nil] at happend
  rw [happend, decode, Option.map_some, List.append_nil]

/-- A text that can be read is read in front of any other. -/
theorem decode_append {s : List Char} {bytes : List UInt8} (h : decode s = some bytes) (rest : List Char) :
    decode (s ++ rest) = (decode rest).map (bytes ++ ·) := by
  induction s using decode.induct generalizing bytes with
  | case1 =>
    obtain rfl := Option.some.inj h
    simp
  | case2 c s hascii =>
    rw [decode.eq_def] at h
    simp [hascii] at h
  | case3 x y s b hbyte _ ih =>
    rw [decode_escape hbyte] at h
    obtain ⟨bytes, hs, rfl⟩ := Option.map_eq_some_iff.mp h
    rw [List.cons_append, List.cons_append, List.cons_append, decode_escape hbyte, ih hs, Option.map_map]
    rfl
  | case4 x y s hbyte hascii =>
    rw [decode.eq_def] at h
    simp [hbyte] at h
  | case5 s hshort hascii =>
    rw [decode.eq_def] at h
    simp at h
  | case6 c s hascii hpercent ih =>
    have hle : c.toNat ≤ 127 := Nat.not_lt.mp hascii
    rw [decode_plain hle hpercent] at h
    obtain ⟨bytes, hs, rfl⟩ := Option.map_eq_some_iff.mp h
    rw [List.cons_append, decode_plain hle hpercent, ih hs, Option.map_map]
    rfl

end Percent
