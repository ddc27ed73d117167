import MagicShare.Base.Base64
import MagicShare.Base.Fallible

/-! Fingerprint tokens (`crypto/token.rs`).

A token is five texts with dots between them: the hash method, the hash of the public
key and a salt, the salt, the signature method and the signature of the hash. The salt
is the time the token was made or a nonce of the session. What the key and the hash
functions of the libraries do is a parameter; base64 is the URL-safe one without
padding.

`parts[0..5]` takes the first five parts: it panics when there are fewer and does not
look at more (`verifyTokenWithResult_eq_ok`, `verifyTokenWithResult_eq_panic`). -/
namespace MagicShare.Crypto
open Base64 Fallible

abbrev Bytes := List UInt8

/-! ### Keys -/

/-- `VerifyingTokenKey`; the signature is the bytes that were sent. -/
structure VerifyingTokenKey where
  verify : Bytes → Bytes → Bool
  toDer : Except String Bytes
  signatureMethod : String

/-- The signature library. -/
structure Ed25519 (Secret Public : Type) where
  verifyingKey : Secret → Public
  sign : Secret → Bytes → Bytes
  /-- `Signature::from_slice` and `verify`. -/
  verify : Public → Bytes → Bytes → Bool
  toPublicKeyDer : Public → Except String Bytes

section Keys
variable {Secret Public : Type} (lib : Ed25519 Secret Public)

def ed25519VerifyingKey (inner : Public) : VerifyingTokenKey where
  verify := lib.verify inner
  toDer := lib.toPublicKeyDer inner
  signatureMethod := "ed25519"

/-- `SigningTokenKey::to_verifying_key`. -/
def toVerifyingKey (key : Secret) : VerifyingTokenKey := ed25519VerifyingKey lib (lib.verifyingKey key)

/-- A signature is valid for what was signed, and a public key has a DER form. -/
structure Ed25519.Correct : Prop where
  verifies : ∀ key msg, lib.verify (lib.verifyingKey key) msg (lib.sign key msg) = true
  der : ∀ key, ∃ der, lib.toPublicKeyDer key = .ok der

end Keys

/-! ### Making a token -/

/-- Five texts with dots between them. -/
def formatToken (hashMethod hashBase64 saltBase64 signMethod signatureBase64 : List Char) : String :=
  String.ofList (List.intercalate ['.'] [hashMethod, hashBase64, saltBase64, signMethod, signatureBase64])

def generateTokenNonce {Secret Public : Type} (sha256 : Bytes → Bytes) (lib : Ed25519 Secret Public)
    (key : Secret) (salt : Bytes) : Except String String := do
  let publicKey ← lib.toPublicKeyDer (lib.verifyingKey key)
  let digest := sha256 (publicKey ++ salt)
  let signature := lib.sign key digest
  let hashMethod := "sha256".toList
  let hashBase64 := urlSafe.encode digest
  let saltBase64 := urlSafe.encode salt
  let signMethod := "ed25519".toList
  let signatureBase64 := urlSafe.encode signature
  return formatToken hashMethod hashBase64 saltBase64 signMethod signatureBase64

/-! ### Checking a token -/

/-- What ends a check early. -/
inductive TokenFailure
  | err (message : String)
  | panic (message : String)
  deriving DecidableEq

/-- What a call comes to. -/
inductive Answer
  | value (b : Bool)
  | panicked (message : String)
  deriving DecidableEq

/-- An error handed on by `?`. -/
def propagate {α : Type} : Except String α → Except TokenFailure α
  | .ok a => .ok a
  | .error message => .error (.err message)

/-- `is_ok`. -/
def isOk : Except TokenFailure Unit → Answer
  | .ok _ => .value true
  | .error (.err _) => .value false
  | .error (.panic message) => .panicked message

/-- `util::base64::decode`. -/
def base64Decode (data : List Char) : Except TokenFailure Bytes :=
  match urlSafe.decode data with
  | none => .error (.err "Invalid base64")
  | some bytes => .ok bytes

/-- `token.split('.')`. -/
def tokenParts (token : String) : List (List Char) := token.toList.splitOn '.'

/-- `parts[0..5]`. -/
def firstFive (parts : List (List Char)) : Except TokenFailure (List (List Char)) :=
  if 5 ≤ parts.length then .ok (parts.take 5)
  else .error (.panic s!"range end index 5 out of range for slice of length {parts.length}")

/-- The last part is a signature of the hash. -/
def verifySignature (publicKey : VerifyingTokenKey) (digest : Bytes) (signatureBase64 : List Char) :
    Except TokenFailure Unit :=
  match urlSafe.decode signatureBase64 with
  | none => .error (.err "Invalid signature base64 encoding")
  | some signature =>
    if publicKey.verify digest signature then .ok () else .error (.err "Invalid signature")

section Verify
variable (sha256 : Bytes → Bytes)

/-- What is checked of the five parts. -/
def verifyParts (publicKey : VerifyingTokenKey) (verifySalt : Bytes → Except TokenFailure Unit)
    (hashMethod hashBase64 saltBase64 signMethod signatureBase64 : List Char) :
    Except TokenFailure Unit := do
  if hashMethod ≠ "sha256".toList then throw (.err "Invalid hash method")
  if signMethod ≠ publicKey.signatureMethod.toList then throw (.err "Invalid sign method")
  let salt ← base64Decode saltBase64
  verifySalt salt
  let publicKeyDer ← propagate publicKey.toDer
  let digest := sha256 (publicKeyDer ++ salt)
  if urlSafe.encode digest ≠ hashBase64 then throw (.err "Hash mismatch")
  verifySignature publicKey digest signatureBase64

def verifyTokenWithResult (publicKey : VerifyingTokenKey) (token : String)
    (verifySalt : Bytes → Except TokenFailure Unit) : Except TokenFailure Unit := do
  match ← firstFive (tokenParts token) with
  | [hashMethod, hashBase64, saltBase64, signMethod, signatureBase64] =>
    verifyParts sha256 publicKey verifySalt hashMethod hashBase64 saltBase64 signMethod signatureBase64
  -- five elements always match
  | _ => throw (.err "Invalid structure")

def nonceSalt (nonce salt : Bytes) : Except TokenFailure Unit :=
  if salt ≠ nonce then .error (.err "Invalid nonce") else .ok ()

def verifyTokenNonce (publicKey : VerifyingTokenKey) (token : String) (nonce : Bytes) : Answer :=
  isOk (verifyTokenWithResult sha256 publicKey token (nonceSalt nonce))

/-! ### The time -/

/-- Whether arithmetic is checked for overflow. -/
inductive Build
  | checked
  | wrapping
  deriving DecidableEq

/-- `a - b` on `u64`. -/
def subU64 : Build → UInt64 → UInt64 → Except TokenFailure UInt64
  | .checked, a, b => if a < b then .error (.panic "attempt to subtract with overflow") else .ok (a - b)
  | .wrapping, a, b => .ok (a - b)

/-- `u64::from_le_bytes`. -/
def u64FromLeBytes (bytes : Bytes) : UInt64 :=
  UInt64.ofNat (bytes.foldr (fun b high => b.toNat + 256 * high) 0)

/-- `unix_timestamp_u64`; `none` when the clock stands before the epoch. -/
abbrev Clock := Option UInt64

def unixTimestampU64 (clock : Clock) : Except TokenFailure UInt64 :=
  match clock with
  | none => .error (.err "second time provided was later than self")
  | some now => .ok now

def timestampSalt (build : Build) (clock : Clock) (salt : Bytes) : Except TokenFailure Unit := do
  if salt.length ≠ 8 then throw (.err "Invalid salt length")
  let salt := u64FromLeBytes salt
  let nowSeconds ← unixTimestampU64 clock
  let age ← subU64 build nowSeconds salt
  if age > 60 * 60 then throw (.err "Fingerprint timestamp expired")

def verifyTokenTimestamp (build : Build) (clock : Clock) (publicKey : VerifyingTokenKey) (token : String) :
    Answer :=
  isOk (verifyTokenWithResult sha256 publicKey token (timestampSalt build clock))

/-! ### What is accepted -/

/-- Parts that come as far as the check of this salt. -/
def Announces (publicKey : VerifyingTokenKey) (parts : List (List Char)) (salt : Bytes) : Prop :=
  ∃ hashBase64 saltBase64 signatureBase64,
    parts = ["sha256".toList, hashBase64, saltBase64, publicKey.signatureMethod.toList, signatureBase64] ∧
    urlSafe.decode saltBase64 = some salt

/-- Five parts that are what they claim to be: the hash is that of the key and the salt,
and the signature is one of the hash. -/
def Genuine (publicKey : VerifyingTokenKey) (parts : List (List Char)) (salt : Bytes) : Prop :=
  ∃ hashBase64 saltBase64 signatureBase64 der signature,
    parts = ["sha256".toList, hashBase64, saltBase64, publicKey.signatureMethod.toList, signatureBase64] ∧
    urlSafe.decode saltBase64 = some salt ∧ publicKey.toDer = .ok der ∧
    hashBase64 = urlSafe.encode (sha256 (der ++ salt)) ∧
    urlSafe.decode signatureBase64 = some signature ∧
    publicKey.verify (sha256 (der ++ salt)) signature = true

end Verify

variable {sha256 : Bytes → Bytes} {publicKey : VerifyingTokenKey}

theorem propagate_eq_ok {α : Type} {x : Except String α} {a : α} : propagate x = .ok a ↔ x = .ok a := by
  cases x <;> simp [propagate]

theorem propagate_ne_panic {α : Type} (x : Except String α) (message : String) :
    propagate x ≠ .error (.panic message) := by
  cases x <;> simp [propagate]

theorem base64Decode_eq_ok {data : List Char} {bytes : Bytes} :
    base64Decode data = .ok bytes ↔ urlSafe.decode data = some bytes := by
  unfold base64Decode
  cases urlSafe.decode data <;> simp

theorem base64Decode_ne_panic (data : List Char) (message : String) :
    base64Decode data ≠ .error (.panic message) := by
  unfold base64Decode
  cases urlSafe.decode data <;> simp

theorem verifySignature_eq_ok {digest : Bytes} {signatureBase64 : List Char} :
    verifySignature publicKey digest signatureBase64 = .ok () ↔
      ∃ signature, urlSafe.decode signatureBase64 = some signature ∧
        publicKey.verify digest signature = true := by
  unfold verifySignature
  cases urlSafe.decode signatureBase64 with
  | none => simp
  | some signature => by_cases h : publicKey.verify digest signature <;> simp [h]

theorem verifySignature_ne_panic (digest : Bytes) (signatureBase64 : List Char) (message : String) :
    verifySignature publicKey digest signatureBase64 ≠ .error (.panic message) := by
  unfold verifySignature
  cases urlSafe.decode signatureBase64 with
  | none => simp
  | some signature => by_cases h : publicKey.verify digest signature <;> simp [h]

theorem Genuine.announces {parts : List (List Char)} {salt : Bytes} (h : Genuine sha256 publicKey parts salt) :
    Announces publicKey parts salt := by
  obtain ⟨hashBase64, saltBase64, signatureBase64, der, signature, hparts, hsalt, -⟩ := h
  exact ⟨hashBase64, saltBase64, signatureBase64, hparts, hsalt⟩

theorem Genuine.length {parts : List (List Char)} {salt : Bytes} (h : Genuine sha256 publicKey parts salt) :
    parts.length = 5 := by
  obtain ⟨hashBase64, saltBase64, signatureBase64, der, signature, rfl, -⟩ := h
  rfl

/-- The parts announce one salt. -/
theorem Announces.unique {parts : List (List Char)} {salt other : Bytes}
    (h : Announces publicKey parts salt) (h' : Announces publicKey parts other) : salt = other := by
  obtain ⟨hashBase64, saltBase64, signatureBase64, rfl, hsalt⟩ := h
  obtain ⟨_, _, _, hparts, hother⟩ := h'
  simp only [List.cons.injEq, true_and, and_true] at hparts
  rw [← hparts.2.1, hsalt] at hother
  exact Option.some.inj hother

theorem firstFive_of_le {parts : List (List Char)} (h : 5 ≤ parts.length) :
    firstFive parts = .ok (parts.take 5) := if_pos h

theorem firstFive_of_lt {parts : List (List Char)} (h : parts.length < 5) :
    firstFive parts = .error (.panic s!"range end index 5 out of range for slice of length {parts.length}") :=
  if_neg (by omega)

/-- The check of the five parts passes for what is genuine and has a salt that passes. -/
theorem verifyParts_eq_ok {verifySalt : Bytes → Except TokenFailure Unit}
    {hashMethod hashBase64 saltBase64 signMethod signatureBase64 : List Char} :
    verifyParts sha256 publicKey verifySalt hashMethod hashBase64 saltBase64 signMethod signatureBase64 = .ok () ↔
      ∃ salt, Genuine sha256 publicKey [hashMethod, hashBase64, saltBase64, signMethod, signatureBase64] salt ∧
        verifySalt salt = .ok () := by
  simp only [verifyParts, bind_eq_ok, guard_eq_ok, not_not, base64Decode_eq_ok, propagate_eq_ok,
    verifySignature_eq_ok]
  constructor
  · rintro ⟨rfl, rfl, salt, hsalt, _, hverify, der, hder, rfl, signature, hsignature, hvalid⟩
    exact ⟨salt, ⟨_, saltBase64, signatureBase64, der, signature, rfl, hsalt, hder, rfl, hsignature, hvalid⟩,
      hverify⟩
  · rintro ⟨salt, ⟨_, _, _, der, signature, hparts, hsalt, hder, hhash, hsignature, hvalid⟩, hverify⟩
    simp only [List.cons.injEq, and_true] at hparts
    obtain ⟨rfl, rfl, rfl, rfl, rfl⟩ := hparts
    exact ⟨rfl, rfl, salt, hsalt, (), hverify, der, hder, hhash.symm, signature, hsignature, hvalid⟩

/-- A check of the five parts panics only where the check of the salt does. -/
theorem verifyParts_eq_panic {verifySalt : Bytes → Except TokenFailure Unit}
    {hashMethod hashBase64 saltBase64 signMethod signatureBase64 : List Char} {message : String} :
    verifyParts sha256 publicKey verifySalt hashMethod hashBase64 saltBase64 signMethod signatureBase64 =
        .error (.panic message) ↔
      ∃ salt, Announces publicKey [hashMethod, hashBase64, saltBase64, signMethod, signatureBase64] salt ∧
        verifySalt salt = .error (.panic message) := by
  simp only [verifyParts, bind_eq_error, guard_eq_error, not_not, reduceCtorEq, and_false, false_or,
    base64Decode_eq_ok, base64Decode_ne_panic, propagate_ne_panic, verifySignature_ne_panic, exists_false,
    or_false]
  constructor
  · rintro ⟨rfl, rfl, salt, hsalt, hverify⟩
    exact ⟨salt, ⟨hashBase64, saltBase64, signatureBase64, rfl, hsalt⟩, hverify⟩
  · rintro ⟨salt, ⟨_, _, _, hparts, hsalt⟩, hverify⟩
    simp only [List.cons.injEq, and_true] at hparts
    obtain ⟨rfl, rfl, rfl, rfl, rfl⟩ := hparts
    exact ⟨rfl, rfl, salt, hsalt, hverify⟩

/-- Five elements are a list of five. -/
theorem take_five {parts : List (List Char)} (h : 5 ≤ parts.length) :
    ∃ a b c d e, parts.take 5 = [a, b, c, d, e] := by
  have hlength : (parts.take 5).length = 5 := by
    rw [List.length_take]
    omega
  obtain ⟨a, as, ha⟩ := List.exists_cons_of_length_eq_add_one hlength
  rw [ha] at hlength
  obtain ⟨b, bs, rfl⟩ := List.exists_cons_of_length_eq_add_one (Nat.succ.inj hlength)
  obtain ⟨c, cs, rfl⟩ := List.exists_cons_of_length_eq_add_one (Nat.succ.inj (Nat.succ.inj hlength))
  obtain ⟨d, ds, rfl⟩ :=
    List.exists_cons_of_length_eq_add_one (Nat.succ.inj (Nat.succ.inj (Nat.succ.inj hlength)))
  obtain ⟨e, es, rfl⟩ := List.exists_cons_of_length_eq_add_one
    (Nat.succ.inj (Nat.succ.inj (Nat.succ.inj (Nat.succ.inj hlength))))
  obtain rfl : es = [] := by simpa using hlength
  exact ⟨a, b, c, d, e, ha⟩

section Whole
variable {token : String} {verifySalt : Bytes → Except TokenFailure Unit}

/-- **What passes**: five parts that are genuine, whatever comes after them. -/
theorem verifyTokenWithResult_eq_ok :
    verifyTokenWithResult sha256 publicKey token verifySalt = .ok () ↔
      ∃ salt, Genuine sha256 publicKey ((tokenParts token).take 5) salt ∧ verifySalt salt = .ok () := by
  by_cases h : 5 ≤ (tokenParts token).length
  · obtain ⟨a, b, c, d, e, hfive⟩ := take_five h
    rw [verifyTokenWithResult, firstFive_of_le h, hfive]
    exact verifyParts_eq_ok
  · rw [verifyTokenWithResult, firstFive_of_lt (by omega)]
    refine iff_of_false (by simp [bind, Except.bind]) ?_
    rintro ⟨salt, hgenuine, -⟩
    have hlength := hgenuine.length
    rw [List.length_take] at hlength
    omega

/-- **What panics**: too few parts, or a salt whose check does. -/
theorem verifyTokenWithResult_eq_panic :
    (∃ message, verifyTokenWithResult sha256 publicKey token verifySalt = .error (.panic message)) ↔
      (tokenParts token).length < 5 ∨
        ∃ salt message, Announces publicKey ((tokenParts token).take 5) salt ∧
          verifySalt salt = .error (.panic message) := by
  by_cases h : 5 ≤ (tokenParts token).length
  · obtain ⟨a, b, c, d, e, hfive⟩ := take_five h
    rw [verifyTokenWithResult, firstFive_of_le h, hfive]
    constructor
    · rintro ⟨message, hpanic⟩
      obtain ⟨salt, hannounces, hverify⟩ := verifyParts_eq_panic.mp hpanic
      exact .inr ⟨salt, message, hannounces, hverify⟩
    · rintro (hlt | ⟨salt, message, hannounces, hverify⟩)
      · omega
      · exact ⟨message, verifyParts_eq_panic.mpr ⟨salt, hannounces, hverify⟩⟩
  · rw [verifyTokenWithResult, firstFive_of_lt (by omega)]
    exact iff_of_true ⟨_, rfl⟩ (.inl (by omega))

end Whole

theorem isOk_eq_true {x : Except TokenFailure Unit} : isOk x = .value true ↔ x = .ok () := by
  cases x with
  | ok u => exact iff_of_true rfl rfl
  | error e => cases e <;> simp [isOk]

theorem isOk_eq_panicked {x : Except TokenFailure Unit} {message : String} :
    isOk x = .panicked message ↔ x = .error (.panic message) := by
  cases x with
  | ok u => simp [isOk]
  | error e => cases e <;> simp [isOk]

/-! ### What is generated -/

theorem dot_not_mem_encode (bytes : Bytes) : '.' ∉ urlSafe.encode bytes :=
  fun h => absurd (urlSafe.mem_encode h) (by decide)

/-- Texts without a dot are the parts of the token they make. -/
theorem tokenParts_intercalate {parts : List (List Char)} (hdots : ∀ part ∈ parts, '.' ∉ part) (hne : parts ≠ []) :
    tokenParts (String.ofList (List.intercalate ['.'] parts)) = parts := by
  rw [tokenParts, String.toList_ofList]
  exact List.splitOn_intercalate '.' hdots hne

section Generated
variable {Secret Public : Type} (sha256 : Bytes → Bytes) {lib : Ed25519 Secret Public}

/-- A hash of the key and the salt with its signature makes five genuine parts, whatever
comes after them. -/
theorem genuine_of_sign (hlib : lib.Correct) (key : Secret) {der : Bytes}
    (hder : lib.toPublicKeyDer (lib.verifyingKey key) = .ok der) (salt : Bytes) :
    Genuine sha256 (toVerifyingKey lib key)
      ["sha256".toList, urlSafe.encode (sha256 (der ++ salt)), urlSafe.encode salt, "ed25519".toList,
        urlSafe.encode (lib.sign key (sha256 (der ++ salt)))] salt :=
  ⟨_, _, _, der, lib.sign key (sha256 (der ++ salt)), rfl, urlSafe.decode_encode salt, hder, rfl,
    urlSafe.decode_encode _, hlib.verifies key _⟩

theorem generated_no_dots (digest salt signature : Bytes) :
    ∀ part ∈ ["sha256".toList, urlSafe.encode digest, urlSafe.encode salt, "ed25519".toList,
      urlSafe.encode signature], '.' ∉ part := by
  simp only [List.mem_cons, List.not_mem_nil, or_false, forall_eq_or_imp, forall_eq]
  exact ⟨by decide, dot_not_mem_encode _, dot_not_mem_encode _, by decide, dot_not_mem_encode _⟩

/-- What is generated are five parts, genuine for their salt. -/
theorem generateTokenNonce_genuine (hlib : lib.Correct) (key : Secret) (salt : Bytes) :
    ∃ token, generateTokenNonce sha256 lib key salt = .ok token ∧
      Genuine sha256 (toVerifyingKey lib key) (tokenParts token) salt := by
  obtain ⟨der, hder⟩ := hlib.der (lib.verifyingKey key)
  refine ⟨_, by rw [generateTokenNonce, hder]; rfl, ?_⟩
  rw [formatToken, tokenParts_intercalate (generated_no_dots _ _ _) (List.cons_ne_nil _ _)]
  exact genuine_of_sign sha256 hlib key hder salt

end Generated

end MagicShare.Crypto
