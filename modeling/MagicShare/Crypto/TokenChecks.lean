import MagicShare.Crypto.Token

/-! What peers can make of the token checks.

A token comes from the peer as it is, so the checks should answer on every text, and yes
only to five genuine parts. They do unless a text has too few parts, has more after five
good ones, or is dated after the clock in a build that checks its arithmetic
(`token_verification_iff`). The window of an hour is kept exactly for the tokens that
are not dated after the clock (`timestamp_window_iff`). -/
namespace MagicShare.Crypto
open Base64 Fallible

variable {sha256 : Bytes → Bytes} {publicKey : VerifyingTokenKey} {token : String} {nonce : Bytes}
  {build : Build} {clock : Clock} {salt : Bytes}

/-! ### The checks of the salt -/

theorem nonceSalt_eq_ok : nonceSalt nonce salt = .ok () ↔ salt = nonce := by
  unfold nonceSalt
  by_cases h : salt = nonce <;> simp [h]

theorem nonceSalt_ne_panic (message : String) : nonceSalt nonce salt ≠ .error (.panic message) := by
  unfold nonceSalt
  by_cases h : salt = nonce <;> simp [h]

theorem unixTimestampU64_eq_ok {now : UInt64} : unixTimestampU64 clock = .ok now ↔ clock = some now := by
  cases clock <;> simp [unixTimestampU64]

theorem unixTimestampU64_ne_panic (message : String) : unixTimestampU64 clock ≠ .error (.panic message) := by
  cases clock <;> simp [unixTimestampU64]

/-- The difference, unless that is noticed to be negative. -/
theorem subU64_eq_ok {a b c : UInt64} :
    subU64 build a b = .ok c ↔ (build = .checked → b ≤ a) ∧ c = a - b := by
  cases build with
  | checked =>
    by_cases h : a < b
    · simp [subU64, h, UInt64.not_le.mpr h]
    · simp [subU64, h, UInt64.not_lt.mp h, eq_comm]
  | wrapping => simp [subU64, eq_comm]

theorem subU64_eq_panic {a b : UInt64} :
    (∃ message, subU64 build a b = .error (.panic message)) ↔ build = .checked ∧ a < b := by
  cases build with
  | checked => by_cases h : a < b <;> simp [subU64, h]
  | wrapping => simp [subU64]

/-- Eight bytes that pass as a time of the last hour. -/
def Recent (build : Build) (clock : Clock) (salt : Bytes) : Prop :=
  salt.length = 8 ∧ ∃ now, clock = some now ∧ (build = .checked → u64FromLeBytes salt ≤ now) ∧
    now - u64FromLeBytes salt ≤ 60 * 60

theorem timestampSalt_eq_ok : timestampSalt build clock salt = .ok () ↔ Recent build clock salt := by
  simp only [timestampSalt, Recent, bind_eq_ok, guard_eq_ok, not_not, unixTimestampU64_eq_ok, subU64_eq_ok]
  refine and_congr_right fun _ => exists_congr fun now => and_congr_right fun _ => ?_
  constructor
  · rintro ⟨age, ⟨hbuild, rfl⟩, hage⟩
    refine ⟨hbuild, ?_⟩
    by_contra hgt
    rw [if_pos (UInt64.not_le.mp hgt)] at hage
    cases hage
  · rintro ⟨hbuild, hage⟩
    refine ⟨_, ⟨hbuild, rfl⟩, ?_⟩
    rw [if_neg (UInt64.not_lt.mpr hage)]
    rfl

/-- Eight bytes that are a time after the clock, where that is noticed. -/
def Ahead (build : Build) (clock : Clock) (salt : Bytes) : Prop :=
  salt.length = 8 ∧ build = .checked ∧ ∃ now, clock = some now ∧ now < u64FromLeBytes salt

theorem timestampSalt_eq_panic :
    (∃ message, timestampSalt build clock salt = .error (.panic message)) ↔ Ahead build clock salt := by
  have hage : ∀ (age : UInt64) (message : String),
      (if age > 60 * 60 then throw (.err "Fingerprint timestamp expired") else pure () :
        Except TokenFailure Unit) ≠ .error (.panic message) := by
    intro age message
    split
    · exact fun h => by cases h
    · exact fun h => by cases h
  simp only [timestampSalt, Ahead, bind_eq_error, guard_eq_error, not_not, reduceCtorEq, and_false, false_or,
    unixTimestampU64_eq_ok, unixTimestampU64_ne_panic, hage, exists_false, or_false, exists_and_left]
  refine and_congr_right fun _ => ?_
  constructor
  · rintro ⟨message, now, hclock, hpanic⟩
    obtain ⟨hbuild, hlt⟩ := subU64_eq_panic.mp ⟨message, hpanic⟩
    exact ⟨hbuild, now, hclock, hlt⟩
  · rintro ⟨hbuild, now, hclock, hlt⟩
    obtain ⟨message, hpanic⟩ := subU64_eq_panic.mpr ⟨hbuild, hlt⟩
    exact ⟨message, now, hclock, hpanic⟩

/-! ### The two checks -/

theorem verifyTokenNonce_eq_true : verifyTokenNonce sha256 publicKey token nonce = .value true ↔
    Genuine sha256 publicKey ((tokenParts token).take 5) nonce := by
  simp only [verifyTokenNonce, isOk_eq_true, verifyTokenWithResult_eq_ok, nonceSalt_eq_ok, exists_eq_right]

theorem verifyTokenNonce_panics :
    (∃ message, verifyTokenNonce sha256 publicKey token nonce = .panicked message) ↔
      (tokenParts token).length < 5 := by
  simp only [verifyTokenNonce, isOk_eq_panicked, verifyTokenWithResult_eq_panic, nonceSalt_ne_panic, and_false,
    exists_false, or_false]

theorem verifyTokenTimestamp_eq_true : verifyTokenTimestamp sha256 build clock publicKey token = .value true ↔
    ∃ salt, Genuine sha256 publicKey ((tokenParts token).take 5) salt ∧ Recent build clock salt := by
  simp only [verifyTokenTimestamp, isOk_eq_true, verifyTokenWithResult_eq_ok, timestampSalt_eq_ok]

theorem verifyTokenTimestamp_panics :
    (∃ message, verifyTokenTimestamp sha256 build clock publicKey token = .panicked message) ↔
      (tokenParts token).length < 5 ∨
        ∃ salt, Announces publicKey ((tokenParts token).take 5) salt ∧ Ahead build clock salt := by
  simp only [verifyTokenTimestamp, isOk_eq_panicked, verifyTokenWithResult_eq_panic, exists_and_left,
    timestampSalt_eq_panic]

/-- An answer as it should be: given without a panic, and yes only to five genuine parts. -/
def Sound (sha256 : Bytes → Bytes) (publicKey : VerifyingTokenKey) (token : String) (answer : Answer) : Prop :=
  (¬∃ message, answer = .panicked message) ∧
    (answer = .value true → ∃ salt, Genuine sha256 publicKey (tokenParts token) salt)

/-- What the checks rely on: five parts and not more after five good ones, and in a
checked build no date after the clock. -/
structure Checkable (sha256 : Bytes → Bytes) (publicKey : VerifyingTokenKey) (token : String) (nonce : Bytes)
    (build : Build) (clock : Clock) : Prop where
  enough : 5 ≤ (tokenParts token).length
  noMore : (tokenParts token).length = 5 ∨ ∀ salt, Genuine sha256 publicKey ((tokenParts token).take 5) salt →
    salt ≠ nonce ∧ ¬Recent build clock salt
  notAhead : ∀ salt, Announces publicKey ((tokenParts token).take 5) salt → ¬Ahead build clock salt

/-- Five good parts are all there is exactly if there are no more. -/
theorem genuine_all_iff (h : Genuine sha256 publicKey ((tokenParts token).take 5) salt) :
    (∃ salt, Genuine sha256 publicKey (tokenParts token) salt) ↔ (tokenParts token).length = 5 := by
  constructor
  · rintro ⟨other, hother⟩
    exact hother.length
  · intro hfive
    rw [List.take_of_length_le (by omega)] at h
    exact ⟨salt, h⟩

/-- **When the checks are total and exact.** -/
theorem token_verification_iff (sha256 : Bytes → Bytes) (publicKey : VerifyingTokenKey) (token : String)
    (nonce : Bytes) (build : Build) (clock : Clock) :
    (Sound sha256 publicKey token (verifyTokenNonce sha256 publicKey token nonce) ∧
      Sound sha256 publicKey token (verifyTokenTimestamp sha256 build clock publicKey token)) ↔
    Checkable sha256 publicKey token nonce build clock := by
  simp only [Sound, verifyTokenNonce_panics, verifyTokenNonce_eq_true, verifyTokenTimestamp_panics,
    verifyTokenTimestamp_eq_true, not_or]
  constructor
  · rintro ⟨⟨henough, hnonce⟩, ⟨-, hahead⟩, htime⟩
    refine ⟨by omega, ?_, fun salt hsalt h => hahead ⟨salt, hsalt, h⟩⟩
    by_cases hfive : (tokenParts token).length = 5
    · exact .inl hfive
    · refine .inr fun salt hgenuine => ⟨?_, fun hrecent => ?_⟩
      · rintro rfl
        exact hfive ((genuine_all_iff hgenuine).mp (hnonce hgenuine))
      · exact hfive ((genuine_all_iff hgenuine).mp (htime ⟨salt, hgenuine, hrecent⟩))
  · rintro ⟨henough, hmore, hahead⟩
    refine ⟨⟨by omega, fun hgenuine => ?_⟩, ⟨by omega, fun h => ?_⟩, ?_⟩
    · obtain hfive | hmore := hmore
      · exact (genuine_all_iff hgenuine).mpr hfive
      · exact absurd rfl (hmore nonce hgenuine).1
    · obtain ⟨salt, hsalt, h⟩ := h
      exact hahead salt hsalt h
    · rintro ⟨salt, hgenuine, hrecent⟩
      obtain hfive | hmore := hmore
      · exact (genuine_all_iff hgenuine).mpr hfive
      · exact absurd hrecent (hmore salt hgenuine).2

/-! ### The window -/

/-- The age of a token is what the subtraction says when it is not negative. -/
theorem subU64_exact_iff {now date : UInt64} :
    (∃ age, subU64 build now date = .ok age ∧ (age.toNat : Int) = now.toNat - date.toNat) ↔ date ≤ now := by
  simp only [subU64_eq_ok, UInt64.le_iff_toNat_le]
  constructor
  · rintro ⟨age, -, hage⟩
    omega
  · intro hle
    refine ⟨now - date, ⟨fun _ => hle, rfl⟩, ?_⟩
    rw [UInt64.toNat_sub_of_le now date (UInt64.le_iff_toNat_le.mpr hle)]
    omega

/-- **The window of an hour.** For a token that is otherwise good, the subtraction is
exact and the answer is yes exactly within the hour after its date, if and only if its
date is not after the clock. -/
theorem timestamp_window_iff (sha256 : Bytes → Bytes) (publicKey : VerifyingTokenKey) (token : String)
    (salt : Bytes) (hgenuine : Genuine sha256 publicKey ((tokenParts token).take 5) salt)
    (hsalt : salt.length = 8) (build : Build) (clock : Clock) :
    ((∀ now, clock = some now → ∃ age, subU64 build now (u64FromLeBytes salt) = .ok age ∧
        (age.toNat : Int) = now.toNat - (u64FromLeBytes salt).toNat) ∧
      (verifyTokenTimestamp sha256 build clock publicKey token = .value true ↔
        ∃ now, clock = some now ∧ (u64FromLeBytes salt).toNat ≤ now.toNat ∧
          now.toNat ≤ (u64FromLeBytes salt).toNat + 3600)) ↔
    ∀ now, clock = some now → u64FromLeBytes salt ≤ now := by
  constructor
  · rintro ⟨hexact, -⟩ now hnow
    exact subU64_exact_iff.mp (hexact now hnow)
  · intro hdate
    refine ⟨fun now hnow => subU64_exact_iff.mpr (hdate now hnow), ?_⟩
    have hone : (∃ s, Genuine sha256 publicKey ((tokenParts token).take 5) s ∧ Recent build clock s) ↔
        Recent build clock salt := by
      constructor
      · rintro ⟨s, hs, hrecent⟩
        rwa [hgenuine.announces.unique hs.announces]
      · exact fun hrecent => ⟨salt, hgenuine, hrecent⟩
    rw [verifyTokenTimestamp_eq_true, hone, Recent, and_iff_right hsalt]
    refine exists_congr fun now => and_congr_right fun hnow => ?_
    have hle := hdate now hnow
    have hage : (now - u64FromLeBytes salt).toNat = now.toNat - (u64FromLeBytes salt).toNat :=
      UInt64.toNat_sub_of_le now _ hle
    rw [UInt64.le_iff_toNat_le] at hle
    rw [UInt64.le_iff_toNat_le, UInt64.le_iff_toNat_le, hage, show (60 * 60 : UInt64).toNat = 3600 from rfl]
    constructor
    · rintro ⟨-, h⟩
      exact ⟨hle, by omega⟩
    · rintro ⟨-, h⟩
      exact ⟨fun _ => hle, by omega⟩

/-! ### A token of 14 November 2023 -/

/-- The DER form of a public key, and what the libraries compute for a token of it. -/
def sampleDer : Bytes :=
  [48, 42, 48, 5, 6, 3, 43, 101, 112, 3, 33, 0, 215, 90, 152, 1, 130, 177, 10, 183, 213, 75, 254, 211, 201, 100,
    7, 58, 14, 225, 114, 243, 218, 166, 35, 37, 175, 2, 26, 104, 247, 7, 81, 26]

/-- 1700000000 seconds. -/
def sampleSalt : Bytes := [0, 241, 83, 101, 0, 0, 0, 0]

def sampleDigest : Bytes :=
  [101, 161, 151, 184, 92, 89, 26, 112, 191, 119, 206, 55, 85, 187, 32, 90, 13, 12, 4, 14, 184, 82, 2, 182, 102, 18,
    156, 216, 20, 196, 187, 103]

def sampleSignature : Bytes :=
  [89, 230, 77, 79, 192, 27, 202, 86, 154, 242, 35, 151, 231, 212, 2, 227, 171, 51, 206, 111, 111, 131, 121, 113, 106,
    172, 194, 90, 94, 144, 62, 82, 73, 46, 5, 45, 106, 127, 54, 126, 196, 141, 161, 200, 187, 60, 66, 177, 235, 67, 28,
    161, 97, 100, 190, 167, 88, 70, 11, 177, 16, 4, 245, 8]

def sampleSha256 (input : Bytes) : Bytes := if input = sampleDer ++ sampleSalt then sampleDigest else []

/-- The signature library with that key. -/
def sampleLib : Ed25519 Unit Unit where
  verifyingKey key := key
  sign _ msg := if msg = sampleDigest then sampleSignature else msg
  verify _ msg signature := signature = if msg = sampleDigest then sampleSignature else msg
  toPublicKeyDer _ := .ok sampleDer

theorem sampleLib_correct : sampleLib.Correct :=
  ⟨fun _ _ => decide_eq_true rfl, fun _ => ⟨sampleDer, rfl⟩⟩

def sampleKey : VerifyingTokenKey := toVerifyingKey sampleLib ()

/-- `sha256`, `ZaGXuFxZGnC_d843VbsgWg0MBA64UgK2ZhKc2BTEu2c`, `APFTZQAAAAA`, `ed25519` and
a signature that begins with `WeZNT8Abylaa8iOX59QC46szzm9vg3lx`. -/
def sampleParts : List (List Char) :=
  ["sha256".toList, urlSafe.encode sampleDigest, urlSafe.encode sampleSalt, "ed25519".toList,
    urlSafe.encode sampleSignature]

/-- The parts and those that follow, with dots between them. -/
def sampleToken (more : List (List Char)) : String :=
  String.ofList (List.intercalate ['.'] (sampleParts ++ more))

theorem tokenParts_sampleToken {more : List (List Char)} (hmore : ∀ part ∈ more, '.' ∉ part) :
    tokenParts (sampleToken more) = sampleParts ++ more := by
  refine tokenParts_intercalate (fun part hpart => ?_) (by simp [sampleParts])
  obtain hpart | hpart := List.mem_append.mp hpart
  · exact generated_no_dots _ _ _ part hpart
  · exact hmore part hpart

theorem sampleToken_genuine {more : List (List Char)} (hmore : ∀ part ∈ more, '.' ∉ part) :
    Genuine sampleSha256 sampleKey ((tokenParts (sampleToken more)).take 5) sampleSalt := by
  rw [tokenParts_sampleToken hmore, show (sampleParts ++ more).take 5 = sampleParts from rfl]
  exact genuine_of_sign sampleSha256 sampleLib_correct () rfl sampleSalt

/-- A text without dots ends in a panic, and a sixth part is not noticed. -/
theorem token_verification_parts :
    verifyTokenNonce sampleSha256 sampleKey "token" sampleSalt =
      .panicked "range end index 5 out of range for slice of length 1" ∧
    (tokenParts (sampleToken ["more".toList])).length = 6 ∧
    verifyTokenNonce sampleSha256 sampleKey (sampleToken ["more".toList]) sampleSalt = .value true := by
  have hmore : ∀ part ∈ ["more".toList], '.' ∉ part := by decide
  refine ⟨by decide +kernel, ?_, ?_⟩
  · rw [tokenParts_sampleToken hmore]
    rfl
  · exact verifyTokenNonce_eq_true.mpr (sampleToken_genuine hmore)

/-- A clock that is one second behind ends in a panic, or is taken for one that is almost
2^64 seconds ahead. -/
theorem timestamp_window_ahead :
    (∃ message, verifyTokenTimestamp sampleSha256 .checked (some 1699999999) sampleKey (sampleToken []) =
      .panicked message) ∧
    subU64 .wrapping 1699999999 (u64FromLeBytes sampleSalt) = .ok 18446744073709551615 := by
  refine ⟨verifyTokenTimestamp_panics.mpr (.inr ⟨sampleSalt, ?_, rfl, rfl, 1699999999, rfl, by decide⟩), by decide⟩
  exact (sampleToken_genuine (by simp)).announces

/-- A minute after its date the token is accepted. -/
theorem timestamp_window_minute :
    verifyTokenTimestamp sampleSha256 .checked (some 1700000060) sampleKey (sampleToken []) = .value true := by
  have h := timestamp_window_iff sampleSha256 sampleKey (sampleToken []) sampleSalt (sampleToken_genuine (by simp)) rfl
    .checked (some 1700000060)
  have hdate : ∀ now, some 1700000060 = some now → u64FromLeBytes sampleSalt ≤ now := by
    intro now hnow
    obtain rfl := Option.some.inj hnow
    decide
  exact (h.mpr hdate).2.mpr ⟨1700000060, rfl, by decide, by decide⟩

end MagicShare.Crypto
