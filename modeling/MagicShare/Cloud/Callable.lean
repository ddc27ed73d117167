import MagicShare.Base.Fallible
import MagicShare.Cloud.JoinOutcome

/-! `joinNetwork` as the app calls it: the checks of `auth.ts` and `validation.ts`
before `joinNetworkLogic`.

The app sends strings and enum names, so of the checks on the payload only those
on blanks and lengths can fail. A length counts UTF-16 code units. -/
namespace MagicShare.Cloud

def deviceIdMax : Nat := 128
def displayNameMax : Nat := 80
def fcmTokenMax : Nat := 4096
def tokenIdMax : Nat := 128

def utf16Length (s : String) : Nat :=
  s.toList.foldl (fun n c => n + if c.toNat < 0x10000 then 1 else 2) 0

/-- What JavaScript's `trim` removes. -/
def isJsSpace (c : Char) : Bool :=
  decide (c.toNat ∈ [0x20, 0xA0, 0x1680, 0x2028, 0x2029, 0x202F, 0x205F, 0x3000, 0xFEFF]) ||
    decide (9 ≤ c.toNat ∧ c.toNat ≤ 13) || decide (0x2000 ≤ c.toNat ∧ c.toNat ≤ 0x200A)

def fail {α : Type} (field reason : String) : Except Rejection α :=
  .error (.https .invalidArgument ("Invalid value for \"" ++ field ++ "\": " ++ reason ++ "."))

def assertNonEmptyString (value field : String) (max : Nat) : Except Rejection String :=
  if value.toList.all isJsSpace then fail field "must not be empty"
  else if utf16Length value > max then fail field s!"must be {max} characters or fewer"
  else .ok value

/-- A string that passes is returned as it is. -/
theorem assertNonEmptyString_ok {value field checked : String} {max : Nat}
    (h : assertNonEmptyString value field max = .ok checked) : checked = value := by
  simp only [assertNonEmptyString, fail] at h
  split_ifs at h
  exact (Except.ok.inj h).symm

def assertFcmToken : Option String → Except Rejection (Option String)
  | none => .ok none
  | some value =>
    if value.isEmpty then fail "fcmToken" "must not be empty"
    else if utf16Length value > fcmTokenMax then
      fail "fcmToken" s!"must be {fcmTokenMax} characters or fewer"
    else .ok (some value)

def assertNewDevice (nd : NewDevice) : Except Rejection NewDevice := do
  let displayName ← assertNonEmptyString nd.displayName "displayName" displayNameMax
  let fcmToken ← assertFcmToken nd.fcmToken
  return {nd with displayName := displayName, fcmToken := fcmToken}

/-- `db.doc(joinTokenPath(id))`. Firestore drops a slash at the end of a path; it
refuses an empty segment inside it and an odd number of segments. With four
segments or more the path names a document below another one (`none`). -/
def joinTokenRef (id : String) : Except Rejection (Option DocId) :=
  let parts := id.toList.splitOn '/'
  let segments := parts.filter fun part => !part.isEmpty
  if parts.dropLast.any List.isEmpty || segments.length % 2 == 0 then .error .documentPath
  else
    match segments with
    | [segment] =>
      if h : String.ofList segment ≠ "" ∧ '/' ∉ (String.ofList segment).toList then
        .ok (some ⟨String.ofList segment, h.1, h.2⟩)
      else .error .documentPath
    | _ => .ok none

/-- `parseJoinNetworkInput`, and the reference to the token. No function writes
below a token, so a longer path finds no document. -/
def parseJoinNetworkInput (tokenId : String) (deviceId : DocId) (newDevice : Option NewDevice) :
    Except Rejection JoinNetworkInput := do
  let tokenId ← assertNonEmptyString tokenId "tokenId" tokenIdMax
  let _ ← assertNonEmptyString deviceId.val "deviceId" deviceIdMax
  let newDevice ← newDevice.mapM assertNewDevice
  match ← joinTokenRef tokenId with
  | some token => return ⟨token, deviceId, newDevice⟩
  | none => throw (.https .notFound "Join token not found.")

/-- The input keeps the device id, and its token is the one the id names. -/
theorem parseJoinNetworkInput_ok {tokenId : String} {deviceId : DocId} {newDevice : Option NewDevice}
    {input : JoinNetworkInput} (h : parseJoinNetworkInput tokenId deviceId newDevice = .ok input) :
    joinTokenRef tokenId = .ok (some input.tokenId) ∧ input.deviceId = deviceId := by
  simp only [parseJoinNetworkInput, Fallible.bind_eq_ok] at h
  obtain ⟨checked, hchecked, _, _, newDevice', _, ref, href, h⟩ := h
  obtain rfl := assertNonEmptyString_ok hchecked
  cases ref with
  | none => cases h
  | some token =>
    obtain rfl := Except.ok.inj h
    exact ⟨href, rfl⟩

/-- The callable: `requireAuth`, the input, the logic. -/
def joinNetwork (env : JoinEnv) (auth : Option DocId) (tokenId : String) (deviceId : DocId)
    (newDevice : Option NewDevice) (s : Store) : Except Rejection JoinNetworkResult × Store :=
  match auth with
  | none => (.error (.https .unauthenticated "Caller must be signed in."), s)
  | some uid =>
    match parseJoinNetworkInput tokenId deviceId newDevice with
    | .error e => (.error e, s)
    | .ok input => joinNetworkLogic env uid input s

end MagicShare.Cloud
