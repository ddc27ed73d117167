import MagicShare.Base.Json
import MagicShare.Cloud.Callable
import MagicShare.Cloud.TransferNotify

/-! The inputs of the callables (`validation.ts`) and the paths made of them (`models.ts`).

An id is checked to be a string that is not blank and not too long; nothing is said
about the characters in it. The paths are put together with `/`, so an id with a slash
in it names a document somewhere else: below the collection it should be in, or in no
place a document can be. `ids_contained_iff` says which ids stay where they belong. -/
namespace MagicShare.Cloud.Validation
open Json Fallible

/-! ### Checks of one field -/

/-- A value that is absent is `undefined`. -/
def assertNonEmptyString (value : Option Value) (field : String) (max : Nat) : Except Rejection String :=
  match value with
  | some (.string s) => Cloud.assertNonEmptyString s field max
  | _ => fail field "expected a string"

def assertDeviceId (value : Option Value) : Except Rejection String :=
  assertNonEmptyString value "deviceId" deviceIdMax

def assertTokenId (value : Option Value) : Except Rejection String :=
  assertNonEmptyString value "tokenId" tokenIdMax

def assertDisplayName (value : Option Value) : Except Rejection String :=
  assertNonEmptyString value "displayName" displayNameMax

def assertSourceDeviceId (value : Option Value) : Except Rejection String :=
  assertNonEmptyString value "sourceDeviceId" deviceIdMax

def assertTargetDeviceId (value : Option Value) : Except Rejection String :=
  assertNonEmptyString value "targetDeviceId" deviceIdMax

/-- One of a list of names. -/
def assertOneOf {α : Type} (value : Option Value) (field : String) (names : List (String × α)) :
    Except Rejection α :=
  let refused := fail field ("expected one of " ++ ", ".intercalate (names.map (·.1)))
  match value with
  | some (.string s) =>
    match names.lookup s with
    | some a => .ok a
    | none => refused
  | _ => refused

def deviceIcons : List (String × DeviceIcon) :=
  [("laptop", .laptop), ("desktop", .desktop), ("phone", .phone), ("tablet", .tablet), ("server", .server),
    ("headless", .headless), ("other", .other)]

def devicePlatforms : List (String × DevicePlatform) :=
  [("android", .android), ("ios", .ios), ("macos", .macos), ("windows", .windows), ("linux", .linux)]

def transferKinds : List (String × TransferKind) := [("file", .file), ("text", .text), ("url", .url)]

def assertDeviceIcon (value : Option Value) : Except Rejection DeviceIcon := assertOneOf value "icon" deviceIcons

def assertDevicePlatform (value : Option Value) : Except Rejection DevicePlatform :=
  assertOneOf value "platform" devicePlatforms

def assertTransferKind (value : Option Value) : Except Rejection TransferKind :=
  assertOneOf value "kind" transferKinds

/-- A text or `null`; blanks are a text here. -/
def assertTextOrNull (value : Option Value) (field : String) (max : Nat) : Except Rejection (Option String) :=
  match value with
  | some .null => .ok none
  | some (.string s) =>
    if s.isEmpty then fail field "must not be empty"
    else if utf16Length s > max then fail field s!"must be {max} characters or fewer"
    else .ok (some s)
  | _ => fail field "expected a string or null"

def assertFcmToken (value : Option Value) : Except Rejection (Option String) :=
  assertTextOrNull value "fcmToken" fcmTokenMax

def fingerprintMax : Nat := 128

def assertFingerprint (value : Option Value) : Except Rejection (Option String) :=
  assertTextOrNull value "fingerprint" fingerprintMax

/-! ### Inputs -/

structure RegisterDeviceInput where
  deviceId : String
  displayName : String
  icon : DeviceIcon
  fcmToken : Option String
  platform : DevicePlatform
  /-- Absent when the payload leaves it out. -/
  fingerprint : Option (Option String)

structure RenameDeviceInput where
  deviceId : String
  displayName : String

structure SetDeviceIconInput where
  deviceId : String
  icon : DeviceIcon

structure RemoveDeviceInput where
  deviceId : String

structure CreateJoinTokenInput where
  issuingDeviceId : String

structure PreviewJoinTokenInput where
  tokenId : String

structure JoinNetworkInput where
  tokenId : String
  deviceId : String
  newDevice : Option NewDevice

structure NotifyTransferIntentInput where
  sourceDeviceId : String
  targetDeviceId : String
  kind : TransferKind

def asObject : Option Value → Except Rejection Entries
  | some (.object entries) => .ok entries
  | _ => .error (.https .invalidArgument "Expected a JSON object payload.")

def parseRegisterDeviceInput (raw : Option Value) : Except Rejection RegisterDeviceInput := do
  let obj ← asObject raw
  let deviceId ← assertDeviceId (member obj "deviceId")
  let displayName ← assertDisplayName (member obj "displayName")
  let icon ← assertDeviceIcon (member obj "icon")
  let fcmToken ← assertFcmToken (member obj "fcmToken")
  let platform ← assertDevicePlatform (member obj "platform")
  let fingerprint ← (member obj "fingerprint").mapM fun value => assertFingerprint (some value)
  return ⟨deviceId, displayName, icon, fcmToken, platform, fingerprint⟩

def parseRenameDeviceInput (raw : Option Value) : Except Rejection RenameDeviceInput := do
  let obj ← asObject raw
  let deviceId ← assertDeviceId (member obj "deviceId")
  let displayName ← assertDisplayName (member obj "displayName")
  return ⟨deviceId, displayName⟩

def parseSetDeviceIconInput (raw : Option Value) : Except Rejection SetDeviceIconInput := do
  let obj ← asObject raw
  let deviceId ← assertDeviceId (member obj "deviceId")
  let icon ← assertDeviceIcon (member obj "icon")
  return ⟨deviceId, icon⟩

def parseRemoveDeviceInput (raw : Option Value) : Except Rejection RemoveDeviceInput := do
  let obj ← asObject raw
  let deviceId ← assertDeviceId (member obj "deviceId")
  return ⟨deviceId⟩

def parseCreateJoinTokenInput (raw : Option Value) : Except Rejection CreateJoinTokenInput := do
  let obj ← asObject raw
  let issuingDeviceId ← assertNonEmptyString (member obj "issuingDeviceId") "issuingDeviceId" deviceIdMax
  return ⟨issuingDeviceId⟩

def parsePreviewJoinTokenInput (raw : Option Value) : Except Rejection PreviewJoinTokenInput := do
  let obj ← asObject raw
  let tokenId ← assertTokenId (member obj "tokenId")
  return ⟨tokenId⟩

def parseNewDevice (value : Option Value) : Except Rejection (Option NewDevice) :=
  match value with
  | none => .ok none
  | some .null => .ok none
  | some (.object nd) => do
    let displayName ← assertDisplayName (member nd "displayName")
    let icon ← assertDeviceIcon (member nd "icon")
    let fcmToken ← assertFcmToken (member nd "fcmToken")
    let platform ← assertDevicePlatform (member nd "platform")
    return some ⟨displayName, icon, fcmToken, platform⟩
  | _ => fail "newDevice" "expected an object"

def parseJoinNetworkInput (raw : Option Value) : Except Rejection JoinNetworkInput := do
  let obj ← asObject raw
  let tokenId ← assertTokenId (member obj "tokenId")
  let deviceId ← assertDeviceId (member obj "deviceId")
  let newDevice ← parseNewDevice (member obj "newDevice")
  return ⟨tokenId, deviceId, newDevice⟩

def parseNotifyTransferIntentInput (raw : Option Value) : Except Rejection NotifyTransferIntentInput := do
  let obj ← asObject raw
  let sourceDeviceId ← assertSourceDeviceId (member obj "sourceDeviceId")
  let targetDeviceId ← assertTargetDeviceId (member obj "targetDeviceId")
  let kind ← assertTransferKind (member obj "kind")
  return ⟨sourceDeviceId, targetDeviceId, kind⟩

/-! ### Paths -/

def accountPath (accountId : String) : String := "accounts/" ++ accountId

def devicePath (accountId deviceId : String) : String := accountPath accountId ++ "/devices/" ++ deviceId

def joinTokenPath (tokenId : String) : String := "joinTokens/" ++ tokenId

/-- The ids of an accepted payload, by the path they go into. -/
structure Ids where
  device : List String
  token : List String
  deriving DecidableEq

/-- The ids that some `parse*Input` accepts. -/
inductive Accepts (raw : Option Value) : Ids → Prop
  | registerDevice {input : RegisterDeviceInput} (h : parseRegisterDeviceInput raw = .ok input) :
      Accepts raw ⟨[input.deviceId], []⟩
  | renameDevice {input : RenameDeviceInput} (h : parseRenameDeviceInput raw = .ok input) :
      Accepts raw ⟨[input.deviceId], []⟩
  | setDeviceIcon {input : SetDeviceIconInput} (h : parseSetDeviceIconInput raw = .ok input) :
      Accepts raw ⟨[input.deviceId], []⟩
  | removeDevice {input : RemoveDeviceInput} (h : parseRemoveDeviceInput raw = .ok input) :
      Accepts raw ⟨[input.deviceId], []⟩
  | createJoinToken {input : CreateJoinTokenInput} (h : parseCreateJoinTokenInput raw = .ok input) :
      Accepts raw ⟨[input.issuingDeviceId], []⟩
  | previewJoinToken {input : PreviewJoinTokenInput} (h : parsePreviewJoinTokenInput raw = .ok input) :
      Accepts raw ⟨[], [input.tokenId]⟩
  | joinNetwork {input : JoinNetworkInput} (h : parseJoinNetworkInput raw = .ok input) :
      Accepts raw ⟨[input.deviceId], [input.tokenId]⟩
  | notifyTransferIntent {input : NotifyTransferIntentInput} (h : parseNotifyTransferIntentInput raw = .ok input) :
      Accepts raw ⟨[input.sourceDeviceId, input.targetDeviceId], []⟩

def segments (path : String) : List (List Char) := path.toList.splitOn '/'

/-- `__.*__`. -/
def Reserved (segment : List Char) : Prop :=
  4 ≤ segment.length ∧ segment.take 2 = ['_', '_'] ∧ segment.drop (segment.length - 2) = ['_', '_']

instance (segment : List Char) : Decidable (Reserved segment) := inferInstanceAs (Decidable (_ ∧ _ ∧ _))

/-- A segment that Firestore takes. -/
structure ValidSegment (segment : List Char) : Prop where
  nonempty : segment ≠ []
  dot : segment ≠ ['.']
  dotDot : segment ≠ ['.', '.']
  unreserved : ¬Reserved segment

/-- The path of a document directly in a collection. -/
structure ChildOf (collection : List (List Char)) (path : String) : Prop where
  segments_eq : ∃ name, segments path = collection ++ [name]
  valid : ∀ segment ∈ segments path, ValidSegment segment

/-- Every path of the input is where its collection is. -/
def Contained (uid : String) (ids : Ids) : Prop :=
  (∀ id ∈ ids.device, ChildOf ["accounts".toList, uid.toList, "devices".toList] (devicePath uid id)) ∧
    ∀ id ∈ ids.token, ChildOf ["joinTokens".toList] (joinTokenPath id)

/-- An id that is one segment, given that it is not empty. -/
structure OneSegment (id : List Char) : Prop where
  slash : '/' ∉ id
  dot : id ≠ ['.']
  dotDot : id ≠ ['.', '.']
  unreserved : ¬Reserved id

/-! ### What is accepted -/

/-- What passes as an id is not empty. -/
theorem assertNonEmptyString_ne_nil {value : Option Value} {field checked : String} {max : Nat}
    (h : assertNonEmptyString value field max = .ok checked) : checked.toList ≠ [] := by
  unfold assertNonEmptyString at h
  split at h
  · rename_i s
    obtain rfl := Cloud.assertNonEmptyString_ok h
    intro hnil
    simp [Cloud.assertNonEmptyString, hnil, fail] at h
  · simp [fail] at h

theorem Accepts.ne_nil {raw : Option Value} {ids : Ids} (h : Accepts raw ids) :
    (∀ id ∈ ids.device, id.toList ≠ []) ∧ ∀ id ∈ ids.token, id.toList ≠ [] := by
  cases h with
  | registerDevice h =>
    simp only [parseRegisterDeviceInput, bind_eq_ok] at h
    obtain ⟨obj, -, deviceId, hdevice, _, -, _, -, _, -, _, -, _, -, h⟩ := h
    obtain rfl := Except.ok.inj h
    simpa using assertNonEmptyString_ne_nil hdevice
  | renameDevice h =>
    simp only [parseRenameDeviceInput, bind_eq_ok] at h
    obtain ⟨obj, -, deviceId, hdevice, _, -, h⟩ := h
    obtain rfl := Except.ok.inj h
    simpa using assertNonEmptyString_ne_nil hdevice
  | setDeviceIcon h =>
    simp only [parseSetDeviceIconInput, bind_eq_ok] at h
    obtain ⟨obj, -, deviceId, hdevice, _, -, h⟩ := h
    obtain rfl := Except.ok.inj h
    simpa using assertNonEmptyString_ne_nil hdevice
  | removeDevice h =>
    simp only [parseRemoveDeviceInput, bind_eq_ok] at h
    obtain ⟨obj, -, deviceId, hdevice, h⟩ := h
    obtain rfl := Except.ok.inj h
    simpa using assertNonEmptyString_ne_nil hdevice
  | createJoinToken h =>
    simp only [parseCreateJoinTokenInput, bind_eq_ok] at h
    obtain ⟨obj, -, deviceId, hdevice, h⟩ := h
    obtain rfl := Except.ok.inj h
    simpa using assertNonEmptyString_ne_nil hdevice
  | previewJoinToken h =>
    simp only [parsePreviewJoinTokenInput, bind_eq_ok] at h
    obtain ⟨obj, -, tokenId, htoken, h⟩ := h
    obtain rfl := Except.ok.inj h
    simpa using assertNonEmptyString_ne_nil htoken
  | joinNetwork h =>
    simp only [parseJoinNetworkInput, bind_eq_ok] at h
    obtain ⟨obj, -, tokenId, htoken, deviceId, hdevice, _, -, h⟩ := h
    obtain rfl := Except.ok.inj h
    exact ⟨List.forall_mem_singleton.mpr (assertNonEmptyString_ne_nil hdevice),
      List.forall_mem_singleton.mpr (assertNonEmptyString_ne_nil htoken)⟩
  | notifyTransferIntent h =>
    simp only [parseNotifyTransferIntentInput, bind_eq_ok] at h
    obtain ⟨obj, -, source, hsource, target, htarget, _, -, h⟩ := h
    obtain rfl := Except.ok.inj h
    exact ⟨List.forall_mem_cons.mpr ⟨assertNonEmptyString_ne_nil hsource,
      List.forall_mem_singleton.mpr (assertNonEmptyString_ne_nil htarget)⟩, List.forall_mem_nil _⟩

/-! ### Where the paths lead -/

theorem segments_devicePath {uid : String} (huid : '/' ∉ uid.toList) (id : String) :
    segments (devicePath uid id) = ["accounts".toList, uid.toList, "devices".toList] ++ id.toList.splitOn '/' := by
  have hchars : (devicePath uid id).toList =
      "accounts".toList ++ '/' :: (uid.toList ++ '/' :: ("devices".toList ++ '/' :: id.toList)) := by
    simp [devicePath, accountPath]
  rw [segments, hchars, List.splitOn_append_cons_self_of_not_mem (by decide),
    List.splitOn_append_cons_self_of_not_mem huid, List.splitOn_append_cons_self_of_not_mem (by decide)]
  rfl

theorem segments_joinTokenPath (id : String) :
    segments (joinTokenPath id) = ["joinTokens".toList] ++ id.toList.splitOn '/' := by
  have hchars : (joinTokenPath id).toList = "joinTokens".toList ++ '/' :: id.toList := by simp [joinTokenPath]
  rw [segments, hchars, List.splitOn_append_cons_self_of_not_mem (by decide)]
  rfl

/-- A text is its only segment exactly if it contains no slash. -/
theorem splitOn_eq_single_iff {s : List Char} : (∃ name, s.splitOn '/' = [name]) ↔ '/' ∉ s := by
  constructor
  · rintro ⟨name, hname⟩ hslash
    obtain ⟨a, b, rfl⟩ := List.append_of_mem hslash
    have hlength := congrArg List.length hname
    rw [List.splitOn_append_cons_self, List.length_append] at hlength
    have ha := List.length_pos_of_ne_nil (List.splitOn_ne_nil '/' a)
    have hb := List.length_pos_of_ne_nil (List.splitOn_ne_nil '/' b)
    simp only [List.length_singleton] at hlength
    omega
  · exact fun h => ⟨s, List.splitOn_eq_singleton h⟩

/-- The last part of a path, when the others are fixed. -/
theorem childOf_iff {collection : List (List Char)} {path : String} {id : List Char} (hid : id ≠ [])
    (hpath : segments path = collection ++ id.splitOn '/') :
    ChildOf collection path ↔ (∀ segment ∈ collection, ValidSegment segment) ∧ OneSegment id := by
  constructor
  · rintro ⟨⟨name, hname⟩, hvalid⟩
    rw [hpath] at hname hvalid
    have hslash : '/' ∉ id := splitOn_eq_single_iff.mp ⟨name, List.append_cancel_left hname⟩
    rw [List.splitOn_eq_singleton hslash] at hvalid
    have hlast := hvalid id (by simp)
    exact ⟨fun segment hsegment => hvalid segment (List.mem_append_left _ hsegment),
      hslash, hlast.dot, hlast.dotDot, hlast.unreserved⟩
  · rintro ⟨hcollection, hslash, hdot, hdotDot, hunreserved⟩
    rw [List.splitOn_eq_singleton hslash] at hpath
    refine ⟨⟨id, hpath⟩, ?_⟩
    rw [hpath]
    intro segment hsegment
    obtain hsegment | hsegment := List.mem_append.mp hsegment
    · exact hcollection segment hsegment
    · obtain rfl := List.mem_singleton.mp hsegment
      exact ⟨hid, hdot, hdotDot, hunreserved⟩

theorem valid_accounts : ValidSegment "accounts".toList := ⟨by decide, by decide, by decide, by decide⟩
theorem valid_devices : ValidSegment "devices".toList := ⟨by decide, by decide, by decide, by decide⟩
theorem valid_joinTokens : ValidSegment "joinTokens".toList := ⟨by decide, by decide, by decide, by decide⟩

/-- **Which ids stay in their collection.** For every payload a callable accepts and every
caller without a slash: exactly those that are one segment, under a caller that is. -/
theorem ids_contained_iff (raw : Option Value) (ids : Ids) (haccepts : Accepts raw ids) (uid : String)
    (huid : '/' ∉ uid.toList) :
    Contained uid ids ↔
      (ids.device ≠ [] → ValidSegment uid.toList) ∧ ∀ id ∈ ids.device ++ ids.token, OneSegment id.toList := by
  obtain ⟨hdevice, htoken⟩ := haccepts.ne_nil
  have hdevices : (∀ id ∈ ids.device, ChildOf ["accounts".toList, uid.toList, "devices".toList] (devicePath uid id)) ↔
      ∀ id ∈ ids.device, ValidSegment uid.toList ∧ OneSegment id.toList := by
    refine forall_congr' fun id => forall_congr' fun hid => ?_
    rw [childOf_iff (hdevice id hid) (segments_devicePath huid id)]
    refine and_congr_left fun _ => ?_
    simp only [List.forall_mem_cons, valid_accounts, valid_devices, true_and, and_true, List.not_mem_nil,
      false_implies, implies_true]
  have htokens : (∀ id ∈ ids.token, ChildOf ["joinTokens".toList] (joinTokenPath id)) ↔
      ∀ id ∈ ids.token, OneSegment id.toList := by
    refine forall_congr' fun id => forall_congr' fun hid => ?_
    rw [childOf_iff (htoken id hid) (segments_joinTokenPath id)]
    simp only [List.forall_mem_cons, valid_joinTokens, true_and, List.not_mem_nil, false_implies, implies_true]
  rw [Contained, hdevices, htokens, List.forall_mem_append]
  constructor
  · rintro ⟨hall, htoken⟩
    refine ⟨fun hne => ?_, fun id hid => (hall id hid).2, htoken⟩
    obtain ⟨id, hid⟩ := List.exists_mem_of_ne_nil _ hne
    exact (hall id hid).1
  · rintro ⟨hvalid, hone, htoken⟩
    exact ⟨fun id hid => ⟨hvalid (List.ne_nil_of_mem hid), hone id hid⟩, htoken⟩

/-- `renameDevice` for a device. -/
def renameOf (deviceId : String) : Option Value :=
  some (.object [("deviceId", .string deviceId), ("displayName", .string "Phone")])

theorem accepts_renameOf (deviceId : String) (h : Cloud.assertNonEmptyString deviceId "deviceId" deviceIdMax = .ok deviceId) :
    Accepts (renameOf deviceId) ⟨[deviceId], []⟩ := by
  have hparse : parseRenameDeviceInput (renameOf deviceId) = .ok ⟨deviceId, "Phone"⟩ := by
    rw [parseRenameDeviceInput, renameOf, asObject]
    show (assertDeviceId (some (.string deviceId)) >>= fun d =>
      assertDisplayName (some (.string "Phone")) >>= fun n => pure (RenameDeviceInput.mk d n)) = _
    rw [assertDeviceId, assertNonEmptyString, h]
    rfl
  exact .renameDevice hparse

theorem ids_contained_iff_phone :
    Accepts (renameOf "phone-1") ⟨["phone-1"], []⟩ ∧ Contained "u1" ⟨["phone-1"], []⟩ := by
  have haccepts : Accepts (renameOf "phone-1") ⟨["phone-1"], []⟩ := accepts_renameOf "phone-1" (by rfl)
  have hone : OneSegment "phone-1".toList := ⟨by decide, by decide, by decide, by decide⟩
  have huser : ValidSegment "u1".toList := ⟨by decide, by decide, by decide, by decide⟩
  exact ⟨haccepts, (ids_contained_iff _ _ haccepts "u1" (by decide)).mpr
    ⟨fun _ => huser, List.forall_mem_singleton.mpr hone⟩⟩

/-- The id is accepted, and names a document two levels below the devices. -/
theorem ids_contained_nested :
    Accepts (renameOf "a/b/c") ⟨["a/b/c"], []⟩ ∧
    segments (devicePath "u1" "a/b/c") =
      ["accounts".toList, "u1".toList, "devices".toList, ['a'], ['b'], ['c']] ∧
    ¬Contained "u1" ⟨["a/b/c"], []⟩ := by
  have hpath : segments (devicePath "u1" "a/b/c") =
      ["accounts".toList, "u1".toList, "devices".toList, ['a'], ['b'], ['c']] := by
    rw [segments_devicePath (by decide)]
    rfl
  refine ⟨accepts_renameOf "a/b/c" (by rfl), hpath, fun h => ?_⟩
  obtain ⟨name, hname⟩ := (h.1 "a/b/c" (List.mem_singleton.mpr rfl)).segments_eq
  rw [hpath] at hname
  have hlength := congrArg List.length hname
  simp at hlength

end MagicShare.Cloud.Validation
