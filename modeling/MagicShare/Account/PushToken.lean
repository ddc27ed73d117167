import MagicShare.Base.Records
import MagicShare.Base.Transition
import MagicShare.Cloud.Devices

/-! The push token on its way from Firebase to the cloud.

The token service asks once for the token and is told of refreshes; the bootstrap service
registers the device with the token it finds and uploads what comes later, each upload
on its own. A token that was asked for can come after a newer one, and uploads can overtake
each other. In a run in which the last token to come, to be applied and to be noted is the
newest, all places end up with it (`newest_token`). -/
namespace MagicShare.Account
open Cloud

/-! ### State -/

inductive FcmState where
  | acquiring
  | ready (token : String)
  deriving DecidableEq

def FcmState.token : FcmState → Option String
  | .acquiring => none
  | .ready token => some token

/-- How far `getToken` is. -/
inductive GetToken where
  | asked
  /-- Firebase has looked up the token. -/
  | read (token : Option String)
  | returned
  deriving DecidableEq

/-- The token that is on its way. -/
def GetToken.token : GetToken → Option String
  | .read token => token
  | .asked | .returned => none

/-- How far the bootstrap is with the token. -/
inductive TokenBootstrap where
  | starting
  | registering
  | done
  deriving DecidableEq

inductive UploadPhase where
  | sent
  | applied
  | completed
  deriving DecidableEq

/-- A call of `registerDevice`. -/
structure TokenUpload where
  token : Option String
  phase : UploadPhase := .sent
  deriving DecidableEq

structure PushTokens where
  /-- The token that Firebase issued last. -/
  issued : Option String
  /-- The events of `onTokenRefresh` that are on their way. -/
  refreshes : List String := []
  getToken : GetToken := .asked
  fcm : FcmState := .acquiring
  /-- The tokens of the changes that the bootstrap service has not been told of. -/
  changes : List String := []
  bootstrap : TokenBootstrap := .starting
  /-- The first is the call of the bootstrap. -/
  uploads : List TokenUpload := []
  lastUploadedFcmToken : Option String := none
  cloud : Store

inductive TokenEvent where
  /-- Firebase issues another token. -/
  | issued (token : String)
  /-- Firebase looks up the token for `getToken`; if there is none it may make one. -/
  | tokenRead (made : Option String)
  | tokenReturned
  | refreshed
  /-- The bootstrap service is told of a change. -/
  | changed
  /-- The bootstrap reads the token and calls `registerDevice`. -/
  | registers
  /-- The transaction of a call, with the other fields of its request. -/
  | applied (upload : Nat) (now : Timestamp) (input : RegisterDeviceInput)
  | completed (upload : Nat)

namespace PushTokens

/-! ### Steps -/

def setReady (s : PushTokens) (token : String) : PushTokens :=
  {s with fcm := .ready token, changes := s.changes ++ [token]}

/-- `_maybeReuploadToken`, up to its call. -/
def maybeReuploadToken (s : PushTokens) (token : String) : PushTokens :=
  if s.bootstrap ≠ .done then s
  else if s.lastUploadedFcmToken = some token then s
  else {s with uploads := s.uploads ++ [{token := some token}]}

/-- The end of `_runBootstrap`: a token that came meanwhile is uploaded. -/
def finishBootstrap (s : PushTokens) : PushTokens :=
  let s := {s with bootstrap := .done}
  match s.fcm with
  | .ready token => s.maybeReuploadToken token
  | .acquiring => s

/-- A call returns. -/
def complete (s : PushTokens) (i : Nat) (u : TokenUpload) : PushTokens :=
  let s := {s with uploads := s.uploads.set i {u with phase := .completed}, lastUploadedFcmToken := u.token}
  if s.bootstrap = .registering then s.finishBootstrap else s

def step (uid deviceId : DocId) (s : PushTokens) : TokenEvent → Option PushTokens
  | .issued token => some {s with issued := some token, refreshes := s.refreshes ++ [token]}
  | .tokenRead made =>
    if s.getToken = .asked then
      let issued := s.issued.or made
      some {s with issued, getToken := .read issued}
    else none
  | .tokenReturned =>
    match s.getToken with
    | .read (some token) => some {s.setReady token with getToken := .returned}
    | .read none => some {s with getToken := .returned}
    | _ => none
  | .refreshed =>
    match s.refreshes with
    | token :: refreshes => some {s.setReady token with refreshes}
    | [] => none
  | .changed =>
    match s.changes with
    | token :: changes => some ({s with changes}.maybeReuploadToken token)
    | [] => none
  | .registers =>
    if s.bootstrap = .starting then
      some {s with bootstrap := .registering, uploads := s.uploads ++ [{token := s.fcm.token}]}
    else none
  | .applied i now input =>
    match s.uploads[i]? with
    | some u =>
      if u.phase = .sent then
        match registerDeviceLogic now uid {input with deviceId, fcmToken := u.token} s.cloud with
        | (.ok _, cloud) => some {s with cloud, uploads := s.uploads.set i {u with phase := .applied}}
        | (.error _, _) => none
      else none
    | none => none
  | .completed i =>
    match s.uploads[i]? with
    | some u => if u.phase = .applied then some (s.complete i u) else none
    | none => none

/-- The token of the device in the cloud. -/
def stored (uid deviceId : DocId) (s : PushTokens) : Option String :=
  (s.cloud.device uid deviceId).bind DeviceDoc.fcmToken

end PushTokens

/-- The services of a device from a start of the app. -/
def pushTokens (uid deviceId : DocId) (issued : Option String) (cloud : Store) :
    Transition.System PushTokens TokenEvent where
  init := {issued, cloud}
  step := PushTokens.step uid deviceId

/-! ### The property and its condition -/

namespace PushTokens
variable {uid deviceId : DocId} {s t : PushTokens} {e : TokenEvent} {i : Nat} {u : TokenUpload}

structure Settled (s : PushTokens) : Prop where
  bootstrap : s.bootstrap = .done
  getToken : s.getToken = .returned
  refreshes : s.refreshes = []
  changes : s.changes = []
  uploads : ∀ u ∈ s.uploads, u.phase = .completed

instance (s : PushTokens) : Decidable s.Settled :=
  decidable_of_iff (s.bootstrap = .done ∧ s.getToken = .returned ∧ s.refreshes = [] ∧ s.changes = [] ∧
      ∀ u ∈ s.uploads, u.phase = .completed)
    ⟨fun ⟨hbootstrap, hget, hrefreshes, hchanges, huploads⟩ => ⟨hbootstrap, hget, hrefreshes, hchanges, huploads⟩,
      fun h => ⟨h.bootstrap, h.getToken, h.refreshes, h.changes, h.uploads⟩⟩

/-- Once everything has settled, all places have the newest token. -/
def Newest (uid deviceId : DocId) (s : PushTokens) : Prop :=
  s.Settled → s.stored uid deviceId = s.issued ∧ s.lastUploadedFcmToken = s.issued ∧ s.fcm.token = s.issued

/-- The token that was uploaded last. -/
def latest (s : PushTokens) : Option (Option String) := s.uploads.getLast?.map TokenUpload.token

/-- Another call than the latest is applied or returns only while one with its token has
still to; `getToken` returns an older token only while a refresh is on its way; and a change is
not taken for uploaded while a later upload has another token, unless another change follows. -/
def InOrder (s : PushTokens) : TokenEvent → Prop
  | .tokenReturned => ∀ token ∈ s.getToken.token, s.issued = some token ∨ s.refreshes ≠ []
  | .changed => s.bootstrap = .done → ∀ token ∈ s.changes.head?, s.lastUploadedFcmToken = some token →
    s.latest = some (some token) ∨ s.changes.tail ≠ []
  | .applied i _ _ => ∀ u ∈ s.uploads[i]?, ∀ token ∈ s.latest,
    u.token = token ∨ ∃ other ∈ s.uploads, other.phase = .sent ∧ other.token = token
  | .completed i => ∀ u ∈ s.uploads[i]?, ∀ token ∈ s.latest,
    u.token = token ∨ ∃ other ∈ s.uploads, other.phase ≠ .completed ∧ other.token = token
  | _ => True

instance (s : PushTokens) : (e : TokenEvent) → Decidable (s.InOrder e)
  | .tokenReturned => inferInstanceAs (Decidable
    (∀ token ∈ s.getToken.token, s.issued = some token ∨ s.refreshes ≠ []))
  | .changed => inferInstanceAs (Decidable
    (s.bootstrap = .done → ∀ token ∈ s.changes.head?, s.lastUploadedFcmToken = some token →
      s.latest = some (some token) ∨ s.changes.tail ≠ []))
  | .applied i _ _ => inferInstanceAs (Decidable (∀ u ∈ s.uploads[i]?, ∀ token ∈ s.latest,
    u.token = token ∨ ∃ other ∈ s.uploads, other.phase = .sent ∧ other.token = token))
  | .completed i => inferInstanceAs (Decidable (∀ u ∈ s.uploads[i]?, ∀ token ∈ s.latest,
    u.token = token ∨ ∃ other ∈ s.uploads, other.phase ≠ .completed ∧ other.token = token))
  | .issued _ | .tokenRead _ | .refreshed | .registers => .isTrue trivial

/-! ### What a registration stores -/

theorem token_registerDevice {now : Timestamp} {input : RegisterDeviceInput} {store cloud : Store}
    {result : RegisterDeviceResult} (h : registerDeviceLogic now uid input store = (.ok result, cloud)) :
    (cloud.device uid input.deviceId).bind DeviceDoc.fcmToken = input.fcmToken := by
  rcases registerDeviceLogic_cases now uid input store with
    ⟨-, _, heq⟩ | ⟨account, -, -, heq⟩ | ⟨account, doc, -, -, heq⟩ <;> rw [h] at heq
  · cases heq
  · obtain ⟨-, rfl⟩ := Prod.mk.inj heq
    simp [RegisterDeviceInput.deviceDoc]
  · obtain ⟨-, rfl⟩ := Prod.mk.inj heq
    simp [RegisterDeviceInput.refresh, DevicePatch.apply]

/-! ### Events -/

/-- What an event does, by what it finds. -/
inductive Moves (uid deviceId : DocId) (s : PushTokens) : TokenEvent → PushTokens → Prop
  | issued (token : String) :
      Moves uid deviceId s (.issued token) {s with issued := some token, refreshes := s.refreshes ++ [token]}
  | tokenRead (made : Option String) (hasked : s.getToken = .asked) : Moves uid deviceId s (.tokenRead made)
      {s with issued := s.issued.or made, getToken := .read (s.issued.or made)}
  | tokenReturned {token : String} (hread : s.getToken = .read (some token)) :
      Moves uid deviceId s .tokenReturned {s.setReady token with getToken := .returned}
  | noToken (hread : s.getToken = .read none) : Moves uid deviceId s .tokenReturned {s with getToken := .returned}
  | refreshed {token : String} {refreshes : List String} (hrefreshes : s.refreshes = token :: refreshes) :
      Moves uid deviceId s .refreshed {s.setReady token with refreshes}
  | changed {token : String} {changes : List String} (hchanges : s.changes = token :: changes) :
      Moves uid deviceId s .changed ({s with changes}.maybeReuploadToken token)
  | registers (hstarting : s.bootstrap = .starting) : Moves uid deviceId s .registers
      {s with bootstrap := .registering, uploads := s.uploads ++ [{token := s.fcm.token}]}
  | applied {i : Nat} {now : Timestamp} {input : RegisterDeviceInput} {u : TokenUpload} {result : RegisterDeviceResult}
      {cloud : Store} (hget : s.uploads[i]? = some u)
      (hok : registerDeviceLogic now uid {input with deviceId, fcmToken := u.token} s.cloud = (.ok result, cloud)) :
      Moves uid deviceId s (.applied i now input)
        {s with cloud, uploads := s.uploads.set i {u with phase := .applied}}
  | completed {i : Nat} {u : TokenUpload} (hget : s.uploads[i]? = some u) (hphase : u.phase = .applied) :
      Moves uid deviceId s (.completed i) (s.complete i u)

theorem moves_of_step (h : s.step uid deviceId e = some t) : Moves uid deviceId s e t := by
  cases e with
  | issued token =>
    obtain rfl := Option.some.inj h
    exact .issued token
  | tokenRead made =>
    simp only [step] at h
    split at h
    · next hasked =>
      obtain rfl := Option.some.inj h
      exact .tokenRead made hasked
    · cases h
  | tokenReturned =>
    simp only [step] at h
    split at h
    · next token hread =>
      obtain rfl := Option.some.inj h
      exact .tokenReturned hread
    · next hread =>
      obtain rfl := Option.some.inj h
      exact .noToken hread
    · cases h
  | refreshed =>
    simp only [step] at h
    split at h
    · next token refreshes hrefreshes =>
      obtain rfl := Option.some.inj h
      exact .refreshed hrefreshes
    · cases h
  | changed =>
    simp only [step] at h
    split at h
    · next token changes hchanges =>
      obtain rfl := Option.some.inj h
      exact .changed hchanges
    · cases h
  | registers =>
    simp only [step] at h
    split at h
    · next hstarting =>
      obtain rfl := Option.some.inj h
      exact .registers hstarting
    · cases h
  | applied i now input =>
    simp only [step] at h
    split at h
    · next u hget =>
      split_ifs at h
      split at h
      · next result cloud hok =>
        obtain rfl := Option.some.inj h
        exact .applied hget hok
      · cases h
    · cases h
  | completed i =>
    simp only [step] at h
    split at h
    · next u hget =>
      split_ifs at h with hphase
      obtain rfl := Option.some.inj h
      exact .completed hget hphase
    · cases h

/-! ### The token on its way to the service -/

/-- The newest token has come, or is to come. -/
structure Coming (s : PushTokens) : Prop where
  unissued : s.issued = none → s.fcm.token = none
  last : ∀ token ∈ s.refreshes.getLast?, s.issued = some token
  coming : s.getToken = .asked ∨ s.getToken = .read s.issued ∨ s.refreshes ≠ [] ∨ s.fcm.token = s.issued

/-- The fields that the token service has. -/
theorem Coming.congr (h : s.Coming) (hissued : t.issued = s.issued) (hrefreshes : t.refreshes = s.refreshes)
    (hget : t.getToken = s.getToken) (hfcm : t.fcm = s.fcm) : t.Coming := by
  obtain ⟨hunissued, hlast, hcoming⟩ := h
  refine ⟨?_, ?_, ?_⟩
  · rwa [hissued, hfcm]
  · rwa [hissued, hrefreshes]
  · rwa [hissued, hrefreshes, hget, hfcm]

theorem maybeReuploadToken_eq (s : PushTokens) (token : String) :
    s.maybeReuploadToken token = {s with uploads := (s.maybeReuploadToken token).uploads} := by
  unfold maybeReuploadToken
  split_ifs <;> rfl

/-- A call that returns leaves the fields of the token service alone. -/
theorem complete_eq (s : PushTokens) (i : Nat) (u : TokenUpload) : ∃ bootstrap uploads,
    s.complete i u = {s with bootstrap, uploads, lastUploadedFcmToken := u.token} := by
  simp only [complete, finishBootstrap]
  split_ifs
  · split
    · rw [maybeReuploadToken_eq]
      exact ⟨_, _, rfl⟩
    · exact ⟨_, _, rfl⟩
  · exact ⟨_, _, rfl⟩

theorem Coming.step (h : s.Coming) (horder : s.InOrder e) (hst : s.step uid deviceId e = some t) : t.Coming := by
  cases moves_of_step hst with
  | issued token =>
    refine ⟨fun hnone => (by cases hnone), fun other hother => ?_, .inr (.inr (.inl (by simp)))⟩
    rw [List.getLast?_concat] at hother
    exact hother
  | tokenRead made hasked =>
    refine ⟨fun hnone => h.unissued ?_, fun token htoken => ?_, .inr (.inl rfl)⟩
    · exact (Option.or_eq_none_iff.mp hnone).1
    · exact Option.or_eq_some_iff.mpr (.inl (h.last token htoken))
  | tokenReturned hread =>
    rcases horder _ (by rw [hread]; rfl) with hissued | hrefreshes
    · exact ⟨fun hnone => (by cases hnone.symm.trans hissued), h.last, .inr (.inr (.inr hissued.symm))⟩
    · refine ⟨fun hnone => ?_, h.last, .inr (.inr (.inl hrefreshes))⟩
      have hsome := h.last _ (List.getLast?_eq_getLast_of_ne_nil hrefreshes)
      cases hnone.symm.trans hsome
  | noToken hread =>
    refine ⟨h.unissued, h.last, .inr (.inr ?_)⟩
    rcases h.coming with hasked | hnow | hcoming
    · cases hread.symm.trans hasked
    · have hnone : s.issued = none := (GetToken.read.inj (hread.symm.trans hnow)).symm
      exact .inr ((h.unissued hnone).trans hnone.symm)
    · exact hcoming
  | @refreshed token refreshes hrefreshes =>
    have hlast : s.issued = (token :: refreshes).getLast? := by
      have hne := List.getLast?_eq_getLast_of_ne_nil (List.cons_ne_nil token refreshes)
      exact (h.last _ (by rw [hrefreshes]; exact hne)).trans hne.symm
    refine ⟨fun hnone => ?_, fun other hother => ?_, .inr (.inr ?_)⟩
    · cases List.getLast?_eq_none_iff.mp (hlast.symm.trans hnone)
    · refine hlast.trans ?_
      rw [List.getLast?_cons, hother]
      rfl
    · cases refreshes with
      | nil => exact .inr hlast.symm
      | cons => exact .inl (List.cons_ne_nil _ _)
  | changed hchanges =>
    rw [maybeReuploadToken_eq]
    exact h.congr rfl rfl rfl rfl
  | registers hstarting => exact h.congr rfl rfl rfl rfl
  | applied hget hok => exact h.congr rfl rfl rfl rfl
  | @completed i u hget hphase =>
    obtain ⟨bootstrap, uploads, heq⟩ := s.complete_eq i u
    rw [heq]
    exact h.congr rfl rfl rfl rfl

/-! ### The token on its way to the cloud -/

/-- The token uploaded last is the service's, or will be, and is in the cloud and noted, or
will be. -/
structure Uploading (uid deviceId : DocId) (s : PushTokens) : Prop where
  lastChange : ∀ token ∈ s.changes.getLast?, s.fcm = .ready token
  early : s.fcm = .acquiring → s.changes = [] ∧ ∀ u ∈ s.uploads, u.token = none
  starting : s.bootstrap = .starting → s.uploads = []
  registering : s.bootstrap = .registering → ∃ u, s.uploads = [u]
  current : s.bootstrap = .done → s.latest = some s.fcm.token ∨ s.changes ≠ []
  stored : ∀ token ∈ s.latest,
    s.stored uid deviceId = token ∨ ∃ u ∈ s.uploads, u.phase = .sent ∧ u.token = token
  noted : ∀ token ∈ s.latest,
    s.lastUploadedFcmToken = token ∨ ∃ u ∈ s.uploads, u.phase ≠ .completed ∧ u.token = token

/-- A call that goes on keeps its token. -/
theorem latest_set {uploads : List TokenUpload} (hget : uploads[i]? = some u) (phase : UploadPhase) :
    (uploads.set i {u with phase}).getLast?.map TokenUpload.token = uploads.getLast?.map TokenUpload.token := by
  rw [← List.getLast?_map, Records.map_set (y := {u with phase}) hget rfl, List.getLast?_map]

theorem Uploading.setReady (h : s.Uploading uid deviceId) (token : String) :
    (s.setReady token).Uploading uid deviceId where
  lastChange other hother := by
    rw [PushTokens.setReady, List.getLast?_concat] at hother
    rw [Option.some.inj hother]
    rfl
  early hacquiring := by cases hacquiring
  starting := h.starting
  registering := h.registering
  current _ := .inr (by simp [PushTokens.setReady])
  stored := h.stored
  noted := h.noted

/-- Another upload has been started: its token is the latest. -/
theorem Uploading.start (hlast : ∀ token ∈ s.changes.getLast?, s.fcm = .ready token) (hready : s.fcm ≠ .acquiring)
    (hdone : s.bootstrap = .done) {token : String} (hcurrent : s.fcm = .ready token ∨ s.changes ≠ []) :
    Uploading uid deviceId {s with uploads := s.uploads ++ [{token := some token}]} := by
  have hlatest : ∀ latest ∈ (s.uploads ++ [({token := some token} : TokenUpload)]).getLast?.map TokenUpload.token,
      some token = latest := by
    intro latest hlatest
    rw [List.getLast?_concat] at hlatest
    exact Option.some.inj hlatest
  have hnew : (⟨some token, .sent⟩ : TokenUpload) ∈ s.uploads ++ [⟨some token, .sent⟩] :=
    List.mem_append_right _ (List.mem_singleton_self _)
  refine ⟨hlast, fun hacquiring => absurd hacquiring hready, fun hstarting => ?_, fun hregistering => ?_, fun _ => ?_,
    fun latest hlast => .inr ⟨_, hnew, rfl, hlatest latest hlast⟩,
    fun latest hlast => .inr ⟨_, hnew, (by simp), hlatest latest hlast⟩⟩
  · cases hstarting.symm.trans hdone
  · cases hregistering.symm.trans hdone
  · refine hcurrent.imp_left fun hready => ?_
    simp [latest, hready, FcmState.token]

theorem Uploading.changed (h : s.Uploading uid deviceId) {token : String} {changes : List String}
    (hchanges : s.changes = token :: changes)
    (horder : s.bootstrap = .done → s.lastUploadedFcmToken = some token → s.latest = some (some token) ∨ changes ≠ []) :
    ({s with changes}.maybeReuploadToken token).Uploading uid deviceId := by
  have hready : changes = [] → s.fcm = .ready token := by
    intro hnil
    exact h.lastChange token (by rw [hchanges, hnil]; rfl)
  have hrest : ∀ other ∈ changes.getLast?, s.fcm = .ready other := by
    intro other hother
    exact h.lastChange other (by rw [hchanges, List.getLast?_cons, hother]; rfl)
  have hearly : s.fcm ≠ .acquiring := fun hacquiring => by
    cases hchanges.symm.trans (h.early hacquiring).1
  unfold maybeReuploadToken
  split_ifs with hdone hlast
  · exact ⟨hrest, fun hacquiring => absurd hacquiring hearly, h.starting, h.registering, fun hnow => absurd hnow hdone,
      h.stored, h.noted⟩
  · refine ⟨hrest, fun hacquiring => absurd hacquiring hearly, h.starting, h.registering, fun hnow => ?_,
      h.stored, h.noted⟩
    rcases horder hnow hlast with hlatest | hne
    · by_cases hnil : changes = []
      · left
        rw [hready hnil]
        exact hlatest
      · exact .inr hnil
    · exact .inr hne
  · have hdone : s.bootstrap = .done := by simpa using hdone
    refine Uploading.start (s := {s with changes}) hrest hearly hdone ?_
    by_cases hnil : changes = []
    · exact .inl (hready hnil)
    · exact .inr hnil

theorem Uploading.registers (h : s.Uploading uid deviceId) (hstarting : s.bootstrap = .starting) :
    Uploading uid deviceId {s with
      bootstrap := .registering
      uploads := s.uploads ++ [{token := s.fcm.token}]} := by
  rw [h.starting hstarting, List.nil_append]
  have hlatest : ∀ latest ∈ [(⟨s.fcm.token, .sent⟩ : TokenUpload)].getLast?.map TokenUpload.token, s.fcm.token = latest :=
    fun latest hlatest => Option.some.inj hlatest
  refine ⟨h.lastChange, fun hacquiring => ⟨(h.early hacquiring).1, fun u hu => ?_⟩, fun hnow => (by cases hnow),
    fun _ => ⟨_, rfl⟩, fun hnow => (by cases hnow),
    fun latest hlast => .inr ⟨_, List.mem_singleton_self _, rfl, hlatest latest hlast⟩,
    fun latest hlast => .inr ⟨_, List.mem_singleton_self _, by simp, hlatest latest hlast⟩⟩
  obtain rfl := List.mem_singleton.mp hu
  exact congrArg FcmState.token hacquiring

/-- The calls, when one of them goes on. -/
theorem Uploading.goesOn (h : s.Uploading uid deviceId) (hget : s.uploads[i]? = some u) (phase : UploadPhase) :
    (s.fcm = .acquiring → s.changes = [] ∧ ∀ v ∈ s.uploads.set i {u with phase}, v.token = none) ∧
    (s.bootstrap = .starting → s.uploads.set i {u with phase} = []) ∧
    (s.bootstrap = .registering → ∃ v, s.uploads.set i {u with phase} = [v]) := by
  refine ⟨fun hacquiring => ⟨(h.early hacquiring).1, fun v hv => ?_⟩, fun hstarting => ?_, fun hregistering => ?_⟩
  · rcases List.mem_or_eq_of_mem_set hv with hold | rfl
    · exact (h.early hacquiring).2 v hold
    · exact (h.early hacquiring).2 u (List.mem_of_getElem? hget)
  · rw [h.starting hstarting]
    rfl
  · obtain ⟨v, hv⟩ := h.registering hregistering
    rw [hv] at hget ⊢
    cases i with
    | zero => exact ⟨_, rfl⟩
    | succ => cases hget

theorem Uploading.applied (h : s.Uploading uid deviceId) (hget : s.uploads[i]? = some u) {cloud : Store}
    (hcloud : (cloud.device uid deviceId).bind DeviceDoc.fcmToken = u.token)
    (horder : ∀ token ∈ s.latest, u.token = token ∨ ∃ other ∈ s.uploads, other.phase = .sent ∧ other.token = token) :
    Uploading uid deviceId {s with cloud, uploads := s.uploads.set i {u with phase := .applied}} := by
  obtain ⟨hearly, hstarting, hregistering⟩ := h.goesOn hget .applied
  have hlatest := latest_set hget .applied
  refine ⟨h.lastChange, hearly, hstarting, hregistering, fun hdone => ?_, fun token htoken => ?_, fun token htoken => ?_⟩
  · exact (h.current hdone).imp_left hlatest.trans
  · have htoken : token ∈ s.latest := hlatest.symm.trans htoken
    by_cases heq : u.token = token
    · exact .inl (hcloud.trans heq)
    · have hother := (horder token htoken).resolve_left heq
      exact .inr (Records.exists_set_of_ne hget (fun hu => heq hu.2) hother)
  · have htoken : token ∈ s.latest := hlatest.symm.trans htoken
    refine (h.noted token htoken).imp_right fun hother => ?_
    by_cases heq : u.token = token
    · exact ⟨_, List.mem_set (List.getElem?_eq_some_iff.mp hget).1 _, by simp, heq⟩
    · exact Records.exists_set_of_ne hget (fun hu => heq hu.2) hother

/-- The call that returns is noted; the bootstrap has ended. -/
theorem Uploading.noted_done (h : s.Uploading uid deviceId) (hget : s.uploads[i]? = some u) (hphase : u.phase = .applied)
    (hcurrent : s.latest = some s.fcm.token ∨ s.changes ≠ [])
    (horder : ∀ token ∈ s.latest, u.token = token ∨
      ∃ other ∈ s.uploads, other.phase ≠ .completed ∧ other.token = token) :
    Uploading uid deviceId {s with
      bootstrap := .done
      uploads := s.uploads.set i {u with phase := .completed}
      lastUploadedFcmToken := u.token} := by
  have hlatest := latest_set hget .completed
  refine ⟨h.lastChange, (h.goesOn hget .completed).1, fun hnow => (by cases hnow), fun hnow => (by cases hnow),
    fun _ => hcurrent.imp_left hlatest.trans, fun token htoken => ?_, fun token htoken => ?_⟩
  · refine (h.stored token (hlatest.symm.trans htoken)).imp_right (Records.exists_set_of_ne hget fun hu => ?_)
    cases hphase.symm.trans hu.1
  · by_cases heq : u.token = token
    · exact .inl heq
    · have hother := (horder token (hlatest.symm.trans htoken)).resolve_left heq
      exact .inr (Records.exists_set_of_ne hget (fun hu => heq hu.2) hother)

theorem Uploading.completed (h : s.Uploading uid deviceId) (hget : s.uploads[i]? = some u) (hphase : u.phase = .applied)
    (horder : ∀ token ∈ s.latest, u.token = token ∨
      ∃ other ∈ s.uploads, other.phase ≠ .completed ∧ other.token = token) : (s.complete i u).Uploading uid deviceId := by
  simp only [complete]
  cases hbootstrap : s.bootstrap with
  | starting =>
    rw [h.starting hbootstrap] at hget
    cases hget
  | done =>
    have hdone := h.noted_done hget hphase (h.current hbootstrap) horder
    rw [if_neg (by simp)]
    exact hdone
  | registering =>
    obtain ⟨v, hv⟩ := h.registering hbootstrap
    have hlatest : s.latest = some u.token := by
      rw [hv] at hget
      cases i with
      | zero =>
        obtain rfl := Option.some.inj hget
        rw [latest, hv]
        rfl
      | succ => cases hget
    rw [if_pos rfl]
    cases hfcm : s.fcm with
    | acquiring =>
      have hnone : u.token = s.fcm.token := by
        rw [hfcm]
        exact (h.early hfcm).2 u (List.mem_of_getElem? hget)
      have hdone := h.noted_done hget hphase (.inl (hlatest.trans (congrArg some hnone))) horder
      simpa only [finishBootstrap, hfcm] using hdone
    | ready token =>
      simp only [finishBootstrap, maybeReuploadToken]
      rw [if_neg (by simp)]
      split_ifs with hlast
      · have hcurrent : s.latest = some s.fcm.token := by
          rw [hlatest, hlast, hfcm]
          rfl
        have hdone := h.noted_done hget hphase (.inl hcurrent) horder
        rwa [hfcm] at hdone
      · have hstart : Uploading uid deviceId {s with
            bootstrap := .done
            uploads := s.uploads.set i {u with phase := .completed} ++ [{token := some token}]
            lastUploadedFcmToken := u.token} :=
          Uploading.start (s := {s with
            bootstrap := .done
            uploads := s.uploads.set i {u with phase := .completed}
            lastUploadedFcmToken := u.token}) h.lastChange (fun hacquiring => by cases hacquiring.symm.trans hfcm)
            rfl (.inl hfcm)
        simpa only [hfcm] using hstart

/-! ### Runs -/

/-- What a run in order keeps. -/
structure Advancing (uid deviceId : DocId) (s : PushTokens) : Prop where
  coming : s.Coming
  uploading : s.Uploading uid deviceId

theorem Uploading.step (h : s.Uploading uid deviceId) (horder : s.InOrder e) (hst : s.step uid deviceId e = some t) :
    t.Uploading uid deviceId := by
  cases moves_of_step hst with
  | issued | tokenRead | noToken =>
    exact ⟨h.lastChange, h.early, h.starting, h.registering, h.current, h.stored, h.noted⟩
  | @tokenReturned token | @refreshed token =>
    obtain ⟨hlast, hearly, hstarting, hregistering, hcurrent, hstored, hnoted⟩ := h.setReady token
    exact ⟨hlast, hearly, hstarting, hregistering, hcurrent, hstored, hnoted⟩
  | @changed token changes hchanges =>
    refine h.changed hchanges fun hdone hlast => ?_
    simpa [hchanges] using horder hdone token (by rw [hchanges]; rfl) hlast
  | registers hstarting => exact h.registers hstarting
  | applied hget hok => exact h.applied hget (token_registerDevice hok) (horder _ hget)
  | completed hget hphase => exact h.completed hget hphase (horder _ hget)

theorem Advancing.step (h : s.Advancing uid deviceId) (horder : s.InOrder e) (hst : s.step uid deviceId e = some t) :
    t.Advancing uid deviceId :=
  ⟨h.coming.step horder hst, h.uploading.step horder hst⟩

theorem Advancing.newest (h : s.Advancing uid deviceId) : s.Newest uid deviceId := by
  intro hsettled
  have hfcm : s.fcm.token = s.issued := by
    rcases h.coming.coming with hasked | hread | hrefreshes | hfcm
    · cases hasked.symm.trans hsettled.getToken
    · cases hread.symm.trans hsettled.getToken
    · exact absurd hsettled.refreshes hrefreshes
    · exact hfcm
  have hlatest : s.latest = some s.fcm.token :=
    (h.uploading.current hsettled.bootstrap).resolve_right fun hchanges => hchanges hsettled.changes
  refine ⟨?_, ?_, hfcm⟩
  · rcases h.uploading.stored _ hlatest with hstored | ⟨u, hu, hphase, -⟩
    · exact hstored.trans hfcm
    · cases (hsettled.uploads u hu).symm.trans hphase
  · rcases h.uploading.noted _ hlatest with hnoted | ⟨u, hu, hphase, -⟩
    · exact hnoted.trans hfcm
    · exact absurd (hsettled.uploads u hu) hphase

theorem advancing_init (uid deviceId : DocId) (issued : Option String) (cloud : Store) :
    (pushTokens uid deviceId issued cloud).init.Advancing uid deviceId := by
  refine ⟨⟨fun _ => rfl, fun _ hlast => ?_, .inl rfl⟩, ⟨fun _ hlast => ?_, fun _ => ⟨rfl, fun _ hu => ?_⟩, fun _ => rfl,
    fun hnow => ?_, fun hnow => ?_, fun _ hlast => ?_, fun _ hlast => ?_⟩⟩
  · cases hlast
  · cases hlast
  · cases hu
  · cases hnow
  · cases hnow
  · cases hlast
  · cases hlast

end PushTokens

/-- **The cloud ends up with the newest token** in a run in order. -/
theorem newest_token (uid deviceId : DocId) (issued : Option String) (cloud : Store) {events : List TokenEvent}
    (horder : (pushTokens uid deviceId issued cloud).Meets PushTokens.InOrder
      (pushTokens uid deviceId issued cloud).init events) :
    (pushTokens uid deviceId issued cloud).Along (PushTokens.Newest uid deviceId)
      (pushTokens uid deviceId issued cloud).init events :=
  Transition.System.along_of_meets (fun _ _ _ h horder hst => h.step horder hst) (fun _ h => h.newest)
    (PushTokens.advancing_init uid deviceId issued cloud) horder

namespace Refreshed

def account : DocId := ⟨"user-1", by decide, by decide⟩
def phone : DocId := ⟨"device-1", by decide, by decide⟩
def cloud : Store := (createAccountLogic 0 account .empty).2

/-- A call of this device is applied. -/
def applied (upload : Nat) : TokenEvent := .applied upload 1 ⟨phone, "Phone", .phone, none, .android, none⟩

/-- The device is registered with its first token, and two others come. -/
def twoUploads : List TokenEvent :=
  [.tokenRead (some "first"), .tokenReturned, .registers, applied 0, .completed 0, .changed,
    .issued "second", .issued "third", .refreshed, .refreshed, .changed, .changed]

/-- Whether everything has settled, with the token in the cloud and the newest. -/
def view (s : PushTokens) : Bool × Option String × Option String := (s.Settled, s.stored account phone, s.issued)

end Refreshed

/-- Two uploads at the same time, in order. -/
theorem newest_token_refreshed :
    (pushTokens Refreshed.account Refreshed.phone none Refreshed.cloud).Along
      (PushTokens.Newest Refreshed.account Refreshed.phone)
      (pushTokens Refreshed.account Refreshed.phone none Refreshed.cloud).init
      (Refreshed.twoUploads ++ [Refreshed.applied 1, Refreshed.applied 2, .completed 1, .completed 2]) :=
  newest_token Refreshed.account Refreshed.phone none Refreshed.cloud (by decide +kernel)

/-- The newer upload is applied first, and the older token stays in the cloud. -/
theorem older_token_stays : ¬ (pushTokens Refreshed.account Refreshed.phone none Refreshed.cloud).Along
    (PushTokens.Newest Refreshed.account Refreshed.phone)
    (pushTokens Refreshed.account Refreshed.phone none Refreshed.cloud).init
    (Refreshed.twoUploads ++ [Refreshed.applied 2, Refreshed.applied 1, .completed 1, .completed 2] ++ []) := by
  intro h
  have hrun : ((pushTokens Refreshed.account Refreshed.phone none Refreshed.cloud).run
      (pushTokens Refreshed.account Refreshed.phone none Refreshed.cloud).init
      (Refreshed.twoUploads ++ [Refreshed.applied 2, Refreshed.applied 1, .completed 1, .completed 2])).map
        Refreshed.view = some (true, some "second", some "third") := by
    decide +kernel
  obtain ⟨t, ht, hview⟩ := Option.map_eq_some_iff.mp hrun
  simp only [Refreshed.view, Prod.mk.injEq, decide_eq_true_eq] at hview
  obtain ⟨hsettled, hstored, hissued⟩ := hview
  have hnewest := (h.reached ht hsettled).1
  rw [hstored, hissued] at hnewest
  exact absurd hnewest (by decide)

end MagicShare.Account
