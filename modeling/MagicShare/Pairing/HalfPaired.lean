import MagicShare.Pairing.JoinService

/-! When `completePairing` leaves a device half paired.

Up to the commit of `joinNetwork` a failure changes none of the three stores. The
commit moves the device; every step after it can fail, and nothing moves the
device back. So the pipeline is all or nothing exactly when nothing fails behind
a commit that changed something (`whole_iff`). -/
namespace MagicShare.Pairing
open Cloud

/-! ### The steps up to the join -/

/-- The id a device joins with. -/
def joiningDeviceId (env : PairingEnv) (w : PairingState) : DocId := w.identity.deviceId env.freshDeviceId

theorem ensureDeviceId_some {written : Bool} {fresh : DocId} {i : DeviceIdentityService}
    {p : DocId × DeviceIdentityService} (h : i.ensureDeviceId written fresh = some p) :
    p.1 = i.deviceId fresh := by
  obtain ⟨cached, stored⟩ := i
  cases cached with
  | some cached =>
    obtain rfl := Option.some.inj h
    rfl
  | none =>
    cases stored with
    | some stored =>
      obtain rfl := Option.some.inj h
      rfl
    | none =>
      cases written with
      | false => cases h
      | true =>
        obtain rfl := Option.some.inj h
        rfl

section Call
variable {run : CallRun} {env : JoinEnv} {uid : DocId} {tokenId : String} {deviceId : DocId}
  {newDevice : Option NewDevice} {s : Store}

/-- A call that commits nothing fails and leaves the cloud as it was. -/
theorem clientJoinNetwork_uncommitted
    (h : ∀ input, (∀ failure, run ≠ .unsent failure) →
      parseJoinNetworkInput tokenId deviceId newDevice = .ok input → ¬ JoinCommits env uid input s) :
    ∃ failure, clientJoinNetwork run env (some uid) tokenId deviceId newDevice s = (.error failure, s) := by
  have hjoin : (∀ failure, run ≠ .unsent failure) →
      ∃ e, joinNetwork env (some uid) tokenId deviceId newDevice s = (.error e, s) := by
    intro hsent
    simp only [joinNetwork]
    cases hparse : parseJoinNetworkInput tokenId deviceId newDevice with
    | error e => exact ⟨e, rfl⟩
    | ok input => exact joinNetworkLogic_uncommitted (h input hsent hparse)
  cases run with
  | unsent failure => exact ⟨failure, rfl⟩
  | lost failure =>
    obtain ⟨e, he⟩ := hjoin (by simp)
    exact ⟨failure, by simp [clientJoinNetwork, he]⟩
  | answered =>
    obtain ⟨e, he⟩ := hjoin (by simp)
    exact ⟨.cloudException (cloudErrorCode e), by simp [clientJoinNetwork, he]⟩

variable (env uid s) in
/-- A call that arrives does what `joinNetworkLogic` does, and answers what it
answers unless the answer is lost. -/
theorem clientJoinNetwork_sent {input : JoinNetworkInput} (hsent : ∀ failure, run ≠ .unsent failure)
    (hparse : parseJoinNetworkInput tokenId deviceId newDevice = .ok input) :
    (clientJoinNetwork run env (some uid) tokenId deviceId newDevice s).2 = (joinNetworkLogic env uid input s).2 ∧
      ∀ result, (clientJoinNetwork run env (some uid) tokenId deviceId newDevice s).1 = .ok result ↔
        run = .answered ∧ (joinNetworkLogic env uid input s).1 = .ok result := by
  have hjoin : joinNetwork env (some uid) tokenId deviceId newDevice s = joinNetworkLogic env uid input s := by
    simp only [joinNetwork, hparse]
  cases run with
  | unsent failure => exact absurd rfl (hsent failure)
  | lost failure => exact ⟨by simp only [clientJoinNetwork, hjoin], fun result => by simp [clientJoinNetwork]⟩
  | answered =>
    simp only [clientJoinNetwork, hjoin]
    rcases joinNetworkLogic env uid input s with ⟨_ | _, t⟩
    · exact ⟨rfl, fun result => by simp⟩
    · exact ⟨rfl, fun result => by simp⟩

end Call

section
variable (env : PairingEnv) (r : PairingRequest) (w : PairingState)

/-- The pipeline gets to a `joinNetwork` whose transaction commits. -/
structure Joins (uid : DocId) (host : String) (input : JoinNetworkInput) (token : JoinTokenDoc) : Prop where
  caller : callerUid env w = some uid
  host : handshakeHost env r = some host
  identified : (w.identity.ensureDeviceId env.deviceIdWritten env.freshDeviceId).isSome
  sent : ∀ failure, env.call ≠ .unsent failure
  parsed : parseJoinNetworkInput r.payload.tokenId (joiningDeviceId env w) r.newDeviceIdentity = .ok input
  commits : JoinCommits env.join uid input w.cloud
  token : w.cloud.token input.tokenId = some token

/-- The app gets the answer of the join. -/
def Answered (uid : DocId) (input : JoinNetworkInput) : Prop :=
  env.call = .answered ∧ ¬ FailsAfterCommit env.join uid input w.cloud

/-- The handshake gives a key and secure storage takes it. -/
def InstallsKey (host : String) (key : List UInt8) : Prop :=
  receiveKey env r host = .ok key ∧ env.groupKeyWritten = true

end

section
variable {env : PairingEnv} {r : PairingRequest} {w : PairingState} {uid : DocId} {host : String}
  {input : JoinNetworkInput} {token : JoinTokenDoc}

/-- Without a committed join no store changes, except that a device that was
signed out may be signed in. -/
theorem completePairing_unjoined (h : ∀ uid host input token, ¬ Joins env r w uid host input token) :
    (∀ a, (completePairing env r w).1 ≠ some (.success a)) ∧ (completePairing env r w).2.cloud = w.cloud ∧
      (completePairing env r w).2.groupKey = w.groupKey ∧
      ∀ u, w.uid = some u → (completePairing env r w).2.uid = some u := by
  cases huid : callerUid env w with
  | none => simp [completePairing, huid]
  | some uid =>
    have hkeeps : ∀ u, w.uid = some u → some uid = some u := by
      intro u hu
      rw [← huid, callerUid, hu, Option.some_or]
    cases hhost : handshakeHost env r with
    | none => simpa [completePairing, huid, hhost] using hkeeps
    | some host =>
      cases hid : w.identity.ensureDeviceId env.deviceIdWritten env.freshDeviceId with
      | none => simpa [completePairing, huid, hhost, hid] using hkeeps
      | some p =>
        obtain ⟨deviceId, identity⟩ := p
        obtain rfl : deviceId = joiningDeviceId env w := ensureDeviceId_some hid
        obtain ⟨failure, hcall⟩ : ∃ failure, clientJoinNetwork env.call env.join (some uid)
            r.payload.tokenId (joiningDeviceId env w) r.newDeviceIdentity w.cloud = (.error failure, w.cloud) := by
          refine clientJoinNetwork_uncommitted fun input hsent hparse hcommits => ?_
          obtain ⟨⟨token, target, g⟩, _⟩ := hcommits.2
          exact h uid host input token ⟨huid, hhost, by rw [hid]; rfl, hsent, hparse, hcommits, g.found⟩
        cases failure <;> simpa [completePairing, huid, hhost, hid, hcall] using hkeeps

/-! ### The steps after the join -/

/-- A received key is one the cipher gave under the payload's public key. -/
theorem receiveKey_ok {key : List UInt8} (h : receiveKey env r host = .ok key) :
    key.length = groupKeyLengthBytes ∧ ∃ bytes, env.gcm r.payload.issuerPubKeyCompressed bytes = some key := by
  simp only [receiveKey] at h
  split at h
  · cases h
  · next issuerPubKey hpub =>
    obtain rfl := decompressPublicKey_some hpub
    split at h
    · cases h
    · cases h
    · next groupKey hexchange =>
      obtain rfl := Except.ok.inj h
      exact exchangeKey_ok hexchange

theorem receiveKey_error {outcome : PairingCompleteOutcome} (h : receiveKey env r host = .error outcome)
    (a : DocId) :
    outcome ≠ .success a := by
  rintro rfl
  simp only [receiveKey] at h
  split at h
  · cases h
  · split at h <;> cases h

/-- Without a key installed nothing happens any more. -/
theorem finishPairing_uninstalled (h : ∀ key, ¬ InstallsKey env r host key) (result : JoinNetworkResult) :
    (∀ a, (finishPairing env r host result w).1 ≠ .success a) ∧ (finishPairing env r host result w).2 = w := by
  simp only [finishPairing]
  cases hkey : receiveKey env r host with
  | error outcome => exact ⟨receiveKey_error hkey, rfl⟩
  | ok key =>
    have hwritten : env.groupKeyWritten = false := by simpa [InstallsKey, hkey] using h key
    simp [GroupKeyService.replace, hwritten]

/-- With the key installed the device signs in anew. -/
theorem finishPairing_installed {key : List UInt8} (h : InstallsKey env r host key) (result : JoinNetworkResult) :
    finishPairing env r host result w =
      reauthenticate env result {w with groupKey := ⟨some key, .ready key⟩} := by
  obtain ⟨hkey, hwritten⟩ := h
  simp [finishPairing, hkey, GroupKeyService.replace, (receiveKey_ok hkey).1, hwritten]

/-- A committed join is answered when the call resolves and its answer arrives. -/
theorem answered_iff (h : JoinCommits env.join uid input w.cloud) : Answered env w uid input ↔
    env.call = .answered ∧ ∃ result, (joinNetworkLogic env.join uid input w.cloud).1 = .ok result := by
  rw [Answered, ← (joinNetworkLogic_committed h).2]
  cases (joinNetworkLogic env.join uid input w.cloud).1 with
  | error e => simp
  | ok result => simp

/-- **A committed join.** If the app gets no answer, it stops with the device
moved; if it gets one, the rest of the pipeline runs from there. -/
theorem completePairing_joined (h : Joins env r w uid host input token) : ∃ identity,
    let joined : PairingState :=
      ⟨(joinNetworkLogic env.join uid input w.cloud).2, w.groupKey, some uid, identity⟩
    (¬ Answered env w uid input →
      (∀ a, (completePairing env r w).1 ≠ some (.success a)) ∧ (completePairing env r w).2 = joined) ∧
    (Answered env w uid input → ∃ result,
      env.join.customTokenMinter token.accountId = some result.customToken ∧
      completePairing env r w = (some (finishPairing env r host result joined).1,
        (finishPairing env r host result joined).2)) := by
  obtain ⟨⟨deviceId, identity⟩, hid⟩ := Option.isSome_iff_exists.mp h.identified
  obtain rfl : deviceId = joiningDeviceId env w := ensureDeviceId_some hid
  have hcall := clientJoinNetwork_sent env.join uid w.cloud h.sent h.parsed
  rcases hclient : clientJoinNetwork env.call env.join (some uid) r.payload.tokenId (joiningDeviceId env w)
      r.newDeviceIdentity w.cloud with ⟨failure | result, cloud⟩
  · rw [hclient] at hcall
    obtain ⟨rfl, hresult⟩ := hcall
    refine ⟨identity, fun _ => ?_, fun hanswered => ?_⟩
    · cases failure <;> simp [completePairing, h.caller, h.host, hid, hclient]
    · obtain ⟨hrun, result, hlogic⟩ := (answered_iff h.commits).mp hanswered
      cases (hresult result).mpr ⟨hrun, hlogic⟩
  · rw [hclient] at hcall
    obtain ⟨rfl, hresult⟩ := hcall
    obtain ⟨hrun, hlogic⟩ := (hresult result).mp rfl
    obtain ⟨_, token', htoken, _, hminted⟩ := joinNetworkLogic_ok hlogic
    obtain rfl := Option.some.inj (h.token.symm.trans htoken)
    refine ⟨identity, fun hunanswered => ?_, fun _ => ⟨result, hminted, ?_⟩⟩
    · exact absurd ((answered_iff h.commits).mpr ⟨hrun, result, hlogic⟩) hunanswered
    · simp [completePairing, h.caller, h.host, hid, hclient]

/-! ### All or nothing -/

/-- Nothing changed: the same accounts hold the device id, the stored group key is
the same, and a user who was signed in still is. -/
structure Untouched (d : DocId) (before after : PairingState) : Prop where
  group : ∀ a, (after.cloud.device a d).isSome ↔ (before.cloud.device a d).isSome
  key : after.groupKey.stored = before.groupKey.stored
  user : ∀ uid, before.uid = some uid → after.uid = some uid

/-- The device is in the account, with the issuer's key, signed in as the account. -/
structure Paired (d : DocId) (issuerKey : List UInt8) (accountId : DocId) (after : PairingState) : Prop where
  member : (after.cloud.device accountId d).isSome
  key : after.groupKey.stored = some issuerKey
  user : after.uid = some accountId

/-- A pairing that succeeds pairs the device with the token's account; one that
does not leaves everything as it was. -/
structure Whole (issuerKey : List UInt8) (env : PairingEnv) (r : PairingRequest) (w : PairingState) : Prop where
  completed : ∀ a, (completePairing env r w).1 = some (.success a) → ∃ tokenId token,
    joinTokenRef r.payload.tokenId = .ok (some tokenId) ∧ w.cloud.token tokenId = some token ∧
      Paired (joiningDeviceId env w) issuerKey token.accountId (completePairing env r w).2
  failed : (∀ a, (completePairing env r w).1 ≠ some (.success a)) →
    Untouched (joiningDeviceId env w) w (completePairing env r w).2

/-- What decrypts under the key agreed with the payload's public key is the
issuer's group key. -/
def OpensIssuerKey (issuerKey : List UInt8) (env : PairingEnv) (r : PairingRequest) : Prop :=
  ∀ bytes key, env.gcm r.payload.issuerPubKeyCompressed bytes = some key → key = issuerKey

/-- A custom token signs in the user it was minted for. -/
def TokensSignIn (env : PairingEnv) : Prop :=
  ∀ a customToken uid, env.join.customTokenMinter a = some customToken →
    env.signInWithCustomToken customToken = some uid → uid = a

/-- Every step behind the committed join succeeds. -/
structure Finishes (env : PairingEnv) (r : PairingRequest) (w : PairingState) (uid : DocId) (host : String)
    (input : JoinNetworkInput) (token : JoinTokenDoc) : Prop where
  answered : Answered env w uid input
  installs : ∃ key, InstallsKey env r host key
  signsIn : ∃ customToken, env.join.customTokenMinter token.accountId = some customToken ∧
    (env.signInWithCustomToken customToken).isSome

/-- The committed join changes no membership, and if a key gets installed it is
the old one and no signed-in user is deleted. -/
structure ChangesNothing (env : PairingEnv) (r : PairingRequest) (w : PairingState) (uid : DocId)
    (host : String) (input : JoinNetworkInput) (token : JoinTokenDoc) : Prop where
  noSource : w.cloud.account uid = none
  held : (w.cloud.device token.accountId (joiningDeviceId env w)).isSome
  sameKey : ∀ key, Answered env w uid input → InstallsKey env r host key → w.groupKey.stored = some key
  keepsUser : ∀ key, Answered env w uid input → InstallsKey env r host key → w.uid.isSome →
    env.deleteCurrentUser = false

/-- A committed join leaves the membership of its device as it was when there was
nothing to leave and nothing to enter. -/
theorem group_unchanged_iff (h : Joins env r w uid host input token) :
    (∀ a, ((joinNetworkLogic env.join uid input w.cloud).2.device a (joiningDeviceId env w)).isSome ↔
        (w.cloud.device a (joiningDeviceId env w)).isSome) ↔
      w.cloud.account uid = none ∧ (w.cloud.device token.accountId (joiningDeviceId env w)).isSome := by
  have hid := (parseJoinNetworkInput_ok h.parsed).2
  have hdevice := joinNetworkLogic_device h.commits h.token
  rw [hid] at hdevice
  obtain ⟨⟨token', _, g⟩, hsource, _⟩ := h.commits.2
  obtain rfl := Option.some.inj (g.found.symm.trans h.token)
  rw [hid] at hsource
  constructor
  · intro hsame
    refine ⟨?_, (hsame _).mp ((hdevice _).mpr (.inl rfl))⟩
    by_contra hne
    have hacc := Option.isSome_iff_ne_none.mpr hne
    rcases (hdevice uid).mp ((hsame uid).mpr (hsource hacc)) with hself | ⟨_, hkept⟩
    · exact g.notSelf hself
    · exact hkept ⟨rfl, hacc⟩
  · rintro ⟨hnone, hheld⟩ a
    rw [hdevice]
    constructor
    · rintro (rfl | ⟨hsome, _⟩)
      · exact hheld
      · exact hsome
    · exact fun hsome => .inr ⟨hsome, by simp [hnone]⟩

/-- A pipeline that stops behind the join with nothing installed. -/
theorem untouched_uninstalled (h : Joins env r w uid host input token) {after : PairingState}
    (hnot : ∀ key, Answered env w uid input → ¬ InstallsKey env r host key)
    (hcloud : after.cloud = (joinNetworkLogic env.join uid input w.cloud).2)
    (hkey : after.groupKey = w.groupKey) (huser : after.uid = some uid) :
    Untouched (joiningDeviceId env w) w after ↔ ChangesNothing env r w uid host input token := by
  have hgroup := group_unchanged_iff h
  rw [← hcloud] at hgroup
  constructor
  · intro hu
    obtain ⟨hnone, hheld⟩ := hgroup.mp hu.group
    exact ⟨hnone, hheld, fun key ha hi => absurd hi (hnot key ha), fun key ha hi => absurd hi (hnot key ha)⟩
  · intro hc
    refine ⟨hgroup.mpr ⟨hc.noSource, hc.held⟩, by rw [hkey], fun u hu => ?_⟩
    have hcaller := h.caller
    rw [callerUid, hu, Option.some_or] at hcaller
    rw [huser, hcaller]

/-- A pipeline that stops at the custom token, with the key installed. -/
theorem untouched_installed (h : Joins env r w uid host input token) {after : PairingState} {key : List UInt8}
    (hans : Answered env w uid input) (hinst : InstallsKey env r host key)
    (hcloud : after.cloud = (joinNetworkLogic env.join uid input w.cloud).2)
    (hkey : after.groupKey.stored = some key)
    (huser : after.uid = if env.deleteCurrentUser then none else some uid) :
    Untouched (joiningDeviceId env w) w after ↔ ChangesNothing env r w uid host input token := by
  have hgroup := group_unchanged_iff h
  rw [← hcloud] at hgroup
  have honly : ∀ key', InstallsKey env r host key' → key' = key := fun key' hi =>
    Except.ok.inj (hi.1.symm.trans hinst.1)
  constructor
  · intro hu
    obtain ⟨hnone, hheld⟩ := hgroup.mp hu.group
    refine ⟨hnone, hheld, fun key' _ hi => ?_, fun key' _ _ hsome => ?_⟩
    · rw [honly key' hi, ← hkey, hu.key]
    · obtain ⟨u, hu'⟩ := Option.isSome_iff_exists.mp hsome
      have hafter := hu.user u hu'
      rw [huser] at hafter
      by_contra hdel
      rw [if_pos (by simpa using hdel)] at hafter
      cases hafter
  · intro hc
    refine ⟨hgroup.mpr ⟨hc.noSource, hc.held⟩, ?_, fun u hu => ?_⟩
    · rw [hkey, hc.sameKey key hans hinst]
    · have hcaller := h.caller
      rw [callerUid, hu, Option.some_or] at hcaller
      rw [huser, hc.keepsUser key hans hinst (by rw [hu]; rfl), if_neg (by simp), hcaller]

/-- A pipeline that finishes pairs the device. -/
theorem paired_of_finishes {issuerKey : List UInt8} (hopen : OpensIssuerKey issuerKey env r)
    (htokens : TokensSignIn env) (h : Joins env r w uid host input token)
    (hf : Finishes env r w uid host input token) :
    ∃ a, (completePairing env r w).1 = some (.success a) ∧
      Paired (joiningDeviceId env w) issuerKey token.accountId (completePairing env r w).2 := by
  obtain ⟨hans, ⟨key, hinst⟩, customToken, hminted, hsigns⟩ := hf
  obtain ⟨newUid, hnew⟩ := Option.isSome_iff_exists.mp hsigns
  obtain ⟨identity, _, hjoined⟩ := completePairing_joined h
  obtain ⟨result, hresult, hcomplete⟩ := hjoined hans
  have htoken : result.customToken = customToken := Option.some.inj (hresult.symm.trans hminted)
  rw [hcomplete, finishPairing_installed hinst]
  simp only [reauthenticate, htoken, hnew]
  refine ⟨_, rfl, ?_, ?_, ?_⟩
  · have hid := (parseJoinNetworkInput_ok h.parsed).2
    have hmember := (joinNetworkLogic_device h.commits h.token token.accountId).mpr (.inl rfl)
    rw [hid] at hmember
    cases env.deleteCurrentUser <;> exact hmember
  · obtain ⟨_, bytes, hgcm⟩ := receiveKey_ok hinst.1
    cases env.deleteCurrentUser <;> exact congrArg some (hopen bytes key hgcm)
  · exact congrArg some (htokens _ _ _ hminted hnew)

/-- A pipeline that does not finish fails, and leaves everything as it was exactly
when nothing behind the join changes anything. -/
theorem untouched_of_unfinished (h : Joins env r w uid host input token)
    (hf : ¬ Finishes env r w uid host input token) :
    (∀ a, (completePairing env r w).1 ≠ some (.success a)) ∧
      (Untouched (joiningDeviceId env w) w (completePairing env r w).2 ↔
        ChangesNothing env r w uid host input token) := by
  obtain ⟨identity, hlost, hjoined⟩ := completePairing_joined h
  by_cases hans : Answered env w uid input
  · obtain ⟨result, hresult, hcomplete⟩ := hjoined hans
    rw [hcomplete]
    by_cases hinst : ∃ key, InstallsKey env r host key
    · obtain ⟨key, hinst⟩ := hinst
      have hnew : env.signInWithCustomToken result.customToken = none := by
        by_contra hne
        exact hf ⟨hans, ⟨key, hinst⟩, result.customToken, hresult, Option.isSome_iff_ne_none.mpr hne⟩
      rw [finishPairing_installed hinst]
      simp only [reauthenticate, hnew]
      refine ⟨by simp, untouched_installed h hans hinst ?_ ?_ ?_⟩ <;> cases env.deleteCurrentUser <;> rfl
    · have hnot : ∀ key, ¬ InstallsKey env r host key := fun key hi => hinst ⟨key, hi⟩
      obtain ⟨houtcome, hstate⟩ := finishPairing_uninstalled hnot result
      refine ⟨fun a ha => houtcome a (Option.some.inj ha), ?_⟩
      rw [hstate]
      exact untouched_uninstalled h (fun key _ => hnot key) rfl rfl rfl
  · obtain ⟨houtcome, hstate⟩ := hlost hans
    refine ⟨houtcome, ?_⟩
    rw [hstate]
    exact untouched_uninstalled h (fun key ha => absurd ha hans) rfl rfl rfl

end

/-- **Pairing is all or nothing exactly when a committed join is followed by no
failure, or by one that finds nothing changed.** -/
theorem whole_iff (issuerKey : List UInt8) (env : PairingEnv) (r : PairingRequest) (w : PairingState)
    (hopen : OpensIssuerKey issuerKey env r) (htokens : TokensSignIn env) :
    Whole issuerKey env r w ↔ ∀ uid host input token, Joins env r w uid host input token →
      Finishes env r w uid host input token ∨ ChangesNothing env r w uid host input token := by
  constructor
  · intro hw uid host input token h
    by_cases hf : Finishes env r w uid host input token
    · exact .inl hf
    · obtain ⟨houtcome, hiff⟩ := untouched_of_unfinished h hf
      exact .inr (hiff.mp (hw.failed houtcome))
  · intro hall
    by_cases hjoins : ∃ uid host input token, Joins env r w uid host input token
    · obtain ⟨uid, host, input, token, h⟩ := hjoins
      by_cases hf : Finishes env r w uid host input token
      · obtain ⟨a, hsuccess, hpaired⟩ := paired_of_finishes hopen htokens h hf
        refine ⟨fun _ _ => ?_, fun hnot => absurd hsuccess (hnot a)⟩
        exact ⟨input.tokenId, token, (parseJoinNetworkInput_ok h.parsed).1, h.token, hpaired⟩
      · obtain ⟨houtcome, hiff⟩ := untouched_of_unfinished h hf
        refine ⟨fun a ha => absurd ha (houtcome a), fun _ => hiff.mpr ?_⟩
        exact (hall uid host input token h).resolve_left hf
    · have hnone : ∀ uid host input token, ¬ Joins env r w uid host input token :=
        fun uid host input token h => hjoins ⟨uid, host, input, token, h⟩
      obtain ⟨houtcome, hcloud, hkey, huser⟩ := completePairing_unjoined hnone
      exact ⟨fun a ha => absurd ha (houtcome a), fun _ => ⟨fun a => by rw [hcloud], by rw [hkey], huser⟩⟩

namespace Move
open Cloud.Retry

/-- A group that offers a code, and a device that is alone in a group of its own. -/
def cloud : Store :=
  [Call.createAccount 2 caller, .registerDevice 2 caller ⟨joiner, "Phone", .phone, none, .android, none⟩].foldl
    (fun s c => c.apply s) offered

def oldKey : List UInt8 := List.replicate groupKeyLengthBytes 1
def issuerKey : List UInt8 := List.replicate groupKeyLengthBytes 2
def wrappedKey : List UInt8 := List.replicate 60 3

def state : PairingState := ⟨cloud, ⟨some oldKey, .ready oldKey⟩, some caller, ⟨some joiner, some joiner⟩⟩

def request : PairingRequest where
  payload := ⟨"first-code", ["192.168.1.10"], 53317, 2 :: List.replicate 32 5, 2⟩

/-- The steps when the issuer answers the handshake with `answer`. -/
def env (answer : LanAnswer) : PairingEnv where
  signInAnonymously := none
  lanReachabilityProbe addresses _ := addresses.head?
  freshDeviceId := joiner
  join := Retry.env 3
  onCurve _ := true
  gcm _ bytes := if bytes = wrappedKey then some issuerKey else none
  lan _ _ _ := answer
  signInWithCustomToken customToken := if customToken = group.val then some group else none

theorem opens (answer : LanAnswer) : OpensIssuerKey issuerKey (env answer) request := by
  intro bytes key h
  simp only [env] at h
  split_ifs at h
  exact (Option.some.inj h).symm

theorem signsIn (answer : LanAnswer) : TokensSignIn (env answer) := by
  intro a customToken uid hminted hsigns
  simp only [env] at hsigns
  split_ifs at hsigns with hgroup
  obtain rfl := Option.some.inj hsigns
  exact DocId.val_injective (hgroup.symm.trans (Option.some.inj hminted).symm)

end Move

/-- With the issuer's answer the move goes through. -/
theorem whole_move :
    (completePairing (Move.env (.response 200 none (.wrapped Move.wrappedKey))) Move.request Move.state).1 =
      some (.success Retry.group) ∧
    Whole Move.issuerKey (Move.env (.response 200 none (.wrapped Move.wrappedKey))) Move.request Move.state := by
  refine ⟨by decide +kernel, ?_⟩
  refine (whole_iff _ _ _ _ (Move.opens _) (Move.signsIn _)).mpr fun uid host input token h => .inl ?_
  refine ⟨⟨rfl, ?_⟩, ⟨Move.issuerKey, rfl, rfl⟩, ?_⟩
  · rintro ⟨_, token', _, ⟨_, hsweep⟩ | hlist | hminter⟩
    · exact hsweep rfl
    · cases hlist
    · cases hminter
  · have href : joinTokenRef "first-code" = .ok (some Retry.firstCode) := by decide +kernel
    have hname := (parseJoinNetworkInput_ok h.parsed).1
    have hcode : input.tokenId = Retry.firstCode := Option.some.inj (Except.ok.inj (hname.symm.trans href))
    have hgroup : (Move.cloud.token Retry.firstCode).map JoinTokenDoc.accountId = some Retry.group := by
      decide +kernel
    obtain ⟨token', htoken, haccount⟩ := Option.map_eq_some_iff.mp hgroup
    rw [← hcode] at htoken
    obtain rfl := Option.some.inj (h.token.symm.trans htoken)
    exact ⟨Retry.group.val, by rw [haccount]; rfl, rfl⟩

/-- When the handshake fails, the device is in the new group with the key of the
old one. -/
theorem half_paired_when_unreachable :
    ¬ ∀ issuerKey env r w, OpensIssuerKey issuerKey env r → TokensSignIn env → Whole issuerKey env r w := by
  intro h
  have hw := h Move.issuerKey (Move.env .unreachable) Move.request Move.state (Move.opens _) (Move.signsIn _)
  have houtcome : (completePairing (Move.env .unreachable) Move.request Move.state).1 =
      some (.lanHandshakeFailure .transport) := by decide +kernel
  have hbefore : (Move.state.cloud.device Retry.caller Retry.joiner).isSome := by decide +kernel
  have hafter : ((completePairing (Move.env .unreachable) Move.request Move.state).2.cloud.device
      Retry.caller Retry.joiner).isSome = false := by decide +kernel
  have hkept := ((hw.failed (by simp [houtcome])).group Retry.caller).mpr hbefore
  exact Bool.false_ne_true (hafter.symm.trans hkept)

end MagicShare.Pairing
