import MagicShare.Account.Places

/-! Whether a successful pairing survives what the app does about it.

The reset of a vanished group empties the key slot and the device id slot and deletes
the user, whatever they are by then; a bootstrap of the old group may register the
device there again, and write a key of its own. Along every run in which no reset is
triggered and nothing else writes what pairing has written, a pairing that succeeds
leaves the key, the user, the device id and the device's document as it should
(`survives_of_meets`). -/
namespace MagicShare.Account
open Cloud Pairing

namespace JoiningApp

/-! ### The property and its condition -/

/-- The key and the device id are in their slots, the key is in memory, the user is the
token's account, and the device is in that account only. -/
structure Survives (r : PairingRequest) (s : JoiningApp) (deviceId : DocId) (key : List UInt8) : Prop where
  stored : keyIn s.services.keys.stored = some key
  memory : s.services.keys.state = .ready key
  persisted : s.identity.stored = some deviceId
  member : ∃ a, tokenAccount r s.services.cloud = some a ∧ s.currentUser = some a ∧
    ∀ b, (s.services.cloud.device b deviceId).isSome ↔ b = a

/-- A successful pairing has survived once nothing is under way. -/
def PairingSurvives (r : PairingRequest) (s : JoiningApp) : Prop :=
  ∀ deviceId key, s.pairing.paired = some (deviceId, key) → s.Quiescent → s.Survives r deviceId key

/-- No reset is under way, and the device id in memory, if any, is the persisted one. -/
structure Starts (s : JoiningApp) : Prop where
  uncalled : s.pairing = .uncalled
  keys : s.services.keys.Sound
  clears : ∀ c ∈ s.services.keys.calls, c.operation = .clear → c.phase = .finished
  resets : ∀ phase ∈ s.resets, phase = .finished
  identity : ∀ deviceId, s.identity.cached = some deviceId → s.identity.stored = some deviceId

/-- The device has documents in the caller's account and the token's only. -/
def InNoThirdGroup (r : PairingRequest) (s : JoiningApp) (deviceId : DocId) : Prop :=
  ∀ path ∈ s.services.cloud.devices.keys, path.2 = deviceId → tokenAccount r s.services.cloud = some path.1 ∨
    s.currentUser = some path.1 ∧ (s.services.cloud.account path.1).isSome

/-- No step undoes what pairing has done: the device is in no third group when it moves,
the repository sees no account document vanish, no key is written after the one that
pairing installs and none shown after it, no other id is adopted than the one that
moves, and no account but the token's gets the device back. -/
def Undisturbed (r : PairingRequest) (s : JoiningApp) : JoiningEvent → Prop
  | .proceed => ∀ deviceId ∈ s.pairing.moving, s.InNoThirdGroup r deviceId
  | .accountSnapshot attachment version => ∀ a ∈ s.services.repository.attachments[attachment]?,
    ∀ cloud ∈ s.version? version, accountAt cloud a.accountId = none →
      s.services.repository.accountDocSeenExisting = true → s.services.repository.externalDeletionFired = true
  | .keyTakesEffect call => ∀ key ∈ s.pairing.written s.services.keys, ∀ c ∈ s.services.keys.calls[call]?,
    keyIn (c.operation.effect s.services.keys.stored) = some key
  | .keyResumes call => ∀ key ∈ s.pairing.shown s.services.keys, ∀ c ∈ s.services.keys.calls[call]?,
    c.left = some key
  | .adopted _ existing => ∀ deviceId ∈ s.pairing.deviceId, ∀ adopted ∈ existing, adopted = deviceId
  | .registerDevice bootstrap _ _ _ => ∀ deviceId ∈ s.pairing.deviceId, ∀ target ∈ s.pairing.target,
    ∀ caller ∈ s.currentUser, ∀ b ∈ s.services.bootstraps[bootstrap]?,
      b.phase = .registering deviceId → caller ≠ target → s.services.cloud.account caller = none
  | _ => True

instance (r : PairingRequest) (s : JoiningApp) (deviceId : DocId) : Decidable (s.InNoThirdGroup r deviceId) :=
  inferInstanceAs (Decidable (∀ path ∈ s.services.cloud.devices.keys, _))

instance (r : PairingRequest) (s : JoiningApp) (e : JoiningEvent) : Decidable (s.Undisturbed r e) :=
  match e with
  | .proceed => inferInstanceAs (Decidable (∀ deviceId ∈ s.pairing.moving, _))
  | .accountSnapshot attachment version =>
    inferInstanceAs (Decidable (∀ a ∈ s.services.repository.attachments[attachment]?,
      ∀ cloud ∈ s.version? version, _ → _))
  | .keyTakesEffect call =>
    inferInstanceAs (Decidable (∀ key ∈ s.pairing.written s.services.keys, ∀ c ∈ s.services.keys.calls[call]?, _))
  | .keyResumes call =>
    inferInstanceAs (Decidable (∀ key ∈ s.pairing.shown s.services.keys, ∀ c ∈ s.services.keys.calls[call]?, _))
  | .adopted _ existing => inferInstanceAs (Decidable (∀ deviceId ∈ s.pairing.deviceId, ∀ adopted ∈ existing, _))
  | .registerDevice bootstrap _ _ _ =>
    inferInstanceAs (Decidable (∀ deviceId ∈ s.pairing.deviceId, ∀ target ∈ s.pairing.target,
      ∀ caller ∈ s.currentUser, ∀ b ∈ s.services.bootstraps[bootstrap]?, _ → _))
  | .completePairing | .userIdEmitted | .uidChange | .repositoryHears | .bootstrapHears _ | .repositoryResumes _
  | .deviceIdResolved _ _ _ | .deviceSnapshot _ _ | .accountError _ | .devicesError _ | .bootstrapResumes _ _
  | .deviceIdEnsured _ _ _ | .createAccount _ _ | .answered _ _ | .groupKeyEnsured _ | .callFails _
  | .resetProceeds _ _ => .isTrue trivial

end JoiningApp

/-! ### One step -/

/-- Every place holds what pairing has done to it, and no reset is running. -/
structure Undamaged (env : PairingEnv) (r : PairingRequest) (s : JoiningApp) : Prop where
  keys : HoldsKey s.pairing s.services.keys
  device : HoldsDevice r s.pairing s.services.cloud
  identity : HoldsId s.pairing s.identity
  user : HoldsUser env s.pairing s.currentUser
  resets : ∀ phase ∈ s.resets, phase = .finished

namespace Undamaged
variable {env : PairingEnv} {r : PairingRequest} {s t : JoiningApp}

/-- Without a device id of pairing, only the rest of the app counts. -/
theorem early (h : Undamaged env r s) (hnone : t.pairing.deviceId = none) (hkeys : t.services.keys = s.services.keys)
    (hidentity : t.identity = s.identity) (hresets : t.resets = s.resets) : Undamaged env r t := by
  refine ⟨?_, ⟨fun _ _ hid => ?_, fun _ _ _ _ hphase => ?_⟩, ?_, ⟨fun _ hresult => ?_, fun _ _ _ hphase => ?_⟩, ?_⟩
  · rw [hkeys]
    refine h.keys.unreplaced ?_ fun _ _ _ _ hphase => ?_
    · cases hphase : t.pairing <;> simp_all [PairingPhase.deviceId, PairingPhase.installed]
    · simp [hphase, PairingPhase.deviceId] at hnone
  · simp [hnone] at hid
  · simp [hphase, PairingPhase.deviceId] at hnone
  · rw [hidentity]
    exact ⟨h.identity.persisted, fun _ hid => by simp [hnone] at hid⟩
  · cases hphase : t.pairing <;> simp_all [PairingPhase.deviceId, PairingPhase.result]
  · simp [hphase, PairingPhase.deviceId] at hnone
  · rw [hresets]
    exact h.resets

theorem fail (h : Undamaged env r s) (outcome : Option PairingCompleteOutcome) : Undamaged env r (s.fail outcome) :=
  h.early rfl rfl rfl rfl

theorem rejected (h : Undamaged env r s) (e : Rejection) (cloud : Store) :
    Undamaged env r ((s.withCloud cloud).rejected env e) :=
  h.early rfl rfl rfl rfl

/-- A deleted user is the only thing that goes. -/
theorem removeUser_eq (s : JoiningApp) :
    ∃ currentUser userIdChanges, s.removeUser = {s with currentUser := currentUser, userIdChanges := userIdChanges} := by
  simp only [JoiningApp.removeUser]
  split
  · exact ⟨_, _, rfl⟩
  · exact ⟨_, _, rfl⟩

theorem resolveHost (h : Undamaged env r s) : Undamaged env r (s.resolveHost r) := by
  simp only [JoiningApp.resolveHost]
  split <;> exact h.early rfl rfl rfl rfl

/-! ### The steps of pairing -/

theorem joinNetwork (h : Undamaged env r s) {host : String} {deviceId : DocId} (hphase : s.pairing = .joining host deviceId)
    (hc : s.InNoThirdGroup r deviceId) : Undamaged env r (s.joinNetwork env r host deviceId) := by
  simp only [JoiningApp.joinNetwork]
  split
  · exact h.fail _
  · exact h.fail _
  · next uid huser _ =>
    split
    · exact h.fail _
    · next input hparse =>
      split_ifs
      · split
        · exact h.rejected _ _
        · next decision cloud htx =>
          obtain ⟨hmoved, hself⟩ : Moved r cloud deviceId decision.accountId ∧ uid ≠ decision.accountId := by
            refine moved_of_joinNetworkTx hparse htx fun b hb => ?_
            have hkey : (b, deviceId) ∈ s.services.cloud.devices.keys :=
              (Documents.Collection.mem_keys_iff _ _).mpr hb
            simpa [huser] using hc (b, deviceId) hkey rfl
          have hid : s.identity.cached = some deviceId := h.identity.cached deviceId (by rw [hphase]; rfl)
          refine ⟨h.keys.unreplaced rfl (by simp), hmoved.holds rfl rfl fun _ _ _ _ heq => ?_,
            h.identity.of_cached rfl hid, holdsUser_unanswered rfl, h.resets⟩
          cases heq
          exact hself
      · exact h.fail _

/-- The device stays where it is while pairing goes on. -/
theorem advance (h : Undamaged env r s) {phase : PairingPhase} (hphase : s.pairing = phase)
    (hid : t.pairing.deviceId = phase.deviceId) (htarget : t.pairing.target = phase.target)
    (hcloud : t.services.cloud = s.services.cloud) (hidentity : t.identity = s.identity) (hresets : t.resets = s.resets)
    (hsweeping : ∀ host deviceId uid decision, t.pairing ≠ .sweeping host deviceId uid decision)
    (hkeys : HoldsKey t.pairing t.services.keys) (huser : HoldsUser env t.pairing t.currentUser) :
    Undamaged env r t := by
  subst hphase
  refine ⟨hkeys, ⟨?_, fun _ _ _ _ heq => absurd heq (hsweeping _ _ _ _)⟩, ⟨?_, ?_⟩, huser, ?_⟩
  · rw [hid, htarget, hcloud]
    exact h.device.moved
  · rw [hidentity]
    exact h.identity.persisted
  · rw [hid, hidentity]
    exact h.identity.cached
  · rw [hresets]
    exact h.resets

theorem sweep (h : Undamaged env r s) {host : String} {deviceId uid : DocId} {decision : JoinDecision}
    (hphase : s.pairing = .sweeping host deviceId uid decision) {cloud : Store} {result : Except Rejection Unit}
    (hsweep : joinSweep env.join.sweep uid deviceId decision s.services.cloud = (result, cloud)) :
    Undamaged env r {s.withCloud cloud with pairing := .responding host deviceId decision} := by
  have hmoved : Moved r s.services.cloud deviceId decision.accountId :=
    h.device.moved deviceId decision.accountId (by rw [hphase]; rfl) (by rw [hphase]; rfl)
  have hswept := hmoved.sweep env.join.sweep (h.device.sweeping host deviceId uid decision hphase) decision
  rw [hsweep] at hswept
  have hcached : s.identity.cached = some deviceId := h.identity.cached deviceId (by rw [hphase]; rfl)
  exact ⟨h.keys.unreplaced rfl (by simp), hswept.holds rfl rfl (by simp), h.identity.of_cached rfl hcached,
    holdsUser_unanswered rfl, h.resets⟩

/-- What pairing does between two awaits keeps what it has done before. -/
theorem proceed (h : Undamaged env r s) (htokens : TokensSignIn env)
    (hc : ∀ deviceId ∈ s.pairing.moving, s.InNoThirdGroup r deviceId) (hst : s.proceed env r = some t) :
    Undamaged env r t := by
  cases hphase : s.pairing with
  | uncalled | succeeded | failed =>
    simp only [JoiningApp.proceed, hphase] at hst
    cases hst
  | signingInAnonymously =>
    simp only [JoiningApp.proceed, hphase] at hst
    split at hst <;> obtain rfl := Option.some.inj hst
    · exact h.fail _
    · refine Undamaged.resolveHost (h.early ?_ rfl rfl rfl)
      simp only [JoiningApp.changeUser, hphase, PairingPhase.deviceId]
  | probing =>
    simp only [JoiningApp.proceed, hphase] at hst
    split at hst <;> obtain rfl := Option.some.inj hst
    · exact h.fail _
    · exact h.early rfl rfl rfl rfl
  | ensuringDeviceId host =>
    simp only [JoiningApp.proceed, JoiningApp.ensureDeviceId, hphase] at hst
    cases hensured : s.identity.ensureDeviceId env.deviceIdWritten env.freshDeviceId with
    | none =>
      simp only [hensured] at hst
      obtain rfl := Option.some.inj hst
      exact h.fail _
    | some p =>
      obtain ⟨deviceId, identity⟩ := p
      simp only [hensured] at hst
      obtain rfl := Option.some.inj hst
      obtain ⟨hid, hcached⟩ := h.identity.ensureDeviceId hensured
      exact ⟨h.keys.unreplaced rfl (by simp), ⟨by simp [PairingPhase.target, PairingPhase.result], by simp⟩,
        hid.of_cached rfl hcached, holdsUser_unanswered rfl, h.resets⟩
  | joining host deviceId =>
    simp only [JoiningApp.proceed, hphase] at hst
    obtain rfl := Option.some.inj hst
    exact h.joinNetwork hphase (hc deviceId (by rw [hphase]; rfl))
  | sweeping host deviceId uid decision =>
    simp only [JoiningApp.proceed, hphase] at hst
    split at hst <;> obtain rfl := Option.some.inj hst
    · exact h.rejected _ _
    · next hsweep => exact h.sweep hphase hsweep
  | responding host deviceId decision =>
    simp only [JoiningApp.proceed, hphase] at hst
    split at hst <;> obtain rfl := Option.some.inj hst
    · exact h.fail _
    · next result hanswer =>
      obtain ⟨haccount, hminted⟩ := joinResponse_ok (clientAnswer_ok hanswer)
      refine h.advance hphase rfl (congrArg some haccount) rfl rfl rfl (by simp) (h.keys.unreplaced rfl (by simp))
        ⟨fun _ hresult => ?_, by simp⟩
      obtain rfl := Option.some.inj hresult
      rw [haccount, hminted]
  | exchangingKey host deviceId result =>
    simp only [JoiningApp.proceed, hphase] at hst
    split at hst
    · obtain rfl := Option.some.inj hst
      exact h.fail _
    · next key _ =>
      split_ifs at hst with hwritten <;> obtain rfl := Option.some.inj hst
      · exact h.fail _
      · have hlen : key.length = groupKeyLengthBytes := by
          by_contra hne
          exact hwritten (.inl hne)
        have hkeys := h.keys.start hlen (.inr rfl : KeyOperation.replace key = .ensureForNewAccount key ∨ _)
        refine h.advance hphase rfl rfl rfl rfl rfl (by simp)
          ⟨hkeys.sound, hkeys.clears, ?_, by simp [PairingPhase.installed]⟩
          ⟨fun _ hresult => h.user.minted _ (by rw [hphase]; exact hresult), by simp⟩
        · rintro _ _ _ _ heq
          cases heq
          exact ⟨hlen, .issued, by simp [JoiningApp.startKeyCall, JoiningApp.withServices, GroupKeyRun.start], .inl rfl⟩
  | replacing deviceId result key call =>
    simp only [JoiningApp.proceed, hphase] at hst
    split_ifs at hst with hfinished
    obtain rfl := Option.some.inj hst
    obtain ⟨phase, hget, hphase'⟩ := (h.keys.replacing _ _ _ _ hphase).running
    have hended : phase = .finished := by simpa [hget] using hfinished
    subst hended
    have hinstalled : keyIn s.services.keys.stored = some key ∧ keyShown s.services.keys.state = some key := by
      simpa using hphase'
    refine h.advance hphase rfl rfl rfl rfl rfl (by simp) ⟨h.keys.sound, h.keys.clears, by simp, ?_⟩ ⟨?_, by simp⟩
    · intro _ hkey
      obtain rfl := Option.some.inj hkey
      exact hinstalled
    · intro _ hresult
      exact h.user.minted _ (by rw [hphase]; exact hresult)
  | deletingCurrentUser deviceId result key =>
    simp only [JoiningApp.proceed, hphase] at hst
    obtain ⟨currentUser, userIdChanges, hremoved⟩ : ∃ currentUser userIdChanges,
        (if env.deleteCurrentUser then s.removeUser else s) =
          {s with currentUser := currentUser, userIdChanges := userIdChanges} := by
      split
      · exact removeUser_eq s
      · exact ⟨_, _, rfl⟩
    rw [hremoved] at hst
    obtain rfl := Option.some.inj hst
    refine h.advance hphase rfl rfl rfl rfl rfl (by simp) ⟨h.keys.sound, h.keys.clears, by simp, ?_⟩ ⟨?_, by simp⟩
    · exact fun _ hkey => h.keys.installed _ (by rw [hphase]; exact hkey)
    · exact fun _ hresult => h.user.minted _ (by rw [hphase]; exact hresult)
  | signingInWithCustomToken deviceId result key =>
    simp only [JoiningApp.proceed, hphase] at hst
    split at hst <;> obtain rfl := Option.some.inj hst
    · exact h.fail _
    · next uid hsigns =>
      have hminted : env.join.customTokenMinter result.accountId = some result.customToken :=
        h.user.minted result (by rw [hphase]; rfl)
      refine h.advance hphase rfl rfl rfl rfl rfl (by simp) ⟨h.keys.sound, h.keys.clears, by simp, ?_⟩ ⟨?_, ?_⟩
      · exact fun _ hkey => h.keys.installed _ (by rw [hphase]; exact hkey)
      · exact fun _ hresult => h.user.minted _ (by rw [hphase]; exact hresult)
      · rintro _ _ _ heq
        cases heq
        exact congrArg some (htokens _ _ _ hminted hsigns)

/-! ### The steps of the others -/

/-- A step that concerns the bootstraps or the repository alone. -/
theorem serve (h : Undamaged env r s) {e : BootstrapEvent AccountDoc} (he : ¬ BootstrapRun.Writes e)
    (hst : s.serve e = some t) : Undamaged env r t := by
  obtain ⟨services, hservices, rfl⟩ := Option.map_eq_some_iff.mp hst
  obtain ⟨-, hkeys, hcloud⟩ := BootstrapRun.keeps_step hservices he
  exact ⟨hkeys ▸ h.keys, hcloud ▸ h.device, h.identity, h.user, h.resets⟩

theorem serveKeys (h : Undamaged env r s) {e : KeyEvent} (hst : s.serve (.keys e) = some t)
    (hgoes : (∃ i, e = .takeEffect i) ∨ ∃ i, e = .resume i)
    (heffect : ∀ i c, e = .takeEffect i → s.services.keys.calls[i]? = some c →
      ∀ key, s.pairing.written s.services.keys = some key → keyIn (c.operation.effect s.services.keys.stored) = some key)
    (hresume : ∀ i c, e = .resume i → s.services.keys.calls[i]? = some c →
      ∀ key, s.pairing.shown s.services.keys = some key → c.left = some key) : Undamaged env r t := by
  obtain ⟨services, hservices, rfl⟩ := Option.map_eq_some_iff.mp hst
  obtain ⟨keys, hkeys, rfl⟩ := Option.map_eq_some_iff.mp hservices
  have hm := GroupKeyRun.moves_of_step hkeys
  refine ⟨h.keys.step hm (fun operation heq => ?_) heffect hresume, h.device, h.identity, h.user, h.resets⟩
  -- a call that goes on starts no other
  have hlength : keys.calls.length = s.services.keys.calls.length := by
    cases hm with
    | refused he | started he =>
      rcases hgoes with ⟨i, rfl⟩ | ⟨i, rfl⟩
      · exact absurd rfl (he i).1
      · exact absurd rfl (he i).2
    | applied | clearing | finished => simp [GroupKeyRun.finish, GroupKeyRun.setPhase]
  have hstarted : keys = s.services.keys.start operation := heq
  rw [hstarted] at hlength
  simp [GroupKeyRun.start] at hlength

theorem keyResumes (h : Undamaged env r s) {call : Nat} (hst : s.keyResumes call = some t)
    (hc : ∀ key ∈ s.pairing.shown s.services.keys, ∀ c ∈ s.services.keys.calls[call]?, c.left = some key) :
    Undamaged env r t := by
  obtain ⟨resumed, hresumed, rfl⟩ := Option.map_eq_some_iff.mp hst
  have hafter : Undamaged env r resumed := by
    refine h.serveKeys hresumed (.inr ⟨call, rfl⟩) (by simp) fun i c he hget key hkey => ?_
    obtain rfl := KeyEvent.resume.inj he
    exact hc key hkey c hget
  split_ifs with hclearing
  · -- no `clear` is running
    obtain ⟨c, hget, hphase⟩ := Option.map_eq_some_iff.mp hclearing
    have hmem := List.mem_of_getElem? hget
    have hfinished := hafter.keys.clears c hmem (hafter.keys.sound.clearing c hmem hphase)
    rw [hphase] at hfinished
    cases hfinished
  · exact hafter

theorem ensureDeviceId (h : Undamaged env r s) (written : Bool) (fresh : DocId) :
    Undamaged env r (s.ensureDeviceId written fresh).2 := by
  simp only [JoiningApp.ensureDeviceId]
  split
  · next hensured => exact ⟨h.keys, h.device, (h.identity.ensureDeviceId hensured).1, h.user, h.resets⟩
  · exact h

theorem adoptDeviceId (h : Undamaged env r s) {existing : Option DocId}
    (hc : ∀ deviceId ∈ s.pairing.deviceId, ∀ adopted ∈ existing, adopted = deviceId) :
    Undamaged env r (s.adoptDeviceId existing) := by
  cases existing with
  | none => exact h
  | some adopted =>
    refine ⟨h.keys, h.device, ⟨fun _ => id, fun deviceId hid => ?_⟩, h.user, h.resets⟩
    exact congrArg some (hc deviceId hid adopted rfl)

theorem accountSnapshot (h : Undamaged env r s) {attachment version : Nat}
    (hst : s.accountSnapshot attachment version = some t)
    (hc : s.Undisturbed r (.accountSnapshot attachment version)) : Undamaged env r t := by
  simp only [JoiningApp.accountSnapshot] at hst
  split at hst
  · next a cloud hget hversion =>
    split_ifs at hst
    obtain ⟨told, htold, rfl⟩ := Option.map_eq_some_iff.mp hst
    have hserved := h.serve id htold
    obtain ⟨services, hservices, rfl⟩ := Option.map_eq_some_iff.mp htold
    obtain ⟨repository, hrepository, rfl⟩ := Option.map_eq_some_iff.mp hservices
    have hvanished : repository.vanished = s.services.repository.vanished := by
      simp only [AccountRepository.step, hget] at hrepository
      split_ifs at hrepository
      obtain rfl := Option.some.inj hrepository
      exact onAccount_vanished _ _ _ (hc a hget cloud hversion)
    split_ifs with hgrown
    · simp [JoiningApp.withServices, hvanished] at hgrown
    · exact ⟨hserved.keys, hserved.device, hserved.identity, hserved.user, hserved.resets⟩
  · cases hst

theorem deviceSnapshot (h : Undamaged env r s) {attachment version : Nat}
    (hst : s.deviceSnapshot attachment version = some t) : Undamaged env r t := by
  simp only [JoiningApp.deviceSnapshot] at hst
  split at hst
  · split_ifs at hst
    obtain ⟨told, htold, rfl⟩ := Option.map_eq_some_iff.mp hst
    have hserved := h.serve id htold
    exact ⟨hserved.keys, hserved.device, hserved.identity, hserved.user, hserved.resets⟩
  · cases hst

theorem uidChange (h : Undamaged env r s) (hst : s.uidChange = some t) : Undamaged env r t := by
  simp only [JoiningApp.uidChange] at hst
  split at hst
  · split at hst <;>
    · obtain rfl := Option.some.inj hst
      exact ⟨h.keys, h.device, h.identity, h.user, h.resets⟩
  · cases hst

/-- Auth states on their way change nothing yet. -/
theorem notices (h : Undamaged env r s) (repositoryNotices bootstrapNotices : List CloudAuthState) :
    Undamaged env r {s with repositoryNotices := repositoryNotices, bootstrapNotices := bootstrapNotices} :=
  ⟨h.keys, h.device, h.identity, h.user, h.resets⟩

theorem bootstrapHears (h : Undamaged env r s) {adopts : Bool} (hst : s.bootstrapHears adopts = some t) :
    Undamaged env r t := by
  simp only [JoiningApp.bootstrapHears] at hst
  split at hst
  · exact (h.notices s.repositoryNotices _).serve id hst
  · obtain rfl := Option.some.inj hst
    exact h.notices s.repositoryNotices _
  · cases hst

theorem createAccount (h : Undamaged env r s) {bootstrap : Nat} {caller : DocId} {now : Timestamp}
    (hst : s.serve (.createAccount bootstrap caller now) = some t) : Undamaged env r t := by
  obtain ⟨services, hservices, rfl⟩ := Option.map_eq_some_iff.mp hst
  obtain ⟨-, hkeys, hcloud⟩ := BootstrapRun.createAccount_step hservices
  refine ⟨hkeys ▸ h.keys, ⟨fun deviceId a hid ha => ?_, h.device.sweeping⟩, h.identity, h.user, h.resets⟩
  exact hcloud ▸ (h.device.moved deviceId a hid ha).createAccount now caller

theorem registerDevice (h : Undamaged env r s) {bootstrap : Nat} {caller : DocId} {now : Timestamp}
    {input : RegisterDeviceInput} {answered : Bool} (hcaller : s.currentUser = some caller)
    (hst : s.serve (.registerDevice bootstrap caller now input answered) = some t)
    (hc : s.Undisturbed r (.registerDevice bootstrap now input answered)) : Undamaged env r t := by
  obtain ⟨services, hservices, rfl⟩ := Option.map_eq_some_iff.mp hst
  obtain ⟨-, hkeys, uid, registered, hget, hcloud⟩ := BootstrapRun.registerDevice_step hservices
  refine ⟨hkeys ▸ h.keys, ⟨fun deviceId a hid ha => ?_, h.device.sweeping⟩, h.identity, h.user, h.resets⟩
  have hmoved := (h.device.moved deviceId a hid ha).registerDevice now caller {input with deviceId := registered}
    fun hsame hne => hc deviceId hid a ha caller hcaller _ hget (congrArg _ hsame) hne
  exact hcloud ▸ hmoved

theorem answered (h : Undamaged env r s) {bootstrap : Nat} {key : List UInt8}
    (hst : s.serve (.answered bootstrap key) = some t) : Undamaged env r t := by
  obtain ⟨services, hservices, rfl⟩ := Option.map_eq_some_iff.mp hst
  obtain ⟨hcloud, hkeys⟩ := BootstrapRun.answered_step hservices
  refine ⟨?_, hcloud ▸ h.device, h.identity, h.user, h.resets⟩
  rcases hkeys with hkeys | ⟨hlen, hkeys⟩
  · exact hkeys ▸ h.keys
  · exact hkeys ▸ h.keys.start hlen (.inl rfl)

/-- Resets that have finished do nothing more. -/
theorem not_resetProceeds (h : Undamaged env r s) (reset : Nat) (succeeds : Bool) :
    s.resetProceeds reset succeeds = none := by
  simp only [JoiningApp.resetProceeds]
  cases hget : s.resets[reset]? with
  | none => rfl
  | some phase =>
    obtain rfl := h.resets phase (List.mem_of_getElem? hget)
    rfl

theorem step (h : Undamaged env r s) (htokens : TokensSignIn env) {e : JoiningEvent} (hc : s.Undisturbed r e)
    (hst : s.step env r e = some t) : Undamaged env r t := by
  cases e with
  | completePairing =>
    simp only [JoiningApp.step, JoiningApp.completePairing] at hst
    split at hst
    · split_ifs at hst <;> obtain rfl := Option.some.inj hst
      · exact h.early rfl rfl rfl rfl
      · exact h.resolveHost
    · cases hst
  | proceed => exact h.proceed htokens hc hst
  | userIdEmitted =>
    obtain rfl := Option.some.inj hst
    exact ⟨h.keys, h.device, h.identity, h.user, h.resets⟩
  | uidChange => exact h.uidChange hst
  | repositoryHears =>
    simp only [JoiningApp.step, JoiningApp.repositoryHears] at hst
    split at hst
    · exact (h.notices _ s.bootstrapNotices).serve id hst
    · cases hst
  | bootstrapHears adopts => exact h.bootstrapHears hst
  | keyTakesEffect call =>
    refine h.serveKeys hst (.inl ⟨call, rfl⟩) (fun i c he hget key hkey => ?_) (by simp)
    obtain rfl := KeyEvent.takeEffect.inj he
    exact hc key hkey c hget
  | keyResumes call => exact h.keyResumes hst hc
  | deviceIdResolved task written fresh => exact (h.ensureDeviceId written fresh).serve id hst
  | deviceIdEnsured bootstrap written fresh => exact (h.ensureDeviceId written fresh).serve id hst
  | accountSnapshot attachment version => exact h.accountSnapshot hst hc
  | deviceSnapshot attachment version => exact h.deviceSnapshot hst
  | adopted bootstrap existing => exact (h.adoptDeviceId hc).serve id hst
  | createAccount bootstrap now =>
    simp only [JoiningApp.step] at hst
    split at hst
    · exact h.createAccount hst
    · cases hst
  | answered bootstrap key => exact h.answered hst
  | registerDevice bootstrap now input answered =>
    simp only [JoiningApp.step] at hst
    split at hst
    · next caller hcaller => exact h.registerDevice hcaller hst hc
    · cases hst
  | resetProceeds reset succeeds =>
    rw [JoiningApp.step, h.not_resetProceeds reset succeeds] at hst
    cases hst
  | repositoryResumes | accountError | devicesError | bootstrapResumes | groupKeyEnsured | callFails =>
    exact h.serve id hst

/-- What holds once pairing has succeeded. -/
theorem survives (h : Undamaged env r s) : s.PairingSurvives r := by
  intro deviceId key hpaired _
  obtain ⟨result, hphase⟩ : ∃ result, s.pairing = .succeeded deviceId result key := by
    cases hphase : s.pairing <;> rw [hphase] at hpaired <;> cases hpaired
    exact ⟨_, rfl⟩
  obtain ⟨hstored, hshown⟩ := h.keys.installed key (by rw [hphase]; rfl)
  have hcached := h.identity.cached deviceId (by rw [hphase]; rfl)
  have hmoved : Moved r s.services.cloud deviceId result.accountId :=
    h.device.moved _ _ (by rw [hphase]; rfl) (by rw [hphase]; rfl)
  refine ⟨hstored, ?_, h.identity.persisted deviceId hcached, result.accountId, hmoved.token,
    h.user.signedIn _ _ _ hphase, hmoved.device⟩
  cases hstate : s.services.keys.state with
  | ready shown =>
    rw [hstate] at hshown
    rw [Option.some.inj hshown]
  | loading | missing | failed =>
    rw [hstate] at hshown
    cases hshown

end Undamaged

namespace Rejoin

def env : PairingEnv := Move.env (.response 200 none (.wrapped Move.wrappedKey))

/-- The phone is one of two devices of its group. -/
def cloud : Store :=
  (Call.registerDevice 3 Retry.caller ⟨Reinstall.laptop, "Laptop", .laptop, none, .linux, none⟩).apply Move.cloud

/-- The phone after a launch in the group this cloud has it in. -/
def launched (cloud : Store) : JoiningApp :=
  .launch cloud (some (encodeKey Move.oldKey)) (some Retry.caller) (some Retry.joiner)

/-- Pairing up to the deletion of the old user. -/
def pairs : List JoiningEvent :=
  [.completePairing, .proceed, .proceed, .proceed, .proceed, .proceed, .proceed, .keyTakesEffect 1, .keyResumes 1,
    .proceed]

/-- The old group's document vanishes before the old user is deleted; its reset clears
the new key and the device id, and then deletes the user that has just signed in. -/
def resets : List JoiningEvent :=
  [.accountSnapshot 0 15, .keyTakesEffect 2, .proceed, .keyResumes 2, .keyResumes 2, .resetProceeds 0 true, .proceed,
    .resetProceeds 0 true, .uidChange, .repositoryHears, .repositoryResumes 1, .repositoryResumes 1,
    .bootstrapHears false, .uidChange, .repositoryHears, .repositoryResumes 2, .deviceIdResolved 2 true Retry.joiner,
    .bootstrapHears false, .deviceIdEnsured 1 true Retry.joiner, .callFails 1, .uidChange, .repositoryHears,
    .repositoryResumes 3, .repositoryResumes 3, .bootstrapHears false]

end Rejoin

end MagicShare.Account
