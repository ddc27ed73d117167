import MagicShare.Account.Places
import MagicShare.Cloud.Sweeps

/-! A device that its group has removed.

`removeDevice` deletes the device's document and nothing else: the device stays signed in
under the group's uid, and does nothing about it. Its bootstrap at the next launch, and a new
push token before that, call `registerDevice`, which makes the document anew for whoever is
signed in. So the removal lasts exactly in the runs in which the device never comes to
register under the group again while that exists (`removal_lasts_iff`). -/
namespace MagicShare.Account
open Cloud Pairing

/-! ### State -/

/-- The app of a device, with what of `CloudBootstrapService` is about push tokens. -/
structure MemberApp where
  app : JoiningApp
  env : PairingEnv
  request : PairingRequest
  /-- `_currentDeviceId`. -/
  currentDeviceId : Option DocId := none
  lastUploadedFcmToken : Option String := none
  /-- The `registerDevice` calls of `_maybeReuploadToken`, with their device id and token. -/
  uploads : List (DocId × String) := []
  /-- The device has been removed from the group. -/
  removed : Bool := false

inductive MemberEvent where
  | app (e : JoiningEvent)
  /-- The user pairs, maybe not for the first time. -/
  | pairs (env : PairingEnv) (request : PairingRequest)
  /-- The local steps of leaving and of deleting the group. -/
  | resetLocalState
  /-- Firebase has another user, or none. -/
  | userChanges (user : Option DocId)
  /-- The app starts again, with its storage or, if that was wiped, without. -/
  | relaunch (wiped : Bool)
  /-- A push token; `_maybeReuploadToken` up to its call. -/
  | fcmToken (token : String)
  /-- The call of a re-upload runs, and answers unless the answer is lost. -/
  | reuploads (upload : Nat) (now : Timestamp) (input : RegisterDeviceInput) (answered : Bool)
  | reuploadFails (upload : Nat)
  /-- A transaction of a callable, called by any device. -/
  | calls (tx : Tx)
  | createsJoinToken (now : Timestamp) (tokenId uid : DocId) (input : CreateJoinTokenInput)
  /-- A `recursiveDelete` or a scheduled job deletes a document. -/
  | deletes (ref : DocRef)

namespace MemberApp

def cloud (s : MemberApp) : Store := s.app.services.cloud

/-- The app at its launch. -/
def launch (cloud : Store) (stored : Option KeyText) (user deviceId : Option DocId) (env : PairingEnv)
    (request : PairingRequest) : MemberApp where
  app := .launch cloud stored user deviceId
  env := env
  request := request

/-! ### Steps -/

/-- What the bootstrap notes at the ends of `ensureDeviceId` and of `registerDevice`. -/
def note (s : MemberApp) : JoiningEvent → MemberApp
  | .deviceIdEnsured bootstrap _ _ =>
    match s.app.services.bootstraps[bootstrap]? with
    | some ⟨_, .creatingAccount deviceId⟩ => {s with currentDeviceId := some deviceId}
    | _ => s
  | .registerDevice _ _ input _ =>
    if s.app.services.state.isDone then {s with lastUploadedFcmToken := input.fcmToken} else s
  | _ => s

/-- A pairing may start: none is under way. -/
def pairs (s : MemberApp) (env : PairingEnv) (request : PairingRequest) : Option MemberApp :=
  match s.app.pairing with
  | .uncalled | .succeeded _ _ _ | .failed _ =>
    (JoiningApp.completePairing request {s.app with pairing := .uncalled}).map fun app =>
      {s with app := app, env := env, request := request}
  | _ => none

/-- The process starts anew; Firebase still has its user. -/
def relaunch (s : MemberApp) (wiped : Bool) : MemberApp where
  app := .launch s.cloud (if wiped then none else s.app.services.keys.stored) s.app.currentUser
    (if wiped then none else s.app.identity.stored)
  env := s.env
  request := s.request
  removed := s.removed

/-- `_maybeReuploadToken`, up to its call. -/
def fcmToken (s : MemberApp) (token : String) : MemberApp :=
  match s.currentDeviceId with
  | none => s
  | some deviceId =>
    if s.app.services.state.isDone = false then s
    else if s.lastUploadedFcmToken = some token then s
    else {s with uploads := s.uploads ++ [(deviceId, token)]}

def reuploads (s : MemberApp) (upload : Nat) (now : Timestamp) (input : RegisterDeviceInput) (answered : Bool) :
    Option MemberApp :=
  match s.uploads[upload]?, s.app.currentUser with
  | some (deviceId, token), some caller =>
    match registerDeviceLogic now caller {input with deviceId := deviceId, fcmToken := some token} s.cloud with
    | (.ok _, cloud) =>
      some {s with
        app := s.app.withCloud cloud
        uploads := s.uploads.eraseIdx upload
        lastUploadedFcmToken := if answered then some token else s.lastUploadedFcmToken}
    | (.error _, cloud) => some {s with app := s.app.withCloud cloud, uploads := s.uploads.eraseIdx upload}
  | _, _ => none

/-- The transaction removes this device from this account. -/
def Removes (a d : DocId) (tx : Tx) (s : Store) : Bool :=
  match tx with
  | .removeDevice now uid input => uid = a ∧ input.deviceId = d ∧ (removeDeviceTx now uid input s).1.isOk
  | _ => false

def step (a d : DocId) (s : MemberApp) : MemberEvent → Option MemberApp
  | .app .completePairing => none
  | .app e => (s.app.step s.env s.request e).map fun app => note {s with app := app} e
  | .pairs env request => s.pairs env request
  | .resetLocalState => some {s with app := s.app.resetForExternalGroupDeletion}
  | .userChanges user => some {s with app := s.app.changeUser user}
  | .relaunch wiped => some (s.relaunch wiped)
  | .fcmToken token => some (s.fcmToken token)
  | .reuploads upload now input answered => s.reuploads upload now input answered
  | .reuploadFails upload => some {s with uploads := s.uploads.eraseIdx upload}
  | .calls tx =>
    some {s with
      app := s.app.withCloud (tx.run s.cloud).2
      removed := s.removed || Removes a d tx s.cloud}
  | .createsJoinToken now tokenId uid input =>
    some {s with app := s.app.withCloud (createJoinTokenLogic now tokenId uid input s.cloud).2}
  | .deletes ref => some {s with app := s.app.withCloud (ref.drop s.cloud)}

end MemberApp

/-- The app of device `d`, and the group `a` that may remove it, from this launch on. -/
def member (a d : DocId) (s : MemberApp) : Transition.System MemberApp MemberEvent where
  init := s
  step := MemberApp.step a d

namespace MemberApp

/-! ### The property and its condition -/

/-- Once removed, the device has no document in the group. -/
def RemovalLasts (a d : DocId) (s : MemberApp) : Prop := s.removed = true → s.cloud.device a d = none

/-- The account and the device id of the `registerDevice` that the event runs. -/
def registers (s : MemberApp) : MemberEvent → Option (DocId × DocId)
  | .app (.registerDevice bootstrap _ _ _) =>
    match s.app.services.bootstraps[bootstrap]?, s.app.currentUser with
    | some ⟨_, .registering deviceId⟩, some caller => some (caller, deviceId)
    | _, _ => none
  | .reuploads upload _ _ _ =>
    match s.uploads[upload]?, s.app.currentUser with
    | some (deviceId, _), some caller => some (caller, deviceId)
    | _, _ => none
  | .calls (.registerDevice _ uid input) => some (uid, input.deviceId)
  | _ => none

/-- The account and the device id of the join token that the event redeems. -/
def redeems (s : MemberApp) : MemberEvent → Option (DocId × DocId)
  | .app .proceed =>
    match s.app.pairing with
    | .joining host deviceId =>
      match (s.app.joinNetwork s.env s.request host deviceId).pairing with
      | .sweeping _ _ _ decision => some (decision.accountId, deviceId)
      | _ => none
    | _ => none
  | .calls (.joinNetwork clock uid input) =>
    match (joinNetworkTx clock uid input s.cloud).1 with
    | .ok decision => some (decision.accountId, input.deviceId)
    | .error _ => none
  | _ => none

/-- Once removed, the device is not redeemed into the group. -/
def NotRedeemed (a d : DocId) (s : MemberApp) (e : MemberEvent) : Prop := s.removed = true → s.redeems e ≠ some (a, d)

/-- Once removed, the device is not registered in the group, unless that is gone. -/
def NotRegistered (a d : DocId) (s : MemberApp) (e : MemberEvent) : Prop :=
  s.removed = true → s.registers e = some (a, d) → (s.cloud.account a).isNone = true

instance (a d : DocId) (s : MemberApp) (e : MemberEvent) : Decidable (s.NotRedeemed a d e) :=
  inferInstanceAs (Decidable (_ → _))

instance (a d : DocId) (s : MemberApp) (e : MemberEvent) : Decidable (s.NotRegistered a d e) :=
  inferInstanceAs (Decidable (_ → _ → _))

end MemberApp

/-! ### What a transaction does to a document -/

section Cloud
variable {a d : DocId} {cloud later : Store}

/-- The source side of a join only loses documents. -/
theorem JoinLeaves.no_device {now : Timestamp} {uid : DocId} {input : JoinNetworkInput} {doc : DeviceDoc} {left : Store}
    {sweep : Option DocRef} (h : JoinLeaves now uid input cloud doc left sweep) (hnone : cloud.device a d = none) :
    left.device a d = none := by
  cases h with
  | survivor => simp [Store.leave, hnone]
  | last => simp [Store.leaveLast, hnone]
  | welcome => exact hnone

/-- A join puts one document there. -/
theorem joinTarget_no_device {clock : JoinClock} {input : JoinNetworkInput} {token : JoinTokenDoc} {target : AccountDoc}
    {doc : DeviceDoc} (h : ¬ (token.accountId = a ∧ input.deviceId = d)) (hnone : cloud.device a d = none) :
    (joinTarget clock input token target doc cloud).device a d = none := by
  have hne : ¬ (a = token.accountId ∧ d = input.deviceId) := fun ⟨ha, hd⟩ => h ⟨ha.symm, hd.symm⟩
  simp [joinTarget, hne, hnone]

theorem joinNetworkTx_no_device {clock : JoinClock} {uid : DocId} {input : JoinNetworkInput} (hnone : cloud.device a d = none)
    (hjoin : ∀ decision, (joinNetworkTx clock uid input cloud).1 = .ok decision →
      ¬ (decision.accountId = a ∧ input.deviceId = d)) :
    (joinNetworkTx clock uid input cloud).2.device a d = none := by
  rcases joinNetworkTx_cases clock uid input cloud with ⟨-, e, heq⟩ | ⟨-, token, target, -, hcases⟩
  · rw [heq]
    exact hnone
  · rcases hcases with ⟨account, doc, -, -, -, heq⟩ | ⟨account, doc, -, -, -, heq⟩ | ⟨newDevice, -, -, heq⟩
    · rw [heq] at hjoin ⊢
      exact joinTarget_no_device (hjoin _ rfl) (by simp [Store.leave, hnone])
    · rw [heq] at hjoin ⊢
      exact joinTarget_no_device (hjoin _ rfl) (by simp [Store.leaveLast, hnone])
    · rw [heq] at hjoin ⊢
      exact joinTarget_no_device (hjoin _ rfl) hnone

/-- A document that is rewritten was there. -/
theorem rewritten_no_device {uid deviceId : DocId} {doc new : DeviceDoc} {account : AccountDoc} (hnone : cloud.device a d = none)
    (hdoc : cloud.device uid deviceId = some doc) :
    ((cloud.putDevice uid deviceId new).putAccount uid account).device a d = none := by
  have hne : ¬ (a = uid ∧ d = deviceId) := by
    rintro ⟨rfl, rfl⟩
    cases hnone.symm.trans hdoc
  simp [hne, hnone]

/-- `registerDevice` puts the caller's document there, where the caller has an account. -/
theorem registerDevice_device {now : Timestamp} {uid : DocId} {input : RegisterDeviceInput} (hnone : cloud.device a d = none) :
    (registerDeviceLogic now uid input cloud).2.device a d = none ↔
      (uid = a ∧ input.deviceId = d → cloud.account a = none) := by
  rcases registerDeviceLogic_cases now uid input cloud with
    ⟨haccount, e, heq⟩ | ⟨account, haccount, -, heq⟩ | ⟨account, doc, haccount, hdevice, heq⟩
  · rw [heq]
    exact iff_of_true hnone fun hown => hown.1 ▸ haccount
  · rw [heq]
    by_cases hown : uid = a ∧ input.deviceId = d
    · obtain ⟨rfl, rfl⟩ := hown
      simp [haccount]
    · have hne : ¬ (a = uid ∧ d = input.deviceId) := fun ⟨ha, hd⟩ => hown ⟨ha.symm, hd.symm⟩
      simp [hown, hne, hnone]
  · have hown : ¬ (uid = a ∧ input.deviceId = d) := by
      rintro ⟨rfl, rfl⟩
      cases hnone.symm.trans hdevice
    rw [heq]
    exact iff_of_true (rewritten_no_device hnone hdevice) fun h => absurd h hown

theorem patchDeviceField_no_device {now : Timestamp} {uid deviceId : DocId} {patch : DevicePatch}
    (hnone : cloud.device a d = none) : (patchDeviceField now uid deviceId patch cloud).2.device a d = none := by
  rcases patchDeviceField_cases now uid deviceId patch cloud with ⟨e, heq⟩ | ⟨account, doc, -, hdoc, heq⟩
  · rw [heq]
    exact hnone
  · rw [heq]
    exact rewritten_no_device hnone hdoc

/-- The other transactions put no document there. -/
theorem Tx.no_device {tx : Tx} (hnone : cloud.device a d = none)
    (hregister : ∀ now uid input, tx = .registerDevice now uid input → uid = a ∧ input.deviceId = d → cloud.account a = none)
    (hjoin : ∀ clock uid input decision, tx = .joinNetwork clock uid input →
      (joinNetworkTx clock uid input cloud).1 = .ok decision → ¬ (decision.accountId = a ∧ input.deviceId = d)) :
    (tx.run cloud).2.device a d = none := by
  cases tx with
  | registerDevice now uid input => exact (registerDevice_device hnone).mpr (hregister now uid input rfl)
  | joinNetwork clock uid input => exact joinNetworkTx_no_device hnone fun decision => hjoin clock uid input decision rfl
  | createAccount now uid =>
    rcases createAccountLogic_cases now uid cloud with ⟨-, heq⟩ | ⟨-, heq⟩
    · simp [Tx.run, heq, hnone]
    · simp [Tx.run, heq, hnone]
  | removeDevice now uid input =>
    rcases removeDeviceTx_cases now uid input cloud with ⟨e, heq⟩ | ⟨account, -, -, -, heq⟩ | ⟨account, -, -, -, heq⟩
    · simp [Tx.run, heq, hnone]
    · simp [Tx.run, heq, Store.leave, hnone]
    · simp [Tx.run, heq, Store.leaveLast, hnone]
  | renameDevice now uid input =>
    show (renameDeviceLogic now uid input cloud).2.device a d = none
    exact patchDeviceField_no_device hnone
  | setDeviceIcon now uid input =>
    show (setDeviceIconLogic now uid input cloud).2.device a d = none
    exact patchDeviceField_no_device hnone
  | notifyTransferIntent now uid input =>
    show (notifyTransferIntentTx now uid input cloud).2.device a d = none
    rcases notifyTransferIntentTx_cases now uid input cloud with ⟨e, heq⟩ | ⟨account, source, target, -, hdoc, -, -, heq⟩
    · rw [heq]
      exact hnone
    · rw [heq]
      exact rewritten_no_device hnone hdoc

theorem removes_device {tx : Tx} (h : MemberApp.Removes a d tx cloud = true) : (tx.run cloud).2.device a d = none := by
  cases tx with
  | removeDevice now uid input =>
    obtain ⟨rfl, rfl, hok⟩ := of_decide_eq_true h
    rcases removeDeviceTx_cases now uid input cloud with ⟨e, heq⟩ | ⟨account, -, -, -, heq⟩ | ⟨account, -, -, -, heq⟩
    · rw [heq] at hok
      cases hok
    · simp [Tx.run, heq, Store.leave]
    · simp [Tx.run, heq, Store.leaveLast]
  | _ => cases h

end Cloud

/-! ### What the app does to the cloud -/

section App
variable {env : PairingEnv} {r : PairingRequest} {s t : JoiningApp} {e : JoiningEvent}

/-- What the steps of the app make of the cloud. -/
inductive CloudMoves (env : PairingEnv) (r : PairingRequest) (s : JoiningApp) : JoiningEvent → Store → Prop where
  | same {e : JoiningEvent} : CloudMoves env r s e s.services.cloud
  | created {e : JoiningEvent} (now : Timestamp) (caller : DocId) :
      CloudMoves env r s e (createAccountLogic now caller s.services.cloud).2
  | registered {bootstrap : Nat} {now : Timestamp} {input : RegisterDeviceInput} {answered : Bool} {uid deviceId caller : DocId}
      (hget : s.services.bootstraps[bootstrap]? = some ⟨uid, .registering deviceId⟩) (hcaller : s.currentUser = some caller) :
      CloudMoves env r s (.registerDevice bootstrap now input answered)
        (registerDeviceLogic now caller {input with deviceId := deviceId} s.services.cloud).2
  | joined {host : String} {deviceId : DocId} (hphase : s.pairing = .joining host deviceId) :
      CloudMoves env r s .proceed (s.joinNetwork env r host deviceId).services.cloud
  | swept {e : JoiningEvent} (run : SweepRun) (uid deviceId : DocId) (decision : JoinDecision) :
      CloudMoves env r s e (joinSweep run uid deviceId decision s.services.cloud).2

/-- A step of the bootstraps or the repository without a call. -/
theorem cloud_serve {e : BootstrapEvent AccountDoc} (h : s.serve e = some t) (he : ¬ BootstrapRun.Writes e) :
    t.services.cloud = s.services.cloud := by
  obtain ⟨services, hservices, rfl⟩ := Option.map_eq_some_iff.mp h
  exact (BootstrapRun.keeps_step hservices he).2.2

theorem cloud_serveKeys {e : KeyEvent} (h : s.serve (.keys e) = some t) : t.services.cloud = s.services.cloud := by
  obtain ⟨services, hservices, rfl⟩ := Option.map_eq_some_iff.mp h
  obtain ⟨keys, -, rfl⟩ := Option.map_eq_some_iff.mp hservices
  rfl

theorem cloud_ensureDeviceId (s : JoiningApp) (written : Bool) (fresh : DocId) :
    (s.ensureDeviceId written fresh).2.services = s.services := by
  unfold JoiningApp.ensureDeviceId
  split <;> rfl

theorem cloud_resolveHost (s : JoiningApp) : (s.resolveHost r).services = s.services := by
  unfold JoiningApp.resolveHost
  split <;> rfl

theorem cloud_removeUser (s : JoiningApp) : s.removeUser.services = s.services := by
  unfold JoiningApp.removeUser
  split <;> rfl

theorem cloud_proceed (h : s.proceed env r = some t) : CloudMoves env r s .proceed t.services.cloud := by
  have same : ∀ {cloud : Store}, cloud = s.services.cloud → CloudMoves env r s .proceed cloud := by
    rintro _ rfl
    exact .same
  cases hphase : s.pairing with
  | uncalled | succeeded | failed =>
    simp only [JoiningApp.proceed, hphase] at h
    cases h
  | signingInAnonymously =>
    simp only [JoiningApp.proceed, hphase] at h
    split at h <;> obtain rfl := Option.some.inj h
    · exact .same
    · exact same (congrArg _ (cloud_resolveHost _))
  | probing =>
    simp only [JoiningApp.proceed, hphase] at h
    split at h <;> obtain rfl := Option.some.inj h
    · exact .same
    · exact .same
  | ensuringDeviceId host =>
    have hensured := cloud_ensureDeviceId s env.deviceIdWritten env.freshDeviceId
    simp only [JoiningApp.proceed, hphase] at h
    split at h
    · next heq =>
      obtain rfl := Option.some.inj h
      rw [heq] at hensured
      exact same (congrArg _ hensured)
    · next heq =>
      obtain rfl := Option.some.inj h
      rw [heq] at hensured
      exact same (congrArg _ hensured)
  | joining host deviceId =>
    simp only [JoiningApp.proceed, hphase] at h
    obtain rfl := Option.some.inj h
    exact .joined hphase
  | sweeping host deviceId uid decision =>
    simp only [JoiningApp.proceed, hphase] at h
    have hswept : CloudMoves env r s .proceed (joinSweep env.join.sweep uid deviceId decision s.services.cloud).2 :=
      .swept env.join.sweep uid deviceId decision
    split at h <;> obtain rfl := Option.some.inj h
    · next hsweep =>
      rw [hsweep] at hswept
      exact hswept
    · next hsweep =>
      rw [hsweep] at hswept
      exact hswept
  | responding host deviceId decision =>
    simp only [JoiningApp.proceed, hphase] at h
    split at h <;> obtain rfl := Option.some.inj h
    · exact .same
    · exact .same
  | exchangingKey host deviceId result =>
    simp only [JoiningApp.proceed, hphase] at h
    split at h
    · obtain rfl := Option.some.inj h
      exact .same
    · split_ifs at h <;> obtain rfl := Option.some.inj h
      · exact .same
      · exact .same
  | replacing deviceId result key call =>
    simp only [JoiningApp.proceed, hphase] at h
    split_ifs at h
    obtain rfl := Option.some.inj h
    exact .same
  | deletingCurrentUser deviceId result key =>
    simp only [JoiningApp.proceed, hphase] at h
    obtain rfl := Option.some.inj h
    refine same (congrArg BootstrapRun.cloud (?_ : JoiningApp.services _ = s.services))
    split
    · exact cloud_removeUser s
    · rfl
  | signingInWithCustomToken deviceId result key =>
    simp only [JoiningApp.proceed, hphase] at h
    split at h <;> obtain rfl := Option.some.inj h
    · exact .same
    · exact .same

/-- `joinNetwork` leaves the cloud alone, or commits. -/
theorem joinNetwork_cases (s : JoiningApp) (host : String) (deviceId : DocId) :
    (s.joinNetwork env r host deviceId).services.cloud = s.services.cloud ∨ ∃ uid input decision,
      input.deviceId = deviceId ∧ (joinNetworkTx env.join.clock uid input s.services.cloud).1 = .ok decision ∧
      (s.joinNetwork env r host deviceId).services.cloud = (joinNetworkTx env.join.clock uid input s.services.cloud).2 ∧
      (s.joinNetwork env r host deviceId).pairing = .sweeping host deviceId uid decision := by
  unfold JoiningApp.joinNetwork
  split
  · exact .inl rfl
  · exact .inl rfl
  · next uid _ _ =>
    split
    · exact .inl rfl
    · next input hparse =>
      split_ifs
      · split
        · next e cloud heq =>
          rcases joinNetworkTx_cases env.join.clock uid input s.services.cloud with
            ⟨-, e', hrejected⟩ | ⟨haccepts, -⟩
          · exact .inl (Prod.mk.inj (heq.symm.trans hrejected)).2
          · obtain ⟨-, -, decision, later, -, hok, -⟩ := joinNetworkTx_accepted haccepts
            cases (Prod.mk.inj (heq.symm.trans hok)).1
        · next decision cloud heq =>
          exact .inr ⟨uid, input, decision, (parseJoinNetworkInput_ok hparse).2, by rw [heq], by rw [heq]; rfl, rfl⟩
      · exact .inl rfl

theorem cloud_of_step (h : s.step env r e = some t) : CloudMoves env r s e t.services.cloud := by
  have same : ∀ {cloud : Store}, cloud = s.services.cloud → CloudMoves env r s e cloud := by
    rintro _ rfl
    exact .same
  cases e with
  | proceed => exact cloud_proceed h
  | completePairing =>
    simp only [JoiningApp.step, JoiningApp.completePairing] at h
    split at h
    · split_ifs at h <;> obtain rfl := Option.some.inj h
      · exact .same
      · exact same (congrArg _ (cloud_resolveHost s))
    · cases h
  | userIdEmitted =>
    obtain rfl := Option.some.inj h
    exact .same
  | uidChange =>
    simp only [JoiningApp.step, JoiningApp.uidChange] at h
    split at h
    · split at h <;>
      · obtain rfl := Option.some.inj h
        exact .same
    · cases h
  | repositoryHears =>
    simp only [JoiningApp.step, JoiningApp.repositoryHears] at h
    split at h
    · have hcloud := cloud_serve h id
      exact same hcloud
    · cases h
  | bootstrapHears adopts =>
    simp only [JoiningApp.step, JoiningApp.bootstrapHears] at h
    split at h
    · have hcloud := cloud_serve h id
      exact same hcloud
    · obtain rfl := Option.some.inj h
      exact .same
    · cases h
  | keyTakesEffect call => exact same (cloud_serveKeys h)
  | keyResumes call =>
    obtain ⟨resumed, hresumed, rfl⟩ := Option.map_eq_some_iff.mp h
    have hcloud := cloud_serveKeys hresumed
    split_ifs
    · exact same hcloud
    · exact same hcloud
  | deviceIdResolved task written fresh =>
    exact same ((cloud_serve h id).trans (congrArg _ (cloud_ensureDeviceId s written fresh)))
  | deviceIdEnsured bootstrap written fresh =>
    exact same ((cloud_serve h id).trans (congrArg _ (cloud_ensureDeviceId s written fresh)))
  | accountSnapshot attachment version =>
    simp only [JoiningApp.step, JoiningApp.accountSnapshot] at h
    split at h
    · split_ifs at h
      obtain ⟨told, htold, rfl⟩ := Option.map_eq_some_iff.mp h
      have hcloud := cloud_serve htold id
      split_ifs
      · exact same hcloud
      · exact same hcloud
    · cases h
  | deviceSnapshot attachment version =>
    simp only [JoiningApp.step, JoiningApp.deviceSnapshot] at h
    split at h
    · split_ifs at h
      obtain ⟨told, htold, rfl⟩ := Option.map_eq_some_iff.mp h
      have hcloud := cloud_serve htold id
      exact same hcloud
    · cases h
  | adopted bootstrap existing =>
    have hcloud := cloud_serve (e := .adopted bootstrap) (s := s.adoptDeviceId existing) h id
    refine same (hcloud.trans ?_)
    cases existing <;> rfl
  | createAccount bootstrap now =>
    simp only [JoiningApp.step] at h
    split at h
    · next caller hcaller =>
      obtain ⟨services, hservices, rfl⟩ := Option.map_eq_some_iff.mp h
      have hcloud := (BootstrapRun.createAccount_step hservices).2.2
      rw [show JoiningApp.services _ = services from rfl, hcloud]
      exact .created now caller
    · cases h
  | answered bootstrap key =>
    obtain ⟨services, hservices, rfl⟩ := Option.map_eq_some_iff.mp h
    exact same (BootstrapRun.answered_step hservices).1
  | registerDevice bootstrap now input answered =>
    simp only [JoiningApp.step] at h
    split at h
    · next caller hcaller =>
      obtain ⟨services, hservices, rfl⟩ := Option.map_eq_some_iff.mp h
      obtain ⟨-, -, uid, deviceId, hget, hcloud⟩ := BootstrapRun.registerDevice_step hservices
      rw [show JoiningApp.services _ = services from rfl, hcloud]
      exact .registered hget hcaller
    · cases h
  | resetProceeds reset succeeds =>
    simp only [JoiningApp.step, JoiningApp.resetProceeds] at h
    split at h
    · split_ifs at h
      obtain rfl := Option.some.inj h
      exact .same
    · split_ifs at h <;> obtain rfl := Option.some.inj h
      · exact same (congrArg _ (cloud_removeUser s))
      · exact .same
    · split_ifs at h <;> obtain rfl := Option.some.inj h
      · exact same (congrArg _ (cloud_removeUser s))
      · exact .same
    · cases h
    · cases h
  | repositoryResumes | accountError | devicesError | bootstrapResumes | groupKeyEnsured | callFails =>
    exact same (cloud_serve h id)

end App

namespace MemberApp
variable {a d : DocId} {s t : MemberApp} {e : MemberEvent}

@[simp] theorem cloud_note (s : MemberApp) (e : JoiningEvent) : (s.note e).cloud = s.cloud := by
  cases e <;> simp only [note] <;> split <;> rfl

@[simp] theorem removed_note (s : MemberApp) (e : JoiningEvent) : (s.note e).removed = s.removed := by
  cases e <;> simp only [note] <;> split <;> rfl

/-- A step of the app itself. -/
theorem app_step {e : JoiningEvent} (h : s.step a d (.app e) = some t) :
    ∃ app, s.app.step s.env s.request e = some app ∧ t = note {s with app := app} e := by
  have hmap : (s.app.step s.env s.request e).map (fun app => note {s with app := app} e) = some t := by
    cases e with
    | completePairing => cases h
    | _ => exact h
  obtain ⟨app, happ, rfl⟩ := Option.map_eq_some_iff.mp hmap
  exact ⟨app, happ, rfl⟩

theorem pairs_step {env : PairingEnv} {request : PairingRequest} (h : s.pairs env request = some t) :
    t.removed = s.removed ∧ t.cloud = s.cloud := by
  have hpairs : ∀ {app : JoiningApp}, JoiningApp.completePairing request {s.app with pairing := .uncalled} = some app →
      app.services = s.app.services := by
    intro app happ
    simp only [JoiningApp.completePairing] at happ
    split_ifs at happ <;> obtain rfl := Option.some.inj happ
    · rfl
    · exact cloud_resolveHost _
  have hmap : (JoiningApp.completePairing request {s.app with pairing := .uncalled}).map (fun app =>
      ({s with app := app, env := env, request := request} : MemberApp)) = some t := by
    simp only [pairs] at h
    split at h
    · exact h
    · exact h
    · exact h
    · cases h
  obtain ⟨app, happ, rfl⟩ := Option.map_eq_some_iff.mp hmap
  exact ⟨rfl, congrArg BootstrapRun.cloud (hpairs happ)⟩

theorem reuploads_step {upload : Nat} {now : Timestamp} {input : RegisterDeviceInput} {answered : Bool}
    (h : s.reuploads upload now input answered = some t) : t.removed = s.removed ∧ ∃ deviceId token caller,
      s.uploads[upload]? = some (deviceId, token) ∧ s.app.currentUser = some caller ∧
        t.cloud = (registerDeviceLogic now caller {input with deviceId := deviceId, fcmToken := some token} s.cloud).2 := by
  simp only [reuploads] at h
  split at h
  · next deviceId token caller hget hcaller =>
    split at h <;>
    · next heq =>
      obtain rfl := Option.some.inj h
      exact ⟨rfl, deviceId, token, caller, hget, hcaller, by rw [heq]; rfl⟩
  · cases h

/-- Only a `registerDevice` is noted to register, and it is run. -/
theorem registers_step (hst : s.step a d e = some t) (h : s.registers e = some (a, d)) :
    t.removed = s.removed ∧ ∃ now input, input.deviceId = d ∧ t.cloud = (registerDeviceLogic now a input s.cloud).2 := by
  cases e with
  | app e =>
    cases e with
    | registerDevice bootstrap now input answered =>
      obtain ⟨app, happ, rfl⟩ := app_step hst
      simp only [registers] at h
      split at h
      · next uid deviceId caller hget hcaller =>
        obtain ⟨rfl, rfl⟩ := Prod.mk.inj (Option.some.inj h)
        simp only [JoiningApp.step, hcaller] at happ
        obtain ⟨services, hservices, rfl⟩ := Option.map_eq_some_iff.mp happ
        obtain ⟨-, -, uid', deviceId', hget', hcloud⟩ := BootstrapRun.registerDevice_step hservices
        obtain ⟨-, hphase⟩ := Bootstrap.mk.inj (Option.some.inj (hget.symm.trans hget'))
        obtain rfl := BootstrapPhase.registering.inj hphase
        exact ⟨removed_note .., now, _, rfl, (cloud_note ..).trans hcloud⟩
      · cases h
    | _ => cases h
  | reuploads upload now input answered =>
    obtain ⟨hremoved, deviceId, token, caller, hget, hcaller, hcloud⟩ := reuploads_step hst
    simp only [registers, hget, hcaller, Option.some.injEq, Prod.mk.injEq] at h
    obtain ⟨rfl, rfl⟩ := h
    exact ⟨hremoved, now, _, rfl, hcloud⟩
  | calls tx =>
    cases tx with
    | registerDevice now uid input =>
      obtain rfl := Option.some.inj hst
      obtain ⟨rfl, rfl⟩ := Prod.mk.inj (Option.some.inj h)
      exact ⟨Bool.or_false _, now, input, rfl, rfl⟩
    | _ => cases h
  | _ => cases h

/-- Nothing else puts the document there. -/
theorem no_device_app {e : JoiningEvent} {app : JoiningApp} (hst : s.app.step s.env s.request e = some app)
    (hnot : s.registers (.app e) ≠ some (a, d)) (hredeems : s.redeems (.app e) ≠ some (a, d))
    (hnone : s.cloud.device a d = none) : app.services.cloud.device a d = none := by
  have hmoves := cloud_of_step hst
  generalize app.services.cloud = cloud at hmoves ⊢
  cases hmoves with
  | same => exact hnone
  | created now caller =>
    have hstill : ((Tx.createAccount now caller).run s.app.services.cloud).2.device a d = none :=
      Tx.no_device hnone (by simp) (by simp)
    exact hstill
  | @registered bootstrap now input answered uid deviceId caller hget hcaller =>
    refine (registerDevice_device hnone).mpr fun ⟨hcallerIs, hid⟩ => absurd ?_ hnot
    simp only [registers, hget, hcaller, hcallerIs]
    exact congrArg (fun id => some (a, id)) hid
  | @joined host deviceId hphase =>
    rcases joinNetwork_cases s.app host deviceId with hsame | ⟨uid, input, decision, rfl, hok, hcloud, hpairing⟩
    · rw [hsame]
      exact hnone
    · rw [hcloud]
      refine joinNetworkTx_no_device hnone fun decision' hok' hown => hredeems ?_
      obtain rfl := Except.ok.inj (hok.symm.trans hok')
      obtain ⟨rfl, rfl⟩ := hown
      simp only [redeems, hphase, hpairing]
  | swept run uid deviceId decision =>
    rcases joinSweep_device run uid deviceId decision s.app.services.cloud a d with hsame | ⟨-, -, hgone⟩
    · exact hsame.trans hnone
    · exact hgone

theorem no_device_step (hst : s.step a d e = some t) (hnot : s.registers e ≠ some (a, d)) (hredeems : s.redeems e ≠ some (a, d))
    (hnone : s.cloud.device a d = none) : t.cloud.device a d = none := by
  cases e with
  | app e =>
    obtain ⟨app, happ, rfl⟩ := app_step hst
    rw [cloud_note]
    exact no_device_app happ hnot hredeems hnone
  | pairs env request =>
    rw [(pairs_step hst).2]
    exact hnone
  | resetLocalState | userChanges | relaunch | reuploadFails =>
    obtain rfl := Option.some.inj hst
    exact hnone
  | fcmToken token =>
    obtain rfl := Option.some.inj hst
    unfold fcmToken
    split
    · exact hnone
    · split_ifs <;> exact hnone
  | reuploads upload now input answered =>
    obtain ⟨-, deviceId, token, caller, hget, hcaller, hcloud⟩ := reuploads_step hst
    rw [hcloud]
    refine (registerDevice_device hnone).mpr fun ⟨hcallerIs, hid⟩ => absurd ?_ hnot
    simp only [registers, hget, hcaller, hcallerIs]
    exact congrArg (fun id => some (a, id)) hid
  | calls tx =>
    obtain rfl := Option.some.inj hst
    refine Tx.no_device hnone (fun now uid input heq hown => ?_) fun clock uid input decision heq hok hown => ?_
    · subst heq
      exact absurd (congrArg some (Prod.ext hown.1 hown.2)) hnot
    · subst heq
      refine hredeems ?_
      simp only [redeems, hok, hown.1, hown.2]
  | createsJoinToken now tokenId uid input =>
    obtain rfl := Option.some.inj hst
    show (createJoinTokenLogic now tokenId uid input s.cloud).2.device a d = none
    rcases createJoinTokenLogic_cases now tokenId uid input s.cloud with ⟨e, heq⟩ | ⟨-, -, heq⟩
    · rw [heq]
      exact hnone
    · rw [heq]
      exact hnone
  | deletes ref =>
    obtain rfl := Option.some.inj hst
    show (ref.drop s.cloud).device a d = none
    cases ref <;> simp [DocRef.drop, hnone]

/-- A removal takes the document away. -/
theorem removed_step (hst : s.step a d e = some t) : t.removed = s.removed ∨ t.cloud.device a d = none := by
  cases e with
  | app e =>
    obtain ⟨app, -, rfl⟩ := app_step hst
    exact .inl (removed_note ..)
  | pairs => exact .inl (pairs_step hst).1
  | resetLocalState | userChanges | relaunch | reuploadFails | createsJoinToken | deletes =>
    obtain rfl := Option.some.inj hst
    exact .inl rfl
  | fcmToken token =>
    obtain rfl := Option.some.inj hst
    unfold fcmToken
    split
    · exact .inl rfl
    · split_ifs <;> exact .inl rfl
  | reuploads => exact .inl (reuploads_step hst).1
  | calls tx =>
    obtain rfl := Option.some.inj hst
    cases hremoves : Removes a d tx s.cloud with
    | true => exact .inr (removes_device hremoves)
    | false => exact .inl (Bool.or_false _)

/-- **One step.** -/
theorem removalLasts_step (h : s.RemovalLasts a d) (hc : s.NotRedeemed a d e) (hst : s.step a d e = some t) :
    t.RemovalLasts a d ↔ s.NotRegistered a d e := by
  by_cases hregisters : s.registers e = some (a, d)
  · obtain ⟨hremoved, now, input, rfl, hcloud⟩ := registers_step hst hregisters
    unfold RemovalLasts NotRegistered
    rw [hremoved, hcloud]
    refine forall_congr' fun hs => ?_
    rw [registerDevice_device (h hs)]
    simp [hregisters]
  · refine iff_of_true (fun ht => ?_) fun _ heq => absurd heq hregisters
    rcases removed_step hst with hsame | hnone
    · have hs : s.removed = true := hsame.symm.trans ht
      exact no_device_step hst hregisters (hc hs) (h hs)
    · exact hnone

end MemberApp

/-- **A removal lasts exactly in the runs in which the device never comes to register
under the group again while that exists**, where it is not redeemed into the group. -/
theorem removal_lasts_iff (a d : DocId) (cloud : Store) (stored : Option KeyText) (user deviceId : Option DocId)
    (env : PairingEnv) (request : PairingRequest) {events : List MemberEvent}
    (hredeemed : (member a d (.launch cloud stored user deviceId env request)).Meets (MemberApp.NotRedeemed a d)
      (.launch cloud stored user deviceId env request) events) :
    (member a d (.launch cloud stored user deviceId env request)).Along (MemberApp.RemovalLasts a d)
        (.launch cloud stored user deviceId env request) events ↔
      (member a d (.launch cloud stored user deviceId env request)).Meets (MemberApp.NotRegistered a d)
        (.launch cloud stored user deviceId env request) events :=
  Transition.System.along_iff_meets_of_meets (fun _ _ _ h hc hst => MemberApp.removalLasts_step h hc hst)
    (fun hremoved => by cases hremoved) hredeemed

namespace Removed
open Reinstall (phone)
open Retry (group)

def request : PairingRequest := Move.request

def env : PairingEnv := Move.env (.response 200 none (.wrapped Move.wrappedKey))

/-- The phone after a launch in its group. -/
def launched : MemberApp := .launch Reinstalled.cloud none (some group) (some phone) env request

/-- The bootstrap runs, with this id made where there is none. -/
def bootstraps (fresh : DocId) : List MemberEvent :=
  [.app (.bootstrapHears false), .app (.deviceIdEnsured 0 true fresh), .app (.createAccount 0 4), .app (.answered 0 []),
    .app (.registerDevice 0 5 ⟨phone, "Phone", .phone, none, .android, none⟩ true)]

/-- The laptop removes the phone. -/
def removes : MemberEvent := .calls (.removeDevice 6 group ⟨phone⟩)

end Removed

/-- The phone is wiped before it starts again: it comes back as another device. -/
theorem removal_lasts_when_wiped :
    (member Retry.group Reinstall.phone Removed.launched).Along (MemberApp.RemovalLasts Retry.group Reinstall.phone)
      Removed.launched
      (Removed.bootstraps Reinstall.phone ++ Removed.removes :: .relaunch true :: Removed.bootstraps Retry.joiner) :=
  (removal_lasts_iff Retry.group Reinstall.phone Reinstalled.cloud none (some Retry.group) (some Reinstall.phone)
    Removed.env Removed.request (by decide +kernel)).mpr (by decide +kernel)

/-- The phone that was removed gets a new push token, and is in the group again. -/
theorem removed_device_comes_back :
    ∃ t, (member Retry.group Reinstall.phone Removed.launched).run Removed.launched
        (Removed.bootstraps Reinstall.phone ++ [Removed.removes, .fcmToken "token",
          .reuploads 0 7 ⟨Reinstall.phone, "Phone", .phone, none, .android, none⟩ true]) = some t ∧
      t.removed = true ∧ (t.cloud.device Retry.group Reinstall.phone).isSome ∧
      ¬ t.RemovalLasts Retry.group Reinstall.phone := by
  have hrun : ((member Retry.group Reinstall.phone Removed.launched).run Removed.launched
      (Removed.bootstraps Reinstall.phone ++ [Removed.removes, .fcmToken "token",
        .reuploads 0 7 ⟨Reinstall.phone, "Phone", .phone, none, .android, none⟩ true])).map
          (fun t => (t.removed, (t.cloud.device Retry.group Reinstall.phone).isSome)) = some (true, true) := by
    decide +kernel
  obtain ⟨t, ht, hshown⟩ := Option.map_eq_some_iff.mp hrun
  obtain ⟨hremoved, hdevice⟩ := Prod.mk.inj hshown
  refine ⟨t, ht, hremoved, hdevice, fun hlasts => ?_⟩
  rw [hlasts hremoved] at hdevice
  cases hdevice

end MagicShare.Account
