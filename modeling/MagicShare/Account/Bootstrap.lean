import MagicShare.Account.GroupKey
import MagicShare.Account.Repository
import MagicShare.Cloud.Membership

/-! When a bootstrap makes a new group key.

`_runBootstrap` creates the account, looks after the group key and registers the
device. Where the account was there before, it makes a key only if memory has none and
it sees no peers; but it sees none as well while the repository is not ready, or is
ready without the devices yet. Along every run, a key is made for new accounts and for
accounts without another device only, exactly when the repository shows a peer at each
such check that has one (`forksNoKey_iff`). What other devices do to the cloud, and what
the repository's streams deliver and when, is left open. -/
namespace MagicShare.Account
open Cloud Pairing

variable {α : Type}

/-- A device of the account view, by its id. -/
structure CloudDevice where
  deviceId : String
  deriving DecidableEq

/-- The state of the repository: the last one it emitted. -/
def AccountRepository.state {δ : Type} (s : AccountRepository α δ) : AccountState α δ :=
  (s.emitted.getLast?).elim .idle Emission.state

/-- `peerDeviceCountReader`. -/
def peerDeviceCount : AccountState α CloudDevice → Nat
  | .ready _ currentDeviceId _ devices => (devices.filter fun device => device.deviceId ≠ currentDeviceId).length
  | _ => 0

/-! ### State -/

inductive BootstrapState where
  | idle | inFlight | failed
  | done (accountId deviceId : DocId)
  deriving DecidableEq

def BootstrapState.isDone : BootstrapState → Bool
  | .done _ _ => true
  | _ => false

/-- The await a `_runBootstrap` is suspended at. -/
inductive BootstrapPhase where
  /-- Another one is in flight. -/
  | waiting (other : Nat)
  /-- The adoption pass. -/
  | adopting
  | ensuringDeviceId
  | creatingAccount (deviceId : DocId)
  /-- `createAccount` has run; its answer is on the way. -/
  | accountCreated (deviceId : DocId) (created : Bool) (accountId : DocId)
  | ensuringGroupKey (deviceId : DocId) (call : Nat)
  | registering (deviceId : DocId)
  | finished
  deriving DecidableEq

structure Bootstrap where
  uid : DocId
  phase : BootstrapPhase
  deriving DecidableEq

/-- A new group key, with the answer of `createAccount` and the cloud at that moment. -/
structure KeyGeneration where
  created : Bool
  accountId : DocId
  deviceId : DocId
  cloud : Store

structure BootstrapRun (α : Type) where
  cloud : Store
  keys : GroupKeyRun
  repository : AccountRepository α CloudDevice
  bootstraps : List Bootstrap := []
  currentUid : Option DocId := none
  state : BootstrapState := .idle
  /-- The bootstrap whose completer `_inFlight` is. -/
  inFlight : Option Nat := none
  generated : List KeyGeneration := []

inductive BootstrapEvent (α : Type) where
  /-- Another device changes the cloud. -/
  | others (cloud : Store)
  | keys (e : KeyEvent)
  | repository (e : AccountEvent α CloudDevice)
  /-- `_runBootstrap`; `adopts` says whether the device id slot is empty and a
  fingerprint known, so that there is an adoption pass. -/
  | runBootstrap (uid : DocId) (adopts : Bool)
  /-- The bootstrap that was in flight has completed. -/
  | resume (bootstrap : Nat) (adopts : Bool)
  /-- The adoption pass is over, whether or not it found an id. -/
  | adopted (bootstrap : Nat)
  | deviceIdEnsured (bootstrap : Nat) (deviceId : Option DocId)
  /-- `createAccount` runs for the user signed in then. -/
  | createAccount (bootstrap : Nat) (caller : DocId) (now : Timestamp)
  /-- The answer of `createAccount`; `key` is what `_generateKey` gives. -/
  | answered (bootstrap : Nat) (key : List UInt8)
  | groupKeyEnsured (bootstrap : Nat)
  /-- `registerDevice` runs, and answers unless the answer is lost. -/
  | registerDevice (bootstrap : Nat) (caller : DocId) (now : Timestamp) (input : RegisterDeviceInput) (answered : Bool)
  /-- A call never arrives, or its answer does not. -/
  | callFails (bootstrap : Nat)

namespace BootstrapRun

/-! ### Steps -/

def setPhase (s : BootstrapRun α) (bootstrap : Nat) (uid : DocId) (phase : BootstrapPhase) : BootstrapRun α :=
  {s with bootstraps := s.bootstraps.set bootstrap ⟨uid, phase⟩}

/-- From the new completer to the next await. -/
def begin (s : BootstrapRun α) (bootstrap : Nat) (uid : DocId) (adopts : Bool) : BootstrapRun α :=
  {s.setPhase bootstrap uid (if adopts then .adopting else .ensuringDeviceId) with
    inFlight := some bootstrap
    state := .inFlight
    currentUid := some uid}

/-- The state is set and the completer completed. -/
def finish (s : BootstrapRun α) (bootstrap : Nat) (uid : DocId) (state : BootstrapState) : BootstrapRun α :=
  {s.setPhase bootstrap uid .finished with
    state := state
    inFlight := none}

/-- The bootstrap of the user is done. -/
def IsDone (s : BootstrapRun α) (uid : DocId) : Prop :=
  s.currentUid = some uid ∧ s.state.isDone = true

instance (s : BootstrapRun α) (uid : DocId) : Decidable (s.IsDone uid) :=
  inferInstanceAs (Decidable (_ ∧ _))

/-- The group key is made here, whatever the slot holds, unless memory has one. -/
def ensureGroupKey (s : BootstrapRun α) (bootstrap : Nat) (uid deviceId : DocId) (created : Bool) (accountId : DocId)
    (key : List UInt8) : Option (BootstrapRun α) :=
  match s.keys.state with
  | .ready _ => some (s.setPhase bootstrap uid (.registering deviceId))
  | _ => (s.keys.step (.ensureForNewAccount key)).map fun keys =>
    {s.setPhase bootstrap uid (.ensuringGroupKey deviceId s.keys.calls.length) with
      keys := keys
      generated := s.generated ++ [⟨created, accountId, deviceId, s.cloud⟩]}

/-- What follows the answer of `createAccount`. -/
def groupKeyPath (s : BootstrapRun α) (bootstrap : Nat) (uid deviceId : DocId) (created : Bool) (accountId : DocId)
    (key : List UInt8) : Option (BootstrapRun α) :=
  if created then s.ensureGroupKey bootstrap uid deviceId created accountId key
  else if s.keys.state = .missing ∧ peerDeviceCount s.repository.state = 0 then
    s.ensureGroupKey bootstrap uid deviceId created accountId key
  else some (s.setPhase bootstrap uid (.registering deviceId))

def step (s : BootstrapRun α) : BootstrapEvent α → Option (BootstrapRun α)
  | .others cloud => some {s with cloud := cloud}
  | .keys e => (s.keys.step e).map fun keys => {s with keys := keys}
  | .repository e => (s.repository.step e).map fun repository => {s with repository := repository}
  | .runBootstrap uid adopts =>
    if s.IsDone uid then some s
    else
      match s.inFlight with
      | some other => some {s with bootstraps := s.bootstraps ++ [⟨uid, .waiting other⟩]}
      | none =>
        some (begin {s with bootstraps := s.bootstraps ++ [⟨uid, .ensuringDeviceId⟩]} s.bootstraps.length uid adopts)
  | .resume bootstrap adopts =>
    match s.bootstraps[bootstrap]? with
    | some ⟨uid, .waiting other⟩ =>
      if (s.bootstraps[other]?).map Bootstrap.phase = some .finished then
        if s.IsDone uid then some (s.setPhase bootstrap uid .finished)
        else some (s.begin bootstrap uid adopts)
      else none
    | _ => none
  | .adopted bootstrap =>
    match s.bootstraps[bootstrap]? with
    | some ⟨uid, .adopting⟩ => some (s.setPhase bootstrap uid .ensuringDeviceId)
    | _ => none
  | .deviceIdEnsured bootstrap deviceId =>
    match s.bootstraps[bootstrap]? with
    | some ⟨uid, .ensuringDeviceId⟩ =>
      match deviceId with
      | some deviceId => some (s.setPhase bootstrap uid (.creatingAccount deviceId))
      | none => some (s.finish bootstrap uid .failed)
    | _ => none
  | .createAccount bootstrap caller now =>
    match s.bootstraps[bootstrap]? with
    | some ⟨uid, .creatingAccount deviceId⟩ =>
      match createAccountLogic now caller s.cloud with
      | (.ok result, cloud) =>
        some {s.setPhase bootstrap uid (.accountCreated deviceId result.created result.accountId) with cloud := cloud}
      | (.error _, cloud) => some {s.finish bootstrap uid .failed with cloud := cloud}
    | _ => none
  | .answered bootstrap key =>
    match s.bootstraps[bootstrap]? with
    | some ⟨uid, .accountCreated deviceId created accountId⟩ =>
      s.groupKeyPath bootstrap uid deviceId created accountId key
    | _ => none
  | .groupKeyEnsured bootstrap =>
    match s.bootstraps[bootstrap]? with
    | some ⟨uid, .ensuringGroupKey deviceId call⟩ =>
      if (s.keys.calls[call]?).map KeyCall.phase = some .finished then
        some (s.setPhase bootstrap uid (.registering deviceId))
      else none
    | _ => none
  | .registerDevice bootstrap caller now input answered =>
    match s.bootstraps[bootstrap]? with
    | some ⟨uid, .registering deviceId⟩ =>
      match registerDeviceLogic now caller {input with deviceId := deviceId} s.cloud with
      | (.ok _, cloud) =>
        some {s.finish bootstrap uid (if answered then .done uid deviceId else .failed) with cloud := cloud}
      | (.error _, cloud) => some {s.finish bootstrap uid .failed with cloud := cloud}
    | _ => none
  | .callFails bootstrap =>
    match s.bootstraps[bootstrap]? with
    | some ⟨uid, .creatingAccount _⟩ => some (s.finish bootstrap uid .failed)
    | some ⟨uid, .accountCreated _ _ _⟩ => some (s.finish bootstrap uid .failed)
    | some ⟨uid, .registering _⟩ => some (s.finish bootstrap uid .failed)
    | _ => none

end BootstrapRun

/-- The app of a device, from a start with this cloud, key slot and auth user. -/
def bootstrapping (α : Type) (cloud : Store) (stored : Option KeyText) (user : Option String) :
    Transition.System (BootstrapRun α) (BootstrapEvent α) where
  init := {cloud, keys := {stored}, repository := .start user}
  step := BootstrapRun.step

namespace BootstrapRun

/-! ### The property and its condition -/

/-- The account has a device document that is not this device's. -/
def HasPeer (cloud : Store) (accountId deviceId : DocId) : Prop :=
  ∃ d, d ≠ deviceId ∧ (cloud.device accountId d).isSome

/-- Keys are made for new accounts, and for accounts without another device. -/
def ForksNoKey (s : BootstrapRun α) : Prop :=
  ∀ g ∈ s.generated, g.created = true ∨ ¬ HasPeer g.cloud g.accountId g.deviceId

/-- Where the account was there before and memory has no key, a peer in the cloud is
matched by one the repository shows. -/
def ShowsPeers (s : BootstrapRun α) : BootstrapEvent α → Prop
  | .answered bootstrap _ => ∀ uid deviceId accountId,
    s.bootstraps[bootstrap]? = some ⟨uid, .accountCreated deviceId false accountId⟩ →
      s.keys.state = .missing → HasPeer s.cloud accountId deviceId → peerDeviceCount s.repository.state ≠ 0
  | _ => True

/-! ### One step -/

variable {s t : BootstrapRun α} {e : BootstrapEvent α}

/-- `ensureForNewAccount` makes a key unless memory has one. -/
theorem generated_ensureGroupKey {bootstrap : Nat} {uid deviceId : DocId} {created : Bool} {accountId : DocId}
    {key : List UInt8} (h : s.ensureGroupKey bootstrap uid deviceId created accountId key = some t) :
    (s.keys.state ≠ .missing ∧ t.generated = s.generated) ∨
      t.generated = s.generated ++ [⟨created, accountId, deviceId, s.cloud⟩] := by
  simp only [ensureGroupKey] at h
  split at h
  · next ready hready =>
    obtain rfl := Option.some.inj h
    exact .inl ⟨by simp [hready], rfl⟩
  · obtain ⟨keys, -, rfl⟩ := Option.map_eq_some_iff.mp h
    exact .inr rfl

/-- What changes the cloud or the group key: the calls that arrive, the answer of
`createAccount`, and others. -/
def Writes : BootstrapEvent α → Prop
  | .others _ | .keys _ | .createAccount _ _ _ | .answered _ _ | .registerDevice _ _ _ _ _ => True
  | _ => False

/-- The other steps are between a bootstrap and the repository. -/
theorem keeps_step (h : s.step e = some t) (he : ¬ Writes e) :
    t.generated = s.generated ∧ t.keys = s.keys ∧ t.cloud = s.cloud := by
  cases e with
  | others | keys | createAccount | answered | registerDevice => exact absurd trivial he
  | repository e =>
    obtain ⟨repository, -, rfl⟩ := Option.map_eq_some_iff.mp h
    exact ⟨rfl, rfl, rfl⟩
  | runBootstrap uid adopts =>
    simp only [step] at h
    split_ifs at h
    · obtain rfl := Option.some.inj h
      exact ⟨rfl, rfl, rfl⟩
    · split at h <;>
      · obtain rfl := Option.some.inj h
        exact ⟨rfl, rfl, rfl⟩
  | resume bootstrap adopts =>
    simp only [step] at h
    split at h
    · split_ifs at h <;>
      · obtain rfl := Option.some.inj h
        exact ⟨rfl, rfl, rfl⟩
    · cases h
  | adopted bootstrap =>
    simp only [step] at h
    split at h
    · obtain rfl := Option.some.inj h
      exact ⟨rfl, rfl, rfl⟩
    · cases h
  | deviceIdEnsured bootstrap deviceId =>
    simp only [step] at h
    split at h
    · split at h <;>
      · obtain rfl := Option.some.inj h
        exact ⟨rfl, rfl, rfl⟩
    · cases h
  | groupKeyEnsured bootstrap =>
    simp only [step] at h
    split at h
    · split_ifs at h
      obtain rfl := Option.some.inj h
      exact ⟨rfl, rfl, rfl⟩
    · cases h
  | callFails bootstrap =>
    simp only [step] at h
    split at h
    · obtain rfl := Option.some.inj h
      exact ⟨rfl, rfl, rfl⟩
    · obtain rfl := Option.some.inj h
      exact ⟨rfl, rfl, rfl⟩
    · obtain rfl := Option.some.inj h
      exact ⟨rfl, rfl, rfl⟩
    · cases h

/-- The call of `createAccount` changes the cloud only. -/
theorem createAccount_step {bootstrap : Nat} {caller : DocId} {now : Timestamp}
    (h : s.step (.createAccount bootstrap caller now) = some t) :
    t.generated = s.generated ∧ t.keys = s.keys ∧ t.cloud = (createAccountLogic now caller s.cloud).2 := by
  simp only [step] at h
  split at h
  · split at h <;>
    · next heq =>
      obtain rfl := Option.some.inj h
      exact ⟨rfl, rfl, by rw [heq]⟩
  · cases h

/-- The call of `registerDevice` changes the cloud only. -/
theorem registerDevice_step {bootstrap : Nat} {caller : DocId} {now : Timestamp} {input : RegisterDeviceInput}
    {answered : Bool} (h : s.step (.registerDevice bootstrap caller now input answered) = some t) :
    t.generated = s.generated ∧ t.keys = s.keys ∧ ∃ uid deviceId,
      s.bootstraps[bootstrap]? = some ⟨uid, .registering deviceId⟩ ∧
        t.cloud = (registerDeviceLogic now caller {input with deviceId := deviceId} s.cloud).2 := by
  simp only [step] at h
  split at h
  · next uid deviceId hget =>
    split at h <;>
    · next heq =>
      obtain rfl := Option.some.inj h
      exact ⟨rfl, rfl, uid, deviceId, hget, by rw [heq]⟩
  · cases h

/-- At the answer of `createAccount` no more than a call of `ensureForNewAccount` starts. -/
theorem answered_step {bootstrap : Nat} {key : List UInt8} (h : s.step (.answered bootstrap key) = some t) :
    t.cloud = s.cloud ∧ (t.keys = s.keys ∨
      key.length = groupKeyLengthBytes ∧ t.keys = s.keys.start (.ensureForNewAccount key)) := by
  have hensure : ∀ {uid deviceId created accountId},
      s.ensureGroupKey bootstrap uid deviceId created accountId key = some t → t.cloud = s.cloud ∧
        (t.keys = s.keys ∨ key.length = groupKeyLengthBytes ∧ t.keys = s.keys.start (.ensureForNewAccount key)) := by
    intro uid deviceId created accountId h
    simp only [ensureGroupKey] at h
    split at h
    · obtain rfl := Option.some.inj h
      exact ⟨rfl, .inl rfl⟩
    · obtain ⟨keys, hkeys, rfl⟩ := Option.map_eq_some_iff.mp h
      simp only [GroupKeyRun.step] at hkeys
      split_ifs at hkeys with hlen
      obtain rfl := Option.some.inj hkeys
      exact ⟨rfl, .inr ⟨hlen, rfl⟩⟩
  simp only [step] at h
  split at h
  · simp only [groupKeyPath] at h
    split_ifs at h
    · exact hensure h
    · exact hensure h
    · obtain rfl := Option.some.inj h
      exact ⟨rfl, .inl rfl⟩
  · cases h

/-- Keys are made nowhere else than at the answer of `createAccount`. -/
theorem generated_step (h : s.step e = some t) (he : ∀ bootstrap key, e ≠ .answered bootstrap key) :
    t.generated = s.generated := by
  cases e with
  | others cloud =>
    obtain rfl := Option.some.inj h
    rfl
  | keys e =>
    obtain ⟨keys, -, rfl⟩ := Option.map_eq_some_iff.mp h
    rfl
  | createAccount => exact (createAccount_step h).1
  | registerDevice => exact (registerDevice_step h).1
  | answered bootstrap key => exact absurd rfl (he bootstrap key)
  | repository | runBootstrap | resume | adopted | deviceIdEnsured | groupKeyEnsured | callFails =>
    exact (keeps_step h id).1

theorem ForksNoKey.of_eq (h : s.ForksNoKey) (hgenerated : t.generated = s.generated) : t.ForksNoKey :=
  fun g hg => h g (hgenerated ▸ hg)

/-- One more key keeps the property exactly when it has the right to be made. -/
theorem ForksNoKey.concat_iff (h : s.ForksNoKey) {g : KeyGeneration} (hgenerated : t.generated = s.generated ++ [g]) :
    t.ForksNoKey ↔ g.created = true ∨ ¬ HasPeer g.cloud g.accountId g.deviceId := by
  constructor
  · intro ht
    exact ht g (hgenerated ▸ List.mem_append_right _ (List.mem_singleton_self g))
  · intro hg g' hmem
    rw [hgenerated] at hmem
    rcases List.mem_append.mp hmem with hold | hnew
    · exact h g' hold
    · obtain rfl := List.mem_singleton.mp hnew
      exact hg

/-- **A step forks no key exactly when the repository shows the peers at the check.** -/
theorem forksNoKey_step (h : s.ForksNoKey) (hst : s.step e = some t) : t.ForksNoKey ↔ s.ShowsPeers e := by
  by_cases he : ∀ bootstrap key, e ≠ .answered bootstrap key
  · refine iff_of_true (h.of_eq (generated_step hst he)) ?_
    cases e with
    | answered bootstrap key => exact absurd rfl (he bootstrap key)
    | _ => trivial
  push Not at he
  obtain ⟨bootstrap, key, rfl⟩ := he
  simp only [step] at hst
  split at hst
  · next uid deviceId created accountId hget =>
    have hsame : ∀ {uid' deviceId' accountId'}, s.bootstraps[bootstrap]? =
        some ⟨uid', .accountCreated deviceId' false accountId'⟩ →
          deviceId = deviceId' ∧ created = false ∧ accountId = accountId' := by
      intro uid' deviceId' accountId' hget'
      rw [hget] at hget'
      simp only [Option.some.injEq, Bootstrap.mk.injEq, BootstrapPhase.accountCreated.injEq] at hget'
      exact hget'.2
    simp only [groupKeyPath] at hst
    split_ifs at hst with hcreated hrecovers
    · -- a new account
      subst hcreated
      refine iff_of_true ?_ fun uid' deviceId' accountId' hget' => ?_
      · rcases generated_ensureGroupKey hst with ⟨-, hnone⟩ | hnew
        · exact h.of_eq hnone
        · exact (h.concat_iff hnew).mpr (.inl rfl)
      · cases (hsame hget').2.1
    · -- the recovery branch
      obtain ⟨hmissing, hnopeers⟩ := hrecovers
      rcases generated_ensureGroupKey hst with ⟨hready, -⟩ | hnew
      · exact absurd hmissing hready
      rw [h.concat_iff hnew]
      constructor
      · intro hright uid' deviceId' accountId' hget' _ hpeer
        obtain ⟨rfl, rfl, rfl⟩ := hsame hget'
        rcases hright with hnew | hnone
        · cases hnew
        · exact absurd hpeer hnone
      · intro hshows
        have hfalse : created = false := Bool.eq_false_iff.mpr hcreated
        subst hfalse
        exact .inr fun hpeer => hshows uid deviceId accountId hget hmissing hpeer hnopeers
    · -- neither
      obtain rfl := Option.some.inj hst
      refine iff_of_true h fun uid' deviceId' accountId' hget' hmissing _ hnone => ?_
      exact hrecovers ⟨hmissing, hnone⟩
  · cases hst

end BootstrapRun

/-! ### All runs -/

/-- **No key is forked exactly in the runs where the repository shows the peers at each
check that has one.** -/
theorem forksNoKey_iff (cloud : Store) (stored : Option KeyText) (user : Option String)
    (events : List (BootstrapEvent α)) :
    (bootstrapping α cloud stored user).Along BootstrapRun.ForksNoKey (bootstrapping α cloud stored user).init events ↔
      (bootstrapping α cloud stored user).Meets BootstrapRun.ShowsPeers (bootstrapping α cloud stored user).init
        events :=
  Transition.System.along_iff_meets (fun _ _ _ h hst => BootstrapRun.forksNoKey_step h hst) fun _ hg => by cases hg

namespace Reinstalled
open Retry (group)
open Reinstall (laptop phone)

/-- A group of two. -/
def cloud : Store :=
  ((Store.empty.putAccount group ⟨0, 0, 2⟩).putDevice group laptop ⟨"Laptop", .laptop, none, .linux, none, none⟩).putDevice
    group phone ⟨"Phone", .phone, none, .android, none, none⟩

/-- The phone starts without a key: its bootstrap is answered when the account
document has been delivered, but not yet the devices. -/
def events : List (BootstrapEvent Nat) :=
  [.keys (.takeEffect 0), .keys (.resume 0), .repository (.resume 0), .runBootstrap group false,
    .deviceIdEnsured 0 (some phone), .repository (.deviceIdResolved 0 (some "phone")), .createAccount 0 group 1,
    .repository (.accountSnapshot 0 (some 1)), .answered 0 (List.replicate 32 2)]

end Reinstalled

/-- The repository is ready, with the devices still to come: the phone makes a key of
its own in the laptop's group. -/
theorem key_is_forked_before_devices_arrive :
    ∃ t, (bootstrapping Nat Reinstalled.cloud none (some "group")).run
        (bootstrapping Nat Reinstalled.cloud none (some "group")).init Reinstalled.events = some t ∧
      t.repository.state = .ready "group" "phone" (some 1) [] ∧ ¬ t.ForksNoKey := by
  have hrun : ((bootstrapping Nat Reinstalled.cloud none (some "group")).run
      (bootstrapping Nat Reinstalled.cloud none (some "group")).init Reinstalled.events).map
        (fun t => (t.repository.state, t.generated.map fun g =>
          (g.created, g.deviceId, (g.cloud.device g.accountId Reinstall.laptop).isSome))) =
      some (.ready "group" "phone" (some 1) [], [(false, Reinstall.phone, true)]) := by
    decide +kernel
  obtain ⟨t, ht, hshown⟩ := Option.map_eq_some_iff.mp hrun
  obtain ⟨hstate, hgenerated⟩ := Prod.mk.inj hshown
  refine ⟨t, ht, hstate, fun hforks => ?_⟩
  obtain ⟨g, hg, hnoted⟩ : ∃ g ∈ t.generated,
      (g.created, g.deviceId, (g.cloud.device g.accountId Reinstall.laptop).isSome) =
        (false, Reinstall.phone, true) :=
    List.mem_map.mp (hgenerated ▸ List.mem_singleton_self _)
  simp only [Prod.mk.injEq] at hnoted
  obtain ⟨hcreated, hdevice, hpeer⟩ := hnoted
  rcases hforks g hg with hnew | hnone
  · rw [hcreated] at hnew
    cases hnew
  · exact hnone ⟨Reinstall.laptop, by rw [hdevice]; decide +kernel, hpeer⟩

end MagicShare.Account
