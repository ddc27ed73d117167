import Mathlib.Data.List.Basic
import MagicShare.Base.Transition

/-! The account repository: the account document and the devices of the signed-in
user, as two live streams combined into one state.

`_attachToAccount` and `_detach` suspend between their steps, so any number of them
overlap; an event is what one of them does up to its next await, or one delivery by a
subscription. The histories kept beside the fields say what was delivered and emitted. -/
namespace MagicShare.Account

variable {α δ : Type}

/-! ### State -/

inductive AccountState (α δ : Type) where
  | idle
  | loading (accountId currentDeviceId : String)
  | ready (accountId currentDeviceId : String) (account : Option α) (devices : List δ)
  | failed (message : String)
  deriving DecidableEq

/-- The account a state is about. -/
def AccountState.accountId : AccountState α δ → Option String
  | .loading accountId _ => some accountId
  | .ready accountId _ _ _ => some accountId
  | .idle | .failed _ => none

/-- The two subscriptions one `_attachToAccount` opens, with all they have delivered. -/
structure Attachment (α δ : Type) where
  accountId : String
  accountLive : Bool := true
  devicesLive : Bool := true
  accountSnapshots : List (Option α) := []
  deviceSnapshots : List (List δ) := []
  deriving DecidableEq

/-- Why the subscriptions are dropped. -/
inductive AccountTaskKind where
  | attachToAccount (accountId : String)
  /-- The auth state is not an authenticated one. -/
  | signedOut
  deriving DecidableEq

/-- The await a task is suspended at. -/
inductive AccountTaskPhase where
  /-- `accountSub.cancel()`; the devices subscription is cancelled after it. -/
  | cancellingAccount (devicesSub : Option Nat)
  /-- The end of `_detach`. -/
  | detaching
  | resolvingDeviceId
  | finished
  deriving DecidableEq

structure AccountTask where
  kind : AccountTaskKind
  phase : AccountTaskPhase
  deriving DecidableEq

/-- A state the repository emits, with the auth user known to it then. -/
structure Emission (α δ : Type) where
  state : AccountState α δ
  authUser : Option String
  deriving DecidableEq

/-- A call of `onAccountVanished`, with the attachment and the account at the time. -/
structure Vanish where
  attachment : Option Nat
  accountId : Option String
  deriving DecidableEq

structure AccountRepository (α δ : Type) where
  /-- The user of the latest auth state, if it is an authenticated one. -/
  authUser : Option String := none
  accountSubscription : Option Nat := none
  devicesSubscription : Option Nat := none
  currentAccountId : Option String := none
  currentDeviceId : Option String := none
  latestAccount : Option α := none
  latestDevices : List δ := []
  accountDocSeenExisting : Bool := false
  externalDeletionFired : Bool := false
  attachments : List (Attachment α δ) := []
  tasks : List AccountTask := []
  emitted : List (Emission α δ) := []
  vanished : List Vanish := []
  deriving DecidableEq

inductive AccountEvent (α δ : Type) where
  /-- A state of the auth stream, by its user. -/
  | authState (user : Option String)
  | refresh
  /-- A task goes on after a subscription was cancelled. -/
  | resume (task : Nat)
  /-- `deviceIdResolver` answers, or throws. -/
  | deviceIdResolved (task : Nat) (deviceId : Option String)
  | accountSnapshot (attachment : Nat) (snap : Option α)
  | deviceSnapshot (attachment : Nat) (devices : List δ)
  | accountError (attachment : Nat)
  | devicesError (attachment : Nat)

namespace AccountRepository

/-! ### Operations -/

def emit (s : AccountRepository α δ) (state : AccountState α δ) : AccountRepository α δ :=
  {s with emitted := s.emitted ++ [⟨state, s.authUser⟩]}

def cancelAccount (s : AccountRepository α δ) (attachment : Nat) : AccountRepository α δ :=
  {s with attachments := s.attachments.modify attachment fun a => {a with accountLive := false}}

def cancelDevices (s : AccountRepository α δ) (attachment : Nat) : AccountRepository α δ :=
  {s with attachments := s.attachments.modify attachment fun a => {a with devicesLive := false}}

/-- `cancel()` on the devices subscription that `_detach` took, if any. -/
def cancelDevicesSub (s : AccountRepository α δ) : Option Nat → AccountRepository α δ
  | some devicesSub => s.cancelDevices devicesSub
  | none => s

def clearFields (s : AccountRepository α δ) : AccountRepository α δ :=
  {s with
    accountSubscription := none
    devicesSubscription := none
    currentAccountId := none
    currentDeviceId := none
    latestAccount := none
    latestDevices := []}

def addTask (s : AccountRepository α δ) (kind : AccountTaskKind) (phase : AccountTaskPhase) :
    AccountRepository α δ :=
  {s with tasks := s.tasks ++ [⟨kind, phase⟩]}

def setPhase (s : AccountRepository α δ) (task : Nat) (kind : AccountTaskKind) (phase : AccountTaskPhase) :
    AccountRepository α δ :=
  {s with tasks := s.tasks.set task ⟨kind, phase⟩}

/-- `_detach` up to its first await. -/
def detach (s : AccountRepository α δ) (kind : AccountTaskKind) : AccountRepository α δ :=
  match s.accountSubscription with
  | some accountSub => (s.clearFields.cancelAccount accountSub).addTask kind (.cancellingAccount s.devicesSubscription)
  | none => (s.clearFields.cancelDevicesSub s.devicesSubscription).addTask kind .detaching

/-- `_attachToAccount` from the resolved device id on. -/
def openSubscriptions (s : AccountRepository α δ) (accountId deviceId : String) : AccountRepository α δ :=
  emit {s with
    currentAccountId := some accountId
    currentDeviceId := some deviceId
    latestAccount := none
    latestDevices := []
    accountDocSeenExisting := false
    externalDeletionFired := false
    attachments := s.attachments ++ [{accountId}]
    accountSubscription := some s.attachments.length
    devicesSubscription := some s.attachments.length} (.loading accountId deviceId)

def emitReady (s : AccountRepository α δ) : AccountRepository α δ :=
  match s.currentAccountId, s.currentDeviceId with
  | some accountId, some deviceId => s.emit (.ready accountId deviceId s.latestAccount s.latestDevices)
  | _, _ => s

def deliverAccount (s : AccountRepository α δ) (attachment : Nat) (snap : Option α) : AccountRepository α δ :=
  {s with
    latestAccount := snap
    attachments := s.attachments.modify attachment fun a => {a with accountSnapshots := a.accountSnapshots ++ [snap]}}

def deliverDevices (s : AccountRepository α δ) (attachment : Nat) (devices : List δ) : AccountRepository α δ :=
  {s with
    latestDevices := devices
    attachments := s.attachments.modify attachment fun a => {a with deviceSnapshots := a.deviceSnapshots ++ [devices]}}

/-- What a snapshot says about the existence of the account document. -/
def noteExistence (s : AccountRepository α δ) : Option α → AccountRepository α δ
  | some _ => {s with accountDocSeenExisting := true}
  | none =>
    if s.accountDocSeenExisting && !s.externalDeletionFired then
      {s with
        externalDeletionFired := true
        vanished := s.vanished ++ [⟨s.accountSubscription, s.currentAccountId⟩]}
    else s

/-- The listener of the account document. -/
def onAccount (s : AccountRepository α δ) (attachment : Nat) (snap : Option α) : AccountRepository α δ :=
  ((s.deliverAccount attachment snap).noteExistence snap).emitReady

/-- The listener of the devices. -/
def onDevices (s : AccountRepository α δ) (attachment : Nat) (devices : List δ) : AccountRepository α δ :=
  (s.deliverDevices attachment devices).emitReady

def step (s : AccountRepository α δ) : AccountEvent α δ → Option (AccountRepository α δ)
  | .authState (some uid) =>
    if s.currentAccountId = some uid then some {s with authUser := some uid}
    else some (detach {s with authUser := some uid} (.attachToAccount uid))
  | .authState none => some (detach {s with authUser := none} .signedOut)
  | .refresh =>
    match s.currentAccountId with
    | some accountId => some (s.detach (.attachToAccount accountId))
    | none => some s
  | .resume task =>
    match s.tasks[task]? with
    | some ⟨kind, .cancellingAccount devicesSub⟩ => some ((s.cancelDevicesSub devicesSub).setPhase task kind .detaching)
    | some ⟨.attachToAccount accountId, .detaching⟩ =>
      some (s.setPhase task (.attachToAccount accountId) .resolvingDeviceId)
    | some ⟨.signedOut, .detaching⟩ => some ((s.setPhase task .signedOut .finished).emit .idle)
    | _ => none
  | .deviceIdResolved task deviceId =>
    match s.tasks[task]? with
    | some ⟨.attachToAccount accountId, .resolvingDeviceId⟩ =>
      let s := s.setPhase task (.attachToAccount accountId) .finished
      match deviceId with
      | some deviceId => some (s.openSubscriptions accountId deviceId)
      | none => some s
    | _ => none
  | .accountSnapshot attachment snap =>
    match s.attachments[attachment]? with
    | some a => if a.accountLive then some (s.onAccount attachment snap) else none
    | none => none
  | .deviceSnapshot attachment devices =>
    match s.attachments[attachment]? with
    | some a => if a.devicesLive then some (s.onDevices attachment devices) else none
    | none => none
  | .accountError attachment =>
    match s.attachments[attachment]? with
    | some a => if a.accountLive then some (s.emit (.failed "Account stream error")) else none
    | none => none
  | .devicesError attachment =>
    match s.attachments[attachment]? with
    | some a => if a.devicesLive then some (s.emit (.failed "Devices stream error")) else none
    | none => none

/-- `init` with the auth state read there: the first attach starts at once. -/
def start (user : Option String) : AccountRepository α δ :=
  match user with
  | some uid => (detach {authUser := some uid} (.attachToAccount uid)).emit (.loading uid "")
  | none => emit {} .idle

end AccountRepository

/-- The repository from a start with this auth user. -/
def accountRepository (α δ : Type) (user : Option String) :
    Transition.System (AccountRepository α δ) (AccountEvent α δ) where
  init := AccountRepository.start user
  step := AccountRepository.step

namespace AccountRepository
variable {s t : AccountRepository α δ} {e : AccountEvent α δ}

/-! ### What a step does -/

/-- One step, with everything it can do. -/
inductive Moves (s : AccountRepository α δ) : AccountEvent α δ → AccountRepository α δ → Prop
  | sameUser {uid : String} (hcurrent : s.currentAccountId = some uid) :
      Moves s (.authState (some uid)) {s with authUser := some uid}
  | otherUser {uid : String} (hcurrent : s.currentAccountId ≠ some uid) :
      Moves s (.authState (some uid)) (detach {s with authUser := some uid} (.attachToAccount uid))
  | signOut : Moves s (.authState none) (detach {s with authUser := none} .signedOut)
  | refresh {accountId : String} (hcurrent : s.currentAccountId = some accountId) :
      Moves s .refresh (s.detach (.attachToAccount accountId))
  | refreshNothing (hcurrent : s.currentAccountId = none) : Moves s .refresh s
  | cancelled {task : Nat} {kind : AccountTaskKind} {devicesSub : Option Nat}
      (htask : s.tasks[task]? = some ⟨kind, .cancellingAccount devicesSub⟩) :
      Moves s (.resume task) ((s.cancelDevicesSub devicesSub).setPhase task kind .detaching)
  | detached {task : Nat} {accountId : String} (htask : s.tasks[task]? = some ⟨.attachToAccount accountId, .detaching⟩) :
      Moves s (.resume task) (s.setPhase task (.attachToAccount accountId) .resolvingDeviceId)
  | idled {task : Nat} (htask : s.tasks[task]? = some ⟨.signedOut, .detaching⟩) :
      Moves s (.resume task) ((s.setPhase task .signedOut .finished).emit .idle)
  | opened {task : Nat} {accountId deviceId : String}
      (htask : s.tasks[task]? = some ⟨.attachToAccount accountId, .resolvingDeviceId⟩) :
      Moves s (.deviceIdResolved task (some deviceId))
        ((s.setPhase task (.attachToAccount accountId) .finished).openSubscriptions accountId deviceId)
  | unresolved {task : Nat} {accountId : String}
      (htask : s.tasks[task]? = some ⟨.attachToAccount accountId, .resolvingDeviceId⟩) :
      Moves s (.deviceIdResolved task none) (s.setPhase task (.attachToAccount accountId) .finished)
  | accountSnapshot {attachment : Nat} {a : Attachment α δ} (hget : s.attachments[attachment]? = some a)
      (hlive : a.accountLive = true) (snap : Option α) :
      Moves s (.accountSnapshot attachment snap) (s.onAccount attachment snap)
  | deviceSnapshot {attachment : Nat} {a : Attachment α δ} (hget : s.attachments[attachment]? = some a)
      (hlive : a.devicesLive = true) (devices : List δ) :
      Moves s (.deviceSnapshot attachment devices) (s.onDevices attachment devices)
  | accountError {attachment : Nat} {message : String} : Moves s (.accountError attachment) (s.emit (.failed message))
  | devicesError {attachment : Nat} {message : String} : Moves s (.devicesError attachment) (s.emit (.failed message))

theorem moves_of_step (h : s.step e = some t) : Moves s e t := by
  cases e with
  | authState user =>
    cases user with
    | none =>
      obtain rfl := Option.some.inj h
      exact .signOut
    | some uid =>
      simp only [step] at h
      split_ifs at h with hcurrent
      · obtain rfl := Option.some.inj h
        exact .sameUser hcurrent
      · obtain rfl := Option.some.inj h
        exact .otherUser hcurrent
  | refresh =>
    simp only [step] at h
    split at h
    · next hcurrent =>
      obtain rfl := Option.some.inj h
      exact .refresh hcurrent
    · next hcurrent =>
      obtain rfl := Option.some.inj h
      exact .refreshNothing hcurrent
  | resume task =>
    simp only [step] at h
    split at h
    · next htask =>
      obtain rfl := Option.some.inj h
      exact .cancelled htask
    · next htask =>
      obtain rfl := Option.some.inj h
      exact .detached htask
    · next htask =>
      obtain rfl := Option.some.inj h
      exact .idled htask
    · cases h
  | deviceIdResolved task deviceId =>
    simp only [step] at h
    split at h
    · next htask =>
      cases deviceId with
      | some deviceId =>
        obtain rfl := Option.some.inj h
        exact .opened htask
      | none =>
        obtain rfl := Option.some.inj h
        exact .unresolved htask
    · cases h
  | accountSnapshot attachment snap =>
    simp only [step] at h
    split at h
    · next a hget =>
      split_ifs at h with hlive
      obtain rfl := Option.some.inj h
      exact .accountSnapshot hget hlive snap
    · cases h
  | deviceSnapshot attachment devices =>
    simp only [step] at h
    split at h
    · next a hget =>
      split_ifs at h with hlive
      obtain rfl := Option.some.inj h
      exact .deviceSnapshot hget hlive devices
    · cases h
  | accountError attachment =>
    simp only [step] at h
    split at h
    · split_ifs at h
      obtain rfl := Option.some.inj h
      exact .accountError
    · cases h
  | devicesError attachment =>
    simp only [step] at h
    split at h
    · split_ifs at h
      obtain rfl := Option.some.inj h
      exact .devicesError
    · cases h

/-! ### What becomes of the attachments -/

/-- A change of an attachment that forgets no delivery and revives no subscription. -/
structure Keeps (f : Attachment α δ → Attachment α δ) : Prop where
  accountId : ∀ a, (f a).accountId = a.accountId
  accountLive : ∀ a, (f a).accountLive = true → a.accountLive = true
  devicesLive : ∀ a, (f a).devicesLive = true → a.devicesLive = true
  accountSnapshots : ∀ a : Attachment α δ, a.accountSnapshots.Sublist (f a).accountSnapshots
  deviceSnapshots : ∀ a : Attachment α δ, a.deviceSnapshots.Sublist (f a).deviceSnapshots

theorem keeps_cancelAccount : Keeps fun a : Attachment α δ => {a with accountLive := false} := by
  constructor <;> simp

theorem keeps_cancelDevices : Keeps fun a : Attachment α δ => {a with devicesLive := false} := by
  constructor <;> simp

theorem keeps_deliverAccount (snap : Option α) :
    Keeps fun a : Attachment α δ => {a with accountSnapshots := a.accountSnapshots ++ [snap]} := by
  constructor <;> simp

theorem keeps_deliverDevices (devices : List δ) :
    Keeps fun a : Attachment α δ => {a with deviceSnapshots := a.deviceSnapshots ++ [devices]} := by
  constructor <;> simp

def modifyAttachment (s : AccountRepository α δ) (i : Nat) (f : Attachment α δ → Attachment α δ) :
    AccountRepository α δ :=
  {s with attachments := s.attachments.modify i f}

/-- An attachment after a change of one comes from the one at its place. -/
theorem attachment_of_modify {i j : Nat} {f : Attachment α δ → Attachment α δ} {b : Attachment α δ}
    (h : (s.modifyAttachment i f).attachments[j]? = some b) :
    ∃ a, s.attachments[j]? = some a ∧ b = if i = j then f a else a := by
  simp only [modifyAttachment, List.getElem?_modify, Option.map_eq_map, Option.map_eq_some_iff] at h
  obtain ⟨a, ha, rfl⟩ := h
  exact ⟨a, ha, rfl⟩

/-- What has a property that the change keeps has it after the change. -/
theorem exists_mem_modify {i : Nat} {f : Attachment α δ → Attachment α δ} {p : Attachment α δ → Prop}
    (hf : ∀ a, p a → p (f a)) (h : ∃ a ∈ s.attachments, p a) : ∃ a ∈ (s.modifyAttachment i f).attachments, p a := by
  obtain ⟨a, hmem, ha⟩ := h
  obtain ⟨j, hj⟩ := List.mem_iff_getElem?.mp hmem
  refine ⟨if i = j then f a else a, List.mem_of_getElem? (i := j) ?_, ?_⟩
  · simp [modifyAttachment, List.getElem?_modify, hj]
  · split_ifs
    · exact hf a ha
    · exact ha

/-- An attachment after the change, with what it had before. -/
theorem Keeps.back {i j : Nat} {f : Attachment α δ → Attachment α δ} (hf : Keeps f) {b : Attachment α δ}
    (h : (s.modifyAttachment i f).attachments[j]? = some b) :
    ∃ a, s.attachments[j]? = some a ∧ b.accountId = a.accountId ∧
      (b.accountLive = true → a.accountLive = true) ∧ (b.devicesLive = true → a.devicesLive = true) := by
  obtain ⟨a, ha, rfl⟩ := attachment_of_modify h
  refine ⟨a, ha, ?_⟩
  split_ifs
  · exact ⟨hf.accountId a, hf.accountLive a, hf.devicesLive a⟩
  · exact ⟨rfl, id, id⟩

end AccountRepository
end MagicShare.Account
