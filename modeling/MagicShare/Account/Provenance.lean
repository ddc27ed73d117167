import MagicShare.Base.Records
import MagicShare.Account.Repository

/-! Where the emitted account states come from.

`_attachToAccount` awaits the device id with no account attached, and neither looks
again for what may have happened meanwhile nor cancels what another attach has opened.
Along every run, each emitted state is that of the current auth user, put together from
what was delivered for its own account by the only live subscriptions, exactly when
each attach that opens its subscriptions finds none live and the auth user unchanged
(`provenance_iff`). -/
namespace MagicShare.Account

variable {α δ : Type}

namespace AccountRepository

/-! ### The property and its condition -/

/-- A stream opened for the account has delivered the document. -/
def DeliveredAccount (s : AccountRepository α δ) (accountId : String) (account : α) : Prop :=
  ∃ a ∈ s.attachments, a.accountId = accountId ∧ some account ∈ a.accountSnapshots

/-- A stream opened for the account has delivered the devices. -/
def DeliveredDevices (s : AccountRepository α δ) (accountId : String) (devices : List δ) : Prop :=
  ∃ a ∈ s.attachments, a.accountId = accountId ∧ devices ∈ a.deviceSnapshots

structure Provenance (s : AccountRepository α δ) : Prop where
  account : ∀ emission ∈ s.emitted, ∀ accountId deviceId account devices,
    emission.state = .ready accountId deviceId (some account) devices → s.DeliveredAccount accountId account
  devices : ∀ emission ∈ s.emitted, ∀ accountId deviceId account devices,
    emission.state = .ready accountId deviceId account devices → devices ≠ [] → s.DeliveredDevices accountId devices
  oneAccount : ∀ (i j : Nat) (a b : Attachment α δ), s.attachments[i]? = some a → s.attachments[j]? = some b →
    a.accountLive = true → b.accountLive = true → i = j
  oneDevices : ∀ (i j : Nat) (a b : Attachment α δ), s.attachments[i]? = some a → s.attachments[j]? = some b →
    a.devicesLive = true → b.devicesLive = true → i = j
  user : ∀ emission ∈ s.emitted, ∀ accountId, emission.state.accountId = some accountId →
    emission.authUser = some accountId

/-- An attach that has its device id opens subscriptions for the auth user, where
none is live. -/
def OpensAlone (s : AccountRepository α δ) : AccountEvent α δ → Prop
  | .deviceIdResolved task (some _) => ∀ accountId,
    s.tasks[task]? = some ⟨.attachToAccount accountId, .resolvingDeviceId⟩ →
      s.authUser = some accountId ∧ ∀ a ∈ s.attachments, a.accountLive = false ∧ a.devicesLive = false
  | _ => True

/-! ### What holds meanwhile -/

/-- What is shown of the current account was delivered for it, and only its own
subscriptions are live; after a detach the devices subscription may live on. -/
structure Attached (s : AccountRepository α δ) : Prop where
  provenance : s.Provenance
  current : ∀ accountId, s.currentAccountId = some accountId → s.authUser = some accountId
  latestAccount : ∀ accountId account, s.currentAccountId = some accountId → s.latestAccount = some account →
    s.DeliveredAccount accountId account
  latestDevices : ∀ accountId, s.currentAccountId = some accountId → s.latestDevices ≠ [] →
    s.DeliveredDevices accountId s.latestDevices
  liveAccount : ∀ (i : Nat) (a : Attachment α δ), s.attachments[i]? = some a → a.accountLive = true →
    s.accountSubscription = some i ∧ s.currentAccountId = some a.accountId
  liveDevices : ∀ (i : Nat) (a : Attachment α δ), s.attachments[i]? = some a → a.devicesLive = true →
    ∀ accountId, s.currentAccountId = some accountId → a.accountId = accountId

variable {s t : AccountRepository α δ} {e : AccountEvent α δ}

theorem Provenance.of_eq (h : s.Provenance) (hattachments : t.attachments = s.attachments)
    (hemitted : t.emitted = s.emitted) : t.Provenance := by
  constructor <;> simp only [DeliveredAccount, DeliveredDevices, hattachments, hemitted]
  · exact h.account
  · exact h.devices
  · exact h.oneAccount
  · exact h.oneDevices
  · exact h.user

section Keeps
variable {i : Nat} {f : Attachment α δ → Attachment α δ} (hf : Keeps f)
include hf

theorem DeliveredAccount.modify {accountId : String} {account : α} (h : s.DeliveredAccount accountId account) :
    (s.modifyAttachment i f).DeliveredAccount accountId account :=
  exists_mem_modify (fun a ha => ⟨(hf.accountId a).trans ha.1, (hf.accountSnapshots a).subset ha.2⟩) h

theorem DeliveredDevices.modify {accountId : String} {devices : List δ} (h : s.DeliveredDevices accountId devices) :
    (s.modifyAttachment i f).DeliveredDevices accountId devices :=
  exists_mem_modify (fun a ha => ⟨(hf.accountId a).trans ha.1, (hf.deviceSnapshots a).subset ha.2⟩) h

theorem Provenance.modify (h : s.Provenance) : (s.modifyAttachment i f).Provenance := by
  refine ⟨?_, ?_, ?_, ?_, h.user⟩
  · intro emission hmem accountId deviceId account devices hstate
    exact (h.account emission hmem accountId deviceId account devices hstate).modify hf
  · intro emission hmem accountId deviceId account devices hstate hne
    exact (h.devices emission hmem accountId deviceId account devices hstate hne).modify hf
  · intro j k a b ha hb halive hblive
    obtain ⟨a', ha', -, hlive, -⟩ := hf.back ha
    obtain ⟨b', hb', -, hlive', -⟩ := hf.back hb
    exact h.oneAccount j k a' b' ha' hb' (hlive halive) (hlive' hblive)
  · intro j k a b ha hb halive hblive
    obtain ⟨a', ha', -, -, hlive⟩ := hf.back ha
    obtain ⟨b', hb', -, -, hlive'⟩ := hf.back hb
    exact h.oneDevices j k a' b' ha' hb' (hlive halive) (hlive' hblive)

theorem Attached.modify (h : s.Attached) : (s.modifyAttachment i f).Attached := by
  refine ⟨h.provenance.modify hf, h.current, ?_, ?_, ?_, ?_⟩
  · exact fun accountId account hcurrent hlatest => (h.latestAccount accountId account hcurrent hlatest).modify hf
  · exact fun accountId hcurrent hne => (h.latestDevices accountId hcurrent hne).modify hf
  · intro j b hb hlive
    obtain ⟨a, ha, hid, hback, -⟩ := hf.back hb
    rw [hid]
    exact h.liveAccount j a ha (hback hlive)
  · intro j b hb hlive
    obtain ⟨a, ha, hid, -, hback⟩ := hf.back hb
    rw [hid]
    exact h.liveDevices j a ha (hback hlive)

end Keeps

/-! ### One step -/

theorem Provenance.emit (h : s.Provenance) {state : AccountState α δ}
    (haccount : ∀ accountId deviceId account devices, state = .ready accountId deviceId (some account) devices →
      s.DeliveredAccount accountId account)
    (hdevices : ∀ accountId deviceId account devices, state = .ready accountId deviceId account devices →
      devices ≠ [] → s.DeliveredDevices accountId devices)
    (huser : ∀ accountId, state.accountId = some accountId → s.authUser = some accountId) :
    (s.emit state).Provenance := by
  refine ⟨?_, ?_, h.oneAccount, h.oneDevices, ?_⟩
  · intro emission hmem
    rcases List.mem_append.mp hmem with hold | hnew
    · exact h.account emission hold
    · obtain rfl := List.mem_singleton.mp hnew
      exact haccount
  · intro emission hmem
    rcases List.mem_append.mp hmem with hold | hnew
    · exact h.devices emission hold
    · obtain rfl := List.mem_singleton.mp hnew
      exact hdevices
  · intro emission hmem
    rcases List.mem_append.mp hmem with hold | hnew
    · exact h.user emission hold
    · obtain rfl := List.mem_singleton.mp hnew
      exact huser

theorem Attached.emit (h : s.Attached) {state : AccountState α δ} (hemitted : (s.emit state).Provenance) :
    (s.emit state).Attached :=
  ⟨hemitted, h.current, h.latestAccount, h.latestDevices, h.liveAccount, h.liveDevices⟩

/-- A state without a document or devices, of the auth user or of none. -/
theorem Attached.emitBare (h : s.Attached) {state : AccountState α δ}
    (hready : ∀ accountId deviceId account devices, state ≠ .ready accountId deviceId account devices)
    (huser : ∀ accountId, state.accountId = some accountId → s.authUser = some accountId) : (s.emit state).Attached :=
  h.emit <| h.provenance.emit (fun _ _ _ _ hstate => absurd hstate (hready _ _ _ _))
    (fun _ _ _ _ hstate => absurd hstate (hready _ _ _ _)) huser

theorem Attached.emitReady (h : s.Attached) : s.emitReady.Attached := by
  simp only [AccountRepository.emitReady]
  split
  · next accountId deviceId hcurrent hdevice =>
    refine h.emit (h.provenance.emit ?_ ?_ ?_)
    · intro accountId' deviceId' account devices hstate
      obtain ⟨rfl, -, hlatest, -⟩ := AccountState.ready.inj hstate
      exact h.latestAccount accountId account hcurrent hlatest
    · intro accountId' deviceId' account devices hstate hne
      obtain ⟨rfl, -, -, rfl⟩ := AccountState.ready.inj hstate
      exact h.latestDevices accountId hcurrent hne
    · intro accountId' hstate
      obtain rfl := Option.some.inj hstate
      exact h.current accountId hcurrent
  · exact h

/-- A delivery of the only live account subscription. -/
theorem Attached.deliverAccount (h : s.Attached) {attachment : Nat} {a : Attachment α δ}
    (hget : s.attachments[attachment]? = some a) (hlive : a.accountLive = true) (snap : Option α) :
    (s.deliverAccount attachment snap).Attached := by
  have hkept : (s.modifyAttachment attachment _).Attached := h.modify (keeps_deliverAccount snap)
  refine ⟨hkept.provenance.of_eq rfl rfl, hkept.current, ?_, hkept.latestDevices, hkept.liveAccount, hkept.liveDevices⟩
  rintro accountId account hcurrent rfl
  obtain rfl : a.accountId = accountId :=
    Option.some.inj ((h.liveAccount attachment a hget hlive).2.symm.trans hcurrent)
  refine ⟨{a with accountSnapshots := a.accountSnapshots ++ [some account]},
    List.mem_of_getElem? (i := attachment) ?_, rfl, by simp⟩
  simp [AccountRepository.deliverAccount, hget]

theorem Attached.noteExistence (h : s.Attached) (snap : Option α) : (s.noteExistence snap).Attached := by
  have hkept := h.provenance
  cases snap with
  | some account =>
    exact ⟨hkept.of_eq rfl rfl, h.current, h.latestAccount, h.latestDevices, h.liveAccount, h.liveDevices⟩
  | none =>
    simp only [AccountRepository.noteExistence]
    split_ifs
    · exact ⟨hkept.of_eq rfl rfl, h.current, h.latestAccount, h.latestDevices, h.liveAccount, h.liveDevices⟩
    · exact h

/-- A delivery of the only live devices subscription. -/
theorem Attached.deliverDevices (h : s.Attached) {attachment : Nat} {a : Attachment α δ}
    (hget : s.attachments[attachment]? = some a) (hlive : a.devicesLive = true) (devices : List δ) :
    (s.deliverDevices attachment devices).Attached := by
  have hkept : (s.modifyAttachment attachment _).Attached := h.modify (keeps_deliverDevices devices)
  refine ⟨hkept.provenance.of_eq rfl rfl, hkept.current, hkept.latestAccount, ?_, hkept.liveAccount, hkept.liveDevices⟩
  intro accountId hcurrent _
  obtain rfl := h.liveDevices attachment a hget hlive accountId hcurrent
  refine ⟨{a with deviceSnapshots := a.deviceSnapshots ++ [devices]},
    List.mem_of_getElem? (i := attachment) ?_, rfl, by simp [AccountRepository.deliverDevices]⟩
  simp [AccountRepository.deliverDevices, hget]

/-- A state without a current account and without a live account subscription. -/
theorem Provenance.attached (h : s.Provenance) (hcurrent : s.currentAccountId = none)
    (hlive : ∀ (i : Nat) (a : Attachment α δ), s.attachments[i]? = some a → a.accountLive = false) : s.Attached := by
  refine ⟨h, ?_, ?_, ?_, ?_, ?_⟩
  · intro accountId haccount
    rw [hcurrent] at haccount
    cases haccount
  · intro accountId account haccount
    rw [hcurrent] at haccount
    cases haccount
  · intro accountId haccount
    rw [hcurrent] at haccount
    cases haccount
  · intro i a ha halive
    rw [hlive i a ha] at halive
    cases halive
  · intro i a _ _ accountId haccount
    rw [hcurrent] at haccount
    cases haccount

theorem Provenance.cancelDevicesSub (h : s.Provenance) (devicesSub : Option Nat) :
    (s.cancelDevicesSub devicesSub).Provenance := by
  cases devicesSub with
  | some i => exact h.modify keeps_cancelDevices
  | none => exact h

/-- Dropping the subscriptions, whoever is the auth user then. -/
theorem Attached.detach (h : s.Attached) (user : Option String) (kind : AccountTaskKind) :
    (AccountRepository.detach {s with authUser := user} kind).Attached := by
  simp only [AccountRepository.detach]
  split
  · next accountSub hsub =>
    have hkept : (s.modifyAttachment accountSub _).Provenance := h.provenance.modify keeps_cancelAccount
    apply Provenance.attached
    · exact hkept.of_eq rfl rfl
    · rfl
    intro i b hb
    obtain ⟨a, ha, rfl⟩ := attachment_of_modify (s := s) hb
    split_ifs with hi
    · rfl
    · refine Bool.eq_false_iff.mpr fun hlive => hi ?_
      exact Option.some.inj (hsub.symm.trans (h.liveAccount i a ha hlive).1)
  · next hsub =>
    have hkept := (h.provenance.of_eq (t := clearFields {s with authUser := user}) rfl rfl).cancelDevicesSub
      s.devicesSubscription
    apply Provenance.attached
    · exact hkept.of_eq rfl rfl
    · cases s.devicesSubscription <;> rfl
    · intro i b hb
      have hnone : ∀ (j : Nat) (a : Attachment α δ), s.attachments[j]? = some a → a.accountLive = false := by
        intro j a ha
        refine Bool.eq_false_iff.mpr fun hlive => ?_
        rw [(h.liveAccount j a ha hlive).1] at hsub
        cases hsub
      cases hdevices : s.devicesSubscription with
      | none =>
        rw [hdevices] at hb
        exact hnone i b hb
      | some devicesSub =>
        rw [hdevices] at hb
        obtain ⟨a, ha, hback⟩ := attachment_of_modify (s := s) hb
        have halive := hnone i a ha
        rw [hback]
        split_ifs
        · exact halive
        · exact halive

/-- An attach opens for the auth user, with no other subscription live. -/
theorem Attached.opened (h : s.Attached) {accountId : String} (deviceId : String)
    (huser : s.authUser = some accountId)
    (halone : ∀ a ∈ s.attachments, a.accountLive = false ∧ a.devicesLive = false) :
    (s.openSubscriptions accountId deviceId).Attached := by
  have hlast : ∀ (i : Nat) (a : Attachment α δ), (s.attachments ++ [({accountId} : Attachment α δ)])[i]? = some a →
      a.accountLive = true ∨ a.devicesLive = true → i = s.attachments.length ∧ a = {accountId} := by
    intro i a ha hlive
    rcases Records.of_append ha with hold | hnew
    · obtain ⟨haccount, hdevices⟩ := halone a (List.mem_of_getElem? hold)
      simp [haccount, hdevices] at hlive
    · exact hnew
  have hgrown : ∀ {p : Attachment α δ → Prop}, (∃ a ∈ s.attachments, p a) →
      ∃ a ∈ s.attachments ++ [({accountId} : Attachment α δ)], p a := by
    rintro p ⟨a, hmem, ha⟩
    exact ⟨a, List.mem_append_left _ hmem, ha⟩
  refine ⟨⟨?_, ?_, ?_, ?_, ?_⟩, ?_, ?_, ?_, ?_, ?_⟩
  · intro emission hmem accountId' deviceId' account devices hstate
    rcases List.mem_append.mp hmem with hold | hnew
    · exact hgrown (h.provenance.account emission hold accountId' deviceId' account devices hstate)
    · obtain rfl := List.mem_singleton.mp hnew
      cases hstate
  · intro emission hmem accountId' deviceId' account devices hstate hne
    rcases List.mem_append.mp hmem with hold | hnew
    · exact hgrown (h.provenance.devices emission hold accountId' deviceId' account devices hstate hne)
    · obtain rfl := List.mem_singleton.mp hnew
      cases hstate
  · intro i j a b ha hb halive hblive
    exact (hlast i a ha (.inl halive)).1.trans (hlast j b hb (.inl hblive)).1.symm
  · intro i j a b ha hb halive hblive
    exact (hlast i a ha (.inr halive)).1.trans (hlast j b hb (.inr hblive)).1.symm
  · intro emission hmem accountId' hstate
    rcases List.mem_append.mp hmem with hold | hnew
    · exact h.provenance.user emission hold accountId' hstate
    · obtain rfl := List.mem_singleton.mp hnew
      obtain rfl := Option.some.inj hstate
      exact huser
  · intro accountId' hcurrent
    obtain rfl := Option.some.inj hcurrent
    exact huser
  · intro accountId' account _ hlatest
    cases hlatest
  · exact fun _ _ hne => absurd rfl hne
  · intro i a ha hlive
    obtain ⟨rfl, rfl⟩ := hlast i a ha (.inl hlive)
    exact ⟨rfl, rfl⟩
  · intro i a ha hlive accountId' hcurrent
    obtain ⟨-, rfl⟩ := hlast i a ha (.inr hlive)
    exact Option.some.inj hcurrent

/-- Where opening keeps the provenance, the attach is the auth user's and alone. -/
theorem Provenance.alone {accountId deviceId : String} (h : (s.openSubscriptions accountId deviceId).Provenance) :
    s.authUser = some accountId ∧ ∀ a ∈ s.attachments, a.accountLive = false ∧ a.devicesLive = false := by
  refine ⟨h.user _ (List.mem_append_right _ (List.mem_singleton_self _)) accountId rfl, fun a hmem => ?_⟩
  obtain ⟨i, hi⟩ := List.mem_iff_getElem?.mp hmem
  have hlt := (List.getElem?_eq_some_iff.mp hi).1
  have hold : (s.openSubscriptions accountId deviceId).attachments[i]? = some a := by
    simp [openSubscriptions, AccountRepository.emit, Records.append hi]
  have hnew : (s.openSubscriptions accountId deviceId).attachments[s.attachments.length]? = some {accountId} := by
    simp [openSubscriptions, AccountRepository.emit]
  constructor
  · refine Bool.eq_false_iff.mpr fun hlive => ?_
    exact absurd (h.oneAccount i _ a _ hold hnew hlive rfl) (Nat.ne_of_lt hlt)
  · refine Bool.eq_false_iff.mpr fun hlive => ?_
    exact absurd (h.oneDevices i _ a _ hold hnew hlive rfl) (Nat.ne_of_lt hlt)

/-- A change of the tasks alone. -/
theorem Attached.setPhase (h : s.Attached) (task : Nat) (kind : AccountTaskKind) (phase : AccountTaskPhase) :
    (s.setPhase task kind phase).Attached :=
  ⟨h.provenance.of_eq rfl rfl, h.current, h.latestAccount, h.latestDevices, h.liveAccount, h.liveDevices⟩

theorem Attached.cancelDevicesSub (h : s.Attached) (devicesSub : Option Nat) :
    (s.cancelDevicesSub devicesSub).Attached := by
  cases devicesSub with
  | some i => exact h.modify keeps_cancelDevices
  | none => exact h

/-- **A step keeps the provenance exactly when an attach opens alone.** -/
theorem Attached.step (h : s.Attached) (hm : Moves s e t) :
    (s.OpensAlone e → t.Attached) ∧ (t.Provenance → s.OpensAlone e) := by
  cases hm with
  | sameUser hcurrent =>
    refine ⟨fun _ => ⟨h.provenance.of_eq rfl rfl, fun accountId haccount => ?_, h.latestAccount, h.latestDevices,
      h.liveAccount, h.liveDevices⟩, fun _ => trivial⟩
    exact hcurrent.symm.trans haccount
  | otherUser => exact ⟨fun _ => h.detach _ _, fun _ => trivial⟩
  | signOut => exact ⟨fun _ => h.detach _ _, fun _ => trivial⟩
  | refresh => exact ⟨fun _ => h.detach s.authUser _, fun _ => trivial⟩
  | refreshNothing => exact ⟨fun _ => h, fun _ => trivial⟩
  | cancelled => exact ⟨fun _ => (h.cancelDevicesSub _).setPhase _ _ _, fun _ => trivial⟩
  | detached => exact ⟨fun _ => h.setPhase _ _ _, fun _ => trivial⟩
  | idled => exact ⟨fun _ => (h.setPhase _ _ _).emitBare (by simp) (by simp [AccountState.accountId]), fun _ => trivial⟩
  | opened htask =>
    rename_i task accountId deviceId
    constructor
    · intro hc
      obtain ⟨huser, halone⟩ := hc accountId htask
      exact (h.setPhase task _ _).opened deviceId huser halone
    · intro ht accountId' htask'
      obtain rfl : accountId = accountId' := by
        rw [htask] at htask'
        simpa using htask'
      exact Provenance.alone (s := s.setPhase _ _ _) ht
  | unresolved => exact ⟨fun _ => h.setPhase _ _ _, fun _ => trivial⟩
  | accountSnapshot hget hlive snap =>
    exact ⟨fun _ => ((h.deliverAccount hget hlive snap).noteExistence snap).emitReady, fun _ => trivial⟩
  | deviceSnapshot hget hlive devices => exact ⟨fun _ => (h.deliverDevices hget hlive devices).emitReady, fun _ => trivial⟩
  | accountError => exact ⟨fun _ => h.emitBare (by simp) (by simp [AccountState.accountId]), fun _ => trivial⟩
  | devicesError => exact ⟨fun _ => h.emitBare (by simp) (by simp [AccountState.accountId]), fun _ => trivial⟩

theorem empty_attached : Attached ({} : AccountRepository α δ) := by
  refine Provenance.attached ?_ rfl (by simp)
  constructor <;> simp

theorem start_attached (user : Option String) : (start user : AccountRepository α δ).Attached := by
  cases user with
  | none => exact empty_attached.emitBare (by simp) (by simp [AccountState.accountId])
  | some uid =>
    refine (empty_attached.detach (some uid) (.attachToAccount uid)).emitBare (by simp) fun accountId haccount => ?_
    obtain rfl := Option.some.inj haccount
    rfl

end AccountRepository

/-! ### All runs -/

/-- **Each emitted state comes from its own account's streams exactly in the runs
where every attach opens alone.** -/
theorem provenance_iff (user : Option String) (events : List (AccountEvent α δ)) :
    (accountRepository α δ user).Along AccountRepository.Provenance (accountRepository α δ user).init events ↔
      (accountRepository α δ user).Meets AccountRepository.OpensAlone (accountRepository α δ user).init events :=
  Transition.System.along_iff_meets_of_invariant (fun _ => AccountRepository.Attached.provenance)
    (fun _ _ _ h hst => h.step (AccountRepository.moves_of_step hst)) (AccountRepository.start_attached user)

/-- The user changes while the first attach waits for the device id: both attaches open,
and the document of the first user is shown as that of the second. -/
theorem document_of_another_account_is_shown :
    ∃ t, (accountRepository Nat Nat (some "a")).run (accountRepository Nat Nat (some "a")).init
        [.resume 0, .authState (some "b"), .resume 1, .deviceIdResolved 0 (some "d"), .deviceIdResolved 1 (some "d"),
          .accountSnapshot 0 (some 7)] = some t ∧
      t.attachments = [⟨"a", true, true, [some 7], []⟩, ⟨"b", true, true, [], []⟩] ∧
      ⟨.ready "b" "d" (some 7) [], some "b"⟩ ∈ t.emitted ∧ ¬ t.Provenance := by
  refine ⟨_, rfl, by decide +kernel, by decide +kernel, fun hprovenance => ?_⟩
  have hdelivered := hprovenance.account ⟨.ready "b" "d" (some 7) [], some "b"⟩ (by decide +kernel) "b" "d" 7 [] rfl
  revert hdelivered
  simp only [AccountRepository.DeliveredAccount]
  decide +kernel

end MagicShare.Account
