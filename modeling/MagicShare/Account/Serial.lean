import MagicShare.Base.Records
import MagicShare.Account.Bootstrap

/-! Bootstraps one at a time.

`_runBootstrap` waits for the bootstrap in flight, if there is one, and begins when it
has ended, without looking again. With one waiting all is well; several wait for the same
one, and each begins. As long as all but the last find their user done for, and none
comes between the end of the one and the turn of the others, there is one bootstrap at a
time, and the one that stays is the last user's (`bootstraps_serialized`). -/
namespace MagicShare.Account
open Cloud

variable {α : Type}

/-! ### State -/

structure SerialRun (α : Type) where
  app : BootstrapRun α
  /-- The user of the last authenticated event. -/
  last : Option DocId := none
  /-- The accounts and device ids of the `registerDevice` that have succeeded. -/
  registered : List (DocId × DocId) := []

inductive SerialEvent (α : Type) where
  /-- An authenticated event of the auth stream. -/
  | authenticated (uid : DocId) (adopts : Bool)
  | app (e : BootstrapEvent α)
  /-- `ensureGroupKey` throws. -/
  | groupKeyFails (bootstrap : Nat)

/-- Between the new completer and the `finally`. -/
def BootstrapPhase.isActive : BootstrapPhase → Bool
  | .waiting _ | .finished => false
  | .adopting | .ensuringDeviceId | .creatingAccount _ | .accountCreated _ _ _ | .ensuringGroupKey _ _ | .registering _ =>
    true

def BootstrapPhase.isWaiting : BootstrapPhase → Bool
  | .waiting _ => true
  | _ => false

namespace SerialRun

/-! ### Steps -/

/-- The futures of a completer are continued in the order in which they were awaited. -/
def Foremost (s : BootstrapRun α) (bootstrap : Nat) : Prop :=
  ∀ earlier < bootstrap,
    (s.bootstraps[earlier]?).map Bootstrap.phase ≠ (s.bootstraps[bootstrap]?).map Bootstrap.phase

instance (s : BootstrapRun α) (bootstrap : Nat) : Decidable (Foremost s bootstrap) :=
  inferInstanceAs (Decidable (∀ earlier < bootstrap, _))

/-- What a step of the app registers. -/
def registers (s : BootstrapRun α) : BootstrapEvent α → List (DocId × DocId)
  | .registerDevice bootstrap caller now input _ =>
    match s.bootstraps[bootstrap]? with
    | some ⟨_, .registering deviceId⟩ =>
      match registerDeviceLogic now caller {input with deviceId := deviceId} s.cloud with
      | (.ok _, _) => [(caller, deviceId)]
      | (.error _, _) => []
    | _ => []
  | _ => []

def step (s : SerialRun α) : SerialEvent α → Option (SerialRun α)
  | .authenticated uid adopts =>
    (s.app.step (.runBootstrap uid adopts)).map fun app => {s with app := app, last := some uid}
  | .app (.runBootstrap _ _) => none
  | .app (.resume bootstrap adopts) =>
    if Foremost s.app bootstrap then (s.app.step (.resume bootstrap adopts)).map fun app => {s with app := app}
    else none
  | .app e =>
    (s.app.step e).map fun app => {s with app := app, registered := s.registered ++ registers s.app e}
  | .groupKeyFails bootstrap =>
    match s.app.bootstraps[bootstrap]? with
    | some ⟨uid, .ensuringGroupKey _ _⟩ => some {s with app := s.app.finish bootstrap uid .failed}
    | _ => none

end SerialRun

/-- The bootstrap service of a device, from a start with this cloud, key slot and auth user. -/
def serialBootstraps (α : Type) (cloud : Store) (stored : Option KeyText) (user : Option String) :
    Transition.System (SerialRun α) (SerialEvent α) where
  init := {app := (bootstrapping α cloud stored user).init}
  step := SerialRun.step

namespace SerialRun

/-! ### The property and its condition -/

/-- The body of this bootstrap is active. -/
def Active (s : SerialRun α) (bootstrap : Nat) (uid : DocId) : Prop :=
  ∃ phase, s.app.bootstraps[bootstrap]? = some ⟨uid, phase⟩ ∧ phase.isActive = true

/-- One body at a time; and when all have ended, a done bootstrap is that of the last
user, with the device id registered in the account. -/
structure Serialized (s : SerialRun α) : Prop where
  alone : ∀ i j u v, s.Active i u → s.Active j v → i = j
  last : (∀ b ∈ s.app.bootstraps, b.phase = .finished) →
    ∀ accountId deviceId, s.app.state = .done accountId deviceId →
      s.last = some accountId ∧ (accountId, deviceId) ∈ s.registered

/-- A bootstrap of this user begins. -/
def Begins (s t : SerialRun α) (uid : DocId) : Prop :=
  ∃ i, t.Active i uid ∧ ¬ s.Active i uid

/-- A user that is done for is not bootstrapped again, and stays so unless a bootstrap of
another one begins. -/
def NotAgain (s : SerialRun α) (_ : SerialEvent α) (t : SerialRun α) : Prop :=
  ∀ uid, s.app.IsDone uid → ¬ Begins s t uid ∧ (t.app.IsDone uid ∨ ∃ other, other ≠ uid ∧ Begins s t other)

/-- The bootstraps that wait get their turn before another one comes, all but the last
of them find their user done for, and the device is registered as the user that is
bootstrapped. -/
def InTurn (s : SerialRun α) : SerialEvent α → Prop
  | .authenticated uid _ => ∀ b ∈ s.app.bootstraps, b.phase.isWaiting = true →
      s.app.inFlight ≠ none ∨ s.app.IsDone uid ∧ s.app.IsDone b.uid
  | .app (.resume bootstrap _) =>
    (s.app.bootstraps[bootstrap]?).any (fun b => s.app.IsDone b.uid) = true ∨
      ∀ i < s.app.bootstraps.length, i ≠ bootstrap → (s.app.bootstraps[i]?).any (fun b => b.phase.isWaiting) = false
  | .app (.registerDevice bootstrap caller _ _ true) =>
    (s.app.bootstraps[bootstrap]?).any (fun b => b.uid = caller) = true ∨
      ∃ b ∈ s.app.bootstraps, b.phase.isWaiting = true ∧ s.app.currentUid ≠ some b.uid
  | _ => True

instance (s : SerialRun α) : (e : SerialEvent α) → Decidable (s.InTurn e)
  | .authenticated _ _ => inferInstanceAs (Decidable (∀ b ∈ s.app.bootstraps, _ → _ ∨ _))
  | .app (.resume _ _) => inferInstanceAs (Decidable (_ ∨ ∀ i < s.app.bootstraps.length, _))
  | .app (.registerDevice _ _ _ _ true) => inferInstanceAs (Decidable (_ ∨ ∃ b ∈ s.app.bootstraps, _ ∧ _))
  | .app (.registerDevice _ _ _ _ false) | .app (.others _) | .app (.keys _) | .app (.repository _)
  | .app (.runBootstrap _ _) | .app (.adopted _) | .app (.deviceIdEnsured _ _) | .app (.createAccount _ _ _)
  | .app (.answered _ _) | .app (.groupKeyEnsured _) | .app (.callFails _) | .groupKeyFails _ => .isTrue trivial

/-! ### What a step of an active body does -/

/-- Besides its beginning, a body goes on or ends, and nothing else changes who waits. -/
inductive Moves (s : BootstrapRun α) (registered : List (DocId × DocId)) (t : BootstrapRun α) : Prop where
  | stays (hbootstraps : t.bootstraps = s.bootstraps) (hflying : t.inFlight = s.inFlight) (hstate : t.state = s.state)
    (huid : t.currentUid = s.currentUid)
  | goesOn {b : Nat} {uid : DocId} {phase next : BootstrapPhase} (hget : s.bootstraps[b]? = some ⟨uid, phase⟩)
    (hactive : phase.isActive = true) (hnext : next.isActive = true)
    (hbootstraps : t.bootstraps = s.bootstraps.set b ⟨uid, next⟩) (hflying : t.inFlight = s.inFlight)
    (hstate : t.state = s.state) (huid : t.currentUid = s.currentUid)
  | ends {b : Nat} {uid : DocId} {phase : BootstrapPhase} (hget : s.bootstraps[b]? = some ⟨uid, phase⟩)
    (hactive : phase.isActive = true) (hbootstraps : t.bootstraps = s.bootstraps.set b ⟨uid, .finished⟩)
    (hflying : t.inFlight = none) (huid : t.currentUid = s.currentUid)
    (hstate : t.state = .failed ∨ ∃ caller deviceId, t.state = .done uid deviceId ∧ registered = [(caller, deviceId)] ∧
      (caller = uid ∨ ∃ w ∈ s.bootstraps, w.phase.isWaiting = true ∧ s.currentUid ≠ some w.uid))

variable {s t : SerialRun α} {e : SerialEvent α}

theorem moves_ensureGroupKey {a b : BootstrapRun α} {i : Nat} {uid deviceId : DocId} {phase : BootstrapPhase} {created : Bool}
    {accountId : DocId} {key : List UInt8} {registered : List (DocId × DocId)} (hget : a.bootstraps[i]? = some ⟨uid, phase⟩)
    (hactive : phase.isActive = true) (h : a.ensureGroupKey i uid deviceId created accountId key = some b) :
    Moves a registered b := by
  simp only [BootstrapRun.ensureGroupKey] at h
  split at h
  · obtain rfl := Option.some.inj h
    exact .goesOn hget hactive rfl rfl rfl rfl rfl
  · obtain ⟨keys, -, rfl⟩ := Option.map_eq_some_iff.mp h
    refine .goesOn hget hactive ?_ rfl rfl rfl rfl
    rfl

/-- Every step of the app but a beginning. -/
theorem moves_step {app : BootstrapRun α} {e : BootstrapEvent α} (h : s.app.step e = some app)
    (hrun : ∀ uid adopts, e ≠ .runBootstrap uid adopts) (hresume : ∀ i adopts, e ≠ .resume i adopts)
    (hc : s.InTurn (.app e)) : Moves s.app (registers s.app e) app := by
  cases e with
  | runBootstrap uid adopts => exact absurd rfl (hrun uid adopts)
  | resume i adopts => exact absurd rfl (hresume i adopts)
  | others cloud =>
    obtain rfl := Option.some.inj h
    exact .stays rfl rfl rfl rfl
  | keys e =>
    obtain ⟨keys, -, rfl⟩ := Option.map_eq_some_iff.mp h
    exact .stays rfl rfl rfl rfl
  | repository e =>
    obtain ⟨repository, -, rfl⟩ := Option.map_eq_some_iff.mp h
    exact .stays rfl rfl rfl rfl
  | adopted i =>
    simp only [BootstrapRun.step] at h
    split at h
    · next hget =>
      obtain rfl := Option.some.inj h
      exact .goesOn hget rfl rfl rfl rfl rfl rfl
    · cases h
  | deviceIdEnsured i deviceId =>
    simp only [BootstrapRun.step] at h
    split at h
    · next hget =>
      split at h
      · obtain rfl := Option.some.inj h
        exact .goesOn hget rfl rfl rfl rfl rfl rfl
      · obtain rfl := Option.some.inj h
        exact .ends hget rfl rfl rfl rfl (.inl rfl)
    · cases h
  | createAccount i caller now =>
    simp only [BootstrapRun.step] at h
    split at h
    · next hget =>
      split at h
      · obtain rfl := Option.some.inj h
        exact .goesOn hget rfl rfl rfl rfl rfl rfl
      · obtain rfl := Option.some.inj h
        exact .ends hget rfl rfl rfl rfl (.inl rfl)
    · cases h
  | answered i key =>
    simp only [BootstrapRun.step] at h
    split at h
    · next hget =>
      simp only [BootstrapRun.groupKeyPath] at h
      split_ifs at h
      · exact moves_ensureGroupKey hget rfl h
      · exact moves_ensureGroupKey hget rfl h
      · obtain rfl := Option.some.inj h
        exact .goesOn hget rfl rfl rfl rfl rfl rfl
    · cases h
  | groupKeyEnsured i =>
    simp only [BootstrapRun.step] at h
    split at h
    · next hget =>
      split_ifs at h
      obtain rfl := Option.some.inj h
      exact .goesOn hget rfl rfl rfl rfl rfl rfl
    · cases h
  | registerDevice i caller now input answered =>
    simp only [BootstrapRun.step] at h
    split at h
    · next uid deviceId hget =>
      split at h
      · next hregistered =>
        obtain rfl := Option.some.inj h
        refine .ends hget rfl rfl rfl rfl ?_
        cases answered with
        | false => exact .inl rfl
        | true =>
          refine .inr ⟨caller, deviceId, rfl, by simp only [registers, hget, hregistered], ?_⟩
          rcases hc with hown | hwaits
          · rw [hget] at hown
            exact .inl (of_decide_eq_true hown).symm
          · exact .inr hwaits
      · obtain rfl := Option.some.inj h
        exact .ends hget rfl rfl rfl rfl (.inl rfl)
    · cases h
  | callFails i =>
    simp only [BootstrapRun.step] at h
    split at h
    · next hget =>
      obtain rfl := Option.some.inj h
      exact .ends hget rfl rfl rfl rfl (.inl rfl)
    · next hget =>
      obtain rfl := Option.some.inj h
      exact .ends hget rfl rfl rfl rfl (.inl rfl)
    · next hget =>
      obtain rfl := Option.some.inj h
      exact .ends hget rfl rfl rfl rfl (.inl rfl)
    · cases h

/-! ### The invariant -/

def Waits (s : SerialRun α) (i : Nat) (uid : DocId) (other : Nat) : Prop :=
  s.app.bootstraps[i]? = some ⟨uid, .waiting other⟩

/-- All that wait wait for the body that is active, or was last; the last of them is the
last user's, or else that body is. -/
structure Queued (s : SerialRun α) : Prop where
  active : ∀ i uid, s.Active i uid →
    s.app.inFlight = some i ∧ s.app.state = .inFlight ∧ s.app.currentUid = some uid
  flying : ∀ i, s.app.inFlight = some i → ∃ uid, s.Active i uid
  waits : ∀ i uid other, s.Waits i uid other → s.app.inFlight = some other ∨ s.app.inFlight = none
  together : ∀ i u o j v o', s.Waits i u o → s.Waits j v o' → o = o'
  latest : ∀ i uid other, s.Waits i uid other → (∀ j v o, s.Waits j v o → j ≤ i) → s.last = some uid
  settled : (∀ i uid other, ¬ s.Waits i uid other) → (s.app.inFlight ≠ none ∨ s.app.state.isDone = true) →
    s.last = s.app.currentUid
  done : ∀ u d, s.app.state = .done u d → s.app.currentUid = some u ∧
    ((u, d) ∈ s.registered ∨ ∃ i v other, s.Waits i v other ∧ v ≠ u)

theorem waits_of_set {b : Nat} {uid : DocId} {phase next : BootstrapPhase} {i : Nat} {v : DocId} {other : Nat}
    (hget : s.app.bootstraps[b]? = some ⟨uid, phase⟩) (hphase : phase.isWaiting = false) (hnext : next.isWaiting = false)
    (hset : t.app.bootstraps = s.app.bootstraps.set b ⟨uid, next⟩) : t.Waits i v other ↔ s.Waits i v other := by
  unfold Waits
  rw [hset, List.getElem?_set]
  split_ifs with hi hlt
  · subst hi
    refine iff_of_false (fun h => ?_) fun h => ?_
    · obtain rfl := (Bootstrap.mk.inj (Option.some.inj h)).2
      cases hnext
    · obtain rfl := (Bootstrap.mk.inj (Option.some.inj (hget.symm.trans h))).2
      cases hphase
  · subst hi
    exact absurd (List.getElem?_eq_some_iff.mp hget).1 hlt
  · exact Iff.rfl

/-- After one has changed its phase, the active ones are it, if it is, and the others. -/
theorem active_of_set {b : Nat} {uid : DocId} {next : BootstrapPhase} {i : Nat} {v : DocId}
    (hset : t.app.bootstraps = s.app.bootstraps.set b ⟨uid, next⟩) (h : t.Active i v) :
    (i = b ∧ v = uid ∧ next.isActive = true) ∨ (i ≠ b ∧ s.Active i v) := by
  obtain ⟨phase, hget, hactive⟩ := h
  rw [hset] at hget
  rcases Records.of_set hget with ⟨hi, heq⟩ | ⟨hi, hold⟩
  · obtain ⟨rfl, rfl⟩ := Bootstrap.mk.inj heq
    exact .inl ⟨hi, rfl, hactive⟩
  · exact .inr ⟨hi, phase, hold, hactive⟩

theorem isWaiting_of_isActive {phase : BootstrapPhase} (h : phase.isActive = true) : phase.isWaiting = false := by
  cases phase <;> first | rfl | cases h

/-- Who is active and who waits is as it was. -/
theorem Queued.same (h : s.Queued) (hactive : ∀ i uid, t.Active i uid ↔ s.Active i uid)
    (hwaits : ∀ i uid other, t.Waits i uid other ↔ s.Waits i uid other) (hflying : t.app.inFlight = s.app.inFlight)
    (hstate : t.app.state = s.app.state) (huid : t.app.currentUid = s.app.currentUid) (hlast : t.last = s.last)
    (hregistered : ∀ r ∈ s.registered, r ∈ t.registered) : t.Queued := by
  refine ⟨?_, ?_, ?_, ?_, ?_, ?_, ?_⟩
  · simpa only [hactive, hflying, hstate, huid] using h.active
  · simpa only [hactive, hflying] using h.flying
  · simpa only [hwaits, hflying] using h.waits
  · simpa only [hwaits] using h.together
  · simpa only [hwaits, hlast] using h.latest
  · simpa only [hwaits, hflying, hstate, huid, hlast] using h.settled
  · intro u d hdone
    obtain ⟨hcurrent, hreg⟩ := h.done u d (hstate.symm.trans hdone)
    refine ⟨huid.trans hcurrent, hreg.imp (hregistered _) ?_⟩
    rintro ⟨i, v, other, hw, hne⟩
    exact ⟨i, v, other, (hwaits i v other).mpr hw, hne⟩

/-- The active body ends, failed or with its device registered. -/
theorem Queued.ends (h : s.Queued) {b : Nat} {uid : DocId} {phase : BootstrapPhase} (hget : s.app.bootstraps[b]? = some ⟨uid, phase⟩)
    (hphase : phase.isActive = true) (hset : t.app.bootstraps = s.app.bootstraps.set b ⟨uid, .finished⟩)
    (hflying : t.app.inFlight = none) (huid : t.app.currentUid = s.app.currentUid) (hlast : t.last = s.last)
    (hstate : t.app.state = .failed ∨ ∃ deviceId, t.app.state = .done uid deviceId ∧
      ((uid, deviceId) ∈ t.registered ∨ ∃ i v other, s.Waits i v other ∧ v ≠ uid)) : t.Queued := by
  obtain ⟨hbusy, -, hcurrent⟩ := h.active b uid ⟨phase, hget, hphase⟩
  have hwaits : ∀ i v other, t.Waits i v other ↔ s.Waits i v other := fun i v other =>
    waits_of_set hget (isWaiting_of_isActive hphase) rfl hset
  refine ⟨fun i v hactive => ?_, fun i hi => ?_, fun i v other _ => .inr hflying, ?_, ?_, fun hnone _ => ?_, fun u d hdone => ?_⟩
  · rcases active_of_set hset hactive with ⟨-, -, hfinished⟩ | ⟨hne, hother⟩
    · cases hfinished
    · exact absurd (Option.some.inj ((h.active i v hother).1.symm.trans hbusy)) hne
  · cases hflying.symm.trans hi
  · simpa only [hwaits] using h.together
  · simpa only [hwaits, hlast] using h.latest
  · rw [hlast, huid]
    refine h.settled (fun i v other hw => hnone i v other ((hwaits i v other).mpr hw)) (.inl ?_)
    rw [hbusy]
    exact Option.some_ne_none b
  · rcases hstate with hfailed | ⟨deviceId, hnew, hreg⟩
    · cases hfailed.symm.trans hdone
    · obtain ⟨rfl, rfl⟩ := BootstrapState.done.inj (hnew.symm.trans hdone)
      refine ⟨huid.trans hcurrent, hreg.imp_right ?_⟩
      rintro ⟨i, v, other, hw, hne⟩
      exact ⟨i, v, other, (hwaits i v other).mpr hw, hne⟩

theorem waits_of_mem {w : Bootstrap} (hmem : w ∈ s.app.bootstraps) (hw : w.phase.isWaiting = true) :
    ∃ i other, s.Waits i w.uid other := by
  obtain ⟨i, hget⟩ := List.getElem?_of_mem hmem
  obtain ⟨uid, phase⟩ := w
  cases phase with
  | waiting other => exact ⟨i, other, hget⟩
  | _ => cases hw

theorem Queued.moves (h : s.Queued) {registered : List (DocId × DocId)} (hmoves : Moves s.app registered t.app)
    (hlast : t.last = s.last) (hregistered : t.registered = s.registered ++ registered) : t.Queued := by
  have hkept : ∀ r ∈ s.registered, r ∈ t.registered := fun r hr => hregistered ▸ List.mem_append_left _ hr
  cases hmoves with
  | stays hbootstraps hflying hstate huid =>
    refine h.same (fun i uid => ?_) (fun i uid other => ?_) hflying hstate huid hlast hkept
    · unfold Active
      rw [hbootstraps]
    · unfold Waits
      rw [hbootstraps]
  | @goesOn b uid phase next hget hactive hnext hbootstraps hflying hstate huid =>
    refine h.same (fun i v => ⟨fun hi => ?_, fun hi => ?_⟩) (fun i v other => ?_) hflying hstate huid hlast hkept
    · rcases active_of_set hbootstraps hi with ⟨rfl, rfl, -⟩ | ⟨-, hother⟩
      · exact ⟨phase, hget, hactive⟩
      · exact hother
    · -- only one is active
      have hib : b = i := Option.some.inj ((h.active b uid ⟨phase, hget, hactive⟩).1.symm.trans (h.active i v hi).1)
      subst hib
      obtain ⟨phase', hget', -⟩ := hi
      obtain rfl := (Bootstrap.mk.inj (Option.some.inj (hget.symm.trans hget'))).1
      refine ⟨next, ?_, hnext⟩
      rw [hbootstraps, Records.set_self hget]
    · exact waits_of_set hget (isWaiting_of_isActive hactive) (isWaiting_of_isActive hnext) hbootstraps
  | @ends b uid phase hget hactive hbootstraps hflying huid hstate =>
    refine h.ends hget hactive hbootstraps hflying huid hlast (hstate.imp_right ?_)
    rintro ⟨caller, deviceId, hdone, hnew, hcaller⟩
    refine ⟨deviceId, hdone, ?_⟩
    rcases hcaller with rfl | ⟨w, hmem, hw, hne⟩
    · exact .inl (by rw [hregistered, hnew]; exact List.mem_append_right _ (List.mem_singleton_self _))
    · obtain ⟨i, other, hwaits⟩ := waits_of_mem hmem hw
      refine .inr ⟨i, w.uid, other, hwaits, fun heq => hne ?_⟩
      rw [heq]
      exact (h.active b uid ⟨phase, hget, hactive⟩).2.2

theorem Queued.idle (h : s.Queued) (hdone : s.app.state.isDone = true) : s.app.inFlight = none := by
  by_contra hbusy
  obtain ⟨i, hi⟩ := Option.ne_none_iff_exists'.mp hbusy
  obtain ⟨uid, hactive⟩ := h.flying i hi
  rw [(h.active i uid hactive).2.1] at hdone
  cases hdone

theorem Queued.not_active (h : s.Queued) (hidle : s.app.inFlight = none) (i : Nat) (uid : DocId) : ¬ s.Active i uid :=
  fun hactive => by cases hidle.symm.trans (h.active i uid hactive).1

/-- The only one active has just begun, and nobody waits. -/
theorem queued_begin {b : Nat} {uid : DocId} (hactive : ∀ i v, t.Active i v ↔ i = b ∧ v = uid)
    (hnone : ∀ i v other, ¬ t.Waits i v other) (hflying : t.app.inFlight = some b) (hstate : t.app.state = .inFlight)
    (huid : t.app.currentUid = some uid) (hlast : t.last = some uid) : t.Queued := by
  refine ⟨fun i v hi => ?_, fun i hi => ?_, fun i v other hw => ?_, fun i u o j v o' hw => ?_, fun i v other hw => ?_,
    fun _ _ => hlast.trans huid.symm, fun u d hdone => ?_⟩
  · obtain ⟨rfl, rfl⟩ := (hactive i v).mp hi
    exact ⟨hflying, hstate, huid⟩
  · obtain rfl := Option.some.inj (hflying.symm.trans hi)
    exact ⟨uid, (hactive b uid).mpr ⟨rfl, rfl⟩⟩
  · exact absurd hw (hnone i v other)
  · exact absurd hw (hnone i u o)
  · exact absurd hw (hnone i v other)
  · cases hstate.symm.trans hdone

theorem notAgain_begin {b : Nat} {uid : DocId} (hidle : ∀ i v, ¬ s.Active i v) (hactive : ∀ i v, t.Active i v ↔ i = b ∧ v = uid)
    (hnot : ¬ s.app.IsDone uid) : NotAgain s e t := by
  intro v hdone
  have hne : uid ≠ v := fun heq => hnot (heq ▸ hdone)
  refine ⟨fun ⟨i, hi, _⟩ => hne ((hactive i v).mp hi).2.symm, .inr ⟨uid, hne, b, (hactive b uid).mpr ⟨rfl, rfl⟩, hidle b uid⟩⟩

/-- While a body is active nobody is done for. -/
theorem Queued.notAgain_of_active (h : s.Queued) {i : Nat} {uid : DocId} (hactive : s.Active i uid) : NotAgain s e t := by
  intro v hdone
  have hstate := hdone.2
  rw [(h.active i uid hactive).2.1] at hstate
  cases hstate

/-- Nobody begins, and those done for stay so. -/
theorem notAgain_same (hactive : ∀ i uid, t.Active i uid → s.Active i uid) (hstate : t.app.state = s.app.state)
    (huid : t.app.currentUid = s.app.currentUid) : NotAgain s e t := by
  intro v hdone
  refine ⟨fun ⟨i, hi, hnot⟩ => hnot (hactive i v hi), .inl ⟨huid.trans hdone.1, ?_⟩⟩
  rw [hstate]
  exact hdone.2

theorem Queued.notAgain_moves (h : s.Queued) {registered : List (DocId × DocId)} (hmoves : Moves s.app registered t.app) :
    NotAgain s e t := by
  cases hmoves with
  | stays hbootstraps hflying hstate huid =>
    refine notAgain_same (fun i uid hactive => ?_) hstate huid
    unfold Active at hactive ⊢
    rwa [← hbootstraps]
  | @goesOn b uid phase next hget hactive => exact h.notAgain_of_active ⟨phase, hget, hactive⟩
  | @ends b uid phase hget hactive => exact h.notAgain_of_active ⟨phase, hget, hactive⟩

/-! ### One step -/

/-- The phase of a body that begins. -/
theorem isActive_first (adopts : Bool) :
    (if adopts then BootstrapPhase.adopting else .ensuringDeviceId).isActive = true := by
  cases adopts <;> rfl

/-- Another one comes to wait for the active body. -/
theorem Queued.comes (h : s.Queued) {uid : DocId} {other : Nat} (hbusy : s.app.inFlight = some other)
    (happend : t.app.bootstraps = s.app.bootstraps ++ [⟨uid, .waiting other⟩]) (hflying : t.app.inFlight = s.app.inFlight)
    (hstate : t.app.state = s.app.state) (huid : t.app.currentUid = s.app.currentUid) (hlast : t.last = some uid) :
    t.Queued := by
  have hkept : ∀ {i : Nat} {b : Bootstrap}, s.app.bootstraps[i]? = some b → t.app.bootstraps[i]? = some b := by
    intro i b hget
    rw [happend, Records.append hget]
  have hactive : ∀ {i : Nat} {v : DocId}, t.Active i v → s.Active i v := by
    rintro i v ⟨phase, hget, hphase⟩
    rw [happend] at hget
    rcases Records.of_append hget with hold | ⟨-, heq⟩
    · exact ⟨phase, hold, hphase⟩
    · obtain ⟨-, rfl⟩ := Bootstrap.mk.inj heq
      cases hphase
  have hwaits : ∀ {i : Nat} {v : DocId} {o : Nat}, t.Waits i v o → o = other ∧
      (s.Waits i v o ∨ i = s.app.bootstraps.length ∧ v = uid) := by
    intro i v o hw
    unfold Waits at hw
    rw [happend] at hw
    rcases Records.of_append hw with hold | ⟨hi, heq⟩
    · rcases h.waits i v o hold with hflying | hidle
      · exact ⟨(Option.some.inj (hbusy.symm.trans hflying)).symm, .inl hold⟩
      · cases hidle.symm.trans hbusy
    · obtain ⟨rfl, hphase⟩ := Bootstrap.mk.inj heq
      exact ⟨BootstrapPhase.waiting.inj hphase, .inr ⟨hi, rfl⟩⟩
  have hcomes : t.Waits s.app.bootstraps.length uid other := by
    unfold Waits
    rw [happend, List.getElem?_concat_length]
  refine ⟨fun i v hi => ?_, fun i hi => ?_, fun i v o hw => ?_, fun i u o j v o' hw hw' => ?_, fun i v o hw hlater => ?_,
    fun hnone _ => absurd hcomes (hnone _ uid other), fun u d hdone => ?_⟩
  · rw [hflying, hstate, huid]
    exact h.active i v (hactive hi)
  · obtain ⟨v, phase, hget, hphase⟩ := h.flying i (hflying.symm.trans hi)
    exact ⟨v, phase, hkept hget, hphase⟩
  · rw [(hwaits hw).1]
    exact .inl (hflying.trans hbusy)
  · rw [(hwaits hw).1, (hwaits hw').1]
  · rcases (hwaits hw).2 with hold | ⟨-, rfl⟩
    · -- the one that comes is later
      have hlt := (List.getElem?_eq_some_iff.mp hold).1
      have hle := hlater _ uid other hcomes
      omega
    · exact hlast
  · have hidle := h.idle (s := s) (by rw [← hstate, hdone]; rfl)
    cases hidle.symm.trans hbusy

/-- Another one comes, and begins at once. -/
theorem Queued.comes_idle (h : s.Queued) {uid : DocId} {phase : BootstrapPhase}
    (hnone : ∀ b ∈ s.app.bootstraps, b.phase.isWaiting = false) (hidle : s.app.inFlight = none) (hphase : phase.isActive = true)
    (hbootstraps : t.app.bootstraps = s.app.bootstraps ++ [⟨uid, phase⟩])
    (hflying : t.app.inFlight = some s.app.bootstraps.length) (hstate : t.app.state = .inFlight)
    (huid : t.app.currentUid = some uid) (hlast : t.last = some uid) (hnot : ¬ s.app.IsDone uid) :
    t.Queued ∧ NotAgain s e t := by
  have hactive : ∀ i v, t.Active i v ↔ i = s.app.bootstraps.length ∧ v = uid := by
    intro i v
    constructor
    · rintro ⟨p, hget, hp⟩
      rw [hbootstraps] at hget
      rcases Records.of_append hget with hold | ⟨hi, heq⟩
      · exact absurd ⟨p, hold, hp⟩ (h.not_active hidle i v)
      · exact ⟨hi, (Bootstrap.mk.inj heq).1⟩
    · rintro ⟨rfl, rfl⟩
      exact ⟨phase, by rw [hbootstraps, List.getElem?_concat_length], hphase⟩
  have hwaits : ∀ i v other, ¬ t.Waits i v other := by
    intro i v other hw
    unfold Waits at hw
    rw [hbootstraps] at hw
    rcases Records.of_append hw with hold | ⟨-, heq⟩
    · cases hnone _ (List.mem_of_getElem? hold)
    · obtain ⟨-, rfl⟩ := Bootstrap.mk.inj heq
      cases hphase
  exact ⟨queued_begin hactive hwaits hflying hstate huid hlast, notAgain_begin (h.not_active hidle) hactive hnot⟩

/-- The one that waits alone begins. -/
theorem Queued.begins (h : s.Queued) {b : Nat} {uid : DocId} {other : Nat} {phase : BootstrapPhase} (hw : s.Waits b uid other)
    (hnone : ∀ i v o, s.Waits i v o → i = b) (hidle : s.app.inFlight = none) (hphase : phase.isActive = true)
    (hbootstraps : t.app.bootstraps = s.app.bootstraps.set b ⟨uid, phase⟩) (hflying : t.app.inFlight = some b)
    (hstate : t.app.state = .inFlight) (huid : t.app.currentUid = some uid) (hlast : t.last = s.last)
    (hnot : ¬ s.app.IsDone uid) : t.Queued ∧ NotAgain s e t := by
  have hactive : ∀ i v, t.Active i v ↔ i = b ∧ v = uid := by
    intro i v
    constructor
    · intro hi
      rcases active_of_set hbootstraps hi with ⟨rfl, rfl, -⟩ | ⟨-, hother⟩
      · exact ⟨rfl, rfl⟩
      · exact absurd hother (h.not_active hidle i v)
    · rintro ⟨rfl, rfl⟩
      exact ⟨phase, by rw [hbootstraps, Records.set_self hw], hphase⟩
  have hwaits : ∀ i v o, ¬ t.Waits i v o := by
    intro i v o hi
    unfold Waits at hi
    rw [hbootstraps] at hi
    rcases Records.of_set hi with ⟨-, heq⟩ | ⟨hib, hold⟩
    · obtain ⟨-, rfl⟩ := Bootstrap.mk.inj heq
      cases hphase
    · exact hib (hnone i v o hold)
  have hlatest := h.latest b uid other hw fun i v o hi => Nat.le_of_eq (hnone i v o hi)
  exact ⟨queued_begin hactive hwaits hflying hstate huid (hlast.trans hlatest),
    notAgain_begin (h.not_active hidle) hactive hnot⟩

/-- The first of those that wait finds its user done for. -/
theorem Queued.returns (h : s.Queued) {b : Nat} {uid : DocId} {other : Nat} (hw : s.Waits b uid other)
    (hforemost : Foremost s.app b) (hdone : s.app.IsDone uid)
    (hbootstraps : t.app.bootstraps = s.app.bootstraps.set b ⟨uid, .finished⟩) (hflying : t.app.inFlight = s.app.inFlight)
    (hstate : t.app.state = s.app.state) (huid : t.app.currentUid = s.app.currentUid) (hlast : t.last = s.last)
    (hregistered : t.registered = s.registered) : t.Queued ∧ NotAgain s e t := by
  have hidle := h.idle hdone.2
  have hactive : ∀ i v, t.Active i v → s.Active i v := by
    intro i v hi
    rcases active_of_set hbootstraps hi with ⟨-, -, hfinished⟩ | ⟨-, hother⟩
    · cases hfinished
    · exact hother
  have hwaits : ∀ {i : Nat} {v : DocId} {o : Nat}, t.Waits i v o → i ≠ b ∧ s.Waits i v o := by
    intro i v o hi
    unfold Waits at hi
    rw [hbootstraps] at hi
    rcases Records.of_set hi with ⟨-, heq⟩ | ⟨hib, hold⟩
    · cases (Bootstrap.mk.inj heq).2
    · exact ⟨hib, hold⟩
  have hkept : ∀ {i : Nat} {v : DocId} {o : Nat}, i ≠ b → s.Waits i v o → t.Waits i v o := by
    intro i v o hne hi
    unfold Waits at hi ⊢
    rwa [hbootstraps, List.getElem?_set_ne (Ne.symm hne)]
  refine ⟨⟨fun i v hi => absurd (hactive i v hi) (h.not_active hidle i v), fun i hi => ?_,
    fun _ _ _ _ => .inr (hflying.trans hidle), fun i u o j v o' hi hj => h.together i u o j v o' (hwaits hi).2 (hwaits hj).2,
    fun i v o hi hlater => ?_, fun hnone hrest => ?_, fun u d hu => ?_⟩, notAgain_same hactive hstate huid⟩
  · cases (hflying.symm.trans hi).symm.trans hidle
  · obtain ⟨hne, hold⟩ := hwaits hi
    rw [hlast]
    refine h.latest i v o hold fun j w p hj => ?_
    by_cases hjb : j = b
    · subst hjb
      -- those before it would have had their turn
      by_contra hlt
      obtain rfl := h.together i v o j uid other hold hw
      refine hforemost i (by omega) ?_
      unfold Waits at hold hw
      rw [hold, hw]
      rfl
    · exact hlater j w p (hkept hjb hj)
  · rw [hlast, huid]
    refine (h.latest b uid other hw fun j w p hj => ?_).trans hdone.1.symm
    by_cases hjb : j = b
    · exact Nat.le_of_eq hjb
    · exact absurd (hkept hjb hj) (hnone j w p)
  · obtain ⟨hcurrent, hreg⟩ := h.done u d (hstate.symm.trans hu)
    refine ⟨huid.trans hcurrent, ?_⟩
    rcases hreg with hreg | ⟨i, v, o, hi, hne⟩
    · exact .inl (hregistered ▸ hreg)
    · refine .inr ⟨i, v, o, hkept ?_ hi, hne⟩
      rintro rfl
      obtain rfl := (Bootstrap.mk.inj (Option.some.inj (hi.symm.trans hw))).1
      exact hne (Option.some.inj (hdone.1.symm.trans hcurrent))

theorem Queued.authenticated (h : s.Queued) {uid : DocId} {adopts : Bool} (hc : s.InTurn (.authenticated uid adopts))
    (hst : s.step (.authenticated uid adopts) = some t) : t.Queued ∧ NotAgain s e t := by
  obtain ⟨app, happ, rfl⟩ := Option.map_eq_some_iff.mp hst
  simp only [BootstrapRun.step] at happ
  split_ifs at happ with hdone
  · -- done for already
    obtain rfl := Option.some.inj happ
    have hidle := h.idle hdone.2
    refine ⟨⟨h.active, h.flying, h.waits, h.together, fun i v other hw _ => ?_, fun _ _ => hdone.1.symm, h.done⟩,
      notAgain_same (fun _ _ hactive => hactive) rfl rfl⟩
    rcases hc _ (List.mem_of_getElem? hw) rfl with hbusy | ⟨-, hown⟩
    · exact absurd hidle hbusy
    · exact hdone.1.symm.trans hown.1
  · split at happ
    · -- it waits
      next other hbusy =>
      obtain rfl := Option.some.inj happ
      obtain ⟨v, hactive⟩ := h.flying other hbusy
      exact ⟨h.comes hbusy rfl rfl rfl rfl rfl, h.notAgain_of_active hactive⟩
    · -- it begins
      next hidle =>
      obtain rfl := Option.some.inj happ
      refine h.comes_idle (fun b hmem => ?_) hidle (isActive_first adopts) (by simp [BootstrapRun.begin, BootstrapRun.setPhase])
        rfl rfl rfl rfl hdone
      by_contra hwaits
      rcases hc b hmem (Bool.of_not_eq_false hwaits) with hbusy | ⟨hown, -⟩
      · exact hbusy hidle
      · exact hdone hown

theorem Queued.resume (h : s.Queued) {b : Nat} {adopts : Bool} (hc : s.InTurn (.app (.resume b adopts)))
    (hst : s.step (.app (.resume b adopts)) = some t) : t.Queued ∧ NotAgain s e t := by
  simp only [SerialRun.step] at hst
  split_ifs at hst with hforemost
  obtain ⟨app, happ, rfl⟩ := Option.map_eq_some_iff.mp hst
  simp only [BootstrapRun.step] at happ
  split at happ
  · next uid other hget =>
    split_ifs at happ with hended hdone
    · obtain rfl := Option.some.inj happ
      exact h.returns hget hforemost hdone rfl rfl rfl rfl rfl rfl
    · obtain rfl := Option.some.inj happ
      have hidle : s.app.inFlight = none := by
        refine (h.waits b uid other hget).resolve_left fun hbusy => ?_
        obtain ⟨v, phase, hother, hactive⟩ := h.flying other hbusy
        rw [hother] at hended
        obtain rfl := Option.some.inj hended
        cases hactive
      refine h.begins hget (fun i v o hi => ?_) hidle (isActive_first adopts) rfl rfl rfl rfl rfl hdone
      by_contra hne
      rcases hc with hown | hnobody
      · rw [hget] at hown
        exact hdone (of_decide_eq_true hown)
      · have hother := hnobody i (List.getElem?_eq_some_iff.mp hi).1 hne
        rw [show s.app.bootstraps[i]? = _ from hi] at hother
        cases hother
  · cases happ

/-- **One step.** -/
theorem Queued.step (h : s.Queued) (hc : s.InTurn e) (hst : s.step e = some t) : t.Queued ∧ NotAgain s e t := by
  cases e with
  | authenticated uid adopts => exact h.authenticated hc hst
  | groupKeyFails b =>
    simp only [SerialRun.step] at hst
    split at hst
    · next uid deviceId call hget =>
      obtain rfl := Option.some.inj hst
      have hmoves : Moves s.app [] (s.app.finish b uid .failed) := .ends hget rfl rfl rfl rfl (.inl rfl)
      exact ⟨h.moves hmoves rfl (List.append_nil _).symm, h.notAgain_moves hmoves⟩
    · cases hst
  | app e =>
    by_cases hrun : ∃ uid adopts, e = .runBootstrap uid adopts
    · obtain ⟨uid, adopts, rfl⟩ := hrun
      cases hst
    by_cases hresume : ∃ b adopts, e = .resume b adopts
    · obtain ⟨b, adopts, rfl⟩ := hresume
      exact h.resume hc hst
    have happ : (s.app.step e).map (fun app => {s with app := app, registered := s.registered ++ registers s.app e}) = some t := by
      cases e with
      | runBootstrap uid adopts => exact absurd ⟨uid, adopts, rfl⟩ hrun
      | resume b adopts => exact absurd ⟨b, adopts, rfl⟩ hresume
      | _ => exact hst
    obtain ⟨app, hstep, rfl⟩ := Option.map_eq_some_iff.mp happ
    have hmoves := moves_step hstep (fun uid adopts heq => hrun ⟨uid, adopts, heq⟩)
      (fun b adopts heq => hresume ⟨b, adopts, heq⟩) hc
    exact ⟨h.moves hmoves rfl rfl, h.notAgain_moves hmoves⟩

theorem Queued.serialized (h : s.Queued) : s.Serialized := by
  refine ⟨fun i j u v hi hj => ?_, fun hall accountId deviceId hdone => ?_⟩
  · exact Option.some.inj ((h.active i u hi).1.symm.trans (h.active j v hj).1)
  · have hnone : ∀ i uid other, ¬ s.Waits i uid other := by
      intro i uid other hw
      cases hall _ (List.mem_of_getElem? hw)
    obtain ⟨hcurrent, hreg⟩ := h.done accountId deviceId hdone
    refine ⟨(h.settled hnone (.inr ?_)).trans hcurrent, hreg.resolve_right ?_⟩
    · rw [hdone]
      rfl
    · rintro ⟨i, v, other, hw, -⟩
      exact hnone i v other hw

theorem queued_init (cloud : Store) (stored : Option KeyText) (user : Option String) :
    (serialBootstraps α cloud stored user).init.Queued := by
  refine ⟨fun i uid ⟨_, hget, _⟩ => ?_, fun i hi => ?_, fun i uid other hw => ?_, fun i u o j v o' hw => ?_,
    fun i uid other hw => ?_, fun _ hbusy => ?_, fun u d hdone => ?_⟩
  · cases hget
  · cases hi
  · cases hw
  · cases hw
  · cases hw
  · rcases hbusy with hbusy | hdone
    · exact absurd rfl hbusy
    · cases hdone
  · cases hdone

end SerialRun

/-- **Bootstraps are serialized.** In every run in which those that wait get their turn
before another one comes, and all but the last of them find their user done for, there is
one body at a time, no user is bootstrapped again that is done for, and a done bootstrap
that stays is the last user's. -/
theorem bootstraps_serialized (cloud : Store) (stored : Option KeyText) (user : Option String)
    {events : List (SerialEvent α)}
    (hc : (serialBootstraps α cloud stored user).Meets SerialRun.InTurn (serialBootstraps α cloud stored user).init
      events) :
    (serialBootstraps α cloud stored user).Along SerialRun.Serialized (serialBootstraps α cloud stored user).init events ∧
      (serialBootstraps α cloud stored user).Steps SerialRun.NotAgain (serialBootstraps α cloud stored user).init
        events :=
  ⟨Transition.System.along_of_meets (fun _ _ _ h hc hst => (h.step hc hst).1) (fun _ h => h.serialized)
      (SerialRun.queued_init cloud stored user) hc,
    Transition.System.steps_of_meets (fun _ _ _ h hc hst => h.step hc hst) (SerialRun.queued_init cloud stored user) hc⟩

namespace Serial
open Reinstall (laptopUid phoneUid phone)

/-- The phone's account is there. -/
def cloud : Store := Store.empty.putAccount phoneUid ⟨0, 0, 0⟩

/-- The user changes during a bootstrap, which fails. -/
def switched : List (SerialEvent Nat) :=
  [.authenticated laptopUid false, .authenticated phoneUid false, .app (.deviceIdEnsured 0 none), .app (.resume 1 false),
    .app (.deviceIdEnsured 1 (some phone)), .app (.createAccount 1 phoneUid 1), .app (.answered 1 []),
    .app (.registerDevice 1 phoneUid 2 ⟨phone, "Phone", .phone, none, .android, none⟩ true)]

/-- The auth stream emits the user three times before the first bootstrap fails. -/
def repeated : List (SerialEvent Nat) :=
  [.authenticated phoneUid false, .authenticated phoneUid false, .authenticated phoneUid false,
    .app (.deviceIdEnsured 0 (some phone)), .app (.callFails 0), .app (.resume 1 false), .app (.resume 2 false)]

end Serial

/-- The phone's bootstrap waits for the laptop's, and is the one that stays. -/
theorem bootstraps_serialized_when_switched :
    (serialBootstraps Nat Serial.cloud none none).Along SerialRun.Serialized (serialBootstraps Nat Serial.cloud none none).init
        Serial.switched ∧
      (serialBootstraps Nat Serial.cloud none none).Steps SerialRun.NotAgain
        (serialBootstraps Nat Serial.cloud none none).init Serial.switched :=
  bootstraps_serialized Serial.cloud none none (by decide +kernel)

/-- Both that wait begin when the first one has failed. -/
theorem two_bootstraps_at_once :
    ∃ t, (serialBootstraps Nat Serial.cloud none none).run (serialBootstraps Nat Serial.cloud none none).init Serial.repeated =
        some t ∧
      t.app.bootstraps.map Bootstrap.phase = [.finished, .ensuringDeviceId, .ensuringDeviceId] ∧ ¬ t.Serialized := by
  refine ⟨_, rfl, rfl, fun hserialized => ?_⟩
  cases hserialized.alone 1 2 Reinstall.phoneUid Reinstall.phoneUid ⟨_, rfl, rfl⟩ ⟨_, rfl, rfl⟩

end MagicShare.Account
