import Mathlib.Data.Option.Basic
import MagicShare.Cloud.Backend

/-! The two sides of the store.

`H` says which accounts are on the hidden side; the devices and the tokens of an account
are on its side. Every callable is for one side, the one of its caller: it reads and
writes nothing of the other (`Call.perform_confined`), unless it redeems a token of the
other side. -/
namespace MagicShare.Cloud

/-! ### A store without the hidden accounts -/

/-- `p` is `s` without the hidden accounts, their devices and their tokens. -/
structure Store.Without (H : DocId → Bool) (s p : Store) : Prop where
  account : ∀ a, p.account a = if H a then none else s.account a
  device : ∀ a d, p.device a d = if H a then none else s.device a d
  token : ∀ k, p.token k = (s.token k).filter fun doc => !H doc.accountId

/-- The write is for one side; a token is on the side of its account. -/
def Write.Of (H : DocId → Bool) (side : Bool) (s : Store) : Write → Prop
  | .setAccount a _ | .updateAccount a _ | .deleteAccount a => H a = side
  | .setDevice a _ _ | .updateDevice a _ _ | .deleteDevice a _ => H a = side
  | .consumeToken k _ => ∀ doc, s.token k = some doc → H doc.accountId = side

variable {H : DocId → Bool} {side : Bool} {s t p : Store} {w : Write} {writes : List Write}

namespace Store.Without

section Visible
variable {a : DocId} (h : s.Without H p) (ha : H a = false)
include h ha

theorem account_eq : p.account a = s.account a := by
  rw [h.account, ha, if_neg Bool.false_ne_true]

theorem device_eq (d : DocId) : p.device a d = s.device a d := by
  rw [h.device, ha, if_neg Bool.false_ne_true]

theorem deviceIds_eq : p.deviceIds a = s.deviceIds a := by
  refine congrArg inOrder (Finset.ext fun d => ?_)
  have hmem := p.mem_deviceIds a d
  rw [h.device_eq ha d, ← s.mem_deviceIds a d, deviceIds, deviceIds, mem_inOrder, mem_inOrder] at hmem
  exact hmem

theorem putAccount (doc : AccountDoc) : (s.putAccount a doc).Without H (p.putAccount a doc) where
  account a' := by
    by_cases haa : a' = a
    · simp [haa, ha]
    · simp [haa, h.account]
  device := h.device
  token := h.token

theorem putDevice (d : DocId) (doc : DeviceDoc) : (s.putDevice a d doc).Without H (p.putDevice a d doc) where
  account := h.account
  device a' d' := by
    by_cases had : a' = a ∧ d' = d
    · simp [had.1, had.2, ha]
    · simp [had, h.device]
  token := h.token

end Visible

theorem dropAccount (h : s.Without H p) (a : DocId) : (s.dropAccount a).Without H (p.dropAccount a) where
  account a' := by
    by_cases haa : a' = a
    · simp [haa]
    · simp [haa, h.account]
  device := h.device
  token := h.token

theorem dropDevice (h : s.Without H p) (a d : DocId) : (s.dropDevice a d).Without H (p.dropDevice a d) where
  account := h.account
  device a' d' := by
    by_cases had : a' = a ∧ d' = d
    · simp [had.1, had.2]
    · simp [had, h.device]
  token := h.token

theorem dropDevices (h : s.Without H p) (a : DocId) (deleted : DocId → Bool) :
    (s.dropDevices a deleted).Without H (p.dropDevices a deleted) where
  account := h.account
  device a' d' := by
    by_cases had : a' = a ∧ deleted d' = true
    · simp [had.1, had.2]
    · simp [had, h.device]
  token := h.token

theorem putToken (h : s.Without H p) (doc : JoinTokenDoc) (ha : H doc.accountId = false) (k : DocId) :
    (s.putToken k doc).Without H (p.putToken k doc) where
  account := h.account
  device := h.device
  token k' := by
    by_cases hk : k' = k
    · simp [hk, Option.filter, ha]
    · simp [hk, h.token]

theorem token_eq (h : s.Without H p) {k : DocId} (hk : ∀ doc, s.token k = some doc → H doc.accountId = false) :
    p.token k = s.token k := by
  rw [h.token]
  cases hs : s.token k with
  | none => rfl
  | some doc => simp [Option.filter, hk doc hs]

end Store.Without

/-- The stores differ on the hidden side only. -/
structure Store.Agree (H : DocId → Bool) (s t : Store) : Prop where
  account : ∀ a, H a = false → t.account a = s.account a
  device : ∀ a d, H a = false → t.device a d = s.device a d
  token : ∀ k, ((t.token k).filter fun doc => !H doc.accountId) = (s.token k).filter fun doc => !H doc.accountId

namespace Store.Agree

theorem refl (s : Store) : s.Agree H s := ⟨fun _ _ => rfl, fun _ _ _ => rfl, fun _ => rfl⟩

theorem trans {u : Store} (h : s.Agree H t) (h' : t.Agree H u) : s.Agree H u where
  account a ha := (h'.account a ha).trans (h.account a ha)
  device a d ha := (h'.device a d ha).trans (h.device a d ha)
  token k := (h'.token k).trans (h.token k)

/-- What goes on on the hidden side goes unnoticed. -/
theorem without (h : s.Agree H t) (hp : s.Without H p) : t.Without H p where
  account a := by
    rw [hp.account]
    split_ifs with ha
    · rfl
    · exact (h.account a (Bool.eq_false_iff.mpr ha)).symm
  device a d := by
    rw [hp.device]
    split_ifs with ha
    · rfl
    · exact (h.device a d (Bool.eq_false_iff.mpr ha)).symm
  token k := (hp.token k).trans (h.token k).symm

section Hidden
variable {a : DocId} (ha : H a = true)
include ha

theorem ne_of_visible {b : DocId} (hb : H b = false) : b ≠ a := by
  rintro rfl
  rw [ha] at hb
  cases hb

theorem putAccount (s : Store) (doc : AccountDoc) : s.Agree H (s.putAccount a doc) where
  account b hb := by simp [ne_of_visible ha hb]
  device _ _ _ := rfl
  token _ := rfl

theorem dropAccount (s : Store) : s.Agree H (s.dropAccount a) where
  account b hb := by simp [ne_of_visible ha hb]
  device _ _ _ := rfl
  token _ := rfl

theorem putDevice (s : Store) (d : DocId) (doc : DeviceDoc) : s.Agree H (s.putDevice a d doc) where
  account _ _ := rfl
  device b _ hb := by simp [ne_of_visible ha hb]
  token _ := rfl

theorem dropDevice (s : Store) (d : DocId) : s.Agree H (s.dropDevice a d) where
  account _ _ := rfl
  device b _ hb := by simp [ne_of_visible ha hb]
  token _ := rfl

theorem dropDevices (s : Store) (deleted : DocId → Bool) : s.Agree H (s.dropDevices a deleted) where
  account _ _ := rfl
  device b _ hb := by simp [ne_of_visible ha hb]
  token _ := rfl

end Hidden

/-- A hidden token is written where there was none, or a hidden one. -/
theorem putToken (doc : JoinTokenDoc) (ha : H doc.accountId = true) {k : DocId}
    (hk : ∀ old, s.token k = some old → H old.accountId = true) : s.Agree H (s.putToken k doc) where
  account _ _ := rfl
  device _ _ _ := rfl
  token k' := by
    by_cases hkk : k' = k
    · subst hkk
      rw [token_putToken, if_pos rfl]
      cases hs : s.token k' with
      | none => simp [Option.filter, ha]
      | some old => simp [Option.filter, ha, hk old hs]
    · simp [hkk]

end Store.Agree

/-! ### Writes and transactions -/

/-- No token is new: it was there, for the same account. -/
def Store.TokensOf (s t : Store) : Prop :=
  ∀ k doc, t.token k = some doc → ∃ old, s.token k = some old ∧ old.accountId = doc.accountId

theorem Store.TokensOf.refl (s : Store) : s.TokensOf s := fun _ doc h => ⟨doc, h, rfl⟩

theorem Store.TokensOf.trans {u : Store} (h : s.TokensOf t) (h' : t.TokensOf u) : s.TokensOf u := by
  intro k doc hdoc
  obtain ⟨mid, hmid, heq⟩ := h' k doc hdoc
  obtain ⟨old, hold, heq'⟩ := h k mid hmid
  exact ⟨old, hold, heq'.trans heq⟩

theorem Write.tokensOf (hw : w.apply s = some t) : s.TokensOf t := by
  cases w with
  | setAccount a doc =>
    obtain rfl := Option.some.inj hw
    exact .refl s
  | updateAccount a patch =>
    obtain ⟨found, -, rfl⟩ := Option.map_eq_some_iff.mp hw
    exact .refl s
  | deleteAccount a =>
    obtain rfl := Option.some.inj hw
    exact .refl s
  | setDevice a d doc =>
    obtain rfl := Option.some.inj hw
    exact .refl s
  | updateDevice a d patch =>
    obtain ⟨found, -, rfl⟩ := Option.map_eq_some_iff.mp hw
    exact .refl s
  | deleteDevice a d =>
    obtain rfl := Option.some.inj hw
    exact .refl s
  | consumeToken k now =>
    obtain ⟨found, hfound, rfl⟩ := Option.map_eq_some_iff.mp hw
    intro k' doc hdoc
    by_cases hk : k' = k
    · subst hk
      rw [Store.token_putToken, if_pos rfl] at hdoc
      obtain rfl := Option.some.inj hdoc
      exact ⟨found, hfound, rfl⟩
    · rw [Store.token_putToken, if_neg hk] at hdoc
      exact ⟨doc, hdoc, rfl⟩

/-- A write moves no token to the other side. -/
theorem Write.Of.later {v : Write} (h : v.Of H side s) (hw : w.apply s = some t) : v.Of H side t := by
  cases v with
  | consumeToken k now =>
    intro doc hdoc
    obtain ⟨old, hold, heq⟩ := Write.tokensOf hw k doc hdoc
    exact heq ▸ h old hold
  | _ => exact h

/-- A hidden write. -/
theorem Write.Of.hidden (hw : w.Of H true s) (ht : w.apply s = some t) : s.Agree H t := by
  cases w with
  | setAccount a doc =>
    obtain rfl := Option.some.inj ht
    exact .putAccount hw s doc
  | updateAccount a patch =>
    obtain ⟨found, -, rfl⟩ := Option.map_eq_some_iff.mp ht
    exact .putAccount hw s _
  | deleteAccount a =>
    obtain rfl := Option.some.inj ht
    exact .dropAccount hw s
  | setDevice a d doc =>
    obtain rfl := Option.some.inj ht
    exact .putDevice hw s d doc
  | updateDevice a d patch =>
    obtain ⟨found, -, rfl⟩ := Option.map_eq_some_iff.mp ht
    exact .putDevice hw s d _
  | deleteDevice a d =>
    obtain rfl := Option.some.inj ht
    exact .dropDevice hw s d
  | consumeToken k now =>
    obtain ⟨found, hfound, rfl⟩ := Option.map_eq_some_iff.mp ht
    exact .putToken {found with consumedAt := some now} (hw found hfound) hw

/-- An open write goes through with and without the hidden accounts. -/
theorem Write.Of.visible (hw : w.Of H false s) (h : s.Without H p) :
    Option.Rel (Store.Without H) (w.apply s) (w.apply p) := by
  cases w with
  | setAccount a doc => exact .some (h.putAccount hw doc)
  | updateAccount a patch =>
    simp only [Write.apply, h.account_eq hw]
    cases s.account a with
    | none => exact .none
    | some found => exact .some (h.putAccount hw _)
  | deleteAccount a => exact .some (h.dropAccount a)
  | setDevice a d doc => exact .some (h.putDevice hw d doc)
  | updateDevice a d patch =>
    simp only [Write.apply, h.device_eq hw]
    cases s.device a d with
    | none => exact .none
    | some found => exact .some (h.putDevice hw d _)
  | deleteDevice a d => exact .some (h.dropDevice a d)
  | consumeToken k now =>
    simp only [Write.apply, h.token_eq hw]
    cases hs : s.token k with
    | none => exact .none
    | some found => exact .some (h.putToken {found with consumedAt := some now} (hw found hs) k)

theorem commit_hidden (hw : ∀ w ∈ writes, w.Of H true s) (ht : Transaction.commit Write.apply writes s = some t) :
    s.Agree H t := by
  induction writes generalizing s with
  | nil =>
    obtain rfl := Option.some.inj ht
    exact .refl s
  | cons w rest ih =>
    obtain ⟨m, hm, hrest⟩ := Option.bind_eq_some_iff.mp ht
    refine ((hw w List.mem_cons_self).hidden hm).trans (ih (fun v hv => ?_) hrest)
    exact (hw v (List.mem_cons_of_mem _ hv)).later hm

theorem commit_visible (hw : ∀ w ∈ writes, w.Of H false s) (h : s.Without H p) :
    Option.Rel (Store.Without H) (Transaction.commit Write.apply writes s) (Transaction.commit Write.apply writes p) := by
  induction writes generalizing s p with
  | nil => exact .some h
  | cons w rest ih =>
    rw [Transaction.commit_cons, Transaction.commit_cons]
    have hfirst := (hw w List.mem_cons_self).visible h
    cases hm : w.apply s with
    | none =>
      rw [hm] at hfirst
      cases hq : w.apply p with
      | none => exact .none
      | some q =>
        rw [hq] at hfirst
        cases hfirst
    | some m =>
      rw [hm] at hfirst
      cases hq : w.apply p with
      | none =>
        rw [hq] at hfirst
        cases hfirst
      | some q =>
        rw [hq] at hfirst
        cases hfirst with
        | some hlike => exact ih (fun v hv => (hw v (List.mem_cons_of_mem _ hv)).later hm) hlike

/-! ### Calls of one side -/

/-- A call of one side: a hidden one goes unnoticed, a visible one answers the same and
does the same without the hidden accounts. -/
structure Confined {α : Type} (H : DocId → Bool) (side : Bool) (s : Store) (f : Store → α × Store) : Prop where
  hidden : side = true → s.Agree H (f s).2
  visible : side = false → ∀ p, s.Without H p → (f p).1 = (f s).1 ∧ (f s).2.Without H (f p).2

section Confined
variable {α β : Type} {f : Store → α × Store}

/-- A transaction whose body reads and writes one side. -/
theorem Confined.of_transaction {body : Store → Staged α}
    (hreads : side = false → ∀ p, s.Without H p → body p = body s)
    (hwrites : ∀ a writes, body s = .ok (a, writes) → ∀ w ∈ writes, w.Of H side s) :
    Confined H side s (runTransaction body) := by
  cases hb : body s with
  | error e =>
    refine ⟨fun _ => ?_, fun hside p h => ?_⟩
    · rw [runTransaction, Transaction.run_rejected hb]
      exact .refl s
    · rw [runTransaction, runTransaction, Transaction.run_rejected hb,
        Transaction.run_rejected ((hreads hside p h).trans hb)]
      exact ⟨rfl, h⟩
  | ok staged =>
    obtain ⟨a, writes⟩ := staged
    have hw := hwrites a writes hb
    refine ⟨fun hside => ?_, fun hside p h => ?_⟩
    · subst hside
      cases hc : Transaction.commit Write.apply writes s with
      | none =>
        rw [runTransaction, Transaction.run_refused hb hc]
        exact .refl s
      | some t =>
        rw [runTransaction, Transaction.run_committed hb hc]
        exact commit_hidden hw hc
    · have hbp := (hreads hside p h).trans hb
      subst hside
      have hcommit := commit_visible hw h
      cases hc : Transaction.commit Write.apply writes s with
      | none =>
        rw [hc] at hcommit
        cases hq : Transaction.commit Write.apply writes p with
        | none =>
          rw [runTransaction, runTransaction, Transaction.run_refused hb hc, Transaction.run_refused hbp hq]
          exact ⟨rfl, h⟩
        | some q =>
          rw [hq] at hcommit
          cases hcommit
      | some t =>
        rw [hc] at hcommit
        cases hq : Transaction.commit Write.apply writes p with
        | none =>
          rw [hq] at hcommit
          cases hcommit
        | some q =>
          rw [hq] at hcommit
          rw [runTransaction, runTransaction, Transaction.run_committed hb hc, Transaction.run_committed hbp hq]
          cases hcommit with
          | some hlike => exact ⟨rfl, hlike⟩

theorem Confined.map (h : Confined H side s f) (g : α → β) : Confined H side s fun s => (f s).map g id :=
  ⟨h.hidden, fun hside p hp => ⟨congrArg g (h.visible hside p hp).1, (h.visible hside p hp).2⟩⟩

/-- One call after another. -/
theorem Confined.andThen (h : Confined H side s f) {g : α → Store → β × Store}
    (hg : Confined H side (f s).2 (g (f s).1)) : Confined H side s fun s => g (f s).1 (f s).2 := by
  refine ⟨fun hside => (h.hidden hside).trans (hg.hidden hside), fun hside p hp => ?_⟩
  obtain ⟨heq, hlike⟩ := h.visible hside p hp
  simp only [heq]
  exact hg.visible hside _ hlike

/-- What only reads. -/
theorem Confined.of_reads {g : Store → α} (hg : side = false → ∀ p, s.Without H p → g p = g s) :
    Confined H side s fun s => (g s, s) :=
  ⟨fun _ => .refl s, fun hside p hp => ⟨hg hside p hp, hp⟩⟩

/-- What reads nothing. -/
theorem Confined.of_const (a : α) : Confined H side s fun s => (a, s) := Confined.of_reads fun _ _ _ => rfl

end Confined

/-! ### The callables -/

section Callables
variable {uid : DocId}

theorem createAccountLogic_confined (now : Timestamp) (huid : H uid = side) :
    Confined H side s (createAccountLogic now uid) := by
  refine Confined.of_transaction (fun hside p h => ?_) (fun a writes hb => ?_)
  · simp only [createAccountBody, h.account_eq (huid.trans hside)]
  · simp only [createAccountBody] at hb
    split at hb
    · obtain ⟨-, rfl⟩ := Prod.mk.inj (Except.ok.inj hb)
      simp
    · obtain ⟨-, rfl⟩ := Prod.mk.inj (Except.ok.inj hb)
      simpa [Write.Of] using huid

theorem registerDeviceLogic_confined (now : Timestamp) (input : RegisterDeviceInput)
    (huid : H uid = side) : Confined H side s (registerDeviceLogic now uid input) := by
  refine Confined.of_transaction (fun hside p h => ?_) (fun a writes hb => ?_)
  · simp only [registerDeviceBody, h.account_eq (huid.trans hside), h.device_eq (huid.trans hside)]
  · simp only [registerDeviceBody] at hb
    split at hb
    · cases hb
    · split at hb
      all_goals
        obtain ⟨-, rfl⟩ := Prod.mk.inj (Except.ok.inj hb)
        simpa [Write.Of] using huid

theorem assertSameAccountTx_eq (h : s.Without H p) (huid : H uid = false) (deviceId : DocId) :
    assertSameAccountTx uid deviceId p = assertSameAccountTx uid deviceId s := by
  simp only [assertSameAccountTx, h.device_eq huid]

theorem patchDeviceField_confined (now : Timestamp) (deviceId : DocId) (patch : DevicePatch)
    (huid : H uid = side) : Confined H side s (patchDeviceField now uid deviceId patch) := by
  refine Confined.of_transaction (fun hside p h => ?_) (fun a writes hb => ?_)
  · simp only [patchDeviceFieldBody, assertSameAccountTx_eq h (huid.trans hside)]
  · simp only [patchDeviceFieldBody] at hb
    split at hb
    · cases hb
    · obtain ⟨-, rfl⟩ := Prod.mk.inj (Except.ok.inj hb)
      simpa [Write.Of] using huid

theorem recursiveDeleteAccount_confined (r : SweepRun) {a : DocId} (ha : H a = side) :
    Confined H side s (recursiveDeleteAccount r a) := by
  refine ⟨fun hside => ?_, fun _ p h => ?_⟩
  · have ha' := ha.trans hside
    cases r with
    | completes => exact (Store.Agree.dropDevices ha' s _).trans (.dropAccount ha' _)
    | fails root deleted =>
      cases root with
      | true => exact (Store.Agree.dropDevices ha' s _).trans (.dropAccount ha' _)
      | false => exact .dropDevices ha' s _
  · cases r with
    | completes => exact ⟨rfl, (h.dropDevices a _).dropAccount a⟩
    | fails root deleted =>
      cases root with
      | true => exact ⟨rfl, (h.dropDevices a _).dropAccount a⟩
      | false => exact ⟨rfl, h.dropDevices a _⟩

theorem recursiveDeleteDevice_confined (r : SweepRun) {a : DocId} (d : DocId) (ha : H a = side) :
    Confined H side s (recursiveDeleteDevice r a d) := by
  refine ⟨fun hside => ?_, fun _ p h => ?_⟩
  · have ha' := ha.trans hside
    cases r with
    | completes => exact .dropDevice ha' s d
    | fails root deleted =>
      cases root with
      | true => exact .dropDevice ha' s d
      | false => exact .refl s
  · cases r with
    | completes => exact ⟨rfl, h.dropDevice a d⟩
    | fails root deleted =>
      cases root with
      | true => exact ⟨rfl, h.dropDevice a d⟩
      | false => exact ⟨rfl, h⟩

theorem removeDeviceTx_confined (now : Timestamp) (input : RemoveDeviceInput)
    (huid : H uid = side) : Confined H side s (removeDeviceTx now uid input) := by
  refine Confined.of_transaction (fun hside p h => ?_) (fun a writes hb => ?_)
  · simp only [removeDeviceBody, h.account_eq (huid.trans hside), assertSameAccountTx_eq h (huid.trans hside)]
  · simp only [removeDeviceBody] at hb
    split at hb
    · cases hb
    · split at hb
      · cases hb
      · split at hb
        all_goals
          obtain ⟨-, rfl⟩ := Prod.mk.inj (Except.ok.inj hb)
          simpa [Write.Of] using huid

/-- A rejection ends a call, a result goes into its next step. -/
def onResult {α β : Type} (next : α → Store → Except Rejection β × Store) (result : Except Rejection α) (s : Store) :
    Except Rejection β × Store :=
  match result with
  | .error e => (.error e, s)
  | .ok a => next a s

theorem Confined.onResult {α β : Type} {next : α → Store → Except Rejection β × Store}
    {result : Except Rejection α} (hnext : ∀ a, result = .ok a → Confined H side s (next a)) :
    Confined H side s (Cloud.onResult next result) := by
  cases result with
  | error e => exact Confined.of_const _
  | ok a => exact hnext a rfl

theorem removeDeviceLogic_eq (now : Timestamp) (r : SweepRun) (uid : DocId) (input : RemoveDeviceInput) :
    removeDeviceLogic now r uid input = fun s =>
      onResult (fun result t => onResult (fun _ u => (.ok result, u))
          (if result.accountDeleted then recursiveDeleteAccount r uid t
            else recursiveDeleteDevice r uid input.deviceId t).1
          (if result.accountDeleted then recursiveDeleteAccount r uid t
            else recursiveDeleteDevice r uid input.deviceId t).2)
        (removeDeviceTx now uid input s).1 (removeDeviceTx now uid input s).2 := by
  funext s
  rw [removeDeviceLogic]
  rcases removeDeviceTx now uid input s with ⟨_ | result, t⟩
  · rfl
  · simp only [onResult]
    rcases (if result.accountDeleted then recursiveDeleteAccount r uid t
      else recursiveDeleteDevice r uid input.deviceId t) with ⟨_ | _, u⟩ <;> rfl

theorem removeDeviceLogic_confined (now : Timestamp) (r : SweepRun) (input : RemoveDeviceInput)
    (huid : H uid = side) : Confined H side s (removeDeviceLogic now r uid input) := by
  rw [removeDeviceLogic_eq]
  refine (removeDeviceTx_confined now input huid).andThen (Confined.onResult fun result _ => ?_)
  refine Confined.andThen (g := fun swept => onResult (fun _ u => (.ok result, u)) swept) ?_
    (Confined.onResult fun _ _ => Confined.of_const _)
  cases result.accountDeleted with
  | true => exact recursiveDeleteAccount_confined r huid
  | false => exact recursiveDeleteDevice_confined r input.deviceId huid

theorem deleteAccountLogic_confined (r : SweepRun) (huid : H uid = side) :
    Confined H side s (deleteAccountLogic r uid) := by
  have heq : deleteAccountLogic r uid = fun s => onResult
      (fun there t => if there then onResult (fun _ u => (.ok ⟨true⟩, u)) (recursiveDeleteAccount r uid t).1
        (recursiveDeleteAccount r uid t).2 else (.ok ⟨false⟩, t))
      (.ok (s.account uid).isSome) s := by
    funext s
    rw [deleteAccountLogic]
    cases s.account uid with
    | none => rfl
    | some account =>
      simp only [onResult, Option.isSome_some, if_true]
      rcases recursiveDeleteAccount r uid s with ⟨_ | _, u⟩ <;> rfl
  rw [heq]
  have hreads : Confined H side s fun s => ((.ok (s.account uid).isSome : Except Rejection Bool), s) :=
    Confined.of_reads fun hside p h => by rw [h.account_eq (huid.trans hside)]
  refine hreads.andThen (Confined.onResult fun there _ => ?_)
  cases there with
  | false => exact Confined.of_const _
  | true =>
    simp only [reduceIte]
    refine Confined.andThen (g := fun swept => onResult (fun _ u => (.ok (⟨true⟩ : DeleteAccountResult), u)) swept)
      (recursiveDeleteAccount_confined r huid) (Confined.onResult fun _ _ => Confined.of_const _)

/-- A token is minted under an id that is not in use. -/
theorem createJoinTokenLogic_confined (now : Timestamp) {tokenId : DocId}
    (input : CreateJoinTokenInput) (huid : H uid = side) (hnew : s.token tokenId = none) :
    Confined H side s (createJoinTokenLogic now tokenId uid input) := by
  refine ⟨fun hside => ?_, fun hside p h => ?_⟩
  · rw [createJoinTokenLogic]
    split
    · exact .refl s
    · exact .putToken (newJoinToken now uid input) (huid.trans hside) fun old hold => by
        rw [hnew] at hold
        cases hold
  · have hcheck : createJoinTokenCheck uid input p = createJoinTokenCheck uid input s := by
      simp only [createJoinTokenCheck, h.account_eq (huid.trans hside), h.device_eq (huid.trans hside)]
    simp only [createJoinTokenLogic, hcheck]
    split
    · exact ⟨rfl, h⟩
    · exact ⟨rfl, h.putToken (newJoinToken now uid input) (huid.trans hside) tokenId⟩

theorem notifyTransferIntentTx_confined (now : Timestamp) (input : NotifyTransferIntentInput)
    (huid : H uid = side) : Confined H side s (notifyTransferIntentTx now uid input) := by
  refine Confined.of_transaction (fun hside p h => ?_) (fun a writes hb => ?_)
  · simp only [notifyTransferIntentBody, assertSameAccountTx_eq h (huid.trans hside)]
  · simp only [notifyTransferIntentBody] at hb
    split at hb
    · cases hb
    · split at hb
      · cases hb
      · split at hb
        · cases hb
        · obtain ⟨-, rfl⟩ := Prod.mk.inj (Except.ok.inj hb)
          simpa [Write.Of] using huid

theorem notifyTransferIntentLogic_confined (now : Timestamp) (messaging : Message → Bool)
    (input : NotifyTransferIntentInput) (huid : H uid = side) :
    Confined H side s (notifyTransferIntentLogic now messaging uid input) := by
  have heq : notifyTransferIntentLogic now messaging uid input = fun s =>
      onResult (fun decision t => (notifyDelivery messaging input.kind decision, t))
        (notifyTransferIntentTx now uid input s).1 (notifyTransferIntentTx now uid input s).2 := by
    funext s
    rw [notifyTransferIntentLogic]
    rcases notifyTransferIntentTx now uid input s with ⟨_ | decision, t⟩ <;> rfl
  rw [heq]
  exact (notifyTransferIntentTx_confined now input huid).andThen (Confined.onResult fun _ _ => Confined.of_const _)

theorem listGroupDevicesForPreview_eq (h : s.Without H p) (localeLe : String → String → Bool) {a : DocId}
    (ha : H a = false) : listGroupDevicesForPreview localeLe p a = listGroupDevicesForPreview localeLe s a := by
  simp only [listGroupDevicesForPreview, h.deviceIds_eq ha, h.device_eq ha]

/-- A token of the caller's own side is previewed. -/
theorem previewJoinTokenLogic_eq (h : s.Without H p) (dateNow : Timestamp) (localeLe : String → String → Bool)
    {tokenId : DocId} (htoken : ∀ token, s.token tokenId = some token → H token.accountId = false) :
    previewJoinTokenLogic dateNow localeLe tokenId p = previewJoinTokenLogic dateNow localeLe tokenId s := by
  rw [previewJoinTokenLogic, previewJoinTokenLogic, h.token_eq htoken]
  cases hs : s.token tokenId with
  | none => rfl
  | some token => simp only [listGroupDevicesForPreview_eq h localeLe (htoken token hs)]

section Join
variable {input : JoinNetworkInput} (htoken : ∀ token, s.token input.tokenId = some token → H token.accountId = side)
include htoken

/-- A token of the caller's own side is redeemed: the writes of the transaction. -/
theorem joinNetworkBody_of (clock : JoinClock) (huid : H uid = side) {decision : JoinDecision}
    (hb : joinNetworkBody clock uid input s = .ok (decision, writes)) :
    H decision.accountId = side ∧ ∀ w ∈ writes, w.Of H side s := by
  simp only [joinNetworkBody] at hb
  split at hb
  · cases hb
  · next token hs =>
    have hside := htoken token hs
    have hconsume : ∀ doc, s.token input.tokenId = some doc → H doc.accountId = side := htoken
    split_ifs at hb
    split at hb
    · cases hb
    · cases hb
    · split_ifs at hb
      all_goals
        obtain ⟨rfl, rfl⟩ := Prod.mk.inj (Except.ok.inj hb)
        refine ⟨hside, ?_⟩
        simpa [Write.Of, hside, huid] using hconsume
    · split at hb
      · cases hb
      · obtain ⟨rfl, rfl⟩ := Prod.mk.inj (Except.ok.inj hb)
        refine ⟨hside, ?_⟩
        simpa [Write.Of, hside, huid] using hconsume

theorem joinNetworkTx_confined (clock : JoinClock) (huid : H uid = side) :
    Confined H side s (joinNetworkTx clock uid input) := by
  refine Confined.of_transaction (fun hside p h => ?_) fun a writes hb => (joinNetworkBody_of htoken clock huid hb).2
  subst hside
  rw [joinNetworkBody, joinNetworkBody, h.token_eq htoken]
  cases hs : s.token input.tokenId with
  | none => rfl
  | some token => simp only [h.account_eq (htoken token hs), h.account_eq huid, h.device_eq huid]

omit htoken in
theorem joinNetworkLogic_onResult (env : JoinEnv) (uid : DocId) (input : JoinNetworkInput) :
    joinNetworkLogic env uid input = fun s => if env.transaction then
      onResult (fun decision t => onResult (fun _ u => (joinResponse env decision u, u))
          (joinSweep env.sweep uid input.deviceId decision t).1 (joinSweep env.sweep uid input.deviceId decision t).2)
        (joinNetworkTx env.clock uid input s).1 (joinNetworkTx env.clock uid input s).2
      else (.error .aborted, s) := by
  funext s
  rw [joinNetworkLogic]
  split_ifs
  · rcases joinNetworkTx env.clock uid input s with ⟨_ | decision, t⟩
    · rfl
    · simp only [onResult]
      rcases joinSweep env.sweep uid input.deviceId decision t with ⟨_ | _, u⟩ <;> rfl
  · rfl

theorem joinNetworkLogic_confined (env : JoinEnv) (huid : H uid = side) :
    Confined H side s (joinNetworkLogic env uid input) := by
  rw [joinNetworkLogic_onResult]
  cases env.transaction with
  | false => exact Confined.of_const _
  | true =>
    simp only [reduceIte]
    refine (joinNetworkTx_confined htoken env.clock huid).andThen (Confined.onResult fun decision hok => ?_)
    have hdecision : H decision.accountId = side := by
      rcases runTransaction_cases (joinNetworkBody env.clock uid input) s with ⟨e, he⟩ | ⟨a, writes, t, hb, -, hrun⟩
      · rw [joinNetworkTx, he] at hok
        cases hok
      · rw [joinNetworkTx, hrun] at hok
        obtain rfl := Except.ok.inj hok
        exact (joinNetworkBody_of htoken env.clock huid hb).1
    refine Confined.andThen (g := fun swept => onResult (fun _ u => (joinResponse env decision u, u)) swept) ?_
      (Confined.onResult fun _ _ => Confined.of_reads fun hside p h => ?_)
    · unfold joinSweep
      split_ifs
      · exact recursiveDeleteAccount_confined _ huid
      · exact recursiveDeleteDevice_confined _ _ huid
      · exact Confined.of_const _
    · simp only [joinResponse, listGroupDevicesForPreview_eq h env.localeLe (hdecision.trans hside)]

/-- The custom token of an answer is for an account of the token's side. -/
theorem joinNetworkLogic_accountId (env : JoinEnv) (huid : H uid = side) {result : JoinNetworkResult}
    (hok : (joinNetworkLogic env uid input s).1 = .ok result) : H result.accountId = side := by
  rw [joinNetworkLogic] at hok
  split_ifs at hok
  rcases runTransaction_cases (joinNetworkBody env.clock uid input) s with ⟨e, he⟩ | ⟨decision, writes, t, hb, -, hrun⟩
  · rw [joinNetworkTx, he] at hok
    cases hok
  · rw [joinNetworkTx, hrun] at hok
    have hdecision := (joinNetworkBody_of htoken env.clock huid hb).1
    simp only at hok
    split at hok
    · cases hok
    · simp only [joinResponse] at hok
      split_ifs at hok
      split at hok
      · cases hok
      · obtain rfl := Except.ok.inj hok
        exact hdecision

end Join

variable (H s) in
/-- A call leaves the other side alone: the token it redeems is of the caller's side, and
the token id it draws is not in use. -/
def Call.Apart : Call → Prop
  | .createJoinToken _ tokenId _ _ => s.token tokenId = none
  | .joinNetwork _ uid input => ∀ token ∈ s.token input.tokenId, H token.accountId = H uid
  | _ => True

instance (H : DocId → Bool) (s : Store) : DecidablePred (Call.Apart H s)
  | .createJoinToken _ tokenId _ _ => inferInstanceAs (Decidable (s.token tokenId = none))
  | .joinNetwork _ uid input =>
    inferInstanceAs (Decidable (∀ token ∈ s.token input.tokenId, H token.accountId = H uid))
  | .createAccount .. | .registerDevice .. | .renameDevice .. | .setDeviceIcon .. | .removeDevice .. |
    .notifyTransferIntent .. | .deleteAccount .. => .isTrue trivial

theorem Call.perform_confined (r : SweepRun) {call : Call} (hapart : call.Apart H s)
    (huid : H call.uid = side) : Confined H side s (call.perform r) := by
  cases call with
  | createAccount now uid => exact (createAccountLogic_confined now huid).map _
  | registerDevice now uid input => exact (registerDeviceLogic_confined now input huid).map _
  | renameDevice now uid input => exact (patchDeviceField_confined now _ _ huid).map _
  | setDeviceIcon now uid input => exact (patchDeviceField_confined now _ _ huid).map _
  | removeDevice now uid input => exact (removeDeviceLogic_confined now r input huid).map _
  | createJoinToken now tokenId uid input => exact (createJoinTokenLogic_confined now input huid hapart).map _
  | joinNetwork env uid input =>
    exact (joinNetworkLogic_confined (fun token ht => (hapart token ht).trans huid) env huid).map _
  | notifyTransferIntent now messaging uid input =>
    have huid' : H uid = side := huid
    have htx : Confined H side s (notifyTransferIntentTx now uid input) := notifyTransferIntentTx_confined now input huid'
    have hlogic : Confined H side s (notifyTransferIntentLogic now messaging uid input) :=
      notifyTransferIntentLogic_confined now messaging input huid'
    refine ⟨hlogic.hidden, fun hside p hp => ⟨?_, (hlogic.visible hside p hp).2⟩⟩
    simp only [Call.perform, Prod.map_fst, (hlogic.visible hside p hp).1, (htx.visible hside p hp).1]
  | deleteAccount uid => exact (deleteAccountLogic_confined r huid).map _

theorem Call.mintedBy_perform (r : SweepRun) {call : Call} (hapart : call.Apart H s) (huid : H call.uid = side) :
    ∀ entry ∈ Backend.mintedBy (call.perform r s).1, H entry.2 = side := by
  cases call with
  | joinNetwork env uid input =>
    intro entry hentry
    cases hresult : (joinNetworkLogic env uid input s).1 with
    | error e => simp [Call.perform, Prod.map_fst, hresult, Backend.mintedBy] at hentry
    | ok result =>
      simp only [Call.perform, Prod.map_fst, hresult, Backend.mintedBy, List.mem_singleton] at hentry
      subst hentry
      exact joinNetworkLogic_accountId (fun token ht => (hapart token ht).trans huid) env huid hresult
  | _ => intro entry hentry; cases hentry

end Callables

/-! ### The scheduled jobs -/

section Jobs
variable (now : Timestamp)

theorem token_cleanupExpired (s : Store) (k : DocId) :
    (cleanupExpiredJoinTokensLogic now s).2.token k = (s.token k).filter fun doc => !decide (doc.expiresAt ≤ now) := by
  have hmem : k ∈ expiredJoinTokens now s ↔ (s.token k).any (·.expiresAt ≤ now) = true := by
    rw [expiredJoinTokens, Finset.mem_filter, Documents.Collection.mem_keys_iff]
    refine and_iff_right_of_imp fun h => ?_
    change (s.token k).isSome
    cases hs : s.token k with
    | none => simp [hs] at h
    | some doc => rfl
  simp only [cleanupExpiredJoinTokensLogic, deleteJoinTokens, Store.token_dropTokens, hmem]
  cases s.token k with
  | none => rfl
  | some doc => by_cases hexpired : doc.expiresAt ≤ now <;> simp [Option.filter, hexpired]

theorem cleanupExpired_without (h : s.Without H p) :
    (cleanupExpiredJoinTokensLogic now s).2.Without H (cleanupExpiredJoinTokensLogic now p).2 where
  account := h.account
  device := h.device
  token k := by
    rw [token_cleanupExpired, token_cleanupExpired, h.token]
    cases s.token k with
    | none => rfl
    | some doc => by_cases hexpired : doc.expiresAt ≤ now <;> by_cases hH : H doc.accountId = true <;>
        simp [Option.filter, hexpired, hH]

theorem mem_inactiveAccounts (s : Store) (a : DocId) :
    a ∈ inactiveAccounts now s ↔ (s.account a).any (isInactive now) = true := by
  rw [inactiveAccounts, List.mem_mergeSort, mem_inOrder, Finset.mem_filter, Documents.Collection.mem_keys_iff]
  refine and_iff_right_of_imp fun h => ?_
  change (s.account a).isSome
  cases hs : s.account a with
  | none => simp [hs] at h
  | some doc => rfl

/-- The accounts the job deletes, one after the other. -/
theorem deleteAccounts_lookup (accounts : List DocId) (s : Store) :
    (∀ a, (deleteAccounts (fun _ => .completes) accounts s).2.account a = if a ∈ accounts then none else s.account a) ∧
    (∀ a d, (deleteAccounts (fun _ => .completes) accounts s).2.device a d =
      if a ∈ accounts then none else s.device a d) ∧
    ∀ k, (deleteAccounts (fun _ => .completes) accounts s).2.token k = s.token k := by
  induction accounts generalizing s with
  | nil => simp [deleteAccounts]
  | cons b rest ih =>
    obtain ⟨haccount, hdevice, htoken⟩ := ih (s.sweepAccount b)
    refine ⟨fun a => ?_, fun a d => ?_, fun k => ?_⟩
    · refine (haccount a).trans ?_
      by_cases hab : a = b <;> by_cases hrest : a ∈ rest <;> simp [hab, hrest]
    · refine (hdevice a d).trans ?_
      by_cases hab : a = b <;> by_cases hrest : a ∈ rest <;> simp [hab, hrest]
    · exact htoken k

theorem cleanupInactive_store (s : Store) : (cleanupInactiveAccountsLogic (fun _ => .completes) now s).2 =
    (deleteAccounts (fun _ => .completes) (inactiveAccounts now s) s).2 := by
  rw [cleanupInactiveAccountsLogic]
  rcases deleteAccounts (fun _ => .completes) (inactiveAccounts now s) s with ⟨_ | _, t⟩ <;> rfl

theorem cleanupInactive_without (h : s.Without H p) :
    (cleanupInactiveAccountsLogic (fun _ => .completes) now s).2.Without H
      (cleanupInactiveAccountsLogic (fun _ => .completes) now p).2 := by
  rw [cleanupInactive_store, cleanupInactive_store]
  obtain ⟨haccount, hdevice, htoken⟩ := deleteAccounts_lookup (inactiveAccounts now s) s
  obtain ⟨haccount', hdevice', htoken'⟩ := deleteAccounts_lookup (inactiveAccounts now p) p
  refine ⟨fun a => ?_, fun a d => ?_, fun k => ?_⟩
  · rw [haccount, haccount', h.account]
    by_cases ha : H a = true <;> simp [ha, mem_inactiveAccounts, h.account]
  · rw [hdevice, hdevice', h.device]
    by_cases ha : H a = true <;> simp [ha, mem_inactiveAccounts, h.account]
  · rw [htoken, htoken', h.token]

end Jobs

end MagicShare.Cloud
