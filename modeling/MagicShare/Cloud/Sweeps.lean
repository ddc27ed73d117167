import MagicShare.Base.Transition
import MagicShare.Cloud.Count
import MagicShare.Cloud.Tx

/-! The `recursiveDelete` that runs after a transaction.

`removeDevice` and `joinNetwork` commit first and sweep later, and the sweep has
no precondition: it lists a subtree, deletes what it listed, and last the
document it was called on. `sweeping` lets other transactions commit between any
two of these steps. A sweep meets nothing, because its transaction already
deleted what it is called on, as long as nobody creates that document again
before it ends (`sweeps_harmless`). -/
namespace MagicShare.Cloud

/-! ### Documents by reference -/

def DocRef.there : DocRef → Store → Bool
  | .account a, s => (s.account a).isSome
  | .device a d, s => (s.device a d).isSome

def DocRef.drop : DocRef → Store → Store
  | .account a, s => s.dropAccount a
  | .device a d, s => s.dropDevice a d

/-- The device documents below: no collection is below a device. -/
def DocRef.below : DocRef → Store → List DocId
  | .account a, s => s.deviceIds a
  | .device _ _, _ => []

/-- Deleting a document that is not there does nothing. -/
theorem DocRef.drop_absent {ref : DocRef} {s : Store} (h : ref.there s = false) : ref.drop s = s := by
  cases ref with
  | account a =>
    have ha : s.account a = none := by simpa [there] using h
    refine Store.ext_lookup (fun a' => ?_) (fun _ _ => rfl) (fun _ => rfl)
    by_cases heq : a' = a <;> simp [drop, heq, ha]
  | device a d =>
    have hd : s.device a d = none := by simpa [there] using h
    refine Store.ext_lookup (fun _ => rfl) (fun a' d' => ?_) (fun _ => rfl)
    by_cases heq : a' = a ∧ d' = d
    · simp [drop, heq, hd]
    · simp [drop, heq]

/-! ### The system -/

/-- A `recursiveDelete` in flight: the document it is called on, the number of
transactions committed up to the one that called for it, and what is left of its
listing. -/
structure Sweep where
  target : DocRef
  after : Nat
  listed : Option (List DocId) := none

/-- A document a sweep deleted: the commit after which the sweep was called, and
the commit that last wrote the document. -/
structure Destroyed where
  after : Nat
  written : Nat
  deriving DecidableEq

/-- The store, the number of commits, the sweeps in flight, and what an observer
notes: the commit that last wrote each document, the documents the sweeps
deleted, and the devices a caller was promised. -/
structure Sweeping where
  store : Store
  commits : Nat
  sweeps : List Sweep
  written : DocRef → Nat
  destroyed : List Destroyed
  promised : Finset (DocId × DocId)

inductive SweepEvent where
  | transact (tx : Tx)
  /-- The `i`-th sweep lists its subtree. -/
  | list (i : Nat)
  /-- It deletes a document it listed. -/
  | delete (i : Nat) (d : DocId)
  /-- It deletes the document it was called on, and is done. -/
  | finish (i : Nat)
  /-- It fails. -/
  | abandon (i : Nat)

namespace Sweeping

def start : Sweeping := ⟨.empty, 0, [], fun _ => 0, [], ∅⟩

/-- The devices promised once a transaction has committed: a registered or joined
device is, a removed or moved one no longer is. -/
def promise (tx : Tx) (sweep : Option DocRef) (s : Store) (promised : Finset (DocId × DocId)) :
    Finset (DocId × DocId) :=
  match tx with
  | .registerDevice _ uid input => insert (uid, input.deviceId) promised
  | .removeDevice _ uid input => promised.erase (uid, input.deviceId)
  | .joinNetwork _ uid input =>
    match s.token input.tokenId with
    | some token => insert (token.accountId, input.deviceId)
        (if sweep.isSome then promised.erase (uid, input.deviceId) else promised)
    | none => promised
  | _ => promised

def transact (σ : Sweeping) (tx : Tx) : Sweeping :=
  match (tx.run σ.store).1 with
  | .error _ => {σ with store := (tx.run σ.store).2}
  | .ok sweep =>
    { store := (tx.run σ.store).2
      commits := σ.commits + 1
      sweeps := σ.sweeps ++ sweep.toList.map fun target => ⟨target, σ.commits + 1, none⟩
      written := fun ref => if ref ∈ tx.puts σ.store then σ.commits + 1 else σ.written ref
      destroyed := σ.destroyed
      promised := promise tx sweep σ.store σ.promised }

/-- A sweep deletes a document, whatever it holds by now. -/
def destroy (σ : Sweeping) (w : Sweep) (ref : DocRef) : Sweeping :=
  {σ with
    store := ref.drop σ.store
    destroyed := if ref.there σ.store then σ.destroyed ++ [⟨w.after, σ.written ref⟩] else σ.destroyed}

def setSweeps (σ : Sweeping) (sweeps : List Sweep) : Sweeping := {σ with sweeps := sweeps}

end Sweeping

/-- Transactions and sweeps in any order, from the empty store. -/
def sweeping : Transition.System Sweeping SweepEvent where
  init := .start
  step σ
    | .transact tx => some (σ.transact tx)
    | .list i => σ.sweeps[i]?.bind fun w =>
      if w.listed.isNone then
        some (σ.setSweeps (σ.sweeps.set i {w with listed := some (w.target.below σ.store)}))
      else none
    | .delete i d => σ.sweeps[i]?.bind fun w =>
      match w.target, w.listed with
      | .account a, some listed =>
        if d ∈ listed then
          some ((σ.destroy w (.device a d)).setSweeps (σ.sweeps.set i {w with listed := some (listed.erase d)}))
        else none
      | _, _ => none
    | .finish i => σ.sweeps[i]?.bind fun w =>
      if w.listed = some [] then some ((σ.destroy w w.target).setSweeps (σ.sweeps.eraseIdx i)) else none
    | .abandon i => σ.sweeps[i]?.map fun _ => σ.setSweeps (σ.sweeps.eraseIdx i)

/-! ### The condition and the invariant -/

/-- A transaction creates the document: an account that is missing, or a device
under an account that it may write. -/
def Creates (s : Store) : Tx → DocRef → Prop
  | .createAccount _ uid, .account a => a = uid ∧ s.account uid = none
  | .registerDevice _ uid input, .device a d =>
    a = uid ∧ d = input.deviceId ∧ (s.account uid).isSome ∧ s.device uid d = none
  | .joinNetwork clock uid input, .device a d => JoinAccepts clock uid input s ∧
    (∃ token, s.token input.tokenId = some token ∧ a = token.accountId) ∧ d = input.deviceId
  | _, _ => False

/-- No transaction creates a document that a sweep is about to delete. -/
def Undisturbed (σ : Sweeping) : SweepEvent → Prop
  | .transact tx => ∀ w ∈ σ.sweeps, ¬ Creates σ.store tx w.target
  | _ => True

/-- Nothing is left for a sweep to find, and every promise is kept. -/
structure Sweeping.Calm (σ : Sweeping) : Prop where
  covered : Covered σ.store
  cleared : ∀ w ∈ σ.sweeps, w.target.there σ.store = false
  nothing : σ.destroyed = []
  kept : ∀ p ∈ σ.promised, (σ.store.device p.1 p.2).isSome

/-- The last device of an account that counts all its devices was its only one. -/
theorem Tallied.only {s : Store} (h : Covered s) {a d : DocId} {account : AccountDoc}
    (ha : s.account a = some account) (hd : (s.device a d).isSome) (hc : account.deviceCount ≤ 1)
    (d' : DocId) : (s.dropDevice a d).device a d' = none := by
  have hm := Store.members_dropDevice hd
  have hcount : (s.members a : Int) ≤ account.deviceCount := h.count ha
  exact (Store.members_eq_zero _ a).mp (by omega) d'

/-- The account and its only device go together. -/
theorem Tallied.leaveLast {s : Store} (h : Covered s) {a d : DocId} {account : AccountDoc}
    (ha : s.account a = some account) (hd : (s.device a d).isSome) (hc : account.deviceCount ≤ 1) :
    Covered (s.leaveLast a d) where
  count {b doc} hb := by
    rw [Store.leaveLast, Store.account_dropAccount] at hb
    split at hb
    · cases hb
    · next hne =>
      rw [Store.leaveLast, Store.members_dropAccount, Store.members_dropDevice_ne s a b d hne]
      exact h.count hb
  owned {b d'} hb := by
    rw [Store.leaveLast, Store.account_dropAccount]
    split
    · next heq =>
      subst heq
      rw [Store.leaveLast, Store.device_dropAccount, h.only ha hd hc] at hb
      cases hb
    · next hne =>
      rw [Store.leaveLast, Store.device_dropAccount, Store.device_dropDevice, if_neg fun hc => hne hc.1] at hb
      exact h.owned hb

theorem JoinLeaves.covered {now : Timestamp} {uid : DocId} {input : JoinNetworkInput} {s left : Store}
    {doc : DeviceDoc} {sweep : Option DocRef} (h : JoinLeaves now uid input s doc left sweep)
    (hs : Covered s) : Covered left := by
  cases h with
  | survivor ha hd _ => exact hs.leave .ge now ha (by simp [hd])
  | last ha hd hc => exact hs.leaveLast ha (by simp [hd]) hc
  | welcome _ _ => exact hs

theorem JoinLeaves.device_ne {now : Timestamp} {uid : DocId} {input : JoinNetworkInput}
    {s left : Store} {doc : DeviceDoc} {sweep : Option DocRef}
    (h : JoinLeaves now uid input s doc left sweep) {a d : DocId} (hne : ¬ (a = uid ∧ d = input.deviceId)) :
    left.device a d = s.device a d := by
  cases h <;> simp [Store.leave, Store.leaveLast, hne]

theorem JoinLeaves.account_ne {now : Timestamp} {uid : DocId} {input : JoinNetworkInput}
    {s left : Store} {doc : DeviceDoc} {sweep : Option DocRef}
    (h : JoinLeaves now uid input s doc left sweep) {a : DocId} (hne : a ≠ uid) :
    left.account a = s.account a := by
  cases h <;> simp [Store.leave, Store.leaveLast, hne]

/-- Leaving the source makes no document. -/
theorem JoinLeaves.there {now : Timestamp} {uid : DocId} {input : JoinNetworkInput}
    {s left : Store} {doc : DeviceDoc} {sweep : Option DocRef}
    (h : JoinLeaves now uid input s doc left sweep) {ref : DocRef} (hr : ref.there s = false) :
    ref.there left = false := by
  cases ref with
  | account a =>
    simp only [DocRef.there, Option.isSome_eq_false_iff, Option.isNone_iff_eq_none] at hr ⊢
    by_cases heq : a = uid
    · subst heq
      cases h with
      | survivor ha _ _ => simp [hr] at ha
      | last ha _ _ => simp [hr] at ha
      | welcome _ _ => exact hr
    · rw [h.account_ne heq, hr]
  | device a d =>
    simp only [DocRef.there, Option.isSome_eq_false_iff, Option.isNone_iff_eq_none] at hr ⊢
    by_cases heq : a = uid ∧ d = input.deviceId
    · obtain ⟨rfl, rfl⟩ := heq
      cases h with
      | survivor _ hd _ => simp [hr] at hd
      | last _ hd _ => simp [hr] at hd
      | welcome _ _ => exact hr
    · rw [h.device_ne heq, hr]

theorem JoinLeaves.accepts {clock : JoinClock} {uid : DocId} {input : JoinNetworkInput} {s left : Store}
    {doc : DeviceDoc} {sweep : Option DocRef} {token : JoinTokenDoc} {target : AccountDoc}
    (g : JoinGuards clock uid input s token target)
    (h : JoinLeaves clock.now uid input s doc left sweep) : JoinAccepts clock uid input s := by
  refine ⟨⟨token, target, g⟩, ?_, ?_⟩
  · intro ha
    cases h with
    | survivor _ hd _ => simp [hd]
    | last _ hd _ => simp [hd]
    | welcome hn _ => simp [hn] at ha
  · intro ha
    cases h with
    | survivor hs _ _ => simp [ha] at hs
    | last hs _ _ => simp [ha] at hs
    | welcome _ hn => simp [hn]

namespace TxEffect
variable {s t : Store} {tx : Tx} {r : Except Rejection (Option DocRef)}

theorem covered (h : TxEffect s tx r t) (hs : Covered s) : Covered t := by
  cases h with
  | rejected => exact hs
  | existing _ => exact hs
  | created ha => exact hs.putAccount_new .ge ha _
  | added ha hd => exact hs.addDevice .ge _ _ ha hd
  | rewritten _ ha hd => exact hs.rewriteDevice _ _ ha (by simp [hd])
  | left ha hd _ => exact hs.leave .ge _ ha hd
  | leftLast ha hd hc => exact hs.leaveLast ha hd hc
  | joined g hl =>
    refine (hl.covered hs).joinTarget _ ?_
    rw [hl.account_ne g.notSelf.symm, g.targetFound]

/-- A document that is missing stays missing unless the transaction creates it. -/
theorem there (h : TxEffect s tx r t) {ref : DocRef} (hr : ref.there s = false)
    (hc : ¬ Creates s tx ref) : ref.there t = false := by
  cases h with
  | rejected => exact hr
  | existing _ => exact hr
  | @created now uid ha =>
    cases ref with
    | account a =>
      have hne : a ≠ uid := fun heq => hc ⟨heq, ha⟩
      simpa [DocRef.there, hne] using hr
    | device a d => exact hr
  | @added now uid input account ha hd =>
    cases ref with
    | account a =>
      have hne : a ≠ uid := by
        rintro rfl
        simp [DocRef.there, ha] at hr
      simpa [DocRef.there, hne] using hr
    | device a d =>
      have hne : ¬ (a = uid ∧ d = input.deviceId) := by
        rintro ⟨rfl, rfl⟩
        exact hc ⟨rfl, rfl, by simp [ha], hd⟩
      simpa [DocRef.there, hne] using hr
  | @rewritten tx now e account doc v _ ha hd =>
    cases ref with
    | account a =>
      have hne : a ≠ tx.caller := by
        rintro rfl
        simp [DocRef.there, ha] at hr
      simpa [DocRef.there, hne] using hr
    | device a d =>
      have hne : ¬ (a = tx.caller ∧ d = e) := by
        rintro ⟨rfl, rfl⟩
        simp [DocRef.there, hd] at hr
      simpa [DocRef.there, hne] using hr
  | @left now uid input account ha _ _ =>
    cases ref with
    | account a =>
      have hne : a ≠ uid := by
        rintro rfl
        simp [DocRef.there, ha] at hr
      simpa [DocRef.there, Store.leave, hne] using hr
    | device a d =>
      simp only [DocRef.there, Store.leave, Store.device_putAccount, Store.device_dropDevice] at hr ⊢
      split
      · rfl
      · exact hr
  | leftLast _ _ _ =>
    cases ref with
    | account a =>
      simp only [DocRef.there, Store.leaveLast, Store.account_dropAccount] at hr ⊢
      split
      · rfl
      · exact hr
    | device a d =>
      simp only [DocRef.there, Store.leaveLast, Store.device_dropAccount, Store.device_dropDevice] at hr ⊢
      split
      · rfl
      · exact hr
  | @joined clock uid input token target doc left sweep g hl =>
    have hleft := hl.there hr
    cases ref with
    | account a =>
      have hne : a ≠ token.accountId := by
        rintro rfl
        simp [DocRef.there, g.targetFound] at hr
      simpa [DocRef.there, joinTarget, hne] using hleft
    | device a d =>
      have hne : ¬ (a = token.accountId ∧ d = input.deviceId) := by
        rintro ⟨rfl, rfl⟩
        exact hc ⟨hl.accepts g, ⟨token, g.found, rfl⟩, rfl⟩
      simpa [DocRef.there, joinTarget, hne] using hleft

/-- A transaction has deleted the document it calls for a sweep of. -/
theorem swept {ref : DocRef} (h : TxEffect s tx (.ok (some ref)) t) : ref.there t = false := by
  cases h with
  | left _ _ _ => simp [DocRef.there, Store.leave]
  | leftLast _ _ _ => simp [DocRef.there, Store.leaveLast]
  | joined g hl =>
    cases hl with
    | survivor _ _ _ => simp [DocRef.there, joinTarget, Store.leave, g.notSelf]
    | last _ _ _ => simp [DocRef.there, joinTarget, Store.leaveLast, g.notSelf]

/-- The devices promised after a commit are there, if those promised before
were. -/
theorem kept {sweep : Option DocRef} (h : TxEffect s tx (.ok sweep) t) {promised : Finset (DocId × DocId)}
    (hk : ∀ p ∈ promised, (s.device p.1 p.2).isSome) :
    ∀ p ∈ Sweeping.promise tx sweep s promised, (t.device p.1 p.2).isSome := by
  rintro ⟨a, d⟩ hp
  cases h with
  | existing _ => exact hk _ hp
  | created _ => exact hk _ hp
  | @added now uid input account ha hd =>
    simp only [Store.device_putAccount, Store.device_putDevice]
    split
    · rfl
    · next hne =>
      rcases Finset.mem_insert.mp hp with heq | hp
      · exact absurd (Prod.mk.inj heq) hne
      · exact hk _ hp
  | @rewritten tx now e account doc v htx ha hd =>
    simp only [Store.device_putAccount, Store.device_putDevice]
    split
    · rfl
    · next hne =>
      cases tx with
      | registerDevice t uid input =>
        cases htx
        rcases Finset.mem_insert.mp hp with heq | hp
        · exact absurd (Prod.mk.inj heq) hne
        · exact hk _ hp
      | renameDevice t uid input => exact hk _ hp
      | setDeviceIcon t uid input => exact hk _ hp
      | notifyTransferIntent t uid input => exact hk _ hp
      | createAccount t uid => cases htx
      | removeDevice t uid input => cases htx
      | joinNetwork clock uid input => cases htx
  | @left now uid input account ha hd hc =>
    obtain ⟨hne, hp⟩ := Finset.mem_erase.mp hp
    have hne' : ¬ (a = uid ∧ d = input.deviceId) := fun heq => hne (Prod.ext heq.1 heq.2)
    simpa [Store.leave, hne'] using hk _ hp
  | @leftLast now uid input account ha hd hc =>
    obtain ⟨hne, hp⟩ := Finset.mem_erase.mp hp
    have hne' : ¬ (a = uid ∧ d = input.deviceId) := fun heq => hne (Prod.ext heq.1 heq.2)
    simpa [Store.leaveLast, hne'] using hk _ hp
  | @joined clock uid input token target doc left sweep g hl =>
    simp only [joinTarget, Store.device_putAccount, Store.device_putDevice, Store.device_putToken]
    split
    · rfl
    · next hne =>
      simp only [Sweeping.promise, g.found] at hp
      rcases Finset.mem_insert.mp hp with heq | hp
      · exact absurd (Prod.mk.inj heq) hne
      · cases hl with
        | survivor ha hd hc =>
          obtain ⟨hne', hp⟩ := Finset.mem_erase.mp hp
          have hne'' : ¬ (a = uid ∧ d = input.deviceId) := fun heq => hne' (Prod.ext heq.1 heq.2)
          simpa [Store.leave, hne''] using hk _ hp
        | last ha hd hc =>
          obtain ⟨hne', hp⟩ := Finset.mem_erase.mp hp
          have hne'' : ¬ (a = uid ∧ d = input.deviceId) := fun heq => hne' (Prod.ext heq.1 heq.2)
          simpa [Store.leaveLast, hne''] using hk _ hp
        | welcome _ _ => exact hk _ hp

end TxEffect

/-! ### Every event -/

namespace Sweeping.Calm
variable {σ : Sweeping}

theorem start : Sweeping.start.Calm where
  covered := Tallied.empty
  cleared w hw := nomatch hw
  nothing := rfl
  kept p hp := by simp [Sweeping.start] at hp

/-- Sweeps may move on, as long as none is called on another document. -/
theorem setSweeps (h : σ.Calm) {sweeps : List Sweep}
    (hw : ∀ w ∈ sweeps, ∃ w' ∈ σ.sweeps, w.target = w'.target) : (σ.setSweeps sweeps).Calm where
  covered := h.covered
  cleared w hmem := by
    obtain ⟨w', hmem', heq⟩ := hw w hmem
    rw [heq]
    exact h.cleared w' hmem'
  nothing := h.nothing
  kept := h.kept

/-- A sweep finds neither the document it was called on nor one below it. -/
theorem destroy_absent {w : Sweep} {ref : DocRef} (hr : ref.there σ.store = false) :
    σ.destroy w ref = σ := by
  unfold Sweeping.destroy
  rw [DocRef.drop_absent hr, hr]
  rfl

theorem below_absent (h : σ.Calm) {w : Sweep} (hw : w ∈ σ.sweeps) {a : DocId} (ha : w.target = .account a)
    (d : DocId) : (DocRef.device a d).there σ.store = false := by
  have hnone := h.cleared w hw
  simp only [ha, DocRef.there, Option.isSome_eq_false_iff, Option.isNone_iff_eq_none] at hnone
  simp [DocRef.there, h.covered.no_device hnone d]

theorem target_of_set {i : Nat} {w : Sweep} (hi : σ.sweeps[i]? = some w) (listed : Option (List DocId)) :
    ∀ v ∈ σ.sweeps.set i {w with listed := listed}, ∃ v' ∈ σ.sweeps, v.target = v'.target := by
  intro v hv
  rcases List.mem_or_eq_of_mem_set hv with hv | rfl
  · exact ⟨v, hv, rfl⟩
  · exact ⟨w, List.mem_of_getElem? hi, rfl⟩

theorem target_of_erase (i : Nat) : ∀ v ∈ σ.sweeps.eraseIdx i, ∃ v' ∈ σ.sweeps, v.target = v'.target :=
  fun v hv => ⟨v, List.mem_of_mem_eraseIdx hv, rfl⟩

theorem transact (h : σ.Calm) {tx : Tx} (hu : Undisturbed σ (.transact tx)) : (σ.transact tx).Calm := by
  have heff := TxEffect.of_run σ.store tx
  unfold Sweeping.transact
  cases hr : (tx.run σ.store).1 with
  | error e =>
    rw [hr] at heff
    rw [heff.store_of_error]
    exact h
  | ok sweep =>
    rw [hr] at heff
    refine ⟨heff.covered h.covered, fun w hw => ?_, h.nothing, heff.kept h.kept⟩
    rcases List.mem_append.mp hw with hw | hw
    · exact heff.there (h.cleared w hw) (hu w hw)
    · obtain ⟨target, htarget, rfl⟩ := List.mem_map.mp hw
      obtain rfl := Option.mem_toList.mp htarget
      exact heff.swept

/-- **An event that creates nothing under a sweep keeps the calm.** -/
theorem step {τ : Sweeping} {e : SweepEvent} (h : σ.Calm) (hu : Undisturbed σ e)
    (hst : sweeping.step σ e = some τ) : τ.Calm := by
  cases e with
  | transact tx =>
    obtain rfl := Option.some.inj hst
    exact h.transact hu
  | list i =>
    obtain ⟨w, hi, hw⟩ := Option.bind_eq_some_iff.mp hst
    split at hw
    · obtain rfl := Option.some.inj hw
      exact h.setSweeps (target_of_set hi _)
    · cases hw
  | delete i d =>
    obtain ⟨w, hi, hw⟩ := Option.bind_eq_some_iff.mp hst
    split at hw
    · next a listed htarget _ =>
      split at hw
      · obtain rfl := Option.some.inj hw
        rw [destroy_absent (h.below_absent (List.mem_of_getElem? hi) htarget d)]
        exact h.setSweeps (target_of_set hi _)
      · cases hw
    · cases hw
  | finish i =>
    obtain ⟨w, hi, hw⟩ := Option.bind_eq_some_iff.mp hst
    split at hw
    · obtain rfl := Option.some.inj hw
      rw [destroy_absent (h.cleared w (List.mem_of_getElem? hi))]
      exact h.setSweeps (target_of_erase i)
    · cases hw
  | abandon i =>
    obtain ⟨w, hi, rfl⟩ := Option.map_eq_some_iff.mp hst
    exact h.setSweeps (target_of_erase i)

end Sweeping.Calm

/-- **Sweeps are harmless as long as nobody creates what they are called on.** In
every run in which no transaction creates a document that a sweep is about to
delete, no sweep deletes a document written after the transaction that called
for it, and at rest every promised device is there. -/
theorem sweeps_harmless {events : List SweepEvent} {σ : Sweeping}
    (hu : sweeping.Meets Undisturbed .start events) (hrun : sweeping.run .start events = some σ) :
    (∀ e ∈ σ.destroyed, e.written ≤ e.after) ∧
      (σ.sweeps = [] → ∀ p ∈ σ.promised, (σ.store.device p.1 p.2).isSome) := by
  have hc : σ.Calm :=
    Transition.System.run_meets (fun _ _ _ hs hu hst => hs.step hu hst) Sweeping.Calm.start hu hrun
  refine ⟨fun e he => ?_, fun _ => hc.kept⟩
  rw [hc.nothing] at he
  cases he

/-- Transactions commit only when no sweep is in flight. -/
def Sweeping.quiet : Sweeping → List SweepEvent → Bool
  | _, [] => true
  | σ, e :: rest =>
    (match e with
      | .transact _ => σ.sweeps.isEmpty
      | _ => true) &&
    match sweeping.step σ e with
    | some τ => quiet τ rest
    | none => true

theorem Sweeping.meets_of_quiet {events : List SweepEvent} {σ : Sweeping} (h : σ.quiet events = true) :
    sweeping.Meets Undisturbed σ events := by
  induction events generalizing σ with
  | nil => trivial
  | cons e rest ih =>
    simp only [Sweeping.quiet, Bool.and_eq_true] at h
    intro τ hτ
    rw [hτ] at h
    refine ⟨?_, ih h.2⟩
    cases e with
    | transact tx =>
      intro w hw
      rw [List.isEmpty_iff.mp h.1] at hw
      cases hw
    | _ => trivial

namespace Reset

def group : DocId := ⟨"reset-group", by decide, by decide⟩
def device : DocId := ⟨"notebook", by decide, by decide⟩

/-- A user removes the only device of a group. -/
def remove : List SweepEvent :=
  [.transact (.createAccount 0 group),
    .transact (.registerDevice 1 group ⟨device, "Laptop", .laptop, none, .linux, none⟩),
    .transact (.removeDevice 2 group ⟨device⟩)]

/-- The app sets the same user up again. -/
def setUp : List SweepEvent :=
  [.transact (.createAccount 3 group),
    .transact (.registerDevice 4 group ⟨device, "Laptop", .laptop, none, .linux, none⟩)]

/-- What the observer sees: the documents destroyed, whether a sweep is left, and
whether the device is there, promised. -/
def view (σ : Sweeping) : List Destroyed × Bool × Bool × Bool :=
  (σ.destroyed, σ.sweeps.isEmpty, (σ.store.device group device).isSome,
    decide ((group, device) ∈ σ.promised))

theorem view_after : (sweeping.run .start (remove ++ [.list 0, .finish 0] ++ setUp)).map view =
    some ([], true, true, true) := by decide +kernel

theorem view_between :
    (sweeping.run .start (remove ++ setUp ++ [.list 0, .delete 0 device, .finish 0])).map view =
      some ([⟨3, 5⟩, ⟨3, 5⟩], true, false, true) := by decide +kernel

end Reset

/-- Set up again after the sweep, the device stays. -/
theorem sweeps_harmless_reset : ∃ σ, sweeping.run .start (Reset.remove ++ [.list 0, .finish 0] ++ Reset.setUp) =
    some σ ∧ (Reset.group, Reset.device) ∈ σ.promised ∧ (σ.store.device Reset.group Reset.device).isSome := by
  obtain ⟨σ, hσ, hview⟩ := Option.map_eq_some_iff.mp Reset.view_after
  have hquiet : Sweeping.start.quiet (Reset.remove ++ [.list 0, .finish 0] ++ Reset.setUp) = true := by
    decide +kernel
  obtain ⟨_, hrest⟩ := sweeps_harmless (Sweeping.meets_of_quiet hquiet) hσ
  simp only [Reset.view, Prod.mk.injEq] at hview
  have hp : (Reset.group, Reset.device) ∈ σ.promised := of_decide_eq_true hview.2.2.2
  exact ⟨σ, hσ, hp, hrest (List.isEmpty_iff.mp hview.2.1) _ hp⟩

/-- Set up again before the sweep, the account and the device are destroyed. -/
theorem sweeps_destroy_reset : ¬ ∀ (events : List SweepEvent) (σ : Sweeping),
    sweeping.run .start events = some σ →
      (∀ e ∈ σ.destroyed, e.written ≤ e.after) ∧
        (σ.sweeps = [] → ∀ p ∈ σ.promised, (σ.store.device p.1 p.2).isSome) := by
  intro h
  obtain ⟨σ, hσ, hview⟩ := Option.map_eq_some_iff.mp Reset.view_between
  obtain ⟨hdestroyed, _⟩ := h _ σ hσ
  simp only [Reset.view, Prod.mk.injEq] at hview
  rw [hview.1] at hdestroyed
  exact absurd (hdestroyed ⟨3, 5⟩ (by simp)) (by decide)

end MagicShare.Cloud
