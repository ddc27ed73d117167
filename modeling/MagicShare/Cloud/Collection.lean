import MagicShare.Cloud.Scheduled
import MagicShare.Cloud.Sweeps

/-! One run of `cleanupInactiveAccounts` among other transactions.

The job decides on a snapshot and deletes afterwards, one account after the
other, without looking again. `collecting` lets transactions commit between any
two of its steps. The job deletes inactive accounts only as long as no
transaction touches an account that is still on its list
(`collection_only_inactive`). -/
namespace MagicShare.Cloud

/-- Where the job is: before its query, with a list of accounts to delete, or in
the `recursiveDelete` of one of them. -/
inductive Job where
  | waiting
  | collecting (accounts : List DocId)
  | deleting (a : DocId) (listed : List DocId) (accounts : List DocId)

/-- The accounts the job still deletes. -/
def Job.todo : Job → List DocId
  | .waiting => []
  | .collecting accounts => accounts
  | .deleting a _ accounts => a :: accounts

/-- The store, the job, and what an observer notes: the account documents at the
moment their deletion started, the accounts touched since the query, and the
documents the job deleted of accounts touched before. -/
structure Collecting where
  store : Store
  job : Job
  started : List AccountDoc
  touched : List DocId
  lost : List DocRef

inductive CollectEvent where
  | transact (tx : Tx)
  | query
  /-- `recursiveDelete` of the next account starts: it lists the devices. -/
  | list
  | delete (d : DocId)
  /-- It deletes the account document and ends. -/
  | finish
  /-- It fails, and the job with it. -/
  | fail

namespace Collecting

def transact (σ : Collecting) (tx : Tx) : Collecting :=
  {σ with
    store := (tx.run σ.store).2
    touched :=
      match σ.job with
      | .waiting => σ.touched
      | _ => σ.touched ++ tx.touched σ.store}

/-- The job deletes a document of the account `a`, whatever it holds by now. -/
def destroy (σ : Collecting) (a : DocId) (ref : DocRef) : Collecting :=
  {σ with
    store := ref.drop σ.store
    lost := if ref.there σ.store ∧ a ∈ σ.touched then σ.lost ++ [ref] else σ.lost}

def setJob (σ : Collecting) (job : Job) : Collecting := {σ with job := job}

end Collecting

/-- One run of the job at `now` among other transactions, from any store. -/
def collecting (now : Timestamp) (s : Store) : Transition.System Collecting CollectEvent where
  init := ⟨s, .waiting, [], [], []⟩
  step σ e :=
    match e, σ.job with
    | .transact tx, _ => some (σ.transact tx)
    | .query, .waiting => some (σ.setJob (.collecting (inactiveAccounts now σ.store)))
    | .list, .collecting (a :: rest) => some
        {σ with
          job := .deleting a (σ.store.deviceIds a) rest
          started := σ.started ++ (σ.store.account a).toList}
    | .delete d, .deleting a listed rest =>
      if d ∈ listed then some ((σ.destroy a (.device a d)).setJob (.deleting a (listed.erase d) rest)) else none
    | .finish, .deleting a [] rest => some ((σ.destroy a (.account a)).setJob (.collecting rest))
    | .fail, .deleting _ _ _ => some (σ.setJob (.collecting []))
    | _, _ => none

/-! ### The job alone -/

/-- Deleting documents one by one deletes them all. -/
theorem foldl_dropDevice (s : Store) (a : DocId) (listed : List DocId) :
    listed.foldl (fun s d => s.dropDevice a d) s = s.dropDevices a fun d => decide (d ∈ listed) := by
  induction listed generalizing s with
  | nil => exact Store.ext_lookup (fun _ => rfl) (fun a' d' => by simp) fun _ => rfl
  | cons d listed ih =>
    rw [List.foldl_cons, ih]
    refine Store.ext_lookup (fun _ => rfl) (fun a' d' => ?_) fun _ => rfl
    by_cases ha : a' = a <;> by_cases hd : d' = d <;> simp [ha, hd]

/-- The listed devices and then the account are the whole subtree. -/
theorem sweepAccount_eq (s : Store) (a : DocId) :
    ((s.deviceIds a).foldl (fun s d => s.dropDevice a d) s).dropAccount a = s.sweepAccount a := by
  rw [foldl_dropDevice]
  refine Store.ext_lookup (fun a' => by simp) (fun a' d' => ?_) fun _ => rfl
  simp only [Store.device_dropAccount, Store.device_dropDevices, Store.device_sweepAccount, decide_eq_true_eq,
    s.mem_deviceIds]
  by_cases ha : a' = a
  · subst ha
    cases h : s.device a' d' <;> simp
  · simp [ha]

namespace Collecting
variable (now : Timestamp) (s : Store) {σ : Collecting}

/-- The deletes of a listing, one after the other. -/
theorem run_delete {a : DocId} {listed rest : List DocId} (hj : σ.job = .deleting a listed rest) :
    ∃ τ, (collecting now s).run σ (listed.map .delete) = some τ ∧ τ.job = .deleting a [] rest ∧
      τ.store = listed.foldl (fun s d => s.dropDevice a d) σ.store := by
  induction listed generalizing σ with
  | nil => exact ⟨σ, rfl, hj, rfl⟩
  | cons d listed ih =>
    have hstep : (collecting now s).step σ (.delete d) =
        some ((σ.destroy a (.device a d)).setJob (.deleting a listed rest)) := by
      simp [collecting, hj]
    have hnext : ((σ.destroy a (.device a d)).setJob (.deleting a listed rest)).job =
        .deleting a listed rest := rfl
    obtain ⟨τ, hrun, hτ, hstore⟩ := ih hnext
    refine ⟨τ, ?_, hτ, hstore⟩
    rw [List.map_cons, Transition.System.run_cons, hstep]
    exact hrun

/-- The job on one account: it lists, deletes and finishes. -/
def accountEvents (s : Store) (a : DocId) : List CollectEvent :=
  .list :: ((s.deviceIds a).map .delete ++ [.finish])

theorem run_account {a : DocId} {rest : List DocId} (hj : σ.job = .collecting (a :: rest)) :
    ∃ τ, (collecting now s).run σ (accountEvents σ.store a) = some τ ∧ τ.job = .collecting rest ∧
      τ.store = σ.store.sweepAccount a := by
  have hlist : (collecting now s).step σ .list = some {σ with
      job := .deleting a (σ.store.deviceIds a) rest
      started := σ.started ++ (σ.store.account a).toList} := by
    simp [collecting, hj]
  have hnext : ({σ with
      job := .deleting a (σ.store.deviceIds a) rest
      started := σ.started ++ (σ.store.account a).toList} : Collecting).job =
        .deleting a (σ.store.deviceIds a) rest := rfl
  obtain ⟨τ, hrun, hτ, hstore⟩ := run_delete now s hnext
  refine ⟨(τ.destroy a (.account a)).setJob (.collecting rest), ?_, rfl, ?_⟩
  · rw [accountEvents, Transition.System.run_cons, hlist, Option.bind_some, Transition.System.run_append, hrun]
    simp [Transition.System.run_cons, collecting, hτ]
  · show τ.store.dropAccount a = _
    rw [hstore, sweepAccount_eq]

/-- The job on a list of accounts. -/
def jobEvents : List DocId → Store → List CollectEvent
  | [], _ => []
  | a :: rest, s => accountEvents s a ++ jobEvents rest (s.sweepAccount a)

theorem run_accounts {accounts : List DocId} (hj : σ.job = .collecting accounts) :
    ∃ τ, (collecting now s).run σ (jobEvents accounts σ.store) = some τ ∧
      τ.store = (deleteAccounts (fun _ => .completes) accounts σ.store).2 := by
  induction accounts generalizing σ with
  | nil => exact ⟨σ, rfl, rfl⟩
  | cons a rest ih =>
    obtain ⟨ρ, hfirst, hρ, hstore⟩ := run_account now s hj
    obtain ⟨τ, hrest, hτ⟩ := ih hρ
    refine ⟨τ, ?_, by rw [hτ, hstore]; rfl⟩
    rw [jobEvents, Transition.System.run_append, hfirst, Option.bind_some, ← hstore]
    exact hrest

end Collecting

/-- **Alone, the job does what `cleanupInactiveAccounts` does.** -/
theorem collecting_alone (now : Timestamp) (s : Store) : ∃ τ, (collecting now s).run (collecting now s).init
    (.query :: Collecting.jobEvents (inactiveAccounts now s) s) = some τ ∧
      τ.store = (cleanupInactiveAccountsLogic (fun _ => .completes) now s).2 := by
  have hnext : ((collecting now s).init.setJob (.collecting (inactiveAccounts now s))).job =
      .collecting (inactiveAccounts now s) := rfl
  obtain ⟨τ, hrun, hτ⟩ := Collecting.run_accounts now s hnext
  refine ⟨τ, hrun, ?_⟩
  rw [hτ, cleanupInactiveAccountsLogic]
  rcases h : deleteAccounts (fun _ => .completes) (inactiveAccounts now s) s with ⟨_ | _, t⟩
  · simp [collecting, Collecting.setJob, h]
  · simp [collecting, Collecting.setJob, h]

/-! ### The condition and the invariant -/

/-- No transaction touches an account that the job is about to delete. -/
def Untouched (σ : Collecting) : CollectEvent → Prop
  | .transact tx => ∀ a ∈ tx.touched σ.store, a ∉ σ.job.todo
  | _ => True

structure Collecting.Fair (now : Timestamp) (σ : Collecting) : Prop where
  /-- The accounts on the list are inactive still, or gone. -/
  inactive : ∀ a ∈ σ.job.todo, ∀ doc, σ.store.account a = some doc → isInactive now doc = true
  apart : ∀ a ∈ σ.touched, a ∉ σ.job.todo
  unseen : σ.job = .waiting → σ.touched = []
  started : ∀ doc ∈ σ.started, isInactive now doc = true
  nothing : σ.lost = []

namespace Collecting.Fair
variable {now : Timestamp} {σ : Collecting}

theorem init (s : Store) : ((collecting now s).init).Fair now where
  inactive _ ha := nomatch ha
  apart _ ha := nomatch ha
  unseen _ := rfl
  started _ hd := nomatch hd
  nothing := rfl

theorem transact (h : σ.Fair now) {tx : Tx} (hu : Untouched σ (.transact tx)) : (σ.transact tx).Fair now where
  inactive a ha doc hdoc := by
    have hnot : a ∉ tx.touched σ.store := fun ht => hu a ht ha
    rcases Tx.account_untouched hnot with hsame | hnone
    · exact h.inactive a ha doc (hsame ▸ hdoc)
    · cases hnone.symm.trans hdoc
  apart a ha := by
    have hcases : a ∈ σ.touched ∨ a ∈ tx.touched σ.store := by
      unfold Collecting.transact at ha
      cases hj : σ.job with
      | waiting => exact .inl (by simpa [hj] using ha)
      | collecting accounts => exact List.mem_append.mp (by simpa only [hj] using ha)
      | deleting b listed accounts => exact List.mem_append.mp (by simpa only [hj] using ha)
    rcases hcases with ha | ha
    · exact h.apart a ha
    · exact hu a ha
  unseen hw := by
    change σ.job = .waiting at hw
    simp only [Collecting.transact, hw]
    exact h.unseen hw
  started := h.started
  nothing := h.nothing

/-- A shorter list leaves less to check. -/
theorem setJob (h : σ.Fair now) {job : Job} (hj : ∀ a ∈ job.todo, a ∈ σ.job.todo)
    (hw : job ≠ .waiting) : (σ.setJob job).Fair now where
  inactive a ha := h.inactive a (hj a ha)
  apart a ha htodo := h.apart a ha (hj a htodo)
  unseen heq := absurd heq hw
  started := h.started
  nothing := h.nothing

/-- What is deleted of an account on the list was not touched. -/
theorem destroy (h : σ.Fair now) {a : DocId} (ha : a ∈ σ.job.todo) (ref : DocRef) :
    (σ.destroy a ref).Fair now where
  inactive b hb doc hdoc := by
    refine h.inactive b hb doc ?_
    cases ref with
    | account c =>
      simp only [Collecting.destroy, DocRef.drop, Store.account_dropAccount] at hdoc
      split at hdoc
      · cases hdoc
      · exact hdoc
    | device c d => exact hdoc
  apart := h.apart
  unseen := h.unseen
  started := h.started
  nothing := by
    have hnot : ¬ (ref.there σ.store ∧ a ∈ σ.touched) := fun hc => h.apart a hc.2 ha
    simp only [Collecting.destroy, if_neg hnot]
    exact h.nothing

/-- The query puts inactive accounts on the list. -/
theorem query (h : σ.Fair now) (hw : σ.job = .waiting) :
    (σ.setJob (.collecting (inactiveAccounts now σ.store))).Fair now where
  inactive a ha doc hdoc := by
    obtain ⟨doc', hdoc', hinactive⟩ := inactive_of_mem ha
    obtain rfl := Option.some.inj (hdoc.symm.trans hdoc')
    exact decide_eq_true hinactive
  apart a ha := by
    change a ∈ σ.touched at ha
    rw [h.unseen hw] at ha
    cases ha
  unseen heq := nomatch heq
  started := h.started
  nothing := h.nothing

/-- The deletion of the next account starts. -/
theorem list (h : σ.Fair now) {a : DocId} {rest : List DocId} (hj : σ.job = .collecting (a :: rest)) :
    Fair now {σ with
      job := .deleting a (σ.store.deviceIds a) rest
      started := σ.started ++ (σ.store.account a).toList} where
  inactive b hb := h.inactive b (by rw [hj]; exact hb)
  apart b hb htodo := h.apart b hb (by rw [hj]; exact htodo)
  unseen heq := nomatch heq
  started doc hd := by
    rcases List.mem_append.mp hd with hd | hd
    · exact h.started doc hd
    · exact h.inactive a (by rw [hj]; exact List.mem_cons_self) doc (Option.mem_toList.mp hd)
  nothing := h.nothing

/-- **An event that touches no account on the list keeps the job fair.** -/
theorem step {s : Store} {τ : Collecting} {e : CollectEvent} (h : σ.Fair now) (hu : Untouched σ e)
    (hst : (collecting now s).step σ e = some τ) : τ.Fair now := by
  simp only [collecting] at hst
  split at hst
  · obtain rfl := Option.some.inj hst
    exact h.transact hu
  · next hj =>
    obtain rfl := Option.some.inj hst
    exact h.query hj
  · next a rest hj =>
    obtain rfl := Option.some.inj hst
    exact h.list hj
  · next d a listed rest hj =>
    split at hst
    · obtain rfl := Option.some.inj hst
      have hmem : a ∈ σ.job.todo := by rw [hj]; exact List.mem_cons_self
      refine (h.destroy hmem (.device a d)).setJob (fun b hb => ?_) nofun
      show b ∈ σ.job.todo
      rw [hj]
      exact hb
    · cases hst
  · next a rest hj =>
    obtain rfl := Option.some.inj hst
    have hmem : a ∈ σ.job.todo := by rw [hj]; exact List.mem_cons_self
    refine (h.destroy hmem (.account a)).setJob (fun b hb => ?_) nofun
    show b ∈ σ.job.todo
    rw [hj]
    exact List.mem_cons_of_mem a hb
  · next a listed rest hj =>
    obtain rfl := Option.some.inj hst
    exact h.setJob (fun b hb => nomatch hb) nofun
  · cases hst

end Collecting.Fair

/-- **The job deletes inactive accounts only, as long as nobody touches an
account on its list.** In every such run, an account whose deletion starts has
not been active for 90 days at that moment, and the job deletes no document of an
account touched after its query. -/
theorem collection_only_inactive {now : Timestamp} {s : Store} {events : List CollectEvent}
    {σ : Collecting} (hu : (collecting now s).Meets Untouched (collecting now s).init events)
    (hrun : (collecting now s).run (collecting now s).init events = some σ) :
    (∀ doc ∈ σ.started, doc.lastActiveAt ≤ now - inactiveAccountMs) ∧ σ.lost = [] := by
  have hf : σ.Fair now :=
    Transition.System.run_meets (fun _ _ _ hs hu hst => hs.step hu hst) (Collecting.Fair.init s) hu hrun
  exact ⟨fun doc hd => of_decide_eq_true (hf.started doc hd), hf.nothing⟩

namespace Weekly

def group : DocId := ⟨"idle-group", by decide, by decide⟩
def device : DocId := ⟨"tablet", by decide, by decide⟩

/-- A group whose only device checked in at time 1. -/
def store : Store := ([.createAccount 0 group,
  .registerDevice 1 group ⟨device, "Laptop", .laptop, none, .linux, none⟩] : List Tx).foldl
    (fun s tx => (tx.run s).2) .empty

/-- The job runs 100 days later. -/
def now : Timestamp := 100 * 24 * 60 * 60 * 1000

/-- The device checks in. -/
def checkIn : CollectEvent :=
  .transact (.registerDevice now group ⟨device, "Laptop", .laptop, none, .linux, none⟩)

def deletion : List CollectEvent := [.list, .delete device, .finish]

/-- When the deleted accounts were active, and what was lost of touched ones. -/
def view (σ : Collecting) : List Timestamp × List DocRef :=
  (σ.started.map AccountDoc.lastActiveAt, σ.lost)

theorem view_late : ((collecting now store).run (collecting now store).init
    (.query :: checkIn :: deletion)).map view = some ([now], [.device group device, .account group]) := by
  decide +kernel

theorem view_undisturbed : ((collecting now store).run (collecting now store).init
    (.query :: deletion)).map view = some ([1], []) := by decide +kernel

end Weekly

/-- Undisturbed, the job deletes the group that was active at time 1. -/
theorem collection_only_inactive_weekly : ∃ σ,
    (collecting Weekly.now Weekly.store).run (collecting Weekly.now Weekly.store).init
      (.query :: Weekly.deletion) = some σ ∧
    σ.started.map AccountDoc.lastActiveAt = [1] ∧
    ∀ doc ∈ σ.started, doc.lastActiveAt ≤ Weekly.now - inactiveAccountMs := by
  obtain ⟨σ, hσ, hview⟩ := Option.map_eq_some_iff.mp Weekly.view_undisturbed
  have hu : (collecting Weekly.now Weekly.store).Meets Untouched (collecting Weekly.now Weekly.store).init
      (.query :: Weekly.deletion) :=
    fun _ _ => ⟨trivial, fun _ _ => ⟨trivial, fun _ _ => ⟨trivial, fun _ _ => ⟨trivial, trivial⟩⟩⟩⟩
  exact ⟨σ, hσ, (Prod.mk.inj hview).1, (collection_only_inactive hu hσ).1⟩

/-- A device that checks in after the query loses its group all the same. -/
theorem collection_deletes_active : ¬ ∀ (now : Timestamp) (s : Store) (events : List CollectEvent)
    (σ : Collecting), (collecting now s).run (collecting now s).init events = some σ →
      (∀ doc ∈ σ.started, doc.lastActiveAt ≤ now - inactiveAccountMs) ∧ σ.lost = [] := by
  intro h
  obtain ⟨σ, hσ, hview⟩ := Option.map_eq_some_iff.mp Weekly.view_late
  obtain ⟨_, hlost⟩ := h _ _ _ σ hσ
  have hview' := (Prod.mk.inj hview).2
  rw [hlost] at hview'
  cases hview'

end MagicShare.Cloud
