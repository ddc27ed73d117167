import MagicShare.Cloud.Firestore

/-! `accounts.ts`: creating and deleting an account.

Each callable comes with one `_cases` theorem: what it can do to the store, with
the guards it checked. Everything proved later about a step starts from these. -/
namespace MagicShare.Cloud

structure CreateAccountResult where
  created : Bool
  accountId : DocId

structure DeleteAccountResult where
  deleted : Bool

/-- The account document `createAccount` writes. -/
def newAccount (now : Timestamp) : AccountDoc where
  createdAt := now
  lastActiveAt := now
  deviceCount := 0

def createAccountBody (now : Timestamp) (uid : DocId) (s : Store) : Staged CreateAccountResult :=
  match s.account uid with
  | some _ => .ok (⟨false, uid⟩, [])
  | none => .ok (⟨true, uid⟩, [.setAccount uid (newAccount now)])

def createAccountLogic (now : Timestamp) (uid : DocId) (s : Store) :
    Except Rejection CreateAccountResult × Store :=
  runTransaction (createAccountBody now uid) s

/-- `createAccount` leaves an existing account alone and writes a missing one. -/
theorem createAccountLogic_cases (now : Timestamp) (uid : DocId) (s : Store) :
    ((s.account uid).isSome ∧ createAccountLogic now uid s = (.ok ⟨false, uid⟩, s)) ∨
      (s.account uid = none ∧
        createAccountLogic now uid s = (.ok ⟨true, uid⟩, s.putAccount uid (newAccount now))) := by
  cases h : s.account uid with
  | some doc =>
    have hb : createAccountBody now uid s = .ok (⟨false, uid⟩, []) := by
      simp [createAccountBody, h]
    exact .inl ⟨rfl, Transaction.run_committed hb rfl⟩
  | none =>
    have hb : createAccountBody now uid s =
        .ok (⟨true, uid⟩, [.setAccount uid (newAccount now)]) := by
      simp [createAccountBody, h]
    exact .inr ⟨rfl, Transaction.run_committed hb rfl⟩

/-- The whole call, its `recursiveDelete` as `r` has it. The read and the delete
are not one transaction; the caller of this definition decides when that
matters. -/
def deleteAccountLogic (r : SweepRun) (uid : DocId) (s : Store) :
    Except Rejection DeleteAccountResult × Store :=
  match s.account uid with
  | none => (.ok ⟨false⟩, s)
  | some _ =>
    match recursiveDeleteAccount r uid s with
    | (.error e, t) => (.error e, t)
    | (.ok (), t) => (.ok ⟨true⟩, t)

/-- `deleteAccount` on a missing account does nothing; otherwise it sweeps it. -/
theorem deleteAccountLogic_cases (r : SweepRun) (uid : DocId) (s : Store) :
    (s.account uid = none ∧ deleteAccountLogic r uid s = (.ok ⟨false⟩, s)) ∨
      ((s.account uid).isSome ∧
        (deleteAccountLogic r uid s).2 = (recursiveDeleteAccount r uid s).2) := by
  unfold deleteAccountLogic
  cases h : s.account uid with
  | none => exact .inl ⟨rfl, rfl⟩
  | some doc => cases r <;> exact .inr ⟨rfl, rfl⟩

end MagicShare.Cloud
