import Mathlib.Data.Finset.Sort
import MagicShare.Base.Transaction
import MagicShare.Cloud.Models

/-! What the functions ask of Firestore: staged writes, transactions, and the
out-of-transaction `recursiveDelete`.

A staged write is a `set`, an `update` or a `delete` of one document; an `update`
of a missing document makes the commit fail. `recursiveDelete` is not a
transaction: it may fail after deleting some of the documents it was to delete
(`SweepRun`). -/
namespace MagicShare.Cloud

inductive HttpsErrorCode where
  | notFound | failedPrecondition | resourceExhausted | invalidArgument | unauthenticated
  deriving DecidableEq

/-- Why a callable rejects: an `HttpsError` it throws, or a step that failed. -/
inductive Rejection where
  | https (code : HttpsErrorCode) (message : String)
  /-- An `update` of a missing document: the commit is refused. -/
  | missingDocument
  /-- Firestore gave the transaction up. -/
  | aborted
  /-- `db.doc` refuses the path. -/
  | documentPath
  | recursiveDelete
  | deviceList
  | customToken
  | messaging
  deriving DecidableEq

/-- `update` of an account: `lastActiveAt`, and an increment of `deviceCount` if
there is one. -/
structure AccountPatch where
  lastActiveAt : Timestamp
  deviceCount : Option Int := none

def AccountPatch.apply (p : AccountPatch) (doc : AccountDoc) : AccountDoc :=
  {doc with lastActiveAt := p.lastActiveAt, deviceCount := doc.deviceCount + p.deviceCount.getD 0}

/-- `Partial<DeviceDoc>`: the fields an `update` writes. -/
structure DevicePatch where
  displayName : Option String := none
  icon : Option DeviceIcon := none
  fcmToken : Option (Option String) := none
  platform : Option DevicePlatform := none
  fingerprint : Option (Option String) := none
  recentSendsAt : Option (List Timestamp) := none

def DevicePatch.apply (p : DevicePatch) (doc : DeviceDoc) : DeviceDoc where
  displayName := p.displayName.getD doc.displayName
  icon := p.icon.getD doc.icon
  fcmToken := p.fcmToken.getD doc.fcmToken
  platform := p.platform.getD doc.platform
  fingerprint := p.fingerprint.or doc.fingerprint
  recentSendsAt := p.recentSendsAt.or doc.recentSendsAt

/-- A staged write. -/
inductive Write where
  | setAccount (a : DocId) (doc : AccountDoc)
  | updateAccount (a : DocId) (patch : AccountPatch)
  | deleteAccount (a : DocId)
  | setDevice (a d : DocId) (doc : DeviceDoc)
  | updateDevice (a d : DocId) (patch : DevicePatch)
  | deleteDevice (a d : DocId)
  | consumeToken (t : DocId) (consumedAt : Timestamp)

def Write.apply : Write → Store → Option Store
  | .setAccount a doc, s => some (s.putAccount a doc)
  | .updateAccount a patch, s => (s.account a).map fun doc => s.putAccount a (patch.apply doc)
  | .deleteAccount a, s => some (s.dropAccount a)
  | .setDevice a d doc, s => some (s.putDevice a d doc)
  | .updateDevice a d patch, s => (s.device a d).map fun doc => s.putDevice a d (patch.apply doc)
  | .deleteDevice a d, s => some (s.dropDevice a d)
  | .consumeToken t now, s =>
    (s.token t).map fun doc => s.putToken t {doc with consumedAt := some now}

/-- Documents in the order a query returns them by default. -/
def inOrder (ids : Finset DocId) : List DocId := ids.sort (· ≤ ·)

theorem mem_inOrder (ids : Finset DocId) (d : DocId) : d ∈ inOrder ids ↔ d ∈ ids := Finset.mem_sort _

/-- What a transaction body returns: a rejection, or a result and its writes. -/
abbrev Staged (α : Type) := Except Rejection (α × List Write)

/-- `db.runTransaction`. -/
def runTransaction {α : Type} (body : Store → Staged α) (s : Store) : Except Rejection α × Store :=
  Transaction.run Write.apply .missingDocument body s

/-- Either nothing happened, or the writes the body staged were committed. -/
theorem runTransaction_cases {α : Type} (body : Store → Staged α) (s : Store) :
    (∃ e, runTransaction body s = (.error e, s)) ∨
      ∃ a writes t, body s = .ok (a, writes) ∧
        Transaction.commit Write.apply writes s = some t ∧ runTransaction body s = (.ok a, t) :=
  Transaction.run_cases Write.apply Rejection.missingDocument body s

/-- How a `recursiveDelete` goes: to its end, or not, after deleting the root
document (`root`) and the documents below it in `deleted`. -/
inductive SweepRun where
  | completes
  | fails (root : Bool) (deleted : DocId → Bool)

/-- `db.recursiveDelete(accounts/{a})`: the account document and its devices. -/
def recursiveDeleteAccount (r : SweepRun) (a : DocId) (s : Store) : Except Rejection Unit × Store :=
  match r with
  | .completes => (.ok (), (s.dropDevices a fun _ => true).dropAccount a)
  | .fails root deleted =>
    (.error .recursiveDelete,
      if root then (s.dropDevices a deleted).dropAccount a else s.dropDevices a deleted)

/-- `db.recursiveDelete(accounts/{a}/devices/{d})`: no collection is below a
device document. -/
def recursiveDeleteDevice (r : SweepRun) (a d : DocId) (s : Store) : Except Rejection Unit × Store :=
  match r with
  | .completes => (.ok (), s.dropDevice a d)
  | .fails root _ => (.error .recursiveDelete, if root then s.dropDevice a d else s)

/-! ### Committing one write after another -/

section Commit
variable {s : Store} {rest : List Write}

/-- The first write is applied and the others follow. -/
theorem commit_write {w : Write} {t : Store} (h : w.apply s = some t) :
    Transaction.commit Write.apply (w :: rest) s = Transaction.commit Write.apply rest t :=
  Transaction.commit_step h rest

theorem commit_updateAccount {a : DocId} {doc : AccountDoc} (p : AccountPatch)
    (h : s.account a = some doc) :
    Transaction.commit Write.apply (.updateAccount a p :: rest) s =
      Transaction.commit Write.apply rest (s.putAccount a (p.apply doc)) :=
  commit_write (by simp [Write.apply, h])

theorem commit_updateDevice {a d : DocId} {doc : DeviceDoc} (p : DevicePatch)
    (h : s.device a d = some doc) :
    Transaction.commit Write.apply (.updateDevice a d p :: rest) s =
      Transaction.commit Write.apply rest (s.putDevice a d (p.apply doc)) :=
  commit_write (by simp [Write.apply, h])

theorem commit_consumeToken {t : DocId} {doc : JoinTokenDoc} (now : Timestamp)
    (h : s.token t = some doc) :
    Transaction.commit Write.apply (.consumeToken t now :: rest) s =
      Transaction.commit Write.apply rest (s.putToken t {doc with consumedAt := some now}) :=
  commit_write (by simp [Write.apply, h])

end Commit
end MagicShare.Cloud
