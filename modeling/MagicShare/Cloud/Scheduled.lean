import MagicShare.Cloud.Firestore

/-! `scheduled.ts`: the two maintenance jobs.

Each job queries a snapshot and deletes what the query returned. The query and
the deletes are separate definitions: whoever interleaves them with other calls
decides what happens between them. -/
namespace MagicShare.Cloud

def inactiveAccountDays : Int := 90
def inactiveAccountMs : Int := inactiveAccountDays * 24 * 60 * 60 * 1000

structure CleanupResult where
  deleted : Nat

/-- `where('expiresAt', '<=', cutoff)`. -/
def expiredJoinTokens (now : Timestamp) (s : Store) : Finset DocId :=
  s.joinTokens.keys.filter fun t => (s.token t).any (·.expiresAt ≤ now)

/-- The batch: the tokens of the query, deleted whatever they hold now. -/
def deleteJoinTokens (tokens : Finset DocId) (s : Store) : Store :=
  s.dropTokens fun t _ => decide (t ∈ tokens)

def cleanupExpiredJoinTokensLogic (now : Timestamp) (s : Store) : CleanupResult × Store :=
  let tokens := expiredJoinTokens now s
  (⟨tokens.card⟩, deleteJoinTokens tokens s)

/-- `where('lastActiveAt', '<=', cutoff)` with the cutoff 90 days before `now`. -/
def isInactive (now : Timestamp) (doc : AccountDoc) : Bool :=
  decide (doc.lastActiveAt ≤ now - inactiveAccountMs)

/-- The field the query orders by. -/
def lastActive (s : Store) (a : DocId) : Timestamp := ((s.account a).map AccountDoc.lastActiveAt).getD 0

/-- The accounts of the query, in the order Firestore returns them: by
`lastActiveAt`, then by id. -/
def inactiveAccounts (now : Timestamp) (s : Store) : List DocId :=
  (inOrder (s.accounts.keys.filter fun a => (s.account a).any (isInactive now))).mergeSort
    fun a b => decide (lastActive s a ≤ lastActive s b)

/-- The query returns accounts that are inactive when it runs. -/
theorem inactive_of_mem {now : Timestamp} {s : Store} {a : DocId} (h : a ∈ inactiveAccounts now s) :
    ∃ doc, s.account a = some doc ∧ doc.lastActiveAt ≤ now - inactiveAccountMs := by
  simp only [inactiveAccounts, List.mem_mergeSort, mem_inOrder, Finset.mem_filter] at h
  obtain ⟨doc, hdoc, hinactive⟩ := (Option.any_eq_true _ _).mp h.2
  exact ⟨doc, hdoc, of_decide_eq_true hinactive⟩

/-- One `recursiveDelete` after the other; a failed one ends the job. -/
def deleteAccounts (r : DocId → SweepRun) : List DocId → Store → Except Rejection Unit × Store
  | [], s => (.ok (), s)
  | a :: rest, s =>
    match recursiveDeleteAccount (r a) a s with
    | (.error e, t) => (.error e, t)
    | (.ok (), t) => deleteAccounts r rest t

/-- The whole job, undisturbed. -/
def cleanupInactiveAccountsLogic (r : DocId → SweepRun) (now : Timestamp) (s : Store) :
    Except Rejection CleanupResult × Store :=
  let accounts := inactiveAccounts now s
  match deleteAccounts r accounts s with
  | (.error e, t) => (.error e, t)
  | (.ok (), t) => (.ok ⟨accounts.length⟩, t)

end MagicShare.Cloud
