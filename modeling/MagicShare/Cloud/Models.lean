import Mathlib.Data.String.Basic
import Mathlib.Order.Lattice
import MagicShare.Base.Documents

/-! The documents of the cloud-sync backend (`models.ts`).

Three collections: `accounts/{uid}`, `accounts/{uid}/devices/{deviceId}` and
`joinTokens/{tokenId}`. A document id is one path segment, so the three paths
never name the same document and a store is three independent collections. Times
are milliseconds: every timestamp the functions write is `Timestamp.now()` or
`Timestamp.fromMillis(..)`, and every comparison is of `toMillis()`. -/
namespace MagicShare.Cloud

/-- A document id: one segment of a path. -/
structure DocId where
  val : String
  nonempty : val ≠ ""
  slashFree : '/' ∉ val.toList

theorem DocId.val_injective : Function.Injective DocId.val := by
  rintro ⟨a, _, _⟩ ⟨b, _, _⟩ h
  cases h
  rfl

/-- Firestore orders documents by id. -/
instance : LinearOrder DocId := LinearOrder.lift' DocId.val DocId.val_injective

instance : LawfulBEq DocId := inferInstance

/-- Milliseconds since the epoch. -/
abbrev Timestamp := Int

inductive DeviceIcon where
  | laptop | desktop | phone | tablet | server | headless | other
  deriving DecidableEq

inductive DevicePlatform where
  | android | ios | macos | windows | linux
  deriving DecidableEq

/-- `accounts/{accountId}`. -/
structure AccountDoc where
  createdAt : Timestamp
  lastActiveAt : Timestamp
  deviceCount : Int
  deriving DecidableEq

/-- `accounts/{accountId}/devices/{deviceId}`. In `fcmToken` the `none` is
`null`; the outer `none` of the two optional fields is an absent field. -/
structure DeviceDoc where
  displayName : String
  icon : DeviceIcon
  fcmToken : Option String
  platform : DevicePlatform
  fingerprint : Option (Option String) := none
  recentSendsAt : Option (List Timestamp) := none
  deriving DecidableEq

/-- `joinTokens/{tokenId}`. -/
structure JoinTokenDoc where
  accountId : DocId
  createdAt : Timestamp
  expiresAt : Timestamp
  consumedAt : Option Timestamp
  issuingDeviceId : DocId
  deriving DecidableEq

/-- The whole database. -/
structure Store where
  accounts : Documents.Collection DocId AccountDoc
  devices : Documents.Collection (DocId × DocId) DeviceDoc
  joinTokens : Documents.Collection DocId JoinTokenDoc
  deriving DecidableEq

namespace Store
open Documents

def empty : Store := ⟨∅, ∅, ∅⟩

/-! ### Reading -/

def account (s : Store) (a : DocId) : Option AccountDoc := s.accounts.lookup a
def device (s : Store) (a d : DocId) : Option DeviceDoc := s.devices.lookup (a, d)
def token (s : Store) (t : DocId) : Option JoinTokenDoc := s.joinTokens.lookup t

/-- The path is under `accounts/{a}/devices`. -/
abbrev Under (a : DocId) (path : DocId × DocId) : Prop := path.1 = a

/-- How many documents are under `accounts/{a}/devices`. -/
def members (s : Store) (a : DocId) : Nat := Collection.count (Under a) s.devices

/-- Stores with the same documents are the same store. -/
theorem ext_lookup {s t : Store} (ha : ∀ a, s.account a = t.account a)
    (hd : ∀ a d, s.device a d = t.device a d) (ht : ∀ k, s.token k = t.token k) : s = t := by
  obtain ⟨_, _, _⟩ := s
  obtain ⟨_, _, _⟩ := t
  congr
  · exact Finmap.ext_lookup ha
  · exact Finmap.ext_lookup fun k => hd k.1 k.2
  · exact Finmap.ext_lookup ht

/-! ### Writing -/

def putAccount (s : Store) (a : DocId) (doc : AccountDoc) : Store :=
  {s with accounts := s.accounts.insert a doc}

def dropAccount (s : Store) (a : DocId) : Store :=
  {s with accounts := s.accounts.erase a}

def putDevice (s : Store) (a d : DocId) (doc : DeviceDoc) : Store :=
  {s with devices := s.devices.insert (a, d) doc}

def dropDevice (s : Store) (a d : DocId) : Store :=
  {s with devices := s.devices.erase (a, d)}

/-- Without the documents under `accounts/{a}/devices` whose id is in `p`. -/
def dropDevices (s : Store) (a : DocId) (p : DocId → Bool) : Store :=
  {s with devices := Collection.deleteAll s.devices fun path => Under a path ∧ p path.2 = true}

def putToken (s : Store) (t : DocId) (doc : JoinTokenDoc) : Store :=
  {s with joinTokens := s.joinTokens.insert t doc}

def dropToken (s : Store) (t : DocId) : Store :=
  {s with joinTokens := s.joinTokens.erase t}

/-- Without the tokens in `p`. -/
def dropTokens (s : Store) (p : DocId → JoinTokenDoc → Bool) : Store :=
  {s with joinTokens := Collection.deleteAll s.joinTokens fun t =>
    (s.joinTokens.lookup t).any (p t) = true}

section Reads
variable (s : Store) (a a' d d' k k' : DocId)

@[simp] theorem account_putAccount (v : AccountDoc) :
    (s.putAccount a v).account a' = if a' = a then some v else s.account a' :=
  Collection.lookup_insert_eq _ _ _ _

@[simp] theorem account_dropAccount :
    (s.dropAccount a).account a' = if a' = a then none else s.account a' :=
  Collection.lookup_erase_eq _ _ _

@[simp] theorem account_putDevice (v : DeviceDoc) : (s.putDevice a d v).account a' = s.account a' := rfl
@[simp] theorem account_dropDevice : (s.dropDevice a d).account a' = s.account a' := rfl
@[simp] theorem account_dropDevices (p : DocId → Bool) :
    (s.dropDevices a p).account a' = s.account a' := rfl
@[simp] theorem account_putToken (v : JoinTokenDoc) : (s.putToken k v).account a' = s.account a' := rfl
@[simp] theorem account_dropToken : (s.dropToken k).account a' = s.account a' := rfl
@[simp] theorem account_dropTokens (p : DocId → JoinTokenDoc → Bool) :
    (s.dropTokens p).account a' = s.account a' := rfl

@[simp] theorem device_putDevice (v : DeviceDoc) :
    (s.putDevice a d v).device a' d' = if a' = a ∧ d' = d then some v else s.device a' d' := by
  simp only [device, putDevice, Collection.lookup_insert_eq, Prod.mk.injEq]

@[simp] theorem device_dropDevice :
    (s.dropDevice a d).device a' d' = if a' = a ∧ d' = d then none else s.device a' d' := by
  simp only [device, dropDevice, Collection.lookup_erase_eq, Prod.mk.injEq]

@[simp] theorem device_dropDevices (p : DocId → Bool) :
    (s.dropDevices a p).device a' d' = if a' = a ∧ p d' = true then none else s.device a' d' :=
  Collection.lookup_deleteAll _ _ _

@[simp] theorem device_putAccount (v : AccountDoc) :
    (s.putAccount a v).device a' d' = s.device a' d' := rfl
@[simp] theorem device_dropAccount : (s.dropAccount a).device a' d' = s.device a' d' := rfl
@[simp] theorem device_putToken (v : JoinTokenDoc) :
    (s.putToken k v).device a' d' = s.device a' d' := rfl
@[simp] theorem device_dropToken : (s.dropToken k).device a' d' = s.device a' d' := rfl
@[simp] theorem device_dropTokens (p : DocId → JoinTokenDoc → Bool) :
    (s.dropTokens p).device a' d' = s.device a' d' := rfl

@[simp] theorem token_putToken (v : JoinTokenDoc) :
    (s.putToken k v).token k' = if k' = k then some v else s.token k' :=
  Collection.lookup_insert_eq _ _ _ _

@[simp] theorem token_dropToken :
    (s.dropToken k).token k' = if k' = k then none else s.token k' :=
  Collection.lookup_erase_eq _ _ _

@[simp] theorem token_dropTokens (p : DocId → JoinTokenDoc → Bool) :
    (s.dropTokens p).token k = if (s.token k).any (p k) = true then none else s.token k :=
  Collection.lookup_deleteAll _ _ _

@[simp] theorem token_putAccount (v : AccountDoc) : (s.putAccount a v).token k = s.token k := rfl
@[simp] theorem token_dropAccount : (s.dropAccount a).token k = s.token k := rfl
@[simp] theorem token_putDevice (v : DeviceDoc) : (s.putDevice a d v).token k = s.token k := rfl
@[simp] theorem token_dropDevice : (s.dropDevice a d).token k = s.token k := rfl
@[simp] theorem token_dropDevices (p : DocId → Bool) : (s.dropDevices a p).token k = s.token k := rfl

@[simp] theorem account_empty : empty.account a = none := rfl
@[simp] theorem device_empty : empty.device a d = none := rfl
@[simp] theorem token_empty : empty.token k = none := rfl

end Reads

/-! ### Counting members -/

section Members
variable (s : Store) (a a' d k : DocId)

@[simp] theorem members_empty : empty.members a = 0 := Collection.count_empty _
@[simp] theorem members_putAccount (v : AccountDoc) : (s.putAccount a v).members a' = s.members a' := rfl
@[simp] theorem members_dropAccount : (s.dropAccount a).members a' = s.members a' := rfl
@[simp] theorem members_putToken (v : JoinTokenDoc) : (s.putToken k v).members a' = s.members a' := rfl
@[simp] theorem members_dropTokens (p : DocId → JoinTokenDoc → Bool) :
    (s.dropTokens p).members a' = s.members a' := rfl

/-- No members: no device document under the account. -/
theorem members_eq_zero : s.members a = 0 ↔ ∀ d, s.device a d = none := by
  rw [members, Collection.count_eq_zero]
  constructor
  · exact fun h d => h (a, d) rfl
  · rintro h ⟨b, d⟩ rfl
    exact h d

/-- A new document is one more member. -/
theorem members_putDevice_new {s : Store} {a d : DocId} (v : DeviceDoc) (h : s.device a d = none) :
    (s.putDevice a d v).members a = s.members a + 1 :=
  Collection.count_insert_new (Under a) v (rfl : Under a (a, d)) h

/-- A rewritten document is no new member. -/
theorem members_putDevice_old {s : Store} {a d : DocId} (v : DeviceDoc) (h : (s.device a d).isSome) :
    (s.putDevice a d v).members a' = s.members a' :=
  Collection.count_insert_old (Under a') v h

theorem members_putDevice_ne (v : DeviceDoc) (h : a' ≠ a) :
    (s.putDevice a d v).members a' = s.members a' :=
  Collection.count_insert_outside (Under a') _ v (Ne.symm h)

/-- A deleted document is one member less. -/
theorem members_dropDevice {s : Store} {a d : DocId} (h : (s.device a d).isSome) :
    (s.dropDevice a d).members a + 1 = s.members a :=
  Collection.count_erase (Under a) (rfl : Under a (a, d)) h

theorem members_dropDevice_ne (h : a' ≠ a) : (s.dropDevice a d).members a' = s.members a' :=
  Collection.count_erase_outside (Under a') _ (Ne.symm h)

/-- The members of an account depend on its device documents only. -/
theorem members_congr {s t : Store} {a : DocId} (h : ∀ d, s.device a d = t.device a d) :
    s.members a = t.members a := by
  apply Collection.count_congr
  rintro ⟨b, d⟩ rfl
  exact h d

end Members
end Store
end MagicShare.Cloud
