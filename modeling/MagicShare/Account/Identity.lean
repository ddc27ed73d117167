import Mathlib.Data.List.Basic
import MagicShare.Base.Records
import MagicShare.Base.Transition

/-! The device id of an installation (`device_identity_service.dart`), and the adoption
pass of the bootstrap that may write it.

`ensureDeviceId` has one resolution at a time. The adoption pass looks whether there is an
id before it asks the cloud for one, and writes what it is told without looking again. As
long as the cloud answers before there is another id, and nobody makes one while the
answer is written, everybody has the same id (`one_device_id`). -/
namespace MagicShare.Account

/-! ### State -/

/-- How far a `_resolveDeviceId` is. -/
inductive ResolutionPhase (α : Type) where
  /-- A fresh id is being written; `landed` once it is in the slot. -/
  | writing (deviceId : α) (landed : Bool)
  | completed (deviceId : α)
  | failed
  deriving DecidableEq

/-- How far an adoption pass is. -/
inductive AdoptionPhase (α : Type) where
  | lookingUp
  | writing (deviceId : α) (landed : Bool)
  | adopted (deviceId : α)
  | finished
  deriving DecidableEq

/-- A call of `ensureDeviceId`. -/
inductive IdCall (α : Type) where
  | waiting (resolution : Nat)
  | returned (deviceId : α)
  | threw
  deriving DecidableEq

structure DeviceIdentity (α : Type) where
  /-- The slot; an empty string in it is none. -/
  stored : Option α
  cached : Option α := none
  /-- The resolution whose future `_inFlight` is. -/
  inFlight : Option Nat := none
  resolutions : List (ResolutionPhase α) := []
  calls : List (IdCall α) := []
  adoptions : List (AdoptionPhase α) := []
  deriving DecidableEq

inductive IdentityEvent (α : Type) where
  /-- `fresh` is what `_generateDeviceId` gives. -/
  | ensureDeviceId (fresh : α)
  /-- The slot has the fresh id. -/
  | landed (resolution : Nat)
  /-- The write completes, or fails. -/
  | written (resolution : Nat)
  | writeFails (resolution : Nat)
  /-- The `whenComplete` of the resolution. -/
  | cleared (resolution : Nat)
  | answered (call : Nat)
  /-- The adoption pass has seen no id. -/
  | lookUp
  /-- The cloud answers, with an id or without. -/
  | found (adoption : Nat) (existing : Option α)
  | adoptionLanded (adoption : Nat)
  | adopted (adoption : Nat)
  | adoptionFails (adoption : Nat)

namespace DeviceIdentity
variable {α : Type}

/-! ### Steps -/

def peekDeviceId (s : DeviceIdentity α) : Option α := s.cached <|> s.stored

/-- `ensureDeviceId`, with `_resolveDeviceId` up to its await. -/
def ensureDeviceId (s : DeviceIdentity α) (fresh : α) : DeviceIdentity α :=
  match s.cached, s.inFlight with
  | some deviceId, _ => {s with calls := s.calls ++ [.returned deviceId]}
  | none, some resolution => {s with calls := s.calls ++ [.waiting resolution]}
  | none, none =>
    let resolution := s.resolutions.length
    let s : DeviceIdentity α := {s with inFlight := some resolution, calls := s.calls ++ [.waiting resolution]}
    match s.stored with
    | some deviceId => {s with cached := some deviceId, resolutions := s.resolutions ++ [.completed deviceId]}
    | none => {s with resolutions := s.resolutions ++ [.writing fresh false]}

def step (s : DeviceIdentity α) : IdentityEvent α → Option (DeviceIdentity α)
  | .ensureDeviceId fresh => some (s.ensureDeviceId fresh)
  | .landed r =>
    match s.resolutions[r]? with
    | some (.writing deviceId false) =>
      some {s with stored := some deviceId, resolutions := s.resolutions.set r (.writing deviceId true)}
    | _ => none
  | .written r =>
    match s.resolutions[r]? with
    | some (.writing deviceId true) =>
      some {s with cached := some deviceId, resolutions := s.resolutions.set r (.completed deviceId)}
    | _ => none
  | .writeFails r =>
    match s.resolutions[r]? with
    | some (.writing _ _) => some {s with resolutions := s.resolutions.set r .failed}
    | _ => none
  | .cleared r =>
    if s.inFlight = some r then
      match s.resolutions[r]? with
      | some (.completed _) | some .failed => some {s with inFlight := none}
      | _ => none
    else none
  | .answered c =>
    match s.calls[c]? with
    | some (.waiting r) =>
      match s.resolutions[r]? with
      | some (.completed deviceId) => some {s with calls := s.calls.set c (.returned deviceId)}
      | some .failed => some {s with calls := s.calls.set c .threw}
      | _ => none
    | _ => none
  | .lookUp => if s.peekDeviceId = none then some {s with adoptions := s.adoptions ++ [.lookingUp]} else none
  | .found a existing =>
    match s.adoptions[a]? with
    | some .lookingUp =>
      match existing with
      | some deviceId => some {s with adoptions := s.adoptions.set a (.writing deviceId false)}
      | none => some {s with adoptions := s.adoptions.set a .finished}
    | _ => none
  | .adoptionLanded a =>
    match s.adoptions[a]? with
    | some (.writing deviceId false) =>
      some {s with stored := some deviceId, adoptions := s.adoptions.set a (.writing deviceId true)}
    | _ => none
  | .adopted a =>
    match s.adoptions[a]? with
    | some (.writing deviceId true) =>
      some {s with cached := some deviceId, adoptions := s.adoptions.set a (.adopted deviceId)}
    | _ => none
  | .adoptionFails a =>
    match s.adoptions[a]? with
    | some .lookingUp | some (.writing _ _) => some {s with adoptions := s.adoptions.set a .finished}
    | _ => none

end DeviceIdentity

/-- An installation, from a start with this slot. -/
def deviceIdentity (α : Type) (stored : Option α) : Transition.System (DeviceIdentity α) (IdentityEvent α) where
  init := {stored}
  step := DeviceIdentity.step

/-! ### The property and its condition -/

def ResolutionPhase.deviceId {α : Type} : ResolutionPhase α → Option α
  | .writing deviceId _ | .completed deviceId => some deviceId
  | .failed => none

def AdoptionPhase.deviceId {α : Type} : AdoptionPhase α → Option α
  | .writing deviceId _ | .adopted deviceId => some deviceId
  | .lookingUp | .finished => none

def AdoptionPhase.isWriting {α : Type} : AdoptionPhase α → Bool
  | .writing _ _ => true
  | _ => false

def IdCall.deviceId {α : Type} : IdCall α → Option α
  | .returned deviceId => some deviceId
  | .waiting _ | .threw => none

namespace DeviceIdentity
variable {α : Type} {s t : DeviceIdentity α} {e : IdentityEvent α} {deviceId : α}

/-- The ids that are in the slot or in memory, that callers and adoptions have, and that
are being written. -/
def ids (s : DeviceIdentity α) : List α :=
  s.stored.toList ++ s.cached.toList ++ s.calls.filterMap IdCall.deviceId ++
    s.resolutions.filterMap ResolutionPhase.deviceId ++ s.adoptions.filterMap AdoptionPhase.deviceId

/-- `ensureDeviceId` makes an id. -/
def Mints (s : DeviceIdentity α) : Prop := s.cached = none ∧ s.inFlight = none ∧ s.stored = none

instance (s : DeviceIdentity α) : Decidable s.Mints :=
  decidable_of_iff (s.cached.isNone ∧ s.inFlight.isNone ∧ s.stored.isNone) (by simp [Mints])

/-- The id has been given out: a call has returned it, or an adoption is through with it. -/
def Given (s : DeviceIdentity α) (deviceId : α) : Prop :=
  .returned deviceId ∈ s.calls ∨ .adopted deviceId ∈ s.adoptions

/-- Everybody who has an id has the same, and it is in memory and in the slot. -/
structure OneDeviceId (s : DeviceIdentity α) : Prop where
  given : ∀ a, s.Given a → s.cached = some a ∧ s.stored = some a
  cached : ∀ a, s.cached = some a → s.stored = some a

/-- The cloud answers an adoption pass with an id only while there is no other, and
`ensureDeviceId` makes none while the id of an adoption is being written. -/
def AdoptsInTime (s : DeviceIdentity α) : IdentityEvent α → Prop
  | .found _ (some existing) => ∀ other ∈ s.ids, other = existing
  | .ensureDeviceId _ => s.Mints → ∀ phase ∈ s.adoptions, phase.isWriting = false
  | _ => True

instance [DecidableEq α] (s : DeviceIdentity α) : (e : IdentityEvent α) → Decidable (s.AdoptsInTime e)
  | .found _ (some existing) => inferInstanceAs (Decidable (∀ other ∈ s.ids, other = existing))
  | .ensureDeviceId _ => inferInstanceAs (Decidable (s.Mints → ∀ phase ∈ s.adoptions, phase.isWriting = false))
  | .found _ none | .landed _ | .written _ | .writeFails _ | .cleared _ | .answered _ | .lookUp | .adoptionLanded _
  | .adopted _ | .adoptionFails _ => .isTrue trivial

/-! ### What a step does -/

/-- One step, with everything it can do. -/
inductive Moves (s : DeviceIdentity α) : IdentityEvent α → DeviceIdentity α → Prop
  | ensures (fresh : α) : Moves s (.ensureDeviceId fresh) (s.ensureDeviceId fresh)
  | landed {r : Nat} {id : α} (hget : s.resolutions[r]? = some (.writing id false)) :
      Moves s (.landed r) {s with stored := some id, resolutions := s.resolutions.set r (.writing id true)}
  | written {r : Nat} {id : α} (hget : s.resolutions[r]? = some (.writing id true)) :
      Moves s (.written r) {s with cached := some id, resolutions := s.resolutions.set r (.completed id)}
  | writeFails {r : Nat} {id : α} {landed : Bool} (hget : s.resolutions[r]? = some (.writing id landed)) :
      Moves s (.writeFails r) {s with resolutions := s.resolutions.set r .failed}
  | cleared {r : Nat} {phase : ResolutionPhase α} (hflying : s.inFlight = some r) (hget : s.resolutions[r]? = some phase)
      (hover : ∀ id landed, phase ≠ .writing id landed) : Moves s (.cleared r) {s with inFlight := none}
  | returns {c r : Nat} {id : α} (hget : s.resolutions[r]? = some (.completed id)) :
      Moves s (.answered c) {s with calls := s.calls.set c (.returned id)}
  | throws (c : Nat) : Moves s (.answered c) {s with calls := s.calls.set c .threw}
  | looksUp : Moves s .lookUp {s with adoptions := s.adoptions ++ [.lookingUp]}
  | found {a : Nat} (hget : s.adoptions[a]? = some .lookingUp) (existing : α) :
      Moves s (.found a (some existing)) {s with adoptions := s.adoptions.set a (.writing existing false)}
  | adoptionLanded {a : Nat} {id : α} (hget : s.adoptions[a]? = some (.writing id false)) :
      Moves s (.adoptionLanded a) {s with stored := some id, adoptions := s.adoptions.set a (.writing id true)}
  | adopted {a : Nat} {id : α} (hget : s.adoptions[a]? = some (.writing id true)) :
      Moves s (.adopted a) {s with cached := some id, adoptions := s.adoptions.set a (.adopted id)}
  /-- There is no id in the cloud, or the adoption throws. -/
  | finishes {e : IdentityEvent α} {a : Nat} {phase : AdoptionPhase α}
      (he : e = .found a none ∨ e = .adoptionFails a) (hget : s.adoptions[a]? = some phase) :
      Moves s e {s with adoptions := s.adoptions.set a .finished}

theorem moves_of_step (h : s.step e = some t) : Moves s e t := by
  cases e with
  | ensureDeviceId fresh =>
    obtain rfl := Option.some.inj h
    exact .ensures fresh
  | landed r =>
    simp only [step] at h
    split at h
    · next hget =>
      obtain rfl := Option.some.inj h
      exact .landed hget
    · cases h
  | written r =>
    simp only [step] at h
    split at h
    · next hget =>
      obtain rfl := Option.some.inj h
      exact .written hget
    · cases h
  | writeFails r =>
    simp only [step] at h
    split at h
    · next hget =>
      obtain rfl := Option.some.inj h
      exact .writeFails hget
    · cases h
  | cleared r =>
    simp only [step] at h
    split_ifs at h with hflying
    split at h
    · next hget =>
      obtain rfl := Option.some.inj h
      exact .cleared hflying hget fun _ _ hphase => by cases hphase
    · next hget =>
      obtain rfl := Option.some.inj h
      exact .cleared hflying hget fun _ _ hphase => by cases hphase
    · cases h
  | answered c =>
    simp only [step] at h
    split at h
    · split at h
      · next hget =>
        obtain rfl := Option.some.inj h
        exact .returns hget
      · obtain rfl := Option.some.inj h
        exact .throws c
      · cases h
    · cases h
  | lookUp =>
    simp only [step] at h
    split_ifs at h
    obtain rfl := Option.some.inj h
    exact .looksUp
  | found a existing =>
    simp only [step] at h
    split at h
    · next hget =>
      split at h
      · obtain rfl := Option.some.inj h
        exact .found hget _
      · obtain rfl := Option.some.inj h
        exact .finishes (.inl rfl) hget
    · cases h
  | adoptionLanded a =>
    simp only [step] at h
    split at h
    · next hget =>
      obtain rfl := Option.some.inj h
      exact .adoptionLanded hget
    · cases h
  | adopted a =>
    simp only [step] at h
    split at h
    · next hget =>
      obtain rfl := Option.some.inj h
      exact .adopted hget
    · cases h
  | adoptionFails a =>
    simp only [step] at h
    split at h
    · next hget =>
      obtain rfl := Option.some.inj h
      exact .finishes (.inr rfl) hget
    · next hget =>
      obtain rfl := Option.some.inj h
      exact .finishes (.inr rfl) hget
    · cases h

/-! ### Where ids come from -/

theorem mem_ids {s : DeviceIdentity α} : deviceId ∈ s.ids ↔ s.stored = some deviceId ∨ s.cached = some deviceId ∨
    .returned deviceId ∈ s.calls ∨ (∃ phase ∈ s.resolutions, phase.deviceId = some deviceId) ∨
      ∃ phase ∈ s.adoptions, phase.deviceId = some deviceId := by
  have hcalls : (∃ call ∈ s.calls, call.deviceId = some deviceId) ↔ .returned deviceId ∈ s.calls := by
    constructor
    · rintro ⟨call, hmem, hid⟩
      cases call with
      | returned other => exact Option.some.inj hid ▸ hmem
      | waiting | threw => cases hid
    · exact fun hmem => ⟨_, hmem, rfl⟩
  simp only [ids, List.mem_append, Option.mem_toList, List.mem_filterMap, hcalls, or_assoc]

theorem deviceId_of_set {β : Type} {phases : List β} {i : Nat} {phase : β} {f : β → Option α}
    (h : ∃ other ∈ phases.set i phase, f other = some deviceId) :
    f phase = some deviceId ∨ ∃ other ∈ phases, f other = some deviceId := by
  obtain ⟨other, hmem, hid⟩ := h
  rcases List.mem_or_eq_of_mem_set hmem with hold | rfl
  · exact .inr ⟨other, hold, hid⟩
  · exact .inl hid

/-- A resolution goes on with its id. -/
theorem ids_of_resolution {r : Nat} {before after : ResolutionPhase α} (h : deviceId ∈ t.ids) (hget : s.resolutions[r]? = some before)
    (hstored : t.stored = s.stored ∨ t.stored = before.deviceId) (hcached : t.cached = s.cached ∨ t.cached = before.deviceId)
    (hcalls : t.calls = s.calls) (hresolutions : t.resolutions = s.resolutions.set r after)
    (hadoptions : t.adoptions = s.adoptions) (hafter : ∀ id, after.deviceId = some id → before.deviceId = some id) :
    deviceId ∈ s.ids := by
  have hown : before.deviceId = some deviceId → deviceId ∈ s.ids := fun hid =>
    mem_ids.mpr (.inr (.inr (.inr (.inl ⟨before, List.mem_of_getElem? hget, hid⟩))))
  rcases mem_ids.mp h with hid | hid | hcall | hphase | hphase
  · rcases hstored with hsame | hnew
    · exact mem_ids.mpr (.inl (hsame.symm.trans hid))
    · exact hown (hnew.symm.trans hid)
  · rcases hcached with hsame | hnew
    · exact mem_ids.mpr (.inr (.inl (hsame.symm.trans hid)))
    · exact hown (hnew.symm.trans hid)
  · exact mem_ids.mpr (.inr (.inr (.inl (hcalls ▸ hcall))))
  · rw [hresolutions] at hphase
    rcases deviceId_of_set hphase with hid | hold
    · exact hown (hafter deviceId hid)
    · exact mem_ids.mpr (.inr (.inr (.inr (.inl hold))))
  · exact mem_ids.mpr (.inr (.inr (.inr (.inr (hadoptions ▸ hphase)))))

/-- An adoption goes on with its id, or with the one it is given. -/
theorem ids_of_adoption {a : Nat} {before after : AdoptionPhase α} (h : deviceId ∈ t.ids) (hget : s.adoptions[a]? = some before)
    (hstored : t.stored = s.stored ∨ t.stored = before.deviceId) (hcached : t.cached = s.cached ∨ t.cached = before.deviceId)
    (hcalls : t.calls = s.calls) (hresolutions : t.resolutions = s.resolutions)
    (hadoptions : t.adoptions = s.adoptions.set a after) :
    deviceId ∈ s.ids ∨ after.deviceId = some deviceId := by
  have hown : before.deviceId = some deviceId → deviceId ∈ s.ids := fun hid =>
    mem_ids.mpr (.inr (.inr (.inr (.inr ⟨before, List.mem_of_getElem? hget, hid⟩))))
  rcases mem_ids.mp h with hid | hid | hcall | hphase | hphase
  · rcases hstored with hsame | hnew
    · exact .inl (mem_ids.mpr (.inl (hsame.symm.trans hid)))
    · exact .inl (hown (hnew.symm.trans hid))
  · rcases hcached with hsame | hnew
    · exact .inl (mem_ids.mpr (.inr (.inl (hsame.symm.trans hid))))
    · exact .inl (hown (hnew.symm.trans hid))
  · exact .inl (mem_ids.mpr (.inr (.inr (.inl (hcalls ▸ hcall)))))
  · exact .inl (mem_ids.mpr (.inr (.inr (.inr (.inl (hresolutions ▸ hphase))))))
  · rw [hadoptions] at hphase
    rcases deviceId_of_set hphase with hid | hold
    · exact .inr hid
    · exact .inl (mem_ids.mpr (.inr (.inr (.inr (.inr hold)))))

theorem ids_ensureDeviceId {fresh : α} (h : deviceId ∈ (s.ensureDeviceId fresh).ids) :
    deviceId ∈ s.ids ∨ deviceId = fresh ∧ s.Mints := by
  rw [mem_ids] at h
  rw [mem_ids]
  cases hcached : s.cached with
  | some cached =>
    simp only [ensureDeviceId, hcached, List.mem_append, List.mem_singleton, IdCall.returned.injEq] at h
    rcases h with h | h | (h | rfl) | h
    · exact .inl (.inl h)
    · exact .inl (.inr (.inl h))
    · exact .inl (.inr (.inr (.inl h)))
    · exact .inl (.inr (.inl rfl))
    · exact .inl (.inr (.inr (.inr h)))
  | none =>
    cases hflying : s.inFlight with
    | some resolution =>
      simp only [ensureDeviceId, hcached, hflying, List.mem_append, List.mem_singleton, reduceCtorEq, or_false] at h
      exact .inl (by simpa using h)
    | none =>
      cases hstored : s.stored with
      | some stored =>
        simp only [ensureDeviceId, hcached, hflying, hstored, List.mem_append, List.mem_singleton, reduceCtorEq, or_false,
          Option.some.injEq] at h
        rcases h with h | h | h | ⟨phase, hold | rfl, hid⟩ | h
        · exact .inl (.inl (congrArg some h))
        · exact .inl (.inl (congrArg some h))
        · exact .inl (.inr (.inr (.inl h)))
        · exact .inl (.inr (.inr (.inr (.inl ⟨phase, hold, hid⟩))))
        · exact .inl (.inl hid)
        · exact .inl (.inr (.inr (.inr (.inr h))))
      | none =>
        simp only [ensureDeviceId, hcached, hflying, hstored, List.mem_append, List.mem_singleton, reduceCtorEq, or_false,
          false_or] at h
        rcases h with h | ⟨phase, hold | rfl, hid⟩ | h
        · exact .inl (.inr (.inr (.inl h)))
        · exact .inl (.inr (.inr (.inr (.inl ⟨phase, hold, hid⟩))))
        · exact .inr ⟨(Option.some.inj hid).symm, hcached, hflying, hstored⟩
        · exact .inl (.inr (.inr (.inr (.inr h))))

/-- A call is answered with an id that is there, or without. -/
theorem ids_of_call {c : Nat} {call : IdCall α} (h : deviceId ∈ ids {s with calls := s.calls.set c call})
    (hcall : call = .returned deviceId → deviceId ∈ s.ids) : deviceId ∈ s.ids := by
  rcases mem_ids.mp h with hid | hid | hmem | hrest
  · exact mem_ids.mpr (.inl hid)
  · exact mem_ids.mpr (.inr (.inl hid))
  · rcases List.mem_or_eq_of_mem_set hmem with hold | hnew
    · exact mem_ids.mpr (.inr (.inr (.inl hold)))
    · exact hcall hnew.symm
  · exact mem_ids.mpr (.inr (.inr (.inr hrest)))

/-- An id that is there was there before, was made now, or is what the cloud answers. -/
theorem ids_step (hst : s.step e = some t) (h : deviceId ∈ t.ids) :
    deviceId ∈ s.ids ∨ (e = .ensureDeviceId deviceId ∧ s.Mints) ∨ ∃ a, e = .found a (some deviceId) := by
  cases moves_of_step hst with
  | ensures fresh =>
    rcases ids_ensureDeviceId h with hold | ⟨rfl, hmints⟩
    · exact .inl hold
    · exact .inr (.inl ⟨rfl, hmints⟩)
  | landed hget => exact .inl (ids_of_resolution h hget (.inr rfl) (.inl rfl) rfl rfl rfl (fun _ hid => hid))
  | written hget => exact .inl (ids_of_resolution h hget (.inl rfl) (.inr rfl) rfl rfl rfl (fun _ hid => hid))
  | writeFails hget =>
    exact .inl (ids_of_resolution h hget (.inl rfl) (.inl rfl) rfl rfl rfl (fun _ hid => (Option.some_ne_none _ hid.symm).elim))
  | cleared => exact .inl h
  | returns hget =>
    refine .inl (ids_of_call h fun hcall => ?_)
    obtain rfl := IdCall.returned.inj hcall
    exact mem_ids.mpr (.inr (.inr (.inr (.inl ⟨_, List.mem_of_getElem? hget, rfl⟩))))
  | throws => exact .inl (ids_of_call h fun hcall => by cases hcall)
  | looksUp =>
    rcases mem_ids.mp h with hid | hid | hmem | hphase | ⟨phase, hmem, hid⟩
    · exact .inl (mem_ids.mpr (.inl hid))
    · exact .inl (mem_ids.mpr (.inr (.inl hid)))
    · exact .inl (mem_ids.mpr (.inr (.inr (.inl hmem))))
    · exact .inl (mem_ids.mpr (.inr (.inr (.inr (.inl hphase)))))
    · rcases List.mem_append.mp hmem with hold | hnew
      · exact .inl (mem_ids.mpr (.inr (.inr (.inr (.inr ⟨phase, hold, hid⟩)))))
      · obtain rfl := List.mem_singleton.mp hnew
        cases hid
  | @found a hget existing =>
    rcases ids_of_adoption h hget (.inl rfl) (.inl rfl) rfl rfl rfl with hold | hnew
    · exact .inl hold
    · obtain rfl := Option.some.inj hnew
      exact .inr (.inr ⟨a, rfl⟩)
  | adoptionLanded hget =>
    rcases ids_of_adoption h hget (.inr rfl) (.inl rfl) rfl rfl rfl with hold | hnew
    · exact .inl hold
    · exact .inl (mem_ids.mpr (.inr (.inr (.inr (.inr ⟨_, List.mem_of_getElem? hget, hnew⟩)))))
  | adopted hget =>
    rcases ids_of_adoption h hget (.inl rfl) (.inr rfl) rfl rfl rfl with hold | hnew
    · exact .inl hold
    · exact .inl (mem_ids.mpr (.inr (.inr (.inr (.inr ⟨_, List.mem_of_getElem? hget, hnew⟩)))))
  | finishes he hget =>
    rcases ids_of_adoption h hget (.inl rfl) (.inl rfl) rfl rfl rfl with hold | hnew
    · exact .inl hold
    · cases hnew

/-! ### The invariant -/

/-- What is known of the resolutions and adoptions, whatever their ids are. -/
structure Traced (s : DeviceIdentity α) : Prop where
  /-- One that writes is the one in flight. -/
  flying : ∀ r deviceId landed, s.resolutions[r]? = some (.writing deviceId landed) → s.inFlight = some r
  returned : ∀ deviceId, .returned deviceId ∈ s.calls → s.cached.isSome
  completed : ∀ deviceId, .completed deviceId ∈ s.resolutions → s.cached.isSome
  adopted : ∀ deviceId, .adopted deviceId ∈ s.adoptions → s.cached.isSome
  stored : s.cached.isSome → s.stored.isSome
  landed : ∀ deviceId, .writing deviceId true ∈ s.resolutions ∨ .writing deviceId true ∈ s.adoptions → s.stored.isSome

/-- A resolution goes on. -/
theorem Traced.resolution (h : s.Traced) {r : Nat} {before after : ResolutionPhase α} (hget : s.resolutions[r]? = some before)
    (hresolutions : t.resolutions = s.resolutions.set r after) (hflying : t.inFlight = s.inFlight)
    (hcalls : t.calls = s.calls) (hadoptions : t.adoptions = s.adoptions) (hcached : s.cached.isSome → t.cached.isSome)
    (hstored : s.stored.isSome → t.stored.isSome) (hwriting : ∀ id landed, after = .writing id landed → s.inFlight = some r)
    (hcompleted : ∀ id, after = .completed id → t.cached.isSome) (hlanded : ∀ id, after = .writing id true → t.stored.isSome)
    (hnow : t.cached.isSome → s.cached.isSome ∨ t.stored.isSome) : t.Traced := by
  refine ⟨fun i id landed hi => ?_, fun id hmem => ?_, fun id hmem => ?_, fun id hmem => ?_, fun hsome => ?_, fun id hmem => ?_⟩
  · rw [hresolutions] at hi
    rw [hflying]
    by_cases hri : r = i
    · subst hri
      rw [Records.set_self hget] at hi
      exact hwriting id landed (Option.some.inj hi)
    · rw [List.getElem?_set_ne hri] at hi
      exact h.flying i id landed hi
  · exact hcached (h.returned id (hcalls ▸ hmem))
  · rw [hresolutions] at hmem
    rcases List.mem_or_eq_of_mem_set hmem with hold | hnew
    · exact hcached (h.completed id hold)
    · exact hcompleted id hnew.symm
  · exact hcached (h.adopted id (hadoptions ▸ hmem))
  · rcases hnow hsome with hold | hnew
    · exact hstored (h.stored hold)
    · exact hnew
  · rw [hresolutions, hadoptions] at hmem
    rcases hmem with hmem | hmem
    · rcases List.mem_or_eq_of_mem_set hmem with hold | hnew
      · exact hstored (h.landed id (.inl hold))
      · exact hlanded id hnew.symm
    · exact hstored (h.landed id (.inr hmem))

/-- An adoption goes on. -/
theorem Traced.adoption (h : s.Traced) {a : Nat} {after : AdoptionPhase α}
    (hadoptions : t.adoptions = s.adoptions.set a after) (hflying : t.inFlight = s.inFlight)
    (hcalls : t.calls = s.calls) (hresolutions : t.resolutions = s.resolutions)
    (hcached : s.cached.isSome → t.cached.isSome) (hstored : s.stored.isSome → t.stored.isSome)
    (hadopted : ∀ id, after = .adopted id → t.cached.isSome) (hlanded : ∀ id, after = .writing id true → t.stored.isSome)
    (hnow : t.cached.isSome → s.cached.isSome ∨ t.stored.isSome) : t.Traced := by
  refine ⟨?_, fun id hmem => ?_, fun id hmem => ?_, fun id hmem => ?_, fun hsome => ?_, fun id hmem => ?_⟩
  · rw [hresolutions, hflying]
    exact h.flying
  · exact hcached (h.returned id (hcalls ▸ hmem))
  · exact hcached (h.completed id (hresolutions ▸ hmem))
  · rw [hadoptions] at hmem
    rcases List.mem_or_eq_of_mem_set hmem with hold | hnew
    · exact hcached (h.adopted id hold)
    · exact hadopted id hnew.symm
  · rcases hnow hsome with hold | hnew
    · exact hstored (h.stored hold)
    · exact hnew
  · rw [hresolutions, hadoptions] at hmem
    rcases hmem with hmem | hmem
    · exact hstored (h.landed id (.inl hmem))
    · rcases List.mem_or_eq_of_mem_set hmem with hold | hnew
      · exact hstored (h.landed id (.inr hold))
      · exact hlanded id hnew.symm

/-- A call that only notes who waits, or who has the id. -/
theorem Traced.call (h : s.Traced) (hresolutions : t.resolutions = s.resolutions) (hflying : t.inFlight = s.inFlight)
    (hcached : t.cached = s.cached) (hstored : t.stored = s.stored) (hadoptions : t.adoptions = s.adoptions)
    (hreturned : ∀ deviceId, .returned deviceId ∈ t.calls → s.cached.isSome) : t.Traced := by
  obtain ⟨hfly, -, hcompleted, hadopted, hkept, hlanded⟩ := h
  refine ⟨?_, ?_, ?_, ?_, ?_, ?_⟩
  · rwa [hresolutions, hflying]
  · rwa [hcached]
  · rwa [hresolutions, hcached]
  · rwa [hadoptions, hcached]
  · rwa [hcached, hstored]
  · rwa [hresolutions, hadoptions, hstored]

theorem Traced.ensureDeviceId (h : s.Traced) (fresh : α) : (s.ensureDeviceId fresh).Traced := by
  have hwaits : ∀ {resolution deviceId}, .returned deviceId ∈ s.calls ++ [.waiting resolution] → s.cached.isSome := by
    intro resolution deviceId hmem
    rcases List.mem_append.mp hmem with hold | hnew
    · exact h.returned deviceId hold
    · cases List.mem_singleton.mp hnew
  cases hcached : s.cached with
  | some cached =>
    simp only [DeviceIdentity.ensureDeviceId, hcached]
    exact h.call rfl rfl hcached.symm rfl rfl fun _ _ => by simp [hcached]
  | none =>
    cases hflying : s.inFlight with
    | some resolution =>
      simp only [DeviceIdentity.ensureDeviceId, hcached, hflying]
      exact h.call rfl hflying.symm hcached.symm rfl rfl fun _ hmem => hwaits hmem
    | none =>
      have hnone : ∀ {r : Nat} {deviceId : α} {landed : Bool},
          s.resolutions[r]? ≠ some (ResolutionPhase.writing deviceId landed) := by
        intro r deviceId landed hget
        cases hflying.symm.trans (h.flying r deviceId landed hget)
      cases hstored : s.stored with
      | some stored =>
        simp only [DeviceIdentity.ensureDeviceId, hcached, hflying, hstored]
        refine ⟨fun r id landed hget => ?_, fun _ _ => rfl, fun _ _ => rfl, fun _ _ => rfl, fun _ => rfl, fun _ _ => rfl⟩
        rcases Records.of_append hget with hold | ⟨-, hnew⟩
        · exact absurd hold hnone
        · cases hnew
      | none =>
        simp only [DeviceIdentity.ensureDeviceId, hcached, hflying, hstored]
        refine ⟨fun r id landed hget => ?_, fun id hmem => ?_, fun id hmem => ?_, fun id hmem => ?_,
          fun hsome => hstored ▸ h.stored (hcached ▸ hsome), fun id hmem => ?_⟩
        · rcases Records.of_append hget with hold | ⟨rfl, -⟩
          · exact absurd hold hnone
          · rfl
        · exact hcached ▸ hwaits hmem
        · rcases List.mem_append.mp hmem with hold | hnew
          · exact hcached ▸ h.completed id hold
          · cases List.mem_singleton.mp hnew
        · exact hcached ▸ h.adopted id hmem
        · rw [← hstored]
          rcases hmem with hmem | hmem
          · rcases List.mem_append.mp hmem with hold | hnew
            · exact h.landed id (.inl hold)
            · cases List.mem_singleton.mp hnew
          · exact h.landed id (.inr hmem)

theorem Traced.step (h : s.Traced) (hst : s.step e = some t) : t.Traced := by
  cases moves_of_step hst with
  | ensures fresh => exact h.ensureDeviceId fresh
  | @landed r id hget =>
    exact h.resolution hget rfl rfl rfl rfl (fun hsome => hsome) (fun _ => rfl) (fun _ _ _ => h.flying r _ _ hget)
      (fun _ hphase => by cases hphase) (fun _ _ => rfl) .inl
  | written hget =>
    have hstored := h.landed _ (.inl (List.mem_of_getElem? hget))
    exact h.resolution hget rfl rfl rfl rfl (fun _ => rfl) (fun hsome => hsome) (fun _ _ hphase => by cases hphase)
      (fun _ _ => rfl) (fun _ hphase => by cases hphase) fun _ => .inr hstored
  | writeFails hget =>
    exact h.resolution hget rfl rfl rfl rfl (fun hsome => hsome) (fun hsome => hsome) (fun _ _ hphase => by cases hphase)
      (fun _ hphase => by cases hphase) (fun _ hphase => by cases hphase) .inl
  | @cleared r phase hflying hget hover =>
    refine ⟨fun i id landed hi => ?_, h.returned, h.completed, h.adopted, h.stored, h.landed⟩
    obtain rfl := Option.some.inj (hflying.symm.trans (h.flying i id landed hi))
    exact absurd (Option.some.inj (hget.symm.trans hi)) (hover id landed)
  | returns hget => exact h.call rfl rfl rfl rfl rfl fun _ _ => h.completed _ (List.mem_of_getElem? hget)
  | throws =>
    refine h.call rfl rfl rfl rfl rfl fun id hmem => ?_
    rcases List.mem_or_eq_of_mem_set hmem with hold | hnew
    · exact h.returned id hold
    · cases hnew
  | looksUp =>
    refine ⟨h.flying, h.returned, h.completed, fun id hmem => ?_, h.stored, fun id hmem => ?_⟩
    · rcases List.mem_append.mp hmem with hold | hnew
      · exact h.adopted id hold
      · cases List.mem_singleton.mp hnew
    · rcases hmem with hmem | hmem
      · exact h.landed id (.inl hmem)
      · rcases List.mem_append.mp hmem with hold | hnew
        · exact h.landed id (.inr hold)
        · cases List.mem_singleton.mp hnew
  | found | finishes =>
    exact h.adoption rfl rfl rfl rfl (fun hsome => hsome) (fun hsome => hsome) (fun _ hphase => by cases hphase)
      (fun _ hphase => by cases hphase) .inl
  | adoptionLanded =>
    exact h.adoption rfl rfl rfl rfl (fun hsome => hsome) (fun _ => rfl) (fun _ hphase => by cases hphase)
      (fun _ _ => rfl) .inl
  | adopted hget =>
    have hstored := h.landed _ (.inr (List.mem_of_getElem? hget))
    exact h.adoption rfl rfl rfl rfl (fun _ => rfl) (fun hsome => hsome) (fun _ _ => rfl)
      (fun _ hphase => by cases hphase) fun _ => .inr hstored

/-- Where `ensureDeviceId` makes an id, there is none, unless an adoption is writing one. -/
theorem Traced.not_mem_ids (h : s.Traced) (hmints : s.Mints) (hnone : ∀ phase ∈ s.adoptions, phase.isWriting = false) :
    deviceId ∉ s.ids := by
  obtain ⟨hcached, hflying, hstored⟩ := hmints
  rw [mem_ids]
  rintro (hid | hid | hmem | ⟨phase, hmem, hid⟩ | ⟨phase, hmem, hid⟩)
  · cases hstored.symm.trans hid
  · cases hcached.symm.trans hid
  · have hsome := h.returned deviceId hmem
    rw [hcached] at hsome
    cases hsome
  · cases phase with
    | writing other landed =>
      obtain ⟨r, hget⟩ := List.getElem?_of_mem hmem
      cases hflying.symm.trans (h.flying r other landed hget)
    | completed other =>
      have hsome := h.completed other hmem
      rw [hcached] at hsome
      cases hsome
    | failed => cases hid
  · cases phase with
    | writing other landed => cases hnone _ hmem
    | adopted other =>
      have hsome := h.adopted other hmem
      rw [hcached] at hsome
      cases hsome
    | lookingUp | finished => cases hid

structure Agreeing (s : DeviceIdentity α) : Prop where
  traced : s.Traced
  same : ∀ a ∈ s.ids, ∀ b ∈ s.ids, a = b

/-- **One step.** An id that comes is the only one. -/
theorem Agreeing.step (h : s.Agreeing) (hc : s.AdoptsInTime e) (hst : s.step e = some t) : t.Agreeing := by
  refine ⟨h.traced.step hst, fun a ha b hb => ?_⟩
  rcases ids_step hst ha with hold | ⟨rfl, hmints⟩ | ⟨i, rfl⟩
  · rcases ids_step hst hb with hold' | ⟨rfl, hmints⟩ | ⟨i, rfl⟩
    · exact h.same a hold b hold'
    · exact absurd hold (h.traced.not_mem_ids hmints (hc hmints))
    · exact hc a hold
  · rcases ids_step hst hb with hold' | ⟨heq, -⟩ | ⟨i, heq⟩
    · exact absurd hold' (h.traced.not_mem_ids hmints (hc hmints))
    · exact IdentityEvent.ensureDeviceId.inj heq
    · cases heq
  · rcases ids_step hst hb with hold' | ⟨heq, -⟩ | ⟨j, heq⟩
    · exact (hc b hold').symm
    · cases heq
    · exact Option.some.inj (IdentityEvent.found.inj heq).2

theorem Agreeing.oneDeviceId (h : s.Agreeing) : s.OneDeviceId := by
  have hstored : ∀ a ∈ s.ids, s.stored.isSome → s.stored = some a := by
    intro a ha hsome
    obtain ⟨b, hb⟩ := Option.isSome_iff_exists.mp hsome
    rw [hb, h.same a ha b (mem_ids.mpr (.inl hb))]
  have hcached : ∀ a ∈ s.ids, s.cached.isSome → s.cached = some a := by
    intro a ha hsome
    obtain ⟨b, hb⟩ := Option.isSome_iff_exists.mp hsome
    rw [hb, h.same a ha b (mem_ids.mpr (.inr (.inl hb)))]
  refine ⟨fun a hgiven => ?_, fun a ha => ?_⟩
  · have hmem : a ∈ s.ids ∧ s.cached.isSome := by
      rcases hgiven with hreturned | hadopted
      · exact ⟨mem_ids.mpr (.inr (.inr (.inl hreturned))), h.traced.returned a hreturned⟩
      · exact ⟨mem_ids.mpr (.inr (.inr (.inr (.inr ⟨_, hadopted, rfl⟩)))), h.traced.adopted a hadopted⟩
    exact ⟨hcached a hmem.1 hmem.2, hstored a hmem.1 (h.traced.stored hmem.2)⟩
  · exact hstored a (mem_ids.mpr (.inr (.inl ha))) (h.traced.stored (by simp [ha]))

theorem agreeing_init (stored : Option α) : (deviceIdentity α stored).init.Agreeing := by
  refine ⟨⟨fun _ _ _ hget => ?_, fun _ hmem => ?_, fun _ hmem => ?_, fun _ hmem => ?_, fun hsome => ?_, fun _ hmem => ?_⟩,
    fun a ha b hb => ?_⟩
  · cases hget
  · cases hmem
  · cases hmem
  · cases hmem
  · cases hsome
  · rcases hmem with hmem | hmem <;> cases hmem
  · have hown : ∀ {id : α}, id ∈ (deviceIdentity α stored).init.ids → stored = some id := by
      intro id hid
      simpa [ids, deviceIdentity] using hid
    exact Option.some.inj ((hown ha).symm.trans (hown hb))

end DeviceIdentity

/-- **An installation has one device id.** In every run in which the cloud answers an
adoption pass with an id only while there is no other, and none is made while the id of an
adoption is being written, all ids given out are the one in memory and in the slot. -/
theorem one_device_id {α : Type} (stored : Option α) {events : List (IdentityEvent α)}
    (hadopts : (deviceIdentity α stored).Meets DeviceIdentity.AdoptsInTime (deviceIdentity α stored).init events) :
    (deviceIdentity α stored).Along DeviceIdentity.OneDeviceId (deviceIdentity α stored).init events :=
  Transition.System.along_of_meets (fun _ _ _ h hc hst => h.step hc hst) (fun _ h => h.oneDeviceId)
    (DeviceIdentity.agreeing_init stored) hadopts

namespace Adoption

/-- The slot is wiped, and the bootstrap has the cloud looked for the id that the
installation had. -/
def lookedUp : List (IdentityEvent String) := [.lookUp, .found 0 (some "phone"), .adoptionLanded 0, .adopted 0]

/-- While the cloud is asked, the repository attaches. -/
def attached : List (IdentityEvent String) :=
  [.lookUp, .ensureDeviceId "fresh", .landed 0, .written 0, .answered 0, .cleared 0]

end Adoption

/-- The repository attaches after the adoption. -/
theorem one_device_id_when_adopted_first :
    (deviceIdentity String none).Along DeviceIdentity.OneDeviceId (deviceIdentity String none).init
      (Adoption.lookedUp ++ [.ensureDeviceId "fresh"]) :=
  one_device_id none (by decide +kernel)

/-- The repository has been given a fresh id, which the adoption overwrites. -/
theorem adoption_overwrites_given_id :
    ∃ t, (deviceIdentity String none).run (deviceIdentity String none).init
        (Adoption.attached ++ [.found 0 (some "phone"), .adoptionLanded 0, .adopted 0]) = some t ∧
      t.calls = [.returned "fresh"] ∧ t.adoptions = [.adopted "phone"] ∧ t.cached = some "phone" ∧
      t.stored = some "phone" ∧ ¬ t.OneDeviceId := by
  refine ⟨_, rfl, rfl, rfl, rfl, rfl, fun hone => ?_⟩
  have hcached := (hone.given "fresh" (.inl (List.mem_singleton_self _))).1
  exact absurd hcached (by decide)

end MagicShare.Account
