import MagicShare.Account.Repository
import MagicShare.Base.Records
import MagicShare.Pairing.Payload

/-! The service that writes the cloud name of a device into the local alias.

Every emission that brings another name than the alias starts a push of its own, which
records its name as synced only at its end. So a push that is late, or whose restart of the
server fails, can leave another name on record than the one in place. As long as that name
is made good by another push, the service neither takes back what the user has typed nor
leaves a name behind (`never_fights`); so it is where pushes come one at a time and none
fails (`never_fights_one_at_a_time`). -/
namespace MagicShare.Account
open Pairing

/-! ### State -/

structure NamedDevice where
  deviceId : String
  displayName : String
  deriving DecidableEq

/-- The name that an emission brings, if it brings one. -/
def cloudName {α : Type} : AccountState α NamedDevice → Option String
  | .ready _ currentDeviceId _ devices =>
    (devices.find? fun d => d.deviceId = currentDeviceId).bind fun myDevice =>
      let name := String.ofList (trimmed myDevice.displayName.toList)
      if name = "" then none else some name
  | _ => none

inductive PushPhase where
  | settingAlias
  | restartingServer
  | ended
  deriving DecidableEq

structure Push where
  name : String
  phase : PushPhase := .settingAlias
  /-- Its emission repeats a name in whose place the user has put another. -/
  repeats : Bool
  deriving DecidableEq

structure AliasSync where
  /-- The alias of the settings. -/
  localAlias : String
  lastSyncedAlias : Option String := none
  pushes : List Push := []
  /-- The name that was emitted last. -/
  newest : Option String := none
  /-- Since it came: a push has written it; the user has then changed the alias; the user has
  changed the alias at all. -/
  written : Bool := false
  changed : Bool := false
  edited : Bool := false
  /-- The alias is the user's. -/
  byUser : Bool := false
  /-- The names that repeated emissions have put in the place of the user's. -/
  fights : List String := []
  deriving DecidableEq

inductive SyncEvent (α : Type) where
  | emitted (next : AccountState α NamedDevice)
  /-- The `setAlias` of a push has set the alias, or fails. -/
  | aliasSet (push : Nat)
  | setAliasFails (push : Nat)
  | restarted (push : Nat)
  | restartFails (push : Nat)
  /-- The user types another alias in the settings. -/
  | edited («alias» : String)

namespace AliasSync
variable {α : Type}

/-- A name has been emitted. -/
def emitted (s : AliasSync) (name : String) : AliasSync :=
  if s.newest = some name then s
  else {s with newest := some name, written := false, changed := false, edited := false}

def onAccountStateChanged (s : AliasSync) (next : AccountState α NamedDevice) : AliasSync :=
  match cloudName next with
  | none => s
  | some name =>
    let s := s.emitted name
    if name = s.localAlias then {s with lastSyncedAlias := some name}
    else if s.lastSyncedAlias = some name then s
    else {s with pushes := s.pushes ++ [{name, repeats := s.changed}]}

/-- A push has set the alias. -/
def aliasSet (s : AliasSync) (i : Nat) (p : Push) : AliasSync :=
  {s with
    localAlias := p.name
    pushes := s.pushes.set i {p with phase := .restartingServer}
    written := s.written || s.newest = some p.name
    byUser := false
    fights := if p.repeats && s.byUser then s.fights ++ [p.name] else s.fights}

def endPush (s : AliasSync) (i : Nat) (p : Push) : AliasSync :=
  {s with pushes := s.pushes.set i {p with phase := .ended}}

def edit (s : AliasSync) (name : String) : AliasSync :=
  {s with localAlias := name, changed := s.changed || s.written, edited := true, byUser := true}

/-- The push with this number, if it is this far. -/
def pushAt (s : AliasSync) (i : Nat) (phase : PushPhase) : Option Push :=
  s.pushes[i]?.filter fun p => p.phase = phase

def step (s : AliasSync) : SyncEvent α → Option AliasSync
  | .emitted next => some (s.onAccountStateChanged next)
  | .aliasSet i => (s.pushAt i .settingAlias).map (s.aliasSet i)
  | .setAliasFails i => (s.pushAt i .settingAlias).map (s.endPush i)
  | .restarted i => (s.pushAt i .restartingServer).map fun p => {s.endPush i p with lastSyncedAlias := some p.name}
  | .restartFails i => (s.pushAt i .restartingServer).map (s.endPush i)
  | .edited name => some (s.edit name)

end AliasSync

/-- The service, from a start with this alias. -/
def aliasSync (α : Type) (localAlias : String) : Transition.System AliasSync (SyncEvent α) where
  init := {localAlias}
  step := AliasSync.step

/-! ### The property and its condition -/

namespace AliasSync
variable {α : Type} {s t : AliasSync} {e : SyncEvent α} {name : String} {i : Nat} {p : Push}

/-- No repeated emission has put its name in the place of the user's, and once all pushes
have ended, the alias is the newest name, unless the user has changed it since that came. -/
structure NeverFights (s : AliasSync) : Prop where
  unfought : s.fights = []
  settled : (∀ p ∈ s.pushes, p.phase = .ended) → s.edited = false → ∀ name, s.newest = some name → s.localAlias = name

/-- A push is to set the alias to this name. -/
def ToSet (pushes : List Push) (name : String) : Prop := ∃ p ∈ pushes, p.name = name ∧ p.phase = .settingAlias

/-- A push of this name has not ended. -/
def Running (pushes : List Push) (name : String) : Prop := ∃ p ∈ pushes, p.name = name ∧ p.phase ≠ .ended

instance (pushes : List Push) (name : String) : Decidable (ToSet pushes name) :=
  inferInstanceAs (Decidable (∃ p ∈ pushes, p.name = name ∧ p.phase = .settingAlias))

instance (pushes : List Push) (name : String) : Decidable (Running pushes name) :=
  inferInstanceAs (Decidable (∃ p ∈ pushes, p.name = name ∧ p.phase ≠ .ended))

/-- The newest name will be on record though the push with this number ends without
recording it: a push has not written it, it is on record, or another push of it runs. -/
def RecordedWithout (s : AliasSync) (i : Nat) : Prop := ∀ name ∈ s.newest,
  s.written = true → s.lastSyncedAlias = some name ∨ Running (s.pushes.eraseIdx i) name

/-- The newest name will be in place though the push with this number does not set it: the
user has changed the alias since it came, it is in place, or another push is to set it. -/
def PlacedWithout (s : AliasSync) (i : Nat) : Prop := ∀ name ∈ s.newest,
  s.edited = false → s.localAlias = name ∨ ToSet (s.pushes.eraseIdx i) name

instance (s : AliasSync) (i : Nat) : Decidable (s.RecordedWithout i) :=
  inferInstanceAs (Decidable (∀ name ∈ s.newest, s.written = true →
    s.lastSyncedAlias = some name ∨ Running (s.pushes.eraseIdx i) name))

instance (s : AliasSync) (i : Nat) : Decidable (s.PlacedWithout i) :=
  inferInstanceAs (Decidable (∀ name ∈ s.newest, s.edited = false →
    s.localAlias = name ∨ ToSet (s.pushes.eraseIdx i) name))

/-- An emission does not bring a name that is on record from before, unless it is in place or a
push is to set it; and it does not repeat a name which the user has changed while that
name's own push still runs. -/
def Comes (s : AliasSync) (name : String) : Prop :=
  (s.newest ≠ some name → s.lastSyncedAlias = some name → s.localAlias = name ∨ ToSet s.pushes name) ∧
  (s.newest = some name → s.changed = true → s.lastSyncedAlias = some name ∨ ¬ Running s.pushes name)

instance (s : AliasSync) (name : String) : Decidable (s.Comes name) :=
  inferInstanceAs (Decidable (_ ∧ _))

/-- A push that writes or records a name which is not the newest any more, or that fails, is
made good by a push of the newest name. -/
def InTurn (s : AliasSync) : SyncEvent α → Prop
  | .emitted next => ∀ name ∈ cloudName next, s.Comes name
  | .aliasSet i => ∀ p ∈ s.pushes[i]?, s.newest ≠ some p.name →
    ∀ name ∈ s.newest, s.edited = false → ToSet s.pushes name
  | .setAliasFails i => s.RecordedWithout i ∧ s.PlacedWithout i
  | .restarted i => ∀ p ∈ s.pushes[i]?, s.newest ≠ some p.name →
    ∀ name ∈ s.newest, s.written = true → Running s.pushes name
  | .restartFails i => s.RecordedWithout i
  | .edited _ => True

instance (s : AliasSync) : (e : SyncEvent α) → Decidable (s.InTurn e)
  | .emitted next => inferInstanceAs (Decidable (∀ name ∈ cloudName next, s.Comes name))
  | .aliasSet i => inferInstanceAs (Decidable (∀ p ∈ s.pushes[i]?, s.newest ≠ some p.name →
    ∀ name ∈ s.newest, s.edited = false → ToSet s.pushes name))
  | .setAliasFails i => inferInstanceAs (Decidable (s.RecordedWithout i ∧ s.PlacedWithout i))
  | .restarted i => inferInstanceAs (Decidable (∀ p ∈ s.pushes[i]?, s.newest ≠ some p.name →
    ∀ name ∈ s.newest, s.written = true → Running s.pushes name))
  | .restartFails i => inferInstanceAs (Decidable (s.RecordedWithout i))
  | .edited _ => .isTrue trivial

/-- Emissions and changes by the user come while no push runs, and no push fails. -/
def OneAtATime (s : AliasSync) : SyncEvent α → Prop
  | .emitted _ | .edited _ => ∀ p ∈ s.pushes, p.phase = .ended
  | .setAliasFails _ | .restartFails _ => False
  | .aliasSet _ | .restarted _ => True

/-! ### Pushes that go on -/

theorem pushAt_spec {phase : PushPhase} (h : s.pushAt i phase = some p) : s.pushes[i]? = some p ∧ p.phase = phase := by
  obtain ⟨hget, hphase⟩ := Option.filter_eq_some_iff.mp h
  exact ⟨hget, of_decide_eq_true hphase⟩

/-! ### The invariant -/

/-- The newest name is on record or will be, and is in place or will be. -/
structure Kept (s : AliasSync) : Prop where
  recorded : ∀ name ∈ s.newest, s.written = true → s.lastSyncedAlias = some name ∨ Running s.pushes name
  placed : ∀ name ∈ s.newest, s.edited = false → s.localAlias = name ∨ ToSet s.pushes name
  changed : s.changed = true → s.written = true
  single : ∀ p ∈ s.pushes, p.repeats = false
  unfought : s.fights = []

theorem Kept.neverFights (h : s.Kept) : s.NeverFights where
  unfought := h.unfought
  settled hended hedited name hnewest := by
    rcases h.placed name hnewest hedited with hplaced | ⟨p, hp, -, hphase⟩
    · exact hplaced
    · cases (hended p hp).symm.trans hphase

theorem single_set {pushes : List Push} {after : Push} (h : ∀ p ∈ pushes, p.repeats = false)
    (hafter : after.repeats = false) : ∀ p ∈ pushes.set i after, p.repeats = false := by
  intro p hp
  rcases List.mem_or_eq_of_mem_set hp with hold | rfl
  · exact h p hold
  · exact hafter

/-- A push of the newest name has been started. -/
theorem Kept.start (h : s.newest = some name) (hchanged : s.changed = true → s.written = true)
    (hsingle : ∀ p ∈ s.pushes, p.repeats = false) (hrepeats : s.changed = false) (hunfought : s.fights = []) :
    Kept {s with pushes := s.pushes ++ [{name, repeats := s.changed}]} := by
  have hname : ∀ {other : String}, s.newest = some other → name = other :=
    fun hother => Option.some.inj (h.symm.trans hother)
  refine ⟨fun other hother _ => .inr ⟨_, List.mem_append_right _ (List.mem_singleton_self _), hname hother, by simp⟩,
    fun other hother _ => .inr ⟨_, List.mem_append_right _ (List.mem_singleton_self _), hname hother, rfl⟩,
    hchanged, fun p hp => ?_, hunfought⟩
  rcases List.mem_append.mp hp with hold | hnew
  · exact hsingle p hold
  · obtain rfl := List.mem_singleton.mp hnew
    exact hrepeats

/-- The newest name comes again. -/
theorem Kept.again (h : s.Kept) (hnewest : s.newest = some name) {next : AccountState α NamedDevice}
    (hnext : cloudName next = some name) (hcomes : s.Comes name) : (s.onAccountStateChanged next).Kept := by
  have hname : ∀ {other : String}, s.newest = some other → name = other :=
    fun hother => Option.some.inj (hnewest.symm.trans hother)
  simp only [onAccountStateChanged, hnext, AliasSync.emitted, if_pos hnewest]
  split_ifs with halias hlast
  · exact ⟨fun other hother _ => .inl (congrArg some (hname hother)), h.placed, h.changed, h.single, h.unfought⟩
  · exact h
  · refine .start hnewest h.changed h.single ?_ h.unfought
    -- what the user has changed is on record once its push has ended
    by_contra hchanged
    have hchanged : s.changed = true := by simpa using hchanged
    rcases hcomes.2 hnewest hchanged with hlast' | hended
    · exact hlast hlast'
    · exact (h.recorded name hnewest (h.changed hchanged)).elim hlast hended

/-- Another name comes. -/
theorem Kept.another (h : s.Kept) (hnewest : s.newest ≠ some name) {next : AccountState α NamedDevice}
    (hnext : cloudName next = some name) (hcomes : s.Comes name) : (s.onAccountStateChanged next).Kept := by
  simp only [onAccountStateChanged, hnext, AliasSync.emitted, if_neg hnewest]
  split_ifs with halias hlast
  · refine ⟨fun _ _ hwritten => (by cases hwritten), fun other hother _ => .inl ?_, fun hchanged => (by cases hchanged),
      h.single, h.unfought⟩
    exact halias.symm.trans (Option.some.inj hother)
  · refine ⟨fun _ _ hwritten => (by cases hwritten), fun other hother _ => ?_, fun hchanged => (by cases hchanged),
      h.single, h.unfought⟩
    obtain rfl := Option.some.inj hother
    exact hcomes.1 hnewest hlast
  · exact Kept.start (s := {s with newest := some name, written := false, changed := false, edited := false})
      rfl (fun hchanged => by cases hchanged) h.single rfl h.unfought

theorem Kept.emitted (h : s.Kept) (next : AccountState α NamedDevice) (hcomes : ∀ name ∈ cloudName next, s.Comes name) :
    (s.onAccountStateChanged next).Kept := by
  cases hnext : cloudName next with
  | none => simpa only [onAccountStateChanged, hnext] using h
  | some name =>
    by_cases hnewest : s.newest = some name
    · exact h.again hnewest hnext (hcomes name hnext)
    · exact h.another hnewest hnext (hcomes name hnext)

theorem Kept.aliasSet (h : s.Kept) (hget : s.pushes[i]? = some p)
    (hturn : s.newest ≠ some p.name → ∀ name ∈ s.newest, s.edited = false → ToSet s.pushes name) :
    (s.aliasSet i p).Kept := by
  have hsingle := h.single p (List.mem_of_getElem? hget)
  have hlength := (List.getElem?_eq_some_iff.mp hget).1
  refine ⟨fun name hname hwritten => ?_, fun name hname hedited => ?_, fun hchanged => ?_,
    single_set h.single hsingle, ?_⟩
  · by_cases heq : p.name = name
    · exact .inr ⟨_, List.mem_set hlength _, heq, by simp⟩
    · have hwritten : s.written = true := by
        simp only [AliasSync.aliasSet, Bool.or_eq_true, decide_eq_true_eq] at hwritten
        refine hwritten.resolve_right fun hnewest => heq ?_
        exact Option.some.inj (hnewest.symm.trans hname)
      refine (h.recorded name hname hwritten).imp_right fun hrunning => ?_
      exact Records.exists_set_of_ne hget (fun hp => heq hp.1) hrunning
  · by_cases heq : p.name = name
    · exact .inl heq
    · have hne : s.newest ≠ some p.name := fun hnewest => heq (Option.some.inj (hnewest.symm.trans hname))
      exact .inr (Records.exists_set_of_ne hget (fun hp => heq hp.1) (hturn hne name hname hedited))
  · simp [AliasSync.aliasSet, h.changed hchanged]
  · simp [AliasSync.aliasSet, hsingle, h.unfought]

/-- A push ends without recording its name. -/
theorem Kept.endPush (h : s.Kept) (hget : s.pushes[i]? = some p) (hrecorded : s.RecordedWithout i)
    (hplaced : p.phase = .settingAlias → s.PlacedWithout i) : (s.endPush i p).Kept := by
  refine ⟨fun name hname hwritten => ?_, fun name hname hedited => ?_, h.changed,
    single_set h.single (h.single p (List.mem_of_getElem? hget)), h.unfought⟩
  · exact (hrecorded name hname hwritten).imp_right Records.exists_set_of_eraseIdx
  · by_cases hphase : p.phase = .settingAlias
    · exact (hplaced hphase name hname hedited).imp_right Records.exists_set_of_eraseIdx
    · exact (h.placed name hname hedited).imp_right (Records.exists_set_of_ne hget fun hp => hphase hp.2)

theorem Kept.restarted (h : s.Kept) (hget : s.pushes[i]? = some p) (hphase : p.phase = .restartingServer)
    (hturn : s.newest ≠ some p.name → ∀ name ∈ s.newest, s.written = true → Running s.pushes name) :
    Kept {s.endPush i p with lastSyncedAlias := some p.name} := by
  refine ⟨fun name hname hwritten => ?_, fun name hname hedited => ?_, h.changed,
    single_set h.single (h.single p (List.mem_of_getElem? hget)), h.unfought⟩
  · by_cases heq : p.name = name
    · exact .inl (congrArg some heq)
    · have hne : s.newest ≠ some p.name := fun hnewest => heq (Option.some.inj (hnewest.symm.trans hname))
      exact .inr (Records.exists_set_of_ne hget (fun hp => heq hp.1) (hturn hne name hname hwritten))
  · refine (h.placed name hname hedited).imp_right (Records.exists_set_of_ne hget fun hp => ?_)
    cases hphase.symm.trans hp.2

theorem Kept.edit (h : s.Kept) (name : String) : (s.edit name).Kept where
  recorded := h.recorded
  placed _ _ hedited := by cases hedited
  changed hchanged := by
    rcases Bool.or_eq_true_iff.mp hchanged with hchanged | hwritten
    · exact h.changed hchanged
    · exact hwritten
  single := h.single
  unfought := h.unfought

/-- **One step.** -/
theorem Kept.step (h : s.Kept) (hturn : s.InTurn e) (hst : s.step e = some t) : t.Kept := by
  cases e with
  | emitted next =>
    obtain rfl := Option.some.inj hst
    exact h.emitted next hturn
  | aliasSet i =>
    obtain ⟨p, hpush, rfl⟩ := Option.map_eq_some_iff.mp hst
    obtain ⟨hget, -⟩ := pushAt_spec hpush
    exact h.aliasSet hget (hturn p hget)
  | setAliasFails i =>
    obtain ⟨p, hpush, rfl⟩ := Option.map_eq_some_iff.mp hst
    exact h.endPush (pushAt_spec hpush).1 hturn.1 fun _ => hturn.2
  | restarted i =>
    obtain ⟨p, hpush, rfl⟩ := Option.map_eq_some_iff.mp hst
    obtain ⟨hget, hphase⟩ := pushAt_spec hpush
    exact h.restarted hget hphase (hturn p hget)
  | restartFails i =>
    obtain ⟨p, hpush, rfl⟩ := Option.map_eq_some_iff.mp hst
    obtain ⟨hget, hphase⟩ := pushAt_spec hpush
    exact h.endPush hget hturn fun hsetting => by cases hphase.symm.trans hsetting
  | edited name =>
    obtain rfl := Option.some.inj hst
    exact h.edit name

/-! ### One push at a time -/

/-- A push that runs is one of the newest name, which is on record when none runs. -/
structure Steady (s : AliasSync) : Prop where
  kept : s.Kept
  running : ∀ p ∈ s.pushes, p.phase ≠ .ended → s.newest = some p.name
  resting : (∀ p ∈ s.pushes, p.phase = .ended) → s.lastSyncedAlias = s.newest

theorem Steady.inTurn (h : s.Steady) (hone : s.OneAtATime e) (hst : s.step e = some t) : s.InTurn e := by
  cases e with
  | emitted next =>
    intro name _
    have hlast := h.resting hone
    exact ⟨fun hnewest hrecorded => absurd (hlast.symm.trans hrecorded) hnewest,
      fun hnewest _ => .inl (hlast.trans hnewest)⟩
  | aliasSet i =>
    obtain ⟨p, hpush, -⟩ := Option.map_eq_some_iff.mp hst
    obtain ⟨hget, hphase⟩ := pushAt_spec hpush
    intro p' hget' hne
    obtain rfl := Option.some.inj (hget.symm.trans hget')
    exact absurd (h.running p (List.mem_of_getElem? hget) (by simp [hphase])) hne
  | restarted i =>
    obtain ⟨p, hpush, -⟩ := Option.map_eq_some_iff.mp hst
    obtain ⟨hget, hphase⟩ := pushAt_spec hpush
    intro p' hget' hne
    obtain rfl := Option.some.inj (hget.symm.trans hget')
    exact absurd (h.running p (List.mem_of_getElem? hget) (by simp [hphase])) hne
  | setAliasFails | restartFails => exact hone.elim
  | edited => trivial

/-- An emission when no push runs. -/
theorem Steady.emitted (h : s.Steady) (hended : ∀ p ∈ s.pushes, p.phase = .ended) (next : AccountState α NamedDevice)
    (hkept : (s.onAccountStateChanged next).Kept) : (s.onAccountStateChanged next).Steady := by
  cases hnext : cloudName next with
  | none => simpa only [onAccountStateChanged, hnext] using h
  | some name =>
    have hnewest : (s.emitted name).newest = some name := by
      unfold AliasSync.emitted
      split_ifs with heq
      · exact heq
      · rfl
    have hpushes : (s.emitted name).pushes = s.pushes := by
      unfold AliasSync.emitted
      split_ifs <;> rfl
    refine ⟨hkept, ?_, ?_⟩
    all_goals
      simp only [onAccountStateChanged, hnext]
      split_ifs with halias hlast
    · exact fun p hp hphase => absurd (hended p (hpushes ▸ hp)) hphase
    · exact fun p hp hphase => absurd (hended p (hpushes ▸ hp)) hphase
    · intro p hp hphase
      rcases List.mem_append.mp hp with hold | hnew
      · exact absurd (hended p (hpushes ▸ hold)) hphase
      · obtain rfl := List.mem_singleton.mp hnew
        exact hnewest
    · exact fun _ => hnewest.symm
    · exact fun _ => hlast.trans hnewest.symm
    · intro hall
      cases hall _ (List.mem_append_right _ (List.mem_singleton_self _))

theorem Steady.step (h : s.Steady) (hone : s.OneAtATime e) (hst : s.step e = some t) : t.Steady := by
  have hkept := h.kept.step (h.inTurn hone hst) hst
  have hset : ∀ {i : Nat} {p after : Push}, s.pushes[i]? = some p → p.phase ≠ .ended → after.name = p.name →
      ∀ q ∈ s.pushes.set i after, q.phase ≠ .ended → s.newest = some q.name := by
    intro i p after hget hphase hname q hq hrunning
    rcases List.mem_or_eq_of_mem_set hq with hold | rfl
    · exact h.running q hold hrunning
    · rw [hname]
      exact h.running p (List.mem_of_getElem? hget) hphase
  cases e with
  | emitted next =>
    obtain rfl := Option.some.inj hst
    exact h.emitted hone next hkept
  | aliasSet i =>
    obtain ⟨p, hpush, rfl⟩ := Option.map_eq_some_iff.mp hst
    obtain ⟨hget, hphase⟩ := pushAt_spec hpush
    refine ⟨hkept, hset hget (by simp [hphase]) rfl, fun hall => ?_⟩
    cases hall _ (List.mem_set (List.getElem?_eq_some_iff.mp hget).1 _)
  | restarted i =>
    obtain ⟨p, hpush, rfl⟩ := Option.map_eq_some_iff.mp hst
    obtain ⟨hget, hphase⟩ := pushAt_spec hpush
    have hrunning : p.phase ≠ .ended := by simp [hphase]
    exact ⟨hkept, hset hget hrunning rfl, fun _ => (h.running p (List.mem_of_getElem? hget) hrunning).symm⟩
  | setAliasFails | restartFails => exact hone.elim
  | edited name =>
    obtain rfl := Option.some.inj hst
    exact ⟨hkept, h.running, h.resting⟩

theorem steady_init (α : Type) (localAlias : String) : (aliasSync α localAlias).init.Steady := by
  refine ⟨⟨fun _ hname => ?_, fun _ hname => ?_, fun hchanged => ?_, fun _ hp => ?_, rfl⟩, fun _ hp => ?_, fun _ => rfl⟩
  · cases hname
  · cases hname
  · cases hchanged
  · cases hp
  · cases hp

end AliasSync

/-- **Alias sync does not fight the user** in a run in which what a push spoils is made good
by another. -/
theorem never_fights {α : Type} (localAlias : String) {events : List (SyncEvent α)}
    (hturn : (aliasSync α localAlias).Meets AliasSync.InTurn (aliasSync α localAlias).init events) :
    (aliasSync α localAlias).Along AliasSync.NeverFights (aliasSync α localAlias).init events :=
  Transition.System.along_of_meets (fun _ _ _ h hturn hst => h.step hturn hst) (fun _ h => h.neverFights)
    (AliasSync.steady_init α localAlias).kept hturn

/-- Pushes that come one at a time and do not fail are in turn. -/
theorem never_fights_one_at_a_time {α : Type} (localAlias : String) {events : List (SyncEvent α)}
    (hone : (aliasSync α localAlias).Meets AliasSync.OneAtATime (aliasSync α localAlias).init events) :
    (aliasSync α localAlias).Along AliasSync.NeverFights (aliasSync α localAlias).init events :=
  Transition.System.along_of_meets (fun _ _ _ h hone hst => h.step hone hst) (fun _ h => h.kept.neverFights)
    (AliasSync.steady_init α localAlias) hone

/-- The repository shows the device with this name. -/
def named (displayName : String) : SyncEvent Unit := .emitted (.ready "account" "me" none [⟨"me", displayName⟩])

/-- Two pushes end in the order they came, and the user's alias stays. -/
theorem never_fights_overlapping : (aliasSync Unit "Old").Along AliasSync.NeverFights (aliasSync Unit "Old").init
    [named "Phone", named "Tablet", .aliasSet 0, .aliasSet 1, .restarted 0, .restarted 1, .edited "Mine",
      named "Tablet"] :=
  never_fights "Old" (by decide +kernel)

/-- The restart of the server fails, and the name is put in the place of the user's. -/
theorem fights_after_failed_restart : ¬ (aliasSync Unit "Old").Along AliasSync.NeverFights
    (aliasSync Unit "Old").init
    [named "Phone", .aliasSet 0, .restartFails 0, .edited "Mine", named "Phone", .aliasSet 1] := by
  intro h
  have hlast := h.reached (a := [named "Phone", .aliasSet 0, .restartFails 0, .edited "Mine", named "Phone", .aliasSet 1])
    (b := []) rfl
  exact absurd hlast.unfought (by decide +kernel)

end MagicShare.Account
