import Mathlib.Data.List.Chain
import MagicShare.Base.Records
import MagicShare.Base.Transition
import MagicShare.Pairing.Services

/-! The group key in memory and in secure storage, while calls overlap.

Each call decides on the state in memory, asks secure storage for one operation, and
goes on after its await; the operation takes effect in between. Along every run, once
all calls have finished both places hold the same key and `ensureForNewAccount` has
taken no key's place, exactly when no call is overtaken and `ensureForNewAccount`
finds the slot without a key (`keyKept_iff`). -/
namespace MagicShare.Account
open Pairing

/-! ### The slot of the key -/

/-- A text in secure storage, by what `base64Decode` makes of it. -/
inductive KeyText where
  | base64 (bytes : List UInt8)
  | malformed
  deriving DecidableEq

def KeyText.isEmpty : KeyText → Bool
  | .base64 bytes => bytes.isEmpty
  | .malformed => false

def encodeKey (key : List UInt8) : KeyText := .base64 key

/-- `_decodeKey`; `none` where it throws. -/
def decodeKey : KeyText → Option (List UInt8)
  | .base64 bytes => if bytes.length ≠ groupKeyLengthBytes then none else some bytes
  | .malformed => none

/-- The state `_loadFromStorage` ends in, from what it has read. -/
def loadedState : Option KeyText → GroupKeyState
  | none => .missing
  | some stored =>
    if stored.isEmpty then .missing
    else
      match decodeKey stored with
      | some key => .ready key
      | none => .failed

/-- The key in the slot. -/
def keyIn (stored : Option KeyText) : Option (List UInt8) := stored.bind decodeKey

/-- The key in memory. -/
def keyShown : GroupKeyState → Option (List UInt8)
  | .ready key => some key
  | _ => none

@[simp] theorem keyIn_encodeKey {key : List UInt8} (h : key.length = groupKeyLengthBytes) :
    keyIn (some (encodeKey key)) = some key := by
  simp [keyIn, encodeKey, decodeKey, h]

/-- Loading shows the key of the slot. -/
theorem keyShown_loadedState (stored : Option KeyText) : keyShown (loadedState stored) = keyIn stored := by
  cases stored with
  | none => rfl
  | some text =>
    by_cases hempty : text.isEmpty = true
    · cases text with
      | malformed => cases hempty
      | base64 bytes =>
        obtain rfl := List.isEmpty_iff.mp hempty
        rfl
    · simp only [loadedState, if_neg hempty, keyIn, Option.bind_some]
      cases decodeKey text with
      | none => rfl
      | some key => rfl

/-! ### The calls -/

inductive KeyOperation where
  | loadFromStorage
  | ensureForNewAccount (key : List UInt8)
  | replace (key : List UInt8)
  | clear
  deriving DecidableEq

/-- What the one storage operation of a call makes of the slot. -/
def KeyOperation.effect (stored : Option KeyText) : KeyOperation → Option KeyText
  | .loadFromStorage => stored
  | .ensureForNewAccount key => some (encodeKey key)
  | .replace key => some (encodeKey key)
  | .clear => none

/-- The state a call sets at its end; `stored` is what its operation left in the slot. -/
def KeyOperation.result (stored : Option KeyText) : KeyOperation → GroupKeyState
  | .loadFromStorage => loadedState stored
  | .ensureForNewAccount key => .ready key
  | .replace key => .ready key
  | .clear => .missing

inductive KeyPhase where
  /-- Storage has been asked. -/
  | issued
  /-- The operation has taken effect and left this in the slot. -/
  | applied (stored : Option KeyText)
  /-- `clear` awaits `_clearDeviceId`. -/
  | clearingDeviceId
  | finished
  deriving DecidableEq

structure KeyCall where
  operation : KeyOperation
  phase : KeyPhase := .issued
  deriving DecidableEq

/-- The key the call's operation left in the slot. -/
def KeyCall.left (c : KeyCall) : Option (List UInt8) :=
  match c.phase with
  | .applied stored => keyIn stored
  | _ => none

/-- The next continuation of the call is its last. -/
def KeyCall.Ending (c : KeyCall) : Prop :=
  match c.operation, c.phase with
  | .clear, .applied _ => False
  | _, .applied _ => True
  | _, .clearingDeviceId => True
  | _, _ => False

/-! ### The service -/

/-- The group key service with its slot in secure storage. -/
structure GroupKeyRun where
  state : GroupKeyState := .loading
  stored : Option KeyText
  calls : List KeyCall := [{operation := .loadFromStorage}]
  /-- The storage operations in the order they took effect, with what each found. -/
  effects : List (Option KeyText × KeyOperation) := []
  /-- The operations whose result was shown, the latest first. -/
  shown : List KeyOperation := []
  deriving DecidableEq

inductive KeyEvent where
  /-- `key` is what `_generateKey` gives. -/
  | ensureForNewAccount (key : List UInt8)
  | replace (key : List UInt8)
  | clear
  /-- The storage operation of a call takes effect. -/
  | takeEffect (call : Nat)
  /-- A call goes on after an await. -/
  | resume (call : Nat)

namespace GroupKeyRun

def start (s : GroupKeyRun) (operation : KeyOperation) : GroupKeyRun :=
  {s with calls := s.calls ++ [{operation}]}

def setPhase (s : GroupKeyRun) (call : Nat) (c : KeyCall) (phase : KeyPhase) : GroupKeyRun :=
  {s with calls := s.calls.set call {c with phase}}

/-- A call sets the state and returns. -/
def finish (s : GroupKeyRun) (call : Nat) (c : KeyCall) (stored : Option KeyText) : GroupKeyRun :=
  {s.setPhase call c .finished with
    state := c.operation.result stored
    shown := c.operation :: s.shown}

def step (s : GroupKeyRun) : KeyEvent → Option GroupKeyRun
  | .ensureForNewAccount key =>
    match s.state with
    | .ready _ => some s
    | _ => if key.length = groupKeyLengthBytes then some (s.start (.ensureForNewAccount key)) else none
  | .replace key => if key.length ≠ groupKeyLengthBytes then some s else some (s.start (.replace key))
  | .clear => some (s.start .clear)
  | .takeEffect call =>
    match s.calls[call]? with
    | some c =>
      if c.phase = .issued then
        some {s.setPhase call c (.applied (c.operation.effect s.stored)) with
          stored := c.operation.effect s.stored
          effects := s.effects ++ [(s.stored, c.operation)]}
      else none
    | none => none
  | .resume call =>
    match s.calls[call]? with
    | some c =>
      match c.operation, c.phase with
      | .clear, .applied _ => some (s.setPhase call c .clearingDeviceId)
      | _, .applied stored => some (s.finish call c stored)
      | _, .clearingDeviceId => some (s.finish call c none)
      | _, _ => none
    | none => none

end GroupKeyRun

/-- The service on a device whose slot holds `stored`. -/
def groupKeys (stored : Option KeyText) : Transition.System GroupKeyRun KeyEvent where
  init := {stored}
  step := GroupKeyRun.step

namespace GroupKeyRun

/-! ### The property and its condition -/

/-- All calls have finished. -/
def Quiet (s : GroupKeyRun) : Prop := ∀ c ∈ s.calls, c.phase = .finished

/-- A state set by `ensureForNewAccount` right after `replace` set its key. -/
def Supersedes (later earlier : KeyOperation) : Prop :=
  ∃ key replaced, later = .ensureForNewAccount key ∧ earlier = .replace replaced ∧ key ≠ replaced

/-- Memory and storage agree at rest, and no call of `ensureForNewAccount` has taken
the place of another key, neither in the slot nor of one that `replace` has shown. -/
structure KeyKept (s : GroupKeyRun) : Prop where
  agree : s.Quiet → keyShown s.state = keyIn s.stored
  unwritten : ∀ found key, (found, .ensureForNewAccount key) ∈ s.effects →
    keyIn found = none ∨ keyIn found = some key
  unshown : s.shown.IsChain fun later earlier => ¬ Supersedes later earlier

/-- Only this call is still running. -/
def Last (s : GroupKeyRun) (call : Nat) : Prop :=
  ∀ i c, s.calls[i]? = some c → i ≠ call → c.phase = .finished

/-- The write of an `ensureForNewAccount` finds no other key in the slot, its end finds
no key that `replace` has put in memory meanwhile, and the call that ends last finds in
the slot what it has left there itself. -/
def NotOvertaken (s : GroupKeyRun) : KeyEvent → Prop
  | .takeEffect call => ∀ key, s.calls[call]? = some ⟨.ensureForNewAccount key, .issued⟩ →
    keyIn s.stored = none ∨ keyIn s.stored = some key
  | .resume call => ∀ c, s.calls[call]? = some c → c.Ending →
    (s.Last call → keyIn s.stored = c.left) ∧
    ∀ key replaced, c.operation = .ensureForNewAccount key →
      s.shown.head? = some (.replace replaced) → key = replaced
  | _ => True

/-! ### What a step does -/

/-- One step, with everything it can do. -/
inductive Moves (s : GroupKeyRun) : KeyEvent → GroupKeyRun → Prop
  | refused {e : KeyEvent} (he : ∀ call, e ≠ .takeEffect call ∧ e ≠ .resume call) : Moves s e s
  | started {e : KeyEvent} {operation : KeyOperation} (he : ∀ call, e ≠ .takeEffect call ∧ e ≠ .resume call)
      (hkey : ∀ key, operation = .ensureForNewAccount key ∨ operation = .replace key →
        key.length = groupKeyLengthBytes) : Moves s e (s.start operation)
  | applied {call : Nat} {c : KeyCall} (hcall : s.calls[call]? = some c) (hphase : c.phase = .issued) :
      Moves s (.takeEffect call) {s.setPhase call c (.applied (c.operation.effect s.stored)) with
        stored := c.operation.effect s.stored
        effects := s.effects ++ [(s.stored, c.operation)]}
  | clearing {call : Nat} {c : KeyCall} (hcall : s.calls[call]? = some c) (hclear : c.operation = .clear)
      {stored : Option KeyText} (hphase : c.phase = .applied stored) :
      Moves s (.resume call) (s.setPhase call c .clearingDeviceId)
  | finished {call : Nat} {c : KeyCall} (hcall : s.calls[call]? = some c) (hending : c.Ending)
      {stored : Option KeyText} (hphase : c.phase = .applied stored ∨ c.phase = .clearingDeviceId) :
      Moves s (.resume call) (s.finish call c stored)

variable {s t : GroupKeyRun} {e : KeyEvent}

theorem moves_of_step (h : s.step e = some t) : Moves s e t := by
  cases e with
  | ensureForNewAccount key =>
    simp only [step] at h
    split at h
    · obtain rfl := Option.some.inj h
      exact .refused (by simp)
    · split_ifs at h with hlen
      obtain rfl := Option.some.inj h
      exact .started (by simp) (by simp [hlen])
  | replace key =>
    simp only [step] at h
    split_ifs at h with hlen
    · obtain rfl := Option.some.inj h
      exact .refused (by simp)
    · obtain rfl := Option.some.inj h
      exact .started (by simp) (by simpa using hlen)
  | clear =>
    obtain rfl := Option.some.inj h
    exact .started (by simp) (by simp)
  | takeEffect call =>
    simp only [step] at h
    split at h
    · next c hcall =>
      split_ifs at h with hphase
      obtain rfl := Option.some.inj h
      exact .applied hcall hphase
    · cases h
  | resume call =>
    simp only [step] at h
    split at h
    · next c hcall =>
      obtain ⟨operation, phase⟩ := c
      cases phase with
      | issued | finished => cases operation <;> cases h
      | applied stored =>
        cases operation with
        | clear =>
          obtain rfl := Option.some.inj h
          exact .clearing hcall rfl rfl
        | loadFromStorage | ensureForNewAccount | replace =>
          obtain rfl := Option.some.inj h
          exact .finished hcall trivial (.inl rfl)
      | clearingDeviceId =>
        cases operation <;>
        · obtain rfl := Option.some.inj h
          exact .finished hcall trivial (.inr rfl)
    · cases h

/-! ### What a call leaves and shows -/

/-- Keys have the right length, and what a call has left in the slot comes from its
operation. -/
structure Sound (s : GroupKeyRun) : Prop where
  length : ∀ c ∈ s.calls, ∀ key, c.operation = .ensureForNewAccount key ∨ c.operation = .replace key →
    key.length = groupKeyLengthBytes
  left : ∀ c ∈ s.calls, ∀ stored, c.phase = .applied stored → ∃ found, stored = c.operation.effect found
  clearing : ∀ c ∈ s.calls, c.phase = .clearingDeviceId → c.operation = .clear

theorem init_sound (stored : Option KeyText) : Sound {stored} := by
  constructor <;> simp

/-- A call set in place of another of the same operation. -/
theorem Sound.setPhase (h : s.Sound) {call : Nat} {c : KeyCall} (hcall : s.calls[call]? = some c) (phase : KeyPhase)
    (hleft : ∀ stored, phase = .applied stored → ∃ found, stored = c.operation.effect found)
    (hclearing : phase = .clearingDeviceId → c.operation = .clear) : (s.setPhase call c phase).Sound := by
  have hc := List.mem_of_getElem? hcall
  constructor
  · intro c' hc'
    rcases List.mem_or_eq_of_mem_set hc' with hold | rfl
    · exact h.length c' hold
    · exact h.length c hc
  · intro c' hc'
    rcases List.mem_or_eq_of_mem_set hc' with hold | rfl
    · exact h.left c' hold
    · exact hleft
  · intro c' hc'
    rcases List.mem_or_eq_of_mem_set hc' with hold | rfl
    · exact h.clearing c' hold
    · exact hclearing

theorem Sound.step (h : s.Sound) (hm : Moves s e t) : t.Sound := by
  cases hm with
  | refused => exact h
  | started he hkey =>
    rename_i operation
    have hmem : ∀ {c : KeyCall}, c ∈ (s.start operation).calls → c ∈ s.calls ∨ c = {operation} := by
      intro c hc
      simpa [start] using hc
    constructor
    · intro c hc
      rcases hmem hc with hold | rfl
      · exact h.length c hold
      · exact hkey
    · intro c hc
      rcases hmem hc with hold | rfl
      · exact h.left c hold
      · simp
    · intro c hc
      rcases hmem hc with hold | rfl
      · exact h.clearing c hold
      · simp
  | applied hcall hphase =>
    have := h.setPhase hcall (.applied _) (fun _ heq => ⟨s.stored, KeyPhase.applied.inj heq.symm⟩) (by simp)
    exact ⟨this.length, this.left, this.clearing⟩
  | clearing hcall hclear => exact h.setPhase hcall .clearingDeviceId (by simp) fun _ => hclear
  | finished hcall =>
    have := h.setPhase hcall .finished (by simp) (by simp)
    exact ⟨this.length, this.left, this.clearing⟩

/-- What a call shows at its end is what it has left in the slot. -/
theorem Sound.keyShown_result (h : s.Sound) {call : Nat} {c : KeyCall} (hcall : s.calls[call]? = some c)
    {stored : Option KeyText} (hphase : c.phase = .applied stored ∨ c.phase = .clearingDeviceId) :
    keyShown (c.operation.result stored) = c.left := by
  have hc := List.mem_of_getElem? hcall
  rcases hphase with hphase | hphase
  · obtain ⟨found, rfl⟩ := h.left c hc stored hphase
    have hleft : c.left = keyIn (c.operation.effect found) := by simp only [KeyCall.left, hphase]
    rw [hleft]
    cases hop : c.operation with
    | loadFromStorage => exact keyShown_loadedState found
    | ensureForNewAccount key => exact (keyIn_encodeKey (h.length c hc key (.inl hop))).symm
    | replace key => exact (keyIn_encodeKey (h.length c hc key (.inr hop))).symm
    | clear => rfl
  · have hleft : c.left = none := by simp only [KeyCall.left, hphase]
    rw [hleft, h.clearing c hc hphase]
    rfl

/-! ### One step -/

theorem not_quiet_of_mem {c : KeyCall} (hc : c ∈ s.calls) (hphase : c.phase ≠ .finished) : ¬ s.Quiet :=
  fun hquiet => hphase (hquiet c hc)

theorem mem_setPhase_self {call : Nat} {c : KeyCall} (hcall : s.calls[call]? = some c) (phase : KeyPhase) :
    {c with phase} ∈ (s.setPhase call c phase).calls :=
  List.mem_set (List.getElem?_eq_some_iff.mp hcall).1 _

/-- Once a call has finished, the service is quiet if the others have. -/
theorem quiet_finish_iff (call : Nat) (c : KeyCall) (stored : Option KeyText) :
    (s.finish call c stored).Quiet ↔ s.Last call := by
  constructor
  · intro hquiet i c' hc' hne
    exact hquiet c' (List.mem_of_getElem? ((List.getElem?_set_ne (Ne.symm hne)).trans hc'))
  · intro hlast c' hc'
    obtain ⟨i, hi⟩ := List.mem_iff_getElem?.mp hc'
    rcases Records.of_set hi with ⟨rfl, rfl⟩ | ⟨hne, hold⟩
    · rfl
    · exact hlast i c' hold hne

/-- **One step keeps the key exactly when it is not overtaken.** -/
theorem keyKept_step (hs : s.Sound) (h : s.KeyKept) (hm : Moves s e t) : t.KeyKept ↔ s.NotOvertaken e := by
  cases hm with
  | refused he =>
    refine iff_of_true h ?_
    cases e with
    | takeEffect call => exact absurd rfl (he call).1
    | resume call => exact absurd rfl (he call).2
    | _ => trivial
  | started he hkey =>
    refine iff_of_true ⟨fun hquiet => absurd hquiet ?_, h.unwritten, h.unshown⟩ ?_
    · exact not_quiet_of_mem (List.mem_append_right _ (List.mem_singleton_self _)) (by simp)
    · cases e with
      | takeEffect call => exact absurd rfl (he call).1
      | resume call => exact absurd rfl (he call).2
      | _ => trivial
  | applied hcall hphase =>
    rename_i call c
    constructor
    · intro ht key hkey
      obtain rfl := Option.some.inj (hcall.symm.trans hkey)
      exact ht.unwritten s.stored key (List.mem_append_right _ (List.mem_singleton_self _))
    · intro hc
      refine ⟨fun hquiet => absurd hquiet ?_, ?_, h.unshown⟩
      · exact not_quiet_of_mem (mem_setPhase_self hcall _) (by simp)
      · intro found key hmem
        rcases List.mem_append.mp hmem with hold | hnew
        · exact h.unwritten found key hold
        · obtain ⟨rfl, hop⟩ := Prod.mk.inj (List.mem_singleton.mp hnew)
          obtain ⟨operation, phase⟩ := c
          obtain rfl : phase = .issued := hphase
          exact hc key (hop ▸ hcall)
  | clearing hcall hclear hphase =>
    rename_i call c stored
    refine iff_of_true ⟨fun hquiet => absurd hquiet ?_, h.unwritten, h.unshown⟩ ?_
    · exact not_quiet_of_mem (mem_setPhase_self hcall _) (by simp)
    · intro c' hc' hending
      obtain rfl := Option.some.inj (hcall.symm.trans hc')
      simp [KeyCall.Ending, hclear, hphase] at hending
  | finished hcall hending hphase =>
    rename_i call c stored
    have hshown := hs.keyShown_result hcall hphase
    constructor
    · intro ht c' hc' _
      obtain rfl := Option.some.inj (hcall.symm.trans hc')
      refine ⟨fun hlast => ?_, fun key replaced hop hhead => ?_⟩
      · have hagree : keyShown (c.operation.result stored) = keyIn s.stored :=
          ht.agree ((quiet_finish_iff _ _ stored).mpr hlast)
        exact hagree.symm.trans hshown
      · have hchain := (List.isChain_cons.mp ht.unshown).1 _ hhead
        exact not_ne_iff.mp fun hne => hchain ⟨key, replaced, hop, rfl, hne⟩
    · intro hc
      obtain ⟨hlast, hkeys⟩ := hc c hcall hending
      refine ⟨fun hquiet => ?_, h.unwritten, List.isChain_cons.mpr ⟨fun earlier hhead => ?_, h.unshown⟩⟩
      · exact hshown.trans (hlast ((quiet_finish_iff _ _ stored).mp hquiet)).symm
      · rintro ⟨key, replaced, hop, rfl, hne⟩
        exact hne (hkeys key replaced hop hhead)

end GroupKeyRun

/-! ### All runs -/

/-- **The key is kept exactly in the runs where no call is overtaken.** -/
theorem keyKept_iff (stored : Option KeyText) (events : List KeyEvent) :
    (groupKeys stored).Along GroupKeyRun.KeyKept (groupKeys stored).init events ↔
      (groupKeys stored).Meets GroupKeyRun.NotOvertaken (groupKeys stored).init events := by
  have hkept : GroupKeyRun.KeyKept (groupKeys stored).init := by
    refine ⟨fun hquiet => ?_, by simp [groupKeys], .nil⟩
    exact absurd (hquiet _ (List.mem_singleton_self _)) (by simp)
  refine Transition.System.along_iff_meets_of_invariant (I := fun s : GroupKeyRun => s.Sound ∧ s.KeyKept) (fun _ => And.right)
    ?_ ⟨GroupKeyRun.init_sound stored, hkept⟩
  rintro s e t ⟨hsound, hkept⟩ hst
  have hm := GroupKeyRun.moves_of_step hst
  have hstep := GroupKeyRun.keyKept_step hsound hkept hm
  exact ⟨fun hc => ⟨hsound.step hm, hstep.mpr hc⟩, hstep.mp⟩

/-- A call made while the slot is still being read puts a new key over the one there. -/
theorem stored_key_is_rotated :
    ∃ t, (groupKeys (some (encodeKey (List.replicate 32 1)))).run
        (groupKeys (some (encodeKey (List.replicate 32 1)))).init
        [.takeEffect 0, .ensureForNewAccount (List.replicate 32 2), .takeEffect 1, .resume 0, .resume 1] = some t ∧
      t.Quiet ∧ keyShown t.state = some (List.replicate 32 2) ∧ keyIn t.stored = some (List.replicate 32 2) ∧
      ¬ t.KeyKept := by
  refine ⟨_, rfl, ?_, by decide +kernel, by decide +kernel, ?_⟩
  · simp only [GroupKeyRun.Quiet]
    decide +kernel
  · intro hkept
    have hwritten := hkept.unwritten (some (encodeKey (List.replicate 32 1))) (List.replicate 32 2)
      (by decide +kernel)
    revert hwritten
    decide +kernel

end MagicShare.Account
