import Mathlib.Data.List.Nodup
import MagicShare.Base.Records
import MagicShare.Base.Transition

/-! Operations on a value in memory with a copy in storage, without mutual exclusion.

An operation reads the value when it starts, writes what it makes of it to storage and
puts it in memory at its end; one that changes nothing puts back what it has read. So an
operation that comes in between is lost. If none does (`Current`), the operations have
together the effect of one after another, in an order that keeps one before another that starts
after its end, and storage has what memory has (`Ordered.step`, `Ordered.noneLost`). -/
namespace Snapshots
variable {σ ι : Type*}

/-! ### Operations -/

/-- What an operation makes of the value it reads. -/
inductive Outcome (σ : Type*) where
  /-- It stores this value. -/
  | saves (result : σ)
  /-- It returns the value it has read, at once or after a turn of the event loop. -/
  | keeps
  | rereads

/-- The value after the operation. -/
def Outcome.value (read : σ) : Outcome σ → σ
  | .saves result => result
  | .keeps | .rereads => read

inductive Phase where
  /-- It is writing to storage; `landed` once storage has its value. -/
  | saving (landed : Bool)
  | rereading
  /-- It is about to put back the value it has read. -/
  | returning
  | finished
  deriving DecidableEq

def Phase.isSaving : Phase → Bool
  | .saving _ => true
  | _ => false

structure Call (σ ι : Type*) where
  operation : ι
  read : σ
  phase : Phase
  /-- The calls that had finished when it started. -/
  after : List Nat
  deriving DecidableEq

structure Snapshots (σ ι : Type*) where
  memory : σ
  stored : σ
  calls : List (Call σ ι) := []
  /-- The calls in the order in which they have an effect. -/
  order : List Nat := []
  deriving DecidableEq

inductive Event (ι : Type*) where
  | starts (operation : ι)
  /-- Storage has the value of a call. -/
  | landed (call : Nat)
  | rereads (call : Nat)
  /-- A call puts its value in memory. -/
  | installed (call : Nat)

section
variable (effect : ι → σ → Outcome σ)

/-- An operation on a value by itself. -/
def apply (operation : ι) (value : σ) : σ := (effect operation value).value value

/-- The value a call puts in memory. -/
def Call.result (c : Call σ ι) : σ := if c.phase.isSaving then apply effect c.operation c.read else c.read

def finishedCalls (calls : List (Call σ ι)) : List Nat :=
  (List.range calls.length).filter fun i => calls[i]?.any fun c => c.phase = .finished

/-- A call that changes nothing has no effect from its start on. -/
def start (s : Snapshots σ ι) (operation : ι) : Snapshots σ ι :=
  let call (phase : Phase) : Call σ ι := {operation, read := s.memory, phase, after := finishedCalls s.calls}
  match effect operation s.memory with
  | .saves _ => {s with calls := s.calls ++ [call (.saving false)]}
  | .keeps => {s with calls := s.calls ++ [call .returning], order := s.order ++ [s.calls.length]}
  | .rereads => {s with calls := s.calls ++ [call .rereading], order := s.order ++ [s.calls.length]}

/-- A call puts its value in memory and ends. -/
def install (s : Snapshots σ ι) (i : Nat) (c : Call σ ι) : Snapshots σ ι :=
  {s with
    memory := c.result effect
    calls := s.calls.set i {c with phase := .finished}
    order := if c.phase.isSaving then s.order ++ [i] else s.order}

def step (s : Snapshots σ ι) : Event ι → Option (Snapshots σ ι)
  | .starts operation => some (start effect s operation)
  | .landed i =>
    match s.calls[i]? with
    | some c =>
      if c.phase = .saving false then
        some {s with stored := c.result effect, calls := s.calls.set i {c with phase := .saving true}}
      else none
    | none => none
  | .rereads i =>
    match s.calls[i]? with
    | some c =>
      if c.phase = .rereading then
        some {s with calls := s.calls.set i {c with read := s.memory, phase := .returning}}
      else none
    | none => none
  | .installed i =>
    match s.calls[i]? with
    | some c =>
      if c.phase = .saving true ∨ c.phase = .returning then some (install effect s i c) else none
    | none => none

/-- The operations on a value that is read from storage. -/
def snapshots (value : σ) : Transition.System (Snapshots σ ι) (Event ι) where
  init := {memory := value, stored := value}
  step := step effect

/-! ### The property and its condition -/

/-- The operations one after another, in this order. -/
def inTurn (value : σ) (calls : List (Call σ ι)) (order : List Nat) : σ :=
  let operations := order.filterMap fun i => (calls.map Call.operation)[i]?
  operations.foldl (fun value operation => apply effect operation value) value

/-- The order has every call once, and none before another that had finished when it
started. -/
structure Serial (calls : List (Call σ ι)) (order : List Nat) : Prop where
  perm : order.Perm (List.range calls.length)
  realTime : order.Pairwise fun i j => ∀ after ∈ (calls.map Call.after)[i]?, j ∉ after

/-- Once all calls have finished, storage has what is in memory, and that is what the
operations make of the value in some order. -/
def NoneLost (value : σ) (s : Snapshots σ ι) : Prop :=
  (∀ c ∈ s.calls, c.phase = .finished) →
    s.stored = s.memory ∧ ∃ order, Serial s.calls order ∧ s.memory = inTurn effect value s.calls order

/-- What is in memory when a call ends is what it has read, or something it makes the same of if
it stores it; and what it puts there is what storage has, unless another call is storing. -/
def Current (s : Snapshots σ ι) : Event ι → Prop
  | .installed i => ∀ c ∈ s.calls[i]?,
    (if c.phase.isSaving then
      apply effect c.operation s.memory = apply effect c.operation c.read ∧
        (s.stored = apply effect c.operation c.read ∨ ∃ other ∈ s.calls.eraseIdx i, other.phase.isSaving = true)
    else s.memory = c.read)
  | _ => True

/-- A call starts once the others have finished. -/
def OneAtATime (s : Snapshots σ ι) : Event ι → Prop
  | .starts _ => ∀ c ∈ s.calls, c.phase = .finished
  | _ => True

end

instance [DecidableEq σ] (effect : ι → σ → Outcome σ) (s : Snapshots σ ι) :
    (e : Event ι) → Decidable (Current effect s e)
  | .installed i => inferInstanceAs (Decidable (∀ c ∈ s.calls[i]?, if c.phase.isSaving then
      apply effect c.operation s.memory = apply effect c.operation c.read ∧
        (s.stored = apply effect c.operation c.read ∨ ∃ other ∈ s.calls.eraseIdx i, other.phase.isSaving = true)
    else s.memory = c.read))
  | .starts _ | .landed _ | .rereads _ => .isTrue trivial

variable {effect : ι → σ → Outcome σ} {value : σ} {s t : Snapshots σ ι} {e : Event ι}

/-! ### Steps -/

/-- What an event does, by what the call is at. -/
inductive Moves (effect : ι → σ → Outcome σ) (s : Snapshots σ ι) : Event ι → Snapshots σ ι → Prop
  | starts (operation : ι) : Moves effect s (.starts operation) (start effect s operation)
  | landed {i : Nat} {c : Call σ ι} (hget : s.calls[i]? = some c) (hphase : c.phase = .saving false) :
      Moves effect s (.landed i)
        {s with stored := c.result effect, calls := s.calls.set i {c with phase := .saving true}}
  | rereads {i : Nat} {c : Call σ ι} (hget : s.calls[i]? = some c) (hphase : c.phase = .rereading) :
      Moves effect s (.rereads i) {s with calls := s.calls.set i {c with read := s.memory, phase := .returning}}
  | installed {i : Nat} {c : Call σ ι} (hget : s.calls[i]? = some c)
      (hphase : c.phase = .saving true ∨ c.phase = .returning) : Moves effect s (.installed i) (install effect s i c)

theorem moves_of_step (h : step effect s e = some t) : Moves effect s e t := by
  cases e with
  | starts operation =>
    obtain rfl := Option.some.inj h
    exact .starts operation
  | landed i | rereads i | installed i =>
    simp only [step] at h
    split at h
    · next c hget =>
      split at h
      · next hphase =>
        obtain rfl := Option.some.inj h
        constructor
        · exact hget
        · exact hphase
      · cases h
    · cases h

/-! ### One operation after another -/

theorem inTurn_append {calls : List (Call σ ι)} {order : List Nat} {i : Nat} {c : Call σ ι} (hget : calls[i]? = some c) :
    inTurn effect value calls (order ++ [i]) = apply effect c.operation (inTurn effect value calls order) := by
  simp [inTurn, hget]

/-- A call that has no effect yet. -/
theorem inTurn_calls_append {calls : List (Call σ ι)} {order : List Nat} (c : Call σ ι)
    (horder : ∀ i ∈ order, i < calls.length) :
    inTurn effect value (calls ++ [c]) order = inTurn effect value calls order := by
  have hsame : order.filterMap (fun i => ((calls ++ [c]).map Call.operation)[i]?) =
      order.filterMap fun i => (calls.map Call.operation)[i]? :=
    List.filterMap_congr fun i hi => by
      rw [List.map_append, List.getElem?_append_left (by simpa using horder i hi)]
  rw [inTurn, hsame, inTurn]

theorem inTurn_set {calls : List (Call σ ι)} {order : List Nat} {i : Nat} {c d : Call σ ι} (hget : calls[i]? = some c)
    (hoperation : d.operation = c.operation) :
    inTurn effect value (calls.set i d) order = inTurn effect value calls order := by
  rw [inTurn, Records.map_set hget hoperation, inTurn]

/-! ### What holds meanwhile -/

/-- The calls with an effect so far are those that are not storing; they have it in
order. -/
structure Ordered (effect : ι → σ → Outcome σ) (value : σ) (s : Snapshots σ ι) : Prop where
  folded : s.memory = inTurn effect value s.calls s.order
  kept : s.stored = s.memory ∨ ∃ c ∈ s.calls, c.phase.isSaving = true
  ordered : ∀ i, i ∈ s.order ↔ (s.calls.map fun c => c.phase.isSaving)[i]? = some false
  nodup : s.order.Nodup
  realTime : s.order.Pairwise fun i j => ∀ after ∈ (s.calls.map Call.after)[i]?, j ∉ after
  finished : ∀ c ∈ s.calls, ∀ j ∈ c.after, ∃ d, s.calls[j]? = some d ∧ d.phase = .finished

namespace Ordered

theorem init : Ordered effect value (snapshots effect value).init where
  folded := rfl
  kept := .inl rfl
  ordered := by simp [snapshots]
  nodup := List.nodup_nil
  realTime := .nil
  finished := by simp [snapshots]

theorem lt_length (h : Ordered effect value s) {i : Nat} (hi : i ∈ s.order) : i < s.calls.length := by
  have hlt := (List.getElem?_eq_some_iff.mp ((h.ordered i).mp hi)).1
  rwa [List.length_map] at hlt

/-- A call that has not finished is before none. -/
theorem notMem_after (h : Ordered effect value s) {i : Nat} {c : Call σ ι} (hget : s.calls[i]? = some c)
    (hphase : c.phase ≠ .finished) : ∀ c ∈ s.calls, i ∉ c.after := by
  intro d hd hi
  obtain ⟨c', hget', hphase'⟩ := h.finished d hd i hi
  obtain rfl := Option.some.inj (hget.symm.trans hget')
  exact hphase hphase'

theorem notMem_order (h : Ordered effect value s) {i : Nat} {c : Call σ ι} (hget : s.calls[i]? = some c)
    (hphase : c.phase.isSaving = true) : i ∉ s.order := by
  intro hi
  have hskips := (h.ordered i).mp hi
  rw [List.getElem?_map, hget, Option.map_some, hphase] at hskips
  cases hskips

theorem mem_finishedCalls {calls : List (Call σ ι)} {i : Nat} :
    i ∈ finishedCalls calls ↔ ∃ c, calls[i]? = some c ∧ c.phase = .finished := by
  rw [finishedCalls, List.mem_filter, List.mem_range]
  constructor
  · intro h
    obtain ⟨c, hget, hphase⟩ := (Option.any_eq_true _ _).mp h.2
    exact ⟨c, hget, of_decide_eq_true hphase⟩
  · rintro ⟨c, hget, hphase⟩
    exact ⟨(List.getElem?_eq_some_iff.mp hget).1, by simp [hget, hphase]⟩

/-- The calls that had finished when one started are as they were after another one has
started. -/
theorem finished_append (h : Ordered effect value s) {c : Call σ ι} (hafter : c.after = finishedCalls s.calls) :
    ∀ c' ∈ s.calls ++ [c], ∀ j ∈ c'.after, ∃ d, (s.calls ++ [c])[j]? = some d ∧ d.phase = .finished := by
  intro c' hc' j hj
  have hold : ∃ d, s.calls[j]? = some d ∧ d.phase = .finished := by
    rcases List.mem_append.mp hc' with hc' | hc'
    · exact h.finished c' hc' j hj
    · obtain rfl := List.mem_singleton.mp hc'
      exact mem_finishedCalls.mp (hafter ▸ hj)
  obtain ⟨d, hget, hphase⟩ := hold
  exact ⟨d, Records.append hget, hphase⟩

theorem finished_set (h : Ordered effect value s) {i : Nat} {c d : Call σ ι} (hget : s.calls[i]? = some c)
    (hphase : c.phase ≠ .finished) (hafter : d.after = c.after) :
    ∀ c' ∈ s.calls.set i d, ∀ j ∈ c'.after, ∃ d', (s.calls.set i d)[j]? = some d' ∧ d'.phase = .finished := by
  intro c' hc' j hj
  have hold : ∃ c'' ∈ s.calls, j ∈ c''.after := by
    rcases List.mem_or_eq_of_mem_set hc' with hc' | rfl
    · exact ⟨c', hc', hj⟩
    · exact ⟨c, List.mem_of_getElem? hget, hafter ▸ hj⟩
  obtain ⟨c'', hc'', hj⟩ := hold
  obtain ⟨d', hget', hphase'⟩ := h.finished c'' hc'' j hj
  have hij : i ≠ j := fun hij => h.notMem_after hget hphase c'' hc'' (hij ▸ hj)
  exact ⟨d', by rw [List.getElem?_set_ne hij, hget'], hphase'⟩

/-- A call that stores something starts. -/
theorem starts_saving (h : Ordered effect value s) {c : Call σ ι} (hafter : c.after = finishedCalls s.calls)
    (hsaving : c.phase.isSaving = true) : Ordered effect value {s with calls := s.calls ++ [c]} where
  folded := by rw [inTurn_calls_append c fun i hi => h.lt_length hi, ← h.folded]
  kept := .inr ⟨c, List.mem_append_right _ (List.mem_singleton_self c), hsaving⟩
  ordered i := by
    rw [h.ordered i, List.map_append]
    refine ⟨Records.append, fun hget => ?_⟩
    rcases Records.of_append hget with hget | ⟨-, hphase⟩
    · exact hget
    · exact absurd (hphase.trans hsaving) (by decide)
  nodup := h.nodup
  realTime := by
    refine h.realTime.imp_of_mem fun {i j} hi _ hij => ?_
    rwa [List.map_append, List.getElem?_append_left (by simpa using h.lt_length hi)]
  finished := h.finished_append hafter

/-- A call that changes nothing starts. -/
theorem starts_skipping (h : Ordered effect value s) {c : Call σ ι} (hafter : c.after = finishedCalls s.calls)
    (hskips : c.phase.isSaving = false) (hsame : apply effect c.operation s.memory = s.memory) :
    Ordered effect value {s with calls := s.calls ++ [c], order := s.order ++ [s.calls.length]} where
  folded := by
    have hget : (s.calls ++ [c])[s.calls.length]? = some c := by simp
    rw [inTurn_append hget, inTurn_calls_append c fun i hi => h.lt_length hi, ← h.folded, hsame]
  kept := by
    refine h.kept.imp_right fun hsaving => ?_
    obtain ⟨d, hd, hphase⟩ := hsaving
    exact ⟨d, List.mem_append_left _ hd, hphase⟩
  ordered i := by
    rw [List.mem_append, h.ordered i, List.mem_singleton, List.map_append]
    refine ⟨fun hi => ?_, fun hget => ?_⟩
    · rcases hi with hget | rfl
      · exact Records.append hget
      · simp [hskips]
    · rcases Records.of_append hget with hget | ⟨hi, -⟩
      · exact .inl hget
      · exact .inr (by rwa [List.length_map] at hi)
  nodup := by
    refine List.nodup_append.mpr ⟨h.nodup, List.nodup_singleton _, fun i hi j hj hij => ?_⟩
    rw [hij, List.mem_singleton.mp hj] at hi
    exact Nat.lt_irrefl _ (h.lt_length hi)
  realTime := by
    refine List.pairwise_append.mpr ⟨?_, List.pairwise_singleton .., ?_⟩
    · refine h.realTime.imp_of_mem fun {i j} hi _ hij => ?_
      rwa [List.map_append, List.getElem?_append_left (by simpa using h.lt_length hi)]
    · intro i hi j hj after hafter' hmem
      obtain rfl := List.mem_singleton.mp hj
      rw [List.map_append, List.getElem?_append_left (by simpa using h.lt_length hi)] at hafter'
      obtain ⟨d, hd, rfl⟩ := List.mem_map.mp (List.mem_of_getElem? hafter')
      obtain ⟨d', hget, -⟩ := h.finished d hd _ hmem
      exact Nat.lt_irrefl _ (List.getElem?_eq_some_iff.mp hget).1
  finished := h.finished_append hafter

/-- A call goes on. -/
theorem goesOn (h : Ordered effect value s) {i : Nat} {c d : Call σ ι} {stored : σ} (hget : s.calls[i]? = some c)
    (hphase : c.phase ≠ .finished) (hoperation : d.operation = c.operation) (hafter : d.after = c.after)
    (hsaving : d.phase.isSaving = c.phase.isSaving)
    (hkept : stored = s.memory ∨ ∃ c ∈ s.calls.set i d, c.phase.isSaving = true) :
    Ordered effect value {s with stored, calls := s.calls.set i d} where
  folded := by rw [inTurn_set hget hoperation, ← h.folded]
  kept := hkept
  ordered j := by
    rw [Records.map_set hget hsaving]
    exact h.ordered j
  nodup := h.nodup
  realTime := by
    rw [Records.map_set hget hafter]
    exact h.realTime
  finished := h.finished_set hget hphase hafter

/-- A call that has stored something ends. -/
theorem installs (h : Ordered effect value s) {i : Nat} {c : Call σ ι} (hget : s.calls[i]? = some c)
    (hphase : c.phase = .saving true) (hcurrent : Current effect s (.installed i)) :
    Ordered effect value (install effect s i c) := by
  have hsaving : c.phase.isSaving = true := by rw [hphase]; rfl
  have hresult : c.result effect = apply effect c.operation c.read := if_pos hsaving
  have hunfinished : c.phase ≠ .finished := by
    rw [hphase]
    decide
  obtain ⟨hmemory, hstored⟩ : apply effect c.operation s.memory = apply effect c.operation c.read ∧
      (s.stored = apply effect c.operation c.read ∨ ∃ other ∈ s.calls.eraseIdx i, other.phase.isSaving = true) := by
    have hif := hcurrent c hget
    rwa [if_pos hsaving] at hif
  have horder : (install effect s i c).order = s.order ++ [i] := if_pos hsaving
  exact {
    folded := by
      have hset : (s.calls.set i {c with phase := .finished})[i]? = some {c with phase := .finished} :=
        Records.set_self hget
      rw [horder]
      change c.result effect = inTurn effect value (s.calls.set i {c with phase := .finished}) (s.order ++ [i])
      rw [inTurn_append hset, inTurn_set (d := {c with phase := .finished}) hget rfl, ← h.folded, hresult, hmemory]
    kept := by
      refine hstored.imp (fun heq => ?_) Records.exists_set_of_eraseIdx
      exact heq.trans hresult.symm
    ordered := fun j => by
      change j ∈ (install effect s i c).order ↔
        ((s.calls.set i {c with phase := .finished}).map fun c => c.phase.isSaving)[j]? = some false
      rw [horder, List.mem_append, List.mem_singleton, h.ordered j, List.map_set]
      by_cases hji : j = i
      · subst hji
        simp [(List.getElem?_eq_some_iff.mp hget).1, Phase.isSaving]
      · rw [List.getElem?_set_ne (Ne.symm hji)]
        exact or_iff_left hji
    nodup := by
      rw [horder]
      refine List.nodup_append.mpr ⟨h.nodup, List.nodup_singleton i, fun k hk j hj hkj => ?_⟩
      rw [hkj, List.mem_singleton.mp hj] at hk
      exact h.notMem_order hget hsaving hk
    realTime := by
      rw [horder]
      change (s.order ++ [i]).Pairwise fun k j =>
        ∀ after ∈ ((s.calls.set i {c with phase := .finished}).map Call.after)[k]?, j ∉ after
      rw [Records.map_set (y := {c with phase := .finished}) hget rfl]
      refine List.pairwise_append.mpr ⟨h.realTime, List.pairwise_singleton .., fun k _ j hj after hafter => ?_⟩
      obtain rfl := List.mem_singleton.mp hj
      obtain ⟨d, hd, rfl⟩ := List.mem_map.mp (List.mem_of_getElem? hafter)
      exact h.notMem_after hget hunfinished d hd
    finished := h.finished_set hget hunfinished rfl }

theorem step (h : Ordered effect value s) (hcurrent : Current effect s e) (hst : step effect s e = some t) :
    Ordered effect value t := by
  cases moves_of_step hst with
  | starts operation =>
    rw [start]
    split
    · exact h.starts_saving rfl rfl
    · next hkeeps => exact h.starts_skipping rfl rfl (by rw [apply, hkeeps, Outcome.value])
    · next hrereads => exact h.starts_skipping rfl rfl (by rw [apply, hrereads, Outcome.value])
  | landed hget hphase =>
    refine h.goesOn hget (by rw [hphase]; decide) rfl rfl (by rw [hphase]; rfl) (.inr ?_)
    exact ⟨_, List.mem_of_getElem? (Records.set_self hget), rfl⟩
  | rereads hget hphase =>
    refine h.goesOn hget (by rw [hphase]; decide) rfl rfl (by rw [hphase]; rfl) (h.kept.imp_right ?_)
    exact Records.exists_set_of_ne hget (by rw [hphase]; decide)
  | installed hget hphase =>
    rcases hphase with hphase | hphase
    · exact h.installs hget hphase hcurrent
    · rename_i i c
      have hread : s.memory = c.read := by
        have hif := hcurrent c hget
        rwa [hphase, if_neg (by decide)] at hif
      have heq : install effect s i c = {s with calls := s.calls.set i {c with phase := .finished}} := by
        simp [install, Call.result, hphase, Phase.isSaving, ← hread]
      rw [heq]
      refine h.goesOn hget (by rw [hphase]; decide) rfl rfl (by rw [hphase]; rfl) (h.kept.imp_right ?_)
      exact Records.exists_set_of_ne hget (by rw [hphase]; decide)

theorem noneLost (h : Ordered effect value s) : NoneLost effect value s := by
  intro hfinished
  have hkept : s.stored = s.memory := by
    rcases h.kept with heq | ⟨c, hc, hsaving⟩
    · exact heq
    · rw [hfinished c hc] at hsaving
      cases hsaving
  refine ⟨hkept, s.order, ⟨?_, h.realTime⟩, h.folded⟩
  refine (List.perm_ext_iff_of_nodup h.nodup List.nodup_range).mpr fun i => ⟨fun hi => ?_, fun hi => ?_⟩
  · exact List.mem_range.mpr (h.lt_length hi)
  · have hget := List.getElem?_eq_getElem (List.mem_range.mp hi)
    rw [h.ordered i, List.getElem?_map, hget, Option.map_some, hfinished _ (List.mem_of_getElem? hget)]
    rfl

end Ordered

/-! ### One at a time -/

/-- A call that has not finished is the only one, and nothing has changed since it
started. -/
def Alone (effect : ι → σ → Outcome σ) (s : Snapshots σ ι) : Prop :=
  ∀ (i : Nat) (c : Call σ ι), s.calls[i]? = some c → c.phase ≠ .finished →
    c.read = s.memory ∧ (c.phase = .saving true → s.stored = c.result effect) ∧
      ∀ (j : Nat) (d : Call σ ι), s.calls[j]? = some d → j ≠ i → d.phase = .finished

namespace Alone

theorem init : Alone effect (snapshots effect value).init := by
  intro i c hget
  simp [snapshots] at hget

/-- A call starts. -/
theorem append {memory stored : σ} {calls : List (Call σ ι)} {order : List Nat} {c : Call σ ι}
    (hfinished : ∀ c ∈ calls, c.phase = .finished) (hread : c.read = memory) (hphase : c.phase ≠ .saving true) :
    Alone effect ⟨memory, stored, calls ++ [c], order⟩ := by
  intro i d hget hunfinished
  rcases Records.of_append hget with hget | ⟨rfl, rfl⟩
  · exact absurd (hfinished d (List.mem_of_getElem? hget)) hunfinished
  · refine ⟨hread, fun hsaving => absurd hsaving hphase, fun j d' hget' hne => ?_⟩
    rcases Records.of_append hget' with hget' | ⟨heq, -⟩
    · exact hfinished d' (List.mem_of_getElem? hget')
    · exact absurd heq hne

/-- The call goes on. -/
theorem set (h : Alone effect s) {i : Nat} {c d : Call σ ι} {memory stored : σ} {order : List Nat}
    (hget : s.calls[i]? = some c) (hunfinished : c.phase ≠ .finished)
    (hd : d.phase ≠ .finished → d.read = memory ∧ (d.phase = .saving true → stored = d.result effect)) :
    Alone effect ⟨memory, stored, s.calls.set i d, order⟩ := by
  obtain ⟨-, -, hothers⟩ := h i c hget hunfinished
  intro j c' hget' hunfinished'
  rcases Records.of_set hget' with ⟨rfl, rfl⟩ | ⟨hne, hget'⟩
  · refine ⟨(hd hunfinished').1, (hd hunfinished').2, fun k d' hgetk hne => ?_⟩
    rcases Records.of_set hgetk with ⟨heq, -⟩ | ⟨-, hgetk⟩
    · exact absurd heq hne
    · exact hothers k d' hgetk hne
  · exact absurd (hothers j c' hget' hne) hunfinished'

theorem step (h : Alone effect s) (hone : OneAtATime s e) (hst : step effect s e = some t) : Alone effect t := by
  cases moves_of_step hst with
  | starts operation =>
    rw [start]
    split
    · exact append hone rfl (by simp)
    · exact append hone rfl (by simp)
    · exact append hone rfl (by simp)
  | landed hget hphase =>
    have hread := (h _ _ hget (by rw [hphase]; decide)).1
    refine h.set hget (by rw [hphase]; decide) fun _ => ⟨hread, fun _ => ?_⟩
    simp [Call.result, hphase, Phase.isSaving]
  | rereads hget hphase =>
    exact h.set hget (by rw [hphase]; decide) fun _ => ⟨rfl, fun hsaving => by cases hsaving⟩
  | installed hget hphase =>
    refine h.set hget ?_ fun hne => absurd rfl hne
    rcases hphase with hphase | hphase
    · rw [hphase]
      decide
    · rw [hphase]
      decide

/-- What a call that ends has read is still in memory, and storage has what it stored. -/
theorem current (h : Alone effect s) (hst : Snapshots.step effect s e = some t) : Current effect s e := by
  cases moves_of_step hst with
  | starts | landed | rereads => trivial
  | installed hget hphase =>
    rename_i i c
    intro c' hget'
    obtain rfl := Option.some.inj (hget.symm.trans hget')
    rcases hphase with hphase | hphase
    · obtain ⟨hread, hstored, -⟩ := h i c hget (by rw [hphase]; decide)
      have hsaving : c.phase.isSaving = true := by rw [hphase]; rfl
      rw [if_pos hsaving]
      refine ⟨by rw [hread], .inl ?_⟩
      rw [hstored hphase, Call.result, if_pos hsaving]
    · obtain ⟨hread, -, -⟩ := h i c hget (by rw [hphase]; decide)
      rw [hphase, if_neg (by decide)]
      exact hread.symm

end Alone

end Snapshots
