import MagicShare.Base.Transition

/-! Many copies of one machine, told apart by a key.

A system puts down entries: a key, what came in, and what was answered. If each entry is a
step of the machine that belongs to its key, a key is answered what the machine answers to
that key's entries alone (`log_follows`); the entries of other keys have no part in it. -/
namespace Keyed
open Transition
variable {κ ι ο σ : Type*}

/-- The entries of one key. -/
def own [DecidableEq κ] (k : κ) (entries : List (κ × ι × ο)) : List (ι × ο) :=
  entries.filterMap fun e => if e.1 = k then some e.2 else none

/-- The answers are those of the machine, from a state on. -/
def Follows (machine : σ → ι → ο × σ) : σ → List (ι × ο) → Prop
  | _, [] => True
  | x, (i, o) :: rest => o = (machine x i).1 ∧ Follows machine (machine x i).2 rest

variable {machine : σ → ι → ο × σ}

/-- The machine has one answer to what comes in. -/
theorem Follows.unique {x : σ} {a b : List (ι × ο)} (ha : Follows machine x a) (hb : Follows machine x b)
    (h : a.map Prod.fst = b.map Prod.fst) : a = b := by
  induction a generalizing b x with
  | nil =>
    cases b with
    | nil => rfl
    | cons => cases h
  | cons first a ih =>
    cases b with
    | nil => cases h
    | cons first' b =>
      obtain ⟨i, o⟩ := first
      obtain ⟨i', o'⟩ := first'
      obtain ⟨rfl, htail⟩ := List.cons.inj h
      obtain ⟨rfl, ha⟩ := ha
      obtain ⟨rfl, hb⟩ := hb
      rw [ih ha hb htail]

variable [DecidableEq κ] {S E : Type*} {M : System S E} {f : S → E → List (κ × ι × ο)}

theorem own_append (k : κ) (a b : List (κ × ι × ο)) : own k (a ++ b) = own k a ++ own k b := List.filterMap_append

/-- A key that is retired stays so and has no more entries. -/
structure Retired (M : System S E) (f : S → E → List (κ × ι × ο)) (retired : S → κ → Prop) : Prop where
  stays : ∀ s e t k, M.step s e = some t → retired s k → retired t k
  silent : ∀ s e k, retired s k → own k (f s e) = []

theorem Retired.log {retired : S → κ → Prop} (h : Retired M f retired) {k : κ} (events : List E) {s : S} (hk : retired s k) :
    own k (M.log f s events) = [] := by
  induction events generalizing s with
  | nil => rfl
  | cons e rest ih =>
    rw [System.log, own_append, h.silent s e k hk]
    cases hst : M.step s e with
    | none => rfl
    | some t => exact ih (h.stays s e t k hst hk)

/-- One step, as the machine of each key sees it: it has no part in it, or it answers. -/
def Part (machine : σ → ι → ο × σ) (before after : σ) (entries : List (ι × ο)) : Prop :=
  entries = [] ∧ after = before ∨ ∃ i, entries = [(i, (machine before i).1)] ∧ after = (machine before i).2

/-- An entry is a step of the machine of its key, and nothing to the others. -/
theorem part_entry {part part' : κ → σ} {key : κ} {i : ι}
    (hpart : ∀ k, part' k = if k = key then (machine (part key) i).2 else part k) (k : κ) :
    Part machine (part k) (part' k) (own k [(key, i, (machine (part key) i).1)]) := by
  rw [hpart]
  by_cases hk : k = key
  · subst hk
    rw [if_pos rfl]
    exact .inr ⟨i, by simp [own], rfl⟩
  · rw [if_neg hk]
    exact .inl ⟨by simp [own, Ne.symm hk], rfl⟩

/-- **Each key is answered by its own machine.** -/
theorem log_follows {retired : S → κ → Prop} (hretired : Retired M f retired) (part : S → κ → σ)
    (disabled : ∀ s e, M.step s e = none → f s e = [])
    (step : ∀ s e t k, M.step s e = some t → own k (f s e) = [] ∧ retired t k ∨
      Part machine (part s k) (part t k) (own k (f s e)))
    (k : κ) (events : List E) (s : S) : Follows machine (part s k) (own k (M.log f s events)) := by
  induction events generalizing s with
  | nil => trivial
  | cons e rest ih =>
    cases hst : M.step s e with
    | none =>
      rw [System.log, hst, disabled s e hst]
      trivial
    | some t =>
      rw [System.log_cons hst, own_append]
      obtain ⟨hnone, hk⟩ | ⟨hnone, hsame⟩ | ⟨i, hone, hnext⟩ := step s e t k hst
      · rw [hnone, hretired.log rest hk]
        trivial
      · rw [hnone, ← hsame]
        exact ih t
      · rw [hone]
        exact ⟨rfl, hnext ▸ ih t⟩

end Keyed
