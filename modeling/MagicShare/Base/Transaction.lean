import Mathlib.Tactic.TypeStar

/-! Serializable transactions over a store.

A transaction body reads one store and either rejects or returns a result with
the writes it staged. The writes are applied in order and all at once: a write
whose precondition fails makes the whole commit fail. So a rejection leaves the
store as it was and a success is one commit (`run_cases`), which is all a proof
about a body needs. -/
namespace Transaction
variable {S W E α : Type*}

/-- The staged writes in order; `none` when a precondition fails. -/
def commit (apply : W → S → Option S) : List W → S → Option S
  | [], s => some s
  | w :: rest, s => (apply w s).bind (commit apply rest)

theorem commit_cons (apply : W → S → Option S) (w : W) (rest : List W) (s : S) :
    commit apply (w :: rest) s = (apply w s).bind (commit apply rest) := rfl

/-- The first write goes through and the rest are committed after it. -/
theorem commit_step {apply : W → S → Option S} {w : W} {s t : S} (h : apply w s = some t)
    (rest : List W) : commit apply (w :: rest) s = commit apply rest t := by
  rw [commit_cons, h]
  rfl

/-- Run a body against a store. `refused` is the error of a failed commit. -/
def run (apply : W → S → Option S) (refused : E) (body : S → Except E (α × List W)) (s : S) :
    Except E α × S :=
  match body s with
  | .error e => (.error e, s)
  | .ok (a, writes) =>
    match commit apply writes s with
    | none => (.error refused, s)
    | some t => (.ok a, t)

variable {apply : W → S → Option S} {refused : E} {body : S → Except E (α × List W)} {s : S}

theorem run_rejected {e : E} (h : body s = .error e) : run apply refused body s = (.error e, s) := by
  simp [run, h]

theorem run_committed {a : α} {writes : List W} {t : S} (h : body s = .ok (a, writes))
    (hc : commit apply writes s = some t) : run apply refused body s = (.ok a, t) := by
  simp [run, h, hc]

theorem run_refused {a : α} {writes : List W} (h : body s = .ok (a, writes))
    (hc : commit apply writes s = none) : run apply refused body s = (.error refused, s) := by
  simp [run, h, hc]

/-- **Either nothing happened, or the body's writes were committed.** -/
theorem run_cases (apply : W → S → Option S) (refused : E) (body : S → Except E (α × List W)) (s : S) :
    (∃ e, run apply refused body s = (.error e, s)) ∨
      ∃ a writes t, body s = .ok (a, writes) ∧ commit apply writes s = some t ∧
        run apply refused body s = (.ok a, t) := by
  cases hb : body s with
  | error e => exact .inl ⟨e, run_rejected hb⟩
  | ok r =>
    obtain ⟨a, writes⟩ := r
    cases hc : commit apply writes s with
    | none => exact .inl ⟨refused, run_refused hb hc⟩
    | some t => exact .inr ⟨a, writes, t, rfl, hc, run_committed hb hc⟩

end Transaction
