import Mathlib.Algebra.Ring.Nat
import Mathlib.Data.Option.Basic

/-! Guarded transition systems and what holds along their runs.

A system has an initial state and a step that may be disabled. A run is the list
of events taken; `run` replays it, so a concrete history can be evaluated. The
rules below carry a property from one step to whole runs: an invariant of every
step (`run_invariant`) and an invariant of the steps that meet a condition
(`run_meets`). -/
namespace Transition

/-- An initial state and a step; `none` where the event is not enabled. -/
structure System (S E : Type*) where
  init : S
  step : S → E → Option S

/-- A guarded step on a record that may be missing. -/
theorem guarded_eq_some {α β : Type} {o : Option α} {p : α → Prop} [DecidablePred p] {f : α → β} {y : β} :
    (do let a ← o; guard (p a); return f a) = some y ↔ ∃ a, o = some a ∧ p a ∧ f a = y := by
  cases o with
  | none => simp
  | some a =>
    by_cases hp : p a
    · simp [guard, hp]
    · simp [guard, hp]

namespace System
variable {S E : Type*} (M : System S E)

/-- Replay from a state; `none` once an event is not enabled. -/
def run : S → List E → Option S
  | s, [] => some s
  | s, e :: rest => (M.step s e).bind fun t => run t rest

/-- A state some run from the initial one ends in. -/
def Reachable (s : S) : Prop := ∃ events, M.run M.init events = some s

@[simp] theorem run_nil (s : S) : M.run s [] = some s := rfl

theorem run_cons (s : S) (e : E) (rest : List E) :
    M.run s (e :: rest) = (M.step s e).bind fun t => M.run t rest := rfl

/-- A run that starts with `e` takes it. -/
theorem run_cons_some {s t : S} {e : E} {rest : List E} (h : M.run s (e :: rest) = some t) :
    ∃ m, M.step s e = some m ∧ M.run m rest = some t := by
  rw [run_cons] at h
  exact Option.bind_eq_some_iff.mp h

theorem run_append (s : S) (a b : List E) :
    M.run s (a ++ b) = (M.run s a).bind fun t => M.run t b := by
  induction a generalizing s with
  | nil => rfl
  | cons e rest ih =>
    simp only [List.cons_append, run_cons, Option.bind_assoc]
    exact congrArg _ (funext fun t => ih t)

variable {M}

/-- What every step preserves, every run preserves. -/
theorem run_invariant {I : S → Prop} (step : ∀ s e t, I s → M.step s e = some t → I t)
    {events : List E} {s t : S} (hs : I s) (h : M.run s events = some t) : I t := by
  induction events generalizing s with
  | nil => exact Option.some.inj h ▸ hs
  | cons e rest ih =>
    obtain ⟨m, hm, hrest⟩ := M.run_cons_some h
    exact ih (step s e m hs hm) hrest

/-- The induction rule for reachable states. -/
theorem Reachable.invariant {I : S → Prop} (init : I M.init)
    (step : ∀ s e t, I s → M.step s e = some t → I t) {s : S} (h : M.Reachable s) : I s := by
  obtain ⟨events, hrun⟩ := h
  exact run_invariant step init hrun

theorem Reachable.init : M.Reachable M.init := ⟨[], rfl⟩

theorem Reachable.step {s t : S} {e : E} (h : M.Reachable s) (hst : M.step s e = some t) :
    M.Reachable t := by
  obtain ⟨events, hrun⟩ := h
  refine ⟨events ++ [e], ?_⟩
  rw [run_append, hrun]
  simp [run_cons, hst]

/-! ### Runs whose steps meet a condition -/

variable (M) in
/-- Every event the run takes meets `C` in the state it is taken in. -/
def Meets (C : S → E → Prop) : S → List E → Prop
  | _, [] => True
  | s, e :: rest => ∀ t, M.step s e = some t → C s e ∧ Meets C t rest

variable (M) in
/-- `I` holds in every state the run passes. -/
def Along (I : S → Prop) : S → List E → Prop
  | s, [] => I s
  | s, e :: rest => I s ∧ ∀ t, M.step s e = some t → Along I t rest

variable (M) in
/-- Every step the run takes is one that `P` allows. -/
def Steps (P : S → E → S → Prop) : S → List E → Prop
  | _, [] => True
  | s, e :: rest => ∀ t, M.step s e = some t → P s e t ∧ Steps P t rest

/-- What the steps that meet `C` preserve, a run of such steps preserves. -/
theorem run_meets {C : S → E → Prop} {I : S → Prop}
    (step : ∀ s e t, I s → C s e → M.step s e = some t → I t)
    {events : List E} {s t : S} (hs : I s) (hc : M.Meets C s events)
    (h : M.run s events = some t) : I t := by
  induction events generalizing s with
  | nil => exact Option.some.inj h ▸ hs
  | cons e rest ih =>
    obtain ⟨m, hm, hrest⟩ := M.run_cons_some h
    obtain ⟨hce, hcrest⟩ := hc m hm
    exact ih (step s e m hs hce hm) hcrest hrest

/-- What the steps that meet `C` preserve holds along a run of such steps. -/
theorem along_of_meets {C : S → E → Prop} {I P : S → Prop}
    (step : ∀ s e t, I s → C s e → M.step s e = some t → I t) (h : ∀ s, I s → P s)
    {events : List E} {s : S} (hs : I s) (hc : M.Meets C s events) : M.Along P s events := by
  induction events generalizing s with
  | nil => exact h s hs
  | cons e rest ih => exact ⟨h s hs, fun t ht => ih (step s e t hs (hc t ht).1 ht) (hc t ht).2⟩

/-- What every step preserves holds along every run. -/
theorem along_of_invariant {I P : S → Prop} (step : ∀ s e t, I s → M.step s e = some t → I t) (h : ∀ s, I s → P s)
    {events : List E} {s : S} (hs : I s) : M.Along P s events := by
  induction events generalizing s with
  | nil => exact h s hs
  | cons e rest ih => exact ⟨h s hs, fun t ht => ih (step s e t hs ht)⟩

/-- Under an invariant of the steps that meet `C`, a run of such steps takes what the
invariant allows. -/
theorem steps_of_meets {C : S → E → Prop} {I : S → Prop} {P : S → E → S → Prop}
    (step : ∀ s e t, I s → C s e → M.step s e = some t → I t ∧ P s e t) {events : List E} {s : S} (hs : I s)
    (hc : M.Meets C s events) : M.Steps P s events := by
  induction events generalizing s with
  | nil => trivial
  | cons e rest ih =>
    intro t ht
    obtain ⟨hI, hP⟩ := step s e t hs (hc t ht).1 ht
    exact ⟨hP, ih hI (hc t ht).2⟩

/-- Under an invariant, the steps that `P` allows are those that meet `C`. -/
theorem steps_iff_meets {C : S → E → Prop} {I : S → Prop} {P : S → E → S → Prop}
    (step : ∀ s e t, I s → M.step s e = some t → I t) (h : ∀ s e t, I s → M.step s e = some t → (P s e t ↔ C s e))
    {events : List E} {s : S} (hs : I s) : M.Steps P s events ↔ M.Meets C s events := by
  induction events generalizing s with
  | nil => exact Iff.rfl
  | cons e rest ih =>
    exact forall_congr' fun t => forall_congr' fun ht => and_congr (h s e t hs ht) (ih (step s e t hs ht))

/-- A step allowed by `P` exactly when it meets `C`, under an invariant of the steps that
meet `C`: a run takes only such steps exactly when each meets `C`. -/
theorem steps_iff_meets_of_kept {C : S → E → Prop} {I : S → Prop} {P : S → E → S → Prop}
    (step : ∀ s e t, I s → M.step s e = some t → (C s e → I t) ∧ (P s e t ↔ C s e)) {events : List E} {s : S}
    (hs : I s) : M.Steps P s events ↔ M.Meets C s events := by
  induction events generalizing s with
  | nil => exact Iff.rfl
  | cons e rest ih =>
    refine forall_congr' fun t => forall_congr' fun ht => ?_
    obtain ⟨hkept, hiff⟩ := step s e t hs ht
    constructor
    · rintro ⟨hP, hrest⟩
      exact ⟨hiff.mp hP, (ih (hkept (hiff.mp hP))).mp hrest⟩
    · rintro ⟨hc, hrest⟩
      exact ⟨hiff.mpr hc, (ih (hkept hc)).mpr hrest⟩

/-- A step the run takes. -/
theorem Steps.taken {P : S → E → S → Prop} {a rest : List E} {s t u : S} {e : E} (h : M.Steps P s (a ++ e :: rest))
    (hrun : M.run s a = some t) (hst : M.step t e = some u) : P t e u := by
  induction a generalizing s with
  | nil =>
    obtain rfl := Option.some.inj hrun
    exact (h u hst).1
  | cons first others ih =>
    obtain ⟨m, hm, hothers⟩ := M.run_cons_some hrun
    exact ih (h m hm).2 hothers

/-- A condition on steps is checked by replaying the run. -/
instance decidableMeets {C : S → E → Prop} [∀ s e, Decidable (C s e)] :
    (s : S) → (events : List E) → Decidable (M.Meets C s events)
  | _, [] => .isTrue trivial
  | s, e :: rest =>
    match hst : M.step s e with
    | none => .isTrue fun _ ht => nomatch hst.symm.trans ht
    | some t =>
      have : Decidable (M.Meets C t rest) := decidableMeets t rest
      decidable_of_iff (C s e ∧ M.Meets C t rest)
        ⟨fun h _ ht => Option.some.inj (hst.symm.trans ht) ▸ h, fun h => h t hst⟩

theorem Along.start {I : S → Prop} {events : List E} {s : S} (h : M.Along I s events) : I s := by
  cases events with
  | nil => exact h
  | cons => exact h.1

/-- **A property that a step keeps exactly when it meets `C`**, by an invariant of
the steps that meet it, holds along a run exactly when every step meets `C`; this in the runs
whose steps meet `D`. -/
theorem along_iff_meets_of_kept {C D : S → E → Prop} {I P : S → Prop} (h : ∀ s, I s → P s)
    (step : ∀ s e t, I s → D s e → M.step s e = some t → (C s e → I t) ∧ (P t → C s e)) {events : List E} {s : S}
    (hs : I s) (hd : M.Meets D s events) : M.Along P s events ↔ M.Meets C s events := by
  induction events generalizing s with
  | nil => exact iff_of_true (h s hs) trivial
  | cons e rest ih =>
    simp only [Along, Meets, h s hs, true_and]
    refine forall_congr' fun t => forall_congr' fun ht => ?_
    obtain ⟨hde, hdrest⟩ := hd t ht
    obtain ⟨hkept, hmet⟩ := step s e t hs hde ht
    constructor
    · intro halong
      have hc : C s e := hmet halong.start
      exact ⟨hc, (ih (hkept hc) hdrest).mp halong⟩
    · rintro ⟨hc, hrest⟩
      exact (ih (hkept hc) hdrest).mpr hrest

theorem meets_true {events : List E} {s : S} : M.Meets (fun _ _ => True) s events := by
  induction events generalizing s with
  | nil => trivial
  | cons e rest ih => exact fun _ _ => ⟨trivial, ih⟩

theorem along_iff_meets_of_invariant {C : S → E → Prop} {I P : S → Prop} (h : ∀ s, I s → P s)
    (step : ∀ s e t, I s → M.step s e = some t → (C s e → I t) ∧ (P t → C s e)) {events : List E} {s : S}
    (hs : I s) : M.Along P s events ↔ M.Meets C s events :=
  along_iff_meets_of_kept h (fun s e t hI _ hst => step s e t hI hst) hs meets_true

/-- An invariant that a step keeps exactly when it meets `C` holds along a run
exactly when every step of the run meets `C`. -/
theorem along_iff_meets {C : S → E → Prop} {I : S → Prop}
    (step : ∀ s e t, I s → M.step s e = some t → (I t ↔ C s e)) {events : List E} {s : S}
    (hs : I s) : M.Along I s events ↔ M.Meets C s events :=
  along_iff_meets_of_invariant (fun _ => id) (fun s e t h ht => ⟨(step s e t h ht).mpr, (step s e t h ht).mp⟩) hs

/-- An invariant that a step which meets `D` keeps exactly when it meets `C` too holds
along a run of such steps exactly when every step of the run meets `C`. -/
theorem along_iff_meets_of_meets {C D : S → E → Prop} {I : S → Prop}
    (step : ∀ s e t, I s → D s e → M.step s e = some t → (I t ↔ C s e)) {events : List E} {s : S} (hs : I s)
    (hd : M.Meets D s events) : M.Along I s events ↔ M.Meets C s events :=
  along_iff_meets_of_kept (fun _ => id) (fun s e t h hde ht => ⟨(step s e t h hde ht).mpr, (step s e t h hde ht).mp⟩)
    hs hd

/-- Two conditions are met when both are. -/
theorem Meets.and {C D : S → E → Prop} {events : List E} {s : S} (hc : M.Meets C s events) (hd : M.Meets D s events) :
    M.Meets (fun s e => C s e ∧ D s e) s events := by
  induction events generalizing s with
  | nil => trivial
  | cons e rest ih => exact fun t ht => ⟨⟨(hc t ht).1, (hd t ht).1⟩, ih (hc t ht).2 (hd t ht).2⟩

/-- Under an invariant of the steps, properties that agree hold along the same runs. -/
theorem along_congr_of_invariant {P Q : S → Prop} (I : S → Prop)
    (step : ∀ s e t, I s → M.step s e = some t → I t) (h : ∀ s, I s → (P s ↔ Q s))
    {events : List E} {s : S} (hs : I s) : M.Along P s events ↔ M.Along Q s events := by
  induction events generalizing s with
  | nil => exact h s hs
  | cons e rest ih =>
    exact and_congr (h s hs) (forall_congr' fun t => forall_congr' fun ht => ih (step s e t hs ht))

/-- A state the run passes. -/
theorem Along.reached {I : S → Prop} {a b : List E} {s t : S} (h : M.Along I s (a ++ b))
    (hrun : M.run s a = some t) : I t := by
  induction a generalizing s with
  | nil =>
    obtain rfl := Option.some.inj hrun
    cases b with
    | nil => exact h
    | cons => exact h.1
  | cons e rest ih =>
    obtain ⟨m, hm, hrest⟩ := M.run_cons_some hrun
    exact ih (h.2 m hm) hrest

/-- Conditions that agree in every state are met by the same runs. -/
theorem meets_congr {C D : S → E → Prop} (h : ∀ s e, C s e ↔ D s e) {events : List E} {s : S} :
    M.Meets C s events ↔ M.Meets D s events := by
  have hcd : C = D := funext fun s => funext fun e => propext (h s e)
  rw [hcd]

/-- Conditions that agree in every state where an invariant holds are met by the
same runs from such a state. -/
theorem meets_congr_of_invariant {C D : S → E → Prop} (I : S → Prop)
    (step : ∀ s e t, I s → M.step s e = some t → I t) (h : ∀ s e, I s → (C s e ↔ D s e))
    {events : List E} {s : S} (hs : I s) : M.Meets C s events ↔ M.Meets D s events := by
  induction events generalizing s with
  | nil => exact Iff.rfl
  | cons e rest ih =>
    refine forall_congr' fun t => forall_congr' fun ht => ?_
    exact and_congr (h s e hs) (ih (step s e t hs ht))

theorem Meets.imp {C D : S → E → Prop} (h : ∀ s e, C s e → D s e) {events : List E} {s : S}
    (hm : M.Meets C s events) : M.Meets D s events := by
  induction events generalizing s with
  | nil => trivial
  | cons e rest ih => exact fun t ht => ⟨h s e (hm t ht).1, ih (hm t ht).2⟩

/-- Under an invariant of the steps that meet `C`, a condition that these steps meet by the
invariant is met too. -/
theorem Meets.of_invariant {C D : S → E → Prop} {I : S → Prop}
    (step : ∀ s e t, I s → C s e → M.step s e = some t → I t) (h : ∀ s e t, I s → M.step s e = some t → D s e)
    {events : List E} {s : S} (hs : I s) (hm : M.Meets C s events) : M.Meets D s events := by
  induction events generalizing s with
  | nil => trivial
  | cons e rest ih =>
    exact fun t ht => ⟨h s e t hs ht, ih (step s e t hs (hm t ht).1 ht) (hm t ht).2⟩

theorem Meets.append {C : S → E → Prop} {a b : List E} {s : S} (h : M.Meets C s (a ++ b)) :
    M.Meets C s a ∧ ∀ t, M.run s a = some t → M.Meets C t b := by
  induction a generalizing s with
  | nil =>
    refine ⟨trivial, fun t ht => ?_⟩
    exact Option.some.inj ht ▸ h
  | cons e rest ih =>
    refine ⟨fun t ht => ⟨(h t ht).1, (ih (h t ht).2).1⟩, fun t ht => ?_⟩
    obtain ⟨m, hm, hrun⟩ := M.run_cons_some ht
    exact (ih (h m hm).2).2 t hrun

/-! ### What a run puts down -/

variable {A : Type*}

variable (M) in
/-- What the steps of a run put down, in order. -/
def log (f : S → E → List A) : S → List E → List A
  | _, [] => []
  | s, e :: rest => f s e ++ ((M.step s e).map fun t => log f t rest).getD []

theorem log_cons {f : S → E → List A} {s t : S} {e : E} {rest : List E} (h : M.step s e = some t) :
    M.log f s (e :: rest) = f s e ++ M.log f t rest := by
  simp [log, h]

/-- What is read off a log piece by piece is the log of the pieces. -/
theorem log_hom {B : Type*} {f : S → E → List A} (k : List A → List B) (nil : k [] = [])
    (append : ∀ a b, k (a ++ b) = k a ++ k b) (s : S) (events : List E) :
    k (M.log f s events) = M.log (fun s e => k (f s e)) s events := by
  induction events generalizing s with
  | nil => exact nil
  | cons e rest ih =>
    rw [log, log, append]
    cases M.step s e with
    | none => simp [nil]
    | some t => simp [ih]

/-- What every step keeps of the history so far and the state, a run keeps of what it puts
down and the state it ends in. -/
theorem run_history {I : List A → S → Prop} {f : S → E → List A}
    (step : ∀ T s e t, I T s → M.step s e = some t → I (T ++ f s e) t) {T : List A} {events : List E} {s t : S}
    (hs : I T s) (h : M.run s events = some t) : I (T ++ M.log f s events) t := by
  induction events generalizing T s with
  | nil =>
    obtain rfl := Option.some.inj h
    simpa [log] using hs
  | cons e rest ih =>
    obtain ⟨m, hm, hrest⟩ := M.run_cons_some h
    rw [log_cons hm, ← List.append_assoc]
    exact ih (step T s e m hs hm) hrest

/-- What holds of the events so far and of the state they lead to. -/
theorem run_events {C : S → E → Prop} {I : List E → S → Prop}
    (step : ∀ T s e t, I T s → C s e → M.step s e = some t → I (T ++ [e]) t) {T events : List E} {s t : S} (hs : I T s)
    (hc : M.Meets C s events) (h : M.run s events = some t) : I (T ++ events) t := by
  induction events generalizing T s with
  | nil =>
    obtain rfl := Option.some.inj h
    simpa using hs
  | cons e rest ih =>
    obtain ⟨m, hm, hrest⟩ := M.run_cons_some h
    have hlater := ih (step T s e m hs (hc m hm).1 hm) (hc m hm).2 hrest
    rwa [List.append_assoc, List.singleton_append] at hlater

/-- A condition on the events alone. -/
theorem Meets.of_forall {C : E → Prop} {events : List E} (hc : ∀ e ∈ events, C e) (s : S) :
    M.Meets (fun _ e => C e) s events := by
  induction events generalizing s with
  | nil => trivial
  | cons e rest ih =>
    exact fun t _ => ⟨hc e List.mem_cons_self, ih (fun f hf => hc f (List.mem_cons_of_mem e hf)) t⟩

/-- **What every step balances, a run balances**: what is pending with what comes in is
what goes out with what is pending then. -/
theorem log_balance {I : S → Prop} {pending : S → List A} {f g : S → E → List A}
    (step : ∀ s e t, I s → M.step s e = some t → I t ∧ pending s ++ f s e = g s e ++ pending t)
    {events : List E} {s t : S} (hs : I s) (h : M.run s events = some t) :
    pending s ++ M.log f s events = M.log g s events ++ pending t := by
  induction events generalizing s with
  | nil =>
    obtain rfl := Option.some.inj h
    simp [log]
  | cons e rest ih =>
    obtain ⟨m, hm, hrest⟩ := M.run_cons_some h
    obtain ⟨hI, hbalance⟩ := step s e m hs hm
    rw [log_cons hm, log_cons hm, ← List.append_assoc, hbalance, List.append_assoc, ih hI hrest, List.append_assoc]

/-- What grows with every step has grown by the log. -/
theorem log_grows {I : S → Prop} {kept : S → List A} {f : S → E → List A}
    (step : ∀ s e t, I s → M.step s e = some t → I t ∧ kept t = kept s ++ f s e)
    {events : List E} {s t : S} (hs : I s) (h : M.run s events = some t) : kept t = kept s ++ M.log f s events := by
  have hbalance := log_balance (g := fun _ _ => [])
    (fun s e t hI hst => ⟨(step s e t hI hst).1, (step s e t hI hst).2.symm⟩) hs h
  rw [hbalance, ← log_hom (fun _ => ([] : List A)) rfl (fun _ _ => rfl) (M := M) (f := f) s events, List.nil_append]

end System
end Transition
