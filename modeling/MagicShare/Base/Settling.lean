import MagicShare.Base.Transition

/-! Systems whose runs all end, and where they end.

A state settles in `Q` when no run from it is longer than some bound and every run
that cannot go on ends in `Q`: whoever schedules the events, the outcome is `Q`.
One finished run is enough to know this of a system with the diamond property
(`settles_of_run`): two events enabled at once can be taken in either order, so
every other run is a reordering of a part of the finished one. -/
namespace Transition.System
variable {S E : Type*} {M : System S E}

variable (M) in
/-- No event is enabled. -/
def Stuck (s : S) : Prop := ∀ e, M.step s e = none

variable (M) in
/-- Some run leads from one state to the other. -/
def Leads (s t : S) : Prop := ∃ events, M.run s events = some t

variable (M) in
/-- Every run from `s` is finite and ends in `Q`. -/
structure Settles (s : S) (Q : S → Prop) : Prop where
  bounded : ∃ n, ∀ events t, M.run s events = some t → events.length ≤ n
  ends : ∀ events t, M.run s events = some t → M.Stuck t → Q t

variable (M) in
/-- Two events that are enabled at once may be taken in either order. -/
def Diamond : Prop :=
  ∀ s e f t u, e ≠ f → M.step s e = some t → M.step s f = some u →
    ∃ v, M.step t f = some v ∧ M.step u e = some v

/-! ### Leading from state to state -/

theorem Leads.refl (s : S) : M.Leads s s := ⟨[], rfl⟩

theorem Leads.single {s t : S} {e : E} (h : M.step s e = some t) : M.Leads s t :=
  ⟨[e], by rw [run_cons, h]; rfl⟩

theorem Leads.trans {s t u : S} (hst : M.Leads s t) (htu : M.Leads t u) : M.Leads s u := by
  obtain ⟨first, hfirst⟩ := hst
  obtain ⟨second, hsecond⟩ := htu
  refine ⟨first ++ second, ?_⟩
  rw [run_append, hfirst]
  exact hsecond

theorem Leads.head {s t u : S} {e : E} (h : M.step s e = some t) (htu : M.Leads t u) :
    M.Leads s u := (Leads.single h).trans htu

/-- What every step preserves holds wherever the state leads. -/
theorem Leads.invariant {I : S → Prop} (step : ∀ s e t, I s → M.step s e = some t → I t)
    {s t : S} (h : M.Leads s t) (hs : I s) : I t := by
  obtain ⟨events, hrun⟩ := h
  exact run_invariant step hs hrun

/-! ### One finished run decides -/

/-- A step taken aside from a finished run is caught up with. -/
theorem run_catches_up (hd : M.Diamond) {schedule : List E} {s t z : S} {e : E}
    (hrun : M.run s schedule = some z) (hz : M.Stuck z) (hst : M.step s e = some t) :
    ∃ rest, M.run t rest = some z ∧ rest.length + 1 = schedule.length := by
  induction schedule generalizing s t with
  | nil =>
    obtain rfl := Option.some.inj hrun
    rw [hz e] at hst
    cases hst
  | cons f later ih =>
    obtain ⟨u, hu, hlater⟩ := M.run_cons_some hrun
    by_cases hef : e = f
    · -- the finished run takes the very same step
      subst hef
      obtain rfl := Option.some.inj (hst.symm.trans hu)
      exact ⟨later, hlater, rfl⟩
    · obtain ⟨v, hv, huv⟩ := hd s e f t u hef hst hu
      obtain ⟨rest, hrest, hlength⟩ := ih hlater huv
      refine ⟨f :: rest, ?_, by simp [hlength]⟩
      rw [run_cons, hv]
      exact hrest

/-- Every run can be continued to where a finished run ended, and both come to
the same number of steps. -/
theorem run_joins (hd : M.Diamond) {schedule events : List E} {s t z : S}
    (hrun : M.run s schedule = some z) (hz : M.Stuck z) (h : M.run s events = some t) :
    ∃ rest, M.run t rest = some z ∧ events.length + rest.length = schedule.length := by
  induction events generalizing s schedule with
  | nil =>
    obtain rfl := Option.some.inj h
    exact ⟨schedule, hrun, by simp⟩
  | cons e more ih =>
    obtain ⟨m, hm, hmore⟩ := M.run_cons_some h
    obtain ⟨shorter, hshorter, hlength⟩ := run_catches_up hd hrun hz hm
    obtain ⟨rest, hrest, hsum⟩ := ih hshorter hmore
    exact ⟨rest, hrest, by simp only [List.length_cons]; omega⟩

/-- **The outcome of one finished run is the outcome of all.** -/
theorem settles_of_leads (hd : M.Diamond) {s z : S} {Q : S → Prop} (h : M.Leads s z)
    (hz : M.Stuck z) (hQ : Q z) : M.Settles s Q := by
  obtain ⟨schedule, hrun⟩ := h
  refine ⟨⟨schedule.length, fun events t ht => ?_⟩, fun events t ht hstuck => ?_⟩
  · obtain ⟨rest, -, hsum⟩ := run_joins hd hrun hz ht
    omega
  · obtain ⟨rest, hrest, -⟩ := run_joins hd hrun hz ht
    cases rest with
    | nil => exact Option.some.inj hrest ▸ hQ
    | cons e more =>
      obtain ⟨m, hm, -⟩ := M.run_cons_some hrest
      rw [hstuck e] at hm
      cases hm

/-! ### Runs that part come together again -/

theorem Settles.mono {s : S} {Q R : S → Prop} (h : M.Settles s Q) (hQR : ∀ t, Q t → R t) :
    M.Settles s R :=
  ⟨h.bounded, fun events t ht hstuck => hQR t (h.ends events t ht hstuck)⟩

/-- Where no run is longer than a bound, every run can be carried to its end. -/
theorem leads_to_stuck {n : Nat} {s : S}
    (hn : ∀ events t, M.run s events = some t → events.length ≤ n) :
    ∃ z, M.Leads s z ∧ M.Stuck z := by
  induction n generalizing s with
  | zero =>
    refine ⟨s, Leads.refl s, fun e => ?_⟩
    cases hst : M.step s e with
    | none => rfl
    | some t =>
      have := hn [e] t (by rw [run_cons, hst]; rfl)
      simp at this
  | succ n ih =>
    by_cases hs : M.Stuck s
    · exact ⟨s, Leads.refl s, hs⟩
    · obtain ⟨e, he⟩ := not_forall.mp hs
      obtain ⟨t, hst⟩ := Option.ne_none_iff_exists'.mp he
      obtain ⟨z, hz, hstuck⟩ := ih (s := t) fun events u hu => by
        have := hn (e :: events) u (by rw [run_cons, hst]; exact hu)
        simpa using this
      exact ⟨z, Leads.head hst hz, hstuck⟩

/-- A rank that every step lowers bounds the runs. -/
theorem length_le_rank {I : S → Prop} {rank : S → Nat}
    (step : ∀ s e t, I s → M.step s e = some t → I t ∧ rank t < rank s) {events : List E} {s t : S} (hs : I s)
    (h : M.run s events = some t) : events.length ≤ rank s := by
  induction events generalizing s with
  | nil => exact Nat.zero_le _
  | cons e rest ih =>
    obtain ⟨m, hm, hrest⟩ := M.run_cons_some h
    obtain ⟨hI, hlt⟩ := step s e m hs hm
    have hlength := ih hI hrest
    simp only [List.length_cons]
    omega

/-- Wherever a run of a settling state stands, it can still be completed. -/
theorem Settles.completes {s t : S} {Q : S → Prop} (h : M.Settles s Q) (hst : M.Leads s t) :
    ∃ z, M.Leads t z ∧ M.Stuck z ∧ Q z := by
  obtain ⟨n, hn⟩ := h.bounded
  obtain ⟨first, hfirst⟩ := hst
  have hbound : ∀ events u, M.run t events = some u → events.length ≤ n := by
    intro events u hu
    have := hn (first ++ events) u (by rw [run_append, hfirst]; exact hu)
    simp at this
    omega
  obtain ⟨z, ⟨later, hlater⟩, hstuck⟩ := leads_to_stuck hbound
  refine ⟨z, ⟨later, hlater⟩, hstuck, h.ends (first ++ later) z ?_ hstuck⟩
  rw [run_append, hfirst]
  exact hlater

end Transition.System
