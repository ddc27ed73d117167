import MagicShare.Base.Transition

/-! Runs without the events that are secret.

An observer cannot tell apart the states that `Like` relates. A secret event is one he
must not notice: it leaves the state like whatever it was like before. Any other event
can be taken in like states alike, and has the same output in both (`Unwinding`). Then a run
whose events meet the condition can be replayed without its secret events, and the events
that are left have the output they had in it (`Unwinding.purge`). -/
namespace Transition.System
variable {S E A : Type*}

/-- The events of a run that are not secret in the state they are taken in. -/
def purge (M : System S E) (secret : S → E → Bool) : S → List E → List E
  | _, [] => []
  | s, e :: rest =>
    let kept := ((M.step s e).map fun t => purge M secret t rest).getD []
    if secret s e then kept else e :: kept

/-- The output of an event, unless it is secret. -/
def shown (secret : S → E → Bool) (output : S → E → A) (s : S) (e : E) : List A :=
  if secret s e then [] else [output s e]

/-- What the events that meet `C` owe an observer of `output`. -/
structure Unwinding (M : System S E) (secret : S → E → Bool) (output : S → E → A) (C : S → E → Prop)
    (Like : S → S → Prop) : Prop where
  unseen : ∀ {s t p : S} {e : E}, Like s p → C s e → secret s e = true → M.step s e = some t → Like t p
  seen : ∀ {s t p : S} {e : E}, Like s p → C s e → secret s e = false → M.step s e = some t →
    ∃ q, M.step p e = some q ∧ Like t q ∧ output p e = output s e

variable {M : System S E} {secret : S → E → Bool} {output : S → E → A} {C : S → E → Prop} {Like : S → S → Prop}

theorem purge_secret {s t : S} {e : E} {rest : List E} (hst : M.step s e = some t) (h : secret s e = true) :
    M.purge secret s (e :: rest) = M.purge secret t rest := by
  simp [purge, hst, h]

theorem purge_open {s t : S} {e : E} {rest : List E} (hst : M.step s e = some t) (h : secret s e = false) :
    M.purge secret s (e :: rest) = e :: M.purge secret t rest := by
  simp [purge, hst, h]

/-- **The secret events of a run go unnoticed**: without them it is a run too, to a like
state, and the events that are left say the same. -/
theorem Unwinding.purge (h : Unwinding M secret output C Like) {events : List E} {s t p : S} (hlike : Like s p)
    (hc : M.Meets C s events) (hrun : M.run s events = some t) :
    ∃ q, M.run p (M.purge secret s events) = some q ∧ Like t q ∧
      M.log (fun s e => [output s e]) p (M.purge secret s events) = M.log (shown secret output) s events := by
  induction events generalizing s p with
  | nil =>
    obtain rfl := Option.some.inj hrun
    exact ⟨p, rfl, hlike, rfl⟩
  | cons e rest ih =>
    obtain ⟨m, hm, hrest⟩ := M.run_cons_some hrun
    obtain ⟨hce, hcrest⟩ := hc m hm
    cases hsecret : secret s e with
    | true =>
      obtain ⟨q, hq, hlike', hlog⟩ := ih (h.unseen hlike hce hsecret hm) hcrest hrest
      refine ⟨q, ?_, hlike', ?_⟩
      · rw [purge_secret hm hsecret]
        exact hq
      · rw [purge_secret hm hsecret, log_cons hm, hlog]
        simp [shown, hsecret]
    | false =>
      obtain ⟨m', hm', hlike', hsays⟩ := h.seen hlike hce hsecret hm
      obtain ⟨q, hq, hlike'', hlog⟩ := ih hlike' hcrest hrest
      refine ⟨q, ?_, hlike'', ?_⟩
      · rw [purge_open hm hsecret, run_cons, hm']
        exact hq
      · rw [purge_open hm hsecret, log_cons hm', log_cons hm, hlog]
        simp [shown, hsecret, hsays]

end Transition.System
