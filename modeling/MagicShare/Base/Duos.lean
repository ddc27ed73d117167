import MagicShare.Base.Network

/-! Two processes of a network and the channels between them.

A duo names two processes and the channel each of them reads from the other. `Duo.At`
is what the two see of a state: where each stands and what is on its way to it, while
everybody else is where `frame` has them. A move of one of the two leads from one such
view to the next, whichever of the two makes it, and needs to look at nothing else. What
is in some channels may be left open (`loose`). -/
namespace Network
open Transition.System

variable {P C : Type} {L : P → Type} {V : C → Type}

structure Duo (N : Net P C L V) where
  mine : P
  other : P
  inbox : C
  outbox : C
  loose : C → Prop
  mine_ne_other : mine ≠ other
  inbox_ne_outbox : inbox ≠ outbox
  unlimited : ∀ c, c = inbox ∨ c = outbox → N.room c = none

namespace Duo
variable {N : Net P C L V} (κ : Duo N)

/-- The duo as the other process sees it. -/
def swap : Duo N where
  mine := κ.other
  other := κ.mine
  inbox := κ.outbox
  outbox := κ.inbox
  loose := κ.loose
  mine_ne_other := κ.mine_ne_other.symm
  inbox_ne_outbox := κ.inbox_ne_outbox.symm
  unlimited c h := κ.unlimited c h.symm

/-- Where the two processes stand and what is on its way to each. -/
structure At (frame σ : State L V) (l : L κ.mine) (k : L κ.other) (m : List (V κ.inbox)) (u : List (V κ.outbox)) :
    Prop where
  mine : σ.ctl κ.mine = l
  other : σ.ctl κ.other = k
  inbox : (σ.chan κ.inbox).queue = m
  outbox : (σ.chan κ.outbox).queue = u
  allOpen : ∀ c, c = κ.inbox ∨ c = κ.outbox ∨ κ.loose c → (σ.chan c).closed = false ∧ (σ.chan c).dropped = false
  rest : ∀ r, r ≠ κ.mine → r ≠ κ.other → σ.ctl r = frame.ctl r
  kept : ∀ c, c ≠ κ.inbox → c ≠ κ.outbox → ¬ κ.loose c → σ.chan c = frame.chan c

namespace At
variable {κ} {frame σ init : State L V} {l l' refused : L κ.mine} {k : L κ.other} {m : List (V κ.inbox)}
  {u : List (V κ.outbox)}

theorem swap (h : κ.At frame σ l k m u) : κ.swap.At frame σ k l u m where
  mine := h.other
  other := h.mine
  inbox := h.outbox
  outbox := h.inbox
  allOpen c hc := h.allOpen c (hc.elim (.inr ∘ .inl) (Or.imp_right .inr))
  rest r hr hr' := h.rest r hr' hr
  kept c hc hc' := h.kept c hc' hc

variable [DecidableEq P]

theorem goto (h : κ.At frame σ l k m u) (l' : L κ.mine) : κ.At frame (σ.goto κ.mine l') l' k m u where
  mine := State.goto_ctl_self ..
  other := (State.goto_ctl_of_ne _ _ κ.mine_ne_other.symm).trans h.other
  inbox := h.inbox
  outbox := h.outbox
  allOpen := h.allOpen
  rest r hr hr' := (State.goto_ctl_of_ne _ _ hr).trans (h.rest r hr hr')
  kept := h.kept

variable [DecidableEq C]

omit [DecidableEq P] in
/-- A channel stays open when something is put into it or taken out. -/
theorem put_open (h : κ.At frame σ l k m u) {c : C} {ch : Chan (V c)} (hclosed : ch.closed = false)
    (hdropped : ch.dropped = false) (d : C) (hd : d = κ.inbox ∨ d = κ.outbox ∨ κ.loose d) :
    ((σ.put c ch).chan d).closed = false ∧ ((σ.put c ch).chan d).dropped = false := by
  by_cases hdc : d = c
  · subst hdc
    rw [State.put_chan_self]
    exact ⟨hclosed, hdropped⟩
  · rw [State.put_chan_of_ne _ _ hdc]
    exact h.allOpen d hd

omit [DecidableEq P] in
theorem put_inbox (h : κ.At frame σ l k m u) {ch : Chan (V κ.inbox)} (hclosed : ch.closed = false)
    (hdropped : ch.dropped = false) : κ.At frame (σ.put κ.inbox ch) l k ch.queue u where
  mine := h.mine
  other := h.other
  inbox := by rw [State.put_chan_self]
  outbox := by rw [State.put_chan_of_ne _ _ κ.inbox_ne_outbox.symm, h.outbox]
  allOpen := h.put_open hclosed hdropped
  rest := h.rest
  kept c hc hc' hloose := by
    rw [State.put_chan_of_ne _ _ hc]
    exact h.kept c hc hc' hloose

omit [DecidableEq P] in
theorem put_outbox (h : κ.At frame σ l k m u) {ch : Chan (V κ.outbox)} (hclosed : ch.closed = false)
    (hdropped : ch.dropped = false) : κ.At frame (σ.put κ.outbox ch) l k m ch.queue :=
  (h.swap.put_inbox hclosed hdropped).swap

/-! ### Moves of the first of the two; those of the other are the same, swapped -/

theorem tau (h : κ.At frame σ l k m u) (hact : N.act κ.mine l = .tau l') :
    ∃ τ, (N.system init).Leads σ τ ∧ κ.At frame τ l' k m u :=
  ⟨_, Leads.single (Net.step_tau ((congrArg (N.act κ.mine) h.mine).trans hact)), h.goto l'⟩

/-- A message goes out to the other. -/
theorem sends (h : κ.At frame σ l k m u) {v : V κ.outbox} (hact : N.act κ.mine l = .on κ.outbox (.send v l' refused)) :
    ∃ τ, (N.system init).Leads σ τ ∧ κ.At frame τ l' k m (u ++ [v]) := by
  obtain ⟨hclosed, hdropped⟩ := h.allOpen κ.outbox (.inr (.inl rfl))
  have happly : (Op.send v l' refused).apply (N.room κ.outbox) (σ.chan κ.outbox) =
      some (l', { σ.chan κ.outbox with queue := u ++ [v] }) := by
    rw [κ.unlimited _ (.inr rfl), Op.send_of_room hdropped hclosed rfl, h.outbox]
  exact ⟨_, Leads.single (Net.step_on ((congrArg (N.act κ.mine) h.mine).trans hact) happly),
    (h.goto l').put_outbox hclosed hdropped⟩

/-- The oldest message is taken in. -/
theorem receives {v : V κ.inbox} (h : κ.At frame σ l k (v :: m) u) {got : V κ.inbox → L κ.mine}
    (hact : N.act κ.mine l = .on κ.inbox (.recv got refused)) :
    ∃ τ, (N.system init).Leads σ τ ∧ κ.At frame τ (got v) k m u := by
  obtain ⟨hclosed, hdropped⟩ := h.allOpen κ.inbox (.inl rfl)
  exact ⟨_, Leads.single (Net.step_on ((congrArg (N.act κ.mine) h.mine).trans hact) (Op.recv_of_cons h.inbox)),
    (h.goto (got v)).put_inbox hclosed hdropped⟩

/-- The same, for what becomes of the message. -/
theorem takes {v : V κ.inbox} (h : κ.At frame σ l k (v :: m) u) {got : V κ.inbox → L κ.mine}
    (hact : N.act κ.mine l = .on κ.inbox (.recv got refused)) (hgot : got v = l') :
    ∃ τ, (N.system init).Leads σ τ ∧ κ.At frame τ l' k m u := by
  obtain rfl := hgot
  exact h.receives hact

/-- Whoever waits elsewhere keeps waiting. -/
theorem quiet (h : κ.At frame σ l k m u) {r : P} (hmine : r ≠ κ.mine) (hother : r ≠ κ.other)
    (hchan : ∀ c op, N.act r (frame.ctl r) = .on c op → c ≠ κ.inbox ∧ c ≠ κ.outbox ∧ ¬ κ.loose c)
    (hst : N.step frame r = none) : N.step σ r = none := by
  have hctl := congrArg (N.act r) (h.rest r hmine hother)
  cases hact : N.act r (frame.ctl r) with
  | halt => exact Net.step_halt (hctl.trans hact)
  | tau next =>
    rw [Net.step_tau hact] at hst
    cases hst
  | on c op =>
    obtain ⟨hin, hout, hkept⟩ := hchan c op hact
    refine Net.step_waits (hctl.trans hact) ?_
    rw [h.kept c hin hout hkept]
    cases happly : op.apply (N.room c) (frame.chan c) with
    | none => rfl
    | some r =>
      rw [Net.step_on hact happly] at hst
      cases hst

end At
end Duo
end Network
