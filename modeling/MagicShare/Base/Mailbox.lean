import MagicShare.Base.Network

/-! Two processes that write into each other's mailbox.

The channels are named by their readers. `Faces` is what the two see of a state: where
each stands and what waits in each mailbox. A write and a read lead from one such view
to the next (`Faces.sends`, `Faces.receives`), whichever of the two makes it. -/
namespace Network
open Transition.System

variable {P M : Type} {L : P → Type}

/-- Where two processes stand and what waits for each. -/
structure Faces (σ : State L (fun _ : P => M)) (p q : P) (l : L p) (k : L q) (m u : List M) : Prop where
  ctl : σ.ctl p = l
  other : σ.ctl q = k
  inbox : (σ.chan p).queue = m
  outbox : (σ.chan q).queue = u
  allOpen : ∀ c, (σ.chan c).closed = false ∧ (σ.chan c).dropped = false

namespace Faces
variable {σ : State L (fun _ : P => M)} {p q : P} {l l' : L p} {k : L q} {m u : List M}

theorem swap (h : Faces σ p q l k m u) : Faces σ q p k l u m :=
  ⟨h.other, h.ctl, h.outbox, h.inbox, h.allOpen⟩

variable [DecidableEq P] {N : Net P P L (fun _ => M)} {init : State L (fun _ : P => M)}

/-- A change of one channel leaves all of them open. -/
theorem put_open (h : Faces σ p q l k m u) {c : P} {ch : Chan M} (hclosed : ch.closed = false)
    (hdropped : ch.dropped = false) (d : P) :
    (((σ.goto p l').put c ch).chan d).closed = false ∧ (((σ.goto p l').put c ch).chan d).dropped = false := by
  by_cases hd : d = c
  · subst hd
    rw [State.put_chan_self]
    exact ⟨hclosed, hdropped⟩
  · rw [State.put_chan_of_ne _ _ hd]
    exact h.allOpen d

/-- A message goes into the other's mailbox. -/
theorem sends (h : Faces σ p q l k m u) (hpq : p ≠ q) (hroom : N.room q = none) {msg : M} {refused : L p}
    (hact : N.act p l = .on q (.send msg l' refused)) :
    ∃ τ, (N.system init).Leads σ τ ∧ Faces τ p q l' k m (u ++ [msg]) := by
  obtain ⟨hclosed, hdropped⟩ := h.allOpen q
  have happly : (Op.send msg l' refused).apply (N.room q) (σ.chan q) =
      some (l', { σ.chan q with queue := (σ.chan q).queue ++ [msg] }) := by
    rw [hroom]
    exact Op.send_of_room hdropped hclosed rfl
  refine ⟨_, Leads.single (Net.step_on ((congrArg (N.act p) h.ctl).trans hact) happly), ?_⟩
  refine ⟨State.goto_ctl_self .., (State.goto_ctl_of_ne _ _ hpq.symm).trans h.other, ?_, ?_,
    h.put_open hclosed hdropped⟩
  · rw [State.put_chan_of_ne _ _ hpq]
    exact h.inbox
  · rw [State.put_chan_self]
    exact congrArg (· ++ [msg]) h.outbox

/-- The oldest message is taken out of the own mailbox. -/
theorem receives {msg : M} (h : Faces σ p q l k (msg :: m) u) (hpq : p ≠ q) {got : M → L p} {ended : L p}
    (hact : N.act p l = .on p (.recv got ended)) :
    ∃ τ, (N.system init).Leads σ τ ∧ Faces τ p q (got msg) k m u := by
  obtain ⟨hclosed, hdropped⟩ := h.allOpen p
  refine ⟨_, Leads.single (Net.step_on ((congrArg (N.act p) h.ctl).trans hact) (Op.recv_of_cons h.inbox)), ?_⟩
  refine ⟨State.goto_ctl_self .., (State.goto_ctl_of_ne _ _ hpq.symm).trans h.other, ?_, ?_,
    h.put_open hclosed hdropped⟩
  · rw [State.put_chan_self]
  · rw [State.put_chan_of_ne _ _ hpq.symm]
    exact h.outbox

end Faces
end Network
