import MagicShare.Base.Settling
import Mathlib.Logic.Function.Basic

/-! Sequential processes that talk over first-in first-out channels.

A process is a control state and an action for it; a channel has one writing and
one reading end and keeps what was already taken from it, so all that was ever
written can be read off it. A scheduler picks the process that moves next. While
no process lets go of a reading end the choice does not matter: two enabled
processes may move in either order (`Net.diamond`), because on the one channel
they may share one of them appends and the other takes from the front. -/
namespace Network

/-! ### Channels -/

/-- A channel; `closed` once the writing end is gone, `dropped` once the reading end is. -/
@[ext] structure Chan (α : Type) where
  taken : List α
  queue : List α
  closed : Bool
  dropped : Bool
  deriving DecidableEq

namespace Chan
variable {α : Type}

def new : Chan α := ⟨[], [], false, false⟩

/-- All that was ever written. -/
def written (c : Chan α) : List α := c.taken ++ c.queue

@[simp] theorem new_written : (new : Chan α).written = [] := rfl

end Chan

/-- What a process may do at one end of a channel, with the control states it goes
on in: a write is refused when the reader is gone, a read ends when the writer is
and nothing is left. -/
inductive Op (α L : Type)
  | send (v : α) (sent refused : L)
  | close (next : L)
  | recv (got : α → L) (ended : L)
  | drop (next : L)

namespace Op
variable {α L K : Type}

/-- Done at the writing end. -/
def writes : Op α L → Bool
  | send .. => true
  | close _ => true
  | recv .. => false
  | drop _ => false

/-- Lets go of the reading end. -/
def drops : Op α L → Bool
  | drop _ => true
  | _ => false

/-- Whether a channel with this much room takes one more value. -/
def hasRoom : Option Nat → Nat → Bool
  | none, _ => true
  | some room, waiting => waiting < room

/-- The operation on a channel: where the process goes on and what the channel
becomes, `none` while it has to wait. -/
def apply (room : Option Nat) : Op α L → Chan α → Option (L × Chan α)
  | send v sent refused, c =>
    if c.dropped then some (refused, c)
    else if c.closed || !hasRoom room c.queue.length then none
    else some (sent, { c with queue := c.queue ++ [v] })
  | close next, c => some (next, { c with closed := true })
  | recv got ended, c =>
    match c.queue with
    | v :: rest => some (got v, { c with taken := c.taken ++ [v], queue := rest })
    | [] => if c.closed then some (ended, c) else none
  | drop next, c => some (next, { c with dropped := true })

theorem hasRoom_mono {room : Option Nat} {m n : Nat} (hmn : m ≤ n) (h : hasRoom room n = true) :
    hasRoom room m = true := by
  cases room with
  | none => rfl
  | some room =>
    simp only [hasRoom, decide_eq_true_eq] at h ⊢
    omega

/-- The same operation of a part of a process, as an operation of the whole. -/
def map (f : L → K) : Op α L → Op α K
  | send v sent refused => send v (f sent) (f refused)
  | close next => close (f next)
  | recv got ended => recv (fun v => f (got v)) (f ended)
  | drop next => drop (f next)

theorem writes_map (f : L → K) (op : Op α L) : (op.map f).writes = op.writes := by
  cases op <;> rfl

theorem drops_map (f : L → K) (op : Op α L) : (op.map f).drops = op.drops := by
  cases op <;> rfl

/-- A write goes through, or is refused because the reader is gone. -/
theorem send_cases {room : Option Nat} {v : α} {sent refused l : L} {c d : Chan α}
    (h : (send v sent refused).apply room c = some (l, d)) :
    (c.dropped = true ∧ l = refused ∧ d = c) ∨
    (c.dropped = false ∧ c.closed = false ∧ hasRoom room c.queue.length = true ∧ l = sent ∧
      d = { c with queue := c.queue ++ [v] }) := by
  simp only [apply] at h
  split at h
  · rename_i hdropped
    simp only [Option.some.injEq, Prod.mk.injEq] at h
    exact .inl ⟨hdropped, h.1.symm, h.2.symm⟩
  · rename_i hdropped
    split at h
    · cases h
    · rename_i hopen
      simp only [Option.some.injEq, Prod.mk.injEq] at h
      exact .inr (by simp_all)

/-- A read takes the oldest value, or ends because the writer is gone. -/
theorem recv_cases {room : Option Nat} {got : α → L} {ended l : L} {c d : Chan α}
    (h : (recv got ended).apply room c = some (l, d)) :
    (∃ v rest, c.queue = v :: rest ∧ l = got v ∧
      d = { c with taken := c.taken ++ [v], queue := rest }) ∨
    (c.queue = [] ∧ c.closed = true ∧ l = ended ∧ d = c) := by
  cases hqueue : c.queue with
  | cons v rest =>
    simp only [apply, hqueue, Option.some.injEq, Prod.mk.injEq] at h
    exact .inl ⟨v, rest, rfl, h.1.symm, h.2.symm⟩
  | nil =>
    simp only [apply, hqueue] at h
    split at h
    · rename_i hclosed
      simp only [Option.some.injEq, Prod.mk.injEq] at h
      exact .inr ⟨rfl, hclosed, h.1.symm, h.2.symm⟩
    · cases h

theorem recv_of_cons {room : Option Nat} {got : α → L} {ended : L} {c : Chan α} {v : α}
    {rest : List α} (h : c.queue = v :: rest) :
    (recv got ended).apply room c =
      some (got v, { c with taken := c.taken ++ [v], queue := rest }) := by
  simp only [apply, h]

theorem recv_of_closed {room : Option Nat} {got : α → L} {ended : L} {c : Chan α}
    (h : c.queue = []) (hclosed : c.closed = true) :
    (recv got ended).apply room c = some (ended, c) := by
  simp only [apply, h, hclosed, if_true]

theorem send_of_room {room : Option Nat} {v : α} {sent refused : L} {c : Chan α}
    (hdropped : c.dropped = false) (hclosed : c.closed = false)
    (hroom : hasRoom room c.queue.length = true) :
    (send v sent refused).apply room c = some (sent, { c with queue := c.queue ++ [v] }) := by
  simp [apply, hdropped, hclosed, hroom]

theorem send_of_dropped {room : Option Nat} {v : α} {sent refused : L} {c : Chan α}
    (h : c.dropped = true) : (send v sent refused).apply room c = some (refused, c) := by
  simp [apply, h]

/-- The writing end takes nothing. -/
theorem taken_of_writes {room : Option Nat} {f : Op α L} {c d : Chan α} {l : L}
    (hf : f.writes = true) (h : f.apply room c = some (l, d)) : d.taken = c.taken := by
  cases f with
  | send v sent refused =>
    obtain ⟨-, -, rfl⟩ | ⟨-, -, -, -, rfl⟩ := send_cases h
    · rfl
    · rfl
  | close next =>
    simp only [apply, Option.some.injEq, Prod.mk.injEq] at h
    rw [← h.2]
  | recv => simp [writes] at hf
  | drop => simp [writes] at hf

/-- **The two ends of a channel do not get in each other's way** as long as the
reading end is kept. -/
theorem apply_comm {room : Option Nat} {f : Op α L} {g : Op α K} {c cf cg : Chan α} {l : L} {k : K}
    (hf : f.writes = true) (hg : g.writes = false) (hkeep : g.drops = false)
    (hfc : f.apply room c = some (l, cf)) (hgc : g.apply room c = some (k, cg)) :
    ∃ d, g.apply room cf = some (k, d) ∧ f.apply room cg = some (l, d) := by
  cases g with
  | send => simp [writes] at hg
  | close => simp [writes] at hg
  | drop => simp [drops] at hkeep
  | recv got ended =>
    cases f with
    | recv => simp [writes] at hf
    | drop => simp [writes] at hf
    | close next =>
      simp only [apply, Option.some.injEq, Prod.mk.injEq] at hfc
      obtain ⟨rfl, rfl⟩ := hfc
      obtain ⟨v, rest, hqueue, rfl, rfl⟩ | ⟨hqueue, hclosed, rfl, rfl⟩ := recv_cases hgc
      · exact ⟨_, recv_of_cons hqueue, rfl⟩
      · exact ⟨_, recv_of_closed hqueue rfl, rfl⟩
    | send w sent refused =>
      obtain ⟨hdropped, rfl, rfl⟩ | ⟨hdropped, hclosed, hroom, rfl, rfl⟩ := send_cases hfc
      · refine ⟨cg, hgc, send_of_dropped ?_⟩
        obtain ⟨v, rest, -, -, rfl⟩ | ⟨-, -, -, rfl⟩ := recv_cases hgc
        · exact hdropped
        · exact hdropped
      · obtain ⟨v, rest, hqueue, rfl, rfl⟩ | ⟨hqueue, hended, rfl, rfl⟩ := recv_cases hgc
        · -- the value is appended behind the one that is taken
          have hlonger : c.queue ++ [w] = v :: (rest ++ [w]) := by simp [hqueue]
          refine ⟨_, recv_of_cons hlonger, ?_⟩
          refine send_of_room hdropped hclosed (hasRoom_mono ?_ hroom)
          simp [hqueue]
        · simp [hclosed] at hended

end Op

/-! ### Processes -/

/-- What a process does next: nothing any more, a step of its own, or an operation
on a channel. -/
inductive Act {C : Type} (V : C → Type) (L : Type)
  | halt
  | tau (next : L)
  | on (c : C) (op : Op (V c) L)

namespace Act
variable {C : Type} {V : C → Type} {L K : Type}

/-- The same action of a part of a process, as an action of the whole. -/
def map (f : L → K) : Act V L → Act V K
  | halt => halt
  | tau next => tau (f next)
  | on c op => on c (op.map f)

/-- A process that uses channels only as `reads` and `writes` allow, and keeps what it reads. -/
def Keeps (writes reads : C → Prop) (act : Act V L) : Prop :=
  ∀ c op, act = .on c op → (if op.writes then writes c else reads c) ∧ op.drops = false

theorem Keeps.map {writes reads : C → Prop} {act : Act V L} (h : act.Keeps writes reads)
    (f : L → K) : (act.map f).Keeps writes reads := by
  intro c op hact
  cases act with
  | halt => cases hact
  | tau next => cases hact
  | on d inner =>
    cases hact
    rw [Op.writes_map, Op.drops_map]
    exact h _ inner rfl

theorem keeps_halt {writes reads : C → Prop} : (halt : Act V L).Keeps writes reads := by
  intro c op hact
  cases hact

theorem keeps_tau {writes reads : C → Prop} {next : L} : (tau next : Act V L).Keeps writes reads := by
  intro c op hact
  cases hact

theorem keeps_send {writes reads : C → Prop} {c : C} {v : V c} {sent refused : L} (hc : writes c) :
    (on c (.send v sent refused) : Act V L).Keeps writes reads := by
  intro d op hact
  cases hact
  exact ⟨hc, rfl⟩

theorem keeps_recv {writes reads : C → Prop} {c : C} {got : V c → L} {ended : L} (hc : reads c) :
    (on c (.recv got ended) : Act V L).Keeps writes reads := by
  intro d op hact
  cases hact
  exact ⟨hc, rfl⟩

end Act

/-- Processes, and who holds which end of each channel. -/
structure Net (P C : Type) (L : P → Type) (V : C → Type) where
  act : (p : P) → L p → Act V (L p)
  /-- How many values a channel holds; `none` without a limit. -/
  room : C → Option Nat
  writer : C → P
  reader : C → P
  wired : ∀ p l c op, act p l = .on c op → (if op.writes then writer c else reader c) = p

/-- Where every process stands and what is in every channel. -/
@[ext] structure State {P C : Type} (L : P → Type) (V : C → Type) where
  ctl : (p : P) → L p
  chan : (c : C) → Chan (V c)

namespace State
variable {P C : Type} {L : P → Type} {V : C → Type}

/-- A process goes on in another control state. -/
def goto [DecidableEq P] (σ : State L V) (p : P) (l : L p) : State L V :=
  { σ with ctl := Function.update σ.ctl p l }

/-- A channel changes. -/
def put [DecidableEq C] (σ : State L V) (c : C) (ch : Chan (V c)) : State L V :=
  { σ with chan := Function.update σ.chan c ch }

section Goto
variable [DecidableEq P]

@[simp] theorem goto_chan (σ : State L V) (p : P) (l : L p) : (σ.goto p l).chan = σ.chan := rfl

@[simp] theorem goto_ctl_self (σ : State L V) (p : P) (l : L p) : (σ.goto p l).ctl p = l :=
  Function.update_self ..

theorem goto_ctl_of_ne (σ : State L V) {p q : P} (l : L p) (h : q ≠ p) :
    (σ.goto p l).ctl q = σ.ctl q := Function.update_of_ne h ..

theorem goto_goto_comm (σ : State L V) {p q : P} (h : p ≠ q) (l : L p) (k : L q) :
    (σ.goto p l).goto q k = (σ.goto q k).goto p l := by
  simp only [goto, Function.update_comm h]

end Goto

section Put
variable [DecidableEq C]

@[simp] theorem put_ctl (σ : State L V) (c : C) (ch : Chan (V c)) : (σ.put c ch).ctl = σ.ctl := rfl

@[simp] theorem put_chan_self (σ : State L V) (c : C) (ch : Chan (V c)) :
    (σ.put c ch).chan c = ch := Function.update_self ..

theorem put_chan_of_ne (σ : State L V) {c d : C} (ch : Chan (V c)) (h : d ≠ c) :
    (σ.put c ch).chan d = σ.chan d := Function.update_of_ne h ..

@[simp] theorem put_put_self (σ : State L V) (c : C) (ch d : Chan (V c)) :
    (σ.put c ch).put c d = σ.put c d := by
  simp only [put, Function.update_idem]

theorem put_put_comm (σ : State L V) {c d : C} (h : c ≠ d) (a : Chan (V c)) (b : Chan (V d)) :
    (σ.put c a).put d b = (σ.put d b).put c a := by
  simp only [put, Function.update_comm h]

theorem put_goto [DecidableEq P] (σ : State L V) (c : C) (ch : Chan (V c)) (p : P) (l : L p) :
    (σ.put c ch).goto p l = (σ.goto p l).put c ch := rfl

end Put
end State

namespace Net
variable {P C : Type} {L : P → Type} {V : C → Type}
variable (N : Net P C L V)

/-- No process ever lets go of a reading end. -/
def KeepsReading : Prop := ∀ p l c op, N.act p l = .on c op → op.drops = false

variable {N} in
/-- Two operations of different processes on one channel: one writes, the other
takes, so both orders come to the same. -/
theorem apply_join (hkeep : N.KeepsReading) {σ : State L V} {p q : P} (hpq : p ≠ q) {c : C}
    {f : Op (V c) (L p)} {g : Op (V c) (L q)} {l : L p} {k : L q} {cf cg : Chan (V c)}
    (hf : N.act p (σ.ctl p) = .on c f) (hg : N.act q (σ.ctl q) = .on c g)
    (hfc : f.apply (N.room c) (σ.chan c) = some (l, cf))
    (hgc : g.apply (N.room c) (σ.chan c) = some (k, cg)) :
    ∃ d, g.apply (N.room c) cf = some (k, d) ∧ f.apply (N.room c) cg = some (l, d) := by
  have hp := N.wired p _ c f hf
  have hq := N.wired q _ c g hg
  cases hfw : f.writes with
  | true =>
    cases hgw : g.writes with
    | true =>
      simp only [hfw, hgw, if_true] at hp hq
      exact absurd (hp.symm.trans hq) hpq
    | false => exact Op.apply_comm hfw hgw (hkeep q _ c g hg) hfc hgc
  | false =>
    cases hgw : g.writes with
    | true =>
      obtain ⟨d, hfd, hgd⟩ := Op.apply_comm hgw hfw (hkeep p _ c f hf) hgc hfc
      exact ⟨d, hgd, hfd⟩
    | false =>
      simp only [hfw, hgw, Bool.false_eq_true, if_false] at hp hq
      exact absurd (hp.symm.trans hq) hpq

variable [DecidableEq P] [DecidableEq C]

/-- One move of a process. -/
def step (σ : State L V) (p : P) : Option (State L V) :=
  match N.act p (σ.ctl p) with
  | .halt => none
  | .tau next => some (σ.goto p next)
  | .on c op => (op.apply (N.room c) (σ.chan c)).map fun r => (σ.goto p r.1).put c r.2

/-- The runs from a state; an event names the process that moves. -/
def system (init : State L V) : Transition.System (State L V) P := ⟨init, N.step⟩

variable {N}

theorem step_halt {σ : State L V} {p : P} (h : N.act p (σ.ctl p) = .halt) :
    N.step σ p = none := by
  simp only [step, h]

theorem step_tau {σ : State L V} {p : P} {next : L p} (h : N.act p (σ.ctl p) = .tau next) :
    N.step σ p = some (σ.goto p next) := by
  simp only [step, h]

theorem step_on {σ : State L V} {p : P} {c : C} {op : Op (V c) (L p)} {l : L p} {ch : Chan (V c)}
    (h : N.act p (σ.ctl p) = .on c op) (happly : op.apply (N.room c) (σ.chan c) = some (l, ch)) :
    N.step σ p = some ((σ.goto p l).put c ch) := by
  simp only [step, h, happly, Option.map_some]

theorem step_waits {σ : State L V} {p : P} {c : C} {op : Op (V c) (L p)}
    (h : N.act p (σ.ctl p) = .on c op) (happly : op.apply (N.room c) (σ.chan c) = none) :
    N.step σ p = none := by
  simp only [step, h, happly, Option.map_none]

/-- The ways a process can move. -/
theorem step_cases {σ τ : State L V} {p : P} (h : N.step σ p = some τ) :
    (∃ next, N.act p (σ.ctl p) = .tau next ∧ τ = σ.goto p next) ∨
    ∃ c op l ch, N.act p (σ.ctl p) = .on c op ∧
      op.apply (N.room c) (σ.chan c) = some (l, ch) ∧ τ = (σ.goto p l).put c ch := by
  cases hact : N.act p (σ.ctl p) with
  | halt =>
    rw [step_halt hact] at h
    cases h
  | tau next =>
    rw [step_tau hact] at h
    exact .inl ⟨next, rfl, (Option.some.inj h).symm⟩
  | on c op =>
    cases hop : op.apply (N.room c) (σ.chan c) with
    | none =>
      rw [step_waits hact hop] at h
      cases h
    | some r =>
      rw [step_on hact hop] at h
      exact .inr ⟨c, op, r.1, r.2, rfl, hop, (Option.some.inj h).symm⟩

/-- A process leaves the others where they are. -/
theorem step_ctl_of_ne {σ τ : State L V} {p q : P} (h : N.step σ p = some τ) (hqp : q ≠ p) :
    τ.ctl q = σ.ctl q := by
  obtain ⟨l, -, rfl⟩ | ⟨c, op, l, ch, -, -, rfl⟩ := step_cases h
  · exact σ.goto_ctl_of_ne l hqp
  · exact σ.goto_ctl_of_ne l hqp

/-- Only its reader takes from a channel. -/
theorem step_taken_of_ne {σ τ : State L V} {p : P} {c : C} (h : N.step σ p = some τ)
    (hp : N.reader c ≠ p) : (τ.chan c).taken = (σ.chan c).taken := by
  obtain ⟨l, -, rfl⟩ | ⟨d, op, l, ch, hact, happly, rfl⟩ := step_cases h
  · rfl
  · by_cases hcd : c = d
    · subst hcd
      have hwrites : op.writes = true := by
        cases hop : op.writes with
        | true => rfl
        | false =>
          have := N.wired p _ c op hact
          rw [hop] at this
          exact absurd this hp
      rw [State.put_chan_self]
      exact Op.taken_of_writes hwrites happly
    · rw [State.put_chan_of_ne _ _ hcd]
      rfl

/-- Without its reader a channel only grows. -/
theorem step_queue_of_ne {σ τ : State L V} {p : P} {c : C} (h : N.step σ p = some τ)
    (hp : N.reader c ≠ p) : (σ.chan c).queue <+: (τ.chan c).queue := by
  obtain ⟨l, -, rfl⟩ | ⟨d, op, l, ch, hact, happly, rfl⟩ := step_cases h
  · exact List.prefix_rfl
  · by_cases hcd : c = d
    · subst hcd
      have hwired := N.wired p _ c op hact
      rw [State.put_chan_self]
      cases op with
      | send v sent refused =>
        obtain ⟨-, -, rfl⟩ | ⟨-, -, -, -, rfl⟩ := Op.send_cases happly
        · exact List.prefix_rfl
        · exact List.prefix_append ..
      | close next =>
        simp only [Op.apply, Option.some.injEq, Prod.mk.injEq] at happly
        exact happly.2 ▸ List.prefix_rfl
      | recv => exact absurd hwired hp
      | drop => exact absurd hwired hp
    · rw [State.put_chan_of_ne _ _ hcd]
      exact List.prefix_rfl

/-- **The scheduler's choice does not matter** while every reading end is kept. -/
theorem diamond (hkeep : N.KeepsReading) (init : State L V) : (N.system init).Diamond := by
  intro σ p q τ υ hpq hτ hυ
  -- what the one does next is not touched by a move of the other
  have hp_after : ∀ k, ((σ.goto q k).ctl p) = σ.ctl p := fun k => σ.goto_ctl_of_ne k hpq
  have hq_after : ∀ l, ((σ.goto p l).ctl q) = σ.ctl q := fun l => σ.goto_ctl_of_ne l hpq.symm
  obtain ⟨l, hp, rfl⟩ | ⟨c, f, l, cf, hp, hfc, rfl⟩ := step_cases hτ
  · obtain ⟨k, hq, rfl⟩ | ⟨d, g, k, cg, hq, hgc, rfl⟩ := step_cases hυ
    · refine ⟨_, step_tau ((congrArg _ (hq_after l)).trans hq), ?_⟩
      rw [σ.goto_goto_comm hpq]
      exact step_tau ((congrArg _ (hp_after k)).trans hp)
    · refine ⟨_, step_on ((congrArg _ (hq_after l)).trans hq) hgc, ?_⟩
      rw [σ.goto_goto_comm hpq]
      exact step_tau ((congrArg _ (hp_after k)).trans hp)
  · obtain ⟨k, hq, rfl⟩ | ⟨d, g, k, cg, hq, hgc, rfl⟩ := step_cases hυ
    · refine ⟨_, step_tau ((congrArg _ (hq_after l)).trans hq), ?_⟩
      rw [State.put_goto, σ.goto_goto_comm hpq]
      exact step_on ((congrArg _ (hp_after k)).trans hp) hfc
    · by_cases hcd : c = d
      · subst hcd
        obtain ⟨e, hge, hfe⟩ := apply_join hkeep hpq hp hq hfc hgc
        have hq_on : N.act q (((σ.goto p l).put c cf).ctl q) = .on c g :=
          (congrArg _ (hq_after l)).trans hq
        have hp_on : N.act p (((σ.goto q k).put c cg).ctl p) = .on c f :=
          (congrArg _ (hp_after k)).trans hp
        rw [← State.put_chan_self (σ.goto p l) c cf] at hge
        rw [← State.put_chan_self (σ.goto q k) c cg] at hfe
        have hq_moves := step_on hq_on hge
        have hp_moves := step_on hp_on hfe
        rw [State.put_goto, State.put_put_self] at hq_moves hp_moves
        refine ⟨_, hq_moves, ?_⟩
        rw [σ.goto_goto_comm hpq]
        exact hp_moves
      · refine ⟨((σ.goto p l).goto q k).put c cf |>.put d cg, ?_, ?_⟩
        · refine step_on ((congrArg _ (hq_after l)).trans hq) ?_
          rw [State.put_chan_of_ne _ _ (Ne.symm hcd)]
          exact hgc
        · rw [State.put_put_comm _ hcd, σ.goto_goto_comm hpq]
          refine step_on ((congrArg _ (hp_after k)).trans hp) ?_
          rw [State.put_chan_of_ne _ _ hcd]
          exact hfc

end Net
end Network
