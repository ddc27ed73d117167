import MagicShare.Base.Network

/-! A network inside another one.

The processes, control states and channels of a part have their places in the whole, and
what a process does next is the same in both (`Part`). Then the runs of the part are runs
of the whole (`Part.leads`): what was taken from a channel before stays in front of it,
and what has no place in the part stays as it is. A protocol in phases is put together
this way, each phase where the one before it has left off. -/
namespace Network
open Transition.System

/-! ### Values under another type -/

section Values
variable {α β L K : Type} {toWhole : α → β} {toPart : β → α} {before : Option (List β)}

/-- The channel `d` holds what `c` does, behind what was taken from it before, if that is known. -/
structure Chan.Like (toWhole : α → β) (before : Option (List β)) (c : Chan α) (d : Chan β) : Prop where
  taken : ∀ b, before = some b → d.taken = b ++ c.taken.map toWhole
  queue : d.queue = c.queue.map toWhole
  closed : d.closed = c.closed
  dropped : d.dropped = c.dropped

/-- All that was ever written, too. -/
theorem Chan.Like.written {b : List β} {c : Chan α} {d : Chan β} (h : c.Like toWhole (some b) d) :
    d.written = b ++ c.written.map toWhole := by
  simp [Chan.written, h.taken b rfl, h.queue]

/-- The same operation on a channel of the whole. -/
def Op.convey (toWhole : α → β) (toPart : β → α) (f : L → K) : Op α L → Op β K
  | send v sent refused => send (toWhole v) (f sent) (f refused)
  | close next => close (f next)
  | recv got ended => recv (fun w => f (got (toPart w))) (f ended)
  | drop next => drop (f next)

theorem Op.drops_convey (f : L → K) (op : Op α L) : (op.convey toWhole toPart f).drops = op.drops := by
  cases op <;> rfl

/-- An operation does the same to channels that hold the same. -/
theorem Op.apply_convey (hback : ∀ v, toPart (toWhole v) = v) {op : Op α L} {room : Option Nat} {c c' : Chan α}
    {d : Chan β} {l : L} (hlike : c.Like toWhole before d) (f : L → K) (h : op.apply room c = some (l, c')) :
    ∃ d', (op.convey toWhole toPart f).apply room d = some (f l, d') ∧ c'.Like toWhole before d' := by
  obtain ⟨htaken, hqueue, hclosed, hdropped⟩ := hlike
  cases op with
  | send v sent refused =>
    obtain ⟨hdrop, rfl, rfl⟩ | ⟨hdrop, hclose, hroom, rfl, rfl⟩ := send_cases h
    · exact ⟨d, send_of_dropped (hdropped.trans hdrop), htaken, hqueue, hclosed, hdropped⟩
    · have hroom' : hasRoom room d.queue.length = true := by
        rw [hqueue, List.length_map]
        exact hroom
      refine ⟨_, send_of_room (hdropped.trans hdrop) (hclosed.trans hclose) hroom', htaken, ?_, hclosed, hdropped⟩
      simp [hqueue]
  | close next =>
    simp only [apply, Option.some.injEq, Prod.mk.injEq] at h
    obtain ⟨rfl, rfl⟩ := h
    exact ⟨_, rfl, htaken, hqueue, rfl, hdropped⟩
  | recv got ended =>
    obtain ⟨v, rest, hcons, rfl, rfl⟩ | ⟨hnil, hclose, rfl, rfl⟩ := recv_cases h
    · have hcons' : d.queue = toWhole v :: rest.map toWhole := by rw [hqueue, hcons, List.map_cons]
      refine ⟨{ d with taken := d.taken ++ [toWhole v], queue := rest.map toWhole }, ?_, ?_, rfl, hclosed, hdropped⟩
      · have hgot : ((recv got ended).convey toWhole toPart f).apply room d = some (f (got (toPart (toWhole v))), _) :=
          recv_of_cons hcons'
        rw [hback] at hgot
        exact hgot
      · intro b hb
        simp [htaken b hb]
    · have hnil' : d.queue = [] := by rw [hqueue, hnil, List.map_nil]
      exact ⟨d, recv_of_closed hnil' (hclosed.trans hclose), htaken, hqueue, hclosed, hdropped⟩
  | drop next =>
    simp only [apply, Option.some.injEq, Prod.mk.injEq] at h
    obtain ⟨rfl, rfl⟩ := h
    exact ⟨_, rfl, htaken, hqueue, hclosed, rfl⟩

/-- It waits for the same, too. -/
theorem Op.apply_convey_none {op : Op α L} {room : Option Nat} {c : Chan α} {d : Chan β}
    (hlike : c.Like toWhole before d) (f : L → K) (h : op.apply room c = none) :
    (op.convey toWhole toPart f).apply room d = none := by
  obtain ⟨-, hqueue, hclosed, hdropped⟩ := hlike
  cases op with
  | send v sent refused =>
    simp only [apply, convey, hqueue, hclosed, hdropped, List.length_map] at h ⊢
    split at h
    · cases h
    · rename_i hdrop
      split at h
      · rename_i hfull
        rw [if_neg hdrop, if_pos hfull]
      · cases h
  | close next => cases h
  | recv got ended =>
    cases hnil : c.queue with
    | nil =>
      simp only [apply, convey, hnil, hqueue, hclosed, List.map_nil] at h ⊢
      split at h
      · cases h
      · rename_i hopen
        rw [if_neg hopen]
    | cons v rest =>
      simp only [apply, hnil] at h
      cases h
  | drop next => cases h

end Values

/-- The same action in the whole. -/
def Act.convey {C D L K : Type} {V : C → Type} {W : D → Type} (channel : C → D)
    (toWhole : (c : C) → V c → W (channel c)) (toPart : (c : C) → W (channel c) → V c) (f : L → K) :
    Act V L → Act W K
  | .halt => .halt
  | .tau next => .tau (f next)
  | .on c op => .on (channel c) (op.convey (toWhole c) (toPart c) f)

/-! ### Who uses which end -/

section Uses
variable {C D L K : Type} {V : C → Type} {W : D → Type} {writes reads : C → Prop} {act : Act V L}

/-- A process that uses channels only as `reads` and `writes` allow. -/
def Act.Uses (writes reads : C → Prop) (act : Act V L) : Prop :=
  ∀ c op, act = .on c op → if op.writes then writes c else reads c

theorem Act.Keeps.uses (h : act.Keeps writes reads) : act.Uses writes reads := fun c op hact => (h c op hact).1

/-- An action in the whole uses channels as the part allows. -/
theorem Act.Uses.convey {channel : C → D} {toWhole : (c : C) → V c → W (channel c)}
    {toPart : (c : C) → W (channel c) → V c} {writes' reads' : D → Prop} (h : act.Uses writes reads) (f : L → K)
    (hwrites : ∀ c, writes c → writes' (channel c)) (hreads : ∀ c, reads c → reads' (channel c)) :
    (act.convey channel toWhole toPart f).Uses writes' reads' := by
  intro d op hact
  cases act with
  | halt => cases hact
  | tau next => cases hact
  | on c inner =>
    cases hact
    have hends := h c inner rfl
    cases inner with
    | send => exact hwrites c hends
    | close => exact hwrites c hends
    | recv => exact hreads c hends
    | drop => exact hreads c hends

theorem Act.Keeps.convey {channel : C → D} {toWhole : (c : C) → V c → W (channel c)}
    {toPart : (c : C) → W (channel c) → V c} {writes' reads' : D → Prop} (h : act.Keeps writes reads) (f : L → K)
    (hwrites : ∀ c, writes c → writes' (channel c)) (hreads : ∀ c, reads c → reads' (channel c)) :
    (act.convey channel toWhole toPart f).Keeps writes' reads' := by
  intro d op hact
  refine ⟨h.uses.convey f hwrites hreads d op hact, ?_⟩
  cases act with
  | halt => cases hact
  | tau next => cases hact
  | on c inner =>
    cases hact
    exact (Op.drops_convey f inner).trans (h c inner rfl).2

/-- Every process of a network uses the ends it holds. -/
theorem Net.uses {P : Type} {L : P → Type} {V : C → Type} (N : Net P C L V) (p : P) (l : L p) :
    (N.act p l).Uses (fun c => N.writer c = p) (fun c => N.reader c = p) := by
  intro c op hact
  have hwired := N.wired p l c op hact
  split at hwired
  · rename_i hop
    rwa [if_pos hop]
  · rename_i hop
    rwa [if_neg hop]

theorem Net.KeepsReading.keeps {P : Type} {L : P → Type} {V : C → Type} {N : Net P C L V} (h : N.KeepsReading) (p : P)
    (l : L p) : (N.act p l).Keeps (fun c => N.writer c = p) (fun c => N.reader c = p) :=
  fun c op hact => ⟨N.uses p l c op hact, h p l c op hact⟩

/-- What a network asks of its processes. -/
theorem Act.Uses.wired {P : Type} {writer reader : C → P} {p : P}
    (h : act.Uses (fun c => writer c = p) (fun c => reader c = p)) {c : C} {op : Op (V c) L} (hact : act = .on c op) :
    (if op.writes then writer c else reader c) = p := by
  have hends := h c op hact
  split at hends
  · rename_i hop
    rwa [if_pos hop]
  · rename_i hop
    rwa [if_neg hop]

end Uses

/-! ### Parts -/

variable {P C : Type} {L : P → Type} {V : C → Type} {Q D : Type} {K : Q → Type} {W : D → Type}

/-- `N` is a part of `M`. Where a process of the part halts, the whole may go on. -/
structure Part (N : Net P C L V) (M : Net Q D K W) where
  process : P → Q
  ctl : (p : P) → L p → K (process p)
  channel : C → D
  toWhole : (c : C) → V c → W (channel c)
  toPart : (c : C) → W (channel c) → V c
  process_injective : Function.Injective process
  channel_injective : Function.Injective channel
  toPart_toWhole : ∀ c v, toPart c (toWhole c v) = v
  room : ∀ c, M.room (channel c) = N.room c
  act : ∀ p l, N.act p l ≠ .halt → M.act (process p) (ctl p l) = (N.act p l).convey channel toWhole toPart (ctl p)

namespace Part
variable {N : Net P C L V} {M : Net Q D K W} (ι : Part N M)

/-- `σ'` shows the part in the state `σ`, and is like `frame` elsewhere. -/
structure Shows (before : (c : C) → Option (List (W (ι.channel c)))) (frame : State K W) (σ : State L V)
    (σ' : State K W) : Prop where
  ctl : ∀ p, σ'.ctl (ι.process p) = ι.ctl p (σ.ctl p)
  chan : ∀ c, (σ.chan c).Like (ι.toWhole c) (before c) (σ'.chan (ι.channel c))
  otherCtl : ∀ q, (∀ p, q ≠ ι.process p) → σ'.ctl q = frame.ctl q
  otherChan : ∀ d, (∀ c, d ≠ ι.channel c) → σ'.chan d = frame.chan d

section Moves
variable {ι} {before : (c : C) → Option (List (W (ι.channel c)))} {frame σ' : State K W} {σ : State L V}
variable [DecidableEq P] [DecidableEq Q] [DecidableEq D]

omit [DecidableEq D] in
theorem Shows.goto (h : ι.Shows before frame σ σ') (p : P) (l : L p) :
    ι.Shows before frame (σ.goto p l) (σ'.goto (ι.process p) (ι.ctl p l)) where
  ctl q := by
    by_cases hqp : q = p
    · subst hqp
      rw [State.goto_ctl_self, State.goto_ctl_self]
    · rw [State.goto_ctl_of_ne _ _ hqp, State.goto_ctl_of_ne _ _ fun heq => hqp (ι.process_injective heq)]
      exact h.ctl q
  chan := h.chan
  otherCtl q hq := by
    rw [State.goto_ctl_of_ne _ _ (hq p)]
    exact h.otherCtl q hq
  otherChan := h.otherChan

omit [DecidableEq P] [DecidableEq Q] in
theorem Shows.put [DecidableEq C] (h : ι.Shows before frame σ σ') (c : C) {ch : Chan (V c)} {ch' : Chan (W (ι.channel c))}
    (hlike : ch.Like (ι.toWhole c) (before c) ch') :
    ι.Shows before frame (σ.put c ch) (σ'.put (ι.channel c) ch') where
  ctl := h.ctl
  chan d := by
    by_cases hdc : d = c
    · subst hdc
      rw [State.put_chan_self, State.put_chan_self]
      exact hlike
    · rw [State.put_chan_of_ne _ _ hdc, State.put_chan_of_ne _ _ fun heq => hdc (ι.channel_injective heq)]
      exact h.chan d
  otherCtl := h.otherCtl
  otherChan d hd := by
    rw [State.put_chan_of_ne _ _ (hd c)]
    exact h.otherChan d hd

variable [DecidableEq C]

/-- **A step of the part is a step of the whole.** -/
theorem Shows.step (h : ι.Shows before frame σ σ') {p : P} {τ : State L V} (hst : N.step σ p = some τ) :
    ∃ τ', M.step σ' (ι.process p) = some τ' ∧ ι.Shows before frame τ τ' := by
  have hact : N.act p (σ.ctl p) ≠ .halt → M.act (ι.process p) (σ'.ctl (ι.process p)) =
      (N.act p (σ.ctl p)).convey ι.channel ι.toWhole ι.toPart (ι.ctl p) := fun hne => by
    rw [h.ctl]
    exact ι.act p _ hne
  obtain ⟨l, hnext, rfl⟩ | ⟨c, op, l, ch, hnext, happly, rfl⟩ := Net.step_cases hst
  · rw [hnext] at hact
    exact ⟨_, Net.step_tau (hact (by simp)), h.goto p l⟩
  · rw [hnext] at hact
    obtain ⟨ch', happly', hlike⟩ := Op.apply_convey (ι.toPart_toWhole c) (h.chan c) (ι.ctl p) happly
    rw [← ι.room] at happly'
    exact ⟨_, Net.step_on (hact (by simp)) happly', (h.goto p l).put c hlike⟩

/-- A process of the part that waits there waits in the whole. -/
theorem Shows.waits (h : ι.Shows before frame σ σ') {p : P} (hact : N.act p (σ.ctl p) ≠ .halt)
    (hst : N.step σ p = none) : M.step σ' (ι.process p) = none := by
  have hwhole := ι.act p _ hact
  rw [← h.ctl] at hwhole
  cases hnext : N.act p (σ.ctl p) with
  | halt => exact absurd hnext hact
  | tau next =>
    rw [Net.step_tau hnext] at hst
    cases hst
  | on c op =>
    rw [hnext] at hwhole
    refine Net.step_waits hwhole ?_
    rw [ι.room]
    refine Op.apply_convey_none (h.chan c) (ι.ctl p) ?_
    cases happly : op.apply (N.room c) (σ.chan c) with
    | none => rfl
    | some r =>
      rw [Net.step_on hnext happly] at hst
      cases hst

end Moves
end Part
end Network
