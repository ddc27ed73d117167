import MagicShare.Base.Fallible

/-! Readers of a byte string, and the layouts they accept.

A reader takes a value off the front of its input or fails. A layout says which
bytes stand for which value. `Exact r L` is both directions at once: `r` accepts
precisely the inputs that start with a layout of the value it returns, and hands
the rest back untouched. Exactness carries over to sequences and repetitions
(`Exact.andThen`, `Exact.repeated`), so the layout of a format is read off its
decoder field by field. -/
namespace Parsing
open Fallible

variable {B ε α β : Type}

/-- A value off the front, and what follows it; or an error. -/
abbrev Reader (B ε α : Type) := List B → Except ε (α × List B)

/-- Which bytes stand for which value. -/
abbrev Layout (B α : Type) := List B → α → Prop

/-- `r` accepts the layout `L` and nothing else. -/
def Exact (r : Reader B ε α) (L : Layout B α) : Prop :=
  ∀ bs a rest, r bs = .ok (a, rest) ↔ ∃ x, bs = x ++ rest ∧ L x a

/-- One value after the other. -/
def andThen (r : Reader B ε α) (f : α → Reader B ε β) : Reader B ε β := fun bs =>
  r bs >>= fun p => f p.1 p.2

/-- Bytes of the first layout, then bytes of the second. -/
def Layout.seq (L : Layout B α) (K : α → Layout B β) : Layout B β := fun z b =>
  ∃ a x y, z = x ++ y ∧ L x a ∧ K a y b

theorem Exact.andThen {r : Reader B ε α} {L : Layout B α} {f : α → Reader B ε β} {K : α → Layout B β}
    (hr : Exact r L) (hf : ∀ a, Exact (f a) (K a)) : Exact (andThen r f) (L.seq K) := by
  intro bs b rest
  simp only [Parsing.andThen, bind_eq_ok]
  constructor
  · rintro ⟨⟨a, mid⟩, hra, hfb⟩
    obtain ⟨x, rfl, hx⟩ := (hr _ _ _).mp hra
    obtain ⟨y, rfl, hy⟩ := (hf a _ _ _).mp hfb
    exact ⟨x ++ y, (List.append_assoc x y rest).symm, a, x, y, rfl, hx, hy⟩
  · rintro ⟨z, rfl, a, x, y, rfl, hx, hy⟩
    rw [List.append_assoc]
    exact ⟨(a, y ++ rest), (hr _ _ _).mpr ⟨x, rfl, hx⟩, (hf a _ _ _).mpr ⟨y, rfl, hy⟩⟩

/-- Entries `n`, `n + 1`, … of a list, `count` in all. -/
def repeated (r : Nat → Reader B ε α) (n : Nat) : (count : Nat) → Reader B ε (List α)
  | 0 => fun bs => .ok ([], bs)
  | count + 1 => andThen (r n) fun a => fun bs =>
    repeated r (n + 1) count bs >>= fun p => .ok (a :: p.1, p.2)

/-- The layouts of the entries one after the other. -/
def Layout.list (L : Layout B α) : Layout B (List α) := fun z as =>
  ∃ xs : List (List B), z = xs.flatten ∧ List.Forall₂ L xs as

theorem Layout.list_nil (L : Layout B α) : L.list [] [] := ⟨[], rfl, .nil⟩

theorem Layout.list_cons {L : Layout B α} {x z : List B} {a : α} {as : List α} (hx : L x a)
    (hz : L.list z as) : L.list (x ++ z) (a :: as) := by
  obtain ⟨xs, rfl, hxs⟩ := hz
  exact ⟨x :: xs, rfl, .cons hx hxs⟩

/-- Reading a fixed number of entries of one layout. -/
theorem Exact.repeated {r : Nat → Reader B ε α} {L : Layout B α} (hr : ∀ n, Exact (r n) L) (n count : Nat) :
    Exact (repeated r n count) fun z as => as.length = count ∧ L.list z as := by
  induction count generalizing n with
  | zero =>
    intro bs as rest
    constructor
    · intro h
      obtain ⟨rfl, rfl⟩ := Prod.mk.inj (Except.ok.inj h)
      exact ⟨[], rfl, rfl, L.list_nil⟩
    · rintro ⟨z, rfl, hlen, xs, rfl, hxs⟩
      obtain rfl := List.length_eq_zero_iff.mp hlen
      cases hxs
      rfl
  | succ count ih =>
    intro bs as rest
    simp only [Parsing.repeated, Parsing.andThen, bind_eq_ok]
    constructor
    · rintro ⟨⟨a, mid⟩, hra, ⟨as', rest'⟩, hrest, heq⟩
      obtain ⟨rfl, rfl⟩ := Prod.mk.inj (Except.ok.inj heq)
      obtain ⟨x, rfl, hx⟩ := (hr n _ _ _).mp hra
      obtain ⟨z, rfl, hlen, hz⟩ := (ih (n + 1) _ _ _).mp hrest
      exact ⟨x ++ z, (List.append_assoc ..).symm, by rw [List.length_cons, hlen], Layout.list_cons hx hz⟩
    · rintro ⟨z, rfl, hlen, xs, rfl, hxs⟩
      cases hxs with
      | nil => cases hlen
      | @cons x a xs as hx hxs =>
        rw [List.flatten_cons, List.append_assoc]
        refine ⟨(a, xs.flatten ++ rest), (hr n _ _ _).mpr ⟨x, rfl, hx⟩, (as, rest), ?_, rfl⟩
        exact (ih (n + 1) _ _ _).mpr ⟨xs.flatten, rfl, Nat.succ.inj hlen, xs, rfl, hxs⟩

end Parsing
