import MagicShare.Base.Parsing

/-! Readers that keep an index.

A decoder often keeps its whole input and an index into it, and a read past the end is an
error of its own. `Follows xs m r` compares such a reader with one that takes its values off
the front: they fail alike, or they read the same value and stand at the same place. It
carries over to sequences and repetitions, so a decoder that threads an index is compared
with `Parsing.Reader` field by field. -/
namespace Parsing

variable {B ε α β γ : Type} {xs : List B}

/-- A value read at an index, and the index after it. -/
abbrev Cursor (ε α : Type) := Nat → Except ε (α × Nat)

/-- The reader with the index follows the one without. -/
inductive Follows (xs : List B) : Except ε (α × Nat) → Except ε (α × List B) → Prop
  | error (e : ε) : Follows xs (.error e) (.error e)
  | ok (a : α) {j : Nat} (h : j ≤ xs.length) : Follows xs (.ok (a, j)) (.ok (a, xs.drop j))

namespace Follows

theorem bind {m : Except ε (α × Nat)} {r : Except ε (α × List B)} {f : α × Nat → Except ε (β × Nat)}
    {g : α × List B → Except ε (β × List B)} (h : Follows xs m r)
    (hf : ∀ a j, j ≤ xs.length → Follows xs (f (a, j)) (g (a, xs.drop j))) :
    Follows xs (m >>= f) (r >>= g) := by
  cases h with
  | error e => exact .error e
  | ok a hj => exact hf a _ hj

/-- What is made of the value and the place is the same too. -/
theorem bind_eq {m : Except ε (α × Nat)} {r : Except ε (α × List B)} {f : α × Nat → Except ε γ}
    {g : α × List B → Except ε γ} (h : Follows xs m r)
    (hf : ∀ a j, j ≤ xs.length → f (a, j) = g (a, xs.drop j)) : (m >>= f) = (r >>= g) := by
  cases h with
  | error e => rfl
  | ok a hj => exact hf a _ hj

end Follows

/-- Entries `n`, `n + 1`, … of a list, `count` in all. -/
def repeatedAt (m : Nat → Cursor ε α) (n : Nat) : (count : Nat) → Cursor ε (List α)
  | 0 => fun i => .ok ([], i)
  | count + 1 => fun i =>
    m n i >>= fun p => repeatedAt m (n + 1) count p.2 >>= fun q => .ok (p.1 :: q.1, q.2)

theorem follows_repeated {m : Nat → Cursor ε α} {r : Nat → Reader B ε α}
    (h : ∀ n i, i ≤ xs.length → Follows xs (m n i) (r n (xs.drop i))) (n count i : Nat) (hi : i ≤ xs.length) :
    Follows xs (repeatedAt m n count i) (repeated r n count (xs.drop i)) := by
  induction count generalizing n i with
  | zero => exact .ok [] hi
  | succ count ih =>
    unfold repeatedAt repeated andThen
    exact (h n i hi).bind fun a j hj => (ih (n + 1) j hj).bind fun as k hk => .ok (a :: as) hk

end Parsing
