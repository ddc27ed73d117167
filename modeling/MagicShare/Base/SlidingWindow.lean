import Mathlib.Algebra.Order.Group.Defs
import Mathlib.Data.List.Basic
import Mathlib.Data.List.Induction

/-! A sliding window over a log of times.

A limiter that admits an entry only while fewer than `n` entries of the last `w`
are there keeps at most `n` entries in every window of length `w`
(`within_append_le`). It may forget what is older: the entries of the last `w`
can be taken from any later cut of the log (`recent_recent`). One that keeps the
window of its last entry only (`lastWindow`) sees as many recent entries as the log
has (`recent_lastWindow`). -/
namespace SlidingWindow
variable {T : Type*} [AddCommGroup T] [LinearOrder T] [IsOrderedAddMonoid T] (w : T)

/-- The entries after `now - w`. -/
def recent (now : T) (log : List T) : List T := log.filter fun x => decide (now - w < x)

/-- The entries in `(t - w, t]`. -/
def within (t : T) (log : List T) : List T := log.filter fun x => decide (t - w < x ∧ x ≤ t)

/-- What was cut before is not recent later. -/
theorem recent_recent {cut now : T} (h : cut ≤ now) (log : List T) :
    recent w now (recent w cut log) = recent w now log := by
  unfold recent
  rw [List.filter_filter]
  refine List.filter_congr fun x _ => ?_
  have hcut : cut - w ≤ now - w := sub_le_sub_right h w
  by_cases hx : now - w < x
  · simp [hx, lt_of_le_of_lt hcut hx]
  · simp [hx]

/-- Nothing is older than its own window. -/
theorem recent_append_self {now : T} (hw : 0 < w) (log : List T) :
    recent w now (log ++ [now]) = recent w now log ++ [now] := by
  have : now - w < now := sub_lt_self now hw
  simp [recent, List.filter_append, this]

/-- A window that ends at `now` or later holds no more than the recent entries. -/
theorem within_le_recent {now t : T} (h : now ≤ t) (log : List T) :
    (within w t log).length ≤ (recent w now log).length := by
  refine (List.monotone_filter_right log fun x hx => ?_).length_le
  have hcut : now - w ≤ t - w := sub_le_sub_right h w
  simp only [decide_eq_true_eq] at hx ⊢
  exact lt_of_le_of_lt hcut hx.1

/-- **Admitting an entry while fewer than `n` are recent keeps every window at
`n`.** -/
theorem within_append_le {n : Nat} {now : T} {log : List T} (hroom : (recent w now log).length < n)
    (hlog : ∀ t, (within w t log).length ≤ n) (t : T) : (within w t (log ++ [now])).length ≤ n := by
  by_cases h : now ≤ t
  · have hle := within_le_recent w h log
    have happ : (within w t (log ++ [now])).length ≤ (within w t log).length + 1 := by
      simp only [within, List.filter_append, List.length_append]
      have : ([now].filter fun x => decide (t - w < x ∧ x ≤ t)).length ≤ 1 :=
        List.length_filter_le _ [now]
      omega
    omega
  · have hsame : within w t (log ++ [now]) = within w t log := by
      simp [within, List.filter_append, h]
    rw [hsame]
    exact hlog t

omit [IsOrderedAddMonoid T] in
/-- In a log that ends by `t`, the entries of the window at `t` are the recent ones. -/
theorem within_eq_recent {t : T} {log : List T} (h : ∀ x ∈ log, x ≤ t) : within w t log = recent w t log := by
  refine List.filter_congr fun x hx => ?_
  simp [h x hx]

/-- The entries in the window of the last one. -/
def lastWindow (log : List T) : List T := log.getLast?.elim [] fun last => within w last log

/-- In a log in order, an entry joins what is recent then. -/
theorem lastWindow_append {now : T} {log : List T} (hw : 0 < w) (h : ∀ x ∈ log, x ≤ now) :
    lastWindow w (log ++ [now]) = recent w now log ++ [now] := by
  have hall : ∀ x ∈ log ++ [now], x ≤ now := by
    intro x hx
    rcases List.mem_append.mp hx with hold | hnew
    · exact h x hold
    · exact le_of_eq (List.mem_singleton.mp hnew)
  rw [lastWindow, List.getLast?_concat, Option.elim_some, within_eq_recent w hall, recent_append_self w hw]

/-- The window of the last entry holds all that is recent later. -/
theorem recent_lastWindow {now : T} {log : List T} (hsorted : log.Pairwise (· ≤ ·)) (h : ∀ x ∈ log, x ≤ now) :
    recent w now (lastWindow w log) = recent w now log := by
  induction log using List.reverseRecOn with
  | nil => rfl
  | append_singleton log last =>
    have hlast : ∀ x ∈ log ++ [last], x ≤ last := by
      intro x hx
      rcases List.mem_append.mp hx with hold | hnew
      · exact (List.pairwise_append.mp hsorted).2.2 x hold last (List.mem_singleton_self _)
      · exact le_of_eq (List.mem_singleton.mp hnew)
    rw [lastWindow, List.getLast?_concat, Option.elim_some, within_eq_recent w hlast]
    exact recent_recent w (h last (List.mem_append_right _ (List.mem_singleton_self _))) _

end SlidingWindow
