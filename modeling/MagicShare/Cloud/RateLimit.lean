import Mathlib.Algebra.Order.Group.Int
import MagicShare.Base.SlidingWindow
import MagicShare.Cloud.Firestore

/-! `rate-limit.ts`: the sliding window of a device's sends.

Called again and again with the array it returned last, `consumeSendQuota` counts every
call it accepted in the last hour, although it keeps no more than the hour before the
last of them (`quota_of_calls`). -/
namespace MagicShare.Cloud

def sendRateLimitPerHour : Nat := 30
def rateLimitWindowMs : Int := 60 * 60 * 1000

/-- The entries of the last hour. -/
def trimmed (existing : Option (List Timestamp)) (now : Timestamp) : List Timestamp :=
  (existing.getD []).filter fun t => t > now - rateLimitWindowMs

def consumeSendQuota (existing : Option (List Timestamp)) (now : Timestamp) :
    Except Rejection (List Timestamp) :=
  if (trimmed existing now).length ≥ sendRateLimitPerHour then
    .error (.https .resourceExhausted "Send rate limit exceeded (30/hour).")
  else .ok (trimmed existing now ++ [now])

/-- The quota is full, or the new entry joins the entries of the last hour. -/
theorem consumeSendQuota_cases (existing : Option (List Timestamp)) (now : Timestamp) :
    (sendRateLimitPerHour ≤ (trimmed existing now).length ∧
        ∃ e, consumeSendQuota existing now = .error e) ∨
      ((trimmed existing now).length < sendRateLimitPerHour ∧
        consumeSendQuota existing now = .ok (trimmed existing now ++ [now])) := by
  by_cases h : sendRateLimitPerHour ≤ (trimmed existing now).length
  · exact .inl ⟨h, _, by simp [consumeSendQuota, h]; rfl⟩
  · exact .inr ⟨by omega, by simp [consumeSendQuota, h]⟩

/-- The entries of the last hour are the recent ones. -/
theorem trimmed_eq (existing : Option (List Timestamp)) (now : Timestamp) :
    trimmed existing now = SlidingWindow.recent rateLimitWindowMs now (existing.getD []) := rfl

/-! ### Call after call -/

/-- The array that was returned last, and the times of the calls that returned one. -/
structure Sends where
  recentSendsAt : Option (List Timestamp) := none
  accepted : List Timestamp := []
  deriving DecidableEq

namespace Sends

/-- A call with the array of the last one; the array stays where the call throws. -/
def consume (s : Sends) (now : Timestamp) : Sends :=
  match consumeSendQuota s.recentSendsAt now with
  | .ok quota => ⟨some quota, s.accepted ++ [now]⟩
  | .error _ => s

/-- Calls at these times, the first one without an array. -/
def afterCalls (times : List Timestamp) : Sends := times.foldl consume {}

theorem afterCalls_concat (times : List Timestamp) (now : Timestamp) :
    afterCalls (times ++ [now]) = (afterCalls times).consume now := by
  simp [afterCalls, List.foldl_append]

/-- A call at `now` is accepted. -/
def Accepts (s : Sends) (now : Timestamp) : Prop := ∃ quota, consumeSendQuota s.recentSendsAt now = .ok quota

/-- The calls so far were made in order, and the array is the hour before the last
accepted one. -/
structure Kept (s : Sends) (clock : Timestamp) : Prop where
  sorted : s.accepted.Pairwise (· ≤ ·)
  past : ∀ t ∈ s.accepted, t ≤ clock
  array : s.recentSendsAt.getD [] = SlidingWindow.lastWindow rateLimitWindowMs s.accepted
  length : (s.recentSendsAt.getD []).length ≤ sendRateLimitPerHour

variable {s : Sends} {clock now : Timestamp}

theorem Kept.later (h : s.Kept clock) (hnow : clock ≤ now) : s.Kept now :=
  {h with past := fun t ht => (h.past t ht).trans hnow}

/-- What is left of the array at `now` are the accepted calls of the last hour. -/
theorem Kept.trimmed (h : s.Kept now) :
    Cloud.trimmed s.recentSendsAt now = SlidingWindow.within rateLimitWindowMs now s.accepted := by
  rw [trimmed_eq, h.array, SlidingWindow.recent_lastWindow _ h.sorted h.past, SlidingWindow.within_eq_recent _ h.past]

/-- A call is accepted while fewer than 30 were in the last hour. -/
theorem Kept.accepts_iff (h : s.Kept now) :
    s.Accepts now ↔ (SlidingWindow.within rateLimitWindowMs now s.accepted).length < sendRateLimitPerHour := by
  rw [← h.trimmed]
  rcases consumeSendQuota_cases s.recentSendsAt now with ⟨hfull, e, herror⟩ | ⟨hroom, hok⟩
  · refine iff_of_false ?_ (by omega)
    rintro ⟨quota, haccepted⟩
    rw [herror] at haccepted
    cases haccepted
  · exact iff_of_true ⟨_, hok⟩ hroom

theorem Kept.consume (h : s.Kept now) : (s.consume now).Kept now := by
  unfold Sends.consume
  rcases consumeSendQuota_cases s.recentSendsAt now with ⟨-, e, herror⟩ | ⟨hroom, hok⟩
  · rw [herror]
    exact h
  · rw [hok]
    have hrecent : SlidingWindow.recent rateLimitWindowMs now s.accepted = Cloud.trimmed s.recentSendsAt now := by
      rw [h.trimmed, SlidingWindow.within_eq_recent _ h.past]
    refine ⟨?_, fun t ht => ?_, ?_, ?_⟩
    · refine List.pairwise_append.mpr ⟨h.sorted, List.pairwise_singleton _ _, fun t ht last hlast => ?_⟩
      rw [List.mem_singleton.mp hlast]
      exact h.past t ht
    · rcases List.mem_append.mp ht with hold | hnew
      · exact h.past t hold
      · exact le_of_eq (List.mem_singleton.mp hnew)
    · rw [SlidingWindow.lastWindow_append _ (by decide) h.past, hrecent]
      rfl
    · simpa [Nat.succ_le_iff] using hroom

/-- Induction over the calls: those before the last one are the calls so far. -/
theorem kept_afterCalls {times : List Timestamp} (hsorted : times.Pairwise (· ≤ ·)) (hpast : ∀ t ∈ times, t ≤ clock) :
    (afterCalls times).Kept clock := by
  induction times using List.reverseRecOn generalizing clock with
  | nil => exact ⟨List.Pairwise.nil, fun _ ht => (List.not_mem_nil ht).elim, rfl, Nat.zero_le _⟩
  | append_singleton times now ih =>
    obtain ⟨hbefore, -, hlast⟩ := List.pairwise_append.mp hsorted
    rw [afterCalls_concat]
    have hnow := ih hbefore fun t ht => hlast t ht now (List.mem_singleton_self _)
    exact hnow.consume.later (hpast now (List.mem_append_right _ (List.mem_singleton_self _)))

end Sends

/-- **The sliding window.** After calls in order, a call is accepted exactly if fewer
than 30 accepted ones are in its hour, and the array is what the accepted ones leave in
the hour of the last of them. -/
theorem quota_of_calls {times : List Timestamp} {now : Timestamp} (hsorted : times.Pairwise (· ≤ ·))
    (hnow : ∀ t ∈ times, t ≤ now) :
    ((Sends.afterCalls times).Accepts now ↔
        (SlidingWindow.within rateLimitWindowMs now (Sends.afterCalls times).accepted).length < sendRateLimitPerHour) ∧
      (Sends.afterCalls times).recentSendsAt.getD [] =
        SlidingWindow.lastWindow rateLimitWindowMs (Sends.afterCalls times).accepted ∧
      ((Sends.afterCalls times).recentSendsAt.getD []).length ≤ sendRateLimitPerHour := by
  have hkept := Sends.kept_afterCalls hsorted hnow
  exact ⟨hkept.accepts_iff, hkept.array, hkept.length⟩

/-- An hour after thirty calls there is room again; a millisecond before there is not. -/
theorem quota_of_calls_an_hour_later :
    (Sends.afterCalls (List.replicate 30 0)).Accepts 3600000 ∧
      ¬ (Sends.afterCalls (List.replicate 30 0)).Accepts 3599999 := by
  have hsorted : (List.replicate 30 (0 : Timestamp)).Pairwise (· ≤ ·) := List.pairwise_replicate_of_refl
  constructor
  · exact (quota_of_calls hsorted (by decide)).1.mpr (by decide +kernel)
  · rw [(quota_of_calls hsorted (by decide)).1]
    decide +kernel

end MagicShare.Cloud
