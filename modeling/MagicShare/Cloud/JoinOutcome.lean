import MagicShare.Cloud.Count

/-! What a `joinNetwork` call that rejects leaves behind.

Up to the commit a rejection leaves the store as it was. The three steps after
it (the sweep of the source side, the read of the target's device list, the
minting of the custom token) can fail with the move already committed: then the
caller is told the join failed, and its code is used up. -/
namespace MagicShare.Cloud

section Outcome
variable {env : JoinEnv} {uid : DocId} {input : JoinNetworkInput} {s : Store}

/-- The sweep touches no token; it fails only where it has something to do. -/
theorem joinSweep_cases (r : SweepRun) (uid d : DocId) (decision : JoinDecision) (t : Store) :
    ∃ result u, joinSweep r uid d decision t = (result, u) ∧ (∀ k, u.token k = t.token k) ∧
      ((result = .ok () ∧ (decision.hadSourceAccount = true → r = .completes)) ∨
        (result = .error .recursiveDelete ∧ decision.hadSourceAccount = true ∧ r ≠ .completes)) := by
  obtain ⟨accountId, deleted, had⟩ := decision
  cases had with
  | false => exact ⟨_, _, rfl, fun _ => rfl, .inl ⟨rfl, fun h => nomatch h⟩⟩
  | true =>
    cases r with
    | completes =>
      cases deleted with
      | true => exact ⟨_, _, rfl, fun _ => rfl, .inl ⟨rfl, fun _ => rfl⟩⟩
      | false => exact ⟨_, _, rfl, fun _ => rfl, .inl ⟨rfl, fun _ => rfl⟩⟩
    | fails root below =>
      cases deleted with
      | true => cases root <;> exact ⟨_, _, rfl, fun _ => rfl, .inr ⟨rfl, rfl, fun h => nomatch h⟩⟩
      | false => cases root <;> exact ⟨_, _, rfl, fun _ => rfl, .inr ⟨rfl, rfl, fun h => nomatch h⟩⟩

/-- An accepted transaction: its decision names the target and whether there was
a source account, and the token is consumed. -/
theorem joinNetworkTx_accepted {clock : JoinClock} (h : JoinAccepts clock uid input s) :
    ∃ token target decision t, JoinGuards clock uid input s token target ∧
      joinNetworkTx clock uid input s = (.ok decision, t) ∧ decision.accountId = token.accountId ∧
      decision.hadSourceAccount = (s.account uid).isSome ∧
      t.token input.tokenId = some {token with consumedAt := some clock.now} := by
  rcases joinNetworkTx_cases clock uid input s with ⟨hn, _⟩ | ⟨_, token, target, g, hcases⟩
  · exact absurd h hn
  · rcases hcases with ⟨account, doc, ha, _, _, ht⟩ | ⟨account, doc, ha, _, _, ht⟩ | ⟨nd, ha, _, ht⟩
    · exact ⟨token, target, _, _, g, ht, rfl, by simp [ha], by simp [joinTarget]⟩
    · exact ⟨token, target, _, _, g, ht, rfl, by simp [ha], by simp [joinTarget]⟩
    · exact ⟨token, target, _, _, g, ht, rfl, by simp [ha], by simp [joinTarget]⟩

/-- The sweep deletes documents of the source account only. -/
theorem joinSweep_device (r : SweepRun) (uid d : DocId) (decision : JoinDecision) (t : Store) (a d' : DocId) :
    (joinSweep r uid d decision t).2.device a d' = t.device a d' ∨
      (decision.hadSourceAccount = true ∧ a = uid ∧ (joinSweep r uid d decision t).2.device a d' = none) := by
  obtain ⟨accountId, deleted, had⟩ := decision
  cases had with
  | false => exact .inl rfl
  | true =>
    by_cases ha : a = uid
    · subst ha
      cases deleted <;> rcases r with _ | ⟨_ | _, below⟩ <;>
        simp [joinSweep, recursiveDeleteAccount, recursiveDeleteDevice] <;> grind
    · refine .inl ?_
      cases deleted <;> rcases r with _ | ⟨_ | _, below⟩ <;>
        simp [joinSweep, recursiveDeleteAccount, recursiveDeleteDevice, ha]

/-- Where the joining device is after an accepted transaction: in the target, and
wherever it was before but in the caller's account. -/
theorem joinNetworkTx_device {clock : JoinClock} {token : JoinTokenDoc} (h : JoinAccepts clock uid input s)
    (ht : s.token input.tokenId = some token) (a : DocId) :
    ((joinNetworkTx clock uid input s).2.device a input.deviceId).isSome ↔
      a = token.accountId ∨ ((s.device a input.deviceId).isSome ∧ ¬(a = uid ∧ (s.account uid).isSome)) := by
  rcases joinNetworkTx_cases clock uid input s with ⟨hn, _⟩ | ⟨_, token', target, g, hcases⟩
  · exact absurd h hn
  obtain rfl := Option.some.inj (g.found.symm.trans ht)
  by_cases ha : a = token'.accountId
  · rcases hcases with ⟨account, doc, _, _, _, h⟩ | ⟨account, doc, _, _, _, h⟩ | ⟨nd, _, _, h⟩ <;>
      simp [h, joinTarget, ha]
  · rcases hcases with ⟨account, doc, hacc, _, _, h⟩ | ⟨account, doc, hacc, _, _, h⟩ | ⟨nd, hacc, _, h⟩
    · by_cases hu : a = uid <;> simp [h, joinTarget, Store.leave, ha, hu, hacc]
    · by_cases hu : a = uid <;> simp [h, joinTarget, Store.leaveLast, ha, hu, hacc]
    · simp [h, joinTarget, ha, hacc]

/-- Without a commit the call rejects and the store is as it was. -/
theorem joinNetworkLogic_uncommitted (h : ¬ JoinCommits env uid input s) :
    ∃ e, joinNetworkLogic env uid input s = (.error e, s) := by
  by_cases ht : env.transaction = true
  · have hn : ¬ JoinAccepts env.clock uid input s := fun ha => h ⟨ht, ha⟩
    obtain ⟨e, he⟩ := joinNetworkTx_rejects hn
    exact ⟨e, joinNetworkLogic_rejected ht he⟩
  · exact ⟨.aborted, joinNetworkLogic_aborted ht⟩

variable (env uid input s) in
/-- The transaction commits and a step after it fails: the sweep, if there is a
source account to sweep, the device list, or the custom token. -/
def FailsAfterCommit : Prop :=
  JoinCommits env uid input s ∧ ∃ token, s.token input.tokenId = some token ∧
    (((s.account uid).isSome ∧ env.sweep ≠ .completes) ∨ env.deviceList = false ∨
      env.customTokenMinter token.accountId = none)

/-- The response fails with the device list or the custom token. -/
theorem joinResponse_cases (env : JoinEnv) (decision : JoinDecision) (u : Store) :
    (env.deviceList = true ∧ (env.customTokenMinter decision.accountId).isSome ∧
        ∃ result, joinResponse env decision u = .ok result) ∨
      ((env.deviceList = false ∨ env.customTokenMinter decision.accountId = none) ∧
        ∃ e, joinResponse env decision u = .error e) := by
  unfold joinResponse
  cases env.deviceList with
  | false => exact .inr ⟨.inl rfl, _, rfl⟩
  | true =>
    cases env.customTokenMinter decision.accountId with
    | none => exact .inr ⟨.inr rfl, _, rfl⟩
    | some customToken => exact .inl ⟨rfl, rfl, _, rfl⟩

/-- **A committed join** consumes the token, and resolves exactly when no step
after the commit fails. -/
theorem joinNetworkLogic_committed (h : JoinCommits env uid input s) :
    (∃ token, s.token input.tokenId = some token ∧ token.consumedAt = none ∧
        (joinNetworkLogic env uid input s).2.token input.tokenId =
          some {token with consumedAt := some env.clock.now}) ∧
      ((∃ e, (joinNetworkLogic env uid input s).1 = .error e) ↔ FailsAfterCommit env uid input s) := by
  obtain ⟨token, target, decision, t, g, ht, hacc, hsrc, htok⟩ := joinNetworkTx_accepted h.2
  obtain ⟨result, u, hsweep, hu, hresult⟩ := joinSweep_cases env.sweep uid input.deviceId decision t
  have hfails : FailsAfterCommit env uid input s ↔
      (((s.account uid).isSome ∧ env.sweep ≠ .completes) ∨ env.deviceList = false ∨
        env.customTokenMinter decision.accountId = none) := by
    rw [hacc]
    constructor
    · rintro ⟨_, token', ht', hf⟩
      obtain rfl := Option.some.inj (g.found.symm.trans ht')
      exact hf
    · exact fun hf => ⟨h, token, g.found, hf⟩
  rw [hfails, joinNetworkLogic_eq h.1 ht, hsweep]
  rcases hresult with ⟨rfl, hr⟩ | ⟨rfl, hhad, hr⟩
  · refine ⟨⟨token, g.found, g.unconsumed, by simp [hu, htok]⟩, ?_⟩
    rcases joinResponse_cases env decision u with ⟨hl, hm, res, hres⟩ | ⟨hf, e, hres⟩
    · refine iff_of_false ?_ ?_
      · rintro ⟨e, he⟩
        rw [hres] at he
        cases he
      · rintro (⟨hsome, hne⟩ | hf | hf)
        · exact hne (hr (by rw [hsrc, hsome]))
        · rw [hl] at hf
          cases hf
        · rw [hf] at hm
          cases hm
    · exact iff_of_true ⟨e, hres⟩ (.inr hf)
  · refine ⟨⟨token, g.found, g.unconsumed, by simp [hu, htok]⟩, ?_⟩
    exact iff_of_true ⟨_, rfl⟩ (.inl ⟨by rw [← hsrc, hhad], hr⟩)

/-- **Where the joining device is after a committed join**, whatever becomes of
the steps after the commit. -/
theorem joinNetworkLogic_device {token : JoinTokenDoc} (h : JoinCommits env uid input s)
    (htoken : s.token input.tokenId = some token) (a : DocId) :
    ((joinNetworkLogic env uid input s).2.device a input.deviceId).isSome ↔
      a = token.accountId ∨ ((s.device a input.deviceId).isSome ∧ ¬(a = uid ∧ (s.account uid).isSome)) := by
  obtain ⟨token', _, decision, t, g, ht, _, hsrc, _⟩ := joinNetworkTx_accepted h.2
  obtain rfl := Option.some.inj (g.found.symm.trans htoken)
  have hstore : (joinNetworkLogic env uid input s).2 = (joinSweep env.sweep uid input.deviceId decision t).2 := by
    rw [joinNetworkLogic_eq h.1 ht]
  have htx := joinNetworkTx_device h.2 g.found a
  rw [ht] at htx
  rw [hstore, ← htx]
  rcases joinSweep_device env.sweep uid input.deviceId decision t a input.deviceId with hsame | ⟨hhad, rfl, hnone⟩
  · rw [hsame]
  · -- The sweep of the source finds the joining device gone already.
    have hgone : ¬ (t.device a input.deviceId).isSome := by
      rw [htx, ← hsrc]
      simp [hhad, g.notSelf]
    simp [hnone, Option.not_isSome_iff_eq_none.mp hgone]

/-- What a resolved join answers: the token's account and a custom token for it. -/
theorem joinNetworkLogic_ok {result : JoinNetworkResult} (h : (joinNetworkLogic env uid input s).1 = .ok result) :
    JoinCommits env uid input s ∧ ∃ token, s.token input.tokenId = some token ∧
      result.accountId = token.accountId ∧ env.customTokenMinter token.accountId = some result.customToken := by
  by_cases hc : JoinCommits env uid input s
  · refine ⟨hc, ?_⟩
    obtain ⟨token, _, decision, t, g, ht, hacc, _, _⟩ := joinNetworkTx_accepted hc.2
    rw [joinNetworkLogic_eq hc.1 ht] at h
    rcases hsweep : joinSweep env.sweep uid input.deviceId decision t with ⟨_ | _, u⟩
    · rw [hsweep] at h
      cases h
    · rw [hsweep] at h
      simp only [joinResponse, bind, Except.bind] at h
      split at h
      · cases hm : env.customTokenMinter decision.accountId with
        | none =>
          rw [hm] at h
          cases h
        | some customToken =>
          rw [hm] at h
          obtain rfl := Except.ok.inj h
          exact ⟨token, g.found, hacc, by rw [← hacc, hm]⟩
      · cases h
  · obtain ⟨e, he⟩ := joinNetworkLogic_uncommitted hc
    rw [he] at h
    cases h

/-- **A rejected `joinNetwork` has no effect exactly when it did not fail after
its commit.** -/
theorem rejected_unchanged_iff (env : JoinEnv) (uid : DocId) (input : JoinNetworkInput) (s : Store) :
    ((∃ e, (joinNetworkLogic env uid input s).1 = .error e) → (joinNetworkLogic env uid input s).2 = s) ↔
      ¬ FailsAfterCommit env uid input s := by
  by_cases hc : JoinCommits env uid input s
  · obtain ⟨⟨token, htoken, hnone, hafter⟩, hiff⟩ := joinNetworkLogic_committed hc
    rw [hiff]
    constructor
    · intro h hf
      rw [h hf, htoken] at hafter
      have := congrArg JoinTokenDoc.consumedAt (Option.some.inj hafter)
      rw [hnone] at this
      cases this
    · exact fun hn hf => absurd hf hn
  · obtain ⟨e, he⟩ := joinNetworkLogic_uncommitted hc
    refine iff_of_true (fun _ => by rw [he]) ?_
    exact fun hf => hc hf.1

end Outcome

namespace Retry

/-- A group with one device and one code. -/
def offered : Store := (calls.take 3).foldl (fun s c => c.apply s) .empty

/-- A join for which no custom token can be minted. -/
def unminted : JoinEnv := {env 3 with customTokenMinter := fun _ => none}

def join : JoinNetworkInput := ⟨firstCode, joiner, some newDevice⟩

end Retry

/-- When the custom token cannot be minted the call rejects with the device
already in the group. -/
theorem rejected_changes_when_unminted :
    ¬ ∀ (env : JoinEnv) (uid : DocId) (input : JoinNetworkInput) (s : Store),
      (∃ e, (joinNetworkLogic env uid input s).1 = .error e) →
        (joinNetworkLogic env uid input s).2 = s := by
  intro h
  have hs := h Retry.unminted Retry.caller Retry.join Retry.offered ⟨.customToken, rfl⟩
  have hbefore : (Retry.offered.device Retry.group Retry.joiner).isNone := by decide
  have hafter : ((joinNetworkLogic Retry.unminted Retry.caller Retry.join Retry.offered).2.device
      Retry.group Retry.joiner).isSome := by decide
  rw [hs] at hafter
  rw [Option.isNone_iff_eq_none.mp hbefore] at hafter
  cases hafter

end MagicShare.Cloud
