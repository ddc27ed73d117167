import MagicShare.Base.Transition
import MagicShare.Cloud.Scheduled
import MagicShare.Cloud.Tx

/-! Join tokens under any interleaving.

Every step a function takes on the database is one event: a read, a transaction
that commits or rejects, one that is given up and may be tried again, a write
outside a transaction, some progress of a `recursiveDelete`. The store moves by
these events in any order. No order of the clock reads is assumed. A token id
that was redeemed names a consumed token or none, so it is redeemed once
(`single_use`). -/
namespace MagicShare.Cloud

/-- A `createJoinToken` call in flight: which of its two reads found a document. -/
structure Minting where
  uid : DocId
  input : CreateJoinTokenInput
  sawAccount : Bool := false
  sawDevice : Bool := false

/-- A committed `joinNetwork` transaction. -/
structure Redeemed where
  tokenId : DocId
  caller : DocId
  clock : JoinClock

/-- The store, the `createJoinToken` calls in flight, the tokens that the
cleanups in flight are about to delete, and two logs: every token written so far
and every join committed so far. -/
structure Traffic where
  store : Store
  minting : List Minting
  expiring : List (Finset DocId)
  minted : Documents.Collection DocId JoinTokenDoc
  redeemed : List Redeemed

inductive TrafficEvent where
  | transact (tx : Tx)
  /-- Firestore gives an attempt up; a retry is another attempt. -/
  | abort (tx : Tx)
  | beginToken (uid : DocId) (input : CreateJoinTokenInput)
  /-- The two reads of the `i`-th `createJoinToken` in flight. -/
  | readAccount (i : Nat)
  | readDevice (i : Nat)
  /-- Its write, under the id the random source gave. -/
  | writeToken (i : Nat) (now : Timestamp) (tokenId : DocId)
  /-- Progress of a `recursiveDelete` under `accounts/{a}`, of any caller. -/
  | sweep (a : DocId) (root : Bool) (deleted : DocId → Bool)
  | queryTokens (now : Timestamp)
  /-- The batch of the `i`-th cleanup in flight. -/
  | deleteTokens (i : Nat)

namespace Traffic

def start : Traffic := ⟨.empty, [], [], ∅, []⟩

/-- What a committed transaction adds to the log. -/
def redemption : Tx → Except Rejection (Option DocRef) → List Redeemed
  | .joinNetwork clock uid input, .ok _ => [⟨input.tokenId, uid, clock⟩]
  | _, _ => []

def transact (σ : Traffic) (tx : Tx) : Traffic :=
  {σ with
    store := (tx.run σ.store).2
    redeemed := σ.redeemed ++ redemption tx (tx.run σ.store).1}

/-- A `createJoinToken` that saw both documents writes its token and is done. -/
def writeToken (σ : Traffic) (i : Nat) (now : Timestamp) (tokenId : DocId) (m : Minting) : Traffic :=
  let doc := newJoinToken now m.uid m.input
  {σ with
    store := σ.store.putToken tokenId doc
    minting := σ.minting.eraseIdx i
    minted := σ.minted.insert tokenId doc}

def sweepStore (s : Store) (a : DocId) (root : Bool) (deleted : DocId → Bool) : Store :=
  (recursiveDeleteAccount (.fails root deleted) a s).2

end Traffic

open Traffic in
/-- The database under traffic, from the empty store. A token id is never given
out twice. -/
def traffic : Transition.System Traffic TrafficEvent where
  init := start
  step σ
    | .transact tx => some (σ.transact tx)
    | .abort _ => some σ
    | .beginToken uid input => some {σ with minting := σ.minting ++ [⟨uid, input, false, false⟩]}
    | .readAccount i => σ.minting[i]?.map fun m =>
      -- A missing account ends the call.
      if (σ.store.account m.uid).isSome then {σ with minting := σ.minting.set i {m with sawAccount := true}}
      else {σ with minting := σ.minting.eraseIdx i}
    | .readDevice i => σ.minting[i]?.map fun m =>
      if (σ.store.device m.uid m.input.issuingDeviceId).isSome then
        {σ with minting := σ.minting.set i {m with sawDevice := true}}
      else {σ with minting := σ.minting.eraseIdx i}
    | .writeToken i now tokenId => σ.minting[i]?.bind fun m =>
      if m.sawAccount && m.sawDevice && (σ.minted.lookup tokenId).isNone then
        some (σ.writeToken i now tokenId m)
      else none
    | .sweep a root deleted => some {σ with store := sweepStore σ.store a root deleted}
    | .queryTokens now => some {σ with expiring := σ.expiring ++ [expiredJoinTokens now σ.store]}
    | .deleteTokens i => σ.expiring[i]?.map fun tokens =>
      {σ with store := deleteJoinTokens tokens σ.store, expiring := σ.expiring.eraseIdx i}

/-! ### What an event does to the tokens -/

/-- Only a committed join writes a token. -/
theorem TxEffect.token {s t : Store} {tx : Tx} {r : Except Rejection (Option DocRef)}
    (h : TxEffect s tx r t) :
    ((∀ k, t.token k = s.token k) ∧ Traffic.redemption tx r = []) ∨
      ∃ clock uid input token target, tx = .joinNetwork clock uid input ∧
        JoinGuards clock uid input s token target ∧
        Traffic.redemption tx r = [⟨input.tokenId, uid, clock⟩] ∧
        ∀ k, t.token k =
          if k = input.tokenId then some {token with consumedAt := some clock.now} else s.token k := by
  cases h with
  | rejected => exact .inl ⟨fun _ => rfl, by cases tx <;> rfl⟩
  | existing _ => exact .inl ⟨fun _ => rfl, rfl⟩
  | created _ => exact .inl ⟨fun _ => rfl, rfl⟩
  | added _ _ => exact .inl ⟨fun _ => rfl, rfl⟩
  | @rewritten tx _ _ _ _ _ htx _ _ =>
    refine .inl ⟨fun _ => rfl, ?_⟩
    cases tx <;> first | rfl | cases htx
  | left _ _ _ => exact .inl ⟨fun _ => by simp [Store.leave], rfl⟩
  | leftLast _ _ _ => exact .inl ⟨fun _ => by simp [Store.leaveLast], rfl⟩
  | joined g hl =>
    refine .inr ⟨_, _, _, _, _, rfl, g, rfl, fun k => ?_⟩
    cases hl <;> simp [joinTarget, Store.leave, Store.leaveLast]

theorem token_sweepStore (s : Store) (a : DocId) (root : Bool) (deleted : DocId → Bool) (k : DocId) :
    (Traffic.sweepStore s a root deleted).token k = s.token k := by
  cases root <;> simp [Traffic.sweepStore, recursiveDeleteAccount]

/-! ### The invariant -/

/-- The logs against the store. -/
structure Traffic.Consistent (σ : Traffic) : Prop where
  /-- A token there was written by a `createJoinToken`; its account and its
  expiry never change. -/
  written : ∀ {k doc}, σ.store.token k = some doc → ∃ doc₀, σ.minted.lookup k = some doc₀ ∧
    doc.accountId = doc₀.accountId ∧ doc.expiresAt = doc₀.expiresAt
  checked : ∀ {r}, r ∈ σ.redeemed → ∃ doc₀, σ.minted.lookup r.tokenId = some doc₀ ∧
    r.clock.dateNow < doc₀.expiresAt ∧ r.caller ≠ doc₀.accountId
  /-- A redeemed token is consumed, or deleted. -/
  spent : ∀ {r doc}, r ∈ σ.redeemed → σ.store.token r.tokenId = some doc → doc.consumedAt.isSome
  once : (σ.redeemed.map Redeemed.tokenId).Nodup

namespace Traffic.Consistent
variable {σ : Traffic}

theorem start : Traffic.start.Consistent where
  written h := by simp [Traffic.start] at h
  checked h := by simp [Traffic.start] at h
  spent h := by simp [Traffic.start] at h
  once := List.nodup_nil

/-- An event that at most deletes tokens. -/
theorem quiet (h : σ.Consistent) {τ : Traffic} (hm : τ.minted = σ.minted) (hr : τ.redeemed = σ.redeemed)
    (ht : ∀ {k doc}, τ.store.token k = some doc → σ.store.token k = some doc) : τ.Consistent where
  written hk := by
    rw [hm]
    exact h.written (ht hk)
  checked hk := by
    rw [hr] at hk
    rw [hm]
    exact h.checked hk
  spent hk hdoc := by
    rw [hr] at hk
    exact h.spent hk (ht hdoc)
  once := by
    rw [hr]
    exact h.once

/-- A join redeems a token that nobody has redeemed. -/
theorem redeem (h : σ.Consistent) {clock : JoinClock} {uid : DocId} {input : JoinNetworkInput}
    {token : JoinTokenDoc} {target : AccountDoc} (g : JoinGuards clock uid input σ.store token target)
    {t : Store} (ht : ∀ k, t.token k =
      if k = input.tokenId then some {token with consumedAt := some clock.now} else σ.store.token k) :
    Consistent {σ with store := t, redeemed := σ.redeemed ++ [⟨input.tokenId, uid, clock⟩]} := by
  obtain ⟨doc₀, hdoc₀, hacc, hexp⟩ := h.written g.found
  have hfresh : ∀ r ∈ σ.redeemed, r.tokenId ≠ input.tokenId := by
    intro r hr heq
    have hspent := h.spent hr (heq ▸ g.found)
    rw [g.unconsumed] at hspent
    cases hspent
  constructor
  · intro k doc hk
    rw [ht] at hk
    split at hk
    · next heq =>
      obtain rfl := Option.some.inj hk
      exact ⟨doc₀, heq ▸ hdoc₀, hacc, hexp⟩
    · exact h.written hk
  · intro r hr
    rcases List.mem_append.mp hr with hr | hr
    · exact h.checked hr
    · obtain rfl := List.mem_singleton.mp hr
      exact ⟨doc₀, hdoc₀, hexp ▸ g.unexpired, hacc ▸ g.notSelf⟩
  · intro r doc hr hdoc
    rw [ht] at hdoc
    split at hdoc
    · obtain rfl := Option.some.inj hdoc
      rfl
    · next hne =>
      rcases List.mem_append.mp hr with hr | hr
      · exact h.spent hr hdoc
      · obtain rfl := List.mem_singleton.mp hr
        exact absurd rfl hne
  · show (List.map Redeemed.tokenId (σ.redeemed ++ _)).Nodup
    rw [List.map_append, List.nodup_append]
    refine ⟨h.once, List.nodup_singleton _, ?_⟩
    intro k hk k' hk' heq
    obtain ⟨r, hr, rfl⟩ := List.mem_map.mp hk
    exact hfresh r hr (heq.trans (List.mem_singleton.mp hk'))

/-- A new token has an id that nobody has redeemed. -/
theorem mint (h : σ.Consistent) (i : Nat) (now : Timestamp) {tokenId : DocId}
    (hnew : σ.minted.lookup tokenId = none) (m : Minting) : (σ.writeToken i now tokenId m).Consistent where
  written {k doc} hk := by
    change (σ.store.putToken tokenId _).token k = some doc at hk
    show ∃ doc₀, (σ.minted.insert tokenId _).lookup k = some doc₀ ∧ _
    rw [Documents.Collection.lookup_insert_eq]
    rw [Store.token_putToken] at hk
    split at hk
    · next heq =>
      rw [if_pos heq]
      exact ⟨_, hk, rfl, rfl⟩
    · next hne =>
      rw [if_neg hne]
      exact h.written hk
  checked {r} hr := by
    obtain ⟨doc₀, hdoc₀, hgood⟩ := h.checked hr
    refine ⟨doc₀, ?_, hgood⟩
    show (σ.minted.insert tokenId _).lookup _ = _
    rw [Documents.Collection.lookup_insert_eq, if_neg, hdoc₀]
    intro heq
    rw [heq, hnew] at hdoc₀
    cases hdoc₀
  spent {r doc} hr hdoc := by
    change (σ.store.putToken tokenId _).token _ = some doc at hdoc
    rw [Store.token_putToken] at hdoc
    split at hdoc
    · next heq =>
      obtain ⟨doc₀, hdoc₀, _⟩ := h.checked hr
      rw [heq, hnew] at hdoc₀
      cases hdoc₀
    · exact h.spent hr hdoc
  once := h.once

theorem transact (h : σ.Consistent) (tx : Tx) : (σ.transact tx).Consistent := by
  rcases (TxEffect.of_run σ.store tx).token with
    ⟨htoken, hr⟩ | ⟨clock, uid, input, token, target, rfl, g, hr, htoken⟩
  · refine h.quiet rfl ?_ fun {k doc} hk => ?_
    · rw [Traffic.transact, hr, List.append_nil]
    · rwa [← htoken]
  · rw [Traffic.transact, hr]
    exact h.redeem g htoken

/-- **Every event keeps the logs consistent with the store.** -/
theorem step {τ : Traffic} {e : TrafficEvent} (h : σ.Consistent) (hst : traffic.step σ e = some τ) :
    τ.Consistent := by
  cases e with
  | transact tx =>
    obtain rfl := Option.some.inj hst
    exact h.transact tx
  | abort tx =>
    obtain rfl := Option.some.inj hst
    exact h
  | beginToken uid input =>
    obtain rfl := Option.some.inj hst
    exact h.quiet rfl rfl id
  | readAccount i =>
    obtain ⟨m, _, rfl⟩ := Option.map_eq_some_iff.mp hst
    split <;> exact h.quiet rfl rfl id
  | readDevice i =>
    obtain ⟨m, _, rfl⟩ := Option.map_eq_some_iff.mp hst
    split <;> exact h.quiet rfl rfl id
  | writeToken i now tokenId =>
    obtain ⟨m, _, hw⟩ := Option.bind_eq_some_iff.mp hst
    split at hw
    · next hcond =>
      obtain rfl := Option.some.inj hw
      simp only [Bool.and_eq_true, Option.isNone_iff_eq_none] at hcond
      exact h.mint i now hcond.2 m
    · cases hw
  | sweep a root deleted =>
    obtain rfl := Option.some.inj hst
    exact h.quiet rfl rfl fun {k doc} hk => by rwa [← token_sweepStore σ.store a root deleted]
  | queryTokens now =>
    obtain rfl := Option.some.inj hst
    exact h.quiet rfl rfl id
  | deleteTokens i =>
    obtain ⟨tokens, _, rfl⟩ := Option.map_eq_some_iff.mp hst
    refine h.quiet rfl rfl fun {k doc} hk => ?_
    simp only [deleteJoinTokens, Store.token_dropTokens] at hk
    split at hk
    · cases hk
    · exact hk

end Traffic.Consistent

/-- A join whose body throws leaves every document as it was. -/
theorem thrown_unchanged {clock : JoinClock} {uid : DocId} {input : JoinNetworkInput} {e : Rejection}
    {σ : Traffic} (h : joinNetworkBody clock uid input σ.store = .error e) :
    traffic.step σ (.transact (.joinNetwork clock uid input)) = some σ := by
  have hrun : (Tx.joinNetwork clock uid input).run σ.store = (.error e, σ.store) := by
    simp only [Tx.run, joinNetworkTx, runTransaction, Transaction.run_rejected h]
    rfl
  show some (σ.transact (.joinNetwork clock uid input)) = some σ
  rw [Traffic.transact, hrun]
  simp [Traffic.redemption]

/-- **Join tokens are single use.** Under any interleaving a token id has at most
one committed join, which happened before the token's expiry and for another
account's caller; and a join whose body throws leaves every document as it was. -/
theorem single_use {σ : Traffic} (h : traffic.Reachable σ) :
    (∀ tokenId, (σ.redeemed.map Redeemed.tokenId).count tokenId ≤ 1) ∧
      (∀ r ∈ σ.redeemed, ∃ token, σ.minted.lookup r.tokenId = some token ∧
        r.clock.dateNow < token.expiresAt ∧ r.caller ≠ token.accountId) ∧
      ∀ clock uid input e, joinNetworkBody clock uid input σ.store = .error e →
        traffic.step σ (.transact (.joinNetwork clock uid input)) = some σ := by
  have hc : σ.Consistent := h.invariant .start fun _ _ _ hs hst => hs.step hst
  exact ⟨List.nodup_iff_count_le_one.mp hc.once, fun r hr => hc.checked hr,
    fun _ _ _ _ => thrown_unchanged⟩

namespace Race

def group : DocId := ⟨"home", by decide, by decide⟩
def issuer : DocId := ⟨"desktop", by decide, by decide⟩
def code : DocId := ⟨"one-code", by decide, by decide⟩
def first : DocId := ⟨"first", by decide, by decide⟩
def second : DocId := ⟨"second", by decide, by decide⟩

def join (now : Timestamp) (uid : DocId) : Tx :=
  .joinNetwork ⟨now, now⟩ uid ⟨code, uid, some ⟨"Phone", .phone, none, .android⟩⟩

/-- Two callers race for one code; a cleanup follows. -/
def events : List TrafficEvent :=
  [.transact (.createAccount 0 group),
    .transact (.registerDevice 1 group ⟨issuer, "Laptop", .laptop, none, .linux, none⟩),
    .beginToken group ⟨issuer⟩, .readDevice 0, .readAccount 0, .writeToken 0 2 code,
    .abort (join 3 first), .transact (join 4 second), .transact (join 5 first),
    .queryTokens 400000, .deleteTokens 0]

theorem redeemed_events : (traffic.run traffic.init events).map
    (fun σ => (σ.redeemed.map Redeemed.caller, (σ.minted.lookup code).map JoinTokenDoc.expiresAt)) =
      some ([second], some 300002) := by decide +kernel

end Race

/-- After a race for one code it has been redeemed once. -/
theorem single_use_race : ∃ σ, traffic.run traffic.init Race.events = some σ ∧
    σ.redeemed.map Redeemed.caller = [Race.second] ∧
    (σ.redeemed.map Redeemed.tokenId).count Race.code ≤ 1 := by
  obtain ⟨σ, hσ, hlog⟩ := Option.map_eq_some_iff.mp Race.redeemed_events
  exact ⟨σ, hσ, (Prod.mk.inj hlog).1, (single_use ⟨Race.events, hσ⟩).1 Race.code⟩

end MagicShare.Cloud
