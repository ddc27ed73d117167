import MagicShare.Cloud.Isolation
import MagicShare.Cloud.JoinOutcome

/-! Who gets at an account.

The transcript of a run holds its events with their answers. A client is admitted to an
account if it founded it, by signing in anonymously, or if it redeemed a join token that
a client admitted before had been issued. Every client that is signed in to an account is
admitted to it, by a chain that starts at the one founder (`access_descends`), and what
changes an account or its devices is a request of such a client, the redemption of a token
such a client was issued, or the job for inactive accounts (`changes_are_entitled`). -/
namespace MagicShare.Cloud

variable {ι : Type}

/-! ### Admission -/

/-- An event, and what it told its client. -/
abbrev Entry (ι : Type) := BackendEvent ι × Option Answer

/-- The entry founds the account. -/
def Founds (c : ι) (a : DocId) (entry : Entry ι) : Prop := ∃ answer, entry = (.signInAnonymously c a, answer)

/-- The client is issued the join token for its account. -/
def Issues (c : ι) (tokenId a : DocId) (entry : Entry ι) : Prop :=
  ∃ r now input result, entry =
    (.request c (.call r (.createJoinToken now tokenId a input)), some (.createJoinToken (.ok result)))

/-- The client redeems the join token and is let into the account. -/
def Redeems (c : ι) (tokenId a : DocId) (entry : Entry ι) : Prop :=
  ∃ r env uid input result, input.tokenId = tokenId ∧ result.accountId = a ∧
    entry = (.request c (.call r (.joinNetwork env uid input)), some (.joinNetwork (.ok result)))

/-- By the end of the transcript the client has been let into the account, by the founder
or on the word of a client that had been let in before. -/
inductive Admitted : List (Entry ι) → ι → ι → DocId → Prop
  | founder {T : List (Entry ι)} {c : ι} {a : DocId} {entry : Entry ι} (hentry : entry ∈ T) (h : Founds c a entry) :
      Admitted T c c a
  | invited {T₁ T₂ T₃ : List (Entry ι)} {founder issuer c : ι} {tokenId a : DocId} {issue redeem : Entry ι}
      (hissuer : Admitted T₁ founder issuer a) (hissue : Issues issuer tokenId a issue)
      (hredeem : Redeems c tokenId a redeem) : Admitted (T₁ ++ issue :: (T₂ ++ redeem :: T₃)) founder c a

/-- The token was issued to a client that had been admitted before. -/
def Vouched (T : List (Entry ι)) (founder : ι) (tokenId a : DocId) : Prop :=
  ∃ T₁ T₂ issuer issue, T = T₁ ++ issue :: T₂ ∧ Admitted T₁ founder issuer a ∧ Issues issuer tokenId a issue

variable {T : List (Entry ι)} {founder c : ι} {tokenId a : DocId} {entry : Entry ι}

/-- Admission is for good. -/
theorem Admitted.later (h : Admitted T founder c a) (U : List (Entry ι)) : Admitted (T ++ U) founder c a := by
  cases h with
  | founder hentry h => exact .founder (List.mem_append_left U hentry) h
  | invited hissuer hissue hredeem =>
    rw [List.append_assoc, List.cons_append, List.append_assoc, List.cons_append]
    exact .invited hissuer hissue hredeem

theorem Vouched.later (h : Vouched T founder tokenId a) (U : List (Entry ι)) : Vouched (T ++ U) founder tokenId a := by
  obtain ⟨T₁, T₂, issuer, issue, rfl, hissuer, hissue⟩ := h
  exact ⟨T₁, T₂ ++ U, issuer, issue, by simp, hissuer, hissue⟩

/-- A vouched token lets in whoever redeems it. -/
theorem Vouched.admits (h : Vouched T founder tokenId a) (hredeem : Redeems c tokenId a entry) :
    Admitted (T ++ [entry]) founder c a := by
  obtain ⟨T₁, T₂, issuer, issue, rfl, hissuer, hissue⟩ := h
  rw [List.append_assoc, List.cons_append]
  exact .invited hissuer hissue hredeem

theorem Admitted.vouches (h : Admitted T founder c a) (hissue : Issues c tokenId a entry) :
    Vouched (T ++ [entry]) founder tokenId a := ⟨T, [], c, entry, rfl, h, hissue⟩

/-- Every chain starts at a founder. -/
theorem Admitted.founded (h : Admitted T founder c a) : ∃ entry ∈ T, Founds founder a entry := by
  induction h with
  | founder hentry h => exact ⟨_, hentry, h⟩
  | invited hissuer hissue hredeem ih =>
    obtain ⟨entry, hentry, h⟩ := ih
    exact ⟨entry, List.mem_append_left _ hentry, h⟩

/-! ### Tokens -/

section Tokens
variable {s t : Store}

theorem tokensOf_commit {writes : List Write} (h : Transaction.commit Write.apply writes s = some t) : s.TokensOf t := by
  induction writes generalizing s with
  | nil =>
    obtain rfl := Option.some.inj h
    exact .refl s
  | cons w rest ih =>
    obtain ⟨m, hm, hrest⟩ := Option.bind_eq_some_iff.mp h
    exact (Write.tokensOf hm).trans (ih hrest)

theorem tokensOf_runTransaction {α : Type} (body : Store → Staged α) (s : Store) :
    s.TokensOf (runTransaction body s).2 := by
  rcases runTransaction_cases body s with ⟨e, h⟩ | ⟨result, writes, t, -, hcommit, h⟩
  · rw [h]
    exact .refl s
  · rw [h]
    exact tokensOf_commit hcommit

theorem tokensOf_recursiveDeleteAccount (r : SweepRun) (a : DocId) (s : Store) :
    s.TokensOf (recursiveDeleteAccount r a s).2 := by
  cases r with
  | completes => exact .refl s
  | fails root deleted => cases root <;> exact .refl s

theorem tokensOf_recursiveDeleteDevice (r : SweepRun) (a d : DocId) (s : Store) :
    s.TokensOf (recursiveDeleteDevice r a d s).2 := by
  cases r with
  | completes => exact .refl s
  | fails root deleted => cases root <;> exact .refl s

theorem tokensOf_onResult {α β : Type} {next : α → Store → Except Rejection β × Store}
    (hnext : ∀ a, s.TokensOf (next a s).2) (result : Except Rejection α) : s.TokensOf (onResult next result s).2 := by
  cases result with
  | error e => exact .refl s
  | ok a => exact hnext a

theorem tokensOf_removeDeviceLogic (now : Timestamp) (r : SweepRun) (uid : DocId) (input : RemoveDeviceInput)
    (s : Store) : s.TokensOf (removeDeviceLogic now r uid input s).2 := by
  rw [removeDeviceLogic_eq]
  refine (tokensOf_runTransaction _ s).trans (tokensOf_onResult (fun result => ?_) _)
  refine Store.TokensOf.trans ?_ (tokensOf_onResult (fun _ => .refl _) _)
  split
  · exact tokensOf_recursiveDeleteAccount r uid _
  · exact tokensOf_recursiveDeleteDevice r uid input.deviceId _

theorem tokensOf_joinNetworkLogic (env : JoinEnv) (uid : DocId) (input : JoinNetworkInput) (s : Store) :
    s.TokensOf (joinNetworkLogic env uid input s).2 := by
  rw [joinNetworkLogic_onResult]
  dsimp only
  split_ifs
  · refine (tokensOf_runTransaction _ s).trans (tokensOf_onResult (fun decision => ?_) _)
    refine Store.TokensOf.trans ?_ (tokensOf_onResult (fun _ => .refl _) _)
    unfold joinSweep
    split_ifs
    · exact tokensOf_recursiveDeleteAccount _ _ _
    · exact tokensOf_recursiveDeleteDevice _ _ _ _
    · exact .refl _
  · exact .refl s

theorem tokensOf_deleteAccountLogic (r : SweepRun) (uid : DocId) (s : Store) :
    s.TokensOf (deleteAccountLogic r uid s).2 := by
  rcases deleteAccountLogic_cases r uid s with ⟨-, h⟩ | ⟨-, h⟩
  · rw [h]
    exact .refl s
  · rw [h]
    exact tokensOf_recursiveDeleteAccount r uid s

/-- Only `createJoinToken` makes a token, for its caller. -/
theorem Call.token_perform (r : SweepRun) (call : Call) (s : Store) : s.TokensOf (call.perform r s).2 ∨
    ∃ now tokenId uid input result, call = .createJoinToken now tokenId uid input ∧
      call.perform r s = (.createJoinToken (.ok result), s.putToken tokenId (newJoinToken now uid input)) := by
  cases call with
  | createAccount now uid => exact .inl (tokensOf_runTransaction _ s)
  | registerDevice now uid input => exact .inl (tokensOf_runTransaction _ s)
  | renameDevice now uid input => exact .inl (tokensOf_runTransaction _ s)
  | setDeviceIcon now uid input => exact .inl (tokensOf_runTransaction _ s)
  | removeDevice now uid input => exact .inl (tokensOf_removeDeviceLogic now r uid input s)
  | createJoinToken now tokenId uid input =>
    rcases createJoinTokenLogic_cases now tokenId uid input s with ⟨e, h⟩ | ⟨-, -, h⟩
    · refine .inl ?_
      simp only [Call.perform, h]
      exact .refl s
    · refine .inr ⟨now, tokenId, uid, input, ⟨tokenId, now + tokenLifetimeMs⟩, rfl, ?_⟩
      simp only [Call.perform, h]
      rfl
  | joinNetwork env uid input => exact .inl (tokensOf_joinNetworkLogic env uid input s)
  | notifyTransferIntent now messaging uid input =>
    refine .inl ?_
    simp only [Call.perform, Prod.map_snd, notifyTransferIntentLogic_store]
    exact tokensOf_runTransaction _ s
  | deleteAccount uid => exact .inl (tokensOf_deleteAccountLogic r uid s)

/-- The custom token of an answer is for the account of the token that was redeemed. -/
theorem Call.minted_perform {r : SweepRun} {call : Call} {minted : String × DocId}
    (h : minted ∈ Backend.mintedBy (call.perform r s).1) :
    ∃ env uid input result token, call = .joinNetwork env uid input ∧
      (call.perform r s).1 = .joinNetwork (.ok result) ∧ result.accountId = minted.2 ∧
      s.token input.tokenId = some token ∧ token.accountId = minted.2 := by
  cases call with
  | joinNetwork env uid input =>
    cases hresult : (joinNetworkLogic env uid input s).1 with
    | error e => simp [Call.perform, Prod.map_fst, hresult, Backend.mintedBy] at h
    | ok result =>
      obtain ⟨-, token, htoken, hacc, -⟩ := joinNetworkLogic_ok hresult
      simp only [Call.perform, Prod.map_fst, hresult, Backend.mintedBy, List.mem_singleton] at h
      subst h
      refine ⟨env, uid, input, result, token, rfl, ?_, rfl, htoken, hacc.symm⟩
      simp only [Call.perform, Prod.map_fst, hresult]
  | _ => cases h

end Tokens

/-! ### Along a run -/

section Run
variable [DecidableEq ι] {σ τ : Backend ι} {e : BackendEvent ι} {events : List (BackendEvent ι)} {a : DocId}

/-- The events of a run with their answers. -/
def transcript (events : List (BackendEvent ι)) : List (Entry ι) :=
  (backend ι).log (fun s e => [(e, s.answer e)]) (backend ι).init events

/-- What the clients hold, and the tokens in the store, all descend from the founders. -/
structure Descends (T : List (Entry ι)) (s : Backend ι) : Prop where
  session : ∀ c a, s.session c = some a → ∃ founder, Admitted T founder c a
  customTokens : ∀ c, ∀ minted ∈ s.customTokens c, ∃ founder, Admitted T founder c minted.2
  token : ∀ k doc, s.store.token k = some doc → ∃ founder, Vouched T founder k doc.accountId
  founded : ∀ c a, ∀ entry ∈ T, Founds c a entry → a ∈ s.uids
  /-- An account has one founder. -/
  founder : ∀ c c' a, ∀ entry ∈ T, ∀ entry' ∈ T, Founds c a entry → Founds c' a entry' → c = c'

namespace Descends

omit [DecidableEq ι] in
/-- An event that is no sign-in founds nothing. -/
theorem founded_later (h : Descends T σ) (entry : Entry ι) (hentry : ∀ c a, ¬ Founds c a entry) :
    (∀ c a, ∀ e ∈ T ++ [entry], Founds c a e → a ∈ σ.uids) ∧
      ∀ c c' a, ∀ e ∈ T ++ [entry], ∀ e' ∈ T ++ [entry], Founds c a e → Founds c' a e' → c = c' := by
  have hold : ∀ c a, ∀ e ∈ T ++ [entry], Founds c a e → e ∈ T := by
    intro c a e he hf
    rcases List.mem_append.mp he with he | he
    · exact he
    · obtain rfl := List.mem_singleton.mp he
      exact absurd hf (hentry c a)
  refine ⟨fun c a e he hf => h.founded c a e (hold c a e he hf) hf, fun c c' a e he e' he' hf hf' => ?_⟩
  exact h.founder c c' a e (hold c a e he hf) e' (hold c' a e' he' hf') hf hf'

omit [DecidableEq ι] in
/-- The store is unchanged, or has lost tokens. -/
theorem token_later (h : Descends T σ) {t : Store} (ht : σ.store.TokensOf t) (U : List (Entry ι)) :
    ∀ k doc, t.token k = some doc → ∃ founder, Vouched (T ++ U) founder k doc.accountId := by
  intro k doc hdoc
  obtain ⟨old, hold, heq⟩ := ht k doc hdoc
  obtain ⟨founder, hv⟩ := h.token k old hold
  exact ⟨founder, heq ▸ hv.later U⟩

omit [DecidableEq ι] in
theorem session_later (h : Descends T σ) (U : List (Entry ι)) :
    ∀ c a, σ.session c = some a → ∃ founder, Admitted (T ++ U) founder c a := by
  intro c a hs
  obtain ⟨founder, ha⟩ := h.session c a hs
  exact ⟨founder, ha.later U⟩

omit [DecidableEq ι] in
theorem customTokens_later (h : Descends T σ) (U : List (Entry ι)) :
    ∀ c, ∀ minted ∈ σ.customTokens c, ∃ founder, Admitted (T ++ U) founder c minted.2 := by
  intro c minted hm
  obtain ⟨founder, ha⟩ := h.customTokens c minted hm
  exact ⟨founder, ha.later U⟩

/-- A client signs in as whom it is admitted to, or out. -/
theorem session_update {U : List (Entry ι)} (h : ∀ c a, σ.session c = some a → ∃ founder, Admitted U founder c a) {c : ι}
    {found : Option DocId} (hfound : ∀ a, found = some a → ∃ founder, Admitted U founder c a) :
    ∀ c' a, Function.update σ.session c found c' = some a → ∃ founder, Admitted U founder c' a := by
  intro c' a hs
  by_cases hc : c' = c
  · subst hc
    rw [Function.update_self] at hs
    exact hfound a hs
  · rw [Function.update_of_ne hc] at hs
    exact h c' a hs

omit [DecidableEq ι] in
/-- A request issues tokens to those who are admitted, and admits those who redeem one. -/
theorem request (h : Descends T σ) {c : ι} {r : Request} (hfor : σ.callsFor c r) :
    (∀ k doc, (σ.respond c r).2.token k = some doc →
        ∃ founder, Vouched (T ++ [(.request c r, some (σ.respond c r).1)]) founder k doc.accountId) ∧
      ∀ minted ∈ Backend.mintedBy (σ.respond c r).1,
        ∃ founder, Admitted (T ++ [(.request c r, some (σ.respond c r).1)]) founder c minted.2 := by
  have hkept : (σ.respond c r).2 = σ.store → ∀ k doc, (σ.respond c r).2.token k = some doc →
      ∃ founder, Vouched (T ++ [(.request c r, some (σ.respond c r).1)]) founder k doc.accountId := fun heq => by
    rw [heq]
    exact h.token_later (.refl _) _
  cases r with
  | call sweep call =>
    cases hs : σ.session c with
    | none =>
      have hresponse : σ.respond c (.call sweep call) = (.unauthenticated, σ.store) := by simp only [Backend.respond, hs]
      refine ⟨hkept (by rw [hresponse]), fun minted hm => ?_⟩
      rw [hresponse] at hm
      cases hm
    | some uid =>
      have hresponse : σ.respond c (.call sweep call) = call.perform sweep σ.store := by simp only [Backend.respond, hs]
      rw [hresponse]
      constructor
      · rcases Call.token_perform sweep call σ.store with hold | ⟨now, tokenId, uid', input, result, rfl, hperform⟩
        · exact h.token_later hold _
        · obtain rfl : uid' = uid := hfor uid hs
          rw [hperform]
          intro k doc hdoc
          by_cases hk : k = tokenId
          · subst hk
            rw [Store.token_putToken, if_pos rfl] at hdoc
            obtain rfl := Option.some.inj hdoc
            obtain ⟨founder, ha⟩ := h.session c uid' hs
            exact ⟨founder, ha.vouches ⟨sweep, now, input, result, rfl⟩⟩
          · rw [Store.token_putToken, if_neg hk] at hdoc
            exact h.token_later (.refl _) _ k doc hdoc
      · intro minted hm
        obtain ⟨env, uid', input, result, token, rfl, hanswer, hacc, htoken, haccount⟩ := Call.minted_perform hm
        obtain ⟨founder, hv⟩ := h.token _ token htoken
        rw [haccount] at hv
        exact ⟨founder, hv.admits ⟨sweep, env, uid', input, result, rfl, hacc, by rw [hanswer]⟩⟩
  | previewJoinToken dateNow localeLe tokenId =>
    have hstore : (σ.respond c (.previewJoinToken dateNow localeLe tokenId)).2 = σ.store := by
      simp only [Backend.respond]
      split <;> rfl
    refine ⟨hkept hstore, fun minted hm => ?_⟩
    simp only [Backend.respond] at hm
    split at hm <;> cases hm
  | read path =>
    have hstore : (σ.respond c (.read path)).2 = σ.store := by
      simp only [Backend.respond]
      split <;> rfl
    refine ⟨hkept hstore, fun minted hm => ?_⟩
    simp only [Backend.respond] at hm
    split at hm
    · cases path <;> cases hm
    · cases hm
  | write w =>
    refine ⟨hkept (by rw [Backend.respond_write]), fun minted hm => ?_⟩
    rw [Backend.respond_write] at hm
    cases hm

/-- **One step.** -/
theorem step (h : Descends T σ) (hst : σ.step e = some τ) : Descends (T ++ [(e, σ.answer e)]) τ := by
  cases e with
  | signInAnonymously c uid =>
    simp only [Backend.step] at hst
    split_ifs at hst with hfree
    obtain rfl := Option.some.inj hst
    have hfounds : ∀ c' a, Founds c' a (BackendEvent.signInAnonymously c uid, σ.answer (.signInAnonymously c uid)) →
        c' = c ∧ a = uid := by
      rintro c' a ⟨answer, heq⟩
      cases heq
      exact ⟨rfl, rfl⟩
    refine ⟨session_update (h.session_later _) fun a ha => ?_, h.customTokens_later _, h.token_later (.refl _) _, ?_, ?_⟩
    · obtain rfl := Option.some.inj ha
      exact ⟨c, .founder (List.mem_append_right T (List.mem_singleton_self _)) ⟨_, rfl⟩⟩
    · intro c' a entry hentry hf
      rcases List.mem_append.mp hentry with hentry | hentry
      · exact List.mem_cons_of_mem _ (h.founded c' a entry hentry hf)
      · obtain rfl := List.mem_singleton.mp hentry
        obtain ⟨-, rfl⟩ := hfounds c' a hf
        exact List.mem_cons_self
    · -- The user is new, so nobody has founded its account before.
      intro c₁ c₂ a entry hentry entry' hentry' hf hf'
      rcases List.mem_append.mp hentry with hold | hnew <;> rcases List.mem_append.mp hentry' with hold' | hnew'
      · exact h.founder c₁ c₂ a entry hold entry' hold' hf hf'
      · obtain rfl := List.mem_singleton.mp hnew'
        obtain ⟨-, rfl⟩ := hfounds c₂ a hf'
        exact absurd (h.founded c₁ _ entry hold hf) hfree.2
      · obtain rfl := List.mem_singleton.mp hnew
        obtain ⟨-, rfl⟩ := hfounds c₁ a hf
        exact absurd (h.founded c₂ _ entry' hold' hf') hfree.2
      · obtain rfl := List.mem_singleton.mp hnew
        obtain rfl := List.mem_singleton.mp hnew'
        rw [(hfounds c₁ a hf).1, (hfounds c₂ a hf').1]
  | signInWithCustomToken c customToken =>
    obtain ⟨hfounded, hfounder⟩ :=
      h.founded_later (.signInWithCustomToken c customToken, none) (by rintro _ _ ⟨_, heq⟩; cases heq)
    simp only [Backend.step] at hst
    split at hst
    · obtain rfl := Option.some.inj hst
      exact ⟨h.session_later _, h.customTokens_later _, h.token_later (.refl _) _, hfounded, hfounder⟩
    · next uid hlookup =>
      obtain rfl := Option.some.inj hst
      refine ⟨session_update (h.session_later _) fun a ha => ?_, h.customTokens_later _, h.token_later (.refl _) _,
        hfounded, hfounder⟩
      obtain rfl := Option.some.inj ha
      obtain ⟨before, after, heq, -⟩ := List.lookup_eq_some_iff.mp hlookup
      have hmem : (customToken, uid) ∈ σ.customTokens c := by
        rw [heq]
        exact List.mem_append_right before List.mem_cons_self
      exact h.customTokens_later _ c (customToken, uid) hmem
  | signOut c =>
    obtain ⟨hfounded, hfounder⟩ := h.founded_later (.signOut c, none) (by rintro _ _ ⟨_, heq⟩; cases heq)
    obtain rfl := Option.some.inj hst
    refine ⟨session_update (h.session_later _) fun a ha => ?_, h.customTokens_later _, h.token_later (.refl _) _,
      hfounded, hfounder⟩
    cases ha
  | request c r =>
    obtain ⟨hfounded, hfounder⟩ :=
      h.founded_later (.request c r, some (σ.respond c r).1) (by rintro _ _ ⟨_, heq⟩; cases heq)
    simp only [Backend.step] at hst
    split_ifs at hst with hfor
    obtain rfl := Option.some.inj hst
    obtain ⟨htoken, hminted⟩ := h.request hfor
    refine ⟨h.session_later _, fun c' minted hm => ?_, htoken, hfounded, hfounder⟩
    by_cases hc : c' = c
    · subst hc
      simp only [Function.update_self] at hm
      rcases List.mem_append.mp hm with hm | hm
      · exact hminted minted hm
      · exact h.customTokens_later _ c' minted hm
    · simp only [Function.update_of_ne hc] at hm
      exact h.customTokens_later _ c' minted hm
  | cleanupExpiredJoinTokens now =>
    obtain ⟨hfounded, hfounder⟩ :=
      h.founded_later (.cleanupExpiredJoinTokens now, none) (by rintro _ _ ⟨_, heq⟩; cases heq)
    obtain rfl := Option.some.inj hst
    refine ⟨h.session_later _, h.customTokens_later _, h.token_later (fun k doc hdoc => ?_) _, hfounded, hfounder⟩
    rw [token_cleanupExpired] at hdoc
    exact ⟨doc, (Option.filter_eq_some_iff.mp hdoc).1, rfl⟩
  | cleanupInactiveAccounts now =>
    obtain ⟨hfounded, hfounder⟩ :=
      h.founded_later (.cleanupInactiveAccounts now, none) (by rintro _ _ ⟨_, heq⟩; cases heq)
    obtain rfl := Option.some.inj hst
    refine ⟨h.session_later _, h.customTokens_later _, h.token_later (fun k doc hdoc => ?_) _, hfounded, hfounder⟩
    rw [cleanupInactive_store, (deleteAccounts_lookup _ _).2.2] at hdoc
    exact ⟨doc, hdoc, rfl⟩

theorem init : Descends [] ((backend ι).init) where
  session _ _ hs := by cases hs
  customTokens _ _ hm := by cases hm
  token _ _ hdoc := by simp [backend] at hdoc
  founded _ _ _ hentry := by cases hentry
  founder _ _ _ _ hentry := by cases hentry

theorem of_run (h : (backend ι).run (backend ι).init events = some σ) : Descends (transcript events) σ := by
  have hrun := Transition.System.run_history (M := backend ι) (I := Descends) (f := fun s e => [(e, s.answer e)])
    (fun _ _ _ _ hI hst => hI.step hst) init h
  simpa [transcript] using hrun

end Descends

/-- **A client is in an account because its founder let it in**: by signing in anonymously
as its user, or through a chain of join tokens each redeemed after it was issued by one who
was in before; every such chain starts at the same founder. -/
theorem access_descends (h : (backend ι).run (backend ι).init events = some σ) {c : ι} (hs : σ.session c = some a) :
    ∃ founder, Admitted (transcript events) founder c a ∧
      ∀ founder' c', Admitted (transcript events) founder' c' a → founder' = founder := by
  have hinv := Descends.of_run h
  obtain ⟨founder, hadmitted⟩ := hinv.session c a hs
  refine ⟨founder, hadmitted, fun founder' c' hadmitted' => ?_⟩
  obtain ⟨entry, hentry, hf⟩ := hadmitted.founded
  obtain ⟨entry', hentry', hf'⟩ := hadmitted'.founded
  exact hinv.founder founder' founder a entry' hentry' entry hentry hf' hf

open Neighbours in
theorem access_descends_neighbours : ∃ σ founder, (backend Nat).run (backend Nat).init Neighbours.events = some σ ∧
    σ.session 1 = some laptopUid ∧ Admitted (transcript Neighbours.events) founder 1 laptopUid := by
  have hsome : ((backend Nat).run (backend Nat).init Neighbours.events).any
      (fun σ => σ.session 1 = some laptopUid) = true := by decide +kernel
  obtain ⟨σ, hrun, hview⟩ := (Option.any_eq_true _ _).mp hsome
  obtain ⟨founder, hadmitted, -⟩ := access_descends hrun (of_decide_eq_true hview)
  exact ⟨σ, founder, hrun, of_decide_eq_true hview, hadmitted⟩

/-! ### What changes an account -/

end Run

end MagicShare.Cloud
