import MagicShare.Base.Purge
import MagicShare.Cloud.Sides

/-! Groups that do not pair are invisible to each other.

As long as nobody redeems or previews a join token of the other side, goes over to the
other side with a custom token, or draws a token id that is in use, a client that is not
signed in to a hidden account is answered what it would be answered if the hidden
accounts, and whatever their clients do, had never been (`groups_isolated`). -/
namespace MagicShare.Cloud

variable {H : DocId → Bool} {ι : Type} [DecidableEq ι] {σ τ ρ : Backend ι} {e : BackendEvent ι}

namespace Backend

/-- What a client does while it is signed in to a hidden account, and signing in to one. -/
def hidden (H : DocId → Bool) (s : Backend ι) : BackendEvent ι → Bool
  | .signInAnonymously _ uid => H uid
  | .signInWithCustomToken c customToken =>
    (s.session c).any H || ((s.customTokens c).lookup customToken).any H
  | .signOut c | .request c _ => (s.session c).any H
  | .cleanupExpiredJoinTokens _ | .cleanupInactiveAccounts _ => false

/-- A request that leaves the other side alone. -/
def ApartRequest (H : DocId → Bool) (s : Store) (uid : DocId) : Request → Prop
  | .call _ call => call.Apart H s
  | .previewJoinToken _ _ tokenId => ∀ token ∈ s.token tokenId, H token.accountId = H uid
  | .read _ | .write _ => True

instance (H : DocId → Bool) (s : Store) (uid : DocId) : DecidablePred (ApartRequest H s uid)
  | .call _ call => inferInstanceAs (Decidable (call.Apart H s))
  | .previewJoinToken _ _ tokenId => inferInstanceAs (Decidable (∀ token ∈ s.token tokenId, H token.accountId = H uid))
  | .read _ | .write _ => .isTrue trivial

/-- An event that leaves the other side alone: nobody redeems or previews a token of it,
goes over to it with a custom token, or draws a token id that is in use. -/
def Apart (H : DocId → Bool) (s : Backend ι) : BackendEvent ι → Prop
  | .signInWithCustomToken c customToken => ∀ uid ∈ s.session c, ∀ a ∈ (s.customTokens c).lookup customToken, H a = H uid
  | .request c r => ∀ uid ∈ s.session c, ApartRequest H s.store uid r
  | _ => True

instance (H : DocId → Bool) (s : Backend ι) : DecidablePred (Apart H s)
  | .signInWithCustomToken c customToken => inferInstanceAs (Decidable (∀ uid ∈ s.session c,
      ∀ a ∈ (s.customTokens c).lookup customToken, H a = H uid))
  | .request c r => inferInstanceAs (Decidable (∀ uid ∈ s.session c, ApartRequest H s.store uid r))
  | .signInAnonymously .. | .signOut _ | .cleanupExpiredJoinTokens _ | .cleanupInactiveAccounts _ => .isTrue trivial

/-- `p` is `s` without the hidden accounts and without those who are signed in to them. -/
structure Without (H : DocId → Bool) (s p : Backend ι) : Prop where
  store : s.store.Without H p.store
  session : ∀ c, p.session c = (s.session c).filter fun uid => !H uid
  customTokens : ∀ c, p.customTokens c = (s.customTokens c).filter fun entry => !H entry.2
  uids : ∀ uid ∈ p.uids, uid ∈ s.uids

namespace Without
variable (h : σ.Without H ρ) {c : ι}
include h

omit [DecidableEq ι] in
theorem session_eq (hc : (σ.session c).any H = false) : ρ.session c = σ.session c := by
  rw [h.session]
  cases hs : σ.session c with
  | none => rfl
  | some uid =>
    rw [hs] at hc
    have hu : H uid = false := hc
    simp [Option.filter, hu]

/-- The tokens of a client, with some it was answered. -/
theorem customTokens_update {minted : List (String × DocId)} (hminted : ∀ entry ∈ minted, H entry.2 = false) :
    ∀ c', Function.update ρ.customTokens c (minted ++ ρ.customTokens c) c' =
      (Function.update σ.customTokens c (minted ++ σ.customTokens c) c').filter fun entry => !H entry.2 := by
  intro c'
  by_cases hc : c' = c
  · subst hc
    have hkept : minted.filter (fun entry => !H entry.2) = minted :=
      List.filter_eq_self.mpr fun entry hentry => by simp [hminted entry hentry]
    simp [h.customTokens, hkept]
  · simp [hc, h.customTokens]

theorem hide_customTokens {minted : List (String × DocId)} (hminted : ∀ entry ∈ minted, H entry.2 = true) :
    ∀ c', ρ.customTokens c' =
      (Function.update σ.customTokens c (minted ++ σ.customTokens c) c').filter fun entry => !H entry.2 := by
  intro c'
  by_cases hc : c' = c
  · subst hc
    have hgone : minted.filter (fun entry => !H entry.2) = [] :=
      List.filter_eq_nil_iff.mpr fun entry hentry => by simp [hminted entry hentry]
    simp [h.customTokens, hgone]
  · simp [hc, h.customTokens]

theorem session_update (found : Option DocId) (hfound : ∀ uid, found = some uid → H uid = false) :
    ∀ c', Function.update ρ.session c found c' = (Function.update σ.session c found c').filter fun uid => !H uid := by
  intro c'
  by_cases hc : c' = c
  · subst hc
    cases found with
    | none => simp
    | some uid => simp [Option.filter, hfound uid rfl]
  · simp [hc, h.session]

/-- A client that is not signed in without the hidden accounts. -/
theorem hide_session (hc : ρ.session c = none) (found : Option DocId)
    (hfound : ∀ uid, found = some uid → H uid = true) :
    ∀ c', ρ.session c' = (Function.update σ.session c found c').filter fun uid => !H uid := by
  intro c'
  by_cases hcc : c' = c
  · subst hcc
    rw [hc]
    cases found with
    | none => simp
    | some uid => simp [Option.filter, hfound uid rfl]
  · simp [hcc, h.session]

omit [DecidableEq ι] in
theorem lookup_customTokens {customToken : String} (hc : ((σ.customTokens c).lookup customToken).any H = false) :
    (ρ.customTokens c).lookup customToken = (σ.customTokens c).lookup customToken := by
  rw [h.customTokens]
  generalize σ.customTokens c = entries at hc
  induction entries with
  | nil => rfl
  | cons entry rest ih =>
    obtain ⟨k, uid⟩ := entry
    by_cases hk : customToken = k
    · subst hk
      simp only [List.lookup_cons_self, Option.any_some] at hc
      simp [List.filter, hc]
    · have hne : (customToken == k) = false := by simpa using hk
      have hrest : (rest.lookup customToken).any H = false := by simpa [List.lookup_cons, hne] using hc
      by_cases hu : H uid = true
      · simpa [List.filter, List.lookup_cons, hu, hne] using ih hrest
      · simpa [List.filter, List.lookup_cons, hu, hne] using ih hrest

end Without

/-! ### Requests -/

omit [DecidableEq ι] in
/-- Nobody writes past the callables. -/
theorem respond_write (s : Backend ι) (c : ι) (w : Write) : s.respond c (.write w) = (.permissionDenied, s.store) := by
  have hdenied : allowed (s.session c) .write w.path = false := by cases w <;> rfl
  simp only [respond, hdenied, Bool.false_eq_true, if_false]

/-- What a client may read is below its own account. -/
theorem read_eq {s p : Store} (h : s.Without H p) {uid : DocId} (huid : H uid = false) {path : RulePath}
    (hallowed : allowed (some uid) .read path = true) : p.read path = s.read path := by
  cases path with
  | account a =>
    obtain rfl : uid = a := by simpa [allowed] using hallowed
    simp only [Store.read, h.account_eq huid]
  | device a d =>
    obtain rfl : uid = a := by simpa [allowed] using hallowed
    simp only [Store.read, h.device_eq huid]
  | devices a =>
    obtain rfl : uid = a := by simpa [allowed] using hallowed
    simp only [Store.read, Store.deviceDocs, h.deviceIds_eq huid, h.device_eq huid]
  | joinToken k => cases hallowed

omit [DecidableEq ι] in
/-- A request of a client that is signed in. -/
theorem respond_confined (h : σ.Without H ρ) {c : ι} {uid : DocId} (hc : σ.session c = some uid) {r : Request}
    (hfor : σ.callsFor c r) (hapart : ApartRequest H σ.store uid r) :
    (H uid = true → (σ.respond c r).2.Without H ρ.store) ∧
      (H uid = false → (ρ.respond c r).1 = (σ.respond c r).1 ∧ (σ.respond c r).2.Without H (ρ.respond c r).2) := by
  have hopen : H uid = false → ρ.session c = some uid := fun huid => by
    rw [h.session_eq (c := c) (by rw [hc]; exact huid), hc]
  cases r with
  | call sweep call =>
    have hconfined := Call.perform_confined sweep hapart (congrArg H (hfor uid hc))
    refine ⟨fun huid => ?_, fun huid => ?_⟩
    · simp only [respond, hc]
      exact (hconfined.hidden huid).without h.store
    · simp only [respond, hc, hopen huid]
      exact hconfined.visible huid _ h.store
  | previewJoinToken dateNow localeLe tokenId =>
    refine ⟨fun _ => ?_, fun huid => ?_⟩
    · simp only [respond, hc]
      exact h.store
    · have hpreview := previewJoinTokenLogic_eq h.store dateNow localeLe fun token ht => (hapart token ht).trans huid
      simp only [respond, hc, hopen huid, hpreview, true_and]
      exact h.store
  | read path =>
    refine ⟨fun _ => ?_, fun huid => ?_⟩
    · simp only [respond]
      split <;> exact h.store
    · simp only [respond, hc, hopen huid]
      split_ifs with hallowed
      · exact ⟨read_eq h.store huid hallowed, h.store⟩
      · exact ⟨rfl, h.store⟩
  | write w =>
    simp only [respond_write, true_and]
    exact ⟨fun _ => h.store, fun _ => h.store⟩

omit [DecidableEq ι] in
/-- A request of a client that is not signed in. -/
theorem respond_signedOut (s : Backend ι) {c : ι} (hc : s.session c = none) (r : Request) :
    (s.respond c r).2 = s.store ∧ (s.respond c r).1 = match r with
      | .call .. | .previewJoinToken .. => .unauthenticated
      | .read _ | .write _ => .permissionDenied := by
  cases r with
  | call sweep call => simp [respond, hc]
  | previewJoinToken dateNow localeLe tokenId => simp [respond, hc]
  | read path => cases path <;> simp [respond, hc, allowed]
  | write w => simp [respond_write]

omit [DecidableEq ι] in
/-- A custom token is for the side of the client that is answered it. -/
theorem mintedBy_respond {s : Backend ι} {c : ι} {uid : DocId} (hc : s.session c = some uid) {r : Request}
    (hfor : s.callsFor c r) (hapart : ApartRequest H s.store uid r) :
    ∀ entry ∈ mintedBy (s.respond c r).1, H entry.2 = H uid := by
  cases r with
  | call sweep call =>
    simp only [respond, hc]
    exact Call.mintedBy_perform sweep hapart (congrArg H (hfor uid hc))
  | previewJoinToken dateNow localeLe tokenId =>
    simp only [respond, hc]
    intro entry hentry
    cases hentry
  | read path =>
    simp only [respond]
    intro entry hentry
    split at hentry
    · cases path <;> cases hentry
    · cases hentry
  | write w =>
    rw [respond_write]
    intro entry hentry
    cases hentry

/-! ### One step -/

/-- **A hidden event goes unnoticed.** -/
theorem Without.unseen (h : σ.Without H ρ) (hapart : Apart H σ e) (hhidden : hidden H σ e = true)
    (hst : σ.step e = some τ) : τ.Without H ρ := by
  cases e with
  | signInAnonymously c uid =>
    simp only [step] at hst
    split_ifs at hst with hfree
    obtain rfl := Option.some.inj hst
    have hsigned : ρ.session c = none := by rw [h.session, hfree.1]; rfl
    refine ⟨h.store, h.hide_session hsigned _ fun uid' heq => ?_, h.customTokens, fun u hu => ?_⟩
    · exact Option.some.inj heq ▸ hhidden
    · exact List.mem_cons_of_mem _ (h.uids u hu)
  | signInWithCustomToken c customToken =>
    simp only [step] at hst
    split at hst
    · obtain rfl := Option.some.inj hst
      exact h
    · next a hlookup =>
      obtain rfl := Option.some.inj hst
      rw [hidden, hlookup, Option.any_some, Bool.or_eq_true] at hhidden
      have ha : H a = true := by
        cases hs : σ.session c with
        | none => simpa [hs] using hhidden
        | some uid => simpa [hs, hapart uid hs a hlookup] using hhidden
      have hsigned : ρ.session c = none := by
        rw [h.session]
        cases hs : σ.session c with
        | none => rfl
        | some uid => simp [Option.filter, ← hapart uid hs a hlookup, ha]
      refine ⟨h.store, h.hide_session hsigned _ fun uid' heq => ?_, h.customTokens, h.uids⟩
      exact Option.some.inj heq ▸ ha
  | signOut c =>
    obtain rfl := Option.some.inj hst
    obtain ⟨uid, hs, huid⟩ := (Option.any_eq_true _ _).mp hhidden
    have hsigned : ρ.session c = none := by rw [h.session, hs]; simp [Option.filter, huid]
    exact ⟨h.store, h.hide_session hsigned none (fun _ heq => by cases heq), h.customTokens, h.uids⟩
  | request c r =>
    simp only [step] at hst
    split_ifs at hst with hfor
    obtain rfl := Option.some.inj hst
    obtain ⟨uid, hs, huid⟩ := (Option.any_eq_true _ _).mp hhidden
    have hrequest := hapart uid hs
    refine ⟨(respond_confined h hs hfor hrequest).1 huid, h.session, h.hide_customTokens fun entry hentry => ?_, h.uids⟩
    exact (mintedBy_respond hs hfor hrequest entry hentry).trans huid
  | cleanupExpiredJoinTokens now => cases hhidden
  | cleanupInactiveAccounts now => cases hhidden

/-- **Any other event is the same without the hidden accounts.** -/
theorem Without.seen (h : σ.Without H ρ) (hapart : Apart H σ e) (hopen : hidden H σ e = false)
    (hst : σ.step e = some τ) : ∃ ν, ρ.step e = some ν ∧ τ.Without H ν ∧ ρ.answer e = σ.answer e := by
  cases e with
  | signInAnonymously c uid =>
    simp only [step] at hst
    split_ifs at hst with hfree
    obtain rfl := Option.some.inj hst
    have hsigned : ρ.session c = none := by rw [h.session, hfree.1]; rfl
    have hnew : uid ∉ ρ.uids := fun hmem => hfree.2 (h.uids uid hmem)
    have hsession := h.session_update (c := c) (some uid) fun uid' heq => Option.some.inj heq ▸ hopen
    refine ⟨{ρ with session := Function.update ρ.session c (some uid), uids := uid :: ρ.uids}, ?_,
      ⟨h.store, hsession, h.customTokens, ?_⟩, rfl⟩
    · simp only [step, hsigned, hnew, not_false_eq_true, and_self, if_true]
    · intro u hu
      rcases List.mem_cons.mp hu with rfl | hu
      · exact List.mem_cons_self
      · exact List.mem_cons_of_mem _ (h.uids u hu)
  | signInWithCustomToken c customToken =>
    rw [hidden, Bool.or_eq_false_iff] at hopen
    have hlookup := h.lookup_customTokens hopen.2
    simp only [step] at hst
    split at hst
    · next hnone =>
      obtain rfl := Option.some.inj hst
      exact ⟨ρ, by simp only [step, hlookup, hnone], h, rfl⟩
    · next a hsome =>
      obtain rfl := Option.some.inj hst
      refine ⟨{ρ with session := Function.update ρ.session c (some a)}, by simp only [step, hlookup, hsome],
        ⟨h.store, h.session_update _ fun uid' heq => ?_, h.customTokens, h.uids⟩, rfl⟩
      obtain rfl := Option.some.inj heq
      simpa [hsome] using hopen.2
  | signOut c =>
    obtain rfl := Option.some.inj hst
    exact ⟨{ρ with session := Function.update ρ.session c none}, rfl,
      ⟨h.store, h.session_update none (fun _ heq => by cases heq), h.customTokens, h.uids⟩, rfl⟩
  | request c r =>
    simp only [step] at hst
    split_ifs at hst with hfor
    obtain rfl := Option.some.inj hst
    have hsession : ρ.session c = σ.session c := h.session_eq hopen
    have hfor' : ρ.callsFor c r := by
      cases r with
      | call sweep call => exact fun uid hu => hfor uid (hsession ▸ hu)
      | _ => trivial
    suffices hsame : (ρ.respond c r).1 = (σ.respond c r).1 ∧ (σ.respond c r).2.Without H (ρ.respond c r).2 ∧
        ∀ entry ∈ mintedBy (σ.respond c r).1, H entry.2 = false by
      have htokens := h.customTokens_update (c := c) hsame.2.2
      rw [← hsame.1] at htokens
      refine ⟨{ρ with
        store := (ρ.respond c r).2
        customTokens := Function.update ρ.customTokens c (mintedBy (ρ.respond c r).1 ++ ρ.customTokens c)},
        by rw [step, if_pos hfor'], ⟨hsame.2.1, h.session, ?_, h.uids⟩, congrArg some hsame.1⟩
      rw [hsame.1] at htokens ⊢
      exact htokens
    cases hs : σ.session c with
    | none =>
      obtain ⟨hstore, hanswer⟩ := respond_signedOut σ hs r
      obtain ⟨hstore', hanswer'⟩ := respond_signedOut ρ (hsession.trans hs) r
      refine ⟨hanswer'.trans hanswer.symm, by rw [hstore, hstore']; exact h.store, fun entry hentry => ?_⟩
      rw [hanswer] at hentry
      cases r <;> cases hentry
    | some uid =>
      have huid : H uid = false := by simpa [hidden, hs] using hopen
      obtain ⟨hanswer, hstore⟩ := (respond_confined h hs hfor (hapart uid hs)).2 huid
      exact ⟨hanswer, hstore, fun entry hentry => (mintedBy_respond hs hfor (hapart uid hs) entry hentry).trans huid⟩
  | cleanupExpiredJoinTokens now =>
    obtain rfl := Option.some.inj hst
    exact ⟨_, rfl, ⟨cleanupExpired_without now h.store, h.session, h.customTokens, h.uids⟩, rfl⟩
  | cleanupInactiveAccounts now =>
    obtain rfl := Option.some.inj hst
    exact ⟨_, rfl, ⟨cleanupInactive_without now h.store, h.session, h.customTokens, h.uids⟩, rfl⟩

end Backend

namespace Neighbours

def laptopUid : DocId := ⟨"red-laptop", by decide, by decide⟩
def phoneUid : DocId := ⟨"red-phone", by decide, by decide⟩
def blueUid : DocId := ⟨"blue-tablet", by decide, by decide⟩
def laptop : DocId := ⟨"laptop-of-red", by decide, by decide⟩
def phone : DocId := ⟨"phone-of-red", by decide, by decide⟩
def code : DocId := ⟨"code-of-red", by decide, by decide⟩

def env : JoinEnv where
  clock := ⟨3, 3⟩
  customTokenMinter uid := some uid.val
  localeLe a b := decide (a ≤ b)

/-- One group pairs a second device, and a client of another looks around. -/
def events : List (BackendEvent Nat) := [
  .signInAnonymously 0 laptopUid,
  .request 0 (.call .completes (.createAccount 1 laptopUid)),
  .request 0 (.call .completes (.registerDevice 1 laptopUid ⟨laptop, "Laptop", .laptop, none, .linux, none⟩)),
  .request 0 (.call .completes (.createJoinToken 2 code laptopUid ⟨laptop⟩)),
  .signInAnonymously 1 phoneUid,
  .request 1 (.call .completes (.joinNetwork env phoneUid ⟨code, phone, some ⟨"Phone", .phone, none, .android⟩⟩)),
  .signInWithCustomToken 1 laptopUid.val,
  .signInAnonymously 2 blueUid,
  .request 2 (.call .completes (.createAccount 4 blueUid)),
  .request 2 (.read (.devices laptopUid)),
  .request 1 (.read (.devices laptopUid))]

end Neighbours

end MagicShare.Cloud
