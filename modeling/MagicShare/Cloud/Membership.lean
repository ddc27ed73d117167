import MagicShare.Cloud.Fields
import MagicShare.Cloud.JoinOutcome

/-! Which group a device is in.

A device has one id and one signed-in uid at a time. It registers and joins under
the uid it has; signed out, it comes back under a fresh anonymous uid that has no
account. `joinNetwork` cleans up under the caller's uid only, so it finds the
group the device is in when the device has not changed its uid since it entered
it. A device that has leaves its document behind (`joins_home_iff`); one that
never does is in one group at any time (`one_group`). -/
namespace MagicShare.Cloud

/-- The store, and the uid every device is signed in under. A device is its
`deviceId`. -/
structure Clients where
  store : Store
  uid : DocId → DocId

inductive ClientEvent where
  /-- The device of the input registers under its uid. -/
  | register (now : Timestamp) (input : RegisterDeviceInput)
  /-- The device of the input joins under its uid; `signsIn` says whether it then
  signs in with the custom token. -/
  | join (env : JoinEnv) (input : JoinNetworkInput) (signsIn : Bool)
  /-- The device is signed out and comes back under a fresh uid. -/
  | reauth (d uid : DocId)
  /-- Any other call, by any caller. -/
  | other (c : Call)

/-- The calls a device makes with its own id. -/
def Call.ownDevice : Call → Bool
  | .registerDevice _ _ _ | .joinNetwork _ _ _ => true
  | _ => false

namespace Clients

def signIn (σ : Clients) (d uid : DocId) : Clients :=
  {σ with uid := fun e => if e = d then uid else σ.uid e}

def call (σ : Clients) (c : Call) : Clients := {σ with store := c.apply σ.store}

def joinCall (σ : Clients) (env : JoinEnv) (input : JoinNetworkInput) : Call :=
  .joinNetwork env (σ.uid input.deviceId) input

end Clients

/-- Runs of the calls by devices, from the empty store and any uids. -/
def clients (uid : DocId → DocId) : Transition.System Clients ClientEvent where
  init := ⟨.empty, uid⟩
  step σ
    | .register now input => some (σ.call (.registerDevice now (σ.uid input.deviceId) input))
    | .join env input signsIn =>
      match (joinNetworkLogic env.swept (σ.uid input.deviceId) input σ.store).1 with
      | .ok result =>
        some (if signsIn then (σ.call (σ.joinCall env input)).signIn input.deviceId result.accountId
          else σ.call (σ.joinCall env input))
      | .error _ => some (σ.call (σ.joinCall env input))
    | .reauth d uid => if σ.store.account uid = none then some (σ.signIn d uid) else none
    | .other c => if c.ownDevice then none else some (σ.call c)

/-- The store after an event, whoever is signed in. -/
theorem clients_store {uid : DocId → DocId} {σ τ : Clients} {e : ClientEvent}
    (h : (clients uid).step σ e = some τ) : τ.store = σ.store ∨ ∃ c : Call, τ.store = c.apply σ.store := by
  cases e with
  | register now input =>
    obtain rfl := Option.some.inj h
    exact .inr ⟨.registerDevice now (σ.uid input.deviceId) input, rfl⟩
  | join env input signsIn =>
    refine .inr ⟨σ.joinCall env input, ?_⟩
    simp only [clients] at h
    split at h
    · obtain rfl := Option.some.inj h
      split <;> rfl
    · obtain rfl := Option.some.inj h
      rfl
  | reauth d u =>
    simp only [clients] at h
    split at h
    · obtain rfl := Option.some.inj h
      exact .inl rfl
    · cases h
  | other c =>
    simp only [clients] at h
    split at h
    · cases h
    · obtain rfl := Option.some.inj h
      exact .inr ⟨c, rfl⟩

/-- In every run each device is under an account that exists. -/
theorem covered_clients {uid : DocId → DocId} {σ τ : Clients} {e : ClientEvent} (hs : Covered σ.store)
    (h : (clients uid).step σ e = some τ) : Covered τ.store := by
  rcases clients_store h with hst | ⟨c, hst⟩
  · rwa [hst]
  · rw [hst]
    exact covered_apply hs c

/-! ### After a join -/

/-- An accepted join leaves its device in the token's account and in no other. -/
def JoinsHome (σ : Clients) : ClientEvent → Prop
  | .join env input _ => JoinCommits env (σ.uid input.deviceId) input σ.store →
      ∀ token, σ.store.token input.tokenId = some token → ∀ a,
        (((σ.joinCall env input).apply σ.store).device a input.deviceId).isSome ↔ a = token.accountId
  | _ => True

/-- An accepted join is by a device that only its caller's account and the token's
account hold. -/
def NoThirdGroup (σ : Clients) : ClientEvent → Prop
  | .join env input _ => JoinCommits env (σ.uid input.deviceId) input σ.store →
      ∀ token, σ.store.token input.tokenId = some token → ∀ a, a ≠ σ.uid input.deviceId →
        a ≠ token.accountId → σ.store.device a input.deviceId = none
  | _ => True

/-- What a join leaves of its device, account by account. -/
theorem device_after_join {s : Store} {env : JoinEnv} {uid : DocId} {input : JoinNetworkInput}
    {token : JoinTokenDoc} (hs : Covered s) (hc : JoinCommits env uid input s)
    (ht : s.token input.tokenId = some token) (a : DocId) :
    (((Call.joinNetwork env uid input).apply s).device a input.deviceId).isSome ↔
      a = token.accountId ∨ (a ≠ uid ∧ (s.device a input.deviceId).isSome) := by
  simp only [Call.apply]
  rcases joinNetworkLogic_cases env uid input s with
    ⟨hn, _⟩ | ⟨_, token', target, doc, left, g, hsrc, h⟩
  · exact absurd hc hn
  · obtain rfl := Option.some.inj (g.found.symm.trans ht)
    rw [h]
    by_cases ha : a = token'.accountId
    · simp [joinTarget, ha]
    · have hleft : (joinTarget env.clock input token' target doc left).device a input.deviceId =
          left.device a input.deviceId := by
        simp [joinTarget, ha]
      rw [hleft]
      by_cases hu : a = uid
      · -- Either the source lost the device or it is an account that does not exist.
        have hgone : left.device uid input.deviceId = none := by
          cases hacc : s.account uid with
          | some account => exact hsrc.device_source (by simp [hacc])
          | none =>
            have hnone := hs.no_device hacc input.deviceId
            by_contra hne
            obtain ⟨v, hv⟩ := Option.ne_none_iff_exists'.mp hne
            simp [hsrc.device_le hv] at hnone
        simp [hu, hgone, g.notSelf]
      · rw [hsrc.device_ne hu]
        simp [ha, hu]

theorem joinsHome_iff {σ : Clients} (hs : Covered σ.store) (e : ClientEvent) :
    JoinsHome σ e ↔ NoThirdGroup σ e := by
  cases e with
  | join env input signsIn =>
    refine forall_congr' fun hc => forall_congr' fun token => forall_congr' fun ht => forall_congr' fun a => ?_
    rw [Clients.joinCall, device_after_join hs hc ht a]
    constructor
    · intro h hu ha
      by_contra hne
      exact ha (h.mp (.inr ⟨hu, Option.isSome_iff_ne_none.mpr hne⟩))
    · intro h
      constructor
      · rintro (ha | ⟨hu, hsome⟩)
        · exact ha
        · by_contra ha
          rw [h hu ha] at hsome
          cases hsome
      · exact .inl
  | register now input => exact Iff.rfl
  | reauth d uid => exact Iff.rfl
  | other c => exact Iff.rfl

/-- **A run's joins all bring their devices home exactly when every join is by a
device that no third account holds.** -/
theorem joins_home_iff (uid : DocId → DocId) (events : List ClientEvent) :
    (clients uid).Meets JoinsHome (clients uid).init events ↔
      (clients uid).Meets NoThirdGroup (clients uid).init events :=
  Transition.System.meets_congr_of_invariant (fun σ => Covered σ.store)
    (fun _ _ _ hs h => covered_clients hs h) (fun _ e hs => joinsHome_iff hs e) Tallied.empty

/-! ### Devices that keep their uid -/

/-- A device changes its uid only while no group holds it, or into the group it
joins: an accepted join resolves, and the device signs in with its token. -/
def KeepsUid (σ : Clients) : ClientEvent → Prop
  | .reauth d _ => ∀ a, σ.store.device a d = none
  | .join env input signsIn => JoinCommits env (σ.uid input.deviceId) input σ.store → signsIn = true ∧
      ∃ result, (joinNetworkLogic env.swept (σ.uid input.deviceId) input σ.store).1 = .ok result
  | _ => True

/-- Every device document is under its device's uid. -/
structure Clients.Settled (σ : Clients) : Prop where
  covered : Covered σ.store
  home : ∀ {a d}, (σ.store.device a d).isSome → a = σ.uid d

namespace Clients.Settled
variable {σ : Clients}

theorem init (uid : DocId → DocId) : (clients uid).init.Settled :=
  ⟨Tallied.empty, fun hd => by simp [clients] at hd⟩

/-- A call that writes no device of its caller's own. -/
theorem call_other (h : σ.Settled) {c : Call} (hc : c.ownDevice = false) : (σ.call c).Settled where
  covered := covered_apply h.covered c
  home {a d} hd := by
    obtain ⟨doc, hdoc⟩ := Option.isSome_iff_exists.mp hd
    have hold : (σ.store.device a d).isSome := by
      cases Written.of_apply c hdoc with
      | kept hold => simp [hold]
      | created heq _ _ => simp [heq, Call.ownDevice] at hc
      | refreshed heq _ _ => simp [heq, Call.ownDevice] at hc
      | renamed _ _ hold => simp [hold]
      | iconSet _ _ hold => simp [hold]
      | charged _ _ hold _ => simp [hold]
      | joined heq _ _ _ _ _ => simp [heq, Call.ownDevice] at hc
    exact h.home hold

theorem register (h : σ.Settled) (now : Timestamp) (input : RegisterDeviceInput) :
    (σ.call (.registerDevice now (σ.uid input.deviceId) input)).Settled where
  covered := covered_apply h.covered (.registerDevice now (σ.uid input.deviceId) input)
  home {a d} hd := by
    obtain ⟨doc, hdoc⟩ := Option.isSome_iff_exists.mp hd
    cases Written.of_apply _ hdoc with
    | kept hold => exact h.home (by simp [hold])
    | created heq hid _ =>
      cases heq
      rw [← hid]
      rfl
    | refreshed _ _ hold => exact h.home (by simp [hold])
    | renamed heq _ _ => cases heq
    | iconSet heq _ _ => cases heq
    | charged heq _ _ _ => cases heq
    | joined heq _ _ _ _ _ => cases heq

/-- A call that is not accepted moves nothing. -/
theorem join_rejected (h : σ.Settled) {env : JoinEnv} {input : JoinNetworkInput}
    (hn : ¬ JoinCommits env (σ.uid input.deviceId) input σ.store) : (σ.call (σ.joinCall env input)).Settled := by
  have hsame : (σ.joinCall env input).apply σ.store = σ.store := by
    simp only [Clients.joinCall, Call.apply]
    rcases joinNetworkLogic_cases env (σ.uid input.deviceId) input σ.store with ⟨_, hr⟩ | ⟨hc, _⟩
    · exact hr
    · exact absurd hc hn
  rw [Clients.call, hsame]
  exact h

/-- An accepted join takes the device and its uid into the token's account. -/
theorem join_accepted (h : σ.Settled) {env : JoinEnv} {input : JoinNetworkInput} {token : JoinTokenDoc}
    (hc : JoinCommits env (σ.uid input.deviceId) input σ.store)
    (ht : σ.store.token input.tokenId = some token) :
    ((σ.call (σ.joinCall env input)).signIn input.deviceId token.accountId).Settled where
  covered := covered_apply h.covered (σ.joinCall env input)
  home {a d} hd := by
    change (((σ.joinCall env input).apply σ.store).device a d).isSome at hd
    show a = if d = input.deviceId then token.accountId else σ.uid d
    split
    · next heq =>
      subst heq
      rw [Clients.joinCall, device_after_join h.covered hc ht] at hd
      rcases hd with ha | ⟨hne, hold⟩
      · exact ha
      · exact absurd (h.home hold) hne
    · next hne =>
      obtain ⟨doc, hdoc⟩ := Option.isSome_iff_exists.mp hd
      cases Written.of_apply _ hdoc with
      | kept hold => exact h.home (by simp [hold])
      | joined heq _ _ _ hid _ =>
        cases heq
        exact absurd hid.symm hne
      | created heq _ _ => cases heq
      | refreshed heq _ _ => cases heq
      | renamed heq _ _ => cases heq
      | iconSet heq _ _ => cases heq
      | charged heq _ _ _ => cases heq

theorem reauth (h : σ.Settled) {d : DocId} (uid : DocId) (hnone : ∀ a, σ.store.device a d = none) :
    (σ.signIn d uid).Settled where
  covered := h.covered
  home {a e} hd := by
    change (σ.store.device a e).isSome at hd
    show a = if e = d then uid else σ.uid e
    split
    · next heq =>
      rw [heq, hnone a] at hd
      cases hd
    · exact h.home hd

theorem step {uid : DocId → DocId} {τ : Clients} {e : ClientEvent} (h : σ.Settled) (hk : KeepsUid σ e)
    (hst : (clients uid).step σ e = some τ) : τ.Settled := by
  cases e with
  | register now input =>
    obtain rfl := Option.some.inj hst
    exact h.register now input
  | join env input signsIn =>
    simp only [clients] at hst
    by_cases hc : JoinCommits env (σ.uid input.deviceId) input σ.store
    · obtain ⟨hsign, result, hr⟩ := hk hc
      rw [hr] at hst
      obtain rfl := Option.some.inj hst
      obtain ⟨_, token, ht, hacc, _⟩ := joinNetworkLogic_ok hr
      rw [hsign, if_pos rfl, hacc]
      exact h.join_accepted hc ht
    · have hτ : τ = σ.call (σ.joinCall env input) := by
        have hn : ¬ JoinCommits env.swept (σ.uid input.deviceId) input σ.store := hc
        obtain ⟨e, he⟩ := joinNetworkLogic_uncommitted hn
        rw [he] at hst
        exact (Option.some.inj hst).symm
      rw [hτ]
      exact h.join_rejected hc
  | reauth d u =>
    simp only [clients] at hst
    split at hst
    · obtain rfl := Option.some.inj hst
      exact h.reauth u hk
    · cases hst
  | other c =>
    simp only [clients] at hst
    split at hst
    · cases hst
    · next hc =>
      obtain rfl := Option.some.inj hst
      exact h.call_other (by simpa using hc)

end Clients.Settled

/-- A join by a device that kept its uid finds every group the device is in. -/
theorem Clients.Settled.noThirdGroup {σ : Clients} (h : σ.Settled) (e : ClientEvent) : NoThirdGroup σ e := by
  cases e with
  | join env input signsIn =>
    intro _ token _ a hne _
    by_contra hd
    exact hne (h.home (Option.isSome_iff_ne_none.mpr hd))
  | register now input => trivial
  | reauth d uid => trivial
  | other c => trivial

section KeepsUid
variable {uid : DocId → DocId} {events : List ClientEvent}
  (hk : (clients uid).Meets KeepsUid (clients uid).init events)
include hk

theorem settled_of_run {σ : Clients} (hrun : (clients uid).run (clients uid).init events = some σ) :
    σ.Settled :=
  Transition.System.run_meets (fun _ _ _ hs hk hst => hs.step hk hst) (Clients.Settled.init uid) hk hrun

/-- **Devices that keep their uid are in one group at a time.** -/
theorem one_group {σ : Clients} (hrun : (clients uid).run (clients uid).init events = some σ) {a b d : DocId}
    (ha : (σ.store.device a d).isSome) (hb : (σ.store.device b d).isSome) : a = b :=
  ((settled_of_run hk hrun).home ha).trans ((settled_of_run hk hrun).home hb).symm

/-- Their joins are by devices no third account holds. -/
theorem noThirdGroup_of_keepsUid : (clients uid).Meets NoThirdGroup (clients uid).init events :=
  hk.of_invariant (fun _ _ _ hs hk hst => hs.step hk hst) (fun _ e _ hs _ => hs.noThirdGroup e)
    (Clients.Settled.init uid)

end KeepsUid

namespace Reinstall

def laptop : DocId := ⟨"laptop", by decide, by decide⟩
def phone : DocId := ⟨"phone", by decide, by decide⟩
def laptopUid : DocId := ⟨"laptop-uid", by decide, by decide⟩
def phoneUid : DocId := ⟨"phone-uid", by decide, by decide⟩
def freshUid : DocId := ⟨"fresh-uid", by decide, by decide⟩
def code : DocId := ⟨"code", by decide, by decide⟩

def uid (d : DocId) : DocId := if d = phone then phoneUid else laptopUid

def env : JoinEnv where
  clock := ⟨5, 5⟩
  customTokenMinter uid := some uid.val
  localeLe a b := decide (a ≤ b)

/-- The laptop and the phone each have a group; the laptop offers a code. -/
def before : List ClientEvent :=
  [.other (.createAccount 0 laptopUid), .register 1 ⟨laptop, "Laptop", .laptop, none, .linux, none⟩,
    .other (.createAccount 2 phoneUid), .register 3 ⟨phone, "Phone", .phone, none, .android, none⟩,
    .other (.createJoinToken 4 code laptopUid ⟨laptop⟩)]

/-- The phone is signed out and comes back under a fresh uid. -/
def signedOut : ClientEvent := .reauth phone freshUid

def input : JoinNetworkInput := ⟨code, phone, some ⟨"Phone", .phone, none, .android⟩⟩

/-- What the join meets: the phone's old group has it, the code is the laptop's,
and the transaction accepts. -/
def view (σ : Clients) : Bool × Option DocId × Bool :=
  ((σ.store.device phoneUid phone).isSome, (σ.store.token code).map JoinTokenDoc.accountId,
    (joinNetworkTx env.clock (σ.uid phone) input σ.store).1.isOk && decide (σ.uid phone = freshUid))

theorem view_signedOut : ((clients uid).run (clients uid).init (before ++ [signedOut])).map view =
    some (true, some laptopUid, true) := by decide +kernel

end Reinstall

/-- A device that was signed out and joins again is in two groups. -/
theorem joins_home_fails_on_reinstall :
    ¬ ∀ (uid : DocId → DocId) (events : List ClientEvent),
      (clients uid).Meets JoinsHome (clients uid).init events := by
  intro h
  obtain ⟨σ, hσ, hview⟩ := Option.map_eq_some_iff.mp Reinstall.view_signedOut
  simp only [Reinstall.view, Prod.mk.injEq, Bool.and_eq_true, decide_eq_true_eq] at hview
  obtain ⟨hold, htoken, hok, huid⟩ := hview
  obtain ⟨token, ht, hacc⟩ := Option.map_eq_some_iff.mp htoken
  have hc : JoinCommits Reinstall.env (σ.uid Reinstall.input.deviceId) Reinstall.input σ.store :=
    ⟨rfl, joinAccepts_of_ok hok⟩
  obtain ⟨_, hmeets⟩ := (h Reinstall.uid ((Reinstall.before ++ [Reinstall.signedOut]) ++
    [.join Reinstall.env Reinstall.input false])).append
  have hcovered : Covered σ.store :=
    Transition.System.run_invariant (fun _ _ _ hs hst => covered_clients hs hst) Tallied.empty hσ
  have hstep : ∃ τ, (clients Reinstall.uid).step σ (.join Reinstall.env Reinstall.input false) = some τ := by
    simp only [clients]
    split <;> exact ⟨_, rfl⟩
  obtain ⟨τ, hτ⟩ := hstep
  have hhome := ((hmeets σ hσ) τ hτ).1 hc token ht Reinstall.phoneUid
  rw [hacc, Clients.joinCall, device_after_join hcovered hc ht] at hhome
  have hne : Reinstall.phoneUid ≠ σ.uid Reinstall.input.deviceId := by
    show Reinstall.phoneUid ≠ σ.uid Reinstall.phone
    rw [huid]
    decide
  exact absurd (hhome.mp (.inr ⟨hne, hold⟩)) (by decide)

end MagicShare.Cloud
