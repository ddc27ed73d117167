import MagicShare.Account.Joining

/-! What pairing has done so far, and what keeps it: the key, the device and the id.

Each place has its own predicate, by the await `completePairing` is at, and for each
operation of the others on that place what it must leave alone. -/
namespace MagicShare.Account
open Cloud Pairing

/-! ### What pairing has written so far -/

namespace PairingPhase

/-- The device id `completePairing` has got. -/
def deviceId : PairingPhase → Option DocId
  | .joining _ deviceId | .sweeping _ deviceId _ _ | .responding _ deviceId _ | .exchangingKey _ deviceId _
  | .replacing deviceId _ _ _ | .deletingCurrentUser deviceId _ _ | .signingInWithCustomToken deviceId _ _
  | .succeeded deviceId _ _ => some deviceId
  | .uncalled | .signingInAnonymously | .probing | .ensuringDeviceId _ | .failed _ => none

/-- The device that `joinNetwork` is about to move. -/
def moving : PairingPhase → Option DocId
  | .joining _ deviceId => some deviceId
  | _ => none

/-- The answer of `joinNetwork`. -/
def result : PairingPhase → Option JoinNetworkResult
  | .exchangingKey _ _ result | .replacing _ result _ _ | .deletingCurrentUser _ result _
  | .signingInWithCustomToken _ result _ | .succeeded _ result _ => some result
  | _ => none

/-- The account the device was moved to. -/
def target : PairingPhase → Option DocId
  | .sweeping _ _ _ decision | .responding _ _ decision => some decision.accountId
  | phase => phase.result.map JoinNetworkResult.accountId

/-- The device and the key of a pairing that has succeeded. -/
def paired : PairingPhase → Option (DocId × List UInt8)
  | .succeeded deviceId _ key => some (deviceId, key)
  | _ => none

/-- The key that `replace` has installed. -/
def installed : PairingPhase → Option (List UInt8)
  | .deletingCurrentUser _ _ key | .signingInWithCustomToken _ _ key | .succeeded _ _ key => some key
  | _ => none

/-- The key of a `replace` whose write has taken effect. -/
def written (keys : GroupKeyRun) : PairingPhase → Option (List UInt8)
  | .replacing _ _ key call => if (keys.calls[call]?).map KeyCall.phase = some .issued then none else some key
  | phase => phase.installed

/-- The key of a `replace` that has ended. -/
def shown (keys : GroupKeyRun) : PairingPhase → Option (List UInt8)
  | .replacing _ _ key call => if (keys.calls[call]?).map KeyCall.phase = some .finished then some key else none
  | phase => phase.installed

end PairingPhase

/-- The account of the join token. -/
def tokenAccount (r : PairingRequest) (cloud : Store) : Option DocId :=
  match joinTokenRef r.payload.tokenId with
  | .ok (some tokenId) => (cloud.token tokenId).map JoinTokenDoc.accountId
  | _ => none

/-! ### Answers and listeners -/

theorem joinResponse_ok {join : JoinEnv} {decision : JoinDecision} {cloud : Store} {result : JoinNetworkResult}
    (h : joinResponse join decision cloud = .ok result) :
    result.accountId = decision.accountId ∧ join.customTokenMinter decision.accountId = some result.customToken := by
  simp only [joinResponse] at h
  split_ifs at h
  cases hminted : join.customTokenMinter decision.accountId with
  | none =>
    rw [hminted] at h
    cases h
  | some customToken =>
    rw [hminted] at h
    obtain rfl := Except.ok.inj h
    exact ⟨rfl, rfl⟩

theorem clientAnswer_ok {α : Type} {run : CallRun} {answer : Except Rejection α} {a : α}
    (h : clientAnswer run answer = .ok a) : answer = .ok a := by
  cases answer with
  | error e => cases h
  | ok b =>
    cases run with
    | answered => rw [Except.ok.inj h]
    | unsent | lost => cases h

theorem emitReady_vanished {α δ : Type} (a : AccountRepository α δ) : a.emitReady.vanished = a.vanished := by
  simp only [AccountRepository.emitReady]
  split <;> rfl

/-- A listener that sees no document vanish calls for no reset. -/
theorem onAccount_vanished {α δ : Type} (a : AccountRepository α δ) (attachment : Nat) (snap : Option α)
    (hc : snap = none → a.accountDocSeenExisting = true → a.externalDeletionFired = true) :
    (a.onAccount attachment snap).vanished = a.vanished := by
  rw [AccountRepository.onAccount, emitReady_vanished]
  cases snap with
  | some account => rfl
  | none =>
    simp only [AccountRepository.noteExistence]
    split_ifs with hfires
    · obtain ⟨hseen, hfired⟩ : a.accountDocSeenExisting = true ∧ a.externalDeletionFired = false := by
        simpa [AccountRepository.deliverAccount] using hfires
      rw [hc rfl hseen] at hfired
      cases hfired
    · rfl

/-! ### The group key meanwhile -/

namespace GroupKeyRun
variable {k l : GroupKeyRun} {e : KeyEvent} {key : List UInt8}

/-- The slot keeps a key that no write takes the place of. -/
theorem stored_of_moves (hm : Moves k e l) (h : keyIn k.stored = some key)
    (hc : ∀ i c, e = .takeEffect i → k.calls[i]? = some c → keyIn (c.operation.effect k.stored) = some key) :
    keyIn l.stored = some key := by
  cases hm with
  | applied hcall => exact hc _ _ rfl hcall
  | refused | started | clearing | finished => exact h

/-- Memory keeps a key that no call shows another after. -/
theorem state_of_moves (hs : k.Sound) (hm : Moves k e l) (h : keyShown k.state = some key)
    (hc : ∀ i c, e = .resume i → k.calls[i]? = some c → c.left = some key) : keyShown l.state = some key := by
  cases hm with
  | finished hcall hending hphase => exact (hs.keyShown_result hcall hphase).trans (hc _ _ rfl hcall)
  | refused | started | applied | clearing => exact h

/-- A running `replace` has written its key, unless storage has yet to be asked, and
shown it once it has ended. -/
structure Replacing (k : GroupKeyRun) (call : Nat) (key : List UInt8) : Prop where
  length : key.length = groupKeyLengthBytes
  running : ∃ phase, k.calls[call]? = some ⟨.replace key, phase⟩ ∧ (phase = .issued ∨
    keyIn k.stored = some key ∧ (phase = .applied (some (encodeKey key)) ∨
      phase = .finished ∧ keyShown k.state = some key))

/-- The other calls keep what `replace` has done so far. -/
theorem Replacing.step {call : Nat} (h : k.Replacing call key) (hs : k.Sound) (hm : Moves k e l)
    (heffect : ∀ i c, e = .takeEffect i → k.calls[i]? = some c → k.calls[call]? ≠ some ⟨.replace key, .issued⟩ →
      keyIn (c.operation.effect k.stored) = some key)
    (hresume : ∀ i c, e = .resume i → k.calls[i]? = some c → k.calls[call]? = some ⟨.replace key, .finished⟩ →
      c.left = some key) : l.Replacing call key := by
  refine ⟨h.length, ?_⟩
  obtain ⟨phase, hget, hphase⟩ := h.running
  cases hm with
  | refused => exact ⟨phase, hget, hphase⟩
  | started =>
    exact ⟨phase, by simp [start, Records.append hget], hphase⟩
  | @applied i c hcall hissued =>
    by_cases hi : i = call
    · subst hi
      obtain rfl := Option.some.inj (hget.symm.trans hcall)
      have hlt := (List.getElem?_eq_some_iff.mp hget).1
      refine ⟨.applied (some (encodeKey key)), by simp [setPhase, hlt, KeyOperation.effect], .inr ⟨?_, .inl rfl⟩⟩
      exact keyIn_encodeKey h.length
    · refine ⟨phase, by simp [setPhase, hi, hget], ?_⟩
      rcases hphase with rfl | ⟨hstored, hdone⟩
      · exact .inl rfl
      · refine .inr ⟨heffect i c rfl hcall ?_, hdone⟩
        rw [hget]
        rintro heq
        obtain rfl := congrArg KeyCall.phase (Option.some.inj heq)
        simp at hdone
  | @clearing i c hcall hclear =>
    have hi : i ≠ call := by
      rintro rfl
      obtain rfl := Option.some.inj (hget.symm.trans hcall)
      cases hclear
    exact ⟨phase, by simp [setPhase, hi, hget], hphase⟩
  | @finished i c hcall hending stored hended =>
    by_cases hi : i = call
    · subst hi
      obtain rfl := Option.some.inj (hget.symm.trans hcall)
      have hlt := (List.getElem?_eq_some_iff.mp hget).1
      have hwritten : keyIn k.stored = some key := by
        rcases hphase with rfl | ⟨hwritten, -⟩
        · simp at hended
        · exact hwritten
      exact ⟨.finished, by simp [finish, setPhase, hlt], .inr ⟨hwritten, .inr ⟨rfl, rfl⟩⟩⟩
    · refine ⟨phase, by simp [finish, setPhase, hi, hget], ?_⟩
      rcases hphase with rfl | ⟨hwritten, rfl | ⟨rfl, hshown⟩⟩
      · exact .inl rfl
      · exact .inr ⟨hwritten, .inl rfl⟩
      · refine .inr ⟨hwritten, .inr ⟨rfl, ?_⟩⟩
        exact (hs.keyShown_result hcall hended).trans (hresume i c rfl hcall hget)

end GroupKeyRun

/-! ### The device meanwhile -/

/-- The device is in the account of the token and in no other. -/
structure Moved (r : PairingRequest) (cloud : Store) (deviceId a : DocId) : Prop where
  token : tokenAccount r cloud = some a
  device : ∀ b, (cloud.device b deviceId).isSome ↔ b = a

section Cloud
variable {r : PairingRequest} {cloud later : Store} {deviceId a : DocId}

theorem tokenAccount_congr (h : ∀ k, later.token k = cloud.token k) : tokenAccount r later = tokenAccount r cloud := by
  simp only [tokenAccount, h]

theorem Moved.congr (h : Moved r cloud deviceId a) (htoken : ∀ k, later.token k = cloud.token k)
    (hdevice : ∀ b, (later.device b deviceId).isSome ↔ (cloud.device b deviceId).isSome) : Moved r later deviceId a :=
  ⟨(tokenAccount_congr htoken).trans h.token, fun b => (hdevice b).trans (h.device b)⟩

theorem Moved.createAccount (h : Moved r cloud deviceId a) (now : Timestamp) (caller : DocId) :
    Moved r (createAccountLogic now caller cloud).2 deviceId a := by
  rcases createAccountLogic_cases now caller cloud with ⟨-, heq⟩ | ⟨-, heq⟩
  · exact h.congr (by simp [heq]) (by simp [heq])
  · exact h.congr (by simp [heq]) (by simp [heq])

/-- A device document that is written adds the account to those the device is in. -/
theorem device_registered {b c d : DocId} (doc : DeviceDoc) (account : AccountDoc) (hd : d = deviceId → c = a)
    (h : Moved r cloud deviceId a) :
    (((cloud.putDevice c d doc).putAccount c account).device b deviceId).isSome ↔ (cloud.device b deviceId).isSome := by
  simp only [Store.device_putAccount, Store.device_putDevice]
  split
  · next hat =>
    obtain ⟨rfl, rfl⟩ := hat
    obtain rfl := hd rfl
    simp [(h.device b).mpr rfl]
  · rfl

/-- Only a user that still has an account takes the device back. -/
theorem Moved.registerDevice (h : Moved r cloud deviceId a) (now : Timestamp) (caller : DocId)
    (input : RegisterDeviceInput) (hc : input.deviceId = deviceId → caller ≠ a → cloud.account caller = none) :
    Moved r (registerDeviceLogic now caller input cloud).2 deviceId a := by
  have hcaller : ∀ account, cloud.account caller = some account → input.deviceId = deviceId → caller = a := by
    intro account haccount hid
    by_contra hne
    rw [hc hid hne] at haccount
    cases haccount
  rcases registerDeviceLogic_cases now caller input cloud with
    ⟨-, e, heq⟩ | ⟨account, haccount, -, heq⟩ | ⟨account, doc, haccount, -, heq⟩
  · exact h.congr (by simp [heq]) (by simp [heq])
  · exact h.congr (by simp [heq]) fun b => by simpa only [heq] using device_registered _ _ (hcaller account haccount) h
  · exact h.congr (by simp [heq]) fun b => by simpa only [heq] using device_registered _ _ (hcaller account haccount) h

/-- The sweep of the source finds the device gone already. -/
theorem Moved.sweep (h : Moved r cloud deviceId a) (run : SweepRun) {uid : DocId} (huid : uid ≠ a)
    (decision : JoinDecision) : Moved r (joinSweep run uid deviceId decision cloud).2 deviceId a := by
  obtain ⟨result, swept, heq, htoken, -⟩ := joinSweep_cases run uid deviceId decision cloud
  refine h.congr (by simp [heq, htoken]) fun b => ?_
  rcases joinSweep_device run uid deviceId decision cloud b deviceId with hsame | ⟨-, rfl, hnone⟩
  · rw [hsame]
  · rw [hnone]
    simp [h.device, huid]

/-- The transaction of `joinNetwork` moves a device that is in no third group. -/
theorem moved_of_joinNetworkTx {clock : JoinClock} {uid : DocId} {input : JoinNetworkInput} {decision : JoinDecision}
    {newDevice : Option NewDevice} (hparse : parseJoinNetworkInput r.payload.tokenId deviceId newDevice = .ok input)
    (htx : joinNetworkTx clock uid input cloud = (.ok decision, later))
    (hthird : ∀ b, (cloud.device b deviceId).isSome → tokenAccount r cloud = some b ∨
      uid = b ∧ (cloud.account b).isSome) :
    Moved r later deviceId decision.accountId ∧ uid ≠ decision.accountId := by
  obtain ⟨href, rfl⟩ := parseJoinNetworkInput_ok hparse
  have haccepts : JoinAccepts clock uid input cloud := joinAccepts_of_ok (by rw [htx]; rfl)
  obtain ⟨token, target, decision', t, g, htx', hacc, -, htok⟩ := joinNetworkTx_accepted haccepts
  obtain ⟨hdec, rfl⟩ := Prod.mk.inj (htx.symm.trans htx')
  obtain rfl := Except.ok.inj hdec
  have htoken : tokenAccount r cloud = some token.accountId := by simp [tokenAccount, href, g.found]
  have hafter : tokenAccount r later = some token.accountId := by simp [tokenAccount, href, htok]
  have hdevice := joinNetworkTx_device haccepts g.found
  rw [htx] at hdevice
  rw [hacc]
  refine ⟨⟨hafter, fun b => (hdevice b).trans ⟨?_, .inl⟩⟩, g.notSelf⟩
  rintro (rfl | ⟨hsome, hkept⟩)
  · rfl
  · rcases hthird b hsome with hb | ⟨rfl, haccount⟩
    · exact (Option.some.inj (htoken.symm.trans hb)).symm
    · exact absurd ⟨rfl, haccount⟩ hkept

end Cloud

/-! ### The invariant, place by place -/

/-- What `replace` has done to the key is still there, and no `clear` is running. -/
structure HoldsKey (phase : PairingPhase) (keys : GroupKeyRun) : Prop where
  sound : keys.Sound
  clears : ∀ c ∈ keys.calls, c.operation = .clear → c.phase = .finished
  replacing : ∀ deviceId result key call, phase = .replacing deviceId result key call → keys.Replacing call key
  installed : ∀ key, phase.installed = some key → keyIn keys.stored = some key ∧ keyShown keys.state = some key

structure HoldsDevice (r : PairingRequest) (phase : PairingPhase) (cloud : Store) : Prop where
  moved : ∀ deviceId a, phase.deviceId = some deviceId → phase.target = some a → Moved r cloud deviceId a
  sweeping : ∀ host deviceId uid decision, phase = .sweeping host deviceId uid decision → uid ≠ decision.accountId

/-- The id in memory is the persisted one, and the one that moves. -/
structure HoldsId (phase : PairingPhase) (identity : DeviceIdentityService) : Prop where
  persisted : ∀ deviceId, identity.cached = some deviceId → identity.stored = some deviceId
  cached : ∀ deviceId, phase.deviceId = some deviceId → identity.cached = some deviceId

structure HoldsUser (env : PairingEnv) (phase : PairingPhase) (user : Option DocId) : Prop where
  minted : ∀ result, phase.result = some result →
    env.join.customTokenMinter result.accountId = some result.customToken
  signedIn : ∀ deviceId result key, phase = .succeeded deviceId result key → user = some result.accountId

section Places
variable {env : PairingEnv} {r : PairingRequest} {phase : PairingPhase} {keys later : GroupKeyRun}
  {identity : DeviceIdentityService}

/-- The calls of the others leave the key of pairing alone. -/
theorem HoldsKey.step (h : HoldsKey phase keys) {e : KeyEvent} (hm : GroupKeyRun.Moves keys e later)
    (hstarts : ∀ operation, later = keys.start operation → operation ≠ .clear)
    (heffect : ∀ i c, e = .takeEffect i → keys.calls[i]? = some c → ∀ key, phase.written keys = some key →
      keyIn (c.operation.effect keys.stored) = some key)
    (hresume : ∀ i c, e = .resume i → keys.calls[i]? = some c → ∀ key, phase.shown keys = some key →
      c.left = some key) : HoldsKey phase later := by
  refine ⟨h.sound.step hm, ?_, ?_, ?_⟩
  · -- a call that goes on is no `clear`
    have hset : ∀ {i c}, keys.calls[i]? = some c → c.phase ≠ .finished → ∀ {phase' : KeyPhase},
        ∀ c' ∈ (keys.setPhase i c phase').calls, c'.operation = .clear → c'.phase = .finished := by
      intro i c hget hrunning phase' c' hc' hclear
      rcases List.mem_or_eq_of_mem_set hc' with hold | rfl
      · exact h.clears c' hold hclear
      · exact absurd (h.clears c (List.mem_of_getElem? hget) hclear) hrunning
    cases hm with
    | refused => exact h.clears
    | @started _ operation =>
      intro c hc hclear
      rcases List.mem_append.mp hc with hold | hnew
      · exact h.clears c hold hclear
      · obtain rfl := List.mem_singleton.mp hnew
        exact absurd hclear (hstarts operation rfl)
    | applied hcall hphase => exact hset hcall (by simp [hphase])
    | clearing hcall hclear hphase => exact hset hcall (by simp [hphase])
    | finished hcall hending hphase =>
      refine hset hcall ?_
      rcases hphase with hphase | hphase <;> simp [hphase]
  · rintro deviceId result key call rfl
    refine (h.replacing _ _ _ _ rfl).step h.sound hm (fun i c he hget hcall => heffect i c he hget key ?_)
      fun i c he hget hcall => hresume i c he hget key ?_
    · obtain ⟨phase, hrunning, -⟩ := (h.replacing _ _ _ _ rfl).running
      rw [hrunning] at hcall
      have hphase : phase ≠ .issued := fun heq => hcall (by rw [heq])
      simp [PairingPhase.written, hrunning, hphase]
    · simp [PairingPhase.shown, hcall]
  · intro key hkey
    have hwritten : phase.written keys = some key := by
      cases phase <;> first | exact hkey | cases hkey
    have hshown : phase.shown keys = some key := by
      cases phase <;> first | exact hkey | cases hkey
    exact ⟨GroupKeyRun.stored_of_moves hm (h.installed key hkey).1 fun i c he hget => heffect i c he hget key hwritten,
      GroupKeyRun.state_of_moves h.sound hm (h.installed key hkey).2 fun i c he hget => hresume i c he hget key hshown⟩

theorem HoldsKey.start (h : HoldsKey phase keys) {key : List UInt8} (hlen : key.length = groupKeyLengthBytes)
    {operation : KeyOperation} (hop : operation = .ensureForNewAccount key ∨ operation = .replace key) :
    HoldsKey phase (keys.start operation) := by
  have hm : GroupKeyRun.Moves keys (.replace key) (keys.start operation) := by
    refine .started (by simp) fun key' hkey' => ?_
    obtain rfl : key = key' := by
      rcases hop with rfl | rfl <;> simpa using hkey'
    exact hlen
  refine h.step hm (fun operation' heq => ?_) (by simp) (by simp)
  have hcalls := congrArg GroupKeyRun.calls heq
  simp only [GroupKeyRun.start, List.append_cancel_left_eq, List.cons.injEq, KeyCall.mk.injEq, and_true] at hcalls
  rcases hop with rfl | rfl <;> simp [← hcalls]

/-- `ensureDeviceId` answers with the id in memory from then on. -/
theorem HoldsId.ensureDeviceId (h : HoldsId phase identity) {written : Bool} {fresh deviceId : DocId}
    {ensured : DeviceIdentityService} (he : identity.ensureDeviceId written fresh = some (deviceId, ensured)) :
    HoldsId phase ensured ∧ ensured.cached = some deviceId := by
  obtain ⟨cached, stored⟩ := identity
  cases cached with
  | some cached =>
    obtain ⟨rfl, rfl⟩ := Prod.mk.inj (Option.some.inj he)
    exact ⟨h, rfl⟩
  | none =>
    -- no id is in memory, so pairing has none yet
    have hnone : ∀ deviceId, phase.deviceId ≠ some deviceId := fun deviceId hid => by cases h.cached deviceId hid
    cases stored with
    | some stored =>
      obtain ⟨rfl, rfl⟩ := Prod.mk.inj (Option.some.inj he)
      exact ⟨⟨fun _ => id, fun deviceId hid => absurd hid (hnone deviceId)⟩, rfl⟩
    | none =>
      cases written with
      | false => cases he
      | true =>
        obtain ⟨rfl, rfl⟩ := Prod.mk.inj (Option.some.inj he)
        exact ⟨⟨fun _ => id, fun deviceId hid => absurd hid (hnone deviceId)⟩, rfl⟩

/-- Up to the key nothing is held of it. -/
theorem HoldsKey.unreplaced (h : HoldsKey phase keys) {next : PairingPhase} (hinstalled : next.installed = none)
    (hreplacing : ∀ deviceId result key call, next ≠ .replacing deviceId result key call) : HoldsKey next keys := by
  refine ⟨h.sound, h.clears, fun _ _ _ _ heq => absurd heq (hreplacing _ _ _ _), fun key hkey => ?_⟩
  rw [hinstalled] at hkey
  cases hkey

/-- A device that has moved, in any phase after the move. -/
theorem Moved.holds {r : PairingRequest} {cloud : Store} {deviceId a : DocId} (h : Moved r cloud deviceId a)
    (hid : phase.deviceId = some deviceId) (htarget : phase.target = some a)
    (hsweeping : ∀ host deviceId uid decision, phase = .sweeping host deviceId uid decision → uid ≠ decision.accountId) :
    HoldsDevice r phase cloud := by
  refine ⟨fun d b hd hb => ?_, hsweeping⟩
  obtain rfl := Option.some.inj (hid.symm.trans hd)
  obtain rfl := Option.some.inj (htarget.symm.trans hb)
  exact h

theorem HoldsId.of_cached (h : HoldsId phase identity) {next : PairingPhase} {deviceId : DocId}
    (hid : next.deviceId = some deviceId) (hcached : identity.cached = some deviceId) : HoldsId next identity := by
  refine ⟨h.persisted, fun d hd => ?_⟩
  obtain rfl := Option.some.inj (hid.symm.trans hd)
  exact hcached

/-- Nothing is held of the user before `joinNetwork` has answered. -/
theorem holdsUser_unanswered {env : PairingEnv} {user : Option DocId} (hnone : phase.result = none) :
    HoldsUser env phase user := by
  refine ⟨fun _ hresult => ?_, fun _ _ _ hphase => ?_⟩
  · rw [hnone] at hresult
    cases hresult
  · rw [hphase] at hnone
    cases hnone

end Places
end MagicShare.Account
