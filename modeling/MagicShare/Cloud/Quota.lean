import MagicShare.Cloud.Fields

/-! The send quota over whole runs.

The times of a device's sends are a field of its document, so the quota is the
document's. `metered` runs the calls beside a bookkeeper that gives every new
device document a lineage, lets a moved document keep its lineage, and notes
every charge. One lineage is charged at most 30 times in any hour
(`quota_of_lineage`); a device that is removed and registered again starts a new
one (`quota_restarts`). -/
namespace MagicShare.Cloud

/-- A committed `notifyTransferIntent`. -/
structure Charge where
  lineage : Nat
  device : DocId
  time : Timestamp
  deriving DecidableEq

/-- The store, the last clock read, the lineage of every device document, the
next unused lineage, and every charge so far. -/
structure Metered where
  store : Store
  clock : Timestamp
  lineage : DocId → DocId → Nat
  next : Nat
  charges : List Charge

namespace Metered

/-- The document under `accounts/{a}/devices/{d}` is a new one. -/
def renew (m : Metered) (a d : DocId) : Metered :=
  {m with lineage := fun a' d' => if a' = a ∧ d' = d then m.next else m.lineage a' d'
          next := m.next + 1}

/-- The document of `d` moves from `a` to `b`. -/
def carry (m : Metered) (a b d : DocId) : Metered :=
  {m with lineage := fun a' d' => if a' = b ∧ d' = d then m.lineage a d else m.lineage a' d'}

/-- The document of `d` under `a` is charged. -/
def charge (m : Metered) (a d : DocId) (now : Timestamp) : Metered :=
  {m with charges := m.charges ++ [⟨m.lineage a d, d, now⟩]}

/-- What the bookkeeper notes about a call, from what the call reports. -/
def note (m : Metered) : Call → Metered
  | .registerDevice now uid input =>
    match (registerDeviceLogic now uid input m.store).1 with
    | .ok ⟨true⟩ => m.renew uid input.deviceId
    | _ => m
  | .joinNetwork env uid input =>
    if env.transaction then
      match (joinNetworkTx env.clock uid input m.store).1 with
      | .ok decision =>
        if decision.hadSourceAccount then m.carry uid decision.accountId input.deviceId
        else m.renew decision.accountId input.deviceId
      | .error _ => m
    else m
  | .notifyTransferIntent now _ uid input =>
    match (notifyTransferIntentTx now uid input m.store).1 with
    | .ok _ => m.charge uid input.sourceDeviceId now
    | .error _ => m
  | _ => m

/-- The store and the clock move on. -/
def settle (m : Metered) (s : Store) (now : Timestamp) : Metered := {m with store := s, clock := now}

/-- The times a lineage was charged at. -/
def sends (m : Metered) (l : Nat) : List Timestamp :=
  (m.charges.filter fun e => decide (e.lineage = l)).map Charge.time

/-- The times a device id was charged at, whatever its documents. -/
def sendsOf (m : Metered) (d : DocId) : List Timestamp :=
  (m.charges.filter fun e => decide (e.device = d)).map Charge.time

end Metered

/-- The clock a call reads; `deleteAccount` reads none. -/
def Call.clock : Call → Option Timestamp
  | .createAccount now _ | .registerDevice now _ _ | .renameDevice now _ _ | .setDeviceIcon now _ _
  | .removeDevice now _ _ | .createJoinToken now _ _ _ | .notifyTransferIntent now _ _ _ => some now
  | .joinNetwork env _ _ => some env.clock.now
  | .deleteAccount _ => none

/-- Runs of calls from the empty store in which the clock never goes back. -/
def metered (start : Timestamp) : Transition.System Metered Call where
  init := ⟨.empty, start, fun _ _ => 0, 0, []⟩
  step m c :=
    let now := c.clock.getD m.clock
    if m.clock ≤ now then some ((m.note c).settle (c.apply m.store) now) else none

/-- The notes agree with the store. -/
structure Metered.Sound (m : Metered) : Prop where
  known : ∀ e ∈ m.charges, e.lineage < m.next
  live : ∀ {a d doc}, m.store.device a d = some doc → m.lineage a d < m.next
  apart : ∀ {a d a' d' doc doc'}, m.store.device a d = some doc → m.store.device a' d' = some doc' →
    m.lineage a d = m.lineage a' d' → a = a' ∧ d = d'
  /-- A document remembers the charges of its lineage since some cut. -/
  recent : ∀ {a d doc}, m.store.device a d = some doc → ∃ cut ≤ m.clock,
    doc.recentSendsAt.getD [] = SlidingWindow.recent rateLimitWindowMs cut (m.sends (m.lineage a d))
  quota : ∀ l t, (SlidingWindow.within rateLimitWindowMs t (m.sends l)).length ≤ sendRateLimitPerHour

namespace Metered

@[simp] theorem note_store (m : Metered) (c : Call) : (m.note c).store = m.store := by
  unfold note
  split
  · split <;> rfl
  · split
    · split
      · split <;> rfl
      · rfl
    · rfl
  · split <;> rfl
  · rfl

theorem sends_charge (m : Metered) (a d : DocId) (now : Timestamp) (l : Nat) :
    (m.charge a d now).sends l = if m.lineage a d = l then m.sends l ++ [now] else m.sends l := by
  unfold sends charge
  by_cases h : m.lineage a d = l <;> simp [List.filter_append, h]

namespace Sound
variable {m : Metered} {s : Store} {now : Timestamp}

/-- A lineage that was never given out was never charged. -/
theorem sends_next (h : m.Sound) : m.sends m.next = [] := by
  unfold sends
  rw [List.map_eq_nil_iff, List.filter_eq_nil_iff]
  intro e he
  have := h.known e he
  simp only [decide_eq_true_eq]
  omega

/-- A step that writes no sends. -/
theorem settle (h : m.Sound) (hnow : m.clock ≤ now)
    (hdocs : ∀ a d doc, s.device a d = some doc →
      ∃ old, m.store.device a d = some old ∧ doc.recentSendsAt = old.recentSendsAt) :
    (m.settle s now).Sound where
  known := h.known
  live hd := by
    obtain ⟨old, hold, _⟩ := hdocs _ _ _ hd
    exact h.live hold
  apart hd hd' heq := by
    obtain ⟨old, hold, _⟩ := hdocs _ _ _ hd
    obtain ⟨old', hold', _⟩ := hdocs _ _ _ hd'
    exact h.apart hold hold' heq
  recent hd := by
    obtain ⟨old, hold, hsame⟩ := hdocs _ _ _ hd
    obtain ⟨cut, hcut, heq⟩ := h.recent hold
    exact ⟨cut, hcut.trans hnow, by rw [hsame, heq]; rfl⟩
  quota := h.quota

/-- A new document starts a lineage with no charges. -/
theorem renew (h : m.Sound) (hnow : m.clock ≤ now) {a d : DocId}
    (hdocs : ∀ a' d' doc, s.device a' d' = some doc → (a' = a ∧ d' = d ∧ doc.recentSendsAt = none) ∨
      (¬ (a' = a ∧ d' = d) ∧
        ∃ old, m.store.device a' d' = some old ∧ doc.recentSendsAt = old.recentSendsAt)) :
    ((m.renew a d).settle s now).Sound where
  known e he := Nat.lt_succ_of_lt (h.known e he)
  live {a' d' doc} hd := by
    show (if a' = a ∧ d' = d then m.next else m.lineage a' d') < m.next + 1
    rcases hdocs _ _ _ hd with ⟨rfl, rfl, _⟩ | ⟨hne, old, hold, _⟩
    · simp
    · rw [if_neg hne]
      exact Nat.lt_succ_of_lt (h.live hold)
  apart {b e b' e' doc doc'} hd hd' heq := by
    change (if b = a ∧ e = d then m.next else m.lineage b e) =
      (if b' = a ∧ e' = d then m.next else m.lineage b' e') at heq
    rcases hdocs _ _ _ hd with ⟨rfl, rfl, _⟩ | ⟨hne, old, hold, _⟩
    · rcases hdocs _ _ _ hd' with ⟨rfl, rfl, _⟩ | ⟨hne', old', hold', _⟩
      · exact ⟨rfl, rfl⟩
      · have := h.live hold'
        simp only [and_self, if_true, if_neg hne'] at heq
        omega
    · rcases hdocs _ _ _ hd' with ⟨rfl, rfl, _⟩ | ⟨hne', old', hold', _⟩
      · have := h.live hold
        simp only [and_self, if_true, if_neg hne] at heq
        omega
      · rw [if_neg hne, if_neg hne'] at heq
        exact h.apart hold hold' heq
  recent {b e doc} hd := by
    show ∃ cut ≤ now, _ = SlidingWindow.recent _ cut
      (m.sends (if b = a ∧ e = d then m.next else m.lineage b e))
    rcases hdocs _ _ _ hd with ⟨rfl, rfl, hnone⟩ | ⟨hne, old, hold, hsame⟩
    · refine ⟨now, le_refl now, ?_⟩
      simp [hnone, h.sends_next, SlidingWindow.recent]
    · obtain ⟨cut, hcut, heq⟩ := h.recent hold
      refine ⟨cut, hcut.trans hnow, ?_⟩
      rw [if_neg hne, hsame, heq]
  quota := h.quota

/-- A moved document takes its lineage and its sends along. -/
theorem carry (h : m.Sound) (hnow : m.clock ≤ now) {a b d : DocId} {moved : DeviceDoc}
    (hmoved : m.store.device a d = some moved)
    (hdocs : ∀ a' d' doc, s.device a' d' = some doc →
      (a' = b ∧ d' = d ∧ doc.recentSendsAt = moved.recentSendsAt) ∨
      (¬ (a' = b ∧ d' = d) ∧ ¬ (a' = a ∧ d' = d) ∧
        ∃ old, m.store.device a' d' = some old ∧ doc.recentSendsAt = old.recentSendsAt)) :
    ((m.carry a b d).settle s now).Sound where
  known := h.known
  live {a' d' doc} hd := by
    show (if a' = b ∧ d' = d then m.lineage a d else m.lineage a' d') < m.next
    rcases hdocs _ _ _ hd with ⟨rfl, rfl, _⟩ | ⟨hne, _, old, hold, _⟩
    · simpa using h.live hmoved
    · rw [if_neg hne]
      exact h.live hold
  apart {x e x' e' doc doc'} hd hd' heq := by
    change (if x = b ∧ e = d then m.lineage a d else m.lineage x e) =
      (if x' = b ∧ e' = d then m.lineage a d else m.lineage x' e') at heq
    rcases hdocs _ _ _ hd with ⟨rfl, rfl, _⟩ | ⟨hne, hsrc, old, hold, _⟩
    · rcases hdocs _ _ _ hd' with ⟨rfl, rfl, _⟩ | ⟨hne', hsrc', old', hold', _⟩
      · exact ⟨rfl, rfl⟩
      · simp only [and_self, if_true, if_neg hne'] at heq
        obtain ⟨rfl, rfl⟩ := h.apart hmoved hold' heq
        exact absurd ⟨rfl, rfl⟩ hsrc'
    · rcases hdocs _ _ _ hd' with ⟨rfl, rfl, _⟩ | ⟨hne', hsrc', old', hold', _⟩
      · simp only [and_self, if_true, if_neg hne] at heq
        obtain ⟨rfl, rfl⟩ := h.apart hold hmoved heq
        exact absurd ⟨rfl, rfl⟩ hsrc
      · rw [if_neg hne, if_neg hne'] at heq
        exact h.apart hold hold' heq
  recent {x e doc} hd := by
    show ∃ cut ≤ now, _ = SlidingWindow.recent _ cut
      (m.sends (if x = b ∧ e = d then m.lineage a d else m.lineage x e))
    rcases hdocs _ _ _ hd with ⟨rfl, rfl, hsame⟩ | ⟨hne, _, old, hold, hsame⟩
    · obtain ⟨cut, hcut, heq⟩ := h.recent hmoved
      refine ⟨cut, hcut.trans hnow, ?_⟩
      rw [if_pos ⟨rfl, rfl⟩, hsame, heq]
    · obtain ⟨cut, hcut, heq⟩ := h.recent hold
      refine ⟨cut, hcut.trans hnow, ?_⟩
      rw [if_neg hne, hsame, heq]
  quota := h.quota

/-- A charge joins the charges of the last hour, of which there were fewer than
30. -/
theorem charge (h : m.Sound) (hnow : m.clock ≤ now) {a d : DocId} {source : DeviceDoc}
    (hsource : m.store.device a d = some source)
    (hroom : (trimmed source.recentSendsAt now).length < sendRateLimitPerHour)
    (hdocs : ∀ a' d' doc, s.device a' d' = some doc →
      (a' = a ∧ d' = d ∧ doc.recentSendsAt = some (trimmed source.recentSendsAt now ++ [now])) ∨
      (¬ (a' = a ∧ d' = d) ∧
        ∃ old, m.store.device a' d' = some old ∧ doc.recentSendsAt = old.recentSendsAt)) :
    ((m.charge a d now).settle s now).Sound := by
  -- What the document remembers, trimmed, is the last hour of the lineage.
  obtain ⟨cut, hcut, heq⟩ := h.recent hsource
  have htrim : trimmed source.recentSendsAt now =
      SlidingWindow.recent rateLimitWindowMs now (m.sends (m.lineage a d)) := by
    rw [trimmed_eq, heq, SlidingWindow.recent_recent _ (hcut.trans hnow)]
  have hold : ∀ {a' d' doc}, s.device a' d' = some doc → ∃ old, m.store.device a' d' = some old := by
    intro a' d' doc hd
    rcases hdocs _ _ _ hd with ⟨rfl, rfl, _⟩ | ⟨_, old, ho, _⟩
    · exact ⟨source, hsource⟩
    · exact ⟨old, ho⟩
  refine ⟨?_, ?_, ?_, ?_, ?_⟩
  · intro e he
    rcases List.mem_append.mp he with he | he
    · exact h.known e he
    · obtain rfl := List.mem_singleton.mp he
      exact h.live hsource
  · intro a' d' doc hd
    obtain ⟨old, ho⟩ := hold hd
    exact h.live ho
  · intro b e b' e' doc doc' hd hd' hl
    obtain ⟨old, ho⟩ := hold hd
    obtain ⟨old', ho'⟩ := hold hd'
    exact h.apart ho ho' hl
  · intro b e doc hd
    show ∃ cut ≤ now, _ = SlidingWindow.recent _ cut ((m.charge a d now).sends (m.lineage b e))
    rw [sends_charge]
    rcases hdocs _ _ _ hd with ⟨rfl, rfl, hsends⟩ | ⟨hne, old, ho, hsame⟩
    · refine ⟨now, le_refl now, ?_⟩
      rw [if_pos rfl, hsends, Option.getD_some, htrim, SlidingWindow.recent_append_self _ (by decide)]
    · obtain ⟨cut', hcut', heq'⟩ := h.recent ho
      have hl : m.lineage a d ≠ m.lineage b e := by
        intro hl
        obtain ⟨rfl, rfl⟩ := h.apart hsource ho hl
        exact hne ⟨rfl, rfl⟩
      refine ⟨cut', hcut'.trans hnow, ?_⟩
      rw [if_neg hl, hsame, heq']
  · intro l t
    show (SlidingWindow.within _ t ((m.charge a d now).sends l)).length ≤ _
    rw [sends_charge]
    split
    · next hl =>
      subst hl
      rw [htrim] at hroom
      exact SlidingWindow.within_append_le _ hroom (h.quota _) t
    · exact h.quota l t

/-! ### One call -/

/-- A call that charges nothing and makes no document. -/
theorem of_written (h : m.Sound) (hnow : m.clock ≤ now) (c : Call)
    (hr : ∀ t uid input, c ≠ .registerDevice t uid input)
    (hj : ∀ env uid input, c ≠ .joinNetwork env uid input)
    (hn : ∀ t messaging uid input, c ≠ .notifyTransferIntent t messaging uid input) :
    ((m.note c).settle (c.apply m.store) now).Sound := by
  have hnote : m.note c = m := by
    cases c with
    | registerDevice t uid input => exact absurd rfl (hr t uid input)
    | joinNetwork env uid input => exact absurd rfl (hj env uid input)
    | notifyTransferIntent t messaging uid input => exact absurd rfl (hn t messaging uid input)
    | _ => rfl
  rw [hnote]
  refine h.settle hnow fun a d doc hd => ?_
  cases Written.of_apply c hd with
  | kept hold => exact ⟨doc, hold, rfl⟩
  | created hc _ _ => exact absurd hc (hr _ _ _)
  | refreshed hc _ _ => exact absurd hc (hr _ _ _)
  | renamed _ _ hold => exact ⟨_, hold, rfl⟩
  | iconSet _ _ hold => exact ⟨_, hold, rfl⟩
  | charged hc _ _ _ => exact absurd hc (hn _ _ _ _)
  | joined hc _ _ _ _ _ => exact absurd hc (hj _ _ _)

theorem register (h : m.Sound) (hnow : m.clock ≤ now) (t : Timestamp) (uid : DocId)
    (input : RegisterDeviceInput) :
    ((m.note (.registerDevice t uid input)).settle
      ((Call.registerDevice t uid input).apply m.store) now).Sound := by
  simp only [note, Call.apply]
  rcases registerDeviceLogic_cases t uid input m.store with
    ⟨_, e, hr⟩ | ⟨account, _, hnone, hr⟩ | ⟨account, old, _, hold, hr⟩
  · rw [hr]
    exact h.settle hnow fun a d doc hd => ⟨doc, hd, rfl⟩
  · rw [hr]
    refine h.renew hnow fun a d doc hd => ?_
    rcases device_of_put hd with ⟨rfl, rfl, rfl⟩ | ⟨hne, hd⟩
    · exact .inl ⟨rfl, rfl, rfl⟩
    · exact .inr ⟨hne, doc, hd, rfl⟩
  · rw [hr]
    refine h.settle hnow fun a d doc hd => ?_
    rcases device_of_put hd with ⟨rfl, rfl, rfl⟩ | ⟨_, hd⟩
    · exact ⟨old, hold, rfl⟩
    · exact ⟨doc, hd, rfl⟩

theorem notify (h : m.Sound) {messaging : Message → Bool} {uid : DocId}
    {input : NotifyTransferIntentInput} (hnow : m.clock ≤ now) :
    ((m.note (.notifyTransferIntent now messaging uid input)).settle
      ((Call.notifyTransferIntent now messaging uid input).apply m.store) now).Sound := by
  simp only [note, Call.apply, notifyTransferIntentLogic_store]
  rcases notifyTransferIntentTx_cases now uid input m.store with
    ⟨e, hr⟩ | ⟨account, source, target, _, hsrc, _, hroom, hr⟩
  · rw [hr]
    exact h.settle hnow fun a d doc hd => ⟨doc, hd, rfl⟩
  · rw [hr]
    refine h.charge hnow hsrc hroom fun a d doc hd => ?_
    rcases device_of_put hd with ⟨rfl, rfl, rfl⟩ | ⟨hne, hd⟩
    · exact .inl ⟨rfl, rfl, rfl⟩
    · exact .inr ⟨hne, doc, hd, rfl⟩

/-- The documents after a join: the one it brought, and others that were there,
never the source's. -/
theorem join_docs {env : JoinEnv} {uid : DocId} {input : JoinNetworkInput} {token : JoinTokenDoc}
    {target : AccountDoc} {doc : DeviceDoc} {left : Store}
    (hsrc : JoinSource env.clock.now uid input m.store doc left) {a d : DocId} {v : DeviceDoc}
    (hd : (joinTarget env.clock input token target doc left).device a d = some v) :
    (a = token.accountId ∧ d = input.deviceId ∧ v = doc) ∨
      (¬ (a = token.accountId ∧ d = input.deviceId) ∧
        ((m.store.account uid).isSome → ¬ (a = uid ∧ d = input.deviceId)) ∧
        m.store.device a d = some v) := by
  rcases device_of_put hd with hnew | ⟨hne, hold⟩
  · exact .inl hnew
  · refine .inr ⟨hne, ?_, hsrc.device_le hold⟩
    rintro ha ⟨rfl, rfl⟩
    have hgone : left.device a input.deviceId = some v := hold
    rw [hsrc.device_source ha] at hgone
    cases hgone

/-- A join from a source account carries the document's lineage. -/
theorem join_moved (h : m.Sound) (hnow : m.clock ≤ now) {env : JoinEnv} {uid : DocId}
    {input : JoinNetworkInput} {token : JoinTokenDoc} {target : AccountDoc} {doc : DeviceDoc}
    {left : Store} (hsrc : JoinSource env.clock.now uid input m.store doc left)
    (ha : (m.store.account uid).isSome) (hd : m.store.device uid input.deviceId = some doc) :
    ((m.carry uid token.accountId input.deviceId).settle
      (joinTarget env.clock input token target doc left) now).Sound := by
  refine h.carry hnow hd fun a d v hv => ?_
  rcases join_docs hsrc hv with ⟨rfl, rfl, rfl⟩ | ⟨hne, hgone, hold⟩
  · exact .inl ⟨rfl, rfl, rfl⟩
  · exact .inr ⟨hne, hgone ha, v, hold, rfl⟩

theorem join (h : m.Sound) (hnow : m.clock ≤ now) (env : JoinEnv) (uid : DocId)
    (input : JoinNetworkInput) :
    ((m.note (.joinNetwork env uid input)).settle
      ((Call.joinNetwork env uid input).apply m.store) now).Sound := by
  simp only [note, Call.apply]
  rcases joinNetworkLogic_cases env uid input m.store with
    ⟨hn, hr⟩ | ⟨hc, token, target, doc, left, g, hsrc, hr⟩
  · -- Not accepted: the bookkeeper sees a rejection or no transaction at all.
    have hsame : (m.settle m.store now).Sound := h.settle hnow fun a d v hd => ⟨v, hd, rfl⟩
    rw [hr]
    by_cases ht : env.transaction = true
    · obtain ⟨e, he⟩ := joinNetworkTx_rejects fun ha => hn ⟨ht, ha⟩
      simpa [ht, he] using hsame
    · simpa [ht] using hsame
  · rw [hr, if_pos hc.1]
    cases hsrc with
    | survivor ha hd hcount =>
      rw [joinNetworkTx_survivor g ha hd hcount]
      exact h.join_moved hnow (.survivor ha hd hcount) (by simp [ha]) hd
    | last ha hd hcount =>
      rw [joinNetworkTx_last g ha hd hcount]
      exact h.join_moved hnow (.last ha hd hcount) (by simp [ha]) hd
    | welcome ha hn =>
      rw [joinNetworkTx_welcome g ha hn]
      refine h.renew hnow fun a d v hv => ?_
      rcases join_docs (.welcome ha hn) hv with ⟨rfl, rfl, rfl⟩ | ⟨hne, _, hold⟩
      · exact .inl ⟨rfl, rfl, rfl⟩
      · exact .inr ⟨hne, v, hold, rfl⟩

end Sound

/-- Every call keeps the notes in agreement with the store. -/
theorem Sound.step {start : Timestamp} {m m' : Metered} {c : Call} (h : m.Sound)
    (hst : (metered start).step m c = some m') : m'.Sound := by
  simp only [metered] at hst
  split at hst
  · next hnow =>
    obtain rfl := Option.some.inj hst
    generalize hclock : c.clock.getD m.clock = now at hnow
    cases c with
    | registerDevice t uid input => exact h.register hnow t uid input
    | joinNetwork env uid input => exact h.join hnow env uid input
    | notifyTransferIntent t messaging uid input =>
      obtain rfl : t = now := hclock
      exact h.notify hnow
    | createAccount t uid => exact h.of_written hnow _ (by simp) (by simp) (by simp)
    | renameDevice t uid input => exact h.of_written hnow _ (by simp) (by simp) (by simp)
    | setDeviceIcon t uid input => exact h.of_written hnow _ (by simp) (by simp) (by simp)
    | removeDevice t uid input => exact h.of_written hnow _ (by simp) (by simp) (by simp)
    | createJoinToken t tokenId uid input => exact h.of_written hnow _ (by simp) (by simp) (by simp)
    | deleteAccount uid => exact h.of_written hnow _ (by simp) (by simp) (by simp)
  · cases hst

theorem sound_init (start : Timestamp) : (metered start).init.Sound where
  known e he := nomatch he
  live hd := by simp [metered] at hd
  apart hd := by simp [metered] at hd
  recent hd := by simp [metered] at hd
  quota l t := by simp [metered, sends, SlidingWindow.within]

theorem sound_of_reachable {start : Timestamp} {m : Metered} (h : (metered start).Reachable m) :
    m.Sound :=
  h.invariant (sound_init start) fun _ _ _ hs hst => hs.step hst

end Metered

/-- **The send quota.** In every run, one lineage is charged at most 30 times in
any hour. -/
theorem quota_of_lineage {start : Timestamp} {m : Metered} (h : (metered start).Reachable m) (l : Nat)
    (t : Timestamp) :
    (SlidingWindow.within rateLimitWindowMs t (m.sends l)).length ≤ sendRateLimitPerHour :=
  (Metered.sound_of_reachable h).quota l t

namespace Resend

def group : DocId := ⟨"office", by decide, by decide⟩
def sender : DocId := ⟨"sender", by decide, by decide⟩
def receiver : DocId := ⟨"receiver", by decide, by decide⟩

def register (now : Timestamp) (d : DocId) : Call :=
  .registerDevice now group ⟨d, "Laptop", .laptop, none, .linux, none⟩

def notify (now : Timestamp) : Call :=
  .notifyTransferIntent now (fun _ => true) group ⟨sender, receiver, .file⟩

/-- A group of two whose sender uses its quota up. -/
def sent : List Call :=
  [.createAccount 0 group, register 0 receiver, register 0 sender] ++ List.replicate 30 (notify 1)

/-- The sender is removed and registered again, and sends once more. -/
def again : List Call := [.removeDevice 1 group ⟨sender⟩, register 1 sender, notify 1]

def runFrom (calls : List Call) : Option Metered := (metered 0).run (metered 0).init calls

/-- In the last hour of a run: the charges of the sender, and of its first
lineage. -/
def tally (m : Metered) : Nat × Nat :=
  ((SlidingWindow.within rateLimitWindowMs 1 (m.sendsOf sender)).length,
    (SlidingWindow.within rateLimitWindowMs 1 (m.sends 1)).length)

theorem tally_sent : (runFrom sent).map tally = some (30, 30) := by decide +kernel
theorem tally_again : (runFrom (sent ++ again)).map tally = some (31, 30) := by decide +kernel

end Resend

/-- The lineage whose quota is used up holds exactly its 30. -/
theorem quota_of_lineage_sent :
    ∃ m, Resend.runFrom Resend.sent = some m ∧
      (SlidingWindow.within rateLimitWindowMs 1 (m.sends 1)).length ≤ sendRateLimitPerHour ∧
      Resend.tally m = (30, 30) := by
  obtain ⟨m, hm, htally⟩ := Option.map_eq_some_iff.mp Resend.tally_sent
  exact ⟨m, hm, quota_of_lineage ⟨Resend.sent, hm⟩ 1 1, htally⟩

/-- Removed and registered again, a device sends a 31st time in the hour. -/
theorem quota_restarts :
    ¬ ∀ (start : Timestamp) (m : Metered), (metered start).Reachable m → ∀ (d : DocId) (t : Timestamp),
      (SlidingWindow.within rateLimitWindowMs t (m.sendsOf d)).length ≤ sendRateLimitPerHour := by
  intro h
  obtain ⟨m, hm, htally⟩ := Option.map_eq_some_iff.mp Resend.tally_again
  have hle := h 0 m ⟨Resend.sent ++ Resend.again, hm⟩ Resend.sender 1
  rw [(Prod.mk.inj htally).1] at hle
  exact absurd hle (by decide)

end MagicShare.Cloud
