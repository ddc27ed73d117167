import MagicShare.Account.GroupKey
import MagicShare.Account.Identity

/-! The device id of an installation whose group is cleared: the group key service and the
device identity service as the app wires them.

`clear` empties the slot of the id but not the memory of the identity service: nobody calls
its `invalidate`. So after a `clear` callers are given ids that nobody had before, and the
ones in the slot, exactly as long as `ensureDeviceId` does not find in memory an id that is
not the one in the slot (`cleared_iff`). -/
namespace MagicShare.Account

namespace DeviceIdentity
variable {α : Type} {s t : DeviceIdentity α} {e : IdentityEvent α} {id : α} {r : Nat}

/-! ### Who has an id -/

/-- Somebody has the id, other than the resolution that writes it. -/
def Shared (s : DeviceIdentity α) (id : α) : Prop :=
  s.cached = some id ∨ .returned id ∈ s.calls ∨ .completed id ∈ s.resolutions ∨
    ∃ phase ∈ s.adoptions, phase.deviceId = some id

/-- The fresh ids that are being written. -/
def minting (s : DeviceIdentity α) : List α :=
  s.resolutions.filterMap fun | .writing id _ => some id | _ => none

/-- The id of a resolution, once it has been in the slot. -/
def landedId : ResolutionPhase α → Option α
  | .writing id true | .completed id => some id
  | _ => none

/-- The ids that callers wait for and that have been in the slot. -/
def expected (s : DeviceIdentity α) : List α :=
  s.calls.filterMap fun
    | .waiting resolution => s.resolutions[resolution]?.bind landedId
    | _ => none

/-- Nobody has had an id that is made, and the cloud has only ids that were given out. -/
def Generates (s : DeviceIdentity α) : IdentityEvent α → Prop
  | .ensureDeviceId fresh => s.Mints → fresh ∉ s.ids
  | .found _ (some existing) => existing ∉ s.minting
  | _ => True

instance [DecidableEq α] (s : DeviceIdentity α) : (e : IdentityEvent α) → Decidable (s.Generates e)
  | .ensureDeviceId fresh => inferInstanceAs (Decidable (s.Mints → fresh ∉ s.ids))
  | .found _ (some existing) => inferInstanceAs (Decidable (existing ∉ s.minting))
  | .found _ none | .landed _ | .written _ | .writeFails _ | .cleared _ | .answered _ | .lookUp | .adoptionLanded _
  | .adopted _ | .adoptionFails _ => .isTrue trivial

theorem mem_minting : id ∈ s.minting ↔ ∃ landed, .writing id landed ∈ s.resolutions := by
  rw [minting, List.mem_filterMap]
  constructor
  · intro ⟨phase, hmem, hid⟩
    cases phase with
    | writing other landed =>
      obtain rfl := Option.some.inj hid
      exact ⟨landed, hmem⟩
    | completed | failed => cases hid
  · intro ⟨landed, hmem⟩
    exact ⟨_, hmem, rfl⟩

theorem mem_expected : id ∈ s.expected ↔
    ∃ r, .waiting r ∈ s.calls ∧ ∃ phase, s.resolutions[r]? = some phase ∧ landedId phase = some id := by
  rw [expected, List.mem_filterMap]
  constructor
  · intro ⟨call, hmem, hid⟩
    cases call with
    | waiting r =>
      obtain ⟨phase, hget, hlanded⟩ := Option.bind_eq_some_iff.mp hid
      exact ⟨r, hmem, phase, hget, hlanded⟩
    | returned | threw => cases hid
  · intro ⟨r, hmem, phase, hget, hlanded⟩
    exact ⟨_, hmem, Option.bind_eq_some_iff.mpr ⟨phase, hget, hlanded⟩⟩

theorem Shared.mem_ids (h : s.Shared id) : id ∈ s.ids := by
  rcases h with h | h | h | h
  · exact DeviceIdentity.mem_ids.mpr (.inr (.inl h))
  · exact DeviceIdentity.mem_ids.mpr (.inr (.inr (.inl h)))
  · exact DeviceIdentity.mem_ids.mpr (.inr (.inr (.inr (.inl ⟨_, h, rfl⟩))))
  · exact DeviceIdentity.mem_ids.mpr (.inr (.inr (.inr (.inr h))))

/-! ### What a step makes of them -/

/-- The four cases of a call, by what is in memory, in flight and in the slot. -/
theorem ensureDeviceId_cases (s : DeviceIdentity α) (fresh : α) :
    (∃ cached, s.cached = some cached ∧ s.ensureDeviceId fresh = {s with calls := s.calls ++ [.returned cached]}) ∨
    (∃ resolution, s.cached = none ∧ s.inFlight = some resolution ∧
      s.ensureDeviceId fresh = {s with calls := s.calls ++ [.waiting resolution]}) ∨
    (∃ stored, s.cached = none ∧ s.inFlight = none ∧ s.stored = some stored ∧ s.ensureDeviceId fresh = {s with
      cached := some stored
      inFlight := some s.resolutions.length
      resolutions := s.resolutions ++ [.completed stored]
      calls := s.calls ++ [.waiting s.resolutions.length]}) ∨
    (s.Mints ∧ s.ensureDeviceId fresh = {s with
      inFlight := some s.resolutions.length
      resolutions := s.resolutions ++ [.writing fresh false]
      calls := s.calls ++ [.waiting s.resolutions.length]}) := by
  cases hcached : s.cached with
  | some cached => exact .inl ⟨cached, rfl, by simp [ensureDeviceId, hcached]⟩
  | none =>
    cases hflying : s.inFlight with
    | some resolution => exact .inr (.inl ⟨resolution, rfl, rfl, by simp [ensureDeviceId, hcached, hflying]⟩)
    | none =>
      cases hstored : s.stored with
      | some stored =>
        exact .inr (.inr (.inl ⟨stored, rfl, rfl, rfl, by simp [ensureDeviceId, hcached, hflying, hstored]⟩))
      | none =>
        exact .inr (.inr (.inr ⟨⟨hcached, hflying, hstored⟩, by simp [ensureDeviceId, hcached, hflying, hstored]⟩))

/-- A call that is answered waited for the resolution that has ended. -/
theorem answered_spec {c : Nat} (h : s.step (.answered c) = some t) :
    ∃ r call phase, s.calls[c]? = some (.waiting r) ∧ s.resolutions[r]? = some phase ∧
      t = {s with calls := s.calls.set c call} ∧
      ((∃ id, phase = .completed id ∧ call = .returned id) ∨ phase = .failed ∧ call = .threw) := by
  simp only [step] at h
  split at h
  · next r hcall =>
    split at h
    · next id hget =>
      obtain rfl := Option.some.inj h
      exact ⟨r, _, _, hcall, hget, rfl, .inl ⟨id, rfl, rfl⟩⟩
    · next hget =>
      obtain rfl := Option.some.inj h
      exact ⟨r, _, _, hcall, hget, rfl, .inr ⟨rfl, rfl⟩⟩
    · cases h
  · cases h

/-- An id that is being written was so before, or is made now. -/
theorem writing_step {landed : Bool} (hm : Moves s e t) (h : t.resolutions[r]? = some (.writing id landed)) :
    (∃ before, s.resolutions[r]? = some (.writing id before) ∧ e ≠ .written r) ∨
      (e = .ensureDeviceId id ∧ s.Mints ∧ r = s.resolutions.length) := by
  have hset : ∀ {i : Nat} {before after : ResolutionPhase α}, s.resolutions[i]? = some before →
      t.resolutions = s.resolutions.set i after →
      (∀ id landed, after = .writing id landed → ∃ l, before = .writing id l) → (∀ j, e = .written j → j = i) →
      (e = .written i → ∀ id landed, after ≠ .writing id landed) →
      ∃ before, s.resolutions[r]? = some (.writing id before) ∧ e ≠ .written r := by
    intro i before after hget hresolutions hafter hwritten hover
    rw [hresolutions] at h
    rcases Records.of_set h with ⟨rfl, hphase⟩ | ⟨hne, hold⟩
    · obtain ⟨l, rfl⟩ := hafter id landed hphase.symm
      exact ⟨l, hget, fun he => hover he id landed hphase.symm⟩
    · exact ⟨landed, hold, fun he => hne (hwritten r he)⟩
  cases hm with
  | ensures fresh =>
    rcases s.ensureDeviceId_cases fresh with
      ⟨_, _, heq⟩ | ⟨_, _, _, heq⟩ | ⟨_, _, _, _, heq⟩ | ⟨hmints, heq⟩ <;> rw [heq] at h
    · exact .inl ⟨landed, h, by simp⟩
    · exact .inl ⟨landed, h, by simp⟩
    · rcases Records.of_append h with hold | ⟨-, hnew⟩
      · exact .inl ⟨landed, hold, by simp⟩
      · cases hnew
    · rcases Records.of_append h with hold | ⟨rfl, hnew⟩
      · exact .inl ⟨landed, hold, by simp⟩
      · obtain ⟨rfl, -⟩ := ResolutionPhase.writing.inj hnew
        exact .inr ⟨rfl, hmints, rfl⟩
  | landed hget => exact .inl (hset hget rfl (by simp) (by simp) (by simp))
  | written hget => exact .inl (hset hget rfl (by simp) (by simp) (by simp))
  | writeFails hget => exact .inl (hset hget rfl (by simp) (by simp) (by simp))
  | cleared | returns | throws | looksUp | found | adoptionLanded | adopted => exact .inl ⟨landed, h, by simp⟩
  | finishes he => exact .inl ⟨landed, h, by rcases he with rfl | rfl <;> simp⟩

/-- What somebody has, part by part: a part that is as before, or its own argument. -/
theorem Shared.of_parts {P : Prop} (h : t.Shared id) (hs : s.Shared id → P)
    (hcached : t.cached = s.cached ∨ (t.cached = some id → P))
    (hcalls : t.calls = s.calls ∨ (.returned id ∈ t.calls → P))
    (hresolutions : t.resolutions = s.resolutions ∨ (.completed id ∈ t.resolutions → P))
    (hadoptions : t.adoptions = s.adoptions ∨ ((∃ phase ∈ t.adoptions, phase.deviceId = some id) → P)) : P := by
  rcases h with hid | hmem | hmem | hphase
  · exact hcached.elim (fun heq => hs (.inl (heq ▸ hid))) fun hP => hP hid
  · exact hcalls.elim (fun heq => hs (.inr (.inl (heq ▸ hmem)))) fun hP => hP hmem
  · exact hresolutions.elim (fun heq => hs (.inr (.inr (.inl (heq ▸ hmem))))) fun hP => hP hmem
  · exact hadoptions.elim (fun heq => hs (.inr (.inr (.inr (heq ▸ hphase))))) fun hP => hP hphase

/-- Where a call goes on, it has the id now, or somebody had it. -/
theorem shared_of_call {c : Nat} {after : IdCall α} (hmem : .returned id ∈ s.calls.set c after) :
    after = .returned id ∨ s.Shared id := by
  rcases List.mem_or_eq_of_mem_set hmem with hold | hnew
  · exact .inr (.inr (.inl hold))
  · exact .inl hnew.symm

theorem shared_of_resolution {after : ResolutionPhase α} (hmem : .completed id ∈ s.resolutions.set r after) :
    after = .completed id ∨ s.Shared id := by
  rcases List.mem_or_eq_of_mem_set hmem with hold | hnew
  · exact .inr (.inr (.inr (.inl hold)))
  · exact .inl hnew.symm

/-- An adoption that goes on brings no other id. -/
theorem shared_of_adoption {a : Nat} {before after : AdoptionPhase α} (hget : s.adoptions[a]? = some before)
    (hmem : ∃ phase ∈ s.adoptions.set a after, phase.deviceId = some id)
    (hafter : after.deviceId = some id → before.deviceId = some id) : s.Shared id := by
  rcases deviceId_of_set hmem with hnew | hold
  · exact .inr (.inr (.inr ⟨before, List.mem_of_getElem? hget, hafter hnew⟩))
  · exact .inr (.inr (.inr hold))

/-- An id that somebody has was had before, or comes from the slot, from its write or from
the cloud. -/
theorem shared_step (hst : s.step e = some t) (h : t.Shared id) :
    s.Shared id ∨ (s.stored = some id ∧ s.inFlight = none) ∨
      (∃ r, e = .written r ∧ s.resolutions[r]? = some (.writing id true)) ∨ ∃ a, e = .found a (some id) := by
  cases moves_of_step hst with
  | ensures fresh =>
    rcases s.ensureDeviceId_cases fresh with
      ⟨cached, hcached, heq⟩ | ⟨_, _, _, heq⟩ | ⟨stored, _, hflying, hstored, heq⟩ | ⟨⟨hcached, -⟩, heq⟩ <;> rw [heq] at h
    · refine h.of_parts .inl (.inl rfl) (.inr fun hmem => ?_) (.inl rfl) (.inl rfl)
      rcases List.mem_append.mp hmem with hold | hnew
      · exact .inl (.inr (.inl hold))
      · obtain rfl := IdCall.returned.inj (List.mem_singleton.mp hnew)
        exact .inl (.inl hcached)
    · refine h.of_parts .inl (.inl rfl) (.inr fun hmem => ?_) (.inl rfl) (.inl rfl)
      exact .inl (.inr (.inl (by simpa using hmem)))
    · refine h.of_parts .inl (.inr fun hid => .inr (.inl ⟨hstored.trans hid, hflying⟩)) (.inr fun hmem => ?_)
        (.inr fun hmem => ?_) (.inl rfl)
      · exact .inl (.inr (.inl (by simpa using hmem)))
      · rcases List.mem_append.mp hmem with hold | hnew
        · exact .inl (.inr (.inr (.inl hold)))
        · obtain rfl := ResolutionPhase.completed.inj (List.mem_singleton.mp hnew)
          exact .inr (.inl ⟨hstored, hflying⟩)
    · refine h.of_parts .inl (.inl rfl) (.inr fun hmem => ?_) (.inr fun hmem => ?_) (.inl rfl)
      · exact .inl (.inr (.inl (by simpa using hmem)))
      · exact .inl (.inr (.inr (.inl (by simpa using hmem))))
  | landed hget =>
    refine h.of_parts .inl (.inl rfl) (.inl rfl) (.inr fun hmem => .inl ?_) (.inl rfl)
    exact (shared_of_resolution hmem).resolve_left fun hnew => by cases hnew
  | @written r written hget =>
    refine h.of_parts .inl (.inr fun hid => ?_) (.inl rfl) (.inr fun hmem => ?_) (.inl rfl)
    · obtain rfl := Option.some.inj hid
      exact .inr (.inr (.inl ⟨r, rfl, hget⟩))
    · rcases shared_of_resolution hmem with hnew | hold
      · obtain rfl := ResolutionPhase.completed.inj hnew
        exact .inr (.inr (.inl ⟨r, rfl, hget⟩))
      · exact .inl hold
  | writeFails hget =>
    refine h.of_parts .inl (.inl rfl) (.inl rfl) (.inr fun hmem => .inl ?_) (.inl rfl)
    exact (shared_of_resolution hmem).resolve_left fun hnew => by cases hnew
  | cleared => exact .inl h
  | returns hget =>
    refine h.of_parts .inl (.inl rfl) (.inr fun hmem => .inl ?_) (.inl rfl) (.inl rfl)
    rcases shared_of_call hmem with hnew | hold
    · obtain rfl := IdCall.returned.inj hnew
      exact .inr (.inr (.inl (List.mem_of_getElem? hget)))
    · exact hold
  | throws =>
    refine h.of_parts .inl (.inl rfl) (.inr fun hmem => .inl ?_) (.inl rfl) (.inl rfl)
    exact (shared_of_call hmem).resolve_left fun hnew => by cases hnew
  | looksUp =>
    refine h.of_parts .inl (.inl rfl) (.inl rfl) (.inl rfl) (.inr fun ⟨phase, hmem, hid⟩ => .inl ?_)
    rcases List.mem_append.mp hmem with hold | hnew
    · exact .inr (.inr (.inr ⟨phase, hold, hid⟩))
    · obtain rfl := List.mem_singleton.mp hnew
      cases hid
  | @found a hget existing =>
    refine h.of_parts .inl (.inl rfl) (.inl rfl) (.inl rfl) (.inr fun hmem => ?_)
    rcases deviceId_of_set hmem with hnew | hold
    · obtain rfl := Option.some.inj hnew
      exact .inr (.inr (.inr ⟨a, rfl⟩))
    · exact .inl (.inr (.inr (.inr hold)))
  | adoptionLanded hget =>
    refine h.of_parts .inl (.inl rfl) (.inl rfl) (.inl rfl) (.inr fun hmem => .inl ?_)
    exact shared_of_adoption hget hmem fun hid => hid
  | adopted hget =>
    refine h.of_parts .inl (.inr fun hid => .inl ?_) (.inl rfl) (.inl rfl)
      (.inr fun hmem => .inl (shared_of_adoption hget hmem fun hid => hid))
    exact .inr (.inr (.inr ⟨_, List.mem_of_getElem? hget, hid⟩))
  | finishes he hget =>
    refine h.of_parts .inl (.inl rfl) (.inl rfl) (.inl rfl) (.inr fun hmem => .inl ?_)
    exact shared_of_adoption hget hmem fun hnew => by cases hnew

/-- The slot is written by a resolution or by an adoption. -/
theorem stored_step (hst : s.step e = some t) : t.stored = s.stored ∨
    (∃ r id, e = .landed r ∧ s.resolutions[r]? = some (.writing id false) ∧ t.stored = some id) ∨
      ∃ a id, e = .adoptionLanded a ∧ s.adoptions[a]? = some (.writing id false) ∧ t.stored = some id := by
  cases moves_of_step hst with
  | ensures fresh =>
    rcases s.ensureDeviceId_cases fresh with
      ⟨_, _, heq⟩ | ⟨_, _, _, heq⟩ | ⟨_, _, _, _, heq⟩ | ⟨-, heq⟩ <;> rw [heq] <;> exact .inl rfl
  | @landed r id hget => exact .inr (.inl ⟨r, id, rfl, hget, rfl⟩)
  | @adoptionLanded a id hget => exact .inr (.inr ⟨a, id, rfl, hget, rfl⟩)
  | written | writeFails | cleared | returns | throws | looksUp | found | adopted | finishes => exact .inl rfl

/-- What has been returned stays so. -/
theorem returned_step (hst : s.step e = some t) (h : .returned id ∈ s.calls) : .returned id ∈ t.calls := by
  cases e with
  | ensureDeviceId fresh =>
    obtain rfl := Option.some.inj hst
    rcases s.ensureDeviceId_cases fresh with
      ⟨_, _, heq⟩ | ⟨_, _, _, heq⟩ | ⟨_, _, _, _, heq⟩ | ⟨-, heq⟩ <;> rw [heq] <;> exact List.mem_append_left _ h
  | answered c =>
    obtain ⟨r, call, phase, hcall, -, rfl, -⟩ := answered_spec hst
    obtain ⟨i, hi⟩ := List.mem_iff_getElem?.mp h
    refine List.mem_iff_getElem?.mpr ⟨i, ?_⟩
    rw [List.getElem?_set_ne, hi]
    rintro rfl
    cases hcall.symm.trans hi
  | _ => cases moves_of_step hst <;> exact h

/-- A caller that waits for a resolution which has not ended goes on waiting. -/
theorem waiting_step (hst : s.step e = some t) (h : .waiting r ∈ s.calls) :
    .waiting r ∈ t.calls ∨ ∃ phase, s.resolutions[r]? = some phase ∧
      ∀ (id : α) (landed : Bool), phase ≠ .writing id landed := by
  cases e with
  | ensureDeviceId fresh =>
    obtain rfl := Option.some.inj hst
    rcases s.ensureDeviceId_cases fresh with
      ⟨_, _, heq⟩ | ⟨_, _, _, heq⟩ | ⟨_, _, _, _, heq⟩ | ⟨-, heq⟩ <;> rw [heq] <;> exact .inl (List.mem_append_left _ h)
  | answered c =>
    obtain ⟨r', call, phase, hcall, hget, rfl, hphase⟩ := answered_spec hst
    obtain ⟨i, hi⟩ := List.mem_iff_getElem?.mp h
    by_cases hci : c = i
    · subst hci
      obtain rfl := IdCall.waiting.inj (Option.some.inj (hcall.symm.trans hi))
      refine .inr ⟨phase, hget, fun id landed hwriting => ?_⟩
      rcases hphase with ⟨_, hcompleted, -⟩ | ⟨hfailed, -⟩
      · cases hcompleted.symm.trans hwriting
      · cases hfailed.symm.trans hwriting
    · exact .inl (List.mem_iff_getElem?.mpr ⟨i, by rw [List.getElem?_set_ne hci, hi]⟩)
  | _ => cases moves_of_step hst <;> exact .inl h

theorem length_calls_step (hst : s.step e = some t) (he : ∀ fresh, e ≠ .ensureDeviceId fresh) :
    t.calls.length = s.calls.length := by
  cases moves_of_step hst with
  | ensures fresh => exact absurd rfl (he fresh)
  | returns | throws => exact List.length_set
  | landed | written | writeFails | cleared | looksUp | found | adoptionLanded | adopted | finishes => rfl

/-- The call that is made comes last, and returns at once only what is in memory. -/
theorem calls_ensureDeviceId (s : DeviceIdentity α) (fresh : α) :
    ∃ call, (s.ensureDeviceId fresh).calls = s.calls ++ [call] ∧ ∀ id, call = .returned id → s.cached = some id := by
  rcases s.ensureDeviceId_cases fresh with
    ⟨cached, hcached, heq⟩ | ⟨_, _, _, heq⟩ | ⟨_, _, _, _, heq⟩ | ⟨-, heq⟩ <;> rw [heq]
  · refine ⟨_, rfl, fun id hid => ?_⟩
    rw [hcached, IdCall.returned.inj hid]
  all_goals exact ⟨_, rfl, fun id hid => by cases hid⟩

/-! ### The resolution that writes -/

/-- The id that is being written is nobody else's, and its caller waits for it. -/
structure Sole (s : DeviceIdentity α) : Prop where
  flying : ∀ (r : Nat) id landed, s.resolutions[r]? = some (.writing id landed) → s.inFlight = some r
  waited : ∀ (r : Nat) id landed, s.resolutions[r]? = some (.writing id landed) → .waiting r ∈ s.calls
  own : ∀ (r : Nat) id landed, s.resolutions[r]? = some (.writing id landed) → ¬ s.Shared id
  completed : ∀ id, .completed id ∈ s.resolutions → s.cached.isSome

/-- While a resolution writes, it is the one in flight. -/
theorem flying_step {id : α} {landed after : Bool} (hm : Moves s e t) (h : s.inFlight = some r)
    (hget : s.resolutions[r]? = some (.writing id landed)) (hnow : t.resolutions[r]? = some (.writing id after)) :
    t.inFlight = some r := by
  cases hm with
  | ensures fresh =>
    rcases s.ensureDeviceId_cases fresh with
      ⟨_, _, heq⟩ | ⟨_, _, _, heq⟩ | ⟨_, _, hnone, _, heq⟩ | ⟨⟨-, hnone, -⟩, heq⟩
    · rw [heq, h]
    · rw [heq, h]
    · cases hnone.symm.trans h
    · cases hnone.symm.trans h
  | @cleared r' phase hflying hphase hover =>
    obtain rfl := Option.some.inj (hflying.symm.trans h)
    exact absurd (Option.some.inj (hphase.symm.trans hget)) (hover id landed)
  | landed | written | writeFails | returns | throws | looksUp | found | adoptionLanded | adopted | finishes => exact h

theorem completed_step (hst : s.step e = some t) (h : ∀ id, .completed id ∈ s.resolutions → s.cached.isSome)
    (hmem : .completed id ∈ t.resolutions) : t.cached.isSome := by
  have hset : ∀ {r : Nat} {after : ResolutionPhase α}, .completed id ∈ s.resolutions.set r after →
      (∀ d, after ≠ .completed d) → s.cached.isSome := by
    intro r after hmem hafter
    rcases List.mem_or_eq_of_mem_set hmem with hold | hnew
    · exact h id hold
    · exact absurd hnew.symm (hafter id)
  cases moves_of_step hst with
  | ensures fresh =>
    rcases s.ensureDeviceId_cases fresh with
      ⟨_, _, heq⟩ | ⟨_, _, _, heq⟩ | ⟨_, _, _, _, heq⟩ | ⟨⟨hcached, -⟩, heq⟩ <;> rw [heq] at hmem ⊢
    · exact h id hmem
    · exact h id hmem
    · rfl
    · exact h id (by simpa using hmem)
  | written => rfl
  | landed => exact hset hmem (by simp)
  | writeFails => exact hset hmem (by simp)
  | adopted => rfl
  | cleared | returns | throws | looksUp | found | adoptionLanded | finishes => exact h id hmem

theorem Sole.step (h : s.Sole) (hgen : s.Generates e) (hst : s.step e = some t) : t.Sole := by
  have hm := moves_of_step hst
  refine ⟨fun r id landed hnow => ?_, fun r id landed hnow => ?_, fun r id landed hnow hshared => ?_,
    fun id hmem => completed_step hst h.completed hmem⟩
  · rcases writing_step hm hnow with ⟨before, hget, -⟩ | ⟨rfl, hmints, rfl⟩
    · exact flying_step hm (h.flying r id before hget) hget hnow
    · obtain rfl := Option.some.inj hst
      simp [ensureDeviceId, hmints.1, hmints.2.1, hmints.2.2]
  · rcases writing_step hm hnow with ⟨before, hget, -⟩ | ⟨rfl, hmints, rfl⟩
    · rcases waiting_step hst (h.waited r id before hget) with hwaits | ⟨phase, hphase, hover⟩
      · exact hwaits
      · exact absurd (Option.some.inj (hphase.symm.trans hget)) (hover id before)
    · obtain rfl := Option.some.inj hst
      simp [ensureDeviceId, hmints.1, hmints.2.1, hmints.2.2]
  · rcases writing_step hm hnow with ⟨before, hget, hne⟩ | ⟨rfl, hmints, rfl⟩
    · rcases shared_step hst hshared with hold | ⟨-, hnone⟩ | ⟨r', rfl, hother⟩ | ⟨a, rfl⟩
      · exact h.own r id before hget hold
      · cases hnone.symm.trans (h.flying r id before hget)
      · obtain rfl := Option.some.inj ((h.flying r' id true hother).symm.trans (h.flying r id before hget))
        exact hne rfl
      · exact hgen (mem_minting.mpr ⟨before, List.mem_of_getElem? hget⟩)
    · rcases shared_step hst hshared with hold | ⟨hstored, -⟩ | ⟨r', heq, -⟩ | ⟨a, heq⟩
      · exact hgen hmints hold.mem_ids
      · cases hmints.2.2.symm.trans hstored
      · cases heq
      · cases heq

/-- An id that callers wait for was waited for before, or is in the slot now. -/
theorem expected_step (h : s.Sole) (hst : s.step e = some t) (hmem : id ∈ t.expected) :
    id ∈ s.expected ∨ t.stored = some id := by
  obtain ⟨r, hwaits, phase, hget, hid⟩ := mem_expected.mp hmem
  have hset : ∀ {i : Nat} {before after : ResolutionPhase α}, s.resolutions[i]? = some before →
      (s.resolutions.set i after)[r]? = some phase → .waiting r ∈ s.calls →
      (landedId after = some id → landedId before = some id ∨ t.stored = some id) →
      id ∈ s.expected ∨ t.stored = some id := by
    intro i before after hbefore hset hwaits hafter
    rcases Records.of_set hset with ⟨rfl, rfl⟩ | ⟨-, hold⟩
    · exact (hafter hid).imp_left fun hlanded => mem_expected.mpr ⟨r, hwaits, before, hbefore, hlanded⟩
    · exact .inl (mem_expected.mpr ⟨r, hwaits, phase, hold, hid⟩)
  have hold : .waiting r ∈ s.calls → s.resolutions[r]? = some phase → id ∈ s.expected ∨ t.stored = some id :=
    fun hwaits hget => .inl (mem_expected.mpr ⟨r, hwaits, phase, hget, hid⟩)
  have hcalls : ∀ {c : Nat} {call : IdCall α}, .waiting r ∈ s.calls.set c call → (∀ r, call ≠ .waiting r) →
      .waiting r ∈ s.calls := by
    intro c call hwaits hcall
    rcases List.mem_or_eq_of_mem_set hwaits with hwaits | hnew
    · exact hwaits
    · exact absurd hnew.symm (hcall r)
  -- a call that is new waits for the newest resolution
  have hnewest : ∀ {after : ResolutionPhase α}, .waiting r ∈ s.calls ++ [.waiting s.resolutions.length] →
      (s.resolutions ++ [after])[r]? = some phase → (landedId after = some id → t.stored = some id) →
      id ∈ s.expected ∨ t.stored = some id := by
    intro after hwaits hget hafter
    rcases Records.of_append hget with hget | ⟨-, rfl⟩
    · rcases List.mem_append.mp hwaits with hwaits | hnew
      · exact hold hwaits hget
      · obtain rfl := IdCall.waiting.inj (List.mem_singleton.mp hnew)
        exact absurd (List.getElem?_eq_some_iff.mp hget).1 (lt_irrefl _)
    · exact .inr (hafter hid)
  cases moves_of_step hst with
  | ensures fresh =>
    rcases s.ensureDeviceId_cases fresh with
      ⟨_, _, heq⟩ | ⟨resolution, hcached, hflying, heq⟩ | ⟨stored, _, _, hstored, heq⟩ | ⟨_, heq⟩ <;>
      rw [heq] at hwaits hget
    · exact hold (by simpa using hwaits) hget
    · rcases List.mem_append.mp hwaits with hwaits | hnew
      · exact hold hwaits hget
      · refine hold ?_ hget
        cases phase with
        | writing other landed => exact h.waited r other landed hget
        | completed other =>
          have hsome := h.completed other (List.mem_of_getElem? hget)
          rw [hcached] at hsome
          cases hsome
        | failed => cases hid
    · refine hnewest hwaits hget fun hlanded => ?_
      rw [heq]
      exact hstored.trans hlanded
    · exact hnewest hwaits hget fun hlanded => by cases hlanded
  | landed hbefore => exact hset hbefore hget hwaits .inr
  | written hbefore => exact hset hbefore hget hwaits .inl
  | writeFails hbefore => exact hset hbefore hget hwaits fun hlanded => by cases hlanded
  | returns | throws => exact hold (hcalls hwaits (by simp)) hget
  | cleared | looksUp | found | adoptionLanded | adopted | finishes => exact hold hwaits hget

end DeviceIdentity

/-! ### The services as the app wires them -/

/-- How far a call of `clear` is with the device id. -/
inductive ClearPhase where
  | running
  /-- The slot has been emptied. -/
  | emptied
  | completed
  deriving DecidableEq

/-- A call of `clear`. -/
structure Clear (α : Type) where
  /-- Its number among the calls of the group key service. -/
  call : Nat
  /-- The ids returned before it, as long as they are not adopted again. -/
  barred : List α
  phase : ClearPhase := .running
  deriving DecidableEq

/-- What an `ensureDeviceId` that was called after a `clear` returns. -/
structure Answer (α : Type) where
  deviceId : α
  /-- What the slot holds then. -/
  slot : Option α
  /-- What the clears before the call bar. -/
  barred : List α
  deriving DecidableEq

/-- The group key service and the device identity service of an installation. -/
structure Installation (α : Type) where
  keys : GroupKeyRun
  identity : DeviceIdentity α
  clears : List (Clear α) := []
  /-- For each call of `ensureDeviceId`, the clears that had completed before it. -/
  follows : List (List Nat) := []
  answers : List (Answer α) := []
  deriving DecidableEq

inductive InstallationEvent (α : Type) where
  | key (e : KeyEvent)
  /-- The `clearCloudDeviceId` of a `clear` takes effect. -/
  | slotRemoved (clear : Nat)
  | identity (e : IdentityEvent α)

namespace Installation
variable {α : Type}

/-- A `clear` goes on only once the slot has been emptied for it. -/
def awaitsRemoval (s : Installation α) : KeyEvent → Bool
  | .resume call => s.clears.any fun c =>
    c.call = call ∧ c.phase = .running ∧ s.keys.calls[call]?.map KeyCall.phase = some .clearingDeviceId
  | _ => false

/-- The clears after an event of the group key service. -/
def clearsAfter (s : Installation α) : KeyEvent → List (Clear α)
  | .clear => s.clears ++ [{call := s.keys.calls.length, barred := s.identity.calls.filterMap IdCall.deviceId}]
  | .resume call => s.clears.map fun c => if c.call = call ∧ c.phase = .emptied then {c with phase := .completed} else c
  | _ => s.clears

def completedClears (s : Installation α) : List Nat :=
  (List.range s.clears.length).filter fun i => s.clears[i]?.any fun c => c.phase = .completed

/-- What these clears bar. -/
def barredBy (s : Installation α) (clears : List Nat) : List α :=
  clears.flatMap fun i => (s.clears[i]?.map Clear.barred).getD []

/-- An `ensureDeviceId` has returned: it is noted if a `clear` had completed before the call. -/
def noteAnswer (s : Installation α) (call : Nat) : Installation α :=
  match s.identity.calls[call]?, s.follows[call]? with
  | some (.returned deviceId), some (clear :: clears) => {s with
      answers := s.answers ++ [{deviceId, slot := s.identity.stored, barred := s.barredBy (clear :: clears)}]}
  | _, _ => s

/-- After a step of the identity service. An id that is written to the slot for an adoption is
adopted again. -/
def after [DecidableEq α] (s : Installation α) (e : IdentityEvent α) (identity : DeviceIdentity α) : Installation α :=
  match e with
  | .ensureDeviceId _ =>
    noteAnswer {s with identity, follows := s.follows ++ [s.completedClears]} s.identity.calls.length
  | .answered call => noteAnswer {s with identity} call
  | .adoptionLanded _ => {s with
      identity
      clears := s.clears.map fun c => {c with barred := c.barred.filter fun d => some d ≠ identity.stored}}
  | _ => {s with identity}

def step [DecidableEq α] (s : Installation α) : InstallationEvent α → Option (Installation α)
  | .key e =>
    if s.awaitsRemoval e then none
    else (s.keys.step e).map fun keys => {s with keys, clears := s.clearsAfter e}
  | .slotRemoved i =>
    match s.clears[i]? with
    | some c =>
      if c.phase = .running ∧ s.keys.calls[c.call]?.map KeyCall.phase = some .clearingDeviceId then
        some {s with
          identity := {s.identity with stored := none}
          clears := s.clears.set i {c with phase := .emptied}}
      else none
    | none => none
  | .identity e => (s.identity.step e).map (s.after e)

end Installation

/-- An installation that starts with this key and this id in its slots. -/
def installation {α : Type} [DecidableEq α] (key : Option KeyText) (deviceId : Option α) :
    Transition.System (Installation α) (InstallationEvent α) where
  init := {keys := {stored := key}, identity := {stored := deviceId}}
  step := Installation.step

/-! ### The property and its conditions -/

namespace Installation
variable {α : Type} {s t : Installation α} {e : InstallationEvent α}

/-- After a `clear` callers are given no id that was returned before it, unless it was adopted
again, and the one that is in the slot. -/
def FreshIds (s : Installation α) : Prop := ∀ a ∈ s.answers, a.deviceId ∉ a.barred ∧ a.slot = some a.deviceId

/-- A `clear` has emptied the slot. -/
def Emptied (s : Installation α) : Prop := ∃ c ∈ s.clears, c.phase ≠ .running

instance (s : Installation α) : Decidable s.Emptied := inferInstanceAs (Decidable (∃ c ∈ s.clears, c.phase ≠ .running))

/-- What an event writes to the slot. -/
def written (s : Installation α) : InstallationEvent α → Option (Option α)
  | .slotRemoved _ => some none
  | .identity (.landed r) => (s.identity.resolutions[r]?.bind ResolutionPhase.deviceId).map some
  | .identity (.adoptionLanded a) => (s.identity.adoptions[a]?.bind AdoptionPhase.deviceId).map some
  | _ => none

/-- Nobody has had an id that is made, and the cloud has only ids that were given out. -/
def Generates (s : Installation α) : InstallationEvent α → Prop
  | .identity e => s.identity.Generates e
  | _ => True

/-- The slot is not emptied, nor written once it has been, while a call waits for another id
that has been in it. -/
def Undisturbed (s : Installation α) (e : InstallationEvent α) : Prop :=
  ∀ v ∈ s.written e, v = none ∨ s.Emptied → ∀ d ∈ s.identity.expected, v = some d

/-- After a `clear`, `ensureDeviceId` does not find in memory an id that is not in the slot. -/
def NotStale (s : Installation α) : InstallationEvent α → Prop
  | .identity (.ensureDeviceId _) =>
    s.completedClears ≠ [] → s.identity.cached = none ∨ s.identity.cached = s.identity.stored
  | _ => True

instance [DecidableEq α] (s : Installation α) : (e : InstallationEvent α) → Decidable (s.Generates e)
  | .identity e => inferInstanceAs (Decidable (s.identity.Generates e))
  | .key _ | .slotRemoved _ => .isTrue trivial

instance [DecidableEq α] (s : Installation α) : (e : InstallationEvent α) → Decidable (s.NotStale e)
  | .identity (.ensureDeviceId _) => inferInstanceAs (Decidable
    (s.completedClears ≠ [] → s.identity.cached = none ∨ s.identity.cached = s.identity.stored))
  | .identity (.landed _) | .identity (.written _) | .identity (.writeFails _) | .identity (.cleared _)
  | .identity (.answered _) | .identity .lookUp | .identity (.found _ _) | .identity (.adoptionLanded _)
  | .identity (.adopted _) | .identity (.adoptionFails _) | .key _ | .slotRemoved _ => .isTrue trivial

instance [DecidableEq α] (s : Installation α) (e : InstallationEvent α) : Decidable (s.Undisturbed e) :=
  inferInstanceAs (Decidable (∀ v ∈ s.written e, v = none ∨ s.Emptied → ∀ d ∈ s.identity.expected, v = some d))

/-! ### What a step does -/

theorem mem_completedClears {i : Nat} :
    i ∈ s.completedClears ↔ ∃ c, s.clears[i]? = some c ∧ c.phase = .completed := by
  rw [completedClears, List.mem_filter, List.mem_range]
  constructor
  · intro ⟨_, hany⟩
    obtain ⟨c, hget, hphase⟩ := (Option.any_eq_true _ _).mp hany
    exact ⟨c, hget, of_decide_eq_true hphase⟩
  · intro ⟨c, hget, hphase⟩
    exact ⟨(List.getElem?_eq_some_iff.mp hget).1, by simp [hget, hphase]⟩

theorem mem_barredBy {clears : List Nat} {d : α} (h : d ∈ s.barredBy clears) :
    ∃ i ∈ clears, ∃ c, s.clears[i]? = some c ∧ d ∈ c.barred := by
  obtain ⟨i, hi, hmem⟩ := List.mem_flatMap.mp h
  cases hget : s.clears[i]? with
  | none => simp [hget] at hmem
  | some c => exact ⟨i, hi, c, hget, by simpa [hget] using hmem⟩

/-- Noting an answer changes nothing else. -/
theorem noteAnswer_eq (s : Installation α) (call : Nat) :
    s.noteAnswer call = {s with answers := (s.noteAnswer call).answers} := by
  unfold noteAnswer
  split <;> rfl

/-- The answer that is noted. -/
theorem mem_noteAnswer {call : Nat} {a : Answer α} (h : a ∈ (s.noteAnswer call).answers) :
    a ∈ s.answers ∨ ∃ clears, s.identity.calls[call]? = some (.returned a.deviceId) ∧ s.follows[call]? = some clears ∧
      clears ≠ [] ∧ a.slot = s.identity.stored ∧ a.barred = s.barredBy clears := by
  unfold noteAnswer at h
  split at h
  · next deviceId clear clears hcall hfollows =>
    rcases List.mem_append.mp h with hold | hnew
    · exact .inl hold
    · obtain rfl := List.mem_singleton.mp hnew
      exact .inr ⟨_, hcall, hfollows, by simp, rfl, rfl⟩
  · exact .inl h

/-! ### The invariant -/

/-- What bars an id is gone from the slot, and callers wait for what is in it. -/
structure Barring (s : Installation α) : Prop where
  sole : s.identity.Sole
  paired : s.follows.length = s.identity.calls.length
  returned : ∀ c ∈ s.clears, ∀ d ∈ c.barred, .returned d ∈ s.identity.calls
  gone : ∀ c ∈ s.clears, c.phase ≠ .running → ∀ d ∈ c.barred, s.identity.stored ≠ some d
  follows : ∀ clears ∈ s.follows, ∀ i ∈ clears, ∃ c, s.clears[i]? = some c ∧ c.phase = .completed
  kept : s.Emptied → ∀ d ∈ s.identity.expected, s.identity.stored = some d
  fresh : s.FreshIds

/-- The id in the slot is none that a completed `clear` bars. -/
theorem Barring.not_barred (h : s.Barring) {clears : List Nat}
    (hclears : ∀ i ∈ clears, ∃ c, s.clears[i]? = some c ∧ c.phase = .completed) {d : α}
    (hstored : s.identity.stored = some d) : d ∉ s.barredBy clears := by
  intro hmem
  obtain ⟨i, hi, c, hget, hbarred⟩ := mem_barredBy hmem
  obtain ⟨c', hget', hphase⟩ := hclears i hi
  obtain rfl := Option.some.inj (hget.symm.trans hget')
  exact h.gone c (List.mem_of_getElem? hget) (by simp [hphase]) d hbarred hstored

/-! ### Steps of the identity service -/

section
variable {e : IdentityEvent α} {identity : DeviceIdentity α}

/-- Callers wait for what is in the slot. -/
theorem Barring.kept_step (h : s.Barring) (hclean : s.Undisturbed (.identity e)) (hst : s.identity.step e = some identity)
    (hemptied : s.Emptied) {d : α} (hd : d ∈ identity.expected) : identity.stored = some d := by
  rcases DeviceIdentity.expected_step h.sole hst hd with hold | hstored
  · rcases DeviceIdentity.stored_step hst with heq | ⟨r, id, rfl, hget, heq⟩ | ⟨a, id, rfl, hget, heq⟩
    · rw [heq]
      exact h.kept hemptied d hold
    · rw [heq]
      exact hclean (some id) (by simp [written, hget, ResolutionPhase.deviceId]) (.inr hemptied) d hold
    · rw [heq]
      exact hclean (some id) (by simp [written, hget, AdoptionPhase.deviceId]) (.inr hemptied) d hold
  · exact hstored

/-- What a `clear` bars comes back to the slot only when it is adopted. -/
theorem Barring.gone_step (h : s.Barring) (hst : s.identity.step e = some identity) {c : Clear α} (hc : c ∈ s.clears)
    (hphase : c.phase ≠ .running) {d : α} (hd : d ∈ c.barred) (hstored : identity.stored = some d) :
    ∃ a, e = .adoptionLanded a := by
  rcases DeviceIdentity.stored_step hst with heq | ⟨r, id, -, hget, heq⟩ | ⟨a, -, rfl, -⟩
  · exact absurd (heq.symm.trans hstored) (h.gone c hc hphase d hd)
  · obtain rfl := Option.some.inj (heq.symm.trans hstored)
    exact absurd (.inr (.inl (h.returned c hc id hd))) (h.sole.own r id false hget)
  · exact ⟨a, rfl⟩

/-- An identity service that has gone on, with the clears and answers as they are. -/
theorem Barring.moved (h : s.Barring) (hgen : s.identity.Generates e) (hclean : s.Undisturbed (.identity e))
    (hst : s.identity.step e = some identity) (hlanded : ∀ a, e ≠ .adoptionLanded a) {follows : List (List Nat)}
    (hpaired : follows.length = identity.calls.length)
    (hfollows : ∀ clears ∈ follows, ∀ i ∈ clears, ∃ c, s.clears[i]? = some c ∧ c.phase = .completed) :
    Barring {s with identity, follows} where
  sole := h.sole.step hgen hst
  paired := hpaired
  returned c hc d hd := DeviceIdentity.returned_step hst (h.returned c hc d hd)
  gone c hc hphase d hd hstored := by
    obtain ⟨a, rfl⟩ := h.gone_step hst hc hphase hd hstored
    exact hlanded a rfl
  follows := hfollows
  kept hemptied d hd := h.kept_step hclean hst hemptied hd
  fresh := h.fresh

/-- Noting an answer that is fresh. -/
theorem Barring.note (h : s.Barring) {call : Nat} (hanswer : ∀ id clears, s.identity.calls[call]? = some (.returned id) →
    s.follows[call]? = some clears → clears ≠ [] → s.identity.stored = some id) : (s.noteAnswer call).Barring := by
  have hfresh : (s.noteAnswer call).FreshIds := by
    intro a ha
    rcases mem_noteAnswer ha with hold | ⟨clears, hcall, hfollows, hne, hslot, hbarred⟩
    · exact h.fresh a hold
    · have hstored := hanswer a.deviceId clears hcall hfollows hne
      refine ⟨?_, hslot.trans hstored⟩
      rw [hbarred]
      exact h.not_barred (h.follows clears (List.mem_of_getElem? hfollows)) hstored
  rw [noteAnswer_eq]
  exact ⟨h.sole, h.paired, h.returned, h.gone, h.follows, h.kept, hfresh⟩

end

/-! ### One step -/

variable [DecidableEq α]

theorem Barring.key (h : s.Barring) {e : KeyEvent} (hst : s.step (.key e) = some t) : t.Barring := by
  simp only [step] at hst
  split_ifs at hst
  obtain ⟨keys, -, rfl⟩ := Option.map_eq_some_iff.mp hst
  -- a clear that is new has emptied nothing, and the others keep what they bar
  have hclears : ∀ c ∈ s.clearsAfter e,
      (∃ old ∈ s.clears, c.barred = old.barred ∧ (c.phase = .running ↔ old.phase = .running)) ∨
      c.phase = .running ∧ ∀ d ∈ c.barred, .returned d ∈ s.identity.calls := by
    intro c hc
    cases e with
    | clear =>
      rcases List.mem_append.mp hc with hold | hnew
      · exact .inl ⟨c, hold, rfl, Iff.rfl⟩
      · obtain rfl := List.mem_singleton.mp hnew
        refine .inr ⟨rfl, fun d hd => ?_⟩
        obtain ⟨call, hmem, hid⟩ := List.mem_filterMap.mp hd
        cases call with
        | returned other => exact Option.some.inj hid ▸ hmem
        | waiting | threw => cases hid
    | resume call =>
      obtain ⟨old, hold, rfl⟩ := List.mem_map.mp hc
      refine .inl ⟨old, hold, ?_⟩
      split_ifs with hphase
      · simp [hphase.2]
      · exact ⟨rfl, Iff.rfl⟩
    | ensureForNewAccount | replace | takeEffect => exact .inl ⟨c, hc, rfl, Iff.rfl⟩
  have hget : ∀ {i : Nat} {c : Clear α}, s.clears[i]? = some c → c.phase = .completed →
      ∃ c, (s.clearsAfter e)[i]? = some c ∧ c.phase = .completed := by
    intro i c hget hphase
    cases e with
    | clear => exact ⟨c, Records.append hget, hphase⟩
    | resume call => exact ⟨c, by simp [clearsAfter, hget, hphase], hphase⟩
    | ensureForNewAccount | replace | takeEffect => exact ⟨c, hget, hphase⟩
  refine ⟨h.sole, h.paired, fun c hc d hd => ?_, fun c hc hphase d hd => ?_, fun clears hmem i hi => ?_,
    fun ⟨c, hc, hphase⟩ => h.kept ?_, h.fresh⟩
  · rcases hclears c hc with ⟨old, hold, hbarred, -⟩ | ⟨-, hnew⟩
    · exact h.returned old hold d (hbarred ▸ hd)
    · exact hnew d hd
  · rcases hclears c hc with ⟨old, hold, hbarred, hiff⟩ | ⟨hrunning, -⟩
    · exact h.gone old hold (fun hrunning => hphase (hiff.mpr hrunning)) d (hbarred ▸ hd)
    · exact absurd hrunning hphase
  · obtain ⟨c, hold, hphase⟩ := h.follows clears hmem i hi
    exact hget hold hphase
  · rcases hclears c hc with ⟨old, hold, -, hiff⟩ | ⟨hrunning, -⟩
    · exact ⟨old, hold, fun hrunning => hphase (hiff.mpr hrunning)⟩
    · exact absurd hrunning hphase

theorem Barring.slotRemoved (h : s.Barring) {i : Nat} (hclean : s.Undisturbed (.slotRemoved i))
    (hst : s.step (.slotRemoved i) = some t) : t.Barring := by
  simp only [step] at hst
  split at hst
  · next c hget =>
    split_ifs at hst with hphase
    obtain rfl := Option.some.inj hst
    have hexpected : ∀ d, d ∉ s.identity.expected := fun d hd => by cases hclean none rfl (.inl rfl) d hd
    refine ⟨⟨h.sole.flying, h.sole.waited, h.sole.own, h.sole.completed⟩, h.paired, fun c' hc' => ?_,
      fun _ _ _ _ _ hstored => (by cases hstored), fun clears hmem j hj => ?_,
      fun _ d hd => absurd hd (hexpected d), h.fresh⟩
    · rcases List.mem_or_eq_of_mem_set hc' with hold | rfl
      · exact h.returned c' hold
      · exact h.returned c (List.mem_of_getElem? hget)
    · obtain ⟨c', hold, hcompleted⟩ := h.follows clears hmem j hj
      refine ⟨c', ?_, hcompleted⟩
      rw [List.getElem?_set_ne, hold]
      rintro rfl
      obtain rfl := Option.some.inj (hget.symm.trans hold)
      cases hphase.1.symm.trans hcompleted
  · cases hst

theorem Barring.identity_step {e : IdentityEvent α} (h : s.Barring) (hgen : s.Generates (.identity e))
    (hclean : s.Undisturbed (.identity e)) (hnow : s.NotStale (.identity e)) (hstep : s.step (.identity e) = some t) :
    t.Barring := by
  obtain ⟨identity, hst, rfl⟩ := Option.map_eq_some_iff.mp hstep
  have hgen : s.identity.Generates e := hgen
  cases e with
  | ensureDeviceId fresh =>
    obtain rfl := Option.some.inj hst
    obtain ⟨call, hcalls, hreturned⟩ := DeviceIdentity.calls_ensureDeviceId s.identity fresh
    have hmoved : Barring {s with
        identity := s.identity.ensureDeviceId fresh
        follows := s.follows ++ [s.completedClears]} := by
      refine h.moved hgen hclean rfl (by simp) (by simp [hcalls, h.paired]) fun clears hmem i hi => ?_
      rcases List.mem_append.mp hmem with hold | hnew
      · exact h.follows clears hold i hi
      · obtain rfl := List.mem_singleton.mp hnew
        exact mem_completedClears.mp hi
    refine hmoved.note fun id clears hcall hfollows hne => ?_
    have hcached := hreturned id (by simpa [hcalls] using hcall)
    obtain rfl : s.completedClears = clears := by simpa [← h.paired] using hfollows
    have hstored : s.identity.stored = some id := by
      rcases hnow hne with hnone | heq
      · cases hnone.symm.trans hcached
      · exact heq.symm.trans hcached
    rcases DeviceIdentity.stored_step (e := .ensureDeviceId fresh) rfl with heq | ⟨_, _, heq, -⟩ | ⟨_, _, heq, -⟩
    · exact heq.trans hstored
    · cases heq
    · cases heq
  | answered call =>
    have hmoved : Barring {s with identity, follows := s.follows} :=
      h.moved hgen hclean hst (by simp) (h.paired.trans (DeviceIdentity.length_calls_step hst (by simp)).symm) h.follows
    refine hmoved.note fun id clears hcall hfollows hne => ?_
    obtain ⟨r, returned, phase, hwaits, hget, rfl, hphase⟩ := DeviceIdentity.answered_spec hst
    have hid : returned = .returned id := by
      rw [Records.set_self hwaits] at hcall
      exact Option.some.inj hcall
    have hexpected : id ∈ s.identity.expected := by
      refine DeviceIdentity.mem_expected.mpr ⟨r, List.mem_of_getElem? hwaits, phase, hget, ?_⟩
      rcases hphase with ⟨other, rfl, heq⟩ | ⟨-, heq⟩
      · exact congrArg some (IdCall.returned.inj (heq.symm.trans hid))
      · cases heq.symm.trans hid
    obtain ⟨i, hi⟩ := List.exists_mem_of_ne_nil clears hne
    obtain ⟨c, hc, hcompleted⟩ := h.follows clears (List.mem_of_getElem? hfollows) i hi
    exact h.kept ⟨c, List.mem_of_getElem? hc, by simp [hcompleted]⟩ id hexpected
  | adoptionLanded a =>
    have hpaired := h.paired.trans (DeviceIdentity.length_calls_step hst (by simp)).symm
    refine ⟨h.sole.step hgen hst, hpaired, fun c hc d hd => ?_, fun c hc _ d hd hstored => ?_,
      fun clears hmem i hi => ?_, fun hemptied d hd => h.kept_step hclean hst ?_ hd, h.fresh⟩
    · obtain ⟨old, hold, rfl⟩ := List.mem_map.mp hc
      exact DeviceIdentity.returned_step hst (h.returned old hold d (List.mem_of_mem_filter hd))
    · obtain ⟨old, -, rfl⟩ := List.mem_map.mp hc
      exact of_decide_eq_true (List.mem_filter.mp hd).2 hstored.symm
    · obtain ⟨c, hget, hphase⟩ := h.follows clears hmem i hi
      refine ⟨{c with barred := c.barred.filter fun d => some d ≠ identity.stored}, ?_, hphase⟩
      rw [after, List.getElem?_map, hget]
      rfl
    · obtain ⟨c, hc, hphase⟩ := hemptied
      obtain ⟨old, hold, rfl⟩ := List.mem_map.mp hc
      exact ⟨old, hold, hphase⟩
  | _ =>
    have hpaired := h.paired.trans (DeviceIdentity.length_calls_step hst (by simp)).symm
    exact h.moved hgen hclean hst (by simp) hpaired h.follows

/-- **One step** keeps the invariant when the id in memory is not stale. -/
theorem Barring.step (h : s.Barring) {e : InstallationEvent α} (hgen : s.Generates e) (hclean : s.Undisturbed e)
    (hnow : s.NotStale e) (hst : s.step e = some t) : t.Barring := by
  cases e with
  | key => exact h.key hst
  | slotRemoved => exact h.slotRemoved hclean hst
  | identity => exact h.identity_step hgen hclean hnow hst

/-- Ids that are fresh after the step: the one in memory was not stale. -/
theorem FreshIds.notStale (hpaired : s.follows.length = s.identity.calls.length) {e : InstallationEvent α}
    (hst : s.step e = some t) (h : t.FreshIds) : s.NotStale e := by
  cases e with
  | key | slotRemoved => trivial
  | identity e =>
    cases e with
    | ensureDeviceId fresh =>
      intro hcompleted
      cases hcached : s.identity.cached with
      | none => exact .inl rfl
      | some cached =>
        obtain ⟨clear, clears, hclears⟩ := List.exists_cons_of_ne_nil hcompleted
        have hidentity : s.identity.ensureDeviceId fresh =
            {s.identity with calls := s.identity.calls ++ [.returned cached]} := by
          simp [DeviceIdentity.ensureDeviceId, hcached]
        obtain rfl := Option.some.inj hst
        have hnoted : (⟨cached, s.identity.stored, s.barredBy (clear :: clears)⟩ : Answer α) ∈
            (s.after (.ensureDeviceId fresh) (s.identity.ensureDeviceId fresh)).answers := by
          have hcall : (s.identity.calls ++ [.returned cached])[s.identity.calls.length]? = some (.returned cached) :=
            List.getElem?_concat_length
          have hfollows : (s.follows ++ [clear :: clears])[s.identity.calls.length]? = some (clear :: clears) :=
            hpaired ▸ List.getElem?_concat_length
          simp only [after, noteAnswer, hidentity, hclears, hcall, hfollows]
          exact List.mem_append_right _ (List.mem_singleton_self _)
        exact .inr (h _ hnoted).2.symm
    | _ => trivial

/-- The start of an installation. -/
theorem barring_init (key : Option KeyText) (deviceId : Option α) : (installation key deviceId).init.Barring where
  sole := by
    refine ⟨fun _ _ _ hget => ?_, fun _ _ _ hget => ?_, fun _ _ _ hget => ?_, fun _ hmem => ?_⟩
    · cases hget
    · cases hget
    · cases hget
    · cases hmem
  paired := rfl
  returned _ hc := by cases hc
  gone _ hc := by cases hc
  follows _ hmem := by cases hmem
  kept _ _ hd := by cases hd
  fresh _ ha := by cases ha

end Installation

/-- **A cleared group gets a new device id exactly when the memory is not stale.** -/
theorem cleared_iff {α : Type} [DecidableEq α] (key : Option KeyText) (deviceId : Option α)
    {events : List (InstallationEvent α)}
    (hgen : (installation key deviceId).Meets Installation.Generates (installation key deviceId).init events)
    (hclean : (installation key deviceId).Meets Installation.Undisturbed (installation key deviceId).init events) :
    (installation key deviceId).Along Installation.FreshIds (installation key deviceId).init events ↔
      (installation key deviceId).Meets Installation.NotStale (installation key deviceId).init events :=
  Transition.System.along_iff_meets_of_kept (fun _ h => h.fresh)
    (fun _ _ _ h hd hst => ⟨fun hnow => h.step hd.1 hd.2 hnow hst, fun hfresh => hfresh.notStale h.paired hst⟩)
    (Installation.barring_init key deviceId) (hgen.and hclean)

/-- A `clear`, the second call of the group key service, from its beginning to its end. -/
def clearing : List (InstallationEvent String) :=
  [.key .clear, .key (.takeEffect 1), .key (.resume 1), .slotRemoved 0, .key (.resume 1)]

/-- An id is made while the cloud is asked for one. -/
def madeMeanwhile : List (InstallationEvent String) :=
  ([.lookUp, .ensureDeviceId "fresh", .landed 0, .written 0, .answered 0, .cleared 0, .found 0 (some "phone")]).map
    .identity

/-- The group is cleared before the id of the cloud is adopted. -/
theorem cleared_iff_adopted : (installation none none).Along Installation.FreshIds (installation none none).init
    (madeMeanwhile ++ clearing ++ [.identity (.adoptionLanded 0), .identity (.adopted 0),
      .identity (.ensureDeviceId "another")]) :=
  (cleared_iff none none (by decide +kernel) (by decide +kernel)).mpr (by decide +kernel)

/-- The id from before the `clear` is returned again, and the slot is empty. -/
theorem old_id_after_clear : ¬ (installation none (some "phone")).Along Installation.FreshIds
    (installation none (some "phone")).init
    ([.identity (.ensureDeviceId "fresh"), .identity (.answered 0)] ++ clearing ++
      [.identity (.ensureDeviceId "another")]) := by
  intro h
  have hlast := h.reached (a := [.identity (.ensureDeviceId "fresh"), .identity (.answered 0)] ++ clearing ++
    [.identity (.ensureDeviceId "another")]) (b := []) rfl
  exact (hlast ⟨"phone", none, ["phone"]⟩ (by decide +kernel)).1 (by decide)

end MagicShare.Account
