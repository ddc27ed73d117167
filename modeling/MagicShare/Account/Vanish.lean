import MagicShare.Base.Records
import MagicShare.Account.Repository

/-! When the local reset of a vanished group is triggered.

All listeners of account documents share one flag for "seen existing" and one for
"fired". Along every run in which the listener of a replaced attachment writes neither,
`onAccountVanished` is called at most once for an attachment, and only after its own
document was first seen existing and then missing (`vanishesOwn_of_meets`). -/
namespace MagicShare.Account

variable {α δ : Type}

namespace AccountRepository

/-! ### The property and its condition -/

/-- Each reset is for the document of the attachment at the time, which that attachment
had seen existing and then saw missing, and there is one at most for each. -/
structure VanishesOwn (s : AccountRepository α δ) : Prop where
  own : ∀ v ∈ s.vanished, ∃ (i : Nat) (a : Attachment α δ) (account : α), v.attachment = some i ∧
    s.attachments[i]? = some a ∧ v.accountId = some a.accountId ∧ [some account, none].Sublist a.accountSnapshots
  once : (s.vanished.map Vanish.attachment).Nodup

/-- A listener whose attachment was replaced finds the seen flag set where it would set
it, and does not fire. -/
def KeepsFlags (s : AccountRepository α δ) : AccountEvent α δ → Prop
  | .accountSnapshot attachment (some _) =>
    s.accountSubscription ≠ some attachment → s.accountDocSeenExisting = true
  | .accountSnapshot attachment none =>
    s.accountSubscription ≠ some attachment → s.accountDocSeenExisting = true → s.externalDeletionFired = true
  | _ => True

instance (s : AccountRepository α δ) (e : AccountEvent α δ) : Decidable (s.KeepsFlags e) :=
  match e with
  | .accountSnapshot _ (some _) => inferInstanceAs (Decidable (_ → _))
  | .accountSnapshot _ none => inferInstanceAs (Decidable (_ → _))
  | .authState _ | .refresh | .resume _ | .deviceIdResolved _ _ | .deviceSnapshot _ _ | .accountError _
  | .devicesError _ => .isTrue trivial

/-! ### What holds meanwhile -/

/-- The flags speak of the current attachment. -/
structure Watching (s : AccountRepository α δ) : Prop where
  vanishes : s.VanishesOwn
  current : ∀ i, s.accountSubscription = some i → ∃ a : Attachment α δ, s.attachments[i]? = some a ∧
    s.currentAccountId = some a.accountId ∧
    (s.accountDocSeenExisting = true → ∃ account, some account ∈ a.accountSnapshots) ∧
    (s.externalDeletionFired = false → ∀ v ∈ s.vanished, v.attachment ≠ some i)

variable {s t : AccountRepository α δ} {e : AccountEvent α δ}

theorem Watching.of_eq (h : s.Watching) (hattachments : t.attachments = s.attachments)
    (hvanished : t.vanished = s.vanished) (hsubscription : t.accountSubscription = s.accountSubscription)
    (hcurrent : t.currentAccountId = s.currentAccountId)
    (hseen : t.accountDocSeenExisting = s.accountDocSeenExisting)
    (hfired : t.externalDeletionFired = s.externalDeletionFired) : t.Watching := by
  refine ⟨⟨?_, ?_⟩, ?_⟩
  · rw [hattachments, hvanished]
    exact h.vanishes.own
  · rw [hvanished]
    exact h.vanishes.once
  · rw [hattachments, hvanished, hsubscription, hcurrent, hseen, hfired]
    exact h.current

/-- The attachment in the same place, after a change of one. -/
theorem Keeps.forth {i j : Nat} {f : Attachment α δ → Attachment α δ} (hf : Keeps f) {a : Attachment α δ}
    (h : s.attachments[j]? = some a) : ∃ b, (s.modifyAttachment i f).attachments[j]? = some b ∧
      b.accountId = a.accountId ∧ a.accountSnapshots.Sublist b.accountSnapshots := by
  refine ⟨if i = j then f a else a, by simp [modifyAttachment, List.getElem?_modify, h], ?_⟩
  split_ifs
  · exact ⟨hf.accountId a, hf.accountSnapshots a⟩
  · exact ⟨rfl, .refl _⟩

theorem VanishesOwn.modify {i : Nat} {f : Attachment α δ → Attachment α δ} (hf : Keeps f) (h : s.VanishesOwn) :
    (s.modifyAttachment i f).VanishesOwn := by
  refine ⟨fun v hv => ?_, h.once⟩
  obtain ⟨j, a, account, hattachment, ha, hid, hsub⟩ := h.own v hv
  obtain ⟨b, hb, hidb, hsubb⟩ := hf.forth ha
  exact ⟨j, b, account, hattachment, hb, hid.trans (congrArg some hidb.symm), hsub.trans hsubb⟩

theorem Watching.modify {i : Nat} {f : Attachment α δ → Attachment α δ} (hf : Keeps f) (h : s.Watching) :
    (s.modifyAttachment i f).Watching := by
  refine ⟨h.vanishes.modify hf, fun j hj => ?_⟩
  obtain ⟨a, ha, hcurrent, hseen, hfired⟩ := h.current j hj
  obtain ⟨b, hb, hid, hsub⟩ := hf.forth ha
  refine ⟨b, hb, hcurrent.trans (congrArg some hid.symm), fun hflag => ?_, hfired⟩
  obtain ⟨account, hmem⟩ := hseen hflag
  exact ⟨account, hsub.subset hmem⟩

/-- Without a current subscription the flags speak of none. -/
theorem VanishesOwn.watching (h : s.VanishesOwn) (hnone : s.accountSubscription = none) : s.Watching := by
  refine ⟨h, fun i hi => ?_⟩
  rw [hnone] at hi
  cases hi

theorem VanishesOwn.cancelDevicesSub (h : s.VanishesOwn) (devicesSub : Option Nat) :
    (s.cancelDevicesSub devicesSub).VanishesOwn := by
  cases devicesSub with
  | some i => exact h.modify keeps_cancelDevices
  | none => exact h

theorem Watching.cancelDevicesSub (h : s.Watching) (devicesSub : Option Nat) :
    (s.cancelDevicesSub devicesSub).Watching := by
  cases devicesSub with
  | some i => exact h.modify keeps_cancelDevices
  | none => exact h

/-! ### One step -/

theorem Watching.detach (h : s.Watching) (user : Option String) (kind : AccountTaskKind) :
    (AccountRepository.detach {s with authUser := user} kind).Watching := by
  have hcleared : (clearFields {s with authUser := user}).VanishesOwn := ⟨h.vanishes.own, h.vanishes.once⟩
  simp only [AccountRepository.detach]
  split
  · next accountSub hsub =>
    have hkept := hcleared.modify keeps_cancelAccount (i := accountSub)
    exact VanishesOwn.watching ⟨hkept.own, hkept.once⟩ rfl
  · next hsub =>
    have hkept := hcleared.cancelDevicesSub s.devicesSubscription
    apply VanishesOwn.watching
    · exact ⟨hkept.own, hkept.once⟩
    · cases s.devicesSubscription <;> rfl

/-- A new attachment starts with both flags cleared and no reset of its own. -/
theorem Watching.opened (h : s.Watching) (accountId deviceId : String) :
    (s.openSubscriptions accountId deviceId).Watching := by
  have hbefore : ∀ v ∈ s.vanished, v.attachment ≠ some s.attachments.length := by
    intro v hv hlast
    obtain ⟨i, a, -, hattachment, ha, -⟩ := h.vanishes.own v hv
    obtain rfl := Option.some.inj (hattachment.symm.trans hlast)
    simp at ha
  refine ⟨⟨fun v hv => ?_, h.vanishes.once⟩, fun i hi => ?_⟩
  · obtain ⟨i, a, account, hattachment, ha, hrest⟩ := h.vanishes.own v hv
    refine ⟨i, a, account, hattachment, ?_, hrest⟩
    simp [openSubscriptions, AccountRepository.emit, Records.append ha]
  · obtain rfl := Option.some.inj hi
    refine ⟨{accountId}, by simp [openSubscriptions, AccountRepository.emit], rfl, fun hseen => ?_, fun _ => hbefore⟩
    cases hseen

theorem Watching.emit (h : s.Watching) (state : AccountState α δ) : (s.emit state).Watching :=
  h.of_eq rfl rfl rfl rfl rfl rfl

theorem Watching.emitReady (h : s.Watching) : s.emitReady.Watching := by
  simp only [AccountRepository.emitReady]
  split
  · exact h.emit _
  · exact h

theorem sublist_of_mem_concat {l : List (Option α)} {account : α} (h : some account ∈ l) :
    [some account, none].Sublist (l ++ [none]) :=
  (List.singleton_sublist.mpr h).append (.refl [none])

/-- A listener that leaves the flags to the current attachment. -/
theorem Watching.onAccount (h : s.Watching) {attachment : Nat} {a : Attachment α δ}
    (hget : s.attachments[attachment]? = some a) (snap : Option α)
    (hc : s.KeepsFlags (.accountSnapshot attachment snap)) : (s.onAccount attachment snap).Watching := by
  have hkept : (s.deliverAccount attachment snap).Watching :=
    (h.modify (keeps_deliverAccount snap)).of_eq rfl rfl rfl rfl rfl rfl
  have hat : (s.deliverAccount attachment snap).attachments[attachment]? =
      some {a with accountSnapshots := a.accountSnapshots ++ [snap]} := by
    simp [deliverAccount, hget]
  refine Watching.emitReady ?_
  cases snap with
  | some account =>
    refine ⟨⟨hkept.vanishes.own, hkept.vanishes.once⟩, fun i hi => ?_⟩
    obtain ⟨b, hb, hcurrent, hseen, hfired⟩ := hkept.current i hi
    refine ⟨b, hb, hcurrent, fun _ => ?_, hfired⟩
    by_cases hown : i = attachment
    · subst hown
      obtain rfl := Option.some.inj (hat.symm.trans hb)
      exact ⟨account, by simp⟩
    · -- another listener's document: the flag was set before
      exact hseen (hc fun heq => hown (Option.some.inj (hi.symm.trans heq)))
  | none =>
    simp only [noteExistence]
    split_ifs with hfires
    · obtain ⟨hseen, hfired⟩ : s.accountDocSeenExisting = true ∧ s.externalDeletionFired = false := by
        simpa [deliverAccount] using hfires
      have hown : s.accountSubscription = some attachment := by
        by_contra hne
        rw [hc hne hseen] at hfired
        cases hfired
      obtain ⟨b, hb, hcurrent, hdelivered, hunfired⟩ := h.current attachment hown
      obtain rfl := Option.some.inj (hget.symm.trans hb)
      obtain ⟨account, hmem⟩ := hdelivered hseen
      refine ⟨⟨fun v hv => ?_, ?_⟩, fun i hi => ?_⟩
      · rcases List.mem_append.mp hv with hold | hnew
        · exact hkept.vanishes.own v hold
        · obtain rfl := List.mem_singleton.mp hnew
          exact ⟨attachment, _, account, hown, hat, hcurrent, sublist_of_mem_concat hmem⟩
      · have hnodup := h.vanishes.once
        simp only [deliverAccount, List.map_append, List.map_cons, List.map_nil, hown]
        refine List.nodup_append.mpr ⟨hnodup, by simp, ?_⟩
        rintro x hx y hy rfl
        obtain ⟨v, hv, rfl⟩ := List.mem_map.mp hx
        exact hunfired hfired v hv (List.mem_singleton.mp hy)
      · obtain ⟨b, hb, hcurrent', hseen', -⟩ := hkept.current i hi
        exact ⟨b, hb, hcurrent', hseen', fun hunfired' => absurd hunfired' (by simp)⟩
    · exact hkept

theorem Watching.step (h : s.Watching) (hc : s.KeepsFlags e) (hm : Moves s e t) : t.Watching := by
  cases hm with
  | sameUser => exact h.of_eq rfl rfl rfl rfl rfl rfl
  | otherUser => exact h.detach _ _
  | signOut => exact h.detach _ _
  | refresh => exact h.detach s.authUser _
  | refreshNothing => exact h
  | cancelled => exact (h.cancelDevicesSub _).of_eq rfl rfl rfl rfl rfl rfl
  | detached => exact h.of_eq rfl rfl rfl rfl rfl rfl
  | idled => exact h.of_eq rfl rfl rfl rfl rfl rfl
  | opened =>
    rename_i task accountId deviceId _
    have hset : (s.setPhase task (.attachToAccount accountId) .finished).Watching := h.of_eq rfl rfl rfl rfl rfl rfl
    exact hset.opened accountId deviceId
  | unresolved => exact h.of_eq rfl rfl rfl rfl rfl rfl
  | accountSnapshot hget hlive snap => exact h.onAccount hget snap hc
  | deviceSnapshot hget hlive devices =>
    exact Watching.emitReady ((h.modify (keeps_deliverDevices devices)).of_eq rfl rfl rfl rfl rfl rfl)
  | accountError => exact h.emit _
  | devicesError => exact h.emit _

theorem start_watching (user : Option String) : (start user : AccountRepository α δ).Watching := by
  have hempty : Watching ({} : AccountRepository α δ) := VanishesOwn.watching ⟨by simp, .nil⟩ rfl
  cases user with
  | none => exact hempty.emit _
  | some uid => exact (hempty.detach (some uid) _).emit _

end AccountRepository

/-! ### All runs -/

/-- **A reset is triggered by the current attachment alone, where replaced listeners
leave the flags to it.** -/
theorem vanishesOwn_of_meets (user : Option String) (events : List (AccountEvent α δ))
    (hc : (accountRepository α δ user).Meets AccountRepository.KeepsFlags (accountRepository α δ user).init events) :
    (accountRepository α δ user).Along AccountRepository.VanishesOwn (accountRepository α δ user).init events :=
  Transition.System.along_of_meets
    (fun _ _ _ h hc hst => h.step hc (AccountRepository.moves_of_step hst)) (fun _ => AccountRepository.Watching.vanishes)
    (AccountRepository.start_watching user) hc

/-- Two users one after the other, and the group of the second is deleted. -/
theorem vanishesOwn_of_two_users :
    (accountRepository Nat Nat (some "a")).Along AccountRepository.VanishesOwn (accountRepository Nat Nat (some "a")).init
      [.resume 0, .deviceIdResolved 0 (some "d"), .accountSnapshot 0 (some 1), .authState (some "b"), .resume 1, .resume 1,
        .deviceIdResolved 1 (some "d"), .accountSnapshot 1 none, .accountSnapshot 1 (some 2), .accountSnapshot 1 none,
        .accountSnapshot 1 none] :=
  vanishesOwn_of_meets (some "a") _ (by decide +kernel)

/-- The user changes while the first attach waits for the device id: the first user's
document is seen, the second's does not exist yet, and the second's group is reset. -/
theorem reset_before_the_document_exists :
    ∃ t, (accountRepository Nat Nat (some "a")).run (accountRepository Nat Nat (some "a")).init
        [.resume 0, .authState (some "b"), .resume 1, .deviceIdResolved 0 (some "d"), .deviceIdResolved 1 (some "d"),
          .accountSnapshot 0 (some 7), .accountSnapshot 1 none] = some t ∧
      t.vanished = [⟨some 1, some "b"⟩] ∧ t.attachments[1]? = some ⟨"b", true, true, [none], []⟩ ∧ ¬ t.VanishesOwn := by
  refine ⟨_, rfl, by decide +kernel, by decide +kernel, fun hown => ?_⟩
  obtain ⟨i, a, account, hattachment, ha, -, hsub⟩ := hown.own ⟨some 1, some "b"⟩ (by decide +kernel)
  obtain rfl := Option.some.inj hattachment
  obtain rfl : ⟨"b", true, true, [none], []⟩ = a := Option.some.inj ha
  exact absurd hsub.length_le (by simp)

end MagicShare.Account
