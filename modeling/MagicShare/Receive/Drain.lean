import MagicShare.Receive.Lifecycle
import MagicShare.Receive.Uploads

/-! What is left of a session whose sender is gone.

A server that only one address talks to knows no sessions but those of its own requests.
Once these are answered, a session that has errors, or whose files were canceled, takes
nothing but the uploads that are still on their way, and these end: `Draining` says so,
and that it stays so is `Draining.moves`. -/
namespace MagicShare.Receive
namespace ReceiveServer

variable {config : ReceiveConfig} {s t : ReceiveServer} {e : ReceiveEvent} {h u : Nat} {p q : Prepare} {own : Nat}
  {upload : Upload} {quickSave : Bool}

/-! ### Sessions and their requests -/

/-- A request has installed the session with this id. -/
def HasId (s : ReceiveServer) (own : Nat) : Prop := ∃ p ∈ s.prepares, p.sessionId = some own

theorem hasId_of_moves (hm : Moves config s e t) (hid : s.HasId own) : t.HasId own := by
  obtain ⟨p, hp, hown⟩ := hid
  rcases prepares_of_moves hm with hsame | ⟨ip, pin, phase, -, happend⟩ | ⟨h, p', q, hget, -, hset, -, hkept⟩
  · exact ⟨p, hsame ▸ hp, hown⟩
  · exact ⟨p, by rw [happend]; exact List.mem_append_left _ hp, hown⟩
  · obtain ⟨i, hi⟩ := List.mem_iff_getElem?.mp hp
    by_cases hne : h = i
    · subst hne
      obtain rfl := Option.some.inj (hget.symm.trans hi)
      refine ⟨q, ?_, hkept own hown⟩
      rw [hset]
      exact List.mem_set (List.getElem?_eq_some_iff.mp hget).1 _
    · refine ⟨p, ?_, hown⟩
      rw [hset]
      exact List.mem_of_getElem? ((List.getElem?_set_ne hne).trans hi)

/-- A request without a session is granted nothing. -/
def Ungranted : PreparePhase → Prop
  | .askingPermission _ => False
  | .answered response _ => response.grant = none
  | _ => True

/-- The requests come from one address, and the answer of each is about its own session. -/
structure Prepared (ip : String) (s : ReceiveServer) : Prop where
  address : ∀ p ∈ s.prepares, p.ip = ip
  concluded : ∀ p ∈ s.prepares, ∀ own, p.sessionId = some own →
    p.phase = .openingLink ∨ (∃ decision, p.phase = .deciding decision) ∨ Concluded own p.phase
  ungranted : ∀ p ∈ s.prepares, p.sessionId = none → Ungranted p.phase

theorem Prepared.of_eq {ip : String} (hprepared : s.Prepared ip) (hprepares : t.prepares = s.prepares) :
    t.Prepared ip := by
  obtain ⟨haddress, hconcluded, hungranted⟩ := hprepared
  constructor <;> rw [hprepares] <;> assumption

/-- A request that goes on. -/
theorem Prepared.set {ip : String} (hprepared : s.Prepared ip) (hget : s.prepares[h]? = some p)
    (hprepares : t.prepares = s.prepares.set h q) (hip : q.ip = p.ip)
    (hconcluded : ∀ own, q.sessionId = some own →
      q.phase = .openingLink ∨ (∃ decision, q.phase = .deciding decision) ∨ Concluded own q.phase)
    (hungranted : q.sessionId = none → Ungranted q.phase) : t.Prepared ip := by
  have hmem : ∀ r ∈ t.prepares, r ∈ s.prepares ∨ r = q := fun r hr => by
    rw [hprepares] at hr
    exact List.mem_or_eq_of_mem_set hr
  refine ⟨fun r hr => ?_, fun r hr => ?_, fun r hr => ?_⟩
  · rcases hmem r hr with hold | rfl
    · exact hprepared.address r hold
    · exact hip.trans (hprepared.address p (List.mem_of_getElem? hget))
  · rcases hmem r hr with hold | rfl
    · exact hprepared.concluded r hold
    · exact hconcluded
  · rcases hmem r hr with hold | rfl
    · exact hprepared.ungranted r hold
    · exact hungranted

theorem Prepared.append {ip : String} (hprepared : s.Prepared ip) {phase : PreparePhase}
    (hprepares : t.prepares = s.prepares ++ [⟨ip, none, phase⟩])
    (hungranted : Ungranted phase) : t.Prepared ip := by
  have hmem : ∀ r ∈ t.prepares, r ∈ s.prepares ∨ r = ⟨ip, none, phase⟩ := fun r hr => by
    rw [hprepares] at hr
    exact (List.mem_append.mp hr).imp_right List.mem_singleton.mp
  refine ⟨fun r hr => ?_, fun r hr => ?_, fun r hr => ?_⟩
  · rcases hmem r hr with hold | rfl
    · exact hprepared.address r hold
    · rfl
  · rcases hmem r hr with hold | rfl
    · exact hprepared.concluded r hold
    · intro own hown
      cases hown
  · rcases hmem r hr with hold | rfl
    · exact hprepared.ungranted r hold
    · exact fun _ => hungranted

/-- Requests from the one address. -/
def From (ip : String) : ReceiveEvent → Prop
  | .prepareUpload other _ => other = ip
  | _ => True

theorem Prepared.moves {ip : String} (hprepared : s.Prepared ip) (hm : Moves config s e t) (hfrom : From ip e) :
    t.Prepared ip := by
  cases hm with
  | blocked hsession =>
    obtain rfl := hfrom
    exact hprepared.append rfl rfl
  | arrived hsession hphase =>
    obtain rfl := hfrom
    refine hprepared.append rfl ?_
    rcases hphase with rfl | ⟨code, message, -, rfl⟩
    · trivial
    · rfl
  | refused hget =>
    exact hprepared.set hget rfl rfl (by simp) fun _ => rfl
  | bodyRead hget => exact hprepared.set hget rfl rfl (by simp) fun _ => trivial
  | installed hget hphase =>
    refine hprepared.set hget rfl rfl (fun own _ => ?_) (by simp)
    rcases hphase with rfl | rfl <;> simp
  | accepted hget hmessage selected =>
    rename_i h ip' dto
    obtain ⟨⟨phase, hprepares, hconcluded⟩, -⟩ := onDecision_spec config
      (s.install h ⟨ip', none, .resolvingDirectories dto⟩ dto (.deciding none)) h
      ⟨ip', some s.nextId, .resolvingDirectories dto⟩ s.nextId (some selected)
    refine hprepared.set hget (hprepares.trans (List.set_set ..)) rfl (fun own hown => ?_) (by simp)
    obtain rfl := Option.some.inj hown
    exact .inr (.inr hconcluded)
  | wentOn hget hphase =>
    rename_i h ip' own phase selection
    obtain ⟨⟨phase', hprepares, hconcluded⟩, -⟩ := onDecision_spec config s h ⟨ip', some own, phase⟩ own selection
    refine hprepared.set hget hprepares rfl (fun own' hown => ?_) (by simp)
    obtain rfl := Option.some.inj hown
    exact .inr (.inr hconcluded)
  | permitted hget =>
    rename_i h ip' own granted
    refine hprepared.set hget rfl rfl (fun own' hown => ?_) fun hnone => ?_
    · rcases hprepared.concluded _ (List.mem_of_getElem? hget) own' hown with hphase | ⟨_, hphase⟩ | hconcluded
      · cases hphase
      · cases hphase
      · refine .inr (.inr ⟨Nat.ne_of_beq_eq_false rfl, fun granted' hgrant => ?_⟩)
        obtain rfl := Option.some.inj hgrant
        exact hconcluded
    · exact (hprepared.ungranted _ (List.mem_of_getElem? hget) hnone).elim
  | acceptFileRequest | declineFileRequest =>
    rcases respond_spec (s := s) _ with hsame | ⟨h, p, hget, hphase, hset⟩
    · rw [hsame]
      exact hprepared
    · rw [hset]
      exact hprepared.set hget rfl rfl (fun _ _ => .inr (.inl ⟨_, rfl⟩)) fun _ => trivial
  | cancelRefused => exact hprepared
  | canceled => exact hprepared.of_eq rfl
  | closeSession => exact hprepared.of_eq rfl
  | cancelSession => exact hprepared.of_eq rfl
  | uploadRefused => exact hprepared.of_eq rfl
  | uploadBegan => exact hprepared.of_eq rfl
  | saved => exact hprepared.of_eq concludes_finishUpload.prepares
  | saveFailed => exact hprepared.of_eq concludes_failUpload.prepares
  | recorded => exact hprepared.of_eq concludes_concludeUpload.prepares
  | recordFailed => exact hprepared.of_eq concludes_failUpload.prepares
  | delayedClosed => exact hprepared.of_eq rfl
  | delayedNothing => exact hprepared.of_eq rfl

/-! ### What uploads do to the session -/

/-- The statuses of a file that is done with. -/
def endedFiles : List FileStatus := [.skipped, .failed, .finished]

theorem isFinishedOrError_iff {session : ReceiveSession} :
    session.isFinishedOrError = true ↔ ∀ entry ∈ session.files, entry.2.status ∈ endedFiles := by
  simp [ReceiveSession.isFinishedOrError, endedFiles]

/-- A file that ends, and the others. -/
theorem mem_fileFinished {session after : ReceiveSession} {fileId : String} {status : FileStatus}
    (h : session.fileFinished fileId status = some after) {entry : String × ReceivingFile} (hentry : entry ∈ after.files) :
    entry.1 = fileId ∧ entry.2.status = status ∨ entry.1 ≠ fileId ∧ entry ∈ session.files := by
  simp only [ReceiveSession.fileFinished] at h
  split_ifs at h
  obtain rfl := Option.some.inj h
  obtain ⟨⟨id, file⟩, hmem, rfl⟩ := List.mem_map.mp hentry
  by_cases hid : id = fileId
  · simp [hid]
  · simp [hid, hmem]

/-- What an upload makes of a session: a status is written once all files have ended. -/
structure Marks (before after : ReceiveSession) : Prop where
  sessionId : after.sessionId = before.sessionId
  senderIp : after.senderIp = before.senderIp
  status : after.status = before.status ∨ after.status ≠ .waiting ∧ after.isFinishedOrError = true
  ended : before.isFinishedOrError = true → after.isFinishedOrError = true

theorem Marks.refl (session : ReceiveSession) : Marks session session := ⟨rfl, rfl, .inl rfl, id⟩

theorem marks_fileFinished {session after : ReceiveSession} {fileId : String} {status : FileStatus}
    (h : session.fileFinished fileId status = some after) (hstatus : status ∈ endedFiles) : Marks session after := by
  refine ⟨fileFinished_sessionId h, ?_, .inl ?_, fun hended => ?_⟩
  · rw [fileFinished_eq h]
  · rw [fileFinished_eq h]
  · rw [isFinishedOrError_iff] at hended ⊢
    intro entry hentry
    rcases mem_fileFinished h hentry with ⟨-, hnew⟩ | ⟨-, hold⟩
    · rw [hnew]
      exact hstatus
    · exact hended entry hold

theorem Marks.trans {a b c : ReceiveSession} (hab : Marks a b) (hbc : Marks b c) : Marks a c := by
  refine ⟨hbc.sessionId.trans hab.sessionId, hbc.senderIp.trans hab.senderIp, ?_, fun h => hbc.ended (hab.ended h)⟩
  rcases hbc.status with hsame | hdone
  · rcases hab.status with hfirst | ⟨hwaits, hended⟩
    · exact .inl (hsame.trans hfirst)
    · exact .inr ⟨hsame ▸ hwaits, hbc.ended hended⟩
  · exact .inr hdone

/-- The end of an upload marks the session in the slot, if there is one. -/
def MarksSlot (s t : ReceiveServer) : Prop :=
  ∀ after, t.session = some after → ∃ before, s.session = some before ∧ Marks before after

theorem marksSlot_of_eq (hsession : t.session = s.session) : s.MarksSlot t :=
  fun after hafter => ⟨after, hsession ▸ hafter, Marks.refl after⟩

theorem marksSlot_finishFile (upload : Upload) {session after : ReceiveSession} (hsession : s.session = some session)
    (hmarks : Marks session after) : s.MarksSlot (s.finishFile upload after) := fun found hfound => by
  obtain rfl := Option.some.inj hfound
  exact ⟨session, hsession, hmarks⟩

theorem MarksSlot.trans {m : ReceiveServer} (hsm : s.MarksSlot m) (hmt : m.MarksSlot t) : s.MarksSlot t := by
  intro after hafter
  obtain ⟨middle, hmiddle, hsecond⟩ := hmt after hafter
  obtain ⟨before, hbefore, hfirst⟩ := hsm middle hmiddle
  exact ⟨before, hbefore, hfirst.trans hsecond⟩

theorem marksSlot_concludeUpload : s.MarksSlot (s.concludeUpload u upload quickSave) := by
  simp only [concludeUpload]
  split
  · exact marksSlot_of_eq rfl
  · next session hsession =>
    by_cases hdone : session.status ∈ allowedStates ∧ session.isFinishedOrError = true
    · rw [if_pos hdone]
      intro after hafter
      obtain rfl := Option.some.inj hafter
      refine ⟨session, hsession, rfl, rfl, .inr ⟨?_, hdone.2⟩, id⟩
      split <;> simp
    · rw [if_neg hdone]
      exact marksSlot_of_eq rfl

theorem marksSlot_failUpload : s.MarksSlot (s.failUpload u upload quickSave) := by
  simp only [failUpload]
  split
  · exact marksSlot_concludeUpload
  · next session hsession =>
    split
    · exact marksSlot_of_eq rfl
    · next after hafter =>
      exact (marksSlot_finishFile upload hsession (marks_fileFinished hafter (by decide))).trans marksSlot_concludeUpload

theorem marksSlot_finishUpload : s.MarksSlot (s.finishUpload u upload quickSave) := by
  simp only [finishUpload]
  split
  · exact marksSlot_of_eq rfl
  · next session hsession =>
    split_ifs
    · split
      · exact marksSlot_failUpload
      · next after hafter =>
        exact marksSlot_finishFile upload hsession (marks_fileFinished hafter (by decide))
    · exact marksSlot_of_eq rfl

/-! ### The session in the slot -/

/-- The session in the slot is that of a request, which is not answered as long as the
session waits, and whose files have ended once the session has. -/
structure Slotted (ip : String) (s : ReceiveServer) : Prop where
  slot : ∀ session, s.session = some session → session.senderIp = ip ∧ s.HasId session.sessionId
  waiting : ∀ session, s.session = some session → session.status = .waiting →
    ∃ p ∈ s.prepares, p.phase = .openingLink ∨ ∃ decision, p.phase = .deciding decision
  ended : ∀ session, s.session = some session → session.status ∈ [SessionStatus.finished, .finishedWithErrors] →
    session.isFinishedOrError = true

theorem slotted_of_free {ip : String} (hsession : s.session = none) : s.Slotted ip := by
  constructor <;> simp [hsession]

/-- A session that neither waits nor is over. -/
theorem slotted_of_running {ip : String} {session : ReceiveSession} (hsession : s.session = some session)
    (hslot : session.senderIp = ip ∧ s.HasId session.sessionId) (hwaiting : session.status ≠ .waiting)
    (hended : session.status ∉ [SessionStatus.finished, .finishedWithErrors]) : s.Slotted ip := by
  refine ⟨fun found hfound => ?_, fun found hfound hstatus => ?_, fun found hfound hstatus => ?_⟩
  · obtain rfl := Option.some.inj (hsession.symm.trans hfound)
    exact hslot
  · obtain rfl := Option.some.inj (hsession.symm.trans hfound)
    exact absurd hstatus hwaiting
  · obtain rfl := Option.some.inj (hsession.symm.trans hfound)
    exact absurd hstatus hended

/-- The session stays, and so do the requests that wait. -/
theorem Slotted.of_same {ip : String} (hslotted : s.Slotted ip) (hm : Moves config s e t) (hsession : t.session = s.session)
    (hwaiting : ∀ p ∈ s.prepares, (p.phase = .openingLink ∨ ∃ decision, p.phase = .deciding decision) →
      ∃ q ∈ t.prepares, q.phase = .openingLink ∨ ∃ decision, q.phase = .deciding decision) : t.Slotted ip := by
  refine ⟨fun session hs => ?_, fun session hs hstatus => ?_, ?_⟩
  · rw [hsession] at hs
    exact (hslotted.slot session hs).imp_right (hasId_of_moves hm)
  · rw [hsession] at hs
    obtain ⟨p, hp, hphase⟩ := hslotted.waiting session hs hstatus
    exact hwaiting p hp hphase
  · rw [hsession]
    exact hslotted.ended

/-- The session is marked. -/
theorem Slotted.marked {ip : String} (hslotted : s.Slotted ip) (hprepares : t.prepares = s.prepares)
    (hmarks : s.MarksSlot t) : t.Slotted ip := by
  refine ⟨fun after hafter => ?_, fun after hafter hstatus => ?_, fun after hafter hstatus => ?_⟩
  · obtain ⟨before, hbefore, hmark⟩ := hmarks after hafter
    obtain ⟨hip, p, hp, hown⟩ := hslotted.slot before hbefore
    exact ⟨hmark.senderIp.trans hip, p, hprepares ▸ hp, hown.trans (congrArg some hmark.sessionId.symm)⟩
  · obtain ⟨before, hbefore, hmark⟩ := hmarks after hafter
    rw [hprepares]
    rcases hmark.status with hsame | ⟨hwaits, -⟩
    · exact hslotted.waiting before hbefore (hsame.symm.trans hstatus)
    · exact absurd hstatus hwaits
  · obtain ⟨before, hbefore, hmark⟩ := hmarks after hafter
    rcases hmark.status with hsame | ⟨-, hended⟩
    · exact hmark.ended (hslotted.ended before hbefore (hsame ▸ hstatus))
    · exact hended

/-- A request changes that does not wait, or still does. -/
theorem waiting_of_set (hget : s.prepares[h]? = some p) (hprepares : t.prepares = s.prepares.set h q)
    (hphase : p.phase = .openingLink ∨ (∃ decision, p.phase = .deciding decision) →
      q.phase = .openingLink ∨ ∃ decision, q.phase = .deciding decision) :
    ∀ r ∈ s.prepares, (r.phase = .openingLink ∨ ∃ decision, r.phase = .deciding decision) →
      ∃ r' ∈ t.prepares, r'.phase = .openingLink ∨ ∃ decision, r'.phase = .deciding decision := by
  intro r hr hwaits
  obtain ⟨i, hi⟩ := List.mem_iff_getElem?.mp hr
  by_cases hne : h = i
  · subst hne
    obtain rfl := Option.some.inj (hget.symm.trans hi)
    refine ⟨q, ?_, hphase hwaits⟩
    rw [hprepares]
    exact List.mem_set (List.getElem?_eq_some_iff.mp hget).1 _
  · refine ⟨r, ?_, hwaits⟩
    rw [hprepares]
    exact List.mem_of_getElem? ((List.getElem?_set_ne hne).trans hi)

/-- A decision leaves no session, or one that takes files. -/
theorem Slotted.onDecision {ip : String} {selection : Selection}
    (hid : ∀ session, s.session = some session → session.senderIp = ip ∧
      (s.onDecision config h p own selection).HasId session.sessionId) :
    (s.onDecision config h p own selection).Slotted ip := by
  obtain ⟨-, ⟨hsession, -⟩ | ⟨session, selected, hsession, -, -, hafter, -⟩⟩ :=
    onDecision_spec config s h p own selection
  · exact slotted_of_free hsession
  · exact slotted_of_running hafter (hid session hsession) (by simp [ReceiveSession.accepted])
      (by simp [ReceiveSession.accepted])

theorem Slotted.moves {ip : String} (hslotted : s.Slotted ip) (hprepared : s.Prepared ip) (hm : Moves config s e t) :
    t.Slotted ip := by
  have hmono : ∀ own, s.HasId own → t.HasId own := fun _ => hasId_of_moves hm
  cases id hm with
  | blocked => exact hslotted.of_same hm rfl fun p hp hphase => ⟨p, List.mem_append_left _ hp, hphase⟩
  | arrived hsession => exact slotted_of_free hsession
  | refused hget => exact hslotted.of_same hm rfl (waiting_of_set hget rfl (by simp))
  | bodyRead hget => exact hslotted.of_same hm rfl (waiting_of_set hget rfl (by simp))
  | installed hget hphase =>
    rename_i h ip' dto acceptAll phase
    have hmem : (⟨ip', some s.nextId, phase⟩ : Prepare) ∈
        (s.install h ⟨ip', none, .resolvingDirectories dto⟩ dto phase).prepares :=
      List.mem_set (List.getElem?_eq_some_iff.mp hget).1 _
    refine ⟨fun session hs => ?_, fun session hs _ => ⟨_, hmem, ?_⟩, fun session hs hstatus => ?_⟩
    · obtain rfl := Option.some.inj hs
      exact ⟨hprepared.address _ (List.mem_of_getElem? hget), _, hmem, rfl⟩
    · rcases hphase with rfl | rfl <;> simp
    · obtain rfl := Option.some.inj hs
      simp at hstatus
  | accepted hget hmessage selected =>
    rename_i h ip' dto
    obtain ⟨⟨phase, hprepares, -⟩, -⟩ := onDecision_spec config
      (s.install h ⟨ip', none, .resolvingDirectories dto⟩ dto (.deciding none)) h
      ⟨ip', some s.nextId, .resolvingDirectories dto⟩ s.nextId (some selected)
    refine Slotted.onDecision fun session hs => ?_
    obtain rfl := Option.some.inj hs
    refine ⟨hprepared.address _ (List.mem_of_getElem? hget), ⟨ip', some s.nextId, phase⟩, ?_, rfl⟩
    rw [hprepares]
    exact List.mem_set (by simpa [install] using (List.getElem?_eq_some_iff.mp hget).1) _
  | wentOn hget hphase =>
    exact Slotted.onDecision fun session hs => (hslotted.slot session hs).imp_right (hmono _)
  | permitted hget => exact hslotted.of_same hm rfl (waiting_of_set hget rfl (by simp))
  | acceptFileRequest | declineFileRequest =>
    rcases respond_spec (s := s) _ with hsame | ⟨h, p, hget, hphase, hset⟩
    · rw [hsame]
      exact hslotted
    · rw [hset] at hm ⊢
      exact hslotted.of_same hm rfl (waiting_of_set hget rfl fun _ => .inr ⟨_, rfl⟩)
  | cancelRefused => exact hslotted
  | canceled hsession =>
    exact slotted_of_running rfl ((hslotted.slot _ hsession).imp_right (hmono _)) (by simp) (by simp)
  | closeSession => exact slotted_of_free rfl
  | cancelSession => exact slotted_of_free rfl
  | uploadRefused => exact hslotted.of_same hm rfl fun p hp hphase => ⟨p, hp, hphase⟩
  | uploadBegan hcheck =>
    obtain ⟨hsession, -, -⟩ := checkUpload_ok hcheck
    exact slotted_of_running rfl ((hslotted.slot _ hsession).imp_right (hmono _)) (by simp) (by simp)
  | saved => exact hslotted.marked concludes_finishUpload.prepares marksSlot_finishUpload
  | saveFailed => exact hslotted.marked concludes_failUpload.prepares marksSlot_failUpload
  | recorded => exact hslotted.marked concludes_concludeUpload.prepares marksSlot_concludeUpload
  | recordFailed => exact hslotted.marked concludes_failUpload.prepares marksSlot_failUpload
  | delayedClosed => exact slotted_of_free rfl
  | delayedNothing => exact hslotted.of_same hm rfl fun p hp hphase => ⟨p, hp, hphase⟩

/-! ### Uploads and delayed closes of these sessions -/

structure Owned (s : ReceiveServer) : Prop where
  pending : ∀ upload ∈ s.uploads, 0 < upload.phase.rank → upload.sessionId.isSome
  uploads : ∀ upload ∈ s.uploads, ∀ own, upload.sessionId = some own → s.HasId own
  closes : ∀ entry ∈ s.delayedCloses, ∃ own, entry = some own ∧ s.HasId own

theorem closes_concludeUpload : (s.concludeUpload u upload quickSave).delayedCloses = s.delayedCloses ∨
    (s.concludeUpload u upload quickSave).delayedCloses = s.delayedCloses ++ [upload.sessionId] := by
  simp only [concludeUpload]
  split
  · exact .inl rfl
  · next session _ =>
    by_cases hdone : session.status ∈ allowedStates ∧ session.isFinishedOrError = true
    · rw [if_pos hdone]
      by_cases hquick : (quickSave && !session.message) = true
      · exact .inr (if_pos hquick)
      · exact .inl (if_neg hquick)
    · rw [if_neg hdone]
      exact .inl rfl

theorem closes_failUpload : (s.failUpload u upload quickSave).delayedCloses = s.delayedCloses ∨
    (s.failUpload u upload quickSave).delayedCloses = s.delayedCloses ++ [upload.sessionId] := by
  simp only [failUpload]
  split
  · exact closes_concludeUpload
  · split
    · exact .inl rfl
    · next session _ =>
      exact closes_concludeUpload (s := s.finishFile upload session)

theorem closes_finishUpload : (s.finishUpload u upload quickSave).delayedCloses = s.delayedCloses ∨
    (s.finishUpload u upload quickSave).delayedCloses = s.delayedCloses ++ [upload.sessionId] := by
  simp only [finishUpload]
  split
  · exact .inl rfl
  · split_ifs
    · split
      · exact closes_failUpload
      · exact .inl rfl
    · exact .inl rfl

/-- An upload goes on, and may leave a delayed close. -/
theorem Owned.set (howned : s.Owned) {phase : UploadPhase} (hget : s.uploads[u]? = some upload)
    (hrank : 0 < upload.phase.rank) (hprepares : t.prepares = s.prepares)
    (huploads : t.uploads = s.uploads.set u {upload with phase})
    (hcloses : t.delayedCloses = s.delayedCloses ∨ t.delayedCloses = s.delayedCloses ++ [upload.sessionId]) : t.Owned := by
  have hmem := List.mem_of_getElem? hget
  have hid : ∀ {own}, s.HasId own → t.HasId own := fun ⟨p, hp, hown⟩ => ⟨p, hprepares ▸ hp, hown⟩
  refine ⟨fun a ha hpending => ?_, fun a ha own hown => ?_, fun entry hentry => ?_⟩
  · rw [huploads] at ha
    rcases List.mem_or_eq_of_mem_set ha with hold | rfl
    · exact howned.pending a hold hpending
    · exact howned.pending upload hmem hrank
  · rw [huploads] at ha
    rcases List.mem_or_eq_of_mem_set ha with hold | rfl
    · exact hid (howned.uploads a hold own hown)
    · exact hid (howned.uploads upload hmem own hown)
  · have hentry' : entry ∈ s.delayedCloses ∨ entry = upload.sessionId := by
      rcases hcloses with hsame | happend
      · exact .inl (hsame ▸ hentry)
      · rw [happend] at hentry
        exact (List.mem_append.mp hentry).imp_right List.mem_singleton.mp
    rcases hentry' with hold | rfl
    · obtain ⟨own, heq, hown⟩ := howned.closes entry hold
      exact ⟨own, heq, hid hown⟩
    · obtain ⟨own, hown⟩ := Option.isSome_iff_exists.mp (howned.pending upload hmem hrank)
      exact ⟨own, hown, hid (howned.uploads upload hmem own hown)⟩

/-- Fewer delayed closes, the same uploads, and no fewer sessions. -/
theorem Owned.of_subset (howned : s.Owned) (hid : ∀ own, s.HasId own → t.HasId own) (huploads : t.uploads = s.uploads)
    (hcloses : t.delayedCloses ⊆ s.delayedCloses) : t.Owned := by
  refine ⟨huploads ▸ howned.pending, fun a ha own hown => ?_, fun entry hentry => ?_⟩
  · exact hid own (howned.uploads a (huploads ▸ ha) own hown)
  · obtain ⟨own, heq, hown⟩ := howned.closes entry (hcloses hentry)
    exact ⟨own, heq, hid own hown⟩

theorem Owned.append (howned : s.Owned) {a : Upload} (hprepares : t.prepares = s.prepares)
    (huploads : t.uploads = s.uploads ++ [a]) (hcloses : t.delayedCloses = s.delayedCloses)
    (hpending : 0 < a.phase.rank → a.sessionId.isSome) (hown : ∀ own, a.sessionId = some own → s.HasId own) :
    t.Owned := by
  have hid : ∀ {own}, s.HasId own → t.HasId own := fun ⟨p, hp, howner⟩ => ⟨p, hprepares ▸ hp, howner⟩
  have hmem : ∀ b ∈ t.uploads, b ∈ s.uploads ∨ b = a := fun b hb => by
    rw [huploads] at hb
    exact (List.mem_append.mp hb).imp_right List.mem_singleton.mp
  refine ⟨fun b hb => ?_, fun b hb own howner => ?_, fun entry hentry => ?_⟩
  · rcases hmem b hb with hold | rfl
    · exact howned.pending b hold
    · exact hpending
  · rcases hmem b hb with hold | rfl
    · exact hid (howned.uploads b hold own howner)
    · exact hid (hown own howner)
  · rw [hcloses] at hentry
    obtain ⟨own, heq, howner⟩ := howned.closes entry hentry
    exact ⟨own, heq, hid howner⟩

theorem Owned.moves {ip : String} (howned : s.Owned) (hslotted : s.Slotted ip) (hm : Moves config s e t) : t.Owned := by
  cases he : ofUploads e with
  | false =>
    have hleaves := leavesUploads_of_moves hm he
    exact howned.of_subset (fun own => hasId_of_moves hm) hleaves.uploads fun entry hentry => hleaves.delayedCloses ▸ hentry
  | true =>
    cases hm with
    | uploadRefused => exact howned.append rfl rfl rfl (fun hrank => absurd hrank (Nat.lt_irrefl 0)) (by simp)
    | uploadBegan hcheck =>
      obtain ⟨hsession, -, -⟩ := checkUpload_ok hcheck
      refine howned.append rfl rfl rfl (fun _ => rfl) fun own hown => ?_
      obtain rfl := Option.some.inj hown
      exact (hslotted.slot _ hsession).2
    | saved hget =>
      obtain ⟨phase, -, huploads⟩ := finishUpload_uploads s _ _ _
      exact howned.set hget Nat.zero_lt_two concludes_finishUpload.prepares huploads closes_finishUpload
    | saveFailed hget =>
      obtain ⟨phase, -, huploads⟩ := failUpload_uploads s _ _ _
      exact howned.set hget Nat.zero_lt_two concludes_failUpload.prepares huploads closes_failUpload
    | recorded hget =>
      obtain ⟨phase, -, huploads⟩ := concludeUpload_uploads s _ _ _
      exact howned.set hget Nat.zero_lt_one concludes_concludeUpload.prepares huploads closes_concludeUpload
    | recordFailed hget =>
      obtain ⟨phase, -, huploads⟩ := failUpload_uploads s _ _ _
      exact howned.set hget Nat.zero_lt_one concludes_failUpload.prepares huploads closes_failUpload
    | delayedClosed => exact howned.of_subset (fun _ => id) rfl List.eraseIdx_subset
    | delayedNothing => exact howned.of_subset (fun _ => id) rfl List.eraseIdx_subset
    | _ => cases he

/-- With one session only, every upload finds its own. -/
theorem findOwn_of_single {ip : String} (howned : s.Owned) (hslotted : s.Slotted ip)
    (hsingle : ∀ a b, s.HasId a → s.HasId b → a = b) (hm : Moves config s e t) : s.FindOwn e := by
  have hfound : ∀ {u : Nat} {upload : Upload} {session : ReceiveSession}, s.uploads[u]? = some upload →
      0 < upload.phase.rank → s.session = some session → upload.sessionId = some session.sessionId := by
    intro u upload session hget hrank hsession
    have hmem := List.mem_of_getElem? hget
    obtain ⟨own, hown⟩ := Option.isSome_iff_exists.mp (howned.pending upload hmem hrank)
    rw [hown, hsingle own session.sessionId (howned.uploads upload hmem own hown) (hslotted.slot session hsession).2]
  cases hm with
  | saved hget =>
    intro upload session hget' hsession _
    obtain rfl := Option.some.inj (hget.symm.trans hget')
    exact hfound hget Nat.zero_lt_two hsession
  | saveFailed hget =>
    intro upload session hget' hsession _
    obtain rfl := Option.some.inj (hget.symm.trans hget')
    exact hfound hget Nat.zero_lt_two hsession
  | recorded hget =>
    intro upload session hget' hsession _
    obtain rfl := Option.some.inj (hget.symm.trans hget')
    exact hfound hget Nat.zero_lt_one hsession
  | recordFailed hget =>
    intro upload session hget' hsession _
    obtain rfl := Option.some.inj (hget.symm.trans hget')
    exact hfound hget Nat.zero_lt_one hsession
  | delayedClosed hget hsession =>
    intro own session hget' hsession'
    obtain ⟨own', heq, hown⟩ := howned.closes own (List.mem_of_getElem? hget')
    rw [heq, hsingle own' session.sessionId hown (hslotted.slot session hsession').2]
  | delayedNothing hget hsession =>
    intro own session _ hsession'
    rw [hsession] at hsession'
    cases hsession'
  | _ => trivial

/-! ### Draining -/

/-- What is left of the session ends by itself: every file has ended or is being saved,
and while files are taken, an upload is on its way. -/
structure Draining (s : ReceiveServer) : Prop where
  covered : ∀ session, s.session = some session → session.status ∈ allowedStates → ∀ entry ∈ session.files,
    entry.2.status ∈ endedFiles ∨
      ∃ (i : Nat) (upload : Upload), s.uploads[i]? = some upload ∧ upload.fileId = entry.1 ∧ upload.phase = .saving
  active : ∀ session, s.session = some session → session.status = .sending →
    ∃ (i : Nat) (upload : Upload), s.uploads[i]? = some upload ∧ 0 < upload.phase.rank

/-- The files are covered without the upload `u`. -/
def CoveredBut (s : ReceiveServer) (u : Nat) : Prop :=
  ∀ session, s.session = some session → session.status ∈ allowedStates → ∀ entry ∈ session.files,
    entry.2.status ∈ endedFiles ∨ ∃ (i : Nat) (upload : Upload), i ≠ u ∧ s.uploads[i]? = some upload ∧
      upload.fileId = entry.1 ∧ upload.phase = .saving

theorem draining_of_closed (hclosed : ∀ session, s.session = some session → session.status ∉ allowedStates) :
    s.Draining := by
  refine ⟨fun session hsession hstatus => absurd hstatus (hclosed session hsession), fun session hsession hstatus => ?_⟩
  exact absurd (hstatus ▸ by decide) (hclosed session hsession)

/-- A session that has ended drains. -/
theorem draining_of_ended {ip : String} (hslotted : s.Slotted ip)
    (hstatus : ∀ session, s.session = some session → session.status ≠ .sending) : s.Draining := by
  refine ⟨fun session hsession hallowed entry hentry => .inl ?_, fun session hsession hsending => ?_⟩
  · have hended : session.status ∈ [SessionStatus.finished, .finishedWithErrors] := by
      simp only [allowedStates, List.mem_cons] at hallowed
      simp only [List.mem_cons]
      exact .inr (hallowed.resolve_left (hstatus session hsession))
    exact isFinishedOrError_iff.mp (hslotted.ended session hsession hended) entry hentry
  · exact absurd hsending (hstatus session hsession)

theorem Draining.of_eq (hdraining : s.Draining) (hsession : t.session = s.session) (huploads : t.uploads = s.uploads) :
    t.Draining := by
  obtain ⟨hcovered, hactive⟩ := hdraining
  constructor
  · rw [hsession, huploads]
    exact hcovered
  · rw [hsession, huploads]
    exact hactive

/-- An upload that comes in, and is refused. -/
theorem Draining.append (hdraining : s.Draining) {a : Upload} (hsession : t.session = s.session)
    (huploads : t.uploads = s.uploads ++ [a]) : t.Draining := by
  have hget : ∀ {i : Nat} {upload : Upload}, s.uploads[i]? = some upload → t.uploads[i]? = some upload := fun h => by
    rw [huploads, Records.append h]
  refine ⟨fun session hs hstatus entry hentry => ?_, fun session hs hstatus => ?_⟩
  · rw [hsession] at hs
    rcases hdraining.covered session hs hstatus entry hentry with hended | ⟨i, upload, hi, hfile, hphase⟩
    · exact .inl hended
    · exact .inr ⟨i, upload, hget hi, hfile, hphase⟩
  · rw [hsession] at hs
    obtain ⟨i, upload, hi, hrank⟩ := hdraining.active session hs hstatus
    exact ⟨i, upload, hget hi, hrank⟩

/-- Files that are covered without an upload stay covered when it goes on. -/
theorem CoveredBut.setUpload (hcovered : s.CoveredBut u) {phase : UploadPhase} :
    (s.setUpload u upload phase).CoveredBut u := by
  intro session hsession hstatus entry hentry
  rcases hcovered session hsession hstatus entry hentry with hended | ⟨i, other, hne, hi, hfile, hphase⟩
  · exact .inl hended
  · exact .inr ⟨i, other, hne, (List.getElem?_set_ne (Ne.symm hne)).trans hi, hfile, hphase⟩

theorem CoveredBut.draining (hcovered : s.CoveredBut u) (hactive : ∀ session, s.session = some session →
    session.status = .sending → ∃ (i : Nat) (upload : Upload), s.uploads[i]? = some upload ∧ 0 < upload.phase.rank) :
    s.Draining := by
  refine ⟨fun session hsession hstatus entry hentry => ?_, hactive⟩
  rcases hcovered session hsession hstatus entry hentry with hended | ⟨i, other, -, hi, hfile, hphase⟩
  · exact .inl hended
  · exact .inr ⟨i, other, hi, hfile, hphase⟩

/-- The last upload to end writes the status of the session. -/
theorem CoveredBut.concludeUpload (hcovered : s.CoveredBut u) : (s.concludeUpload u upload quickSave).Draining := by
  simp only [ReceiveServer.concludeUpload]
  split
  · next hsession => exact draining_of_closed fun session hs => by cases hsession.symm.trans hs
  · next session hsession =>
    by_cases hdone : session.status ∈ allowedStates ∧ session.isFinishedOrError = true
    · rw [if_pos hdone]
      refine ⟨fun after hafter _ entry hentry => .inl ?_, fun after hafter hstatus => ?_⟩
      · obtain rfl := Option.some.inj hafter
        exact isFinishedOrError_iff.mp hdone.2 entry hentry
      · obtain rfl := Option.some.inj hafter
        have hwrong : (if session.hasError then SessionStatus.finishedWithErrors else .finished) = .sending := hstatus
        split at hwrong <;> cases hwrong
    · rw [if_neg hdone]
      refine hcovered.setUpload.draining fun found hfound hstatus => ?_
      obtain rfl := Option.some.inj (hsession.symm.trans hfound)
      have hallowed : session.status ∈ allowedStates := hstatus ▸ by decide
      have hopen : ¬ ∀ entry ∈ session.files, entry.2.status ∈ endedFiles := fun hended =>
        hdone ⟨hallowed, isFinishedOrError_iff.mpr hended⟩
      obtain ⟨entry, hentry, hstays⟩ := not_forall₂.mp hopen
      obtain ⟨i, other, hne, hi, -, hphase⟩ := (hcovered session hsession hallowed entry hentry).resolve_left hstays
      exact ⟨i, other, (List.getElem?_set_ne (Ne.symm hne)).trans hi, by rw [hphase]; exact Nat.zero_lt_two⟩

/-- A file that ends needs its upload no more. -/
theorem Draining.finishFile (hdraining : s.Draining) (hget : s.uploads[u]? = some upload) {session after : ReceiveSession}
    {status : FileStatus} (hsession : s.session = some session)
    (hafter : session.fileFinished upload.fileId status = some after) (hstatus : status ∈ endedFiles) :
    (s.finishFile upload after).CoveredBut u := by
  intro found hfound hallowed entry hentry
  obtain rfl := Option.some.inj hfound
  rcases mem_fileFinished hafter hentry with ⟨-, hnew⟩ | ⟨hne, hold⟩
  · exact .inl (hnew ▸ hstatus)
  · have hsame : after.status = session.status := by rw [fileFinished_eq hafter]
    rcases hdraining.covered session hsession (hsame ▸ hallowed) entry hold with hended | ⟨i, other, hi, hfile, hphase⟩
    · exact .inl hended
    · refine .inr ⟨i, other, ?_, hi, hfile, hphase⟩
      rintro rfl
      obtain rfl := Option.some.inj (hget.symm.trans hi)
      exact hne hfile.symm

/-- An upload whose file was saved covers none. -/
theorem Draining.coveredBut (hdraining : s.Draining) (hget : s.uploads[u]? = some upload)
    (hphase : upload.phase ≠ .saving) : s.CoveredBut u := by
  intro session hsession hstatus entry hentry
  rcases hdraining.covered session hsession hstatus entry hentry with hended | ⟨i, other, hi, hfile, hsaving⟩
  · exact .inl hended
  · refine .inr ⟨i, other, ?_, hi, hfile, hsaving⟩
    rintro rfl
    obtain rfl := Option.some.inj (hget.symm.trans hi)
    exact hphase hsaving

theorem Draining.failUpload (hdraining : s.Draining) (hget : s.uploads[u]? = some upload)
    (hfile : ∀ session, s.session = some session → (session.files.lookup upload.fileId).isSome) :
    (s.failUpload u upload quickSave).Draining := by
  simp only [ReceiveServer.failUpload]
  split
  · next hsession =>
    exact CoveredBut.concludeUpload fun session hs => by cases hsession.symm.trans hs
  · next session hsession =>
    obtain ⟨after, hafter, -⟩ := fileFinished_of_lookup .failed (hfile session hsession)
    rw [hafter]
    exact (hdraining.finishFile hget hsession hafter (by decide)).concludeUpload

theorem Draining.finishUpload (hdraining : s.Draining) (hget : s.uploads[u]? = some upload)
    (hfile : ∀ session, s.session = some session → (session.files.lookup upload.fileId).isSome) :
    (s.finishUpload u upload quickSave).Draining := by
  simp only [ReceiveServer.finishUpload]
  split
  · next hsession => exact draining_of_closed fun session hs => by cases hsession.symm.trans hs
  · next session hsession =>
    by_cases hstatus : session.status ∈ allowedStates
    · rw [if_pos hstatus]
      obtain ⟨after, hafter, -⟩ := fileFinished_of_lookup .finished (hfile session hsession)
      rw [hafter]
      refine (hdraining.finishFile hget hsession hafter (by decide)).setUpload.draining fun _ _ _ => ?_
      exact ⟨u, _, Records.set_self hget, Nat.zero_lt_one⟩
    · rw [if_neg hstatus]
      refine draining_of_closed fun found hfound => ?_
      obtain rfl := Option.some.inj (hsession.symm.trans hfound)
      exact hstatus

/-- An upload that begins is on its way, and covers its file. -/
theorem Draining.beginUpload (hdraining : s.Draining) {request : UploadRequest} {session : ReceiveSession} {fileId : String}
    (hcheck : checkUpload s.session request = .ok (session, fileId)) : (s.beginUpload session fileId).Draining := by
  obtain ⟨hsession, hstatus, -⟩ := checkUpload_ok hcheck
  have hnew : (s.beginUpload session fileId).uploads[s.uploads.length]? =
      some ⟨some session.sessionId, fileId, .saving⟩ := List.getElem?_concat_length
  refine ⟨fun after hafter _ entry hentry => ?_, fun _ _ _ => ⟨_, _, hnew, Nat.zero_lt_two⟩⟩
  obtain rfl := Option.some.inj hafter
  obtain ⟨⟨id, file⟩, hmem, rfl⟩ := List.mem_map.mp hentry
  by_cases hid : id = fileId
  · exact .inr ⟨_, _, hnew, hid.symm, rfl⟩
  · simp only [hid, if_false]
    rcases hdraining.covered session hsession hstatus (id, file) hmem with hended | ⟨i, other, hi, hfile, hphase⟩
    · exact .inl hended
    · exact .inr ⟨i, other, Records.append hi, hfile, hphase⟩

/-- **Once all requests are answered, a session that drains goes on draining.** -/
theorem Draining.moves (hdraining : s.Draining)
    (hanswered : ∀ p ∈ s.prepares, ∃ response found, p.phase = .answered response found)
    (hfiles : ∀ (u : Nat) (upload : Upload), s.uploads[u]? = some upload → 0 < upload.phase.rank →
      ∀ session, s.session = some session → (session.files.lookup upload.fileId).isSome)
    (hm : Moves config s e t) : t.Draining := by
  have hnone : ∀ {h : Nat} {p : Prepare}, s.prepares[h]? = some p →
      (∀ response found, p.phase ≠ .answered response found) → False := fun hget hopen => by
    obtain ⟨response, found, hphase⟩ := hanswered _ (List.mem_of_getElem? hget)
    exact hopen response found hphase
  cases hm with
  | blocked => exact hdraining.of_eq rfl rfl
  | arrived => exact hdraining.of_eq rfl rfl
  | refused hget => exact (hnone hget (by simp)).elim
  | bodyRead hget => exact (hnone hget (by simp)).elim
  | installed hget => exact (hnone hget (by simp)).elim
  | accepted hget => exact (hnone hget (by simp)).elim
  | wentOn hget hphase =>
    refine (hnone hget ?_).elim
    rcases hphase with ⟨rfl, -⟩ | rfl <;> simp
  | permitted hget => exact (hnone hget (by simp)).elim
  | acceptFileRequest | declineFileRequest =>
    rcases respond_spec (s := s) _ with hsame | ⟨h, p, hget, hphase, hset⟩
    · rw [hsame]
      exact hdraining
    · exact (hnone hget (by simp [hphase])).elim
  | cancelRefused => exact hdraining
  | canceled =>
    refine draining_of_closed fun session hs => ?_
    obtain rfl := Option.some.inj hs
    simp [allowedStates]
  | closeSession => exact draining_of_closed (by simp [ReceiveServer.closeSession])
  | cancelSession => exact draining_of_closed (by simp [ReceiveServer.closeSession])
  | uploadRefused => exact hdraining.append rfl rfl
  | uploadBegan hcheck => exact hdraining.beginUpload hcheck
  | saved hget => exact hdraining.finishUpload hget (hfiles _ _ hget Nat.zero_lt_two)
  | saveFailed hget => exact hdraining.failUpload hget (hfiles _ _ hget Nat.zero_lt_two)
  | recorded hget => exact (hdraining.coveredBut hget (by simp)).concludeUpload
  | recordFailed hget => exact hdraining.failUpload hget (hfiles _ _ hget Nat.zero_lt_one)
  | delayedClosed => exact draining_of_closed (by simp [ReceiveServer.closeSession])
  | delayedNothing => exact hdraining.of_eq rfl rfl

/-- The cancel of the sender, under the id of the session, has it drain. -/
theorem draining_of_cancel {ip : String} (hslotted : s.Slotted ip)
    (hown : ∀ session, s.session = some session → session.sessionId = own)
    (hm : Moves config s (.cancel true ip (some own)) t) : t.Draining := by
  cases hm with
  | canceled =>
    refine draining_of_closed fun session hs => ?_
    obtain rfl := Option.some.inj hs
    simp [allowedStates]
  | cancelRefused hrefused =>
    refine draining_of_ended hslotted fun session hsession hstatus => ?_
    have hwrong := hrefused session hsession
    simp [cancelAllowed, hstatus, (hslotted.slot session hsession).1, hown session hsession] at hwrong

/-- A session that drains, with no upload on its way, takes no files. -/
theorem Draining.not_sending (hdraining : s.Draining) (hrest : ∀ upload ∈ s.uploads, upload.phase.rank = 0)
    {session : ReceiveSession} (hsession : s.session = some session) : session.status ≠ .sending := by
  intro hstatus
  obtain ⟨i, upload, hi, hrank⟩ := hdraining.active session hsession hstatus
  exact absurd (hrest upload (List.mem_of_getElem? hi)) (Nat.ne_of_gt hrank)

end ReceiveServer
end MagicShare.Receive
