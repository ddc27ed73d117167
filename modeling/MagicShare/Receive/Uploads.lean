import MagicShare.Base.Records
import MagicShare.Receive.Session

/-! Uploads and the session they were accepted for.

An upload is checked against the session in the slot, waits for its file to be saved,
and goes on with whatever session is in the slot then, which may be another one, with
other files: then it marks a file that is not its own, or ends in the exception of the
update of a missing key. It keeps to its session exactly when the session it finds is its
own wherever it writes (`uploads_iff`). -/
namespace MagicShare.Receive

/-! ### The property and its condition -/

/-- How many awaits are left to the handler. -/
def UploadPhase.rank : UploadPhase → Nat
  | .saving => 2
  | .recording => 1
  | .answered _ | .unhandled => 0

namespace ReceiveServer

structure KeepToTheirs (config : ReceiveConfig) (s : ReceiveServer) : Prop where
  own : ∀ touch ∈ s.touches, touch.own = some touch.touched
  /-- A handler that does not go on has answered, -/
  answered : ∀ (u : Nat) (upload : Upload), s.uploads[u]? = some upload →
    (∀ success quickSave, s.step config (.saved u success quickSave) = none ∧
      s.step config (.recorded u success quickSave) = none) → ∃ code, upload.phase = .answered code
  /-- a handler that goes on gets closer to its answer, -/
  progress : ∀ u success quickSave t,
    (s.step config (.saved u success quickSave) = some t ∨ s.step config (.recorded u success quickSave) = some t) →
    ∃ before after : Upload, s.uploads[u]? = some before ∧ t.uploads[u]? = some after ∧
      after.phase.rank < before.phase.rank
  /-- and the answer is the last thing that happens to an upload. -/
  once : ∀ e t, s.step config e = some t → ∀ (u : Nat) (upload : Upload) code, s.uploads[u]? = some upload →
    upload.phase = .answered code → t.uploads[u]? = some upload

/-- An upload finds its own session wherever it goes on to write one, and so does a
delayed close. -/
def FindOwn (s : ReceiveServer) : ReceiveEvent → Prop
  | .saved u success _ => ∀ (upload : Upload) session, s.uploads[u]? = some upload → s.session = some session →
    (success = true → session.status ∈ allowedStates) → upload.sessionId = some session.sessionId
  | .recorded u success _ => ∀ (upload : Upload) session, s.uploads[u]? = some upload → s.session = some session →
    (success = true → session.status ∈ allowedStates ∧ session.isFinishedOrError = true) →
    upload.sessionId = some session.sessionId
  | .delayedClose i => ∀ (own : Option Nat) session, s.delayedCloses[i]? = some own → s.session = some session →
    own = some session.sessionId
  | _ => True

/-! ### Files of a session -/

variable {config : ReceiveConfig} {s t : ReceiveServer} {e : ReceiveEvent} {u : Nat} {upload : Upload}
  {quickSave : Bool}

/-- An update of the files keeps their ids. -/
theorem lookup_map_isSome (g : String → ReceivingFile → ReceivingFile) (files : List (String × ReceivingFile))
    (fileId : String) :
    ((files.map fun entry => (entry.1, g entry.1 entry.2)).lookup fileId).isSome = (files.lookup fileId).isSome := by
  induction files with
  | nil => rfl
  | cons entry rest ih =>
    obtain ⟨id, file⟩ := entry
    simp only [List.map_cons, List.lookup_cons]
    cases fileId == id with
    | true => rfl
    | false => exact ih

/-- A later session has all the files of an earlier one. -/
structure Continues (before after : ReceiveSession) : Prop where
  sessionId : after.sessionId = before.sessionId
  files : ∀ fileId, (before.files.lookup fileId).isSome → (after.files.lookup fileId).isSome

theorem continues_of_files {before after : ReceiveSession} (hid : after.sessionId = before.sessionId)
    (g : String → ReceivingFile → ReceivingFile)
    (hfiles : after.files = before.files.map fun entry => (entry.1, g entry.1 entry.2)) : Continues before after := by
  refine ⟨hid, fun fileId hfile => ?_⟩
  rw [hfiles, lookup_map_isSome]
  exact hfile

theorem continues_refl (session : ReceiveSession) : Continues session session := ⟨rfl, fun _ => id⟩

/-- A file of the session ends. -/
theorem fileFinished_of_lookup {session : ReceiveSession} {fileId : String} (status : FileStatus)
    (h : (session.files.lookup fileId).isSome) :
    ∃ after, session.fileFinished fileId status = some after ∧ Continues session after ∧
      after.status = session.status := by
  simp only [ReceiveSession.fileFinished, h, if_true]
  refine ⟨_, rfl, continues_of_files rfl (fun id file => if id = fileId then {file with status} else file) rfl, rfl⟩

theorem fileFinished_sessionId {session after : ReceiveSession} {fileId : String} {status : FileStatus}
    (h : session.fileFinished fileId status = some after) : after.sessionId = session.sessionId := by
  rw [fileFinished_eq h]

/-! ### What an upload goes through -/

theorem concludeUpload_uploads (s : ReceiveServer) (u : Nat) (upload : Upload) (quickSave : Bool) :
    ∃ phase : UploadPhase, phase.rank = 0 ∧
      (s.concludeUpload u upload quickSave).uploads = s.uploads.set u {upload with phase} := by
  simp only [concludeUpload]
  split
  · exact ⟨.answered 500, rfl, rfl⟩
  · next session _ =>
    by_cases hdone : session.status ∈ allowedStates ∧ session.isFinishedOrError = true
    · rw [if_pos hdone]
      exact ⟨.answered _, rfl, rfl⟩
    · rw [if_neg hdone]
      exact ⟨.answered _, rfl, rfl⟩

theorem failUpload_uploads (s : ReceiveServer) (u : Nat) (upload : Upload) (quickSave : Bool) :
    ∃ phase : UploadPhase, phase.rank = 0 ∧
      (s.failUpload u upload quickSave).uploads = s.uploads.set u {upload with phase} := by
  simp only [failUpload]
  split
  · exact concludeUpload_uploads s u upload quickSave
  · split
    · exact ⟨.unhandled, rfl, rfl⟩
    · next session _ =>
      exact concludeUpload_uploads (s.finishFile upload session) u upload quickSave

theorem finishUpload_uploads (s : ReceiveServer) (u : Nat) (upload : Upload) (quickSave : Bool) :
    ∃ phase : UploadPhase, phase.rank ≤ 1 ∧
      (s.finishUpload u upload quickSave).uploads = s.uploads.set u {upload with phase} := by
  simp only [finishUpload]
  split
  · exact ⟨.answered 500, Nat.zero_le _, rfl⟩
  · split_ifs
    · split
      · obtain ⟨phase, hrank, huploads⟩ := failUpload_uploads s u upload quickSave
        exact ⟨phase, by rw [hrank]; exact Nat.zero_le _, huploads⟩
      · exact ⟨.recording, Nat.le_refl _, rfl⟩
    · exact ⟨.answered 500, Nat.zero_le _, rfl⟩

/-- A step of the handler of an upload brings it closer to its answer. -/
theorem progress_of_step {success : Bool}
    (hst : s.step config (.saved u success quickSave) = some t ∨ s.step config (.recorded u success quickSave) = some t) :
    ∃ (before : Upload) (phase : UploadPhase), s.uploads[u]? = some before ∧ phase.rank < before.phase.rank ∧
      t.uploads = s.uploads.set u {before with phase} := by
  rcases hst with hst | hst
  · cases moves_of_step hst with
    | saved hget =>
      obtain ⟨phase, hrank, huploads⟩ := finishUpload_uploads s u _ quickSave
      exact ⟨_, phase, hget, Nat.lt_succ_of_le hrank, huploads⟩
    | saveFailed hget =>
      obtain ⟨phase, hrank, huploads⟩ := failUpload_uploads s u _ quickSave
      exact ⟨_, phase, hget, by rw [hrank]; exact Nat.zero_lt_two, huploads⟩
  · cases moves_of_step hst with
    | recorded hget =>
      obtain ⟨phase, hrank, huploads⟩ := concludeUpload_uploads s u _ quickSave
      exact ⟨_, phase, hget, by rw [hrank]; exact Nat.zero_lt_one, huploads⟩
    | recordFailed hget =>
      obtain ⟨phase, hrank, huploads⟩ := failUpload_uploads s u _ quickSave
      exact ⟨_, phase, hget, by rw [hrank]; exact Nat.zero_lt_one, huploads⟩

/-- What the other events leave of the uploads and of the session in the slot. -/
structure LeavesUploads (s t : ReceiveServer) : Prop where
  uploads : t.uploads = s.uploads
  touches : t.touches = s.touches
  delayedCloses : t.delayedCloses = s.delayedCloses
  nextId : s.nextId ≤ t.nextId
  /-- The session in the slot is the one there was, or a new one. -/
  session : ∀ after, t.session = some after → after.sessionId < t.nextId ∧ s.nextId ≤ after.sessionId ∨
    ∃ before, s.session = some before ∧ Continues before after

theorem leavesUploads_of_session (huploads : t.uploads = s.uploads) (htouches : t.touches = s.touches)
    (hcloses : t.delayedCloses = s.delayedCloses) (hnext : t.nextId = s.nextId)
    (hsession : t.session = none ∨ t.session = s.session) : s.LeavesUploads t := by
  refine ⟨huploads, htouches, hcloses, Nat.le_of_eq hnext.symm, fun after hafter => .inr ?_⟩
  rcases hsession with hnone | hsame
  · rw [hnone] at hafter
    cases hafter
  · exact ⟨after, hsame ▸ hafter, continues_refl after⟩

theorem leavesUploads_install {h : Nat} {p : Prepare} {dto : PrepareUploadRequestDto} {phase : PreparePhase} :
    s.LeavesUploads (s.install h p dto phase) := by
  refine ⟨rfl, rfl, rfl, Nat.le_succ _, fun after hafter => .inl ?_⟩
  obtain rfl := Option.some.inj hafter
  exact ⟨Nat.lt_succ_self _, Nat.le_refl _⟩

/-- Accepted files are the files of the session. -/
theorem continues_accepted (session : ReceiveSession) (fresh : Nat) (selected : List (String × String)) :
    Continues session (session.accepted fresh selected) :=
  continues_of_files rfl (fun id _ => decidedFile fresh id (selected.lookup id)) rfl

theorem leavesUploads_onDecision (config : ReceiveConfig) (s : ReceiveServer) (h : Nat) (p : Prepare) (own : Nat)
    (selection : Selection) : s.LeavesUploads (s.onDecision config h p own selection) := by
  rcases onDecision_cases config s h p own selection with ⟨-, hdecided⟩ | ⟨_, _, _, -, -, hdecided⟩ |
    ⟨session, selected, phase, hsession, -, -, -, hdecided⟩
  · rw [hdecided]
    exact leavesUploads_of_session rfl rfl rfl rfl (.inr rfl)
  · rw [hdecided]
    exact leavesUploads_of_session rfl rfl rfl rfl (.inl rfl)
  · rw [hdecided]
    refine ⟨rfl, rfl, rfl, Nat.le_succ _, fun after hafter => .inr ⟨session, hsession, ?_⟩⟩
    obtain rfl := Option.some.inj hafter
    exact continues_accepted ..

theorem Continues.trans {a b c : ReceiveSession} (hab : Continues a b) (hbc : Continues b c) : Continues a c :=
  ⟨hbc.sessionId.trans hab.sessionId, fun fileId hfile => hbc.files fileId (hab.files fileId hfile)⟩

theorem LeavesUploads.trans {m : ReceiveServer} (hsm : s.LeavesUploads m) (hmt : m.LeavesUploads t) :
    s.LeavesUploads t := by
  refine ⟨hmt.uploads.trans hsm.uploads, hmt.touches.trans hsm.touches, hmt.delayedCloses.trans hsm.delayedCloses,
    Nat.le_trans hsm.nextId hmt.nextId, fun after hafter => ?_⟩
  rcases hmt.session after hafter with ⟨hlt, hnew⟩ | ⟨middle, hmiddle, hcontinues⟩
  · exact .inl ⟨hlt, Nat.le_trans hsm.nextId hnew⟩
  · rcases hsm.session middle hmiddle with ⟨hlt, hnew⟩ | ⟨before, hbefore, hfirst⟩
    · rw [← hcontinues.sessionId] at hlt hnew
      exact .inl ⟨Nat.lt_of_lt_of_le hlt hmt.nextId, hnew⟩
    · exact .inr ⟨before, hbefore, hfirst.trans hcontinues⟩

/-- The events of uploads. -/
def ofUploads : ReceiveEvent → Bool
  | .upload _ | .saved _ _ _ | .recorded _ _ _ | .delayedClose _ => true
  | _ => false

theorem leavesUploads_respond (selection : Selection) : s.LeavesUploads (s.respond selection) := by
  simp only [respond]
  split
  · exact leavesUploads_of_session rfl rfl rfl rfl (.inr rfl)
  · split
    · split
      · exact leavesUploads_of_session rfl rfl rfl rfl (.inr rfl)
      · exact leavesUploads_of_session rfl rfl rfl rfl (.inr rfl)
    · exact leavesUploads_of_session rfl rfl rfl rfl (.inr rfl)

theorem leavesUploads_of_moves (hm : Moves config s e t) (he : ofUploads e = false) : s.LeavesUploads t := by
  cases hm with
  | blocked => exact leavesUploads_of_session rfl rfl rfl rfl (.inr rfl)
  | arrived => exact leavesUploads_of_session rfl rfl rfl rfl (.inr rfl)
  | refused => exact leavesUploads_of_session rfl rfl rfl rfl (.inr rfl)
  | bodyRead => exact leavesUploads_of_session rfl rfl rfl rfl (.inr rfl)
  | installed => exact leavesUploads_install
  | accepted => exact leavesUploads_install.trans (leavesUploads_onDecision ..)
  | wentOn => exact leavesUploads_onDecision ..
  | permitted => exact leavesUploads_of_session rfl rfl rfl rfl (.inr rfl)
  | acceptFileRequest => exact leavesUploads_respond _
  | declineFileRequest => exact leavesUploads_respond _
  | cancelRefused => exact leavesUploads_of_session rfl rfl rfl rfl (.inr rfl)
  | canceled hsession =>
    refine ⟨rfl, rfl, rfl, Nat.le_refl _, fun after hafter => .inr ⟨_, hsession, ?_⟩⟩
    obtain rfl := Option.some.inj hafter
    exact ⟨rfl, fun _ => id⟩
  | closeSession => exact leavesUploads_of_session rfl rfl rfl rfl (.inl rfl)
  | cancelSession => exact leavesUploads_of_session rfl rfl rfl rfl (.inl rfl)
  | uploadRefused => cases he
  | uploadBegan => cases he
  | saved => cases he
  | saveFailed => cases he
  | recorded => cases he
  | recordFailed => cases he
  | delayedClosed => cases he
  | delayedNothing => cases he

/-- An upload that is not answered goes on, or one comes in. -/
theorem uploads_of_step (hst : s.step config e = some t) : t.uploads = s.uploads ∨ (∃ a, t.uploads = s.uploads ++ [a]) ∨
    ∃ (i : Nat) (before : Upload) (phase : UploadPhase), s.uploads[i]? = some before ∧
      phase.rank < before.phase.rank ∧ t.uploads = s.uploads.set i {before with phase} := by
  cases he : ofUploads e with
  | false => exact .inl (leavesUploads_of_moves (moves_of_step hst) he).uploads
  | true =>
    cases e with
    | upload request =>
      cases moves_of_step hst with
      | uploadRefused => exact .inr (.inl ⟨_, rfl⟩)
      | uploadBegan => exact .inr (.inl ⟨_, rfl⟩)
    | saved i success quickSave =>
      obtain ⟨before, phase, hget, hrank, huploads⟩ := progress_of_step (.inl hst)
      exact .inr (.inr ⟨i, before, phase, hget, hrank, huploads⟩)
    | recorded i success quickSave =>
      obtain ⟨before, phase, hget, hrank, huploads⟩ := progress_of_step (.inr hst)
      exact .inr (.inr ⟨i, before, phase, hget, hrank, huploads⟩)
    | delayedClose i =>
      cases moves_of_step hst with
      | delayedClosed => exact .inl rfl
      | delayedNothing => exact .inl rfl
    | _ => cases he

/-! ### The invariant -/

/-- An upload on its way has its file in its session, as long as that is the one in the
slot. -/
structure OwnUploads (s : ReceiveServer) : Prop where
  own : ∀ touch ∈ s.touches, touch.own = some touch.touched
  handled : ∀ upload ∈ s.uploads, upload.phase ≠ .unhandled
  fresh : ∀ session, s.session = some session → session.sessionId < s.nextId
  old : ∀ upload ∈ s.uploads, ∀ own, upload.sessionId = some own → own < s.nextId
  files : ∀ upload ∈ s.uploads, 0 < upload.phase.rank → ∀ session, s.session = some session →
    upload.sessionId = some session.sessionId → (session.files.lookup upload.fileId).isSome

theorem keepToTheirs_of_invariant (hown : s.OwnUploads) : s.KeepToTheirs config where
  own := hown.own
  answered := by
    intro u upload hget hrests
    obtain ⟨own, fileId, phase⟩ := upload
    have hhandled := hown.handled _ (List.mem_of_getElem? hget)
    cases phase with
    | saving =>
      have hsaved := (hrests true false).1
      simp [step, hget] at hsaved
    | recording =>
      have hrecorded := (hrests true false).2
      simp [step, hget] at hrecorded
    | answered code => exact ⟨code, rfl⟩
    | unhandled => exact absurd rfl hhandled
  progress := by
    intro u success quickSave t hst
    obtain ⟨before, phase, hget, hrank, huploads⟩ := progress_of_step hst
    refine ⟨before, {before with phase}, hget, ?_, hrank⟩
    rw [huploads]
    exact Records.set_self hget
  once := by
    intro e t hst u upload code hget hanswered
    rcases uploads_of_step hst with hsame | ⟨a, happend⟩ | ⟨i, before, phase, hget', hrank, hset⟩
    · rw [hsame, hget]
    · rw [happend, Records.append hget]
    · have hne : i ≠ u := by
        rintro rfl
        obtain rfl := Option.some.inj (hget.symm.trans hget')
        rw [hanswered] at hrank
        exact absurd hrank (Nat.not_lt_zero _)
      rw [hset, List.getElem?_set_ne hne, hget]

theorem OwnUploads.leaves (hown : s.OwnUploads) (hleaves : s.LeavesUploads t) : t.OwnUploads := by
  refine ⟨hleaves.touches ▸ hown.own, hleaves.uploads ▸ hown.handled, fun session hsession => ?_, ?_, ?_⟩
  · rcases hleaves.session session hsession with ⟨hlt, -⟩ | ⟨before, hbefore, hcontinues⟩
    · exact hlt
    · rw [hcontinues.sessionId]
      exact Nat.lt_of_lt_of_le (hown.fresh before hbefore) hleaves.nextId
  · rw [hleaves.uploads]
    exact fun upload hupload own howner => Nat.lt_of_lt_of_le (hown.old upload hupload own howner) hleaves.nextId
  · rw [hleaves.uploads]
    intro upload hupload hrank session hsession howner
    rcases hleaves.session session hsession with ⟨-, hnew⟩ | ⟨before, hbefore, hcontinues⟩
    · exact absurd (hown.old upload hupload _ howner) (Nat.not_lt.mpr hnew)
    · rw [hcontinues.sessionId] at howner
      exact hcontinues.files _ (hown.files upload hupload hrank before hbefore howner)

/-- The session in the slot goes on as one that has its files. -/
theorem OwnUploads.of_continues (hown : s.OwnUploads) {before after : ReceiveSession} (hsession : s.session = some before)
    (hcontinues : Continues before after) (htouches : ∀ touch ∈ t.touches, touch ∈ s.touches ∨ touch.own = some touch.touched)
    (huploads : t.uploads = s.uploads) (hnext : t.nextId = s.nextId) (hafter : t.session = some after) :
    t.OwnUploads := by
  refine ⟨fun touch htouch => ?_, huploads ▸ hown.handled, fun session hs => ?_, ?_, ?_⟩
  · rcases htouches touch htouch with hold | hnew
    · exact hown.own touch hold
    · exact hnew
  · obtain rfl := Option.some.inj (hafter.symm.trans hs)
    rw [hcontinues.sessionId, hnext]
    exact hown.fresh before hsession
  · rw [huploads, hnext]
    exact hown.old
  · rw [huploads]
    intro upload hupload hrank session hs howner
    obtain rfl := Option.some.inj (hafter.symm.trans hs)
    rw [hcontinues.sessionId] at howner
    exact hcontinues.files _ (hown.files upload hupload hrank before hsession howner)

/-- An upload goes on, and is not left in an exception. -/
theorem OwnUploads.setUpload (hown : s.OwnUploads) (hget : s.uploads[u]? = some upload) (hrank : 0 < upload.phase.rank)
    {phase : UploadPhase} (hphase : phase ≠ .unhandled) : (s.setUpload u upload phase).OwnUploads := by
  have hmem := List.mem_of_getElem? hget
  refine ⟨hown.own, fun a ha => ?_, hown.fresh, fun a ha => ?_, fun a ha => ?_⟩
  · rcases List.mem_or_eq_of_mem_set ha with hold | rfl
    · exact hown.handled a hold
    · exact hphase
  · rcases List.mem_or_eq_of_mem_set ha with hold | rfl
    · exact hown.old a hold
    · exact hown.old upload hmem
  · rcases List.mem_or_eq_of_mem_set ha with hold | rfl
    · exact hown.files a hold
    · exact fun _ => hown.files upload hmem hrank

theorem OwnUploads.append (hown : s.OwnUploads) {a : Upload} (huploads : t.uploads = s.uploads ++ [a])
    (htouches : t.touches = s.touches) (hnext : t.nextId = s.nextId) (hsession : t.session = s.session)
    (hphase : a.phase ≠ .unhandled) (hold : ∀ own, a.sessionId = some own → own < s.nextId)
    (hfile : ∀ session, s.session = some session → a.sessionId = some session.sessionId →
      (session.files.lookup a.fileId).isSome) : t.OwnUploads := by
  refine ⟨htouches ▸ hown.own, fun b hb => ?_, ?_, fun b hb => ?_, fun b hb hrank session hs howner => ?_⟩
  · rw [huploads] at hb
    rcases List.mem_append.mp hb with hold | hnew
    · exact hown.handled b hold
    · exact List.mem_singleton.mp hnew ▸ hphase
  · rw [hsession, hnext]
    exact hown.fresh
  · rw [huploads] at hb
    rw [hnext]
    rcases List.mem_append.mp hb with hbefore | hnew
    · exact hown.old b hbefore
    · exact List.mem_singleton.mp hnew ▸ hold
  · rw [huploads] at hb
    rw [hsession] at hs
    rcases List.mem_append.mp hb with hbefore | hnew
    · exact hown.files b hbefore hrank session hs howner
    · obtain rfl := List.mem_singleton.mp hnew
      exact hfile session hs howner

theorem OwnUploads.concludeUpload (hown : s.OwnUploads) (hget : s.uploads[u]? = some upload)
    (hrank : 0 < upload.phase.rank) (hfound : ∀ session, s.session = some session →
      session.status ∈ allowedStates ∧ session.isFinishedOrError = true → upload.sessionId = some session.sessionId) :
    (s.concludeUpload u upload quickSave).OwnUploads := by
  simp only [ReceiveServer.concludeUpload]
  split
  · exact hown.setUpload hget hrank (by simp)
  · next session hsession =>
    by_cases hdone : session.status ∈ allowedStates ∧ session.isFinishedOrError = true
    · rw [if_pos hdone]
      have hcontinues : Continues session
          {session with status := if session.hasError then .finishedWithErrors else .finished} := ⟨rfl, fun _ => id⟩
      refine (hown.setUpload hget hrank (by simp)).of_continues hsession hcontinues (fun touch htouch => ?_) rfl rfl rfl
      rcases List.mem_append.mp htouch with hold | hnew
      · exact .inl hold
      · obtain rfl := List.mem_singleton.mp hnew
        exact .inr (hfound session hsession hdone)
    · rw [if_neg hdone]
      exact hown.setUpload hget hrank (by simp)

theorem OwnUploads.finishFile (hown : s.OwnUploads) {session after : ReceiveSession} (hsession : s.session = some session)
    (hfound : upload.sessionId = some session.sessionId) (hcontinues : Continues session after) :
    (s.finishFile upload after).OwnUploads := by
  refine hown.of_continues hsession hcontinues (fun touch htouch => ?_) rfl rfl rfl
  rcases List.mem_append.mp htouch with hold | hnew
  · exact .inl hold
  · obtain rfl := List.mem_singleton.mp hnew
    exact .inr (hfound.trans (congrArg some hcontinues.sessionId.symm))

theorem OwnUploads.failUpload (hown : s.OwnUploads) (hget : s.uploads[u]? = some upload) (hrank : 0 < upload.phase.rank)
    (hfound : ∀ session, s.session = some session → upload.sessionId = some session.sessionId) :
    (s.failUpload u upload quickSave).OwnUploads := by
  simp only [ReceiveServer.failUpload]
  split
  · exact hown.concludeUpload hget hrank fun session hsession _ => hfound session hsession
  · next session hsession =>
    have howner := hfound session hsession
    obtain ⟨after, hafter, hcontinues, -⟩ := fileFinished_of_lookup .failed
      (hown.files upload (List.mem_of_getElem? hget) hrank session hsession howner)
    rw [hafter]
    refine (hown.finishFile hsession howner hcontinues).concludeUpload hget hrank fun found hfound _ => ?_
    obtain rfl := Option.some.inj hfound
    exact howner.trans (congrArg some hcontinues.sessionId.symm)

theorem OwnUploads.finishUpload (hown : s.OwnUploads) (hget : s.uploads[u]? = some upload) (hrank : 0 < upload.phase.rank)
    (hfound : ∀ session, s.session = some session → session.status ∈ allowedStates →
      upload.sessionId = some session.sessionId) : (s.finishUpload u upload quickSave).OwnUploads := by
  simp only [ReceiveServer.finishUpload]
  split
  · exact hown.setUpload hget hrank (by simp)
  · next session hsession =>
    by_cases hstatus : session.status ∈ allowedStates
    · rw [if_pos hstatus]
      have howner := hfound session hsession hstatus
      obtain ⟨after, hafter, hcontinues, -⟩ := fileFinished_of_lookup .finished
        (hown.files upload (List.mem_of_getElem? hget) hrank session hsession howner)
      rw [hafter]
      exact (hown.finishFile hsession howner hcontinues).setUpload hget hrank (by simp)
    · rw [if_neg hstatus]
      exact hown.setUpload hget hrank (by simp)

theorem OwnUploads.beginUpload (hown : s.OwnUploads) {request : UploadRequest} {session : ReceiveSession} {fileId : String}
    (hcheck : checkUpload s.session request = .ok (session, fileId)) : (s.beginUpload session fileId).OwnUploads := by
  obtain ⟨hsession, -, hfile⟩ := checkUpload_ok hcheck
  have hcontinues : Continues session {session with
      files := session.files.map fun entry =>
        (entry.1, if entry.1 = fileId then {entry.2 with status := .sending} else entry.2)
      status := .sending} :=
    continues_of_files rfl (fun id file => if id = fileId then {file with status := .sending} else file) rfl
  have hmarked : OwnUploads {s.beginUpload session fileId with uploads := s.uploads} := by
    refine hown.of_continues hsession hcontinues (fun touch htouch => ?_) rfl rfl rfl
    rcases List.mem_append.mp htouch with hold | hnew
    · exact .inl hold
    · obtain rfl := List.mem_singleton.mp hnew
      exact .inr rfl
  refine hmarked.append rfl rfl rfl rfl (by simp) (fun own howner => ?_) fun found hfound _ => ?_
  · obtain rfl := Option.some.inj howner
    exact hown.fresh session hsession
  · obtain rfl := Option.some.inj hfound
    exact hcontinues.files fileId hfile

/-! ### One step -/

/-- A step keeps to the invariant where the session it finds is its own. -/
theorem ownUploads_of_step (hown : s.OwnUploads) (hst : s.step config e = some t) (hc : s.FindOwn e) : t.OwnUploads := by
  have hm := moves_of_step hst
  cases he : ofUploads e with
  | false => exact hown.leaves (leavesUploads_of_moves hm he)
  | true =>
    cases hm with
    | uploadRefused => exact hown.append rfl rfl rfl rfl (by simp) (by simp) (by simp)
    | uploadBegan hcheck => exact hown.beginUpload hcheck
    | saved hget =>
      exact hown.finishUpload hget Nat.zero_lt_two fun session hsession hstatus => hc _ session hget hsession fun _ => hstatus
    | saveFailed hget =>
      exact hown.failUpload hget Nat.zero_lt_two fun session hsession => hc _ session hget hsession (by simp)
    | recorded hget =>
      exact hown.concludeUpload hget Nat.zero_lt_one fun session hsession hdone => hc _ session hget hsession fun _ => hdone
    | recordFailed hget =>
      exact hown.failUpload hget Nat.zero_lt_one fun session hsession => hc _ session hget hsession (by simp)
    | delayedClosed hget hsession =>
      refine ⟨fun touch htouch => ?_, hown.handled, by simp [ReceiveServer.closeSession], hown.old,
        by simp [ReceiveServer.closeSession]⟩
      rcases List.mem_append.mp htouch with hold | hnew
      · exact hown.own touch hold
      · obtain rfl := List.mem_singleton.mp hnew
        exact hc _ _ hget hsession
    | delayedNothing => exact ⟨hown.own, hown.handled, hown.fresh, hown.old, hown.files⟩
    | _ => cases he

theorem mem_touches_concludeUpload {touch : Touch} (h : touch ∈ s.touches) :
    touch ∈ (s.concludeUpload u upload quickSave).touches := by
  simp only [concludeUpload]
  split
  · exact h
  · next session _ =>
    by_cases hdone : session.status ∈ allowedStates ∧ session.isFinishedOrError = true
    · rw [if_pos hdone]
      exact List.mem_append_left _ h
    · rw [if_neg hdone]
      exact h

/-- An upload that fails touches the session in the slot, or ends in an exception. -/
theorem own_of_failUpload {session : ReceiveSession} (hget : s.uploads[u]? = some upload)
    (hsession : s.session = some session)
    (hkept : ∀ touch ∈ (s.failUpload u upload quickSave).touches, touch.own = some touch.touched)
    (hhandled : ∀ a ∈ (s.failUpload u upload quickSave).uploads, a.phase ≠ .unhandled) :
    upload.sessionId = some session.sessionId := by
  have hlt := (List.getElem?_eq_some_iff.mp hget).1
  simp only [failUpload, hsession] at hkept hhandled
  cases hfinished : session.fileFinished upload.fileId .failed with
  | none =>
    rw [hfinished] at hhandled
    exact absurd rfl (hhandled _ (List.mem_set hlt _))
  | some after =>
    rw [hfinished] at hkept
    rw [← fileFinished_sessionId hfinished]
    exact hkept ⟨upload.sessionId, after.sessionId⟩
      (mem_touches_concludeUpload (List.mem_append_right _ (List.mem_singleton_self _)))

/-- An upload that is saved while files are taken does so as well. -/
theorem own_of_finishUpload {session : ReceiveSession} (hget : s.uploads[u]? = some upload)
    (hsession : s.session = some session) (hstatus : session.status ∈ allowedStates)
    (hkept : ∀ touch ∈ (s.finishUpload u upload quickSave).touches, touch.own = some touch.touched)
    (hhandled : ∀ a ∈ (s.finishUpload u upload quickSave).uploads, a.phase ≠ .unhandled) :
    upload.sessionId = some session.sessionId := by
  simp only [finishUpload, hsession, if_pos hstatus] at hkept hhandled
  cases hfinished : session.fileFinished upload.fileId .finished with
  | none =>
    rw [hfinished] at hkept hhandled
    exact own_of_failUpload hget hsession hkept hhandled
  | some after =>
    rw [hfinished] at hkept
    rw [← fileFinished_sessionId hfinished]
    exact hkept ⟨upload.sessionId, after.sessionId⟩ (List.mem_append_right _ (List.mem_singleton_self _))

/-- The last upload of a session touches it. -/
theorem own_of_concludeUpload {session : ReceiveSession} (hsession : s.session = some session)
    (hdone : session.status ∈ allowedStates ∧ session.isFinishedOrError = true)
    (hkept : ∀ touch ∈ (s.concludeUpload u upload quickSave).touches, touch.own = some touch.touched) :
    upload.sessionId = some session.sessionId := by
  simp only [concludeUpload, hsession, if_pos hdone] at hkept
  exact hkept ⟨upload.sessionId, session.sessionId⟩ (List.mem_append_right _ (List.mem_singleton_self _))

theorem KeepToTheirs.handled (hkeep : s.KeepToTheirs config) : ∀ a ∈ s.uploads, a.phase ≠ .unhandled := by
  intro a ha hphase
  obtain ⟨u, hget⟩ := List.mem_iff_getElem?.mp ha
  obtain ⟨own, fileId, phase⟩ := a
  obtain rfl : phase = .unhandled := hphase
  obtain ⟨code, hanswered⟩ := hkeep.answered u _ hget fun success quickSave => by simp [step, hget]
  cases hanswered

/-- A step after which uploads have kept to their sessions has found its own. -/
theorem findOwn_of_keepToTheirs (hst : s.step config e = some t) (ht : t.KeepToTheirs config) : s.FindOwn e := by
  have hm := moves_of_step hst
  cases hm with
  | saved hget =>
    intro upload session hget' hsession hstatus
    obtain rfl := Option.some.inj (hget.symm.trans hget')
    exact own_of_finishUpload hget hsession (hstatus rfl) ht.own ht.handled
  | saveFailed hget =>
    intro upload session hget' hsession _
    obtain rfl := Option.some.inj (hget.symm.trans hget')
    exact own_of_failUpload hget hsession ht.own ht.handled
  | recorded hget =>
    intro upload session hget' hsession hdone
    obtain rfl := Option.some.inj (hget.symm.trans hget')
    exact own_of_concludeUpload hsession (hdone rfl) ht.own
  | recordFailed hget =>
    intro upload session hget' hsession _
    obtain rfl := Option.some.inj (hget.symm.trans hget')
    exact own_of_failUpload hget hsession ht.own ht.handled
  | delayedClosed hget hsession =>
    intro own session hget' hsession'
    obtain rfl := Option.some.inj (hget.symm.trans hget')
    obtain rfl := Option.some.inj (hsession.symm.trans hsession')
    exact ht.own ⟨_, _⟩ (List.mem_append_right _ (List.mem_singleton_self _))
  | delayedNothing hget hsession =>
    intro own session _ hsession'
    rw [hsession] at hsession'
    cases hsession'
  | _ => trivial

end ReceiveServer

/-! ### All runs -/

/-- **Uploads touch no session but their own, and are answered once, exactly in the runs
where each finds its own session wherever it goes on.** -/
theorem uploads_iff (config : ReceiveConfig) (events : List ReceiveEvent) :
    (receiveServer config).Along (ReceiveServer.KeepToTheirs config) (receiveServer config).init events ↔
      (receiveServer config).Meets ReceiveServer.FindOwn (receiveServer config).init events := by
  refine Transition.System.along_iff_meets_of_invariant (I := ReceiveServer.OwnUploads)
    (fun s hs => ReceiveServer.keepToTheirs_of_invariant hs) (fun s e t hs hst => ?_) ?_
  · exact ⟨ReceiveServer.ownUploads_of_step hs hst, ReceiveServer.findOwn_of_keepToTheirs hst⟩
  · exact ⟨by simp [receiveServer], by simp [receiveServer], by simp [receiveServer], by simp [receiveServer],
      by simp [receiveServer]⟩

/-- A file of one session is being saved, the user closes the session, and another sender
sends a file with the id `id`; then the file is saved. -/
def replacedWhileSaving (id : String) : List ReceiveEvent :=
  [.prepareUpload "10.0.0.2" none, .bodyRead 0 (some {files := [⟨"a", "a.txt", none⟩]}), .directoriesResolved 0 false,
    .acceptFileRequest [("a", "a.txt")], .goOn 0, .upload ⟨true, "10.0.0.2", some "a", some (1, "a"), some 0⟩, .closeSession,
    .prepareUpload "10.0.0.3" none, .bodyRead 1 (some {files := [⟨id, "b.txt", none⟩]}), .directoriesResolved 1 false,
    .acceptFileRequest [(id, "b.txt")], .goOn 1, .saved 0 true false]

/-- The upload ends in an exception where the new session does not have its file, and
marks the file of that session where it has one of the same id. -/
theorem upload_meets_another_session :
    (∃ t, (receiveServer {}).run (receiveServer {}).init (replacedWhileSaving "b") = some t ∧
      t.uploads.map Upload.phase = [.unhandled] ∧ ¬ t.KeepToTheirs {}) ∧
    ∃ t, (receiveServer {}).run (receiveServer {}).init (replacedWhileSaving "a") = some t ∧
      t.touches.getLast? = some ⟨some 0, 2⟩ ∧ ¬ t.KeepToTheirs {} := by
  refine ⟨⟨_, rfl, by decide +kernel, fun hkeep => ?_⟩, ⟨_, rfl, by decide +kernel, fun hkeep => ?_⟩⟩
  · exact hkeep.handled ⟨some 0, "a", .unhandled⟩ (by decide +kernel) rfl
  · have hown := hkeep.own ⟨some 0, 2⟩ (by decide +kernel)
    cases hown

end MagicShare.Receive
