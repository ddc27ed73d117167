import MagicShare.Send.Cancel

/-! What the sender shows as finished is saved.

An upload is answered 200 only by a handler whose file was saved and recorded, whatever
other uploads of the same file, closes, cancels and sessions come in between; and the
answer that makes the sender show a file as finished is the answer of the handler that
its own request became, in the session it was granted (`finished_is_saved`). -/
namespace MagicShare.Receive

/-- A file of the list is changed. -/
theorem lookup_withStatus (files : List (String × ReceivingFile)) (fileId : String) (status : FileStatus) :
    (files.map fun (id, file) => (id, if id = fileId then {file with status} else file)).lookup fileId =
      (files.lookup fileId).map fun file => {file with status} := by
  induction files with
  | nil => rfl
  | cons entry rest ih =>
    obtain ⟨id, file⟩ := entry
    by_cases hid : fileId = id
    · subst hid
      simp [List.lookup_cons]
    · have hne : (fileId == id) = false := by simpa using hid
      simpa [List.lookup_cons, hne] using ih

/-- The checks answer no 200, and accept an upload for the session and the file it names. -/
theorem checkUpload_cases (slot : Option ReceiveSession) (request : UploadRequest) :
    (∃ code, checkUpload slot request = .error code ∧ code ≠ 200) ∨
      ∃ session fileId, checkUpload slot request = .ok (session, fileId) ∧
        (request.v2 = true → request.sessionId = some session.sessionId) ∧ request.fileId = some fileId := by
  cases slot with
  | none => exact .inl ⟨409, rfl, by decide⟩
  | some session =>
    by_cases hip : request.ip ≠ session.senderIp
    · exact .inl ⟨403, by simp only [checkUpload, if_pos hip], by decide⟩
    by_cases hstatus : session.status ∉ allowedStates
    · exact .inl ⟨409, by simp only [checkUpload, if_neg hip, if_pos hstatus], by decide⟩
    simp only [checkUpload, if_neg hip, if_neg hstatus]
    cases request.fileId with
    | none => exact .inl ⟨400, rfl, by decide⟩
    | some fileId =>
      cases request.token with
      | none => exact .inl ⟨400, rfl, by decide⟩
      | some token =>
        dsimp only
        split_ifs with hparameter hsession htoken
        · exact .inl ⟨400, rfl, by decide⟩
        · exact .inl ⟨403, rfl, by decide⟩
        · refine .inr ⟨session, fileId, rfl, fun hv2 => ?_, rfl⟩
          simpa [hv2] using hsession
        · exact .inl ⟨403, rfl, by decide⟩

namespace ReceiveServer
variable {config : ReceiveConfig} {s t : ReceiveServer} {e : ReceiveEvent} {u : Nat} {quickSave : Bool}

/-- The uploads whose file is being recorded, or was and is answered 200, are among `P`. -/
def SavedOnly (P : Nat → Prop) (s : ReceiveServer) : Prop :=
  ∀ u upload, s.uploads[u]? = some upload → upload.phase = .recording ∨ upload.phase = .answered 200 → P u

/-- An upload that fails is not answered 200. -/
theorem failUpload_phase (s : ReceiveServer) (u : Nat) (upload : Upload) (quickSave : Bool) :
    ∃ phase : UploadPhase, phase ≠ .recording ∧ phase ≠ .answered 200 ∧
      (s.failUpload u upload quickSave).uploads = s.uploads.set u {upload with phase} := by
  rw [failUpload]
  cases hs : s.session with
  | none =>
    simp only [concludeUpload, hs]
    exact ⟨.answered 500, by decide, by decide, rfl⟩
  | some session =>
    cases hfailed : session.fileFinished upload.fileId .failed with
    | none => exact ⟨.unhandled, by decide, by decide, by simp only [hfailed]; rfl⟩
    | some after =>
      -- Its own file has failed by then, so what it finds is not a finished file.
      have hlookup : (after.files.lookup upload.fileId).map ReceivingFile.status ≠ some .finished := by
        simp only [ReceiveSession.fileFinished] at hfailed
        split_ifs at hfailed with hfile
        obtain rfl := Option.some.inj hfailed
        rw [lookup_withStatus, Option.map_map]
        cases session.files.lookup upload.fileId <;> simp
      refine ⟨.answered 500, by decide, by decide, ?_⟩
      simp only [hfailed, concludeUpload, finishFile, if_neg hlookup]
      split_ifs <;> rfl

theorem SavedOnly.set {P : Nat → Prop} (h : s.SavedOnly P) {upload : Upload} {phase : UploadPhase}
    (hphase : phase = .recording ∨ phase = .answered 200 → P u)
    (huploads : t.uploads = s.uploads.set u {upload with phase}) : t.SavedOnly P := by
  intro u' upload' hget hsaved
  rw [huploads] at hget
  rcases Records.of_set hget with ⟨rfl, rfl⟩ | ⟨-, hold⟩
  · exact hphase hsaved
  · exact h u' upload' hold hsaved

/-- Only a handler whose `saveFile` has returned is recorded and answered 200. -/
theorem SavedOnly.step {P Q : Nat → Prop} (h : s.SavedOnly P) (hPQ : ∀ u, P u → Q u)
    (hsaved : ∀ u quickSave, e = .saved u true quickSave → Q u) (hst : s.step config e = some t) : t.SavedOnly Q := by
  have hold : s.SavedOnly Q := fun u upload hget hphase => hPQ u (h u upload hget hphase)
  cases he : ofUploads e with
  | false =>
    intro u upload hget hphase
    rw [(leavesUploads_of_moves (moves_of_step hst) he).uploads] at hget
    exact hold u upload hget hphase
  | true =>
    cases e with
    | upload request =>
      simp only [ReceiveServer.step] at hst
      have happend : ∃ upload, t.uploads = s.uploads ++ [upload] ∧
          upload.phase ≠ .recording ∧ upload.phase ≠ .answered 200 := by
        rcases checkUpload_cases s.session request with ⟨code, hcheck, hcode⟩ | ⟨session, fileId, hcheck, -, -⟩
        · rw [hcheck] at hst
          obtain rfl := Option.some.inj hst
          exact ⟨_, rfl, by simp, by simpa using hcode⟩
        · rw [hcheck] at hst
          obtain rfl := Option.some.inj hst
          exact ⟨_, rfl, by simp, by simp⟩
      obtain ⟨upload, huploads, hrecording, hanswered⟩ := happend
      intro u' upload' hget hphase
      rw [huploads] at hget
      rcases Records.of_append hget with hbefore | ⟨-, rfl⟩
      · exact hold u' upload' hbefore hphase
      · exact absurd hphase (not_or_intro hrecording hanswered)
    | saved i success quickSave =>
      cases moves_of_step hst with
      | saved hget =>
        obtain ⟨phase, -, huploads⟩ := finishUpload_uploads s i _ quickSave
        exact hold.set (fun _ => hsaved i quickSave rfl) huploads
      | saveFailed hget =>
        obtain ⟨phase, hrecording, hanswered, huploads⟩ := failUpload_phase s i _ quickSave
        exact hold.set (fun hphase => absurd hphase (not_or_intro hrecording hanswered)) huploads
    | recorded i success quickSave =>
      cases moves_of_step hst with
      | recorded hget =>
        obtain ⟨phase, -, huploads⟩ := concludeUpload_uploads s i _ quickSave
        exact hold.set (fun _ => hold i _ hget (.inl rfl)) huploads
      | recordFailed hget =>
        obtain ⟨phase, hrecording, hanswered, huploads⟩ := failUpload_phase s i _ quickSave
        exact hold.set (fun hphase => absurd hphase (not_or_intro hrecording hanswered)) huploads
    | delayedClose i =>
      have huploads : t.uploads = s.uploads := by
        cases moves_of_step hst with
        | delayedClosed => rfl
        | delayedNothing => rfl
      intro u upload hget hphase
      rw [huploads] at hget
      exact hold u upload hget hphase
    | _ => cases he

/-- An upload stays where it is, and an answer stays. -/
theorem upload_of_step (hst : s.step config e = some t) {upload : Upload} (hget : s.uploads[u]? = some upload) :
    ∃ phase : UploadPhase, t.uploads[u]? = some {upload with phase} ∧
      (phase = upload.phase ∨ phase.rank < upload.phase.rank) := by
  rcases uploads_of_step hst with hsame | ⟨a, happend⟩ | ⟨i, before, phase, hbefore, hrank, hset⟩
  · exact ⟨upload.phase, hsame ▸ hget, .inl rfl⟩
  · exact ⟨upload.phase, happend ▸ Records.append hget, .inl rfl⟩
  · rw [hset]
    by_cases hi : u = i
    · subst hi
      obtain rfl := Option.some.inj (hbefore.symm.trans hget)
      exact ⟨phase, Records.set_self hget, .inr hrank⟩
    · exact ⟨upload.phase, by rw [List.getElem?_set_ne (Ne.symm hi)]; exact hget, .inl rfl⟩

theorem answered_of_step (hst : s.step config e = some t) {own : Option Nat} {fileId : String} {code : Nat}
    (hget : s.uploads[u]? = some ⟨own, fileId, .answered code⟩) : t.uploads[u]? = some ⟨own, fileId, .answered code⟩ := by
  obtain ⟨phase, hthen, rfl | hrank⟩ := upload_of_step hst hget
  · exact hthen
  · cases hrank

end ReceiveServer
end MagicShare.Receive

namespace MagicShare.Send
open Receive

/-- The receiver has answered 200 to an upload of the file in the session. -/
def SavedIn (receiver : ReceiveServer) (remoteSessionId : Option Nat) (fileId : String) : Prop :=
  ∃ u sessionId : Nat, remoteSessionId = some sessionId ∧
    receiver.uploads[u]? = some ⟨some sessionId, fileId, .answered 200⟩

namespace Transfer
variable {config : SendConfig} {s t : Transfer} {P Q : Nat → Prop}

/-- A handler of the receiver that a request has become: it was refused, or it is for the
file and the session that the request names. -/
def HandledBy (receiver : ReceiveServer) (task : SendingTask) (u : Nat) : Prop :=
  ∃ upload, receiver.uploads[u]? = some upload ∧ upload.fileId = task.fileId ∧
    ((∃ code, upload.phase = .answered code ∧ code ≠ 200) ∨
      ∃ sessionId, upload.sessionId = some sessionId ∧ task.request.sessionId = some sessionId)

/-- What is on its way is of the session that was granted, and what is finished was saved
by one of the handlers `P`. -/
structure Truthful (P : Nat → Prop) (s : Transfer) : Prop where
  savedOnly : s.receiver.SavedOnly P
  /-- Before files are granted no file has a token. -/
  ungranted : ¬ s.pipeline.Answered → s.sendingTasks = [] ∧ ∀ session, s.session = some session →
    ∀ entry ∈ session.files, entry.2.token = none ∧ entry.2.status ≠ .finished
  requests : ∀ task ∈ s.sendingTasks, task.request.v2 = true ∧ task.request.fileId = some task.fileId
  sessions : ∀ task ∈ s.sendingTasks, ∀ session, s.session = some session →
    task.request.sessionId = session.remoteSessionId
  handlers : ∀ task ∈ s.sendingTasks, ∀ u, task.handler = some u → HandledBy s.receiver task u
  finished : ∀ session, s.session = some session → ∀ entry ∈ session.files, entry.2.status = .finished →
    SavedIn s.receiver session.remoteSessionId entry.1

/-! ### The sender -/

/-- The files and the tasks are as they were. -/
structure KeepsFiles (s t : Transfer) : Prop where
  receiver : t.receiver = s.receiver
  sendingTasks : t.sendingTasks = s.sendingTasks
  answered : s.pipeline.Answered → t.pipeline.Answered
  session : ∀ after, t.session = some after → ∃ before, s.session = some before ∧
    after.remoteSessionId = before.remoteSessionId ∧ after.files = before.files

theorem Truthful.keeps (h : s.Truthful P) (hkeeps : KeepsFiles s t) : t.Truthful P where
  savedOnly := hkeeps.receiver ▸ h.savedOnly
  ungranted hnot := by
    obtain ⟨htasks, htokens⟩ := h.ungranted fun hanswered => hnot (hkeeps.answered hanswered)
    refine ⟨hkeeps.sendingTasks.trans htasks, fun after hafter => ?_⟩
    obtain ⟨before, hbefore, -, hfiles⟩ := hkeeps.session after hafter
    exact hfiles ▸ htokens before hbefore
  requests := hkeeps.sendingTasks ▸ h.requests
  sessions task htask after hafter := by
    obtain ⟨before, hbefore, hremote, -⟩ := hkeeps.session after hafter
    exact (h.sessions task (hkeeps.sendingTasks ▸ htask) before hbefore).trans hremote.symm
  handlers := by
    rw [hkeeps.sendingTasks, hkeeps.receiver]
    exact h.handlers
  finished after hafter := by
    obtain ⟨before, hbefore, hremote, hfiles⟩ := hkeeps.session after hafter
    rw [hkeeps.receiver, hremote, hfiles]
    exact h.finished before hbefore

/-- The session is as it was. -/
theorem keepsFiles_of_session (hreceiver : t.receiver = s.receiver) (htasks : t.sendingTasks = s.sendingTasks)
    (hanswered : s.pipeline.Answered → t.pipeline.Answered) (hsession : t.session = s.session) : KeepsFiles s t :=
  ⟨hreceiver, htasks, hanswered, fun after hafter => ⟨after, hsession ▸ hafter, rfl, rfl⟩⟩

theorem keepsFiles_refl (s : Transfer) : KeepsFiles s s := keepsFiles_of_session rfl rfl id rfl

theorem keepsFiles_setStatus (s : Transfer) (status : SessionStatus) : KeepsFiles s (s.setStatus status) := by
  refine ⟨rfl, rfl, id, fun after hafter => ?_⟩
  obtain ⟨before, hbefore, rfl⟩ := Option.map_eq_some_iff.mp hafter
  exact ⟨before, hbefore, rfl, rfl⟩

theorem keepsFiles_closeSession (s : Transfer) : KeepsFiles s s.closeSession :=
  ⟨rfl, rfl, id, fun after hafter => by cases hafter⟩

theorem keepsFiles_finish (s : Transfer) : KeepsFiles s s.finish := by
  simp only [finish]
  split
  · exact keepsFiles_refl s
  · split_ifs
    · exact keepsFiles_closeSession s
    · exact keepsFiles_setStatus s _
    · exact keepsFiles_setStatus s _
    · exact keepsFiles_refl s

theorem keepsFiles_cancelSession (s : Transfer) : KeepsFiles s s.cancelSession := by
  simp only [cancelSession]
  split
  · exact keepsFiles_refl s
  · split
    · exact ⟨rfl, rfl, id, fun after hafter => by cases hafter⟩
    · exact ⟨rfl, rfl, id, fun after hafter => by cases hafter⟩

theorem keepsFiles_cancelByReceiver (s : Transfer) (sessionId : Nat) : KeepsFiles s (s.cancelByReceiver sessionId) := by
  simp only [cancelByReceiver]
  split
  · exact keepsFiles_refl s
  · split
    · exact keepsFiles_setStatus s _
    · exact keepsFiles_refl s

/-- A file of the session after one of them has got a status. -/
theorem mem_withFileStatus {session : SendSessionState} {fileId : String} {status : FileStatus}
    {entry : String × SendingFile} (h : entry ∈ (session.withFileStatus fileId status).files) :
    entry ∈ session.files ∨ entry.1 = fileId ∧ entry.2.status = status := by
  obtain ⟨⟨id, file⟩, hmem, rfl⟩ := List.mem_map.mp h
  by_cases hid : id = fileId
  · exact .inr ⟨hid, by simp [hid]⟩
  · exact .inl (by simpa [hid] using hmem)

/-- A file is taken by an isolate, or sent again. -/
theorem Truthful.sendFile (h : s.Truthful P) (config : SendConfig) (fileId : String) (file : SendingFile)
    (isRetry : Bool) (hanswered : file.token.isSome → s.pipeline.Answered) :
    (s.sendFile config fileId file isRetry).Truthful P := by
  simp only [Transfer.sendFile]
  split
  · next token session htoken hsession =>
    by_cases hstatus : session.status ∈ allowedStates
    · rw [if_pos hstatus]
      have hmiddle : ∃ middle : SendSessionState,
          (if isRetry then {session with status := .sending} else session) = middle ∧
          middle.remoteSessionId = session.remoteSessionId ∧ middle.files = session.files := by
        cases isRetry <;> exact ⟨_, rfl, rfl, rfl⟩
      obtain ⟨middle, heq, hremote, hfiles⟩ := hmiddle
      simp only [heq]
      refine ⟨h.savedOnly, fun hnot => absurd (hanswered (by simp [htoken])) hnot, fun task htask => ?_,
        fun task htask after hafter => ?_, fun task htask u hu => ?_, fun after hafter entry hentry hdone => ?_⟩
      · rcases List.mem_append.mp htask with hold | hnew
        · exact h.requests task hold
        · obtain rfl := List.mem_singleton.mp hnew
          exact ⟨rfl, rfl⟩
      · obtain rfl := Option.some.inj hafter
        rcases List.mem_append.mp htask with hold | hnew
        · exact (h.sessions task hold session hsession).trans hremote.symm
        · obtain rfl := List.mem_singleton.mp hnew
          rfl
      · rcases List.mem_append.mp htask with hold | hnew
        · exact h.handlers task hold u hu
        · obtain rfl := List.mem_singleton.mp hnew
          cases hu
      · obtain rfl := Option.some.inj hafter
        rcases mem_withFileStatus hentry with hold | ⟨-, hsending⟩
        · rw [hfiles] at hold
          exact hremote ▸ h.finished session hsession entry hold hdone
        · rw [hsending] at hdone
          cases hdone
    · rw [if_neg hstatus]
      exact h
  · exact h

/-- A request has ended: with 200 only where its handler is one of the file, in the session
of the sender. -/
theorem Truthful.fileSent (h : s.Truthful P) (hanswered : s.pipeline.Answered) (task : SendingTask) (success : Bool)
    (hsaved : success = true → ∀ session, s.session = some session →
      SavedIn s.receiver session.remoteSessionId task.fileId) : (s.fileSent task success).Truthful P := by
  have hmarked : Truthful P (s.updateSession fun session =>
      session.withFileStatus task.fileId (if success then .finished else .failed)) := by
    refine ⟨h.savedOnly, fun hnot => absurd hanswered hnot, h.requests, fun other hother after hafter => ?_, h.handlers,
      fun after hafter entry hentry hdone => ?_⟩
    · obtain ⟨before, hbefore, rfl⟩ := Option.map_eq_some_iff.mp hafter
      exact h.sessions other hother before hbefore
    · obtain ⟨before, hbefore, rfl⟩ := Option.map_eq_some_iff.mp hafter
      rcases mem_withFileStatus hentry with hold | ⟨hid, hstatus⟩
      · exact h.finished before hbefore entry hold hdone
      · have hsuccess : success = true := by
          cases success with
          | true => rfl
          | false =>
            rw [hstatus] at hdone
            cases hdone
        exact hid ▸ hsaved hsuccess before hbefore
  simp only [Transfer.fileSent]
  split
  · split
    · exact hmarked.keeps (keepsFiles_finish _)
    · exact hmarked
  · exact hmarked

/-- Some of the tasks are left. -/
theorem Truthful.tasks (h : s.Truthful P) {tasks : List SendingTask} (htasks : ∀ task ∈ tasks, task ∈ s.sendingTasks) :
    Truthful P {s with sendingTasks := tasks} where
  savedOnly := h.savedOnly
  ungranted hnot := by
    obtain ⟨hnone, htokens⟩ := h.ungranted hnot
    refine ⟨List.eq_nil_iff_forall_not_mem.mpr fun task htask => ?_, htokens⟩
    exact List.not_mem_nil (hnone ▸ htasks task htask)
  requests task htask := h.requests task (htasks task htask)
  sessions task htask := h.sessions task (htasks task htask)
  handlers task htask := h.handlers task (htasks task htask)
  finished := h.finished

/-- The answer to the prepare-upload request: no file of the session is finished by it. -/
theorem Truthful.onPrepared (h : s.Truthful P) (hnot : ¬ s.pipeline.Answered) (response : Response) :
    (s.onPrepared response).Truthful P := by
  obtain ⟨htasks, hfiles⟩ := h.ungranted hnot
  suffices hthen : (s.onPrepared response).sendingTasks = s.sendingTasks ∧
      (¬ (s.onPrepared response).pipeline.Answered → (s.onPrepared response).session = s.session) ∧
      ∀ after, (s.onPrepared response).session = some after → ∀ entry ∈ after.files, entry.2.status ≠ .finished by
    obtain ⟨htasks', hsession, hunfinished⟩ := hthen
    have hnone := htasks'.trans htasks
    refine ⟨(onPrepared_spec s response).receiver ▸ h.savedOnly, fun hopen => ⟨hnone, ?_⟩, ?_, ?_, ?_,
      fun after hafter entry hentry hdone => absurd hdone (hunfinished after hafter entry hentry)⟩
    · rw [hsession hopen]
      exact hfiles
    all_goals
      intro task htask
      rw [hnone] at htask
      cases htask
  have hstatus : ∀ status, ∀ after, (s.setStatus status).session = some after →
      ∀ entry ∈ after.files, entry.2.status ≠ .finished := by
    intro status after hafter
    obtain ⟨before, hbefore, rfl⟩ := Option.map_eq_some_iff.mp hafter
    exact fun entry hentry => (hfiles before hbefore entry hentry).2
  simp only [Transfer.onPrepared]
  split
  · next granted _ _ =>
    split
    · exact ⟨rfl, fun hopen => absurd trivial hopen, fun after hafter => by cases hafter⟩
    · refine ⟨rfl, fun hopen => absurd trivial hopen, fun after hafter entry hentry => ?_⟩
      obtain ⟨middle, hmiddle, rfl⟩ := Option.map_eq_some_iff.mp hafter
      obtain ⟨file, -, rfl⟩ := List.mem_map.mp hentry
      dsimp only
      split <;> simp
  · exact ⟨rfl, fun hopen => absurd trivial hopen, fun after hafter => by cases hafter⟩
  · exact ⟨rfl, fun _ => rfl, fun after hafter entry hentry => (hfiles after hafter entry hentry).2⟩
  · exact ⟨rfl, fun hopen => absurd trivial hopen, hstatus _⟩
  · exact ⟨rfl, fun hopen => absurd trivial hopen, hstatus _⟩
  · exact ⟨rfl, fun hopen => absurd trivial hopen, hstatus _⟩
  · exact ⟨rfl, fun hopen => absurd trivial hopen, hstatus _⟩

/-! ### The receiver -/

section Receive
variable {receiver : ReceiveServer} {e : ReceiveEvent} {task : SendingTask} {u : Nat}

theorem savedIn_of_step (hst : s.receiver.step config.receive e = some receiver) {remote : Option Nat} {fileId : String}
    (h : SavedIn s.receiver remote fileId) : SavedIn receiver remote fileId := by
  obtain ⟨u, sessionId, hremote, hget⟩ := h
  exact ⟨u, sessionId, hremote, ReceiveServer.answered_of_step hst hget⟩

theorem HandledBy.of_step (hst : s.receiver.step config.receive e = some receiver) (h : HandledBy s.receiver task u) :
    HandledBy receiver task u := by
  obtain ⟨upload, hget, hid, hcase⟩ := h
  obtain ⟨phase, hthen, hphase⟩ := ReceiveServer.upload_of_step hst hget
  refine ⟨_, hthen, hid, hcase.imp_left ?_⟩
  rintro ⟨code, hanswered, hcode⟩
  rcases hphase with rfl | hrank
  · exact ⟨code, hanswered, hcode⟩
  · rw [hanswered] at hrank
    cases hrank

/-- Something happens on the receiver. -/
theorem Truthful.receive (h : s.Truthful P) (hPQ : ∀ u, P u → Q u)
    (hsaved : ∀ u quickSave, e = .saved u true quickSave → Q u)
    (hst : s.receiver.step config.receive e = some receiver) : Truthful Q {s with receiver} where
  savedOnly := h.savedOnly.step hPQ hsaved hst
  ungranted := h.ungranted
  requests := h.requests
  sessions := h.sessions
  handlers task htask u hu := (h.handlers task htask u hu).of_step hst
  finished after hafter entry hentry hdone := savedIn_of_step hst (h.finished after hafter entry hentry hdone)

/-- A request becomes a handler of the file, in the session it names, or is refused. -/
theorem handledBy_of_upload {request : UploadRequest} {fileId : String} (isRetry : Bool) (handler : Option Nat)
    (hv2 : request.v2 = true) (hid : request.fileId = some fileId)
    (hst : s.receiver.step config.receive (.upload request) = some receiver) :
    HandledBy receiver ⟨fileId, request, isRetry, handler⟩ s.receiver.uploads.length := by
  simp only [ReceiveServer.step] at hst
  rcases checkUpload_cases s.receiver.session request with
    ⟨code, hcheck, hcode⟩ | ⟨session, name, hcheck, hsession, hname⟩
  · rw [hcheck] at hst
    obtain rfl := Option.some.inj hst
    refine ⟨⟨none, request.fileId.getD "", .answered code⟩, by simp, ?_, .inl ⟨code, rfl, hcode⟩⟩
    simp [hid]
  · rw [hcheck] at hst
    obtain rfl := Option.some.inj hst
    refine ⟨⟨some session.sessionId, name, .saving⟩, by simp [ReceiveServer.beginUpload], ?_,
      .inr ⟨session.sessionId, rfl, hsession hv2⟩⟩
    exact Option.some.inj (hname.symm.trans hid)

end Receive

/-! ### One step -/

/-- The events of the receiver are those of its own handlers. -/
theorem Truthful.step {event : SendEvent} (h : s.Truthful P) (hPQ : ∀ u, P u → Q u)
    (hsaved : ∀ u quickSave, event = .receiver (.saved u true quickSave) → Q u) (hst : s.step config event = some t) :
    t.Truthful Q := by
  have hQ : s.Truthful Q := {h with savedOnly := fun u upload hget hphase => hPQ u (h.savedOnly u upload hget hphase)}
  have hanswered : ∀ {i : Nat} {task : SendingTask}, s.sendingTasks[i]? = some task → s.pipeline.Answered := by
    intro i task hget
    by_contra hnot
    have hmem := List.mem_of_getElem? hget
    rw [(h.ungranted hnot).1] at hmem
    cases hmem
  cases event with
  | startSession background files =>
    simp only [Transfer.step] at hst
    split_ifs at hst with hidle
    obtain rfl := Option.some.inj hst
    have hnone : s.sendingTasks = [] := (h.ungranted (by simp [hidle, Pipeline.Answered])).1
    refine ⟨hQ.savedOnly, fun _ => ⟨hnone, fun after hafter entry hentry => ?_⟩, hQ.requests, ?_, hQ.handlers,
      fun after hafter entry hentry hdone => ?_⟩
    · obtain rfl := Option.some.inj hafter
      obtain ⟨file, -, rfl⟩ := List.mem_map.mp hentry
      exact ⟨rfl, fun hdone => by cases hdone⟩
    · intro task htask
      rw [hnone] at htask
      cases htask
    · obtain rfl := Option.some.inj hafter
      obtain ⟨file, -, rfl⟩ := List.mem_map.mp hentry
      cases hdone
  | prepareArrives =>
    simp only [Transfer.step] at hst
    split at hst
    · next pin hpipeline =>
      obtain ⟨receiver, hreceiver, rfl⟩ := Option.map_eq_some_iff.mp hst
      refine Truthful.receive (hQ.keeps (keepsFiles_of_session rfl rfl (fun hwas => ?_) rfl))
        (fun _ => id) (fun u quickSave he => by cases he) hreceiver
      rw [hpipeline] at hwas
      cases hwas
    · cases hst
  | prepareAnswered =>
    simp only [Transfer.step] at hst
    split at hst
    · next pin h' hpipeline =>
      split at hst
      · next response _ _ =>
        obtain rfl := Option.some.inj hst
        exact hQ.onPrepared (by simp [hpipeline, Pipeline.Answered]) response
      · cases hst
    · cases hst
  | enterPin pin =>
    simp only [Transfer.step] at hst
    split at hst
    · next pin hpipeline =>
      obtain rfl := Option.some.inj hst
      refine hQ.keeps (keepsFiles_of_session rfl rfl (fun hwas => ?_) rfl)
      rw [hpipeline] at hwas
      cases hwas
    · obtain rfl := Option.some.inj hst
      have hkeeps := keepsFiles_setStatus s .canceledBySender
      exact hQ.keeps ⟨rfl, rfl, fun _ => trivial, hkeeps.session⟩
    · cases hst
  | takeFile =>
    simp only [Transfer.step] at hst
    split at hst
    · next fileId file queue hpipeline =>
      split_ifs at hst
      obtain rfl := Option.some.inj hst
      refine Truthful.sendFile (hQ.keeps ?_) config fileId file false fun _ => trivial
      exact keepsFiles_of_session rfl rfl (fun _ => trivial) rfl
    · cases hst
  | uploadArrives i =>
    simp only [Transfer.step] at hst
    split at hst
    · next fileId request isRetry hget =>
      obtain ⟨receiver, hreceiver, rfl⟩ := Option.map_eq_some_iff.mp hst
      have hmem := List.mem_of_getElem? hget
      obtain ⟨hv2, hid⟩ := h.requests _ hmem
      have hthen := hQ.receive (fun _ => id) (fun u quickSave he => by cases he) hreceiver
      have hhandled := handledBy_of_upload isRetry (some s.receiver.uploads.length) hv2 hid hreceiver
      have hset : ∀ task ∈ s.sendingTasks.set i ⟨fileId, request, isRetry, some s.receiver.uploads.length⟩,
          task ∈ s.sendingTasks ∨ task = ⟨fileId, request, isRetry, some s.receiver.uploads.length⟩ :=
        fun task htask => List.mem_or_eq_of_mem_set htask
      refine ⟨hthen.savedOnly, fun hnot => absurd (hanswered hget) hnot, fun task htask => ?_, fun task htask => ?_,
        fun task htask u hu => ?_, hthen.finished⟩
      · rcases hset task htask with hold | rfl
        · exact hthen.requests task hold
        · exact ⟨hv2, hid⟩
      · rcases hset task htask with hold | rfl
        · exact hthen.sessions task hold
        · exact fun session hsession => h.sessions _ hmem session hsession
      · rcases hset task htask with hold | rfl
        · exact hthen.handlers task hold u hu
        · obtain rfl := Option.some.inj hu
          exact hhandled
    · cases hst
  | uploadAnswered i =>
    simp only [Transfer.step] at hst
    split at hst
    · next fileId request isRetry u hget =>
      split at hst
      · next own name code hupload =>
        obtain rfl := Option.some.inj hst
        refine Truthful.fileSent (hQ.tasks fun task htask => List.mem_of_mem_eraseIdx htask) (hanswered hget) _ _ ?_
        intro hcode session hsession
        obtain rfl : code = 200 := of_decide_eq_true hcode
        -- Its own handler answered: for this file, and in the session of the sender.
        have hmem := List.mem_of_getElem? hget
        obtain ⟨upload, hfound, hname, hrefused | ⟨sessionId, hown, hrequest⟩⟩ := h.handlers _ hmem u rfl
        · obtain rfl := Option.some.inj (hupload.symm.trans hfound)
          obtain ⟨code, hanswer, hcode⟩ := hrefused
          exact absurd (UploadPhase.answered.inj hanswer).symm hcode
        · obtain rfl := Option.some.inj (hupload.symm.trans hfound)
          obtain rfl : name = fileId := hname
          obtain rfl : own = some sessionId := hown
          exact ⟨u, sessionId, (h.sessions _ hmem session hsession).symm.trans hrequest, hupload⟩
      · cases hst
    · cases hst
  | uploadAborted i =>
    simp only [Transfer.step] at hst
    split at hst
    · next task hget =>
      split_ifs at hst
      obtain rfl := Option.some.inj hst
      exact Truthful.fileSent (hQ.tasks fun task htask => List.mem_of_mem_eraseIdx htask) (hanswered hget) _ _
        fun hfalse => by cases hfalse
    · cases hst
  | loopEnds =>
    simp only [Transfer.step] at hst
    split_ifs at hst with hends
    obtain rfl := Option.some.inj hst
    have hkeeps := keepsFiles_finish s
    exact hQ.keeps ⟨hkeeps.receiver, hkeeps.sendingTasks, fun _ => trivial, hkeeps.session⟩
  | retryFile fileId =>
    simp only [Transfer.step] at hst
    split at hst
    · next file hfile =>
      obtain rfl := Option.some.inj hst
      refine hQ.sendFile config fileId file true fun htoken => ?_
      by_contra hnot
      obtain ⟨session, hsession, hlookup⟩ := Option.bind_eq_some_iff.mp hfile
      obtain ⟨before, after, hfiles, -⟩ := List.lookup_eq_some_iff.mp hlookup
      have hmem : (fileId, file) ∈ session.files := by
        rw [hfiles]
        exact List.mem_append_right before List.mem_cons_self
      have hnone := ((h.ungranted hnot).2 session hsession (fileId, file) hmem).1
      rw [hnone] at htoken
      cases htoken
    · cases hst
  | cancelSession =>
    obtain rfl := Option.some.inj hst
    exact hQ.keeps (keepsFiles_cancelSession s)
  | closeSession =>
    obtain rfl := Option.some.inj hst
    exact hQ.keeps (keepsFiles_closeSession s)
  | cancelArrives i =>
    simp only [Transfer.step] at hst
    split at hst
    · obtain ⟨receiver, hreceiver, rfl⟩ := Option.map_eq_some_iff.mp hst
      exact Truthful.receive (hQ.keeps (keepsFiles_of_session rfl rfl id rfl)) (fun _ => id)
        (fun u quickSave he => by cases he) hreceiver
    · cases hst
  | receiverCancelArrives i =>
    simp only [Transfer.step] at hst
    split at hst
    · obtain rfl := Option.some.inj hst
      have hkeeps : KeepsFiles s {s with receiverCancels := s.receiverCancels.eraseIdx i} :=
        keepsFiles_of_session rfl rfl id rfl
      exact (hQ.keeps hkeeps).keeps (keepsFiles_cancelByReceiver _ _)
    · cases hst
  | receiver e =>
    have hsaved' : ∀ u quickSave, e = .saved u true quickSave → Q u := fun u quickSave he => hsaved u quickSave (he ▸ rfl)
    simp only [Transfer.step] at hst
    split_ifs at hst
    split at hst
    · obtain ⟨receiver, hreceiver, rfl⟩ := Option.map_eq_some_iff.mp hst
      exact Truthful.receive (hQ.keeps (keepsFiles_of_session rfl rfl id rfl)) (fun _ => id) hsaved' hreceiver
    · obtain ⟨receiver, hreceiver, rfl⟩ := Option.map_eq_some_iff.mp hst
      exact hQ.receive (fun _ => id) hsaved' hreceiver

end Transfer

/-! ### All runs -/

end MagicShare.Send
