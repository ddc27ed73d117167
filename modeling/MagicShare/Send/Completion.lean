import MagicShare.Send.Notifier

/-! When a send session ends (`_sendLoop`, `sendFile` and `_finish`).

A retry ends the session when all files are through. The loop ends it when its own files
are, whatever a retry is still uploading: then a session is finished, or removed, with a
file on its way. Where no retry is uploading when the loop ends, a session that ends has
all its files through (`completion_is_truthful`). -/
namespace MagicShare.Send
open Receive

/-! ### The property and its condition -/

/-- The upload is still to be granted. -/
def PipelinePhase.isPreparing : PipelinePhase → Bool
  | .preparing _ | .askingPin => true
  | _ => false

/-- The user, or the page that is left, has the session closed. -/
def NotifierEvent.closes : NotifierEvent → Nat → Bool
  | .cancelWaitingSession id, other | .cancelSession id, other | .closeSession id, other => id = other
  | .clearAllSessions, _ => true
  | _, _ => false

namespace SendNotifier

/-- The files of the session once an upload that ends is noted. -/
def filesAfter (s : SendNotifier) (e : NotifierEvent) (id : Nat) (session : OpenSession) : List (String × SendingFile) :=
  match e with
  | .uploadEnded u success =>
    match s.uploads[u]? with
    | some upload =>
      if upload.sessionId = id then
        (session.withFileStatus upload.fileId (if success then .finished else .failed)).files
      else session.files
    | none => session.files
  | _ => session.files

/-- What a step may make of the session `a`. -/
structure Truthful (s : SendNotifier) (e : NotifierEvent) (id : Nat) (a : OpenSession) (after : Option OpenSession) : Prop where
  /-- Where its files have begun to be sent and it ends, they are through, and where it is
  finished, none has failed. -/
  ended : ∀ b, after = some b → b.startTime.isSome → b.status ≠ a.status →
    b.status = .finished ∨ b.status = .finishedWithErrors →
    isFinishedOrError b.files = true ∧ (b.status = .finished → ∀ entry ∈ b.files, entry.2.status ≠ .failed)
  /-- Where they have, and it is removed and nobody closes it, it is in the background and
  they have been sent. -/
  removed : after = none → a.startTime.isSome → e.closes id = false →
    a.background = true ∧ isFinishedOrError (s.filesAfter e id a) = true ∧
      ∀ entry ∈ s.filesAfter e id a, entry.2.status ≠ .failed
  /-- A canceled session stays canceled. -/
  canceled : ∀ b, after = some b → a.status = .canceledBySender ∨ a.status = .canceledByReceiver → b.status = a.status

/-- The step is truthful about every session. -/
def CompletesTruthfully (s : SendNotifier) (e : NotifierEvent) (t : SendNotifier) : Prop :=
  ∀ id a, s.sessions id = some a → s.Truthful e id a (t.sessions id)

/-- Where the loop ends and the session is still sending, no retry of it is uploading. -/
def retriesEnded (s : SendNotifier) : NotifierEvent → Bool
  | .loopEnds p =>
    match s.pipelines[p]? with
    | some pipeline =>
      !(s.sessions pipeline.sessionId).any (·.status = .sending) ||
        s.uploads.all fun upload => upload.sessionId ≠ pipeline.sessionId || upload.pipeline.isSome
    | none => true
  | _ => true

/-! ### The invariant -/

/-- The file is being uploaded, or in the queue of a loop. -/
def Owned (s : SendNotifier) (id : Nat) (fileId : String) : Prop :=
  (∃ upload ∈ s.uploads, upload.sessionId = id ∧ upload.fileId = fileId) ∨
    ∃ pipeline ∈ s.pipelines, pipeline.sessionId = id ∧ ∃ queue, pipeline.phase = .sendLoop queue ∧
      ∃ file, (fileId, file) ∈ queue ∧ file.token.isSome

def Preparing (s : SendNotifier) (id : Nat) : Prop :=
  ∃ pipeline ∈ s.pipelines, pipeline.sessionId = id ∧ PipelinePhase.isPreparing pipeline.phase = true

/-- A session, where these files have somebody who sends them, and where its pipeline is
preparing or not. -/
structure Sound (session : OpenSession) (owned : String → Prop) (preparing : Prop) : Prop where
  owned : session.startTime.isSome → session.status ∈ allowedStates →
    ∀ fileId file, (fileId, file) ∈ session.files → file.status = .queue ∨ file.status = .sending → owned fileId
  begun : session.startTime.isSome →
    session.status ∈ [SessionStatus.sending, .finished, .finishedWithErrors, .canceledByReceiver]
  unbegun : session.startTime = none →
    session.status ∉ [SessionStatus.sending, .canceledByReceiver] ∧ ∀ entry ∈ session.files, entry.2.token = none
  preparing : preparing → session.status = .waiting ∧ session.startTime = none

structure Filed (s : SendNotifier) : Prop where
  sessions : ∀ id session, s.sessions id = some session → Sound session (s.Owned id) (s.Preparing id)
  workers : ∀ upload ∈ s.uploads, ∀ p, upload.pipeline = some p →
    (s.pipelines[p]?).map UploadPipeline.sessionId = some upload.sessionId

variable {s t : SendNotifier} {id : Nat} {session : OpenSession}

theorem Sound.mono {owned owned' : String → Prop} {preparing preparing' : Prop} (h : Sound session owned preparing)
    (howned : ∀ fileId, owned fileId → owned' fileId) (hpreparing : preparing' → preparing) :
    Sound session owned' preparing' :=
  ⟨fun hbegun hstatus fileId file hmem hopen => howned fileId (h.owned hbegun hstatus fileId file hmem hopen), h.begun,
    h.unbegun, fun h' => h.preparing (hpreparing h')⟩

/-- Neither the pipelines nor the uploads change. -/
theorem Filed.of_sessions (h : s.Filed) (hpipelines : t.pipelines = s.pipelines) (huploads : t.uploads = s.uploads)
    (hsessions : ∀ id session, t.sessions id = some session → Sound session (s.Owned id) (s.Preparing id)) : t.Filed := by
  refine ⟨fun id session hget => (hsessions id session hget).mono (fun fileId => ?_) ?_, ?_⟩
  · unfold Owned
    rw [hpipelines, huploads]
    exact fun howned => howned
  · unfold Preparing
    rw [hpipelines]
    exact fun hpreparing => hpreparing
  · rw [hpipelines, huploads]
    exact h.workers

theorem Filed.stopWait (h : s.Filed) (id : Nat) : (s.stopWait id).Filed :=
  h.of_sessions (by simp) (by simp) fun other session hget => h.sessions other session (by simpa using hget)

theorem Filed.updateSession (h : s.Filed) {update : OpenSession → OpenSession}
    (hupdate : ∀ session, s.sessions id = some session → Sound session (s.Owned id) (s.Preparing id) →
      Sound (update session) (s.Owned id) (s.Preparing id)) : (s.updateSession id update).Filed := by
  refine h.of_sessions rfl rfl fun other session hget => ?_
  by_cases hid : other = id
  · subst hid
    rw [sessions_updateSession_self] at hget
    obtain ⟨before, hbefore, rfl⟩ := Option.map_eq_some_iff.mp hget
    exact hupdate before hbefore (h.sessions other before hbefore)
  · rw [sessions_updateSession_of_ne update hid] at hget
    exact h.sessions other session hget

theorem Filed.closeSession (h : s.Filed) (id : Nat) : (s.closeSession id).Filed := by
  refine h.of_sessions (by simp [SendNotifier.closeSession]) (by simp [SendNotifier.closeSession]) fun other session hget => ?_
  by_cases hid : other = id
  · subst hid
    simp at hget
  · rw [sessions_closeSession_of_ne hid] at hget
    exact h.sessions other session hget

/-- A session that has not begun. -/
theorem Sound.of_unbegun {owned : String → Prop} {preparing : Prop} (hunbegun : session.startTime = none)
    (hstatus : session.status ∉ [SessionStatus.sending, .canceledByReceiver])
    (htokens : ∀ entry ∈ session.files, entry.2.token = none) (hpreparing : preparing → session.status = .waiting) :
    Sound session owned preparing where
  owned hbegun := absurd hunbegun (Option.isSome_iff_ne_none.mp hbegun)
  begun hbegun := absurd hunbegun (Option.isSome_iff_ne_none.mp hbegun)
  unbegun _ := ⟨hstatus, htokens⟩
  preparing h' := ⟨hpreparing h', hunbegun⟩

/-- What one session becomes, and what is done for it, is up to it alone. -/
theorem Filed.put (h : s.Filed) (id : Nat) (hsessions : ∀ other, other ≠ id → t.sessions other = s.sessions other)
    (howned : ∀ other, other ≠ id → ∀ fileId, s.Owned other fileId → t.Owned other fileId)
    (hpreparing : ∀ other, other ≠ id → t.Preparing other → s.Preparing other)
    (hown : ∀ session, t.sessions id = some session → Sound session (t.Owned id) (t.Preparing id))
    (hworkers : ∀ upload ∈ t.uploads, ∀ p, upload.pipeline = some p →
      (t.pipelines[p]?).map UploadPipeline.sessionId = some upload.sessionId) : t.Filed := by
  refine ⟨fun other session hget => ?_, hworkers⟩
  by_cases hid : other = id
  · subst hid
    exact hown session hget
  · rw [hsessions other hid] at hget
    exact (h.sessions other session hget).mono (howned other hid) (hpreparing other hid)

/-- A pipeline starts for a session that has not begun. -/
theorem Filed.runUploadPipeline (h : s.Filed)
    (hwaiting : ∀ session, s.sessions id = some session → session.status = .waiting ∧ session.startTime = none) :
    (s.runUploadPipeline id).Filed := by
  obtain ⟨added, hid, hpipelines, hsessions, huploads⟩ : ∃ added : UploadPipeline, added.sessionId = id ∧
      (s.runUploadPipeline id).pipelines = s.pipelines ++ [added] ∧ (s.runUploadPipeline id).sessions = s.sessions ∧
        (s.runUploadPipeline id).uploads = s.uploads := by
    unfold SendNotifier.runUploadPipeline
    split
    · exact ⟨_, rfl, rfl, rfl, rfl⟩
    · exact ⟨_, rfl, rfl, rfl, rfl⟩
  have howned : ∀ other fileId, s.Owned other fileId → (s.runUploadPipeline id).Owned other fileId := by
    rintro other fileId (⟨upload, hmem, hupload⟩ | ⟨pipeline, hmem, hqueue⟩)
    · exact .inl ⟨upload, huploads.symm ▸ hmem, hupload⟩
    · exact .inr ⟨pipeline, hpipelines ▸ List.mem_append_left _ hmem, hqueue⟩
  refine h.put id (fun _ _ => by rw [hsessions]) (fun other _ => howned other) ?_ (fun session hget => ?_) ?_
  · rintro other hne ⟨pipeline, hmem, hown, hphase⟩
    rw [hpipelines] at hmem
    rcases List.mem_append.mp hmem with hold | hnew
    · exact ⟨pipeline, hold, hown, hphase⟩
    · obtain rfl := List.mem_singleton.mp hnew
      exact absurd (hown.symm.trans hid) hne
  · rw [hsessions] at hget
    obtain ⟨hstatus, hunbegun⟩ := hwaiting session hget
    have hsound := (h.sessions id session hget).unbegun hunbegun
    exact .of_unbegun hunbegun hsound.1 hsound.2 fun _ => hstatus
  · intro upload hmem p hp
    rw [huploads] at hmem
    have hold := h.workers upload hmem p hp
    obtain ⟨pipeline, hget, -⟩ := Option.map_eq_some_iff.mp hold
    rwa [hpipelines, Records.append hget, ← hget]

/-- A session that waits for its device has not begun, and has no pipeline. -/
theorem Filed.of_waiting (h : s.Filed) (hget : s.sessions id = some session) (hstatus : session.status ∈ waitingStatuses) :
    session.startTime = none ∧ ¬ s.Preparing id := by
  have hsound := h.sessions id session hget
  constructor
  · by_contra hsome
    have hbegun := hsound.begun (Option.isSome_iff_ne_none.mpr hsome)
    simp only [waitingStatuses, List.mem_cons, List.not_mem_nil, or_false] at hstatus hbegun
    rcases hstatus with hs | hs <;> simp [hs] at hbegun
  · intro hpreparing
    have hwaiting := (hsound.preparing hpreparing).1
    simp [hwaiting, waitingStatuses] at hstatus

theorem Filed.onMergedDevicesUpdate (h : s.Filed) {merged : List MergedDevice} :
    (s.onMergedDevicesUpdate id merged).Filed := by
  unfold SendNotifier.onMergedDevicesUpdate
  split
  · exact h.stopWait id
  · next session hget =>
    split_ifs with hstatus
    · split
      · exact h
      · split
        · exact h
        · obtain ⟨hunbegun, hnone⟩ := h.of_waiting hget (hstatus ▸ by decide)
          refine ((h.stopWait id).updateSession fun before hbefore hsound => ?_).runUploadPipeline fun after hafter => ?_
          · rw [sessions_stopWait, hget] at hbefore
            obtain rfl := Option.some.inj hbefore
            exact .of_unbegun hunbegun (by simp) (hsound.unbegun hunbegun).2 fun _ => rfl
          · simp only [sessions_updateSession_self, sessions_stopWait, hget, Option.map_some, Option.some.injEq] at hafter
            subst hafter
            exact ⟨rfl, hunbegun⟩
    · exact h

theorem Filed.startWaitForOnline (h : s.Filed) {merged : List MergedDevice} : (s.startWaitForOnline id merged).Filed := by
  simp only [SendNotifier.startWaitForOnline]
  split
  · exact h.stopWait id
  · refine Filed.onMergedDevicesUpdate ?_
    exact (h.stopWait id).of_sessions rfl rfl (h.stopWait id).sessions

/-- The status changes of a session that has not begun, and whose pipeline is not
preparing. -/
theorem Filed.setStatus (h : s.Filed) {status : SessionStatus}
    (hbefore : ∀ session, s.sessions id = some session → session.startTime = none)
    (hstatus : status ∉ [SessionStatus.sending, .canceledByReceiver]) (hnone : s.Preparing id → status = .waiting) :
    (s.setStatus id status).Filed :=
  h.updateSession fun session hget hsound =>
    .of_unbegun (hbefore session hget) hstatus (hsound.unbegun (hbefore session hget)).2 hnone

theorem Filed.startSession (h : s.Filed) (hkept : s.Kept) {hasHttpEndpoint : Bool} {files : List String} {background : Bool}
    {stableTargetId : Option String} {merged : List MergedDevice} :
    (s.startSession hasHttpEndpoint files background stableTargetId merged).Filed := by
  have hnone : ¬ s.Preparing s.created := by
    rintro ⟨pipeline, hmem, hown, -⟩
    exact Nat.lt_irrefl _ (hown ▸ hkept.known _ (List.mem_map_of_mem hmem))
  have hnew : ∀ status : SessionStatus, status ∉ [SessionStatus.sending, .canceledByReceiver] →
      Filed {s with
        created := s.created + 1
        sessions := Function.update s.sessions s.created (some
          {background, hasHttpEndpoint, stableTargetId, status, files := files.map fun fileId => (fileId, {})})} := by
    intro status hstatus
    refine h.of_sessions rfl rfl fun other session hget => ?_
    by_cases hid : other = s.created
    · subst hid
      simp only [Function.update_self, Option.some.injEq] at hget
      subst hget
      refine .of_unbegun rfl hstatus (fun entry hentry => ?_) fun hpreparing => absurd hpreparing hnone
      obtain ⟨fileId, -, rfl⟩ := List.mem_map.mp hentry
      rfl
    · simp only [Function.update_of_ne hid] at hget
      exact h.sessions other session hget
  unfold SendNotifier.startSession
  simp only
  split_ifs
  · refine (hnew .waiting (by decide)).runUploadPipeline fun session hget => ?_
    simp only [Function.update_self, Option.some.injEq] at hget
    subst hget
    exact ⟨rfl, rfl⟩
  · refine (hnew .waitingForDevice (by decide)).setStatus (fun session hget => ?_) (by decide) fun hpreparing => ?_
    · simp only [Function.update_self, Option.some.injEq] at hget
      subst hget
      rfl
    · exact absurd hpreparing hnone
  · exact (hnew .waitingForDevice (by decide)).startWaitForOnline

/-! ### The pipelines -/

/-- A session has one pipeline. -/
theorem Kept.same_pipeline (h : s.Kept) {i j : Nat} {a b : UploadPipeline} (ha : s.pipelines[i]? = some a)
    (hb : s.pipelines[j]? = some b) (hsame : a.sessionId = b.sessionId) : i = j := by
  have hi : s.started[i]? = some a.sessionId := by simp [started, ha]
  have hj : s.started[j]? = some b.sessionId := by simp [started, hb]
  have hlt := (List.getElem?_eq_some_iff.mp hi).1
  exact (List.getElem?_inj hlt h.nodup).mp (by rw [hi, hj, hsame])

section
variable {p : Nat} {pipeline : UploadPipeline} {phase : PipelinePhase}

/-- Those the phase of one is set of. -/
theorem mem_setPhase (hget : s.pipelines[p]? = some pipeline) {other : UploadPipeline}
    (hmem : other ∈ (s.setPhase p pipeline phase).pipelines) :
    other = {pipeline with phase} ∨ ∃ i, i ≠ p ∧ s.pipelines[i]? = some other := by
  obtain ⟨i, hi⟩ := List.getElem?_of_mem hmem
  by_cases hip : p = i
  · subst hip
    rw [setPhase, Records.set_self hget] at hi
    exact .inl (Option.some.inj hi).symm
  · rw [setPhase, List.getElem?_set_ne hip] at hi
    exact .inr ⟨i, Ne.symm hip, hi⟩

theorem mem_setPhase_of_ne {i : Nat} {other : UploadPipeline} (hip : i ≠ p) (hi : s.pipelines[i]? = some other) :
    other ∈ (s.setPhase p pipeline phase).pipelines :=
  List.mem_of_getElem? ((List.getElem?_set_ne (Ne.symm hip)).trans hi)

theorem mem_setPhase_self (hget : s.pipelines[p]? = some pipeline) :
    {pipeline with phase} ∈ (s.setPhase p pipeline phase).pipelines :=
  List.mem_of_getElem? (Records.set_self hget)

theorem sessionId_setPhase (hget : s.pipelines[p]? = some pipeline) (i : Nat) :
    ((s.setPhase p pipeline phase).pipelines[i]?).map UploadPipeline.sessionId =
      (s.pipelines[i]?).map UploadPipeline.sessionId := by
  by_cases hip : p = i
  · subst hip
    rw [setPhase, Records.set_self hget, hget]
    rfl
  · rw [setPhase, List.getElem?_set_ne hip]

/-- What the queue of the pipeline does not hold is owned as before. -/
theorem Owned.setPhase {other : Nat} {fileId : String} (h : s.Owned other fileId) (hget : s.pipelines[p]? = some pipeline)
    (hqueue : pipeline.sessionId = other → ∀ queue, pipeline.phase = .sendLoop queue → ∀ file, (fileId, file) ∈ queue →
      file.token.isSome → ∃ rest, phase = .sendLoop rest ∧ (fileId, file) ∈ rest) :
    (s.setPhase p pipeline phase).Owned other fileId := by
  rcases h with hupload | ⟨owner, hmem, hown, queue, hphase, file, hfile, htoken⟩
  · exact .inl hupload
  · obtain ⟨i, hi⟩ := List.getElem?_of_mem hmem
    by_cases hip : i = p
    · subst hip
      obtain rfl := Option.some.inj (hget.symm.trans hi)
      obtain ⟨rest, hrest, hin⟩ := hqueue hown queue hphase file hfile htoken
      exact .inr ⟨_, mem_setPhase_self hget, hown, rest, hrest, file, hin, htoken⟩
    · exact .inr ⟨owner, mem_setPhase_of_ne hip hi, hown, queue, hphase, file, hfile, htoken⟩

theorem Preparing.of_setPhase {other : Nat} (h : (s.setPhase p pipeline phase).Preparing other)
    (hget : s.pipelines[p]? = some pipeline) (hphase : phase.isPreparing = true → pipeline.phase.isPreparing = true) :
    s.Preparing other := by
  obtain ⟨owner, hmem, hown, hpreparing⟩ := h
  rcases mem_setPhase hget hmem with rfl | ⟨i, -, hi⟩
  · exact ⟨pipeline, List.mem_of_getElem? hget, hown, hphase hpreparing⟩
  · exact ⟨owner, List.mem_of_getElem? hi, hown, hpreparing⟩

/-- Once its pipeline is through with that, nothing is prepared for a session. -/
theorem Kept.not_preparing (h : s.Kept) (hget : s.pipelines[p]? = some pipeline) (hphase : phase.isPreparing = false) :
    ¬ (s.setPhase p pipeline phase).Preparing pipeline.sessionId := by
  rintro ⟨owner, hmem, hown, hpreparing⟩
  rcases mem_setPhase hget hmem with rfl | ⟨i, hip, hi⟩
  · simp [hphase] at hpreparing
  · exact hip (h.same_pipeline hi hget hown)

/-- A pipeline goes on; what it lets go of is of a session that takes no files, or owned
otherwise. -/
theorem Filed.setPhase (h : s.Filed) (hget : s.pipelines[p]? = some pipeline)
    (hqueue : ∀ session, s.sessions pipeline.sessionId = some session → session.status ∈ allowedStates → ∀ fileId,
      s.Owned pipeline.sessionId fileId → (s.setPhase p pipeline phase).Owned pipeline.sessionId fileId)
    (hphase : phase.isPreparing = true → pipeline.phase.isPreparing = true) : (s.setPhase p pipeline phase).Filed := by
  refine ⟨fun id session hsession => ?_, fun upload hmem i hi => ?_⟩
  · have hsound := h.sessions id session hsession
    refine ⟨fun hbegun hallowed fileId file hmem hopen => ?_, hsound.begun, hsound.unbegun,
      fun hpreparing => hsound.preparing (hpreparing.of_setPhase hget hphase)⟩
    have howned := hsound.owned hbegun hallowed fileId file hmem hopen
    by_cases hid : pipeline.sessionId = id
    · subst hid
      exact hqueue session hsession hallowed fileId howned
    · exact howned.setPhase hget fun hown => absurd hown hid
  · rw [sessionId_setPhase hget]
    exact h.workers upload hmem i hi

/-- A pipeline goes on that holds no files. -/
theorem Filed.setPhase_of_empty (h : s.Filed) (hget : s.pipelines[p]? = some pipeline)
    (hqueue : ∀ queue, pipeline.phase = .sendLoop queue → queue = [])
    (hphase : phase.isPreparing = true → pipeline.phase.isPreparing = true) : (s.setPhase p pipeline phase).Filed := by
  refine h.setPhase hget (fun _ _ _ fileId howned => howned.setPhase hget fun _ queue hloop file hfile _ => ?_) hphase
  rw [hqueue queue hloop] at hfile
  cases hfile

end

/-! ### Files -/

/-- Those whose status is set, and the others. -/
theorem mem_withFileStatus {session : SendSessionState} {fileId : String} {status : FileStatus} {entry : String × SendingFile}
    (h : entry ∈ (session.withFileStatus fileId status).files) :
    entry.1 = fileId ∧ entry.2.status = status ∧ (∃ file, (fileId, file) ∈ session.files ∧ file.token = entry.2.token) ∨
      entry.1 ≠ fileId ∧ entry ∈ session.files := by
  obtain ⟨⟨other, file⟩, hmem, rfl⟩ := List.mem_map.mp h
  by_cases hid : other = fileId
  · subst hid
    exact .inl ⟨rfl, by simp, file, hmem, by simp⟩
  · exact .inr ⟨hid, by simpa [hid] using hmem⟩

theorem withFileStatus_withFileStatus (session : SendSessionState) (fileId : String) (first status : FileStatus) :
    (session.withFileStatus fileId first).withFileStatus fileId status = session.withFileStatus fileId status := by
  simp only [SendSessionState.withFileStatus, List.map_map]
  congr 1
  refine List.map_congr_left fun entry _ => ?_
  simp only [Function.comp_apply]
  split_ifs <;> rfl

/-- The session when a file of it is taken. -/
def taken (session : OpenSession) (fileId : String) (isRetry : Bool) : OpenSession :=
  {session with toSendSessionState :=
    {session.toSendSessionState with status := if isRetry then .sending else session.status}.withFileStatus fileId .sending}

/-- `sendFile` takes a file with a token of a session that is in one of the allowed
states, and else does nothing. -/
theorem sendFile_spec (s : SendNotifier) (id : Nat) (fileId : String) (file : SendingFile) (pipeline : Option Nat) :
    (s.sendFile id fileId file pipeline = s ∧
        (file.token = none ∨ ∀ session, s.sessions id = some session → session.status ∉ allowedStates)) ∨
      ∃ session, file.token.isSome ∧ s.sessions id = some session ∧ session.status ∈ allowedStates ∧
        s.sendFile id fileId file pipeline = {s with
          sessions := Function.update s.sessions id (some (taken session fileId pipeline.isNone))
          uploads := s.uploads ++ [⟨id, fileId, pipeline⟩]} := by
  cases htoken : file.token with
  | none => exact .inl ⟨by simp [sendFile, htoken], .inl rfl⟩
  | some token =>
    cases hget : s.sessions id with
    | none => exact .inl ⟨by simp [sendFile, htoken, hget], .inr fun _ h => by cases h⟩
    | some session =>
      by_cases hallowed : session.status ∈ allowedStates
      · refine .inr ⟨session, rfl, rfl, hallowed, ?_⟩
        cases pipeline with
        | none =>
          simp [sendFile, htoken, hget, hallowed, taken, SendNotifier.setStatus, SendNotifier.withFileStatus,
            SendNotifier.updateSession, withFileStatus_withFileStatus]
        | some p =>
          simp [sendFile, htoken, hget, hallowed, taken, SendNotifier.withFileStatus, SendNotifier.updateSession]
      · refine .inl ⟨by simp [sendFile, htoken, hget, hallowed], .inr fun other h => ?_⟩
        exact Option.some.inj h ▸ hallowed

/-- `sendFile` does not look at the pipelines. -/
theorem sendFile_setPhase (s : SendNotifier) (id : Nat) (fileId : String) (file : SendingFile) (pipeline : Option Nat)
    (p : Nat) (owner : UploadPipeline) (phase : PipelinePhase) :
    (s.setPhase p owner phase).sendFile id fileId file pipeline =
      (s.sendFile id fileId file pipeline).setPhase p owner phase := by
  simp only [sendFile, setPhase]
  split
  · split_ifs <;> rfl
  · rfl

/-- `_finish` ends a session that is sending, and no other. -/
theorem finish_spec (s : SendNotifier) (id : Nat) :
    s.finish id = s ∨ ∃ session, s.sessions id = some session ∧ session.status = .sending ∧
      ((session.background = true ∧ (∀ entry ∈ session.files, entry.2.status ≠ .failed) ∧ s.finish id = s.closeSession id) ∨
        ∃ status, s.finish id = s.setStatus id status ∧
          (status = .finished ∧ (∀ entry ∈ session.files, entry.2.status ≠ .failed) ∨ status = .finishedWithErrors)) := by
  cases hget : s.sessions id with
  | none => exact .inl (by simp [finish, hget])
  | some session =>
    by_cases hsending : session.status = .sending
    · refine .inr ⟨session, rfl, hsending, ?_⟩
      by_cases hfailed : ∃ entry ∈ session.files, entry.2.status = .failed
      · refine .inr ⟨.finishedWithErrors, ?_, .inr rfl⟩
        have herror : (session.files.any fun entry => decide (entry.2.status = .failed)) = true := by
          simpa using hfailed
        simp [finish, hget, hsending, herror]
      · have herror : (session.files.any fun entry => decide (entry.2.status = .failed)) = false := by
          simpa using hfailed
        push Not at hfailed
        cases hbackground : session.background with
        | true => exact .inl ⟨rfl, hfailed, by simp [finish, hget, hsending, herror, hbackground]⟩
        | false =>
          exact .inr ⟨.finished, by simp [finish, hget, hsending, herror, hbackground], .inl ⟨rfl, hfailed⟩⟩
    · exact .inl (by simp [finish, hget, hsending])

/-! ### The invariant is kept -/

/-- A file is taken: of the loop of a pipeline, or one of the session as a retry. -/
theorem Filed.sendFile (h : s.Filed) {fileId : String} {file : SendingFile} {pipeline : Option Nat}
    (hfile : pipeline = none → ∀ session, s.sessions id = some session → (fileId, file) ∈ session.files)
    (hworker : ∀ p, pipeline = some p → (s.pipelines[p]?).map UploadPipeline.sessionId = some id) :
    (s.sendFile id fileId file pipeline).Filed := by
  rcases sendFile_spec s id fileId file pipeline with ⟨hsame, -⟩ | ⟨session, htoken, hget, hallowed, hthen⟩
  · rwa [hsame]
  rw [hthen]
  have hsound := h.sessions id session hget
  refine h.put id (fun other hid => Function.update_of_ne hid _ _) (fun other _ x howned => ?_) (fun _ _ hp => hp)
    (fun after hafter => ?_) fun upload hmem p hp => ?_
  · rcases howned with ⟨upload, hmem, hupload⟩ | hqueue
    · exact .inl ⟨upload, List.mem_append_left _ hmem, hupload⟩
    · exact .inr hqueue
  · simp only [Function.update_self, Option.some.injEq] at hafter
    subst hafter
    refine ⟨fun hbegun _ x f hmem hopen => ?_, fun hbegun => ?_, fun hunbegun => ⟨?_, fun entry hentry => ?_⟩, fun hpreparing => ?_⟩
    · rcases mem_withFileStatus hmem with ⟨rfl, -, -⟩ | ⟨-, hold⟩
      · exact .inl ⟨_, List.mem_append_right _ (List.mem_singleton_self _), rfl, rfl⟩
      · rcases hsound.owned hbegun hallowed x f hold hopen with ⟨upload, hupload, hown⟩ | hqueue
        · exact .inl ⟨upload, List.mem_append_left _ hupload, hown⟩
        · exact .inr hqueue
    · have hbefore := hsound.begun hbegun
      simp only [taken]
      split_ifs
      · exact List.mem_cons_self
      · exact hbefore
    · have hbefore := hsound.unbegun hunbegun
      have hretry : pipeline.isNone = false := by
        cases pipeline with
        | none =>
          have hnone := hbefore.2 (fileId, file) (hfile rfl session hget)
          rw [hnone] at htoken
          cases htoken
        | some p => rfl
      simpa [taken, hretry, SendSessionState.withFileStatus] using hbefore.1
    · rcases mem_withFileStatus hentry with ⟨-, -, before, hmem, hsame⟩ | ⟨-, hold⟩
      · exact hsame.symm.trans ((hsound.unbegun hunbegun).2 _ hmem)
      · exact (hsound.unbegun hunbegun).2 entry hold
    · have hwaiting := (hsound.preparing hpreparing).1
      simp [hwaiting, allowedStates] at hallowed
  · rcases List.mem_append.mp hmem with hold | hnew
    · exact h.workers upload hold p hp
    · obtain rfl := List.mem_singleton.mp hnew
      exact hworker p hp

/-- The next file of a loop is taken. -/
theorem Filed.takeFile (h : s.Filed) {p : Nat} {files queue : List (String × SendingFile)} {fileId : String}
    {file : SendingFile} (hget : s.pipelines[p]? = some ⟨id, files, .sendLoop ((fileId, file) :: queue)⟩) :
    ((s.setPhase p ⟨id, files, .sendLoop ((fileId, file) :: queue)⟩ (.sendLoop queue)).sendFile id fileId file
      (some p)).Filed := by
  have hqueue : ∀ q, PipelinePhase.sendLoop ((fileId, file) :: queue) = .sendLoop q → ∀ x f, (x, f) ∈ q →
      (x, f) = (fileId, file) ∨ (x, f) ∈ queue := by
    rintro q heq x f hmem
    obtain rfl := PipelinePhase.sendLoop.inj heq
    exact List.mem_cons.mp hmem
  have hphase : (PipelinePhase.sendLoop queue).isPreparing = true →
      (PipelinePhase.sendLoop ((fileId, file) :: queue)).isPreparing = true := fun hpreparing => by cases hpreparing
  have hfiled : (s.sendFile id fileId file (some p)).Filed :=
    h.sendFile (fun hnone => by cases hnone) fun q hq => by rw [← Option.some.inj hq, hget]; rfl
  rw [sendFile_setPhase]
  rcases sendFile_spec s id fileId file (some p) with ⟨hsame, hnot⟩ | ⟨session, -, -, -, hthen⟩
  · rw [hsame] at hfiled ⊢
    refine hfiled.setPhase hget (fun session hsession hallowed x howned => ?_) hphase
    refine howned.setPhase hget fun _ q hq f hmem htoken => ?_
    rcases hqueue q hq x f hmem with heq | hrest
    · obtain ⟨rfl, rfl⟩ := Prod.mk.inj heq
      rcases hnot with hnone | hnone
      · rw [hnone] at htoken
        cases htoken
      · exact absurd hallowed (hnone session hsession)
    · exact ⟨queue, rfl, hrest⟩
  · have hpipelines : (s.sendFile id fileId file (some p)).pipelines = s.pipelines := by rw [hthen]
    have huploads : (s.sendFile id fileId file (some p)).uploads = s.uploads ++ [⟨id, fileId, some p⟩] := by rw [hthen]
    refine hfiled.setPhase (hpipelines ▸ hget) (fun _ _ _ x howned => ?_) hphase
    by_cases hx : x = fileId
    · subst hx
      refine .inl ⟨⟨id, x, some p⟩, ?_, rfl, rfl⟩
      show _ ∈ (s.sendFile id x file (some p)).uploads
      rw [huploads]
      exact List.mem_append_right _ (List.mem_singleton_self _)
    · refine howned.setPhase (hpipelines ▸ hget) fun _ q hq f hmem _ => ?_
      rcases hqueue q hq x f hmem with heq | hrest
      · exact absurd (Prod.mk.inj heq).1 hx
      · exact ⟨queue, rfl, hrest⟩

/-- A session that is sending ends. -/
theorem Sound.ended {owned : String → Prop} {preparing : Prop} (h : Sound session owned preparing)
    (hsending : session.status = .sending) {status : SessionStatus}
    (hstatus : status ∈ [SessionStatus.finished, .finishedWithErrors, .canceledByReceiver]) :
    Sound {session with status} owned preparing := by
  refine ⟨fun hbegun _ => h.owned hbegun (hsending ▸ by decide), fun _ => List.mem_cons_of_mem _ hstatus,
    fun hunbegun => ?_, fun hpreparing => ?_⟩
  · exact absurd (hsending ▸ List.mem_cons_self) (h.unbegun hunbegun).1
  · have hwaiting := (h.preparing hpreparing).1
    rw [hsending] at hwaiting
    cases hwaiting

theorem Filed.finish (h : s.Filed) : (s.finish id).Filed := by
  rcases finish_spec s id with hsame | ⟨session, hget, hsending, ⟨-, -, hclosed⟩ | ⟨status, hended, hstatus⟩⟩
  · rwa [hsame]
  · rw [hclosed]
    exact h.closeSession id
  · rw [hended]
    refine h.updateSession fun before hbefore hsound => ?_
    obtain rfl := Option.some.inj (hget.symm.trans hbefore)
    refine hsound.ended hsending ?_
    rcases hstatus with ⟨rfl, -⟩ | rfl
    · exact List.mem_cons_self
    · exact List.mem_cons_of_mem _ List.mem_cons_self

/-- An upload ends, and the file has its status. -/
theorem Filed.uploaded (h : s.Filed) {u : Nat} {upload : FileUpload} {status : FileStatus}
    (hget : s.uploads[u]? = some upload) (hstatus : status ≠ .queue ∧ status ≠ .sending) :
    (SendNotifier.withFileStatus {s with uploads := s.uploads.eraseIdx u} upload.sessionId upload.fileId status).Filed := by
  have howned : ∀ other x, s.Owned other x → ¬ (other = upload.sessionId ∧ x = upload.fileId) →
      Owned {s with uploads := s.uploads.eraseIdx u} other x := by
    rintro other x (⟨v, hmem, hown, hfile⟩ | hqueue) hne
    · refine .inl ⟨v, ?_, hown, hfile⟩
      obtain ⟨i, hi⟩ := List.getElem?_of_mem hmem
      refine List.mem_eraseIdx_iff_getElem?.mpr ⟨i, ?_, hi⟩
      rintro rfl
      obtain rfl := Option.some.inj (hget.symm.trans hi)
      exact hne ⟨hown.symm, hfile.symm⟩
    · exact .inr hqueue
  refine h.put upload.sessionId (fun other hid => sessions_updateSession_of_ne _ hid)
    (fun other hid x hx => howned other x hx fun hsame => hid hsame.1) (fun _ _ hp => hp) (fun after hafter => ?_)
    fun v hmem => h.workers v (List.mem_of_mem_eraseIdx hmem)
  rw [SendNotifier.withFileStatus, sessions_updateSession_self] at hafter
  obtain ⟨before, hbefore, rfl⟩ := Option.map_eq_some_iff.mp hafter
  have hsound := h.sessions upload.sessionId before hbefore
  refine ⟨fun hbegun hallowed x f hmem hopen => ?_, hsound.begun, fun hunbegun => ⟨(hsound.unbegun hunbegun).1,
    fun entry hentry => ?_⟩, hsound.preparing⟩
  · rcases mem_withFileStatus hmem with ⟨-, hset, -⟩ | ⟨hx, hold⟩
    · rcases hopen with hqueued | hsending
      · exact absurd (hset.symm.trans hqueued) hstatus.1
      · exact absurd (hset.symm.trans hsending) hstatus.2
    · exact howned _ x (hsound.owned hbegun hallowed x f hold hopen) fun hsame => hx hsame.2
  · rcases mem_withFileStatus hentry with ⟨-, -, file, hmem, hsame⟩ | ⟨-, hold⟩
    · exact hsame.symm.trans ((hsound.unbegun hunbegun).2 _ hmem)
    · exact (hsound.unbegun hunbegun).2 entry hold

theorem closeSession_updateSession (s : SendNotifier) (id : Nat) (update : OpenSession → OpenSession) :
    (s.updateSession id update).closeSession id = s.closeSession id := by
  simp only [closeSession, stopWait, updateSession]
  split <;> simp

theorem closeSession_setStatus (s : SendNotifier) (id : Nat) (status : SessionStatus) :
    (s.setStatus id status).closeSession id = s.closeSession id :=
  closeSession_updateSession s id _

theorem closeSession_setPhase (s : SendNotifier) (id p : Nat) (pipeline : UploadPipeline) (phase : PipelinePhase) :
    (s.setPhase p pipeline phase).closeSession id = (s.closeSession id).setPhase p pipeline phase := by
  simp only [closeSession, stopWait, setPhase]
  split <;> rfl

/-- The files with a token are to be sent. -/
theorem token_of_sendingFiles {files : List (String × SendingFile)} {fileMap : List (String × Token)} {fileId : String}
    {file : SendingFile} (hmem : (fileId, file) ∈ sendingFiles files fileMap)
    (hopen : file.status = .queue ∨ file.status = .sending) : file.token.isSome := by
  obtain ⟨⟨other, before⟩, -, heq⟩ := List.mem_map.mp hmem
  obtain ⟨rfl, rfl⟩ := Prod.mk.inj heq
  cases hlookup : fileMap.lookup other with
  | some token => rfl
  | none =>
    simp only [hlookup] at hopen
    rcases hopen with h | h <;> cases h

/-- The pipeline of a session that is preparing comes to its end, or to the loop. -/
theorem Filed.onPrepared (h : s.Filed) (hkept : s.Kept) {p : Nat} {pipeline : UploadPipeline} {answer : PrepareAnswer}
    {now : Nat} (hget : s.pipelines[p]? = some pipeline) (hphase : pipeline.phase.isPreparing = true) :
    (s.onPrepared p pipeline answer now).Filed := by
  have hnoqueue : ∀ queue, pipeline.phase = .sendLoop queue → queue = [] := by
    intro queue hloop
    rw [hloop] at hphase
    cases hphase
  have hunbegun : ∀ session, s.sessions pipeline.sessionId = some session → session.startTime = none := fun session hsession =>
    ((h.sessions _ session hsession).preparing ⟨pipeline, List.mem_of_getElem? hget, rfl, hphase⟩).2
  have hended : ∀ {status : SessionStatus}, status ∉ [SessionStatus.sending, .canceledByReceiver] →
      ((s.setStatus pipeline.sessionId status).setPhase p pipeline .ended).Filed := by
    intro status hstatus
    have hset : ((s.setPhase p pipeline .ended).setStatus pipeline.sessionId status).Filed :=
      (h.setPhase_of_empty hget hnoqueue fun h => by cases h).setStatus hunbegun hstatus fun hpreparing =>
        absurd hpreparing (hkept.not_preparing hget rfl)
    exact hset
  have hphaseOf : ∀ phase : PipelinePhase, (s.setPhase p pipeline phase).Filed := fun phase =>
    h.setPhase_of_empty hget hnoqueue fun _ => hphase
  have hclosed : ((s.closeSession pipeline.sessionId).setPhase p pipeline .ended).Filed := by
    rw [← closeSession_setPhase]
    exact (hphaseOf .ended).closeSession _
  unfold SendNotifier.onPrepared
  simp only
  split
  · next remoteSessionId fileMap =>
    split_ifs
    · rwa [closeSession_setStatus, closeSession_updateSession]
    · let files := sendingFiles pipeline.files fileMap
      have hremote : ((s.setPhase p pipeline (.sendLoop files)).updateSession pipeline.sessionId fun session =>
          {session with remoteSessionId := some remoteSessionId}).Filed :=
        (hphaseOf _).updateSession fun session _ hsound =>
          ⟨hsound.owned, hsound.begun, hsound.unbegun, hsound.preparing⟩
      have hbegun : (((s.setPhase p pipeline (.sendLoop files)).updateSession pipeline.sessionId fun session =>
          {session with remoteSessionId := some remoteSessionId}).updateSession pipeline.sessionId fun session =>
            {session with status := .sending, files, startTime := some now}).Filed := by
        refine hremote.updateSession fun session _ _ => ⟨fun _ _ fileId file hmem hopen => ?_, fun _ => List.mem_cons_self,
          fun hnone => (Option.some_ne_none _ hnone).elim, fun hpreparing => ?_⟩
        · exact .inr ⟨_, mem_setPhase_self hget, rfl, files, rfl, file, hmem, token_of_sendingFiles hmem hopen⟩
        · exact absurd hpreparing (hkept.not_preparing hget rfl)
      exact hbegun
  · rwa [closeSession_setStatus]
  all_goals first | exact hended (by decide) | exact hphaseOf _

theorem Filed.step {e : NotifierEvent} (h : s.Filed) (hkept : s.Kept) (hst : s.step e = some t) : t.Filed := by
  cases moves_of_step hst with
  | stays => exact h
  | starts => exact h.startSession hkept
  | updates => exact h.onMergedDevicesUpdate
  | @timesOut w id subscription session hwait hget hstatus =>
    have hsame : Filed {s with waits := s.waits.set w ⟨id, subscription, false⟩} := h.of_sessions rfl rfl h.sessions
    obtain ⟨hunbegun, hnone⟩ := h.of_waiting hget (hstatus ▸ by decide)
    refine (hsame.stopWait id).setStatus (fun before hbefore => ?_) (by decide) fun hpreparing => absurd ?_ hnone
    · rw [sessions_stopWait] at hbefore
      exact Option.some.inj (hget.symm.trans hbefore) ▸ hunbegun
    · simpa [Preparing] using hpreparing
  | timesOutLate => exact h.of_sessions rfl rfl h.sessions
  | waitsAgain hget hwaiting =>
    obtain ⟨hunbegun, hnone⟩ := h.of_waiting hget hwaiting
    refine (h.setStatus (fun before hbefore => ?_) (by decide) fun hpreparing => absurd hpreparing hnone).startWaitForOnline
    exact Option.some.inj (hget.symm.trans hbefore) ▸ hunbegun
  | stopsWait => exact h.stopWait _
  | closes => exact h.closeSession _
  | canceledByReceiver hget hsending =>
    refine h.updateSession fun before hbefore hsound => ?_
    obtain rfl := Option.some.inj (hget.symm.trans hbefore)
    exact hsound.ended hsending (by decide)
  | clears => exact h.of_sessions rfl rfl fun _ _ hget => (Option.some_ne_none _ hget.symm).elim
  | setsBackground =>
    exact h.updateSession fun session _ hsound => ⟨hsound.owned, hsound.begun, hsound.unbegun, hsound.preparing⟩
  | prepared hget => exact h.onPrepared hkept hget rfl
  | pinEntered hget => exact h.setPhase_of_empty hget (fun _ hloop => by cases hloop) fun _ => rfl
  | @pinRefused p id files hget =>
    have hended := h.setPhase_of_empty hget (fun _ hloop => by cases hloop) fun hpreparing : PipelinePhase.isPreparing .ended = true =>
      by cases hpreparing
    refine hended.setStatus (fun session hsession => ?_) (by decide) fun hpreparing => ?_
    · exact ((h.sessions id session hsession).preparing ⟨_, List.mem_of_getElem? hget, rfl, rfl⟩).2
    · exact absurd hpreparing (hkept.not_preparing hget rfl)
  | takesFile hget => exact h.takeFile hget
  | @uploadEnds u upload success hget =>
    have hfinal : ∀ status, (if success then FileStatus.finished else .failed) = status →
        status ≠ .queue ∧ status ≠ .sending := by
      rintro status rfl
      cases success <;> decide
    simp only [fileSent]
    generalize hstatus : (if success then FileStatus.finished else .failed) = status
    have huploaded := h.uploaded hget (hfinal status hstatus)
    split
    · split_ifs
      · exact huploaded.finish
      · exact huploaded
    · exact huploaded
  | loopEnds hget =>
    exact (h.setPhase_of_empty hget (fun _ hloop => (PipelinePhase.sendLoop.inj hloop).symm) fun h => by cases h).finish
  | retriesFile hget hfile =>
    refine h.sendFile (fun _ other hother => ?_) fun _ hp => by cases hp
    obtain rfl := Option.some.inj (hget.symm.trans hother)
    obtain ⟨before, after, hfiles, -⟩ := List.lookup_eq_some_iff.mp hfile
    simp [hfiles]

/-! ### What a step makes of a session -/

variable {e : NotifierEvent} {a b : OpenSession}

/-- The status is the same. -/
theorem Truthful.of_status (h : b.status = a.status) : s.Truthful e id a (some b) where
  ended _ hc _ hchanged _ := absurd (Option.some.inj hc ▸ h) hchanged
  removed hnone := (Option.some_ne_none _ hnone).elim
  canceled _ hc _ := Option.some.inj hc ▸ h

/-- The session was not canceled, and has not begun, goes on sending, or is canceled now. -/
theorem Truthful.of_change (ha : a.status ≠ .canceledBySender ∧ a.status ≠ .canceledByReceiver)
    (hb : b.startTime = none ∨ b.status = .sending ∨ b.status = .canceledByReceiver) : s.Truthful e id a (some b) := by
  refine ⟨fun c hc hbegun _ hended => ?_, fun hnone => (Option.some_ne_none _ hnone).elim, fun c hc hcanceled => ?_⟩
  · obtain rfl := Option.some.inj hc
    rcases hb with hnone | hsending | hcanceled
    · rw [hnone] at hbegun
      cases hbegun
    · rw [hsending] at hended
      rcases hended with hended | hended <;> cases hended
    · rw [hcanceled] at hended
      rcases hended with hended | hended <;> cases hended
  · rcases hcanceled with hc | hc
    · exact absurd hc ha.1
    · exact absurd hc ha.2

/-- The session is closed, or had not begun. -/
theorem Truthful.of_removed (h : e.closes id = true ∨ a.startTime = none) : s.Truthful e id a none := by
  refine ⟨fun b hb => (Option.some_ne_none _ hb.symm).elim, fun _ hbegun hopen => ?_,
    fun b hb => (Option.some_ne_none _ hb.symm).elim⟩
  rcases h with hclosed | hunbegun
  · rw [hclosed] at hopen
    cases hopen
  · rw [hunbegun] at hbegun
    cases hbegun

/-- Only one session changes. -/
theorem truthfully_of_one (id : Nat) (hothers : ∀ other, other ≠ id → t.sessions other = s.sessions other)
    (hown : ∀ a, s.sessions id = some a → s.Truthful e id a (t.sessions id)) : s.CompletesTruthfully e t := by
  intro other a ha
  by_cases hid : other = id
  · subst hid
    exact hown a ha
  · rw [hothers other hid, ha]
    exact .of_status rfl

theorem truthfully_of_eq (h : t.sessions = s.sessions) : s.CompletesTruthfully e t := by
  intro id a ha
  rw [h, ha]
  exact .of_status rfl

/-- An update of one session. -/
theorem truthfully_of_update {id : Nat} {session : Option OpenSession}
    (h : t.sessions = Function.update s.sessions id session)
    (hown : ∀ a, s.sessions id = some a → s.Truthful e id a session) : s.CompletesTruthfully e t := by
  refine truthfully_of_one id (fun other hid => ?_) fun a ha => ?_
  · rw [h, Function.update_of_ne hid]
  · rw [h, Function.update_self]
    exact hown a ha

/-- `_finish` ends a session whose files are through. -/
theorem truthfully_finish {u : SendNotifier} (id : Nat) (hothers : ∀ other, other ≠ id → u.sessions other = s.sessions other)
    (hown : ∀ a, s.sessions id = some a → ∃ b, u.sessions id = some b ∧ b.status = a.status ∧
      b.background = a.background ∧ b.files = s.filesAfter e id a)
    (hthrough : ∀ b, u.sessions id = some b → b.status = .sending → isFinishedOrError b.files = true) :
    s.CompletesTruthfully e (u.finish id) := by
  refine truthfully_of_one id (fun other hid => ?_) fun a ha => ?_
  · rcases finish_spec u id with hsame | ⟨-, -, -, ⟨-, -, hclosed⟩ | ⟨status, hset, -⟩⟩
    · rw [hsame, hothers other hid]
    · rw [hclosed, sessions_closeSession_of_ne hid, hothers other hid]
    · rw [hset, SendNotifier.setStatus, sessions_updateSession_of_ne _ hid, hothers other hid]
  · obtain ⟨b, hb, hstatus, hbackground, hfiles⟩ := hown a ha
    rcases finish_spec u id with hsame | ⟨other, hother, hsending, hended⟩
    · rw [hsame, hb]
      exact .of_status hstatus
    obtain rfl := Option.some.inj (hb.symm.trans hother)
    have hall := hthrough b hb hsending
    rcases hended with ⟨hback, hnone, hclosed⟩ | ⟨status, hset, hkind⟩
    · rw [hclosed, sessions_closeSession_self]
      refine ⟨fun c hc => (Option.some_ne_none _ hc.symm).elim, fun _ _ _ => ?_,
        fun c hc => (Option.some_ne_none _ hc.symm).elim⟩
      exact ⟨hbackground.symm.trans hback, hfiles ▸ hall, hfiles ▸ hnone⟩
    · rw [hset, SendNotifier.setStatus, sessions_updateSession_self, hb]
      refine ⟨fun c hc _ _ _ => ?_, fun hnone => (Option.some_ne_none _ hnone).elim, fun c hc hcanceled => ?_⟩
      · obtain rfl := Option.some.inj hc
        refine ⟨hall, fun hfinished => ?_⟩
        rcases hkind with ⟨-, hnone⟩ | rfl
        · exact hnone
        · cases hfinished
      · rw [← hstatus, hsending] at hcanceled
        rcases hcanceled with hc | hc <;> cases hc

/-! ### One step -/

theorem sessions_onMergedDevicesUpdate (s : SendNotifier) (id : Nat) (merged : List MergedDevice) :
    (s.onMergedDevicesUpdate id merged).sessions = s.sessions ∨ ∃ session hasHttpEndpoint, s.sessions id = some session ∧
      session.status = .waitingForDevice ∧ (s.onMergedDevicesUpdate id merged).sessions =
        Function.update s.sessions id (some {session with status := .waiting, hasHttpEndpoint}) := by
  have hrun : ∀ s : SendNotifier, (s.runUploadPipeline id).sessions = s.sessions := by
    intro s
    unfold runUploadPipeline
    split <;> rfl
  unfold onMergedDevicesUpdate
  split
  · exact .inl (sessions_stopWait s id)
  · next session hget =>
    split_ifs with hstatus
    · split
      · exact .inl rfl
      · split
        · exact .inl rfl
        · next device _ =>
          refine .inr ⟨session, device.hasHttpEndpoint, hget, hstatus, ?_⟩
          rw [hrun, updateSession, sessions_stopWait, hget]
          rfl
    · exact .inl rfl

theorem sessions_startWaitForOnline (s : SendNotifier) (id : Nat) (merged : List MergedDevice) :
    (s.startWaitForOnline id merged).sessions = s.sessions ∨ ∃ session hasHttpEndpoint, s.sessions id = some session ∧
      session.status = .waitingForDevice ∧ (s.startWaitForOnline id merged).sessions =
        Function.update s.sessions id (some {session with status := .waiting, hasHttpEndpoint}) := by
  simp only [startWaitForOnline]
  split
  · exact .inl (sessions_stopWait s id)
  · rw [← sessions_stopWait s id]
    exact sessions_onMergedDevicesUpdate _ id merged

theorem sessions_startSession_of_ne {hasHttpEndpoint : Bool} {files : List String} {background : Bool}
    {stableTargetId : Option String} {merged : List MergedDevice} {other : Nat} (h : other ≠ s.created) :
    (s.startSession hasHttpEndpoint files background stableTargetId merged).sessions other = s.sessions other := by
  unfold startSession
  simp only
  split_ifs
  · unfold runUploadPipeline
    split <;> simp [Function.update_of_ne h]
  · rw [setStatus, sessions_updateSession_of_ne _ h]
    exact Function.update_of_ne h _ _
  · rcases sessions_startWaitForOnline _ s.created merged with hsame | ⟨session, endpoint, _, _, hset⟩
    · rw [hsame]
      exact Function.update_of_ne h _ _
    · rw [hset, Function.update_of_ne h]
      exact Function.update_of_ne h _ _

/-- The pipeline of a session that has not begun, and is not canceled, is answered. -/
theorem truthfully_prepared (h : s.Filed) {p : Nat} {pipeline : UploadPipeline} {answer : PrepareAnswer} {now : Nat}
    (hget : s.pipelines[p]? = some pipeline) (hphase : pipeline.phase.isPreparing = true) :
    s.CompletesTruthfully e (s.onPrepared p pipeline answer now) := by
  have hbefore : ∀ a, s.sessions pipeline.sessionId = some a → a.status = .waiting ∧ a.startTime = none := fun a ha =>
    (h.sessions _ a ha).preparing ⟨pipeline, List.mem_of_getElem? hget, rfl, hphase⟩
  have hnot : ∀ a, s.sessions pipeline.sessionId = some a → a.status ≠ .canceledBySender ∧ a.status ≠ .canceledByReceiver := by
    intro a ha
    rw [(hbefore a ha).1]
    decide
  have hremoved : ∀ {t : SendNotifier}, t.sessions = (s.closeSession pipeline.sessionId).sessions →
      s.CompletesTruthfully e t := fun hsessions =>
    truthfully_of_update hsessions fun a ha => .of_removed (.inr (hbefore a ha).2)
  have hset : ∀ {t : SendNotifier} {status : SessionStatus},
      t.sessions = (s.setStatus pipeline.sessionId status).sessions → s.CompletesTruthfully e t := by
    intro t status hsessions
    refine truthfully_of_update hsessions fun a ha => ?_
    rw [ha]
    exact .of_change (hnot a ha) (.inl (hbefore a ha).2)
  unfold onPrepared
  simp only
  split
  · next remoteSessionId fileMap =>
    split_ifs
    · refine hremoved ?_
      rw [closeSession_setStatus, closeSession_updateSession]
      rfl
    · refine truthfully_of_one pipeline.sessionId (fun other hid => ?_) fun a ha => ?_
      · show SendNotifier.sessions (SendNotifier.updateSession _ _ _) other = _
        rw [sessions_updateSession_of_ne _ hid, sessions_updateSession_of_ne _ hid]
      · show s.Truthful e _ a (SendNotifier.sessions (SendNotifier.updateSession _ _ _) _)
        rw [sessions_updateSession_self, sessions_updateSession_self, ha]
        exact .of_change (hnot a ha) (.inr (.inl rfl))
  · refine hremoved ?_
    rw [closeSession_setStatus]
    rfl
  all_goals first | exact hset rfl | exact truthfully_of_eq rfl

/-- A file of the loop is taken, or one is tried again. -/
theorem truthfully_sendFile {fileId : String} {file : SendingFile} {pipeline : Option Nat} :
    s.CompletesTruthfully e (s.sendFile id fileId file pipeline) := by
  rcases sendFile_spec s id fileId file pipeline with ⟨hsame, -⟩ | ⟨session, -, hget, hallowed, hthen⟩
  · rw [hsame]
    exact truthfully_of_eq rfl
  · rw [hthen]
    refine truthfully_of_update rfl fun a ha => ?_
    obtain rfl := Option.some.inj (hget.symm.trans ha)
    cases pipeline with
    | some p => exact .of_status rfl
    | none =>
      refine .of_change ?_ (.inr (.inl rfl))
      simp only [allowedStates, List.mem_cons, List.not_mem_nil, or_false] at hallowed
      rcases hallowed with hs | hs <;> simp [hs]

theorem isFinishedOrError_iff {files : List (String × SendingFile)} :
    isFinishedOrError files = true ↔ ∀ entry ∈ files, ¬ (entry.2.status = .queue ∨ entry.2.status = .sending) := by
  simp only [isFinishedOrError, List.all_eq_true, decide_eq_true_eq]
  refine forall₂_congr fun entry _ => ?_
  cases entry.2.status <;> simp

/-- When the loop ends and no retry is uploading, the files are through. -/
theorem Filed.through (h : s.Filed) (hkept : s.Kept) {p : Nat} {files : List (String × SendingFile)} {session : OpenSession}
    (hget : s.pipelines[p]? = some ⟨id, files, .sendLoop []⟩) (hworkers : ¬ ∃ upload ∈ s.uploads, upload.pipeline = some p)
    (hretries : s.retriesEnded (.loopEnds p) = true) (hsession : s.sessions id = some session)
    (hsending : session.status = .sending) : isFinishedOrError session.files = true := by
  have hsound := h.sessions id session hsession
  have hbegun : session.startTime.isSome := by
    rw [Option.isSome_iff_ne_none]
    exact fun hnone => (hsound.unbegun hnone).1 (hsending ▸ List.mem_cons_self)
  have hall : ∀ upload ∈ s.uploads, upload.sessionId = id → upload.pipeline.isSome := by
    intro upload hmem hown
    simp only [retriesEnded, hget, hsession, Option.any_some, hsending, decide_true, Bool.not_true, Bool.false_or,
      List.all_eq_true, Bool.or_eq_true, decide_eq_true_eq] at hretries
    rcases hretries upload hmem with hne | hsome
    · exact absurd hown hne
    · exact hsome
  refine isFinishedOrError_iff.mpr fun entry hentry hopen => ?_
  rcases hsound.owned hbegun (hsending ▸ List.mem_cons_self) entry.1 entry.2 hentry hopen with
    ⟨upload, hmem, hown, -⟩ | ⟨owner, hmem, hown, queue, hloop, file, hfile, -⟩
  · obtain ⟨q, hq⟩ := Option.isSome_iff_exists.mp (hall upload hmem hown)
    obtain ⟨owner, howner, hsame⟩ := Option.map_eq_some_iff.mp (h.workers upload hmem q hq)
    have hqp : q = p := hkept.same_pipeline howner hget (hsame.trans hown)
    exact hworkers ⟨upload, hmem, hqp ▸ hq⟩
  · obtain ⟨i, hi⟩ := List.getElem?_of_mem hmem
    have hip : i = p := hkept.same_pipeline hi hget hown
    subst hip
    obtain rfl := Option.some.inj (hget.symm.trans hi)
    obtain rfl := PipelinePhase.sendLoop.inj hloop
    cases hfile

theorem truthfully_step (h : s.Filed) (hkept : s.Kept) (hretries : s.retriesEnded e = true) (hst : s.step e = some t) :
    s.CompletesTruthfully e t := by
  -- a session that waits for its device has not begun, and is not canceled
  have hwaits : ∀ {id : Nat} {session after : OpenSession}, s.sessions id = some session →
      session.status ∈ waitingStatuses → after.startTime = session.startTime →
        ∀ a, s.sessions id = some a → s.Truthful e id a (some after) := by
    intro id session after hget hstatus hsame a ha
    obtain rfl := Option.some.inj (hget.symm.trans ha)
    refine .of_change ?_ (.inl (hsame.trans (h.of_waiting hget hstatus).1))
    simp only [waitingStatuses, List.mem_cons, List.not_mem_nil, or_false] at hstatus
    rcases hstatus with hs | hs <;> simp [hs]
  cases moves_of_step hst with
  | stays => exact truthfully_of_eq rfl
  | starts =>
    refine truthfully_of_one s.created (fun other hid => sessions_startSession_of_ne hid) fun a ha => ?_
    cases (hkept.created s.created (Nat.le_refl _)).symm.trans ha
  | updates w id merged =>
    rcases sessions_onMergedDevicesUpdate s id merged with hsame | ⟨session, endpoint, hget, hstatus, hset⟩
    · exact truthfully_of_eq hsame
    · exact truthfully_of_update hset (hwaits hget (hstatus ▸ by decide) rfl)
  | @timesOut w id subscription session hwait hget hstatus =>
    have hthen : ((SendNotifier.stopWait {s with waits := s.waits.set w ⟨id, subscription, false⟩} id).setStatus id
          .waitingForDeviceTimedOut).sessions =
            Function.update s.sessions id (some {session with status := .waitingForDeviceTimedOut}) := by
      rw [SendNotifier.setStatus, SendNotifier.updateSession, sessions_stopWait, hget]
      rfl
    exact truthfully_of_update hthen (hwaits hget (hstatus ▸ by decide) rfl)
  | timesOutLate => exact truthfully_of_eq rfl
  | @waitsAgain id merged session hget hwaiting =>
    have hthen : (s.setStatus id .waitingForDevice).sessions =
        Function.update s.sessions id (some {session with status := .waitingForDevice}) := by
      rw [SendNotifier.setStatus, SendNotifier.updateSession, hget]
      rfl
    rcases sessions_startWaitForOnline (s.setStatus id .waitingForDevice) id merged with
      hsame | ⟨after, endpoint, hafter, -, hset⟩
    · exact truthfully_of_update (hsame.trans hthen) (hwaits hget hwaiting rfl)
    · rw [hthen, Function.update_idem] at hset
      rw [hthen, Function.update_self] at hafter
      obtain rfl := Option.some.inj hafter
      exact truthfully_of_update hset (hwaits hget hwaiting rfl)
  | @stopsWait id => exact truthfully_of_eq (sessions_stopWait s id)
  | closes he =>
    refine truthfully_of_update rfl fun _ _ => .of_removed (.inl ?_)
    rcases he with rfl | rfl | rfl <;> simp [NotifierEvent.closes]
  | canceledByReceiver hget hsending =>
    refine truthfully_of_update rfl fun a ha => ?_
    obtain rfl := Option.some.inj (hget.symm.trans ha)
    rw [hget]
    exact .of_change (by simp [hsending]) (.inr (.inr rfl))
  | clears => exact fun _ _ _ => .of_removed (.inl rfl)
  | setsBackground =>
    refine truthfully_of_update rfl fun a ha => ?_
    rw [ha]
    exact .of_status rfl
  | prepared hget => exact truthfully_prepared h hget rfl
  | pinEntered => exact truthfully_of_eq rfl
  | @pinRefused p id files hget =>
    refine truthfully_of_update rfl fun a ha => ?_
    obtain ⟨hwaiting, hunbegun⟩ := (h.sessions id a ha).preparing ⟨_, List.mem_of_getElem? hget, rfl, rfl⟩
    rw [ha]
    exact .of_change (by simp [hwaiting]) (.inl hunbegun)
  | takesFile =>
    rw [sendFile_setPhase]
    exact truthfully_sendFile
  | @uploadEnds u upload success hget =>
    have hafter : ∀ a : OpenSession, s.filesAfter (.uploadEnded u success) upload.sessionId a =
        (a.withFileStatus upload.fileId (if success then .finished else .failed)).files := by
      intro a
      simp [filesAfter, hget]
    simp only [fileSent]
    generalize (if success then FileStatus.finished else .failed) = status at hafter ⊢
    have hstatus : s.CompletesTruthfully (.uploadEnded u success)
        (SendNotifier.withFileStatus {s with uploads := s.uploads.eraseIdx u} upload.sessionId upload.fileId status) := by
      refine truthfully_of_update rfl fun a ha => ?_
      rw [ha]
      exact .of_status rfl
    split
    · next session hsession =>
      split_ifs with hends
      · refine truthfully_finish upload.sessionId (fun other hid => sessions_updateSession_of_ne _ hid) (fun a ha => ?_)
          fun b hb _ => ?_
        · refine ⟨{a with toSendSessionState := a.withFileStatus upload.fileId status}, ?_, rfl, rfl, (hafter a).symm⟩
          rw [SendNotifier.withFileStatus, sessions_updateSession_self, ha]
          rfl
        · exact Option.some.inj (hsession.symm.trans hb) ▸ hends.2
      · exact hstatus
    · exact hstatus
  | @loopEnds p id files hget hworkers =>
    refine truthfully_finish id (fun _ _ => rfl) (fun a ha => ⟨a, ha, rfl, rfl, rfl⟩) fun b hb hsending => ?_
    exact h.through hkept hget hworkers hretries hb hsending
  | retriesFile => exact truthfully_sendFile

end SendNotifier

theorem filed_init : SendNotifier.Filed sendNotifier.init :=
  ⟨fun _ _ hget => (Option.some_ne_none _ hget.symm).elim, fun _ hmem => absurd hmem List.not_mem_nil⟩

/-- **A session that ends is through.** In every run in which no retry is uploading when
the loop of a sending session ends, a session ends, or is removed, with all its files
through, and a canceled one stays canceled. -/
theorem completion_is_truthful {events : List NotifierEvent}
    (hretries : sendNotifier.Meets (fun s e => s.retriesEnded e = true) sendNotifier.init events) :
    sendNotifier.Steps SendNotifier.CompletesTruthfully sendNotifier.init events := by
  have hstep : ∀ s e t, SendNotifier.Filed s ∧ SendNotifier.Kept s → s.retriesEnded e = true → s.step e = some t →
      (t.Filed ∧ t.Kept) ∧ s.CompletesTruthfully e t := by
    intro s e t ⟨h, hkept⟩ hc hst
    exact ⟨⟨h.step hkept hst, hkept.step hst⟩, SendNotifier.truthfully_step h hkept hc hst⟩
  exact Transition.System.steps_of_meets hstep ⟨filed_init, SendNotifier.kept_init⟩ hretries

namespace Retried

/-- Two files are taken, the first fails, and it is tried again. -/
def events : List NotifierEvent :=
  [.startSession true ["a", "b"] false none [], .prepared 0 (.accepted 7 [("a", (0, "a")), ("b", (0, "b"))]) 1,
    .takeFile 0, .takeFile 0, .uploadEnded 0 false, .retryFile 0 "a"]

end Retried

/-- The retry ends before the loop. -/
theorem completion_is_truthful_after_retry :
    sendNotifier.Steps SendNotifier.CompletesTruthfully sendNotifier.init
      (Retried.events ++ [.uploadEnded 1 true, .uploadEnded 0 true, .loopEnds 0]) :=
  completion_is_truthful (by decide +kernel)

/-- The loop ends before the retry: the session is finished with a file that is being
sent. -/
theorem finished_while_retrying :
    ∃ s t, sendNotifier.run sendNotifier.init (Retried.events ++ [.uploadEnded 0 true]) = some s ∧
      sendNotifier.step s (.loopEnds 0) = some t ∧
      (t.sessions 0).map (fun session => (session.status, session.files.map fun entry => (entry.1, entry.2.status))) =
        some (.finished, [("a", .sending), ("b", .finished)]) ∧
      ¬ s.CompletesTruthfully (.loopEnds 0) t := by
  have hreached : ∃ s t a b, sendNotifier.run sendNotifier.init (Retried.events ++ [.uploadEnded 0 true]) = some s ∧
      sendNotifier.step s (.loopEnds 0) = some t ∧ s.sessions 0 = some a ∧ t.sessions 0 = some b ∧
      a.status = .sending ∧ b.startTime = some 1 ∧ b.status = .finished ∧
      b.files.map (fun entry => (entry.1, entry.2.status)) = [("a", .sending), ("b", .finished)] ∧
      SendNotifier.isFinishedOrError b.files = false :=
    ⟨_, _, _, _, rfl, rfl, rfl, rfl, by decide +kernel, by decide +kernel, by decide +kernel, by decide +kernel, by decide +kernel⟩
  obtain ⟨s, t, a, b, hrun, hst, ha, hb, hsending, hbegun, hfinished, hfiles, hopen⟩ := hreached
  refine ⟨s, t, hrun, hst, by rw [hb, Option.map_some, hfinished, hfiles], fun htruthful => ?_⟩
  have hended := (htruthful 0 a ha).ended b hb (by rw [hbegun]; rfl) (by rw [hfinished, hsending]; decide) (.inl hfinished)
  rw [hopen] at hended
  exact Bool.false_ne_true hended.1

end MagicShare.Send
