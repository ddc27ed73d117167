import Mathlib.Logic.Function.Basic
import MagicShare.Base.Records
import MagicShare.Base.Transition
import MagicShare.Send.Session

/-! All the send sessions of a device (`send_provider.dart`).

The notifier holds the sessions by their ids, and the waits for devices that are not
online. An upload pipeline runs on its own, and what it writes after an await it writes to
the session that has the id by then, if one has. At the end of every turn the waits are
those of the sessions that wait for their device, no session has been given to the
pipeline twice, and a session that was closed does not come back (`waits_bookkept`). -/
namespace MagicShare.Send
open Receive

/-! ### State -/

/-- A device of the merged list: its id in the cloud, and what is known of it in the LAN. -/
structure MergedDevice where
  deviceId : Option String := none
  hasHttpEndpoint : Bool
  deriving DecidableEq

/-- A session as the notifier holds it. -/
structure OpenSession extends SendSessionState where
  /-- The target has an endpoint. -/
  hasHttpEndpoint : Bool
  stableTargetId : Option String := none
  /-- The files have begun to be sent. -/
  startTime : Option Nat := none
  deriving DecidableEq

/-- The await a `_runUploadPipeline` is suspended at. -/
inductive PipelinePhase where
  | preparing (pin : Option String)
  | askingPin
  /-- The loop: `queue` are the files no isolate has taken yet. -/
  | sendLoop (queue : List (String × SendingFile))
  | ended
  deriving DecidableEq

structure UploadPipeline where
  sessionId : Nat
  /-- The files of the session when the pipeline began. -/
  files : List (String × SendingFile)
  phase : PipelinePhase
  deriving DecidableEq

/-- A file that is being uploaded, by the loop of a pipeline or as a retry. -/
structure FileUpload where
  sessionId : Nat
  fileId : String
  pipeline : Option Nat
  deriving DecidableEq

/-- The subscription and the timer of a wait, and whether they are still active. -/
structure Wait where
  sessionId : Nat
  subscription : Bool := true
  timeoutTimer : Bool := true
  deriving DecidableEq

def Wait.stopped (wait : Wait) : Wait := {wait with subscription := false, timeoutTimer := false}

structure SendNotifier where
  sessions : Nat → Option OpenSession := fun _ => none
  /-- `_pendingWaits`: the wait of a session. -/
  pendingWaits : Nat → Option Nat := fun _ => none
  /-- The waits that there have been. -/
  waits : List Wait := []
  /-- The session ids that have been given out. -/
  created : Nat := 0
  pipelines : List UploadPipeline := []
  uploads : List FileUpload := []

/-- How `prepareUpload` ends. -/
inductive PrepareAnswer where
  | accepted (remoteSessionId : Nat) (files : List (String × Token))
  /-- 204 -/
  | nothingSelected
  | statusCode (code : Nat)
  /-- Any other error. -/
  | failed
  /-- There is no request, because this device has no endpoint. -/
  | noOrigin

namespace SendNotifier

/-! ### Operations -/

/-- `updateSession`: there is no change where there is no session. -/
def updateSession (s : SendNotifier) (id : Nat) (update : OpenSession → OpenSession) : SendNotifier :=
  {s with sessions := Function.update s.sessions id ((s.sessions id).map update)}

def setStatus (s : SendNotifier) (id : Nat) (status : SessionStatus) : SendNotifier :=
  s.updateSession id fun session => {session with status}

def withFileStatus (s : SendNotifier) (id : Nat) (fileId : String) (status : FileStatus) : SendNotifier :=
  s.updateSession id fun session => {session with toSendSessionState := session.withFileStatus fileId status}

/-- `_stopWait`. -/
def stopWait (s : SendNotifier) (id : Nat) : SendNotifier :=
  match s.pendingWaits id with
  | none => s
  | some w => {s with
      pendingWaits := Function.update s.pendingWaits id none
      waits := s.waits.modify w Wait.stopped}

def closeSession (s : SendNotifier) (id : Nat) : SendNotifier :=
  {s.stopWait id with sessions := Function.update s.sessions id none}

/-- `_runUploadPipeline`, up to the request. -/
def runUploadPipeline (s : SendNotifier) (id : Nat) : SendNotifier :=
  match s.sessions id with
  | none => {s with pipelines := s.pipelines ++ [⟨id, [], .ended⟩]}
  | some session =>
    {s with pipelines := s.pipelines ++
      [⟨id, session.files, if session.hasHttpEndpoint then .preparing none else .ended⟩]}

/-- `_onMergedDevicesUpdate`. -/
def onMergedDevicesUpdate (s : SendNotifier) (id : Nat) (merged : List MergedDevice) : SendNotifier :=
  match s.sessions id with
  | none => s.stopWait id
  | some session =>
    if session.status = .waitingForDevice then
      match session.stableTargetId with
      | none => s
      | some stableId =>
        match merged.find? fun device => device.deviceId = some stableId && device.hasHttpEndpoint with
        | none => s
        | some device =>
          ((s.stopWait id).updateSession id fun session =>
            {session with status := .waiting, hasHttpEndpoint := device.hasHttpEndpoint}).runUploadPipeline id
    else s

/-- `_startWaitForOnline`; `merged` are the devices at that moment. -/
def startWaitForOnline (s : SendNotifier) (id : Nat) (merged : List MergedDevice) : SendNotifier :=
  let s := s.stopWait id
  match (s.sessions id).bind OpenSession.stableTargetId with
  | none => s
  | some _ =>
    let s := {s with
      pendingWaits := Function.update s.pendingWaits id (some s.waits.length)
      waits := s.waits ++ [({sessionId := id} : Wait)]}
    s.onMergedDevicesUpdate id merged

/-- `startSession`, from the materialized files on. -/
def startSession (s : SendNotifier) (hasHttpEndpoint : Bool) (files : List String) (background : Bool)
    (stableTargetId : Option String) (merged : List MergedDevice) : SendNotifier :=
  let id := s.created
  let session : OpenSession :=
    {background, hasHttpEndpoint, stableTargetId
     status := if hasHttpEndpoint then .waiting else .waitingForDevice
     files := files.map fun fileId => (fileId, {})}
  let s := {s with created := id + 1, sessions := Function.update s.sessions id (some session)}
  if hasHttpEndpoint then s.runUploadPipeline id
  else if stableTargetId = none ∨ stableTargetId = some "" then s.setStatus id .finishedWithErrors
  else s.startWaitForOnline id merged

/-- `_onWaitTimeout`. -/
def onWaitTimeout (s : SendNotifier) (id : Nat) : SendNotifier :=
  match s.sessions id with
  | none => s
  | some session =>
    if session.status = .waitingForDevice then (s.stopWait id).setStatus id .waitingForDeviceTimedOut else s

def retryWaitingSession (s : SendNotifier) (id : Nat) (merged : List MergedDevice) : SendNotifier :=
  match s.sessions id with
  | none => s
  | some session =>
    if session.status = .waitingForDeviceTimedOut ∨ session.status = .waitingForDevice then
      (s.setStatus id .waitingForDevice).startWaitForOnline id merged
    else s

/-- `cancelSession`: whom it tells is left out. -/
def cancelSession (s : SendNotifier) (id : Nat) : SendNotifier :=
  match s.sessions id with
  | none => s
  | some _ => s.closeSession id

def cancelWaitingSession (s : SendNotifier) (id : Nat) : SendNotifier := (s.stopWait id).cancelSession id

def cancelSessionByReceiver (s : SendNotifier) (id : Nat) : SendNotifier := s.setStatus id .canceledByReceiver

/-- `_cancelHandler` with the session it has found. -/
def cancelHandler (s : SendNotifier) (id : Nat) : SendNotifier :=
  match s.sessions id with
  | none => s
  | some session => if session.status = .sending then s.cancelSessionByReceiver id else s

/-- Every wait is stopped, and no session is left. -/
def clearAllSessions (s : SendNotifier) : SendNotifier :=
  {s with
    sessions := fun _ => none
    pendingWaits := fun _ => none
    waits := s.waits.mapIdx fun w wait => if s.pendingWaits wait.sessionId = some w then wait.stopped else wait}

def setBackground (s : SendNotifier) (id : Nat) (background : Bool) : SendNotifier :=
  s.updateSession id fun session => {session with background}

/-- `_finish`. -/
def finish (s : SendNotifier) (id : Nat) : SendNotifier :=
  match s.sessions id with
  | none => s
  | some session =>
    if session.status = .sending then
      let hasError := session.files.any fun (_, file) => file.status = .failed
      if !hasError && session.background then s.closeSession id
      else s.setStatus id (if hasError then .finishedWithErrors else .finished)
    else s

/-- `sendFile`, up to the upload; `pipeline` is the one whose loop has the file, and none
for a retry. -/
def sendFile (s : SendNotifier) (id : Nat) (fileId : String) (file : SendingFile) (pipeline : Option Nat) : SendNotifier :=
  match file.token, s.sessions id with
  | some _, some session =>
    if session.status ∈ allowedStates then
      let s := if pipeline = none then (s.setStatus id .sending).withFileStatus id fileId .queue else s
      {s.withFileStatus id fileId .sending with uploads := s.uploads ++ [⟨id, fileId, pipeline⟩]}
    else s
  | _, _ => s

/-- `isFinishedOrError` of the files. -/
def isFinishedOrError (files : List (String × SendingFile)) : Bool :=
  files.all fun (_, file) => file.status ∈ [.skipped, .failed, .finished]

/-- `sendFile` from the end of the upload on. -/
def fileSent (s : SendNotifier) (upload : FileUpload) (success : Bool) : SendNotifier :=
  let s := s.withFileStatus upload.sessionId upload.fileId (if success then .finished else .failed)
  match s.sessions upload.sessionId with
  | some session =>
    if upload.pipeline = none ∧ isFinishedOrError session.files then s.finish upload.sessionId else s
  | none => s

/-- The files with their tokens, and those that are not to be sent. -/
def sendingFiles (files : List (String × SendingFile)) (fileMap : List (String × Token)) : List (String × SendingFile) :=
  files.map fun (fileId, file) => (fileId, match fileMap.lookup fileId with
    | some token => {file with token := some token}
    | none => {file with status := .skipped})

def setPhase (s : SendNotifier) (p : Nat) (pipeline : UploadPipeline) (phase : PipelinePhase) : SendNotifier :=
  {s with pipelines := s.pipelines.set p {pipeline with phase}}

/-- `_runUploadPipeline` from the answer on. -/
def onPrepared (s : SendNotifier) (p : Nat) (pipeline : UploadPipeline) (answer : PrepareAnswer) (now : Nat) : SendNotifier :=
  let id := pipeline.sessionId
  match answer with
  | .accepted remoteSessionId fileMap =>
    let s := s.updateSession id fun session => {session with remoteSessionId := some remoteSessionId}
    if fileMap.isEmpty then ((s.setStatus id .finished).closeSession id).setPhase p pipeline .ended
    else
      let files := sendingFiles pipeline.files fileMap
      (s.updateSession id fun session => {session with status := .sending, files, startTime := some now}).setPhase p pipeline
        (.sendLoop files)
  | .nothingSelected => ((s.setStatus id .finished).closeSession id).setPhase p pipeline .ended
  | .statusCode 401 => s.setPhase p pipeline .askingPin
  | .statusCode 403 => (s.setStatus id .declined).setPhase p pipeline .ended
  | .statusCode 409 => (s.setStatus id .recipientBusy).setPhase p pipeline .ended
  | .statusCode 429 => (s.setStatus id .tooManyAttempts).setPhase p pipeline .ended
  | .statusCode _ | .failed => (s.setStatus id .finishedWithErrors).setPhase p pipeline .ended
  | .noOrigin => s.setPhase p pipeline .ended

/-! ### Steps -/

end SendNotifier

inductive NotifierEvent where
  | startSession (hasHttpEndpoint : Bool) (files : List String) (background : Bool) (stableTargetId : Option String)
    (merged : List MergedDevice)
  /-- The subscription of a wait delivers, be it canceled since. -/
  | mergedDevicesUpdate (wait : Nat) (merged : List MergedDevice)
  | waitTimeout (wait : Nat)
  | retryWaitingSession (id : Nat) (merged : List MergedDevice)
  | cancelWaitingSession (id : Nat)
  | cancelSession (id : Nat)
  /-- A cancel request of the receiver. -/
  | cancelHandler (id : Nat)
  | closeSession (id : Nat)
  | clearAllSessions
  | setBackground (id : Nat) (background : Bool)
  | prepared (pipeline : Nat) (answer : PrepareAnswer) (now : Nat)
  /-- The dialog for the pin is closed, with a pin or without. -/
  | enterPin (pipeline : Nat) (pin : Option String)
  /-- An isolate takes the next file of the loop. -/
  | takeFile (pipeline : Nat)
  | uploadEnded (upload : Nat) (success : Bool)
  /-- All isolates are through with the queue. -/
  | loopEnds (pipeline : Nat)
  | retryFile (id : Nat) (fileId : String)

namespace SendNotifier

def step (s : SendNotifier) : NotifierEvent → Option SendNotifier
  | .startSession hasHttpEndpoint files background stableTargetId merged =>
    some (s.startSession hasHttpEndpoint files background stableTargetId merged)
  | .mergedDevicesUpdate w merged => (s.waits[w]?).map fun wait => s.onMergedDevicesUpdate wait.sessionId merged
  | .waitTimeout w =>
    match s.waits[w]? with
    | some ⟨id, subscription, true⟩ =>
      some ({s with waits := s.waits.set w ⟨id, subscription, false⟩}.onWaitTimeout id)
    | _ => none
  | .retryWaitingSession id merged => some (s.retryWaitingSession id merged)
  | .cancelWaitingSession id => some (s.cancelWaitingSession id)
  | .cancelSession id => some (s.cancelSession id)
  | .cancelHandler id => some (s.cancelHandler id)
  | .closeSession id => some (s.closeSession id)
  | .clearAllSessions => some s.clearAllSessions
  | .setBackground id background => some (s.setBackground id background)
  | .prepared p answer now =>
    match s.pipelines[p]? with
    | some ⟨id, files, .preparing pin⟩ => some (s.onPrepared p ⟨id, files, .preparing pin⟩ answer now)
    | _ => none
  | .enterPin p pin =>
    match s.pipelines[p]?, pin with
    | some ⟨id, files, .askingPin⟩, some pin => some (s.setPhase p ⟨id, files, .askingPin⟩ (.preparing (some pin)))
    | some ⟨id, files, .askingPin⟩, none =>
      some ((s.setStatus id .canceledBySender).setPhase p ⟨id, files, .askingPin⟩ .ended)
    | _, _ => none
  | .takeFile p =>
    match s.pipelines[p]? with
    | some ⟨id, files, .sendLoop ((fileId, file) :: queue)⟩ =>
      some ((s.setPhase p ⟨id, files, .ended⟩ (.sendLoop queue)).sendFile id fileId file (some p))
    | _ => none
  | .uploadEnded u success =>
    (s.uploads[u]?).map fun upload => {s with uploads := s.uploads.eraseIdx u}.fileSent upload success
  | .loopEnds p =>
    match s.pipelines[p]? with
    | some ⟨id, files, .sendLoop []⟩ =>
      if ∃ upload ∈ s.uploads, upload.pipeline = some p then none
      else some ((s.setPhase p ⟨id, files, .sendLoop []⟩ .ended).finish id)
    | _ => none
  | .retryFile id fileId =>
    ((s.sessions id).bind fun session => session.files.lookup fileId).map fun file => s.sendFile id fileId file none

end SendNotifier

def sendNotifier : Transition.System SendNotifier NotifierEvent where
  init := {}
  step := SendNotifier.step

namespace SendNotifier
variable {s t : SendNotifier} {id : Nat}

/-! ### What an operation leaves alone -/

section
variable (s) (id)

@[simp] theorem sessions_stopWait : (s.stopWait id).sessions = s.sessions := by
  unfold stopWait
  split <;> rfl

@[simp] theorem created_stopWait : (s.stopWait id).created = s.created := by
  unfold stopWait
  split <;> rfl

@[simp] theorem pipelines_stopWait : (s.stopWait id).pipelines = s.pipelines := by
  unfold stopWait
  split <;> rfl

@[simp] theorem uploads_stopWait : (s.stopWait id).uploads = s.uploads := by
  unfold stopWait
  split <;> rfl

@[simp] theorem pendingWaits_stopWait : (s.stopWait id).pendingWaits = Function.update s.pendingWaits id none := by
  unfold stopWait
  split
  · next hnone => rw [← hnone, Function.update_eq_self]
  · rfl

@[simp] theorem sessions_updateSession_self (update : OpenSession → OpenSession) :
    (s.updateSession id update).sessions id = (s.sessions id).map update := by
  simp [updateSession]

@[simp] theorem sessions_closeSession_self : (s.closeSession id).sessions id = none := by
  simp [closeSession]

/-- The session ids `_runUploadPipeline` has been called with. -/
def started : List Nat := s.pipelines.map UploadPipeline.sessionId

@[simp] theorem started_runUploadPipeline : (s.runUploadPipeline id).started = s.started ++ [id] := by
  unfold runUploadPipeline started
  split <;> simp

end

theorem sessions_updateSession_of_ne (update : OpenSession → OpenSession) {other : Nat} (h : other ≠ id) :
    (s.updateSession id update).sessions other = s.sessions other := by
  simp [updateSession, Function.update_of_ne h]

theorem sessions_closeSession_of_ne {other : Nat} (h : other ≠ id) :
    (s.closeSession id).sessions other = s.sessions other := by
  simp [closeSession, Function.update_of_ne h]

/-! ### What a step does -/

/-- The statuses of a session that has not been given to the pipeline. -/
def waitingStatuses : List SessionStatus := [.waitingForDevice, .waitingForDeviceTimedOut]

/-- One step, with everything it can do. -/
inductive Moves (s : SendNotifier) : NotifierEvent → SendNotifier → Prop
  /-- There is no session, or its status does not allow it. -/
  | stays (e : NotifierEvent) : Moves s e s
  | starts (hasHttpEndpoint : Bool) (files : List String) (background : Bool) (stableTargetId : Option String)
      (merged : List MergedDevice) :
      Moves s (.startSession hasHttpEndpoint files background stableTargetId merged)
        (s.startSession hasHttpEndpoint files background stableTargetId merged)
  | updates (w id : Nat) (merged : List MergedDevice) :
      Moves s (.mergedDevicesUpdate w merged) (s.onMergedDevicesUpdate id merged)
  | timesOut {w id : Nat} {subscription : Bool} {session : OpenSession}
      (hwait : s.waits[w]? = some ⟨id, subscription, true⟩) (hget : s.sessions id = some session)
      (hstatus : session.status = .waitingForDevice) :
      Moves s (.waitTimeout w)
        ((stopWait {s with waits := s.waits.set w ⟨id, subscription, false⟩} id).setStatus id .waitingForDeviceTimedOut)
  | timesOutLate {w id : Nat} {subscription : Bool} (hwait : s.waits[w]? = some ⟨id, subscription, true⟩)
      (hnot : ∀ session, s.sessions id = some session → session.status ≠ .waitingForDevice) :
      Moves s (.waitTimeout w) {s with waits := s.waits.set w ⟨id, subscription, false⟩}
  | waitsAgain {id : Nat} {merged : List MergedDevice} {session : OpenSession} (hget : s.sessions id = some session)
      (hwaiting : session.status ∈ waitingStatuses) :
      Moves s (.retryWaitingSession id merged) ((s.setStatus id .waitingForDevice).startWaitForOnline id merged)
  | stopsWait {id : Nat} (hnone : s.sessions id = none) : Moves s (.cancelWaitingSession id) (s.stopWait id)
  | closes {e : NotifierEvent} {id : Nat}
      (he : e = .cancelWaitingSession id ∨ e = .cancelSession id ∨ e = .closeSession id) : Moves s e (s.closeSession id)
  | canceledByReceiver {id : Nat} {session : OpenSession} (hget : s.sessions id = some session)
      (hsending : session.status = .sending) : Moves s (.cancelHandler id) (s.setStatus id .canceledByReceiver)
  | clears : Moves s .clearAllSessions s.clearAllSessions
  | setsBackground (id : Nat) (background : Bool) : Moves s (.setBackground id background) (s.setBackground id background)
  | prepared {p id : Nat} {files : List (String × SendingFile)} {pin : Option String} {answer : PrepareAnswer} {now : Nat}
      (hget : s.pipelines[p]? = some ⟨id, files, .preparing pin⟩) :
      Moves s (.prepared p answer now) (s.onPrepared p ⟨id, files, .preparing pin⟩ answer now)
  | pinEntered {p id : Nat} {files : List (String × SendingFile)} {pin : String}
      (hget : s.pipelines[p]? = some ⟨id, files, .askingPin⟩) :
      Moves s (.enterPin p (some pin)) (s.setPhase p ⟨id, files, .askingPin⟩ (.preparing (some pin)))
  | pinRefused {p id : Nat} {files : List (String × SendingFile)} (hget : s.pipelines[p]? = some ⟨id, files, .askingPin⟩) :
      Moves s (.enterPin p none) ((s.setStatus id .canceledBySender).setPhase p ⟨id, files, .askingPin⟩ .ended)
  | takesFile {p id : Nat} {files queue : List (String × SendingFile)} {fileId : String} {file : SendingFile}
      (hget : s.pipelines[p]? = some ⟨id, files, .sendLoop ((fileId, file) :: queue)⟩) :
      Moves s (.takeFile p) ((s.setPhase p ⟨id, files, .ended⟩ (.sendLoop queue)).sendFile id fileId file (some p))
  | uploadEnds {u : Nat} {upload : FileUpload} {success : Bool} (hget : s.uploads[u]? = some upload) :
      Moves s (.uploadEnded u success) (fileSent {s with uploads := s.uploads.eraseIdx u} upload success)
  | loopEnds {p id : Nat} {files : List (String × SendingFile)} (hget : s.pipelines[p]? = some ⟨id, files, .sendLoop []⟩)
      (hworkers : ¬ ∃ upload ∈ s.uploads, upload.pipeline = some p) :
      Moves s (.loopEnds p) ((s.setPhase p ⟨id, files, .sendLoop []⟩ .ended).finish id)
  | retriesFile {id : Nat} {fileId : String} {session : OpenSession} {file : SendingFile}
      (hget : s.sessions id = some session) (hfile : session.files.lookup fileId = some file) :
      Moves s (.retryFile id fileId) (s.sendFile id fileId file none)

theorem closeSession_stopWait : (s.stopWait id).closeSession id = s.closeSession id := by
  have hagain : (s.stopWait id).stopWait id = s.stopWait id := by
    rw [SendNotifier.stopWait.eq_def (s.stopWait id)]
    simp
  rw [SendNotifier.closeSession, SendNotifier.closeSession, hagain, sessions_stopWait]

theorem moves_of_step {e : NotifierEvent} (h : s.step e = some t) : Moves s e t := by
  cases e with
  | startSession =>
    obtain rfl := Option.some.inj h
    exact .starts _ _ _ _ _
  | mergedDevicesUpdate w merged =>
    obtain ⟨wait, -, rfl⟩ := Option.map_eq_some_iff.mp h
    exact .updates w wait.sessionId merged
  | waitTimeout w =>
    simp only [step] at h
    split at h
    · next id subscription hwait =>
      obtain rfl := Option.some.inj h
      unfold onWaitTimeout
      split
      · next hnone =>
        refine .timesOutLate hwait fun session hget => ?_
        cases hnone.symm.trans hget
      · next session hget =>
        split_ifs with hstatus
        · exact .timesOut hwait hget hstatus
        · exact .timesOutLate hwait fun other hother => Option.some.inj (hget.symm.trans hother) ▸ hstatus
    · cases h
  | retryWaitingSession id merged =>
    obtain rfl := Option.some.inj h
    unfold retryWaitingSession
    split
    · exact .stays _
    · next session hget =>
      split_ifs with hstatus
      · refine .waitsAgain hget ?_
        rcases hstatus with hs | hs <;> simp [hs, waitingStatuses]
      · exact .stays _
  | cancelWaitingSession id =>
    obtain rfl := Option.some.inj h
    simp only [cancelWaitingSession, cancelSession, sessions_stopWait]
    split
    · next hnone => exact .stopsWait hnone
    · rw [closeSession_stopWait]
      exact .closes (.inl rfl)
  | cancelSession id =>
    obtain rfl := Option.some.inj h
    unfold cancelSession
    split
    · exact .stays _
    · exact .closes (.inr (.inl rfl))
  | cancelHandler id =>
    obtain rfl := Option.some.inj h
    unfold cancelHandler
    split
    · exact .stays _
    · next session hget =>
      split_ifs with hsending
      · exact .canceledByReceiver hget hsending
      · exact .stays _
  | closeSession id =>
    obtain rfl := Option.some.inj h
    exact .closes (.inr (.inr rfl))
  | clearAllSessions =>
    obtain rfl := Option.some.inj h
    exact .clears
  | setBackground id background =>
    obtain rfl := Option.some.inj h
    exact .setsBackground id background
  | prepared p answer now =>
    simp only [step] at h
    split at h
    · next hget =>
      obtain rfl := Option.some.inj h
      exact .prepared hget
    · cases h
  | enterPin p pin =>
    simp only [step] at h
    split at h
    · next hget =>
      obtain rfl := Option.some.inj h
      exact .pinEntered hget
    · next hget =>
      obtain rfl := Option.some.inj h
      exact .pinRefused hget
    · cases h
  | takeFile p =>
    simp only [step] at h
    split at h
    · next hget =>
      obtain rfl := Option.some.inj h
      exact .takesFile hget
    · cases h
  | uploadEnded u success =>
    obtain ⟨upload, hget, rfl⟩ := Option.map_eq_some_iff.mp h
    exact .uploadEnds hget
  | loopEnds p =>
    simp only [step] at h
    split at h
    · next hget =>
      split_ifs at h with hworkers
      obtain rfl := Option.some.inj h
      exact .loopEnds hget hworkers
    · cases h
  | retryFile id fileId =>
    obtain ⟨file, hfile, rfl⟩ := Option.map_eq_some_iff.mp h
    obtain ⟨session, hget, hlookup⟩ := Option.bind_eq_some_iff.mp hfile
    exact .retriesFile hget hlookup

/-! ### Only `startSession` makes a session -/

/-- No session appears, and no session id is given out. -/
structure NoNew (s t : SendNotifier) : Prop where
  sessions : ∀ id, s.sessions id = none → t.sessions id = none
  created : t.created = s.created

theorem NoNew.refl (s : SendNotifier) : NoNew s s := ⟨fun _ hnone => hnone, rfl⟩

theorem NoNew.trans {r : SendNotifier} (h : NoNew r s) (h' : NoNew s t) : NoNew r t :=
  ⟨fun id hnone => h'.sessions id (h.sessions id hnone), h'.created.trans h.created⟩

theorem NoNew.of_eq (hsessions : t.sessions = s.sessions) (hcreated : t.created = s.created) : NoNew s t :=
  ⟨fun _ hnone => hsessions ▸ hnone, hcreated⟩

theorem noNew_updateSession (update : OpenSession → OpenSession) : NoNew s (s.updateSession id update) := by
  refine ⟨fun other hnone => ?_, rfl⟩
  by_cases hid : other = id
  · subst hid
    simp [hnone]
  · rwa [sessions_updateSession_of_ne _ hid]

theorem noNew_stopWait : NoNew s (s.stopWait id) := .of_eq (by simp) (by simp)

theorem noNew_closeSession : NoNew s (s.closeSession id) := by
  refine ⟨fun other hnone => ?_, by simp [closeSession]⟩
  by_cases hid : other = id
  · subst hid
    simp
  · rwa [sessions_closeSession_of_ne hid]

theorem noNew_runUploadPipeline : NoNew s (s.runUploadPipeline id) := by
  unfold runUploadPipeline
  split
  · exact .of_eq rfl rfl
  · exact .of_eq rfl rfl

theorem noNew_onMergedDevicesUpdate {merged : List MergedDevice} : NoNew s (s.onMergedDevicesUpdate id merged) := by
  unfold onMergedDevicesUpdate
  split
  · exact noNew_stopWait
  · split_ifs
    · split
      · exact .refl s
      · split
        · exact .refl s
        · exact (noNew_stopWait.trans (noNew_updateSession _)).trans noNew_runUploadPipeline
    · exact .refl s

theorem noNew_startWaitForOnline {merged : List MergedDevice} : NoNew s (s.startWaitForOnline id merged) := by
  simp only [startWaitForOnline]
  split
  · exact noNew_stopWait
  · refine NoNew.trans ?_ noNew_onMergedDevicesUpdate
    exact .of_eq (by simp) (by simp)

theorem noNew_finish : NoNew s (s.finish id) := by
  unfold finish
  split
  · exact .refl s
  · simp only
    split_ifs
    · exact noNew_closeSession
    · exact noNew_updateSession _
    · exact noNew_updateSession _
    · exact .refl s

theorem noNew_sendFile {fileId : String} {file : SendingFile} {pipeline : Option Nat} :
    NoNew s (s.sendFile id fileId file pipeline) := by
  unfold sendFile
  split
  · simp only
    split_ifs
    · exact ((noNew_updateSession _).trans (noNew_updateSession _)).trans
        ((noNew_updateSession _).trans (.of_eq rfl rfl))
    · exact (noNew_updateSession _).trans (.of_eq rfl rfl)
    · exact .refl s
  · exact .refl s

theorem noNew_fileSent {upload : FileUpload} {success : Bool} : NoNew s (s.fileSent upload success) := by
  simp only [fileSent]
  generalize (if success then FileStatus.finished else .failed) = status
  split
  · split_ifs
    · exact (noNew_updateSession _).trans noNew_finish
    · exact noNew_updateSession _
  · exact noNew_updateSession _

theorem noNew_onPrepared {p : Nat} {pipeline : UploadPipeline} {answer : PrepareAnswer} {now : Nat} :
    NoNew s (s.onPrepared p pipeline answer now) := by
  have hphase : ∀ (s : SendNotifier) phase, NoNew s (s.setPhase p pipeline phase) := fun _ _ => .of_eq rfl rfl
  have hclosed : NoNew s ((s.setStatus pipeline.sessionId .finished).closeSession pipeline.sessionId) :=
    (noNew_updateSession _).trans noNew_closeSession
  unfold onPrepared
  simp only
  split
  · split_ifs
    · exact ((noNew_updateSession _).trans ((noNew_updateSession _).trans noNew_closeSession)).trans (hphase _ _)
    · exact ((noNew_updateSession _).trans (noNew_updateSession _)).trans (hphase _ _)
  · exact hclosed.trans (hphase _ _)
  · exact hphase s _
  all_goals first | exact (noNew_updateSession _).trans (hphase _ _) | exact hphase s _

/-- `startSession` makes the session of a new id only. -/
theorem startSession_of_lt {hasHttpEndpoint : Bool} {files : List String} {background : Bool}
    {stableTargetId : Option String} {merged : List MergedDevice} (hlt : id < s.created) (hgone : s.sessions id = none) :
    id < (s.startSession hasHttpEndpoint files background stableTargetId merged).created ∧
      (s.startSession hasHttpEndpoint files background stableTargetId merged).sessions id = none := by
  have hnew : ∀ session, ∀ {t}, NoNew {s with created := s.created + 1, sessions := Function.update s.sessions s.created session} t →
      id < t.created ∧ t.sessions id = none := by
    intro session t h
    refine ⟨h.created.symm ▸ Nat.lt_succ_of_lt hlt, h.sessions id ?_⟩
    exact (Function.update_of_ne (Nat.ne_of_lt hlt) _ _).trans hgone
  unfold startSession
  simp only
  split_ifs
  · exact hnew _ noNew_runUploadPipeline
  · exact hnew _ (noNew_updateSession _)
  · exact hnew _ noNew_startWaitForOnline

/-- Only `startSession` makes a session. -/
theorem noNew_step {e : NotifierEvent} (h : s.step e = some t)
    (he : ∀ hasHttpEndpoint files background stableTargetId merged,
      e ≠ .startSession hasHttpEndpoint files background stableTargetId merged) : NoNew s t := by
  cases moves_of_step h with
  | stays => exact .refl s
  | starts => exact absurd rfl (he _ _ _ _ _)
  | updates => exact noNew_onMergedDevicesUpdate
  | timesOut =>
    refine NoNew.trans ?_ (noNew_stopWait.trans (noNew_updateSession _))
    exact .of_eq rfl rfl
  | timesOutLate => exact .of_eq rfl rfl
  | waitsAgain => exact (noNew_updateSession _).trans noNew_startWaitForOnline
  | stopsWait => exact noNew_stopWait
  | closes => exact noNew_closeSession
  | canceledByReceiver | setsBackground => exact noNew_updateSession _
  | clears => exact ⟨fun _ _ => rfl, rfl⟩
  | prepared => exact noNew_onPrepared
  | pinEntered => exact .of_eq rfl rfl
  | pinRefused => exact (noNew_updateSession _).trans (.of_eq rfl rfl)
  | takesFile =>
    refine NoNew.trans ?_ noNew_sendFile
    exact .of_eq rfl rfl
  | uploadEnds =>
    refine NoNew.trans ?_ noNew_fileSent
    exact .of_eq rfl rfl
  | loopEnds =>
    refine NoNew.trans ?_ noNew_finish
    exact .of_eq rfl rfl
  | retriesFile => exact noNew_sendFile

/-! ### The invariant -/

/-- The waits that are active are those the notifier knows. -/
structure Tracked (s : SendNotifier) : Prop where
  known : ∀ id w, s.pendingWaits id = some w → (s.waits[w]?).map Wait.sessionId = some id
  active : ∀ w wait, s.waits[w]? = some wait →
    (wait.subscription = true ↔ s.pendingWaits wait.sessionId = some w) ∧
      (wait.timeoutTimer = true ↔ s.pendingWaits wait.sessionId = some w)

structure Kept (s : SendNotifier) : Prop where
  tracked : s.Tracked
  pending : ∀ id, (s.pendingWaits id).isSome ↔
    ∃ session, s.sessions id = some session ∧ session.status = .waitingForDevice
  waiting : ∀ id session, s.sessions id = some session → session.status ∈ waitingStatuses →
    session.stableTargetId.isSome ∧ id ∉ s.started
  created : ∀ id, s.created ≤ id → s.sessions id = none
  known : ∀ id ∈ s.started, id < s.created
  nodup : s.started.Nodup

theorem Tracked.of_eq (h : s.Tracked) (hpending : t.pendingWaits = s.pendingWaits) (hwaits : t.waits = s.waits) :
    t.Tracked := by
  obtain ⟨hknown, hactive⟩ := h
  refine ⟨?_, ?_⟩
  · rwa [hpending, hwaits]
  · rwa [hpending, hwaits]

theorem waits_stopWait {w : Nat} (h : s.pendingWaits id = some w) :
    (s.stopWait id).waits = s.waits.modify w Wait.stopped := by
  simp [stopWait, h]

/-- A wait that is stopped is known no more. -/
theorem Tracked.stopWait (h : s.Tracked) (id : Nat) : (s.stopWait id).Tracked := by
  cases hw : s.pendingWaits id with
  | none => exact h.of_eq (by rw [pendingWaits_stopWait, ← hw, Function.update_eq_self]) (by simp [SendNotifier.stopWait, hw])
  | some w =>
    obtain ⟨own, hget, hown⟩ := Option.map_eq_some_iff.mp (h.known id w hw)
    refine ⟨fun other v hpending => ?_, fun v wait hv => ?_⟩
    · rw [pendingWaits_stopWait] at hpending
      by_cases hid : other = id
      · subst hid
        simp at hpending
      · rw [Function.update_of_ne hid] at hpending
        have hne : w ≠ v := by
          rintro rfl
          exact hid (Option.some.inj ((h.known other w hpending).symm.trans (h.known id w hw)))
        rw [waits_stopWait hw, List.getElem?_modify_ne _ _ hne]
        exact h.known other v hpending
    · rw [waits_stopWait hw] at hv
      rw [pendingWaits_stopWait]
      by_cases heq : w = v
      · subst heq
        rw [List.getElem?_modify_eq, hget] at hv
        obtain rfl := Option.some.inj hv
        simp [Wait.stopped, hown]
      · rw [List.getElem?_modify_ne _ _ heq] at hv
        have hactive := h.active v wait hv
        by_cases hid : wait.sessionId = id
        · have hnot : s.pendingWaits wait.sessionId ≠ some v := fun hpending =>
            heq (Option.some.inj (hw.symm.trans (hid ▸ hpending)))
          rw [hid, Function.update_self]
          simpa [hnot] using hactive
        · rwa [Function.update_of_ne hid]

/-- A new wait. -/
theorem Tracked.wait (h : s.Tracked) (hnone : s.pendingWaits id = none)
    (hpending : t.pendingWaits = Function.update s.pendingWaits id (some s.waits.length))
    (hwaits : t.waits = s.waits ++ [{sessionId := id}]) : t.Tracked := by
  refine ⟨fun other v hother => ?_, fun v wait hv => ?_⟩
  · rw [hpending] at hother
    by_cases hid : other = id
    · subst hid
      rw [Function.update_self] at hother
      obtain rfl := Option.some.inj hother
      simp [hwaits]
    · rw [Function.update_of_ne hid] at hother
      have hold := h.known other v hother
      obtain ⟨wait, hget, -⟩ := Option.map_eq_some_iff.mp hold
      rwa [hwaits, Records.append hget, ← hget]
  · rw [hwaits, List.getElem?_append] at hv
    rw [hpending]
    split at hv
    · next hlt =>
      have hactive := h.active v wait hv
      by_cases hid : wait.sessionId = id
      · rw [hid] at hactive ⊢
        rw [hnone] at hactive
        rw [Function.update_self]
        have hne : s.waits.length ≠ v := (Nat.ne_of_lt hlt).symm
        simpa [hne] using hactive
      · rwa [Function.update_of_ne hid]
    · next hge =>
      obtain rfl := List.mem_singleton.mp (List.mem_of_getElem? hv)
      have hv : v = s.waits.length := by
        have hlt := (List.getElem?_eq_some_iff.mp hv).1
        simp only [List.length_singleton] at hlt
        omega
      simp [hv]

/-- Neither the sessions nor the waits change, and no pipeline starts. -/
theorem Kept.of_eq (h : s.Kept) (hsessions : t.sessions = s.sessions) (hpending : t.pendingWaits = s.pendingWaits)
    (hwaits : t.waits = s.waits) (hcreated : t.created = s.created) (hstarted : t.started = s.started) : t.Kept := by
  obtain ⟨htracked, hpend, hwaiting, hnew, hknown, hnodup⟩ := h
  refine ⟨htracked.of_eq hpending hwaits, ?_, ?_, ?_, ?_, hstarted ▸ hnodup⟩
  · rwa [hpending, hsessions]
  · rwa [hsessions, hstarted]
  · rwa [hcreated, hsessions]
  · rwa [hcreated, hstarted]

theorem Kept.setPhase (h : s.Kept) {p : Nat} {pipeline : UploadPipeline} (hget : s.pipelines[p]? = some pipeline)
    (phase : PipelinePhase) : (s.setPhase p pipeline phase).Kept := by
  refine h.of_eq rfl rfl rfl rfl ?_
  simp only [started, SendNotifier.setPhase, List.map_set]
  refine List.ext_getElem? fun i => ?_
  by_cases hi : p = i
  · subst hi
    rw [List.getElem?_set_self (by simpa using (List.getElem?_eq_some_iff.mp hget).1)]
    simp [hget]
  · rw [List.getElem?_set_ne hi]

/-- What one session and its wait become is up to it alone. -/
theorem Kept.put (h : s.Kept) (id : Nat) (hsessions : ∀ other, other ≠ id → t.sessions other = s.sessions other)
    (hwaits : ∀ other, other ≠ id → t.pendingWaits other = s.pendingWaits other) (htracked : t.Tracked)
    (hcreated : s.created ≤ t.created)
    (hstarted : t.started = s.started ∨ id ∉ s.started ∧ t.started = s.started ++ [id])
    (hknown : (t.sessions id).isSome → id < t.created)
    (hpending : (t.pendingWaits id).isSome ↔
      ∃ session, t.sessions id = some session ∧ session.status = .waitingForDevice)
    (hwaiting : ∀ session, t.sessions id = some session → session.status ∈ waitingStatuses →
      session.stableTargetId.isSome ∧ id ∉ t.started)
    (hlt : id ∈ t.started → id < t.created) : t.Kept := by
  have hmem : ∀ other, other ≠ id → (other ∈ t.started ↔ other ∈ s.started) := by
    intro other hid
    rcases hstarted with hsame | ⟨-, happend⟩
    · rw [hsame]
    · simp [happend, hid]
  refine ⟨htracked, fun other => ?_, fun other session hget hstatus => ?_, fun other hle => ?_, fun other hother => ?_, ?_⟩
  · by_cases hid : other = id
    · rwa [hid]
    · rw [hsessions other hid, hwaits other hid]
      exact h.pending other
  · by_cases hid : other = id
    · subst hid
      exact hwaiting session hget hstatus
    · rw [hsessions other hid] at hget
      rw [hmem other hid]
      exact h.waiting other session hget hstatus
  · by_cases hid : other = id
    · subst hid
      cases hget : t.sessions other with
      | none => rfl
      | some session => exact absurd (hknown (by simp [hget])) (Nat.not_lt.mpr hle)
    · rw [hsessions other hid]
      exact h.created other (Nat.le_trans hcreated hle)
  · by_cases hid : other = id
    · subst hid
      exact hlt hother
    · exact Nat.lt_of_lt_of_le (h.known other ((hmem other hid).mp hother)) hcreated
  · rcases hstarted with hsame | ⟨hfresh, happend⟩
    · exact hsame ▸ h.nodup
    · rw [happend]
      exact List.nodup_append.mpr ⟨h.nodup, List.nodup_singleton id, fun a ha b hb =>
        fun heq => hfresh (List.mem_singleton.mp hb ▸ heq ▸ ha)⟩

theorem Kept.lt_created (h : s.Kept) {session : OpenSession} (hget : s.sessions id = some session) : id < s.created := by
  refine Nat.lt_of_not_le fun hle => ?_
  cases (h.created id hle).symm.trans hget

/-- An update that leaves the status, or one of a session that was and is not waiting for
its device. -/
theorem Kept.updateSession (h : s.Kept) {update : OpenSession → OpenSession}
    (hupdate : ∀ session, s.sessions id = some session →
      (update session).status = session.status ∧ (update session).stableTargetId = session.stableTargetId ∨
        session.status ∉ waitingStatuses ∧ (update session).status ∉ waitingStatuses) :
    (s.updateSession id update).Kept := by
  cases hget : s.sessions id with
  | none =>
    refine h.of_eq ?_ rfl rfl rfl rfl
    rw [SendNotifier.updateSession, hget, Option.map_none, ← hget, Function.update_eq_self]
  | some session =>
    have hown : (s.updateSession id update).sessions id = some (update session) := by simp [hget]
    refine h.put id (fun other hid => sessions_updateSession_of_ne update hid) (fun _ _ => rfl) (h.tracked.of_eq rfl rfl)
      (Nat.le_refl _) (.inl rfl) (fun _ => h.lt_created hget) ?_ ?_ (h.known id)
    · refine (h.pending id).trans ?_
      simp only [hget, hown, Option.some.injEq, exists_eq_left']
      rcases hupdate session hget with ⟨hsame, -⟩ | ⟨hnot, hnot'⟩
      · rw [hsame]
      · refine iff_of_false (fun hstatus => hnot (hstatus ▸ by decide)) fun hstatus => hnot' (hstatus ▸ by decide)
    · intro after hafter hwaiting
      obtain rfl := Option.some.inj (hown.symm.trans hafter)
      rcases hupdate session hget with ⟨hsame, hstable⟩ | ⟨-, hnot⟩
      · rw [hstable]
        exact h.waiting id session hget (hsame ▸ hwaiting)
      · exact absurd hwaiting hnot

/-- The wait is over, and the session is no longer waiting for its device. -/
theorem Kept.leave (h : s.Kept) {update : OpenSession → OpenSession}
    (hupdate : ∀ session, s.sessions id = some session → (update session).status ≠ .waitingForDevice ∧
      ((update session).status ∈ waitingStatuses →
        session.status ∈ waitingStatuses ∧ (update session).stableTargetId = session.stableTargetId)) :
    ((s.stopWait id).updateSession id update).Kept := by
  have hown : ((s.stopWait id).updateSession id update).sessions id = (s.sessions id).map update := by simp
  refine h.put id (fun other hid => ?_) (fun other hid => ?_) ((h.tracked.stopWait id).of_eq rfl rfl) ?_ (.inl ?_)
    (fun hsome => ?_) ?_ (fun after hafter hwaiting => ?_) fun hstarted => ?_
  · rw [sessions_updateSession_of_ne update hid, sessions_stopWait]
  · simp [SendNotifier.updateSession, Function.update_of_ne hid]
  · simp [SendNotifier.updateSession]
  · simp [SendNotifier.updateSession, started]
  · rw [hown, Option.isSome_map] at hsome
    obtain ⟨session, hget⟩ := Option.isSome_iff_exists.mp hsome
    simpa [SendNotifier.updateSession] using h.lt_created hget
  · refine iff_of_false (by simp [SendNotifier.updateSession]) ?_
    rintro ⟨after, hafter, hstatus⟩
    obtain ⟨session, hget, rfl⟩ := Option.map_eq_some_iff.mp (hown.symm.trans hafter)
    exact (hupdate session hget).1 hstatus
  · obtain ⟨session, hget, rfl⟩ := Option.map_eq_some_iff.mp (hown.symm.trans hafter)
    obtain ⟨hbefore, hstable⟩ := (hupdate session hget).2 hwaiting
    rw [hstable]
    simpa [SendNotifier.updateSession, started] using h.waiting id session hget hbefore
  · simp only [SendNotifier.updateSession, started, pipelines_stopWait, created_stopWait] at hstarted ⊢
    exact h.known id hstarted

/-- The session and its wait are gone. -/
theorem Kept.closeSession (h : s.Kept) (id : Nat) : (s.closeSession id).Kept := by
  refine h.put id (fun other hid => sessions_closeSession_of_ne hid) (fun other hid => ?_)
    ((h.tracked.stopWait id).of_eq rfl rfl) ?_ (.inl ?_) (fun hsome => ?_) ?_ (fun session hget => ?_) fun hstarted => ?_
  · simp [SendNotifier.closeSession, Function.update_of_ne hid]
  · simp [SendNotifier.closeSession]
  · simp [SendNotifier.closeSession, started]
  · simp at hsome
  · simp [SendNotifier.closeSession]
  · simp at hget
  · simp only [SendNotifier.closeSession, started, pipelines_stopWait, created_stopWait] at hstarted ⊢
    exact h.known id hstarted

/-- A session that has not been given to the pipeline is given to it. -/
theorem Kept.runUploadPipeline (h : s.Kept) (hlt : id < s.created) (hfresh : id ∉ s.started)
    (hnot : ∀ session, s.sessions id = some session → session.status ∉ waitingStatuses) :
    (s.runUploadPipeline id).Kept := by
  have hsame : (s.runUploadPipeline id).sessions = s.sessions ∧ (s.runUploadPipeline id).pendingWaits = s.pendingWaits ∧
      (s.runUploadPipeline id).waits = s.waits ∧ (s.runUploadPipeline id).created = s.created := by
    unfold SendNotifier.runUploadPipeline
    split
    · exact ⟨rfl, rfl, rfl, rfl⟩
    · exact ⟨rfl, rfl, rfl, rfl⟩
  obtain ⟨hsessions, hpending, hwaits, hcreated⟩ := hsame
  refine h.put id (fun _ _ => by rw [hsessions]) (fun _ _ => by rw [hpending]) (h.tracked.of_eq hpending hwaits)
    (Nat.le_of_eq hcreated.symm) (.inr ⟨hfresh, started_runUploadPipeline s id⟩) (fun _ => hcreated.symm ▸ hlt) ?_ ?_
    fun _ => hcreated.symm ▸ hlt
  · rw [hpending, hsessions]
    exact h.pending id
  · intro session hget hwaiting
    exact absurd hwaiting (hnot session (hsessions ▸ hget))

theorem Kept.stopWait_of_none (h : s.Kept) (hnone : s.sessions id = none) : (s.stopWait id).Kept := by
  refine h.put id (fun _ _ => by rw [sessions_stopWait]) (fun other hid => ?_) (h.tracked.stopWait id) ?_ (.inl ?_) ?_ ?_ ?_ ?_
  · simp [Function.update_of_ne hid]
  · simp
  · simp [started]
  · simp [hnone]
  · simp [hnone]
  · simp [hnone]
  · simpa [started] using h.known id

theorem Kept.onMergedDevicesUpdate (h : s.Kept) {merged : List MergedDevice} : (s.onMergedDevicesUpdate id merged).Kept := by
  unfold SendNotifier.onMergedDevicesUpdate
  split
  · next hnone => exact h.stopWait_of_none hnone
  · next session hget =>
    split_ifs with hstatus
    · split
      · exact h
      · split
        · exact h
        · have hwaiting : session.status ∈ waitingStatuses := hstatus ▸ by decide
          refine (h.leave fun _ _ => ⟨by simp, fun hmem => absurd hmem (by simp [waitingStatuses])⟩).runUploadPipeline ?_ ?_ ?_
          · simpa [SendNotifier.updateSession] using h.lt_created hget
          · simpa [SendNotifier.updateSession, started] using (h.waiting id session hget hwaiting).2
          · intro after hafter
            simp only [sessions_updateSession_self, sessions_stopWait, hget, Option.map_some, Option.some.injEq] at hafter
            subst hafter
            simp [waitingStatuses]
    · exact h

/-- A wait begins for a session that has not been given to the pipeline. -/
theorem Kept.startWaitForOnline (h : s.Kept) {merged : List MergedDevice} {session : OpenSession}
    (hsessions : ∀ other, other ≠ id → t.sessions other = s.sessions other) (hwaits : t.waits = s.waits)
    (hpending : t.pendingWaits = s.pendingWaits) (hstarted : t.started = s.started) (hcreated : s.created ≤ t.created)
    (hget : t.sessions id = some session) (hlt : id < t.created) (hstatus : session.status = .waitingForDevice)
    (hstable : session.stableTargetId.isSome) (hfresh : id ∉ s.started) : (t.startWaitForOnline id merged).Kept := by
  have htracked : (t.stopWait id).Tracked := (h.tracked.of_eq hpending hwaits).stopWait id
  obtain ⟨stableId, hstableId⟩ := Option.isSome_iff_exists.mp hstable
  simp only [SendNotifier.startWaitForOnline, sessions_stopWait, hget, Option.bind_some, hstableId]
  refine Kept.onMergedDevicesUpdate ?_
  refine h.put id (fun other hid => ?_) (fun other hid => ?_) (htracked.wait (by simp) rfl rfl) ?_ (.inl ?_) (fun _ => ?_) ?_
    (fun after hafter _ => ?_) (fun _ => ?_)
  · simpa using hsessions other hid
  · simp [Function.update_of_ne hid, hpending]
  · simpa using hcreated
  · simpa [started] using hstarted
  · simpa using hlt
  · simp [hget, hstatus]
  · simp only [hget, Option.some.injEq] at hafter
    subst hafter
    have hsame : (t.stopWait id).started = s.started := by simpa [started] using hstarted
    exact ⟨hstable, hsame ▸ hfresh⟩
  · simpa using hlt

theorem Kept.startSession (h : s.Kept) {hasHttpEndpoint : Bool} {files : List String} {background : Bool}
    {stableTargetId : Option String} {merged : List MergedDevice} :
    (s.startSession hasHttpEndpoint files background stableTargetId merged).Kept := by
  have hfresh : s.created ∉ s.started := fun hmem => Nat.lt_irrefl _ (h.known _ hmem)
  have hnone : s.pendingWaits s.created = none := by
    rw [← Option.not_isSome_iff_eq_none, h.pending, h.created s.created (Nat.le_refl _)]
    simp
  have hplain : ∀ session : OpenSession, session.status ∉ waitingStatuses →
      Kept {s with created := s.created + 1, sessions := Function.update s.sessions s.created (some session)} := by
    intro session hstatus
    refine h.put s.created (fun other hid => Function.update_of_ne hid _ _) (fun _ _ => rfl) (h.tracked.of_eq rfl rfl)
      (Nat.le_succ _) (.inl rfl) (fun _ => Nat.lt_succ_self _) ?_ ?_ (fun _ => Nat.lt_succ_self _)
    · simp only [hnone, Function.update_self, Option.some.injEq, exists_eq_left']
      exact iff_of_false (by simp) fun hwaits => hstatus (hwaits ▸ by decide)
    · intro after hafter hwaiting
      simp only [Function.update_self, Option.some.injEq] at hafter
      exact absurd hwaiting (hafter ▸ hstatus)
  unfold SendNotifier.startSession
  simp only
  split_ifs with hendpoint hstable
  · refine (hplain _ (by simp [waitingStatuses])).runUploadPipeline (Nat.lt_succ_self _) hfresh fun session hget => ?_
    simp only [Function.update_self, Option.some.injEq] at hget
    subst hget
    simp [waitingStatuses]
  · -- the session is never seen waiting
    have hsame := hplain ⟨⟨none, background, .finishedWithErrors, files.map fun fileId => (fileId, {})⟩, hasHttpEndpoint,
      stableTargetId, none⟩ (by simp [waitingStatuses])
    refine hsame.of_eq ?_ rfl rfl rfl rfl
    simp [setStatus, SendNotifier.updateSession]
  · have hsome : stableTargetId.isSome := by
      rw [Option.isSome_iff_ne_none]
      exact fun hnone => hstable (.inl hnone)
    exact h.startWaitForOnline (fun other hid => Function.update_of_ne hid _ _) rfl rfl rfl (Nat.le_succ _)
      (Function.update_self _ _ _) (Nat.lt_succ_self _) rfl hsome hfresh

/-! ### One step -/

theorem Kept.setStatus (h : s.Kept) {status : SessionStatus}
    (hbefore : ∀ session, s.sessions id = some session → session.status ∉ waitingStatuses)
    (hafter : status ∉ waitingStatuses) : (s.setStatus id status).Kept :=
  h.updateSession fun session hget => .inr ⟨hbefore session hget, hafter⟩

theorem Kept.withFileStatus (h : s.Kept) {fileId : String} {status : FileStatus} : (s.withFileStatus id fileId status).Kept :=
  h.updateSession fun _ _ => .inl ⟨rfl, rfl⟩

/-- A session that has been given to the pipeline does not wait for its device. -/
theorem Kept.not_waiting (h : s.Kept) (hstarted : id ∈ s.started) (session : OpenSession)
    (hget : s.sessions id = some session) : session.status ∉ waitingStatuses :=
  fun hwaiting => (h.waiting id session hget hwaiting).2 hstarted

theorem Kept.finish (h : s.Kept) : (s.finish id).Kept := by
  unfold SendNotifier.finish
  split
  · exact h
  · next session hget =>
    have hbefore : session.status = .sending → ∀ other, s.sessions id = some other → other.status ∉ waitingStatuses := by
      intro hstatus other hother
      obtain rfl := Option.some.inj (hget.symm.trans hother)
      simp [hstatus, waitingStatuses]
    simp only
    split_ifs with hstatus
    · exact h.closeSession id
    · exact h.setStatus (hbefore hstatus) (by decide)
    · exact h.setStatus (hbefore hstatus) (by decide)
    · exact h

theorem Kept.sendFile (h : s.Kept) {fileId : String} {file : SendingFile} {pipeline : Option Nat} :
    (s.sendFile id fileId file pipeline).Kept := by
  unfold SendNotifier.sendFile
  split
  · next session htoken hget =>
    simp only
    split_ifs with hstatus
    · have hbefore : ∀ other, s.sessions id = some other → other.status ∉ waitingStatuses := by
        intro other hother
        obtain rfl := Option.some.inj (hget.symm.trans hother)
        intro hwaiting
        simp only [allowedStates, waitingStatuses, List.mem_cons, List.not_mem_nil, or_false] at hstatus hwaiting
        rcases hstatus with hs | hs <;> simp [hs] at hwaiting
      exact ((h.setStatus hbefore (by decide)).withFileStatus.withFileStatus).of_eq rfl rfl rfl rfl rfl
    · exact h.withFileStatus.of_eq rfl rfl rfl rfl rfl
    · exact h
  · exact h

theorem Kept.fileSent (h : s.Kept) {upload : FileUpload} {success : Bool} : (s.fileSent upload success).Kept := by
  simp only [SendNotifier.fileSent]
  generalize (if success then FileStatus.finished else .failed) = status
  split
  · split_ifs
    · exact h.withFileStatus.finish
    · exact h.withFileStatus
  · exact h.withFileStatus

theorem Kept.onPrepared (h : s.Kept) {p : Nat} {pipeline : UploadPipeline} {answer : PrepareAnswer} {now : Nat}
    (hget : s.pipelines[p]? = some pipeline) : (s.onPrepared p pipeline answer now).Kept := by
  have hbefore : ∀ {s : SendNotifier}, s.Kept → s.pipelines[p]? = some pipeline →
      ∀ session, s.sessions pipeline.sessionId = some session → session.status ∉ waitingStatuses :=
    fun h hget => h.not_waiting (List.mem_map_of_mem (List.mem_of_getElem? hget))
  have hend : ∀ {status : SessionStatus} {phase : PipelinePhase}, status ∉ waitingStatuses →
      ((s.setStatus pipeline.sessionId status).setPhase p pipeline phase).Kept := by
    intro status phase hafter
    exact (h.setStatus (hbefore h hget) hafter).setPhase hget phase
  have hclosed : ∀ {s : SendNotifier}, s.Kept → s.pipelines[p]? = some pipeline →
      (((s.setStatus pipeline.sessionId .finished).closeSession pipeline.sessionId).setPhase p pipeline .ended).Kept := by
    intro s h hget
    refine ((h.setStatus (hbefore h hget) (by decide)).closeSession _).setPhase ?_ .ended
    simpa [SendNotifier.closeSession, SendNotifier.setStatus, SendNotifier.updateSession] using hget
  unfold SendNotifier.onPrepared
  simp only
  split
  · next remoteSessionId fileMap =>
    have hremote : (s.updateSession pipeline.sessionId fun session =>
        {session with remoteSessionId := some remoteSessionId}).Kept := h.updateSession fun _ _ => .inl ⟨rfl, rfl⟩
    split_ifs
    · exact hclosed hremote hget
    · refine Kept.setPhase (hremote.updateSession fun session hsession => .inr ⟨?_, by simp [waitingStatuses]⟩) hget _
      exact hbefore hremote hget session hsession
  · exact hclosed h hget
  all_goals first | exact hend (by decide) | exact h.setPhase hget _

theorem Kept.clearAllSessions (h : s.Kept) : s.clearAllSessions.Kept := by
  refine ⟨⟨fun _ _ hpending => (Option.some_ne_none _ hpending.symm).elim, fun w wait hget => ?_⟩, fun id => ?_,
    fun _ _ hget => (Option.some_ne_none _ hget.symm).elim, fun _ _ => rfl,
    h.known, h.nodup⟩
  · simp only [SendNotifier.clearAllSessions, List.getElem?_mapIdx] at hget
    obtain ⟨before, hbefore, rfl⟩ := Option.map_eq_some_iff.mp hget
    have hactive := h.tracked.active w before hbefore
    split_ifs with hknown
    · simp [SendNotifier.clearAllSessions, Wait.stopped]
    · simpa [SendNotifier.clearAllSessions, hknown] using hactive
  · simp [SendNotifier.clearAllSessions]

/-- To stop the wait of a timer that has fired is to stop the wait. -/
theorem stopWait_of_timer {w : Nat} {subscription : Bool} (hwait : s.waits[w]? = some ⟨id, subscription, true⟩)
    (hpending : s.pendingWaits id = some w) :
    stopWait {s with waits := s.waits.set w ⟨id, subscription, false⟩} id = s.stopWait id := by
  have hwaits : (s.waits.set w ⟨id, subscription, false⟩).modify w Wait.stopped = s.waits.modify w Wait.stopped := by
    refine List.ext_getElem? fun i => ?_
    by_cases hi : w = i
    · subst hi
      have hlt := (List.getElem?_eq_some_iff.mp hwait).1
      rw [List.getElem?_modify_eq, List.getElem?_modify_eq, List.getElem?_set_self hlt, hwait]
      rfl
    · rw [List.getElem?_modify_ne _ _ hi, List.getElem?_modify_ne _ _ hi, List.getElem?_set_ne hi]
  simp only [stopWait, hpending, hwaits]

theorem Kept.step {e : NotifierEvent} (h : s.Kept) (hst : s.step e = some t) : t.Kept := by
  -- a timer that is active is that of a wait the notifier knows, and the session waits
  have htimer : ∀ {w id : Nat} {subscription : Bool}, s.waits[w]? = some ⟨id, subscription, true⟩ →
      s.pendingWaits id = some w := fun hwait => (h.tracked.active _ _ hwait).2.mp rfl
  cases moves_of_step hst with
  | stays => exact h
  | starts => exact h.startSession
  | updates => exact h.onMergedDevicesUpdate
  | timesOut hwait hget hstatus =>
    rw [stopWait_of_timer hwait (htimer hwait)]
    refine h.leave fun before hbefore => ⟨by simp, fun _ => ?_⟩
    obtain rfl := Option.some.inj (hget.symm.trans hbefore)
    exact ⟨hstatus ▸ by decide, rfl⟩
  | @timesOutLate w id subscription hwait hnot =>
    obtain ⟨session, hget, hstatus⟩ := (h.pending id).mp (by simp [htimer hwait])
    exact absurd hstatus (hnot session hget)
  | @waitsAgain id merged session hget hwaiting =>
    obtain ⟨hstable, hfresh⟩ := h.waiting id session hget hwaiting
    have hthen : (s.setStatus id .waitingForDevice).sessions id = some {session with status := .waitingForDevice} := by
      rw [SendNotifier.setStatus, sessions_updateSession_self, hget]
      rfl
    exact h.startWaitForOnline (fun other hid => sessions_updateSession_of_ne _ hid) rfl rfl rfl (Nat.le_refl _) hthen
      (h.lt_created hget) rfl hstable hfresh
  | stopsWait hnone => exact h.stopWait_of_none hnone
  | closes => exact h.closeSession _
  | canceledByReceiver hget hsending =>
    refine h.setStatus (fun other hother => ?_) (by decide)
    obtain rfl := Option.some.inj (hget.symm.trans hother)
    simp [hsending, waitingStatuses]
  | clears => exact h.clearAllSessions
  | setsBackground => exact h.updateSession fun _ _ => .inl ⟨rfl, rfl⟩
  | prepared hget => exact h.onPrepared hget
  | pinEntered hget => exact h.setPhase hget _
  | pinRefused hget =>
    refine (h.setStatus (h.not_waiting ?_) (by decide)).setPhase hget _
    exact List.mem_map_of_mem (List.mem_of_getElem? hget)
  | takesFile hget =>
    refine Kept.sendFile ?_
    exact h.setPhase hget _
  | uploadEnds =>
    refine Kept.fileSent ?_
    exact h.of_eq rfl rfl rfl rfl rfl
  | loopEnds hget => exact (h.setPhase hget _).finish
  | retriesFile => exact h.sendFile

theorem kept_init : sendNotifier.init.Kept := by
  refine ⟨⟨fun _ _ hpending => (Option.some_ne_none _ hpending.symm).elim, fun _ _ hget => ?_⟩, fun id => ?_,
    fun _ _ hget => (Option.some_ne_none _ hget.symm).elim, fun _ _ => rfl, fun _ hmem => ?_, List.nodup_nil⟩
  · cases hget
  · exact iff_of_false (by simp [sendNotifier]) (by simp [sendNotifier])
  · cases hmem

/-! ### All runs -/

/-- A session id that was given out has no session, and no run gives it one again. -/
theorem gone_run {events : List NotifierEvent} (hlt : id < s.created) (hgone : s.sessions id = none)
    (hrun : sendNotifier.run s events = some t) : t.sessions id = none := by
  have hstep : ∀ s e t, id < SendNotifier.created s ∧ s.sessions id = none → sendNotifier.step s e = some t →
      id < t.created ∧ t.sessions id = none := by
    intro s e t ⟨hlt, hgone⟩ hst
    by_cases he : ∀ hasHttpEndpoint files background stableTargetId merged,
        e ≠ .startSession hasHttpEndpoint files background stableTargetId merged
    · have hnew := noNew_step hst he
      exact ⟨hnew.created.symm ▸ hlt, hnew.sessions id hgone⟩
    · push Not at he
      obtain ⟨hasHttpEndpoint, files, background, stableTargetId, merged, rfl⟩ := he
      obtain rfl := Option.some.inj hst
      exact startSession_of_lt hlt hgone
  exact (Transition.System.run_invariant hstep ⟨hlt, hgone⟩ hrun).2

/-- The bookkeeping at the end of a turn. -/
structure Bookkept (s : SendNotifier) : Prop where
  /-- A session has a wait exactly when it waits for its device, -/
  pending : ∀ id, (s.pendingWaits id).isSome ↔
    ∃ session, s.sessions id = some session ∧ session.status = .waitingForDevice
  /-- with a subscription and a timer that are active, and there are no others. -/
  active : ∀ id w, s.pendingWaits id = some w ↔
    ∃ wait, s.waits[w]? = some wait ∧ wait.sessionId = id ∧ (wait.subscription || wait.timeoutTimer) = true
  both : ∀ wait ∈ s.waits, wait.subscription = wait.timeoutTimer
  started : s.started.Nodup
  closed : ∀ id, id < s.created → s.sessions id = none →
    ∀ events t, sendNotifier.run s events = some t → t.sessions id = none

theorem Kept.bookkept (h : s.Kept) : s.Bookkept where
  pending := h.pending
  active id w := by
    constructor
    · intro hpending
      obtain ⟨wait, hget, hown⟩ := Option.map_eq_some_iff.mp (h.tracked.known id w hpending)
      refine ⟨wait, hget, hown, ?_⟩
      rw [(h.tracked.active w wait hget).1.mpr (hown ▸ hpending), Bool.true_or]
    · rintro ⟨wait, hget, rfl, hactive⟩
      rcases Bool.or_eq_true_iff.mp hactive with hsubscription | htimer
      · exact (h.tracked.active w wait hget).1.mp hsubscription
      · exact (h.tracked.active w wait hget).2.mp htimer
  both wait hmem := by
    obtain ⟨w, hget⟩ := List.getElem?_of_mem hmem
    obtain ⟨hsubscription, htimer⟩ := h.tracked.active w wait hget
    exact Bool.eq_iff_iff.mpr (hsubscription.trans htimer.symm)
  started := h.nodup
  closed _ hlt hgone _ _ hrun := gone_run hlt hgone hrun

end SendNotifier

/-- **The waits are bookkept.** Along every run, waits are pending for the sessions that
wait for their device and for no others, no session is given to the pipeline twice, and a
closed session does not come back. -/
theorem waits_bookkept (events : List NotifierEvent) :
    sendNotifier.Along SendNotifier.Bookkept sendNotifier.init events :=
  Transition.System.along_of_invariant (fun _ _ _ h hst => h.step hst) (fun _ h => h.bookkept) SendNotifier.kept_init

end MagicShare.Send
