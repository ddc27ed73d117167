import MagicShare.Receive.Session

/-! A send session (`send_provider.dart`) and the receive server of its target.

The notifier keeps the session under its id; the pipeline asks for the upload, waits for
the answer, and then sends the files, and whatever it writes it writes to the session
that is there by then, if one is. Requests travel to the receive server, which turns each
into a handler of its own, and the answers of these travel back. -/
namespace MagicShare.Send
open Receive

/-! ### Data -/

structure SendingFile where
  status : FileStatus := .queue
  token : Option Token := none
  deriving DecidableEq

structure SendSessionState where
  remoteSessionId : Option Nat := none
  background : Bool
  status : SessionStatus := .waiting
  files : List (String × SendingFile)
  deriving DecidableEq

/-- How far `_runUploadPipeline` is. -/
inductive Pipeline where
  | idle
  /-- The upload was asked for; `handler` is the one the request has become. -/
  | preparing (pin : Option String) (handler : Option Nat)
  | askingPin
  /-- The files are sent; `queue` are those no isolate has taken yet. -/
  | sendLoop (queue : List (String × SendingFile))
  | ended
  deriving DecidableEq

/-- A file that is being sent; `handler` is the one the request has become. -/
structure SendingTask where
  fileId : String
  request : UploadRequest
  isRetry : Bool
  handler : Option Nat := none
  deriving DecidableEq

/-- Both devices and what is on its way between them. -/
structure Transfer where
  /-- The session, as long as the notifier has it. -/
  session : Option SendSessionState := none
  pipeline : Pipeline := .idle
  /-- The files of the session when the pipeline began. -/
  files : List FileDto := []
  sendingTasks : List SendingTask := []
  /-- The cancel requests to the receiver, and those to the sender. -/
  cancels : List Nat := []
  receiverCancels : List Nat := []
  receiver : ReceiveServer := {}
  /-- The session was canceled by the user, and the remote session id was this. -/
  canceled : Option (Option Nat) := none
  deriving DecidableEq

structure SendConfig where
  /-- The address the receiver sees. -/
  ip : String
  uploadIsolateCount : Nat := 1
  receive : ReceiveConfig := {}

/-! ### The notifier -/

def SendSessionState.withFileStatus (session : SendSessionState) (fileId : String) (status : FileStatus) :
    SendSessionState :=
  {session with files := session.files.map fun (id, file) => (id, if id = fileId then {file with status} else file)}

namespace Transfer

/-- `updateSession`: there is no change where there is no session. -/
def updateSession (s : Transfer) (update : SendSessionState → SendSessionState) : Transfer :=
  {s with session := s.session.map update}

def setStatus (s : Transfer) (status : SessionStatus) : Transfer :=
  s.updateSession fun session => {session with status}

def closeSession (s : Transfer) : Transfer := {s with session := none}

/-- The body of the prepare-upload request. -/
def requestDto (s : Transfer) : PrepareUploadRequestDto := {files := s.files}

/-- `sendFile`, up to the request. -/
def sendFile (s : Transfer) (config : SendConfig) (fileId : String) (file : SendingFile) (isRetry : Bool) : Transfer :=
  match file.token, s.session with
  | some token, some session =>
    if session.status ∈ allowedStates then
      let session := if isRetry then {session with status := .sending} else session
      {s with
        session := some (session.withFileStatus fileId .sending)
        sendingTasks := s.sendingTasks ++
          [⟨fileId, ⟨true, config.ip, some fileId, some token, session.remoteSessionId⟩, isRetry, none⟩]}
    else s
  | _, _ => s

/-- `_finish`. -/
def finish (s : Transfer) : Transfer :=
  match s.session with
  | none => s
  | some session =>
    if session.status = .sending then
      let hasError := session.files.any fun (_, file) => file.status = .failed
      if !hasError && session.background then s.closeSession
      else s.setStatus (if hasError then .finishedWithErrors else .finished)
    else s

/-- `sendFile` from the answer on, or from the error. -/
def fileSent (s : Transfer) (task : SendingTask) (success : Bool) : Transfer :=
  let s := s.updateSession fun session =>
    session.withFileStatus task.fileId (if success then .finished else .failed)
  match s.session with
  | some session =>
    if task.isRetry && session.files.all (fun (_, file) => file.status ∈ [.skipped, .failed, .finished]) then s.finish
    else s
  | none => s

/-- The files with their tokens, and those that are not to be sent. -/
def sendingFiles (s : Transfer) (fileMap : List (String × Token)) : List (String × SendingFile) :=
  s.files.map fun file => (file.id, match fileMap.lookup file.id with
    | some token => {token := some token}
    | none => {status := .skipped})

/-- `_runUploadPipeline` from the answer on. -/
def onPrepared (s : Transfer) (response : Response) : Transfer :=
  match response.code, response.grant with
  | 200, some grant =>
    let s := s.updateSession fun session => {session with remoteSessionId := some grant.sessionId}
    if grant.files.isEmpty then {(s.setStatus .finished).closeSession with pipeline := .ended}
    else
      let files := s.sendingFiles grant.files
      {s.updateSession fun session => {session with status := .sending, files} with pipeline := .sendLoop files}
  | 204, _ => {(s.setStatus .finished).closeSession with pipeline := .ended}
  | 401, _ => {s with pipeline := .askingPin}
  | 403, _ => {s.setStatus .declined with pipeline := .ended}
  | 409, _ => {s.setStatus .recipientBusy with pipeline := .ended}
  | 429, _ => {s.setStatus .tooManyAttempts with pipeline := .ended}
  | _, _ => {s.setStatus .finishedWithErrors with pipeline := .ended}

/-- `cancelSession`: the receiver is told, where its session id is known. -/
def cancelSession (s : Transfer) : Transfer :=
  match s.session with
  | none => s
  | some session =>
    match session.remoteSessionId with
    | none => {s.closeSession with canceled := some none}
    | some remote => {s.closeSession with cancels := s.cancels ++ [remote], canceled := some (some remote)}

/-- `_cancelHandler` of the sender, which is not receiving, and `cancelSessionByReceiver`. -/
def cancelByReceiver (s : Transfer) (sessionId : Nat) : Transfer :=
  match s.session with
  | none => s
  | some session =>
    if session.remoteSessionId = some sessionId ∧ session.status = .sending then s.setStatus .canceledByReceiver else s

/-- The tasks of the isolates of the pipeline. -/
def loopTasks (s : Transfer) : List SendingTask := s.sendingTasks.filter fun task => !task.isRetry

end Transfer

/-! ### The transfer -/

inductive SendEvent where
  | startSession (background : Bool) (files : List FileDto)
  | prepareArrives
  | prepareAnswered
  /-- The dialog for the pin is closed, with a pin or without. -/
  | enterPin (pin : Option String)
  | takeFile
  | uploadArrives (i : Nat)
  | uploadAnswered (i : Nat)
  /-- The request ends because it was canceled. -/
  | uploadAborted (i : Nat)
  | loopEnds
  | retryFile (fileId : String)
  | cancelSession
  | closeSession
  | cancelArrives (i : Nat)
  | receiverCancelArrives (i : Nat)
  /-- A handler of the receiver goes on, or its user does something. -/
  | receiver (e : ReceiveEvent)

namespace Transfer

/-- What happens on the receiver alone. The body that is read is the one that was sent. -/
def isLocal (s : Transfer) : ReceiveEvent → Bool
  | .prepareUpload _ _ | .cancel _ _ _ | .upload _ => false
  | .bodyRead _ dto => dto = some s.requestDto
  | _ => true

/-- A request reaches the receiver, or something happens on it. -/
def receive (s : Transfer) (config : SendConfig) (e : ReceiveEvent) : Option Transfer :=
  (s.receiver.step config.receive e).map fun receiver => {s with receiver}

def step (config : SendConfig) (s : Transfer) : SendEvent → Option Transfer
  | .startSession background files =>
    if s.pipeline = .idle then
      some {s with
        session := some {background, files := files.map fun file => (file.id, {})}
        files
        pipeline := .preparing none none}
    else none
  | .prepareArrives =>
    match s.pipeline with
    | .preparing pin none =>
      {s with pipeline := .preparing pin (some s.receiver.prepares.length)}.receive config (.prepareUpload config.ip pin)
    | _ => none
  | .prepareAnswered =>
    match s.pipeline with
    | .preparing _ (some h) =>
      match s.receiver.prepares[h]? with
      | some ⟨_, _, .answered response _⟩ => some (s.onPrepared response)
      | _ => none
    | _ => none
  | .enterPin pin =>
    match s.pipeline, pin with
    | .askingPin, some pin => some {s with pipeline := .preparing (some pin) none}
    | .askingPin, none => some {s.setStatus .canceledBySender with pipeline := .ended, canceled := some none}
    | _, _ => none
  | .takeFile =>
    match s.pipeline with
    | .sendLoop ((fileId, file) :: queue) =>
      if s.loopTasks.length < config.uploadIsolateCount then
        some ({s with pipeline := .sendLoop queue}.sendFile config fileId file false)
      else none
    | _ => none
  | .uploadArrives i =>
    match s.sendingTasks[i]? with
    | some ⟨fileId, request, isRetry, none⟩ =>
      {s with sendingTasks := s.sendingTasks.set i ⟨fileId, request, isRetry, some s.receiver.uploads.length⟩}.receive config
        (.upload request)
    | _ => none
  | .uploadAnswered i =>
    match s.sendingTasks[i]? with
    | some ⟨fileId, request, isRetry, some u⟩ =>
      match s.receiver.uploads[u]? with
      | some ⟨_, _, .answered code⟩ =>
        some ({s with sendingTasks := s.sendingTasks.eraseIdx i}.fileSent ⟨fileId, request, isRetry, some u⟩ (code = 200))
      | _ => none
    | _ => none
  | .uploadAborted i =>
    match s.sendingTasks[i]? with
    | some task =>
      if s.canceled.isSome || s.session.any (·.status = .canceledByReceiver) then
        some ({s with sendingTasks := s.sendingTasks.eraseIdx i}.fileSent task false)
      else none
    | none => none
  | .loopEnds =>
    if s.pipeline = .sendLoop [] ∧ s.loopTasks = [] then some {s.finish with pipeline := .ended} else none
  | .retryFile fileId =>
    match s.session.bind fun session => session.files.lookup fileId with
    | some file => some (s.sendFile config fileId file true)
    | none => none
  | .cancelSession => some s.cancelSession
  | .closeSession => some s.closeSession
  | .cancelArrives i =>
    match s.cancels[i]? with
    | some remote => {s with cancels := s.cancels.eraseIdx i}.receive config (.cancel true config.ip (some remote))
    | none => none
  | .receiverCancelArrives i =>
    match s.receiverCancels[i]? with
    | some sessionId => some ({s with receiverCancels := s.receiverCancels.eraseIdx i}.cancelByReceiver sessionId)
    | none => none
  | .receiver e =>
    if s.isLocal e then
      let s := match e, s.receiver.session with
        | .cancelSession, some session => {s with receiverCancels := s.receiverCancels ++ [session.sessionId]}
        | _, _ => s
      s.receive config e
    else none

end Transfer

/-- One sender and its target. -/
def transfer (config : SendConfig) : Transition.System Transfer SendEvent where
  init := {}
  step := Transfer.step config

end MagicShare.Send
