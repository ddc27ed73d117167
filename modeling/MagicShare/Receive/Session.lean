import Mathlib.Data.List.Dedup
import MagicShare.Base.Transition

/-! The receive server (`receive_controller.dart`): one slot for a session, and any
number of requests that read and write it.

A handler runs without interruption up to its next await; an event is one such stretch
of one handler, or something the user does. What a handler has to say about its
session it says about the one that is in the slot when it goes on. -/
namespace MagicShare.Receive

/-! ### Data -/

inductive SessionStatus where
  | waiting | waitingForDevice | waitingForDeviceTimedOut | recipientBusy | declined | tooManyAttempts
  | sending | finished | finishedWithErrors | canceledBySender | canceledByReceiver
  deriving DecidableEq

inductive FileStatus where
  | queue | skipped | sending | failed | finished
  deriving DecidableEq

/-- A v4 uuid: a fresh number, and for which file it is. -/
abbrev Token := Nat × String

structure ReceivingFile where
  status : FileStatus := .queue
  token : Option Token := none
  desiredName : Option String := none
  deriving DecidableEq

structure ReceiveSession where
  sessionId : Nat
  status : SessionStatus
  senderIp : String
  senderVersion : String
  /-- The request is a message: a single text with a preview. -/
  message : Bool
  files : List (String × ReceivingFile)
  /-- The request whose stream controller it is. -/
  responseHandler : Option Nat
  deriving DecidableEq

structure FileDto where
  id : String
  fileName : String
  /-- The preview of a text, and whether it parses as a web address. -/
  preview : Option Bool := none
  deriving DecidableEq

structure PrepareUploadRequestDto where
  selfFingerprint : Bool := false
  version : String := "2.1"
  files : List FileDto
  deriving DecidableEq

/-- The file ids of the session: the keys of a map. -/
def PrepareUploadRequestDto.fileIds (dto : PrepareUploadRequestDto) : List String :=
  (dto.files.map FileDto.id).dedup

/-- The preview of the single text, if the request is a message. -/
def PrepareUploadRequestDto.message (dto : PrepareUploadRequestDto) : Option Bool :=
  if dto.fileIds.length = 1 then (dto.files.getLast?).bind FileDto.preview else none

/-- The user's decision: nothing, or the files with the names they are to get. -/
abbrev Selection := Option (List (String × String))

/-- The body of an answer 200, with the session in which its tokens were set and the
selection they were set for. -/
structure Grant where
  sessionId : Nat
  files : List (String × Token)
  session : ReceiveSession
  selected : List (String × String)
  deriving DecidableEq

structure Response where
  code : Nat
  message : String := ""
  grant : Option Grant := none
  deriving DecidableEq

inductive PreparePhase where
  | readingBody
  | resolvingDirectories (dto : PrepareUploadRequestDto)
  /-- The history entry of an opened link is awaited. -/
  | openingLink
  /-- The stream is awaited; `decision` is what has been put on it. -/
  | deciding (decision : Option Selection)
  | askingPermission (grant : Grant)
  /-- `found` is the session in the slot when the handler went on. -/
  | answered (response : Response) (found : Option Nat)
  deriving DecidableEq

/-- A prepare-upload request. -/
structure Prepare where
  ip : String
  /-- The id of the session it has installed. -/
  sessionId : Option Nat := none
  phase : PreparePhase
  deriving DecidableEq

inductive UploadPhase where
  | saving
  /-- The file is saved and finished; its history entry is awaited. -/
  | recording
  | answered (code : Nat)
  /-- An exception left the handler. -/
  | unhandled
  deriving DecidableEq

/-- An upload request, with the session it was accepted for. -/
structure Upload where
  sessionId : Option Nat
  fileId : String
  phase : UploadPhase
  deriving DecidableEq

/-- A write of the status field: the session before it, what is written, and the file
whose upload writes it as it begins. -/
structure StatusChange where
  session : ReceiveSession
  after : SessionStatus
  upload : Option String := none
  deriving DecidableEq

/-- A change of the session in the slot by an upload for `own`. -/
structure Touch where
  own : Option Nat
  touched : Nat
  deriving DecidableEq

structure ReceiveServer where
  session : Option ReceiveSession := none
  pinAttempts : List (String × Nat) := []
  prepares : List Prepare := []
  uploads : List Upload := []
  /-- The delayed closes on their way, by the session of their upload. -/
  delayedCloses : List (Option Nat) := []
  nextId : Nat := 0
  /-- What each installed session found in the slot. -/
  installs : List (Option Nat) := []
  changes : List StatusChange := []
  touches : List Touch := []
  deriving DecidableEq

/-- What the device is and how it is set. -/
structure ReceiveConfig where
  receivePin : Option String := none
  /-- Android or iOS, which ask for permission. -/
  mobile : Bool := false

/-! ### Parts of the handlers -/

/-- `checkPin`: the refusal, if there is one, and the attempts of the address then. -/
def checkPin (pin : Option String) (attempts : Nat) (requestPin : Option String) : Option Response × Nat :=
  match pin with
  | none => (none, attempts)
  | some pin =>
    if 3 ≤ attempts then (some ⟨429, "Too many attempts.", none⟩, attempts)
    else if requestPin = some pin then (none, attempts)
    else if requestPin.all (· = "") then (some ⟨401, "Invalid pin.", none⟩, attempts)
    else if attempts = 2 then (some ⟨429, "Too many attempts.", none⟩, attempts + 1)
    else (some ⟨401, "Invalid pin.", none⟩, attempts + 1)

/-- `fileFinished`; `none` where the map has no such file and the update throws. -/
def ReceiveSession.fileFinished (session : ReceiveSession) (fileId : String) (status : FileStatus) :
    Option ReceiveSession :=
  if (session.files.lookup fileId).isSome then
    some {session with files := session.files.map fun (id, file) =>
      (id, if id = fileId then {file with status} else file)}
  else none

/-- The statuses in which files are taken. -/
def allowedStates : List SessionStatus := [.sending, .finishedWithErrors]

/-- `isFinishedOrError` of the files. -/
def ReceiveSession.isFinishedOrError (session : ReceiveSession) : Bool :=
  session.files.all fun (_, file) => file.status ∈ [.skipped, .failed, .finished]

def ReceiveSession.hasError (session : ReceiveSession) : Bool :=
  session.files.any fun (_, file) => file.status = .failed

/-- The files that have a token. -/
def ReceiveSession.tokens (session : ReceiveSession) : List (String × Token) :=
  session.files.filterMap fun (id, file) => file.token.map (id, ·)

/-- A file once the user has decided: under the name it was selected with, or skipped. -/
def decidedFile (fresh : Nat) (id : String) : Option String → ReceivingFile
  | some desiredName => {status := .queue, token := some (fresh, id), desiredName := some desiredName}
  | none => {status := .skipped}

/-- The session once the user has selected files: each gets a token. -/
def ReceiveSession.accepted (session : ReceiveSession) (fresh : Nat) (selected : List (String × String)) :
    ReceiveSession :=
  {session with
    status := .sending
    files := session.files.map fun (id, _) => (id, decidedFile fresh id (selected.lookup id))
    responseHandler := none}

/-- What a request is granted under the id `own` in a session that accepts files. -/
def ReceiveSession.grant (session : ReceiveSession) (own fresh : Nat) (selected : List (String × String)) : Grant where
  sessionId := own
  files := (session.accepted fresh selected).tokens
  session := session.accepted fresh selected
  selected := selected

namespace ReceiveServer

/-- The session in the slot. -/
def sessionId (s : ReceiveServer) : Option Nat := s.session.map ReceiveSession.sessionId

def answer (s : ReceiveServer) (h : Nat) (p : Prepare) (found : Option Nat) (response : Response) : ReceiveServer :=
  {s with prepares := s.prepares.set h {p with phase := .answered response found}}

def setPrepare (s : ReceiveServer) (h : Nat) (p : Prepare) (phase : PreparePhase) : ReceiveServer :=
  {s with prepares := s.prepares.set h {p with phase}}

def setUpload (s : ReceiveServer) (u : Nat) (upload : Upload) (phase : UploadPhase) : ReceiveServer :=
  {s with uploads := s.uploads.set u {upload with phase}}

/-- `closeSession`. -/
def closeSession (s : ReceiveServer) : ReceiveServer := {s with session := none}

/-- The status of the session in the slot. -/
def setStatus (s : ReceiveServer) (session : ReceiveSession) (status : SessionStatus) : ReceiveServer :=
  {s with
    session := some {session with status}
    changes := s.changes ++ [⟨session, status, none⟩]}

/-- The session a request installs. -/
def install (s : ReceiveServer) (h : Nat) (p : Prepare) (dto : PrepareUploadRequestDto) (phase : PreparePhase) :
    ReceiveServer :=
  {s with
    session := some {
      sessionId := s.nextId
      status := .waiting
      senderIp := p.ip
      senderVersion := dto.version
      message := dto.message.isSome
      files := dto.fileIds.map fun id => (id, {})
      responseHandler := some h}
    prepares := s.prepares.set h {p with sessionId := some s.nextId, phase}
    nextId := s.nextId + 1
    installs := s.installs ++ [s.sessionId]}

/-- The session in the slot takes the selected files. -/
def accept (s : ReceiveServer) (session : ReceiveSession) (selected : List (String × String)) : ReceiveServer :=
  {s with
    session := some (session.accepted s.nextId selected)
    nextId := s.nextId + 1
    changes := s.changes ++ [⟨session, .sending, none⟩]}

/-- The files are accepted, and the answer says so under the handler's own session id. -/
def grant (s : ReceiveServer) (config : ReceiveConfig) (h : Nat) (p : Prepare) (own : Nat) (session : ReceiveSession)
    (selected : List (String × String)) : ReceiveServer :=
  let granted := session.grant own s.nextId selected
  if config.mobile then (s.accept session selected).setPrepare h p (.askingPermission granted)
  else (s.accept session selected).answer h p s.sessionId ⟨200, "", some granted⟩

/-- `_prepareUploadHandler` from the decision on. -/
def onDecision (s : ReceiveServer) (config : ReceiveConfig) (h : Nat) (p : Prepare) (own : Nat) (selection : Selection) :
    ReceiveServer :=
  match s.session with
  | none => s.answer h p none ⟨500, "Server is in invalid state", none⟩
  | some session =>
    match selection with
    | none => s.closeSession.answer h p s.sessionId ⟨403, "File request declined by recipient", none⟩
    | some [] => s.closeSession.answer h p s.sessionId ⟨204, "", none⟩
    | some selected => s.grant config h p own session selected

/-- `_uploadHandler` from the progress of 1 on. -/
def concludeUpload (s : ReceiveServer) (u : Nat) (upload : Upload) (quickSave : Bool) : ReceiveServer :=
  match s.session with
  | none => s.setUpload u upload (.answered 500)
  | some session =>
    let code := if (session.files.lookup upload.fileId).map ReceivingFile.status = some .finished then 200 else 500
    if session.status ∈ allowedStates ∧ session.isFinishedOrError then
      {(s.setStatus session (if session.hasError then .finishedWithErrors else .finished)).setUpload u upload
          (.answered code) with
        touches := s.touches ++ [⟨upload.sessionId, session.sessionId⟩]
        delayedCloses := if quickSave && !session.message then s.delayedCloses ++ [upload.sessionId] else s.delayedCloses}
    else s.setUpload u upload (.answered code)

/-- The file of the upload in the session that is in the slot. -/
def finishFile (s : ReceiveServer) (upload : Upload) (session : ReceiveSession) : ReceiveServer :=
  {s with
    session := some session
    touches := s.touches ++ [⟨upload.sessionId, session.sessionId⟩]}

/-- The `catch` of `_uploadHandler`, and what follows. -/
def failUpload (s : ReceiveServer) (u : Nat) (upload : Upload) (quickSave : Bool) : ReceiveServer :=
  match s.session with
  | none => s.concludeUpload u upload quickSave
  | some session =>
    match session.fileFinished upload.fileId .failed with
    | none => s.setUpload u upload .unhandled
    | some session => (s.finishFile upload session).concludeUpload u upload quickSave

/-- `_uploadHandler` once the file is saved, up to the history entry. -/
def finishUpload (s : ReceiveServer) (u : Nat) (upload : Upload) (quickSave : Bool) : ReceiveServer :=
  match s.session with
  | none => s.setUpload u upload (.answered 500)
  | some session =>
    if session.status ∈ allowedStates then
      match session.fileFinished upload.fileId .finished with
      | none => s.failUpload u upload quickSave
      | some session => (s.finishFile upload session).setUpload u upload .recording
    else s.setUpload u upload (.answered 500)

end ReceiveServer

/-- An upload request. -/
structure UploadRequest where
  v2 : Bool := true
  ip : String
  fileId : Option String
  token : Option Token
  sessionId : Option Nat
  deriving DecidableEq

/-- The checks of `_uploadHandler`: the refusal, or the session and the file. -/
def checkUpload (s : Option ReceiveSession) (r : UploadRequest) : Except Nat (ReceiveSession × String) :=
  match s with
  | none => .error 409
  | some session =>
    if r.ip ≠ session.senderIp then .error 403
    else if session.status ∉ allowedStates then .error 409
    else
      match r.fileId, r.token with
      | some fileId, some token =>
        if r.v2 = true ∧ r.sessionId = none then .error 400
        else if r.v2 = true ∧ r.sessionId ≠ some session.sessionId then .error 403
        else if (session.files.lookup fileId).bind ReceivingFile.token = some token then .ok (session, fileId)
        else .error 403
      | _, _ => .error 400

/-- The checks of `_cancelHandler` for a session in the slot. -/
def cancelAllowed (session : ReceiveSession) (v2 : Bool) (ip : String) (sessionId : Option Nat) : Bool :=
  (v2 || session.senderVersion == "1.0") && session.senderIp == ip &&
    (!v2 || session.status == .waiting || sessionId == some session.sessionId) &&
    (session.status == .waiting || session.status == .sending)

/-! ### The server -/

inductive ReceiveEvent where
  | prepareUpload (ip : String) (pin : Option String)
  /-- The body is read; `none` where it is malformed. -/
  | bodyRead (h : Nat) (dto : Option PrepareUploadRequestDto)
  /-- The directories are known; `acceptAll` says whether quick save takes the files. -/
  | directoriesResolved (h : Nat) (acceptAll : Bool)
  /-- The handler goes on after the link or with the decision of the user. -/
  | goOn (h : Nat)
  | permissionAsked (h : Nat)
  | acceptFileRequest (fileNameMap : List (String × String))
  | declineFileRequest
  | cancel (v2 : Bool) (ip : String) (sessionId : Option Nat)
  /-- The user closes the page, or cancels, which tells the sender as well. -/
  | closeSession
  | cancelSession
  | upload (request : UploadRequest)
  /-- `saveFile` returns or throws. -/
  | saved (u : Nat) (success : Bool) (quickSave : Bool)
  /-- The history entry is made, or not. -/
  | recorded (u : Nat) (success : Bool) (quickSave : Bool)
  | delayedClose (i : Nat)

namespace ReceiveServer

/-- The user's decision is put on the stream of the session in the slot, once. -/
def respond (s : ReceiveServer) (selection : Selection) : ReceiveServer :=
  match s.session.bind ReceiveSession.responseHandler with
  | none => s
  | some h =>
    match s.prepares[h]? with
    | some p =>
      match p.phase with
      | .deciding none => s.setPrepare h p (.deciding (some selection))
      | _ => s
    | none => s

/-- `_cancelBySender`. -/
def cancelBySender (s : ReceiveServer) (session : ReceiveSession) : ReceiveServer :=
  s.setStatus session .canceledBySender

/-- The start of an accepted upload. -/
def beginUpload (s : ReceiveServer) (session : ReceiveSession) (fileId : String) : ReceiveServer :=
  {s with
    session := some {session with
      files := session.files.map fun (id, file) => (id, if id = fileId then {file with status := .sending} else file)
      status := .sending}
    uploads := s.uploads ++ [⟨some session.sessionId, fileId, .saving⟩]
    changes := s.changes ++ [⟨session, .sending, some fileId⟩]
    touches := s.touches ++ [⟨some session.sessionId, session.sessionId⟩]}

def step (config : ReceiveConfig) (s : ReceiveServer) : ReceiveEvent → Option ReceiveServer
  | .prepareUpload ip pin =>
    if s.session.isSome then
      some {s with prepares := s.prepares ++ [⟨ip, none, .answered ⟨409, "Blocked by another session", none⟩ s.sessionId⟩]}
    else
      let (refusal, attempts) := checkPin config.receivePin ((s.pinAttempts.lookup ip).getD 0) pin
      let phase : PreparePhase :=
        match refusal with
        | some response => .answered response none
        | none => .readingBody
      some {s with
        pinAttempts := (ip, attempts) :: s.pinAttempts
        prepares := s.prepares ++ [⟨ip, none, phase⟩]}
  | .bodyRead h dto =>
    match s.prepares[h]? with
    | some ⟨ip, none, .readingBody⟩ =>
      match dto with
      | none => some (s.answer h ⟨ip, none, .readingBody⟩ s.sessionId ⟨400, "Request body malformed", none⟩)
      | some dto =>
        if dto.selfFingerprint then some (s.answer h ⟨ip, none, .readingBody⟩ s.sessionId ⟨412, "Self-discovered", none⟩)
        else if dto.files.isEmpty then
          some (s.answer h ⟨ip, none, .readingBody⟩ s.sessionId ⟨400, "Request must contain at least one file", none⟩)
        else some (s.setPrepare h ⟨ip, none, .readingBody⟩ (.resolvingDirectories dto))
    | _ => none
  | .directoriesResolved h acceptAll =>
    match s.prepares[h]? with
    | some ⟨ip, none, .resolvingDirectories dto⟩ =>
      let p : Prepare := ⟨ip, none, .resolvingDirectories dto⟩
      if dto.message = some true then some (s.install h p dto .openingLink)
      else if acceptAll && dto.message.isNone then
        some ((s.install h p dto (.deciding none)).onDecision config h {p with sessionId := some s.nextId} s.nextId
          (some (dto.files.reverse.map fun file => (file.id, file.fileName))))
      else some (s.install h p dto (.deciding none))
    | _ => none
  | .goOn h =>
    match s.prepares[h]? with
    | some ⟨ip, some own, .openingLink⟩ => some (s.onDecision config h ⟨ip, some own, .openingLink⟩ own (some []))
    | some ⟨ip, some own, .deciding (some selection)⟩ =>
      some (s.onDecision config h ⟨ip, some own, .deciding (some selection)⟩ own selection)
    | _ => none
  | .permissionAsked h =>
    match s.prepares[h]? with
    | some ⟨ip, own, .askingPermission granted⟩ =>
      some (s.answer h ⟨ip, own, .askingPermission granted⟩ s.sessionId ⟨200, "", some granted⟩)
    | _ => none
  | .acceptFileRequest fileNameMap => some (s.respond (some fileNameMap))
  | .declineFileRequest => some (s.respond none)
  | .cancel v2 ip sessionId =>
    match s.session with
    | some session => if cancelAllowed session v2 ip sessionId then some (s.cancelBySender session) else some s
    | none => some s
  | .closeSession => some s.closeSession
  | .cancelSession => some s.closeSession
  | .upload request =>
    match checkUpload s.session request with
    | .error code => some {s with uploads := s.uploads ++ [⟨none, request.fileId.getD "", .answered code⟩]}
    | .ok (session, fileId) => some (s.beginUpload session fileId)
  | .saved u success quickSave =>
    match s.uploads[u]? with
    | some ⟨own, fileId, .saving⟩ =>
      if success then some (s.finishUpload u ⟨own, fileId, .saving⟩ quickSave)
      else some (s.failUpload u ⟨own, fileId, .saving⟩ quickSave)
    | _ => none
  | .recorded u success quickSave =>
    match s.uploads[u]? with
    | some ⟨own, fileId, .recording⟩ =>
      if success then some (s.concludeUpload u ⟨own, fileId, .recording⟩ quickSave)
      else some (s.failUpload u ⟨own, fileId, .recording⟩ quickSave)
    | _ => none
  | .delayedClose i =>
    match s.delayedCloses[i]? with
    | some own =>
      let s := {s with delayedCloses := s.delayedCloses.eraseIdx i}
      match s.session with
      | some session => some {s.closeSession with touches := s.touches ++ [⟨own, session.sessionId⟩]}
      | none => some s
    | none => none

end ReceiveServer

/-- The receive server of a device. -/
def receiveServer (config : ReceiveConfig) : Transition.System ReceiveServer ReceiveEvent where
  init := {}
  step := ReceiveServer.step config

namespace ReceiveServer
variable {config : ReceiveConfig} {s t : ReceiveServer} {e : ReceiveEvent}

/-! ### What a step does -/

/-- A body that is answered with a refusal. -/
def refusesBody : Option PrepareUploadRequestDto → Bool
  | none => true
  | some dto => dto.selfFingerprint || dto.files.isEmpty

/-- One step, with everything it can do. -/
inductive Moves (config : ReceiveConfig) (s : ReceiveServer) : ReceiveEvent → ReceiveServer → Prop
  | blocked {ip : String} {pin : Option String} (hsession : s.session.isSome) :
      Moves config s (.prepareUpload ip pin) {s with
        prepares := s.prepares ++ [⟨ip, none, .answered ⟨409, "Blocked by another session", none⟩ s.sessionId⟩]}
  | arrived {ip : String} {pin : Option String} {attempts : List (String × Nat)} {phase : PreparePhase}
      (hsession : s.session = none)
      (hphase : phase = .readingBody ∨ ∃ code message, code ≠ 200 ∧ phase = .answered ⟨code, message, none⟩ none) :
      Moves config s (.prepareUpload ip pin) {s with
        pinAttempts := attempts
        prepares := s.prepares ++ [⟨ip, none, phase⟩]}
  | refused {h : Nat} {ip : String} {dto : Option PrepareUploadRequestDto} {code : Nat} {message : String}
      (hget : s.prepares[h]? = some ⟨ip, none, .readingBody⟩) (hrefuses : refusesBody dto = true)
      (hcode : code ≠ 409 ∧ code ≠ 200) :
      Moves config s (.bodyRead h dto) (s.answer h ⟨ip, none, .readingBody⟩ s.sessionId ⟨code, message, none⟩)
  | bodyRead {h : Nat} {ip : String} {dto : PrepareUploadRequestDto}
      (hget : s.prepares[h]? = some ⟨ip, none, .readingBody⟩) (hrefuses : refusesBody (some dto) = false) :
      Moves config s (.bodyRead h (some dto)) (s.setPrepare h ⟨ip, none, .readingBody⟩ (.resolvingDirectories dto))
  | installed {h : Nat} {ip : String} {dto : PrepareUploadRequestDto} {acceptAll : Bool} {phase : PreparePhase}
      (hget : s.prepares[h]? = some ⟨ip, none, .resolvingDirectories dto⟩)
      (hphase : phase = .openingLink ∨ phase = .deciding none) :
      Moves config s (.directoriesResolved h acceptAll) (s.install h ⟨ip, none, .resolvingDirectories dto⟩ dto phase)
  | accepted {h : Nat} {ip : String} {dto : PrepareUploadRequestDto}
      (hget : s.prepares[h]? = some ⟨ip, none, .resolvingDirectories dto⟩) (hmessage : dto.message = none)
      (selected : List (String × String)) :
      Moves config s (.directoriesResolved h true)
        ((s.install h ⟨ip, none, .resolvingDirectories dto⟩ dto (.deciding none)).onDecision config h
          ⟨ip, some s.nextId, .resolvingDirectories dto⟩ s.nextId (some selected))
  | wentOn {h : Nat} {ip : String} {own : Nat} {phase : PreparePhase} {selection : Selection}
      (hget : s.prepares[h]? = some ⟨ip, some own, phase⟩)
      (hphase : phase = .openingLink ∧ selection = some [] ∨ phase = .deciding (some selection)) :
      Moves config s (.goOn h) (s.onDecision config h ⟨ip, some own, phase⟩ own selection)
  | permitted {h : Nat} {ip : String} {own : Option Nat} {granted : Grant}
      (hget : s.prepares[h]? = some ⟨ip, own, .askingPermission granted⟩) :
      Moves config s (.permissionAsked h) (s.answer h ⟨ip, own, .askingPermission granted⟩ s.sessionId ⟨200, "", some granted⟩)
  | acceptFileRequest {fileNameMap : List (String × String)} :
      Moves config s (.acceptFileRequest fileNameMap) (s.respond (some fileNameMap))
  | declineFileRequest : Moves config s .declineFileRequest (s.respond none)
  | cancelRefused {v2 : Bool} {ip : String} {sessionId : Option Nat}
      (hrefused : ∀ session, s.session = some session → cancelAllowed session v2 ip sessionId = false) :
      Moves config s (.cancel v2 ip sessionId) s
  | canceled {v2 : Bool} {ip : String} {sessionId : Option Nat} {session : ReceiveSession}
      (hsession : s.session = some session) (hallowed : cancelAllowed session v2 ip sessionId = true) :
      Moves config s (.cancel v2 ip sessionId) (s.cancelBySender session)
  | closeSession : Moves config s .closeSession s.closeSession
  | cancelSession : Moves config s .cancelSession s.closeSession
  | uploadRefused {request : UploadRequest} {fileId : String} {code : Nat} :
      Moves config s (.upload request) {s with uploads := s.uploads ++ [⟨none, fileId, .answered code⟩]}
  | uploadBegan {request : UploadRequest} {session : ReceiveSession} {fileId : String}
      (hcheck : checkUpload s.session request = .ok (session, fileId)) :
      Moves config s (.upload request) (s.beginUpload session fileId)
  | saved {u : Nat} {own : Option Nat} {fileId : String} {quickSave : Bool}
      (hget : s.uploads[u]? = some ⟨own, fileId, .saving⟩) :
      Moves config s (.saved u true quickSave) (s.finishUpload u ⟨own, fileId, .saving⟩ quickSave)
  | saveFailed {u : Nat} {own : Option Nat} {fileId : String} {quickSave : Bool}
      (hget : s.uploads[u]? = some ⟨own, fileId, .saving⟩) :
      Moves config s (.saved u false quickSave) (s.failUpload u ⟨own, fileId, .saving⟩ quickSave)
  | recorded {u : Nat} {own : Option Nat} {fileId : String} {quickSave : Bool}
      (hget : s.uploads[u]? = some ⟨own, fileId, .recording⟩) :
      Moves config s (.recorded u true quickSave) (s.concludeUpload u ⟨own, fileId, .recording⟩ quickSave)
  | recordFailed {u : Nat} {own : Option Nat} {fileId : String} {quickSave : Bool}
      (hget : s.uploads[u]? = some ⟨own, fileId, .recording⟩) :
      Moves config s (.recorded u false quickSave) (s.failUpload u ⟨own, fileId, .recording⟩ quickSave)
  | delayedClosed {i : Nat} {own : Option Nat} {session : ReceiveSession} (hget : s.delayedCloses[i]? = some own)
      (hsession : s.session = some session) :
      Moves config s (.delayedClose i) {s.closeSession with
        delayedCloses := s.delayedCloses.eraseIdx i
        touches := s.touches ++ [⟨own, session.sessionId⟩]}
  | delayedNothing {i : Nat} {own : Option Nat} (hget : s.delayedCloses[i]? = some own) (hsession : s.session = none) :
      Moves config s (.delayedClose i) {s with delayedCloses := s.delayedCloses.eraseIdx i}

/-- A refusal of `checkPin` is no acceptance. -/
theorem checkPin_refusal {pin : Option String} {attempts : Nat} {requestPin : Option String} {response : Response}
    (h : (checkPin pin attempts requestPin).1 = some response) :
    ∃ code message, code ≠ 200 ∧ response = ⟨code, message, none⟩ := by
  cases pin with
  | none => cases h
  | some pin =>
    simp only [checkPin] at h
    split_ifs at h <;>
    · obtain rfl := Option.some.inj h
      exact ⟨_, _, by decide, rfl⟩

theorem moves_of_step (h : s.step config e = some t) : Moves config s e t := by
  cases e with
  | prepareUpload ip pin =>
    simp only [step] at h
    split_ifs at h with hsession
    · obtain rfl := Option.some.inj h
      exact .blocked hsession
    · obtain rfl := Option.some.inj h
      refine .arrived (Option.not_isSome_iff_eq_none.mp hsession) ?_
      split
      · next response hrefusal =>
        obtain ⟨code, message, hcode, rfl⟩ := checkPin_refusal hrefusal
        exact .inr ⟨code, message, hcode, rfl⟩
      · exact .inl rfl
  | bodyRead h' dto =>
    simp only [step] at h
    split at h
    · next ip hget =>
      cases dto with
      | none =>
        obtain rfl := Option.some.inj h
        exact .refused hget rfl (by decide)
      | some dto =>
        simp only at h
        split_ifs at h with hself hempty
        · obtain rfl := Option.some.inj h
          exact .refused hget (by simp [refusesBody, hself]) (by decide)
        · obtain rfl := Option.some.inj h
          exact .refused hget (by simp only [refusesBody, hempty, Bool.or_true]) (by decide)
        · obtain rfl := Option.some.inj h
          refine .bodyRead hget ?_
          simp only [refusesBody, Bool.eq_false_iff.mpr hself, Bool.eq_false_iff.mpr hempty, Bool.or_self]
    · cases h
  | directoriesResolved h' acceptAll =>
    simp only [step] at h
    split at h
    · next ip dto hget =>
      split_ifs at h with hlink haccept
      · obtain rfl := Option.some.inj h
        exact .installed hget (.inl rfl)
      · obtain rfl := Option.some.inj h
        rw [Bool.and_eq_true, Option.isNone_iff_eq_none] at haccept
        obtain ⟨rfl, hmessage⟩ := haccept
        exact .accepted hget hmessage _
      · obtain rfl := Option.some.inj h
        exact .installed hget (.inr rfl)
    · cases h
  | goOn h' =>
    simp only [step] at h
    split at h
    · next ip own hget =>
      obtain rfl := Option.some.inj h
      exact .wentOn hget (.inl ⟨rfl, rfl⟩)
    · next ip own selection hget =>
      obtain rfl := Option.some.inj h
      exact .wentOn hget (.inr rfl)
    · cases h
  | permissionAsked h' =>
    simp only [step] at h
    split at h
    · next ip own granted hget =>
      obtain rfl := Option.some.inj h
      exact .permitted hget
    · cases h
  | acceptFileRequest fileNameMap =>
    obtain rfl := Option.some.inj h
    exact .acceptFileRequest
  | declineFileRequest =>
    obtain rfl := Option.some.inj h
    exact .declineFileRequest
  | cancel v2 ip sessionId =>
    simp only [step] at h
    split at h
    · next session hsession =>
      split_ifs at h with hallowed
      · obtain rfl := Option.some.inj h
        exact .canceled hsession hallowed
      · obtain rfl := Option.some.inj h
        refine .cancelRefused fun session' hsession' => ?_
        obtain rfl := Option.some.inj (hsession.symm.trans hsession')
        exact Bool.eq_false_iff.mpr hallowed
    · next hsession =>
      obtain rfl := Option.some.inj h
      refine .cancelRefused fun session' hsession' => ?_
      rw [hsession] at hsession'
      cases hsession'
  | closeSession =>
    obtain rfl := Option.some.inj h
    exact .closeSession
  | cancelSession =>
    obtain rfl := Option.some.inj h
    exact .cancelSession
  | upload request =>
    simp only [step] at h
    split at h
    · obtain rfl := Option.some.inj h
      exact .uploadRefused
    · next session fileId hcheck =>
      obtain rfl := Option.some.inj h
      exact .uploadBegan hcheck
  | saved u success quickSave =>
    simp only [step] at h
    split at h
    · next own fileId hget =>
      cases success with
      | true =>
        obtain rfl := Option.some.inj h
        exact .saved hget
      | false =>
        obtain rfl := Option.some.inj h
        exact .saveFailed hget
    · cases h
  | recorded u success quickSave =>
    simp only [step] at h
    split at h
    · next own fileId hget =>
      cases success with
      | true =>
        obtain rfl := Option.some.inj h
        exact .recorded hget
      | false =>
        obtain rfl := Option.some.inj h
        exact .recordFailed hget
    · cases h
  | delayedClose i =>
    simp only [step] at h
    split at h
    · next own hget =>
      split at h
      · next session hsession =>
        obtain rfl := Option.some.inj h
        exact .delayedClosed hget hsession
      · next hsession =>
        obtain rfl := Option.some.inj h
        exact .delayedNothing hget hsession
    · cases h

/-- What a decision does: without a session it fails, a refusal closes the session, and
selected files are accepted in it, on mobile with a permission to ask for first. -/
theorem onDecision_cases (config : ReceiveConfig) (s : ReceiveServer) (h : Nat) (p : Prepare) (own : Nat)
    (selection : Selection) :
    s.session = none ∧ s.onDecision config h p own selection =
        s.setPrepare h p (.answered ⟨500, "Server is in invalid state", none⟩ none) ∨
    (∃ session code message, s.session = some session ∧ code ∈ [403, 204] ∧ s.onDecision config h p own selection =
        s.closeSession.setPrepare h p (.answered ⟨code, message, none⟩ (some session.sessionId))) ∨
    ∃ session selected phase, s.session = some session ∧ selection = some selected ∧ selected ≠ [] ∧
      (phase = .askingPermission (session.grant own s.nextId selected) ∨
        phase = .answered ⟨200, "", some (session.grant own s.nextId selected)⟩ (some session.sessionId)) ∧
      s.onDecision config h p own selection = (s.accept session selected).setPrepare h p phase := by
  cases hsession : s.session with
  | none =>
    refine .inl ⟨rfl, ?_⟩
    simp only [onDecision, hsession]
    rfl
  | some session =>
    have hid : s.sessionId = some session.sessionId := by simp [sessionId, hsession]
    cases selection with
    | none =>
      refine .inr (.inl ⟨session, 403, "File request declined by recipient", rfl, by decide, ?_⟩)
      simp only [onDecision, hsession, hid]
      rfl
    | some selected =>
      cases selected with
      | nil =>
        refine .inr (.inl ⟨session, 204, "", rfl, by decide, ?_⟩)
        simp only [onDecision, hsession, hid]
        rfl
      | cons entry rest =>
        simp only [onDecision, hsession, grant, hid]
        split
        · exact .inr (.inr ⟨session, entry :: rest, _, rfl, rfl, by simp, .inl rfl, rfl⟩)
        · exact .inr (.inr ⟨session, entry :: rest, _, rfl, rfl, by simp, .inr rfl, rfl⟩)

/-- An upload is accepted for the session in the slot and one of its files. -/
theorem checkUpload_ok {slot : Option ReceiveSession} {request : UploadRequest} {session : ReceiveSession}
    {fileId : String} (h : checkUpload slot request = .ok (session, fileId)) :
    slot = some session ∧ session.status ∈ allowedStates ∧ (session.files.lookup fileId).isSome := by
  cases slot with
  | none => cases h
  | some found =>
    simp only [checkUpload] at h
    by_cases hip : request.ip = found.senderIp
    case neg =>
      rw [if_pos hip] at h
      cases h
    by_cases hstatus : found.status ∈ allowedStates
    case neg =>
      rw [if_neg (not_not.mpr hip), if_pos hstatus] at h
      cases h
    rw [if_neg (not_not.mpr hip), if_neg (not_not.mpr hstatus)] at h
    split at h
    · next id token _ _ =>
      split_ifs at h with hparameter hsession htoken
      obtain ⟨rfl, rfl⟩ : found = session ∧ id = fileId := by simpa using h
      refine ⟨rfl, hstatus, ?_⟩
      cases hlookup : found.files.lookup id with
      | none =>
        rw [hlookup] at htoken
        cases htoken
      | some file => rfl
    · cases h

/-- Which session is in the slot, and its status. -/
def slot (s : ReceiveServer) : Option (Nat × SessionStatus) :=
  s.session.map fun session => (session.sessionId, session.status)

theorem slot_of_session {session : ReceiveSession} (h : s.session = some session) :
    s.slot = some (session.sessionId, session.status) := by
  rw [slot, h]
  rfl

theorem slot_eq_none : s.slot = none ↔ s.session = none := Option.map_eq_none_iff

/-- What the end of an upload leaves alone, and the one status it may write. -/
structure Concludes (s t : ReceiveServer) : Prop where
  prepares : t.prepares = s.prepares
  installs : t.installs = s.installs
  nextId : t.nextId = s.nextId
  status : (t.slot = s.slot ∧ t.changes = s.changes) ∨
    ∃ session after, s.slot = some (session.sessionId, session.status) ∧ session.status ∈ allowedStates ∧
      after ∈ [SessionStatus.finished, .finishedWithErrors] ∧ t.slot = some (session.sessionId, after) ∧
      t.changes = s.changes ++ [⟨session, after, none⟩]

section Uploads
variable {u : Nat} {upload : Upload} {quickSave : Bool}

theorem concludes_setUpload (phase : UploadPhase) : s.Concludes (s.setUpload u upload phase) :=
  ⟨rfl, rfl, rfl, .inl ⟨rfl, rfl⟩⟩

theorem concludes_concludeUpload : s.Concludes (s.concludeUpload u upload quickSave) := by
  simp only [concludeUpload]
  split
  · exact concludes_setUpload _
  · next session hsession =>
    by_cases hdone : session.status ∈ allowedStates ∧ session.isFinishedOrError = true
    · rw [if_pos hdone]
      refine ⟨rfl, rfl, rfl, .inr ⟨session, _, slot_of_session hsession, hdone.1, ?_, rfl, rfl⟩⟩
      split <;> simp
    · rw [if_neg hdone]
      exact concludes_setUpload _

/-- The end of an upload after a change of the files. -/
theorem Concludes.of_finishFile {session : ReceiveSession} (h : (s.finishFile upload session).Concludes t)
    (hslot : s.slot = some (session.sessionId, session.status)) : s.Concludes t := by
  have hkept : (s.finishFile upload session).slot = s.slot := hslot.symm
  refine ⟨h.prepares, h.installs, h.nextId, ?_⟩
  rw [← hkept]
  exact h.status

/-- The end of a file writes nothing but the files. -/
theorem fileFinished_eq {session after : ReceiveSession} {fileId : String} {status : FileStatus}
    (h : session.fileFinished fileId status = some after) : after = {session with files := after.files} := by
  simp only [ReceiveSession.fileFinished] at h
  split_ifs at h
  obtain rfl := Option.some.inj h
  rfl

/-- A file that ends leaves the session and its status. -/
theorem slot_of_fileFinished {session after : ReceiveSession} {fileId : String} {status : FileStatus}
    (hsession : s.session = some session) (h : session.fileFinished fileId status = some after) :
    s.slot = some (after.sessionId, after.status) := by
  rw [slot_of_session hsession, fileFinished_eq h]

theorem concludes_failUpload : s.Concludes (s.failUpload u upload quickSave) := by
  simp only [failUpload]
  split
  · exact concludes_concludeUpload
  · next session hsession =>
    split
    · exact concludes_setUpload _
    · next after hafter =>
      exact concludes_concludeUpload.of_finishFile (slot_of_fileFinished hsession hafter)

theorem concludes_finishUpload : s.Concludes (s.finishUpload u upload quickSave) := by
  simp only [finishUpload]
  split
  · exact concludes_setUpload _
  · next session hsession =>
    split_ifs with hstatus
    · split
      · exact concludes_failUpload
      · next after hafter =>
        exact (concludes_setUpload .recording).of_finishFile (slot_of_fileFinished hsession hafter)
    · exact concludes_setUpload _

end Uploads

end ReceiveServer
end MagicShare.Receive
