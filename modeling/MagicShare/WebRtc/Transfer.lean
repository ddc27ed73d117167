import MagicShare.WebRtc.Messages

/-! The transfer of the accepted files over the data channel.

Three tasks run at once: the sending loop of `send_offer`, the receiving loop of
`accept_offer`, and the receiving application, which reads each file it is handed
and reports how it went. They share the two directions of the data channel and the
channels of the receiving side; each loop is written as the action it takes next
in each of its control states, and a scheduler picks who moves (`Transfer.net`).
The sending application's part is its queue: a step that takes from it stands for
the moment the data is there and is taken. -/
namespace MagicShare.WebRtc
open Network

/-- A file of the offered list. -/
structure FileDto where
  id : String
  size : Nat
  deriving DecidableEq

/-- A file as the sending application queues it: its id and its data, piece by piece. -/
structure OutgoingFile where
  fileId : String
  pieces : List Bytes
  deriving DecidableEq

/-- A file as the receiving application is handed it: `binaryRx` names the channel. -/
structure RTCFile where
  fileId : String
  binaryRx : Nat
  deriving DecidableEq

/-- The file the receiving loop is in. -/
structure RTCFileState where
  fileId : String
  size : Nat
  binaryTx : Nat
  deriving DecidableEq

structure RTCSendFileHeaderRequest where
  id : String
  token : String
  deriving DecidableEq

structure RTCSendFileResponse where
  id : String
  success : Bool
  error : Option String
  deriving DecidableEq

structure RTCFileError where
  fileId : String
  error : String
  deriving DecidableEq

/-- How a task ended. -/
inductive TaskResult
  | ok
  | err
  deriving DecidableEq

/-! ### The receiving application -/

/-- Giving up on a file before its end: after how many messages, and whether the
reading end is dropped. -/
structure Stop where
  after : Nat
  drops : Bool
  deriving DecidableEq

/-- What the receiving application makes of a file. -/
inductive Outcome
  | success
  | failure (error : Option String) (stop : Option Stop)
  deriving DecidableEq

namespace Outcome

def stop : Outcome → Option Stop
  | success => none
  | failure _ stop => stop

/-- What the application reports. -/
def report (id : String) : Outcome → RTCSendFileResponse
  | success => ⟨id, true, none⟩
  | failure error _ => ⟨id, false, error⟩

/-- What the sender is to be told. -/
def response (id : String) : Outcome → RTCSendFileResponse
  | success => ⟨id, true, none⟩
  | failure error _ => ⟨id, false, some (error.getD "Unknown error")⟩

end Outcome

/-! ### What a transfer starts from -/

/-- The file list, the selection with its tokens, and what the sending application
queues. Both sides hold the same tokens once the file list has been exchanged. -/
structure Transfer where
  fileList : List FileDto
  selectedFiles : List String
  token : String → String
  queue : List OutgoingFile
  header : Codec RTCSendFileHeaderRequest
  responseString : RTCSendFileResponse → Bytes
  /-- What the data channel says when a message cannot be sent. -/
  sendError : String
  selectedListed : ∀ id ∈ selectedFiles, ∃ f ∈ fileList, f.id = id
  queueSelected : ∀ f ∈ queue, f.fileId ∈ selectedFiles

/-- `fileTokens` of the receiver and `file_map` of the sender. -/
def Transfer.fileTokens (t : Transfer) (id : String) : Option String :=
  if id ∈ t.selectedFiles then some (t.token id) else none

inductive Party
  | sender
  | receiver
  | app
  deriving DecidableEq

/-- `down` and `up` are the data channel; every file received has a channel of its own. -/
inductive Channel
  | down
  | up
  | sendErrors
  | receiveErrors
  | receiving
  | binary (k : Nat)
  | results
  deriving DecidableEq

abbrev Channel.Value : Channel → Type
  | down => DataChannelMessage
  | up => DataChannelMessage
  | sendErrors => RTCFileError
  | receiveErrors => RTCFileError
  | receiving => RTCFile
  | binary _ => Bytes
  | results => RTCSendFileResponse

/-! ### The sending loop -/

inductive SendCtl
  /-- `sending_rx.recv()`: the files still to come. -/
  | next (queue : List OutgoingFile)
  /-- Inside `processInChunks`: the chunks still to send. -/
  | chunks (fileId : String) (more : List Bytes) (rest : List OutgoingFile)
  /-- A message of this file could not be sent. -/
  | failed (fileId : String) (rest : List OutgoingFile)
  | finishing
  /-- `receive_rx.recv()`. -/
  | awaiting
  | done (result : TaskResult)
  deriving DecidableEq

def sendAct (t : Transfer) : SendCtl → Act Channel.Value SendCtl
  | .next [] => .tau .finishing
  | .next (message :: rest) =>
    match t.fileTokens message.fileId with
    | none =>
      .on .sendErrors
        (.send ⟨message.fileId, "Failed to get file token"⟩ (.next rest) (.next rest))
    | some fileToken =>
      .on .down
        (.send (text (t.header.toString ⟨message.fileId, fileToken⟩))
          (.chunks message.fileId (processInChunks [] message.pieces) rest)
          (.failed message.fileId rest))
  | .chunks _ [] rest => .tau (.next rest)
  | .chunks fileId (chunk :: more) rest =>
    .on .down (.send (binary chunk) (.chunks fileId more rest) (.failed fileId rest))
  | .failed fileId rest =>
    .on .sendErrors (.send ⟨fileId, t.sendError⟩ (.next rest) (.next rest))
  | .finishing => .on .down (.send delimiter .awaiting (.done .err))
  | .awaiting => .on .up (.recv (fun _ => .done .ok) (.done .ok))
  | .done _ => .halt

/-! ### The receiving loop -/

inductive ReceiveCtl
  /-- `receive_rx.recv()`: the file the loop is in, and how many there were so far. -/
  | listening (fileState : Option RTCFileState) (opened : Nat)
  /-- `file_state = None`: the last file's channel is closed. -/
  | closing (last : RTCFileState) (msg : DataChannelMessage) (opened : Nat)
  /-- `user_error_tx.recv()`. -/
  | waitingResult (lastFileId : String) (msg : DataChannelMessage) (opened : Nat)
  | responding (lastFileId : String) (error : Option String) (msg : DataChannelMessage)
      (opened : Nat)
  | reporting (error : RTCFileError) (opened : Nat)
  | handingOver (state : RTCFileState)
  | forwarding (state : RTCFileState) (data : Bytes) (opened : Nat)
  | done (result : TaskResult)
  deriving DecidableEq

/-- What the loop makes of a text that is to be a header. -/
def readHeader (t : Transfer) (msg : DataChannelMessage) (opened : Nat) : ReceiveCtl :=
  match t.header.fromSlice msg.data with
  | none => .done .err
  | some header =>
    match t.fileTokens header.id with
    | none => .reporting ⟨header.id, "File not found"⟩ opened
    | some entry =>
      if header.token ≠ entry then .reporting ⟨header.id, "Invalid token"⟩ opened
      else
        match t.fileList.find? (fun f => f.id = header.id) with
        | none => .reporting ⟨header.id, "Expected size to be available"⟩ opened
        | some file => .handingOver ⟨header.id, file.size, opened⟩

/-- What a message does, by the file the loop is in. -/
def onMessage (t : Transfer) (opened : Nat) :
    Option RTCFileState → DataChannelMessage → ReceiveCtl
  | some last, msg =>
    if msg.isString then .closing last msg opened else .forwarding last msg.data opened
  | none, msg =>
    if msg.isString then readHeader t msg opened
    else .reporting ⟨"unknown", "Received binary data without a header"⟩ opened

/-- What is wrong with a file, by the application's report. -/
def resultError (result : RTCSendFileResponse) : Option String :=
  if result.success then none else some (result.error.getD "Unknown error")

/-- After the response: the delimiter ends the loop, any other text is the next header. -/
def afterResponse (t : Transfer) (msg : DataChannelMessage) (opened : Nat) : ReceiveCtl :=
  if isDelimiter msg then .done .ok else readHeader t msg opened

def receiveAct (t : Transfer) : ReceiveCtl → Act Channel.Value ReceiveCtl
  | .listening fileState opened => .on .down (.recv (onMessage t opened fileState) (.done .ok))
  | .closing last msg opened =>
    .on (.binary last.binaryTx) (.close (.waitingResult last.fileId msg opened))
  | .waitingResult lastFileId msg opened =>
    .on .results
      (.recv (fun result => .responding lastFileId (resultError result) msg opened)
        (.responding lastFileId (some "Failed to receive file result") msg opened))
  | .responding lastFileId error msg opened =>
    .on .up
      (.send (text (t.responseString ⟨lastFileId, error.isNone, error⟩))
        (afterResponse t msg opened) (.done .err))
  | .reporting error opened =>
    .on .receiveErrors (.send error (.listening none opened) (.listening none opened))
  | .handingOver state =>
    .on .receiving
      (.send ⟨state.fileId, state.binaryTx⟩ (.listening (some state) (state.binaryTx + 1))
        (.listening (some state) (state.binaryTx + 1)))
  | .forwarding state data opened =>
    -- `send(..).await?`: the loop ends when the application no longer reads
    .on (.binary state.binaryTx) (.send data (.listening (some state) opened) (.done .err))
  | .done _ => .halt

/-! ### The application and the whole -/

inductive AppCtl
  /-- `receiving_rx.recv()`, after this many files. -/
  | idle (handled : Nat)
  | reading (handled : Nat) (file : RTCFile) (taken : Nat)
  | reporting (handled : Nat) (file : RTCFile)
  | stopped
  deriving DecidableEq

/-- Whether a file is given up on after this many messages. -/
def Outcome.stops (outcome : Outcome) (taken : Nat) : Option Stop :=
  outcome.stop.filter fun stop => stop.after ≤ taken

def appAct (outcome : Nat → Outcome) : AppCtl → Act Channel.Value AppCtl
  | .idle handled => .on .receiving (.recv (fun file => .reading handled file 0) .stopped)
  | .reading handled file taken =>
    match (outcome handled).stops taken with
    | some stop =>
      if stop.drops then .on (.binary file.binaryRx) (.drop (.reporting handled file))
      else .tau (.reporting handled file)
    | none =>
      .on (.binary file.binaryRx)
        (.recv (fun _ => .reading handled file (taken + 1)) (.reporting handled file))
  | .reporting handled file =>
    .on .results
      (.send ((outcome handled).report file.fileId) (.idle (handled + 1)) (.idle (handled + 1)))
  | .stopped => .halt

abbrev Party.Ctl : Party → Type
  | sender => SendCtl
  | receiver => ReceiveCtl
  | app => AppCtl

/-- How many values a channel holds: the data channel buffers, the error channels
are read at once, the others are as their makers size them. -/
def Channel.room : Channel → Option Nat
  | receiving => some 1
  | binary _ => some 4
  | results => some 1
  | _ => none

def Channel.writer : Channel → Party
  | down | sendErrors => .sender
  | up | receiveErrors | receiving | binary _ => .receiver
  | results => .app

def Channel.reader : Channel → Party
  | down | results => .receiver
  | up => .sender
  | sendErrors | receiveErrors | receiving | binary _ => .app

def Transfer.act (t : Transfer) (outcome : Nat → Outcome) :
    (p : Party) → p.Ctl → Act Channel.Value p.Ctl
  | .sender => sendAct t
  | .receiver => receiveAct t
  | .app => appAct outcome

/-- Each task uses only its own ends. -/
theorem Transfer.act_wired (t : Transfer) (outcome : Nat → Outcome) (p : Party) (l : p.Ctl)
    (c : Channel) (op : Op c.Value p.Ctl) (h : t.act outcome p l = .on c op) :
    (if op.writes then c.writer else c.reader) = p := by
  cases p with
  | sender =>
    cases l with
    | next queue =>
      cases queue with
      | nil => cases h
      | cons message rest =>
        simp only [act, sendAct] at h
        split at h <;> cases h <;> rfl
    | chunks fileId more rest =>
      cases more with
      | nil => cases h
      | cons chunk more =>
        cases h
        rfl
    | _ => cases h <;> rfl
  | receiver => cases l <;> cases h <;> rfl
  | app =>
    cases l with
    | reading handled file taken =>
      simp only [act, appAct] at h
      split at h
      · split at h
        · cases h
          rfl
        · cases h
      · cases h
        rfl
    | _ => cases h <;> rfl

/-- The sending loop, the receiving loop and the application together. -/
def Transfer.net (t : Transfer) (outcome : Nat → Outcome) :
    Net Party Channel Party.Ctl Channel.Value where
  act := t.act outcome
  room := Channel.room
  writer := Channel.writer
  reader := Channel.reader
  wired := t.act_wired outcome

abbrev TransferState := State Party.Ctl Channel.Value

/-- Both loops at their start, nothing in any channel. -/
def Transfer.start (t : Transfer) : TransferState where
  ctl
    | .sender => .next t.queue
    | .receiver => .listening none 0
    | .app => .idle 0
  chan _ := .new

def Transfer.system (t : Transfer) (outcome : Nat → Outcome) :
    Transition.System TransferState Party := (t.net outcome).system t.start

/-- No file is given up on before its end. -/
def ReadsToTheEnd (outcome : Nat → Outcome) : Prop := ∀ k, (outcome k).stop = none

/-- An application that reads to the end keeps every reading end. -/
theorem Transfer.keepsReading (t : Transfer) {outcome : Nat → Outcome}
    (h : ReadsToTheEnd outcome) : (t.net outcome).KeepsReading := by
  intro p l c op hact
  cases p with
  | sender =>
    cases l with
    | next queue =>
      cases queue with
      | nil => cases hact
      | cons message rest =>
        simp only [net, act, sendAct] at hact
        split at hact <;> cases hact <;> rfl
    | chunks fileId more rest =>
      cases more with
      | nil => cases hact
      | cons chunk more =>
        cases hact
        rfl
    | _ => cases hact <;> rfl
  | receiver => cases l <;> cases hact <;> rfl
  | app =>
    cases l with
    | reading handled file taken =>
      simp only [net, act, appAct, Outcome.stops, h handled, Option.filter_none] at hact
      cases hact
      rfl
    | _ => cases hact <;> rfl

end MagicShare.WebRtc
