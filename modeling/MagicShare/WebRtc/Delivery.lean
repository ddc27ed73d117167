import MagicShare.WebRtc.Transfer

/-! What a transfer delivers.

The tasks only share channels with one writing and one reading end, so while the
application reads to the end one finished schedule speaks for all. The schedule
taken here is the plain one: the sender puts everything on the channel, then the
receiver and the application handle file after file, then the sender takes a
response. -/
namespace MagicShare.WebRtc
open Network Transition.System

/-! ### Configurations -/

/-- Every channel of a transfer, by name. -/
structure Channels where
  down : Chan DataChannelMessage
  up : Chan DataChannelMessage
  sendErrors : Chan RTCFileError
  receiveErrors : Chan RTCFileError
  receiving : Chan RTCFile
  binary : Nat → Chan Bytes
  results : Chan RTCSendFileResponse

namespace Channels

def chan (w : Channels) : (c : Channel) → Chan c.Value
  | .down => w.down
  | .up => w.up
  | .sendErrors => w.sendErrors
  | .receiveErrors => w.receiveErrors
  | .receiving => w.receiving
  | .binary k => w.binary k
  | .results => w.results

def put (w : Channels) : (c : Channel) → Chan c.Value → Channels
  | .down, ch => { w with down := ch }
  | .up, ch => { w with up := ch }
  | .sendErrors, ch => { w with sendErrors := ch }
  | .receiveErrors, ch => { w with receiveErrors := ch }
  | .receiving, ch => { w with receiving := ch }
  | .binary k, ch => { w with binary := Function.update w.binary k ch }
  | .results, ch => { w with results := ch }

def empty : Channels := ⟨.new, .new, .new, .new, .new, fun _ => .new, .new⟩

theorem put_chan_self (w : Channels) (c : Channel) (ch : Chan c.Value) : (w.put c ch).chan c = ch := by
  cases c with
  | binary k => exact Function.update_self ..
  | _ => rfl

theorem put_chan_of_ne (w : Channels) {c d : Channel} (ch : Chan c.Value) (h : d ≠ c) :
    (w.put c ch).chan d = w.chan d := by
  cases c with
  | binary k =>
    cases d with
    | binary j => exact Function.update_of_ne (fun hj => h (congrArg Channel.binary hj)) ..
    | _ => rfl
  | _ => cases d <;> first | rfl | exact absurd rfl h

end Channels

/-- A state of the transfer, task by task. -/
def config (s : SendCtl) (r : ReceiveCtl) (a : AppCtl) (w : Channels) : TransferState where
  ctl
    | .sender => s
    | .receiver => r
    | .app => a
  chan := w.chan

section Moves
variable {t : Transfer} {outcome : Nat → Outcome} {s s' : SendCtl} {r r' : ReceiveCtl}
variable {a a' : AppCtl} {w : Channels}

theorem start_eq_config (t : Transfer) :
    t.start = config (.next t.queue) (.listening none 0) (.idle 0) .empty :=
  State.ext (funext fun p => by cases p <;> rfl) (funext fun c => by cases c <;> rfl)

theorem config_put (c : Channel) (ch : Chan c.Value) :
    (config s r a w).put c ch = config s r a (w.put c ch) := by
  refine State.ext rfl (funext fun d => ?_)
  by_cases hdc : d = c
  · subst hdc
    rw [State.put_chan_self]
    exact (w.put_chan_self d ch).symm
  · rw [State.put_chan_of_ne _ _ hdc]
    exact (w.put_chan_of_ne ch hdc).symm

theorem config_goto_sender : (config s r a w).goto .sender s' = config s' r a w :=
  State.ext (funext fun p => by cases p <;> rfl) rfl

theorem config_goto_receiver : (config s r a w).goto .receiver r' = config s r' a w :=
  State.ext (funext fun p => by cases p <;> rfl) rfl

theorem config_goto_app : (config s r a w).goto .app a' = config s r a' w :=
  State.ext (funext fun p => by cases p <;> rfl) rfl

/-- A move of the sender over a channel. -/
theorem sender_on {c : Channel} {op : Op c.Value SendCtl} {ch : Chan c.Value}
    (hact : sendAct t s = .on c op) (happly : op.apply c.room (w.chan c) = some (s', ch)) :
    (t.system outcome).Leads (config s r a w) (config s' r a (w.put c ch)) := by
  have hstep : (t.net outcome).step (config s r a w) .sender = _ := Net.step_on hact happly
  rw [config_goto_sender, config_put] at hstep
  exact Leads.single hstep

theorem sender_tau (hact : sendAct t s = .tau s') :
    (t.system outcome).Leads (config s r a w) (config s' r a w) := by
  have hstep : (t.net outcome).step (config s r a w) .sender = _ := Net.step_tau hact
  rw [config_goto_sender] at hstep
  exact Leads.single hstep

theorem receiver_on {c : Channel} {op : Op c.Value ReceiveCtl} {ch : Chan c.Value}
    (hact : receiveAct t r = .on c op) (happly : op.apply c.room (w.chan c) = some (r', ch)) :
    (t.system outcome).Leads (config s r a w) (config s r' a (w.put c ch)) := by
  have hstep : (t.net outcome).step (config s r a w) .receiver = _ := Net.step_on hact happly
  rw [config_goto_receiver, config_put] at hstep
  exact Leads.single hstep

theorem app_on {c : Channel} {op : Op c.Value AppCtl} {ch : Chan c.Value}
    (hact : appAct outcome a = .on c op) (happly : op.apply c.room (w.chan c) = some (a', ch)) :
    (t.system outcome).Leads (config s r a w) (config s r a' (w.put c ch)) := by
  have hstep : (t.net outcome).step (config s r a w) .app = _ := Net.step_on hact happly
  rw [config_goto_app, config_put] at hstep
  exact Leads.single hstep

end Moves

/-! ### What the sender puts on the channel -/

/-- The header of a file, with the token both sides hold. -/
def Transfer.headerOf (t : Transfer) (f : OutgoingFile) : RTCSendFileHeaderRequest :=
  ⟨f.fileId, t.token f.fileId⟩

/-- The messages of a queue: header and chunks of each file, and the delimiter. -/
def Transfer.wire (t : Transfer) : List OutgoingFile → List DataChannelMessage
  | [] => [delimiter]
  | f :: rest =>
    text (t.header.toString (t.headerOf f)) ::
      ((processInChunks [] f.pieces).map binary ++ t.wire rest)

section Sender
variable {t : Transfer} {outcome : Nat → Outcome} {r : ReceiveCtl} {a : AppCtl} {w : Channels}

theorem fileTokens_of_mem {t : Transfer} {id : String} (h : id ∈ t.selectedFiles) :
    t.fileTokens id = some (t.token id) := if_pos h

/-- The sender takes a selected file from its queue. -/
theorem sendAct_next {f : OutgoingFile} (h : f.fileId ∈ t.selectedFiles)
    (rest : List OutgoingFile) :
    sendAct t (.next (f :: rest)) =
      .on .down (.send (text (t.header.toString (t.headerOf f)))
        (.chunks f.fileId (processInChunks [] f.pieces) rest) (.failed f.fileId rest)) := by
  simp only [sendAct, fileTokens_of_mem h]
  rfl

/-- A message more on the way down. -/
def Channels.sent (w : Channels) (ms : List DataChannelMessage) : Channels :=
  { w with down := { w.down with queue := w.down.queue ++ ms } }

theorem Channels.sent_sent (w : Channels) (a b : List DataChannelMessage) :
    (w.sent a).sent b = w.sent (a ++ b) := by
  simp [sent]

theorem sender_sends (hclosed : w.down.closed = false) (hdropped : w.down.dropped = false)
    {s s' refused : SendCtl} {msg : DataChannelMessage}
    (hact : sendAct t s = .on .down (.send msg s' refused)) :
    (t.system outcome).Leads (config s r a w) (config s' r a (w.sent [msg])) :=
  sender_on hact (Op.send_of_room hdropped hclosed rfl)

theorem sender_chunks (hclosed : w.down.closed = false) (hdropped : w.down.dropped = false)
    (fileId : String) (more : List Bytes) (rest : List OutgoingFile) :
    (t.system outcome).Leads (config (.chunks fileId more rest) r a w)
      (config (.next rest) r a (w.sent (more.map binary))) := by
  induction more generalizing w with
  | nil =>
    have hw : w.sent [] = w := by simp [Channels.sent]
    rw [List.map_nil, hw]
    exact sender_tau rfl
  | cons chunk more ih =>
    refine (sender_sends hclosed hdropped rfl).trans ?_
    have hrest := ih (w := w.sent [binary chunk]) hclosed hdropped
    rw [Channels.sent_sent] at hrest
    exact hrest

/-- The sending loop empties its queue onto the channel. -/
theorem sender_queue (hclosed : w.down.closed = false) (hdropped : w.down.dropped = false)
    (queue : List OutgoingFile) (hqueue : ∀ f ∈ queue, f.fileId ∈ t.selectedFiles) :
    (t.system outcome).Leads (config (.next queue) r a w)
      (config .awaiting r a (w.sent (t.wire queue))) := by
  induction queue generalizing w with
  | nil => exact (sender_tau rfl).trans (sender_sends hclosed hdropped rfl)
  | cons f rest ih =>
    have hheader := sendAct_next (hqueue f (by simp)) rest
    have hrest := ih (w := w.sent ([text (t.header.toString (t.headerOf f))] ++
      (processInChunks [] f.pieces).map binary)) hclosed hdropped
      fun g hg => hqueue g (List.mem_cons_of_mem _ hg)
    refine (sender_sends hclosed hdropped hheader).trans ?_
    refine Leads.trans (sender_chunks (by exact hclosed) (by exact hdropped) _ _ _) ?_
    rw [Channels.sent_sent] at hrest ⊢
    simpa [Transfer.wire] using hrest

end Sender

/-! ### One file through the receiver and the application -/

section Moves
variable {t : Transfer} {outcome : Nat → Outcome} {s : SendCtl} {r : ReceiveCtl} {a : AppCtl}
variable {w : Channels} {before more : List DataChannelMessage} {msg : DataChannelMessage}

theorem receiver_takes (hdown : w.down = ⟨before, msg :: more, false, false⟩)
    (fileState : Option RTCFileState) (opened : Nat) :
    (t.system outcome).Leads (config s (.listening fileState opened) a w)
      (config s (onMessage t opened fileState msg) a
        (w.put .down ⟨before ++ [msg], more, false, false⟩)) := by
  refine receiver_on rfl ?_
  simp only [Channels.chan, hdown]
  rfl

theorem receiver_hands_over {taken : List RTCFile}
    (hreceiving : w.receiving = ⟨taken, [], false, false⟩) (state : RTCFileState) :
    (t.system outcome).Leads (config s (.handingOver state) a w)
      (config s (.listening (some state) (state.binaryTx + 1)) a
        (w.put .receiving ⟨taken, [⟨state.fileId, state.binaryTx⟩], false, false⟩)) := by
  refine receiver_on rfl ?_
  simp only [Channels.chan, hreceiving]
  rfl

theorem app_takes {taken : List RTCFile} {file : RTCFile}
    (hreceiving : w.receiving = ⟨taken, [file], false, false⟩) (handled : Nat) :
    (t.system outcome).Leads (config s r (.idle handled) w)
      (config s r (.reading handled file 0)
        (w.put .receiving ⟨taken ++ [file], [], false, false⟩)) := by
  refine app_on rfl ?_
  simp only [Channels.chan, hreceiving]
  rfl

theorem receiver_forwards {state : RTCFileState} {got : List Bytes}
    (hbinary : w.binary state.binaryTx = ⟨got, [], false, false⟩) (data : Bytes) (opened : Nat) :
    (t.system outcome).Leads (config s (.forwarding state data opened) a w)
      (config s (.listening (some state) opened) a
        (w.put (.binary state.binaryTx) ⟨got, [data], false, false⟩)) := by
  refine receiver_on rfl ?_
  simp only [Channels.chan, hbinary]
  rfl

theorem appAct_reading (h : ReadsToTheEnd outcome) (handled : Nat) (file : RTCFile) (taken : Nat) :
    appAct outcome (.reading handled file taken) =
      .on (.binary file.binaryRx)
        (.recv (fun _ => .reading handled file (taken + 1)) (.reporting handled file)) := by
  simp only [appAct, Outcome.stops, h handled, Option.filter_none]

theorem app_reads (h : ReadsToTheEnd outcome) {file : RTCFile} {got : List Bytes} {data : Bytes}
    (hbinary : w.binary file.binaryRx = ⟨got, [data], false, false⟩) (handled taken : Nat) :
    (t.system outcome).Leads (config s r (.reading handled file taken) w)
      (config s r (.reading handled file (taken + 1))
        (w.put (.binary file.binaryRx) ⟨got ++ [data], [], false, false⟩)) := by
  refine app_on (appAct_reading h ..) ?_
  simp only [Channels.chan, hbinary]
  rfl

theorem receiver_closes {last : RTCFileState} {got : List Bytes}
    (hbinary : w.binary last.binaryTx = ⟨got, [], false, false⟩) (opened : Nat) :
    (t.system outcome).Leads (config s (.closing last msg opened) a w)
      (config s (.waitingResult last.fileId msg opened) a
        (w.put (.binary last.binaryTx) ⟨got, [], true, false⟩)) := by
  refine receiver_on rfl ?_
  simp only [Channels.chan, hbinary]
  rfl

theorem app_ends (h : ReadsToTheEnd outcome) {file : RTCFile} {got : List Bytes}
    (hbinary : w.binary file.binaryRx = ⟨got, [], true, false⟩) (handled taken : Nat) :
    (t.system outcome).Leads (config s r (.reading handled file taken) w)
      (config s r (.reporting handled file)
        (w.put (.binary file.binaryRx) ⟨got, [], true, false⟩)) := by
  refine app_on (appAct_reading h ..) ?_
  simp only [Channels.chan, hbinary]
  rfl

theorem app_reports {reported : List RTCSendFileResponse}
    (hresults : w.results = ⟨reported, [], false, false⟩) (handled : Nat) (file : RTCFile) :
    (t.system outcome).Leads (config s r (.reporting handled file) w)
      (config s r (.idle (handled + 1))
        (w.put .results
          ⟨reported, [(outcome handled).report file.fileId], false, false⟩)) := by
  refine app_on rfl ?_
  simp only [Channels.chan, hresults]
  rfl

theorem receiver_learns {reported : List RTCSendFileResponse} {result : RTCSendFileResponse}
    (hresults : w.results = ⟨reported, [result], false, false⟩) (lastFileId : String)
    (opened : Nat) :
    (t.system outcome).Leads (config s (.waitingResult lastFileId msg opened) a w)
      (config s (.responding lastFileId (resultError result) msg opened) a
        (w.put .results ⟨reported ++ [result], [], false, false⟩)) := by
  refine receiver_on rfl ?_
  simp only [Channels.chan, hresults]
  rfl

theorem receiver_responds {taken queue : List DataChannelMessage}
    (hup : w.up = ⟨taken, queue, false, false⟩) (lastFileId : String) (error : Option String)
    (opened : Nat) :
    (t.system outcome).Leads (config s (.responding lastFileId error msg opened) a w)
      (config s (afterResponse t msg opened) a
        (w.put .up ⟨taken, queue ++ [text (t.responseString
          ⟨lastFileId, error.isNone, error⟩)], false, false⟩)) := by
  refine receiver_on rfl ?_
  simp only [Channels.chan, hup]
  rfl

end Moves

section File
variable {t : Transfer} {outcome : Nat → Outcome} {s : SendCtl} {w : Channels}

/-- The chunks of a file are passed on and read, one by one. -/
theorem pass_chunks (h : ReadsToTheEnd outcome) (state : RTCFileState) (opened handled read : Nat)
    {chunks : List Bytes} {before more : List DataChannelMessage} {got : List Bytes}
    (hdown : w.down = ⟨before, chunks.map binary ++ more, false, false⟩)
    (hbinary : w.binary state.binaryTx = ⟨got, [], false, false⟩) :
    ∃ before' read', (t.system outcome).Leads
      (config s (.listening (some state) opened)
        (.reading handled ⟨state.fileId, state.binaryTx⟩ read) w)
      (config s (.listening (some state) opened)
        (.reading handled ⟨state.fileId, state.binaryTx⟩ read')
        ((w.put .down ⟨before', more, false, false⟩).put (.binary state.binaryTx)
          ⟨got ++ chunks, [], false, false⟩)) := by
  induction chunks generalizing w before got read with
  | nil =>
    refine ⟨before, read, ?_⟩
    have hw : (w.put .down ⟨before, more, false, false⟩).put (.binary state.binaryTx)
        ⟨got ++ [], [], false, false⟩ = w := by
      rw [List.append_nil, ← hbinary]
      simp only [Channels.put, Function.update_eq_self]
      exact congrArg (fun d => { w with down := d }) hdown.symm
    rw [hw]
    exact Leads.refl _
  | cons chunk chunks ih =>
    obtain ⟨before', read', hrest⟩ := ih (read + 1)
      (w := ((w.put .down ⟨before ++ [binary chunk], chunks.map binary ++ more, false, false⟩).put
        (.binary state.binaryTx) ⟨got, [chunk], false, false⟩).put (.binary state.binaryTx)
        ⟨got ++ [chunk], [], false, false⟩)
      rfl (Function.update_self ..)
    refine ⟨before', read', (receiver_takes hdown _ _).trans ?_⟩
    refine Leads.trans (receiver_forwards (by exact hbinary) _ _) ?_
    refine Leads.trans (app_reads h (by exact Function.update_self ..) _ _) ?_
    simpa [Channels.put, Function.update_idem] using hrest

/-- The end of a file: the application reports, the receiver responds. -/
theorem finish_file (h : ReadsToTheEnd outcome) (state : RTCFileState) (opened handled read : Nat)
    {msg : DataChannelMessage} {before more : List DataChannelMessage} {got : List Bytes}
    {reported : List RTCSendFileResponse} {responded : List DataChannelMessage}
    (hmsg : msg.isString = true)
    (hdown : w.down = ⟨before, msg :: more, false, false⟩)
    (hbinary : w.binary state.binaryTx = ⟨got, [], false, false⟩)
    (hresults : w.results = ⟨reported, [], false, false⟩)
    (hup : w.up = ⟨[], responded, false, false⟩) :
    (t.system outcome).Leads
      (config s (.listening (some state) opened)
        (.reading handled ⟨state.fileId, state.binaryTx⟩ read) w)
      (config s (afterResponse t msg opened) (.idle (handled + 1))
        ((((w.put .down ⟨before ++ [msg], more, false, false⟩).put (.binary state.binaryTx)
          ⟨got, [], true, false⟩).put .results
          ⟨reported ++ [(outcome handled).report state.fileId], [], false, false⟩).put .up
          ⟨[], responded ++ [text (t.responseString
            ((outcome handled).response state.fileId))], false, false⟩)) := by
  have hclosing : onMessage t opened (some state) msg = .closing state msg opened := by
    simp [onMessage, hmsg]
  have hresponse : ∀ o : Outcome,
      (⟨state.fileId, (resultError (o.report state.fileId)).isNone,
        resultError (o.report state.fileId)⟩ : RTCSendFileResponse) =
        o.response state.fileId := by
    intro o
    cases o <;> rfl
  refine (receiver_takes hdown _ _).trans ?_
  rw [hclosing]
  refine Leads.trans (receiver_closes (by exact hbinary) _) ?_
  refine Leads.trans (app_ends h (by exact Function.update_self ..) _ _) ?_
  refine Leads.trans (app_reports (by exact hresults) _ _) ?_
  refine Leads.trans (receiver_learns (by rfl) _ _) ?_
  refine Leads.trans (receiver_responds (by exact hup) _ _ _) ?_
  rw [hresponse]
  simp only [Channels.put, Function.update_idem]
  exact Leads.refl _

end File

/-! ### File after file -/

/-- The files the application was handed, each with all the bytes it read of it. -/
def handedOver (σ : TransferState) : List (String × Bytes) :=
  (σ.chan .receiving).taken.map fun file =>
    (file.fileId, (σ.chan (.binary file.binaryRx)).taken.flatten)

/-- What the sender is to be told about these files. -/
def Transfer.responses (t : Transfer) (outcome : Nat → Outcome) (files : List OutgoingFile) :
    List DataChannelMessage :=
  files.mapIdx fun k f => text (t.responseString ((outcome k).response f.fileId))

/-- The channels after these files went through, with `before` read and `more`
still to come from the sender. -/
structure Handled (t : Transfer) (outcome : Nat → Outcome) (files : List OutgoingFile)
    (more : List DataChannelMessage) (w : Channels) : Prop where
  down : ∃ before, w.down = ⟨before, more, false, false⟩
  up : w.up = ⟨[], t.responses outcome files, false, false⟩
  receiving : w.receiving = ⟨files.mapIdx fun k f => ⟨f.fileId, k⟩, [], false, false⟩
  results : ∃ reported, w.results = ⟨reported, [], false, false⟩
  contents : ∀ k f, files[k]? = some f → (w.binary k).taken.flatten = f.pieces.flatten
  fresh : ∀ k, files.length ≤ k → w.binary k = .new
  sendErrors : w.sendErrors = .new
  receiveErrors : w.receiveErrors = .new

section Files
variable {t : Transfer} {outcome : Nat → Outcome} {s : SendCtl} {w : Channels}

/-- A file more, read to its end. -/
theorem Handled.concat {files : List OutgoingFile} {f : OutgoingFile} {w' : Channels}
    {more more' : List DataChannelMessage} (hw : Handled t outcome files more w)
    (hdown : ∃ before, w'.down = ⟨before, more', false, false⟩)
    (hup : w'.up = ⟨[], t.responses outcome files ++ [text (t.responseString
      ((outcome files.length).response f.fileId))], false, false⟩)
    (hreceiving : w'.receiving =
      ⟨(files.mapIdx fun k f => ⟨f.fileId, k⟩) ++ [⟨f.fileId, files.length⟩], [], false, false⟩)
    (hresults : ∃ reported, w'.results = ⟨reported, [], false, false⟩)
    (hbinary : w'.binary = Function.update w.binary files.length
      ⟨processInChunks [] f.pieces, [], true, false⟩)
    (hsend : w'.sendErrors = w.sendErrors) (hreceive : w'.receiveErrors = w.receiveErrors) :
    Handled t outcome (files ++ [f]) more' w' where
  down := hdown
  up := by simpa [Transfer.responses, List.mapIdx_concat] using hup
  receiving := by simpa [List.mapIdx_concat] using hreceiving
  results := hresults
  contents := by
    intro k g hg
    rw [hbinary]
    obtain hk | hk := Nat.lt_or_ge k files.length
    · rw [List.getElem?_append_left hk] at hg
      rw [Function.update_of_ne (by omega)]
      exact hw.contents k g hg
    · rw [List.getElem?_append_right hk, List.getElem?_singleton] at hg
      split at hg
      · obtain rfl := Option.some.inj hg
        obtain rfl : k = files.length := by omega
        rw [Function.update_self]
        exact processInChunks_flatten [] f.pieces
      · cases hg
  fresh := by
    intro k hk
    simp only [List.length_append, List.length_singleton] at hk
    rw [hbinary, Function.update_of_ne (by omega)]
    exact hw.fresh k (by omega)
  sendErrors := hsend.trans hw.sendErrors
  receiveErrors := hreceive.trans hw.receiveErrors

/-- One file goes through. -/
theorem handle_file (h : ReadsToTheEnd outcome) {files : List OutgoingFile} {f : OutgoingFile}
    {msg : DataChannelMessage} {more : List DataChannelMessage} (hmsg : msg.isString = true)
    (hw : Handled t outcome files ((processInChunks [] f.pieces).map binary ++ msg :: more) w)
    (size : Nat) :
    ∃ w', (t.system outcome).Leads
      (config s (.handingOver ⟨f.fileId, size, files.length⟩) (.idle files.length) w)
      (config s (afterResponse t msg (files.length + 1)) (.idle (files.length + 1)) w') ∧
      Handled t outcome (files ++ [f]) more w' := by
  obtain ⟨before, hdown⟩ := hw.down
  obtain ⟨reported, hresults⟩ := hw.results
  have hnew := hw.fresh files.length (Nat.le_refl _)
  obtain ⟨before', read', hchunks⟩ := pass_chunks (t := t) (s := s) h
    ⟨f.fileId, size, files.length⟩ (files.length + 1) files.length 0
    (w := { w with receiving :=
      ⟨(files.mapIdx fun k f => ⟨f.fileId, k⟩) ++ [⟨f.fileId, files.length⟩], [], false, false⟩ })
    hdown hnew
  refine ⟨{
    down := ⟨before' ++ [msg], more, false, false⟩
    up := ⟨[], t.responses outcome files ++ [text (t.responseString
      ((outcome files.length).response f.fileId))], false, false⟩
    sendErrors := w.sendErrors
    receiveErrors := w.receiveErrors
    receiving :=
      ⟨(files.mapIdx fun k f => ⟨f.fileId, k⟩) ++ [⟨f.fileId, files.length⟩], [], false, false⟩
    binary := Function.update w.binary files.length
      ⟨processInChunks [] f.pieces, [], true, false⟩
    results := ⟨reported ++ [(outcome files.length).report f.fileId], [], false, false⟩ }, ?_, ?_⟩
  · refine Leads.trans (receiver_hands_over hw.receiving _) ?_
    refine Leads.trans (app_takes (by rfl) _) ?_
    refine hchunks.trans ?_
    have hfinish := finish_file (t := t) (s := s) h ⟨f.fileId, size, files.length⟩
      (files.length + 1) files.length read' hmsg
      (w := (({ w with receiving :=
        ⟨(files.mapIdx fun k f => ⟨f.fileId, k⟩) ++ [⟨f.fileId, files.length⟩], [], false,
          false⟩ } : Channels).put .down ⟨before', msg :: more, false, false⟩).put
        (.binary files.length) ⟨[] ++ processInChunks [] f.pieces, [], false, false⟩)
      (by rfl) (by exact Function.update_self ..) (by exact hresults) (by exact hw.up)
    simpa [Channels.put, Function.update_idem] using hfinish
  · exact hw.concat ⟨_, rfl⟩ rfl rfl ⟨_, rfl⟩ rfl rfl rfl

/-- What the receiver relies on in the JSON of headers: a header is read back, it is
longer than the delimiter, and the delimiter is not a header. -/
structure HeadersReadBack (t : Transfer) : Prop where
  readsBack : ∀ f ∈ t.queue, t.header.ReadsBack (t.headerOf f)
  notDelimiter : ∀ f ∈ t.queue, 1 < (t.header.toString (t.headerOf f)).length
  delimiterFails : t.header.fromSlice delimiter.data = none

/-- The header of a queued file hands the file over. -/
theorem readHeader_of_mem (hjson : HeadersReadBack t) {f : OutgoingFile} (hf : f ∈ t.queue)
    (opened : Nat) :
    ∃ size, readHeader t (text (t.header.toString (t.headerOf f))) opened =
      .handingOver ⟨f.fileId, size, opened⟩ := by
  have hread : t.header.fromSlice (t.header.toString (t.headerOf f)) = some (t.headerOf f) :=
    hjson.readsBack f hf
  have htoken : t.fileTokens (t.headerOf f).id = some (t.headerOf f).token :=
    fileTokens_of_mem (t.queueSelected f hf)
  obtain ⟨listed, hlisted, hid⟩ := t.selectedListed _ (t.queueSelected f hf)
  obtain ⟨file, hfile⟩ :
      ∃ file, t.fileList.find? (fun g => g.id = (t.headerOf f).id) = some file :=
    Option.isSome_iff_exists.mp (List.find?_isSome.mpr ⟨listed, hlisted, decide_eq_true hid⟩)
  refine ⟨file.size, ?_⟩
  simp only [readHeader, text_data, hread, htoken, hfile, ne_eq, not_true_eq_false, if_false]
  rfl

theorem afterResponse_of_mem (hjson : HeadersReadBack t) {f : OutgoingFile} (hf : f ∈ t.queue)
    (opened : Nat) :
    ∃ size, afterResponse t (text (t.header.toString (t.headerOf f))) opened =
      .handingOver ⟨f.fileId, size, opened⟩ := by
  have hlong := hjson.notDelimiter f hf
  rw [afterResponse, isDelimiter, text_data, decide_eq_false (by omega), Bool.and_false]
  exact readHeader_of_mem hjson hf opened

/-- **The files that are left go through, one after the other**, up to the delimiter. -/
theorem handle_files (h : ReadsToTheEnd outcome) (hjson : HeadersReadBack t)
    {files rest : List OutgoingFile} {f : OutgoingFile} (hrest : ∀ g ∈ rest, g ∈ t.queue)
    (hw : Handled t outcome files
      ((processInChunks [] f.pieces).map binary ++ t.wire rest) w) (size : Nat) :
    ∃ w' handled, (t.system outcome).Leads
      (config s (.handingOver ⟨f.fileId, size, files.length⟩) (.idle files.length) w)
      (config s (.done .ok) (.idle handled) w') ∧
      Handled t outcome (files ++ f :: rest) [] w' := by
  induction rest generalizing files f w size with
  | nil =>
    obtain ⟨w', hleads, hw'⟩ := handle_file (s := s) h (rfl : delimiter.isString = true) hw size
    exact ⟨w', _, hleads, hw'⟩
  | cons g rest ih =>
    obtain ⟨w₁, hfile, hw₁⟩ := handle_file (s := s) h rfl hw size
    obtain ⟨size', hheader⟩ :=
      afterResponse_of_mem hjson (hrest g (by simp)) (files.length + 1)
    rw [hheader] at hfile
    have hlength : files.length + 1 = (files ++ [f]).length := by simp
    rw [hlength] at hfile
    obtain ⟨w', handled, hleads, hw'⟩ :=
      ih (fun k hk => hrest k (List.mem_cons_of_mem _ hk)) hw₁ size'
    refine ⟨w', handled, hfile.trans hleads, ?_⟩
    simpa using hw'

end Files

/-! ### The whole transfer -/

section Whole
variable {t : Transfer} {outcome : Nat → Outcome} {w : Channels}

/-- Both loops done and the application waiting for a file that does not come. -/
theorem stuck_of_done {s r : TaskResult} {handled : Nat}
    (hreceiving : w.receiving.queue = [] ∧ w.receiving.closed = false) :
    (t.system outcome).Stuck (config (.done s) (.done r) (.idle handled) w) := by
  intro p
  change (t.net outcome).step _ p = none
  cases p with
  | sender => exact Net.step_halt rfl
  | receiver => exact Net.step_halt rfl
  | app =>
    refine Net.step_waits (c := .receiving) rfl ?_
    simp [config, Channels.chan, Op.apply, hreceiving]

/-- The channels once the sender has taken a response too. -/
theorem sender_finishes {responses taken rest : List DataChannelMessage}
    {first : DataChannelMessage} {r : ReceiveCtl} {a : AppCtl}
    (hup : w.up = ⟨taken, responses, false, false⟩) (hresponses : responses = first :: rest) :
    (t.system outcome).Leads (config .awaiting r a w)
      (config (.done .ok) r a (w.put .up ⟨taken ++ [first], rest, false, false⟩)) := by
  refine sender_on rfl ?_
  simp only [Channels.chan, hup, hresponses]
  rfl

theorem handedOver_config {s : SendCtl} {r : ReceiveCtl} {a : AppCtl}
    {files : List OutgoingFile} {more : List DataChannelMessage}
    (hw : Handled t outcome files more w) :
    handedOver (config s r a w) = files.map fun f => (f.fileId, f.pieces.flatten) := by
  simp only [handedOver, config, Channels.chan, hw.receiving]
  refine List.ext_getElem? fun k => ?_
  simp only [List.getElem?_map, List.getElem?_mapIdx]
  cases hk : files[k]? with
  | none => rfl
  | some f => simp [hw.contents k f hk]

/-- The transfer as the receiving application wants it: exactly the queued files,
byte by byte, no error, and both loops end well. -/
structure DeliversExactly (t : Transfer) (σ : TransferState) : Prop where
  handedOver : handedOver σ = t.queue.map fun f => (f.fileId, f.pieces.flatten)
  sendErrors : (σ.chan .sendErrors).written = []
  receiveErrors : (σ.chan .receiveErrors).written = []
  sender : σ.ctl .sender = .done .ok
  receiver : σ.ctl .receiver = .done .ok

/-- In addition every response is sent: the first is taken, the others are on their way. -/
structure Completed (t : Transfer) (outcome : Nat → Outcome) (σ : TransferState) : Prop
    extends DeliversExactly t σ where
  responses : (σ.chan .up).written = t.responses outcome t.queue
  taken : (σ.chan .up).taken = (t.responses outcome t.queue).take 1

/-- The sending loop runs first; the receiver then has the first header. -/
theorem leads_to_wire (t : Transfer) (outcome : Nat → Outcome) :
    (t.system outcome).Leads t.start
      (config .awaiting (.listening none 0) (.idle 0) (Channels.empty.sent (t.wire t.queue))) := by
  rw [start_eq_config]
  exact sender_queue rfl rfl t.queue t.queueSelected

/-- **With an application that reads to the end, a transfer of at least one file
completes**, whatever the order in which the tasks move. -/
theorem completes (h : ReadsToTheEnd outcome) (hjson : HeadersReadBack t) (hne : t.queue ≠ []) :
    (t.system outcome).Settles t.start (Completed t outcome) := by
  obtain ⟨f, rest, hqueue⟩ := List.exists_cons_of_ne_nil hne
  obtain ⟨size, hheader⟩ := readHeader_of_mem hjson (f := f) (by simp [hqueue]) 0
  have hsent := leads_to_wire t outcome
  rw [hqueue] at hsent
  have hnone : Handled t outcome [] ((processInChunks [] f.pieces).map binary ++ t.wire rest)
      ((Channels.empty.sent (t.wire (f :: rest))).put .down
        ⟨[text (t.header.toString (t.headerOf f))],
          (processInChunks [] f.pieces).map binary ++ t.wire rest, false, false⟩) :=
    { down := ⟨_, rfl⟩, up := rfl, receiving := rfl, results := ⟨_, rfl⟩, contents := by simp
      fresh := fun _ _ => rfl, sendErrors := rfl, receiveErrors := rfl }
  obtain ⟨w, handled, hfiles, hw⟩ := handle_files (s := .awaiting) h hjson
    (fun g hg => by simp [hqueue, hg]) hnone size
  rw [List.nil_append, ← hqueue] at hw
  -- a response per file: the sender takes the first of them
  obtain ⟨first, others, hresponses⟩ :
      ∃ first others, t.responses outcome t.queue = first :: others := by
    rw [hqueue]
    exact ⟨_, _, List.mapIdx_cons⟩
  refine settles_of_leads (Net.diamond (t.keepsReading h) t.start)
    (hsent.trans (Leads.trans (receiver_takes rfl _ _) (Leads.trans ?_ (hfiles.trans
      (sender_finishes hw.up hresponses))))) (stuck_of_done ?_) ?_
  · have hfirst : onMessage t 0 none (text (t.header.toString (t.headerOf f))) =
        .handingOver ⟨f.fileId, size, 0⟩ := hheader
    rw [hfirst]
    exact Leads.refl _
  · simp [Channels.put, hw.receiving]
  · exact {
      handedOver :=
        (handedOver_config hw : handedOver (config (.done .ok) (.done .ok) (.idle handled) w) = _)
      sendErrors := congrArg Chan.written hw.sendErrors
      receiveErrors := congrArg Chan.written hw.receiveErrors
      sender := rfl
      receiver := rfl
      responses := by simp [config, Channels.chan, Channels.put, Chan.written, hresponses]
      taken := by simp [config, Channels.chan, Channels.put, hresponses] }

/-- Without a file there is no header: the receiver takes the delimiter for one. -/
theorem fails_on_empty_queue (outcome : Nat → Outcome) (hjson : HeadersReadBack t)
    (hempty : t.queue = []) :
    ∃ w, (t.system outcome).Leads t.start (config .awaiting (.done .err) (.idle 0) w) := by
  have hsent := leads_to_wire t outcome
  rw [hempty] at hsent
  have hfirst : onMessage t 0 none delimiter = .done .err := by
    have hheader : onMessage t 0 none delimiter = readHeader t delimiter 0 := rfl
    rw [hheader, readHeader, hjson.delimiterFails]
  have htakes : (t.system outcome).Leads
      (config .awaiting (.listening none 0) (.idle 0) (Channels.empty.sent [delimiter]))
      (config .awaiting (onMessage t 0 none delimiter) (.idle 0) _) := receiver_takes rfl none 0
  rw [hfirst] at htakes
  exact ⟨_, hsent.trans htakes⟩

/-- A task that is done stays done. -/
theorem receiver_stays_done {result : TaskResult} {σ τ : TransferState}
    (h : (t.system outcome).Leads σ τ) (hσ : σ.ctl .receiver = .done result) :
    τ.ctl .receiver = .done result := by
  refine h.invariant (I := fun σ => σ.ctl .receiver = .done result) ?_ hσ
  intro σ p τ hσ hstep
  have hne : p ≠ .receiver := by
    rintro rfl
    have hhalt : (t.net outcome).step σ .receiver = none :=
      Net.step_halt (by change receiveAct t (σ.ctl .receiver) = _; rw [hσ]; rfl)
    rw [show (t.system outcome).step σ .receiver = none from hhalt] at hstep
    cases hstep
  exact (Net.step_ctl_of_ne hstep hne.symm).trans hσ

theorem not_settles_of_empty_queue (hjson : HeadersReadBack t) (hempty : t.queue = []) :
    ¬ (t.system fun _ => .success).Settles t.start (DeliversExactly t) := by
  intro hsettles
  obtain ⟨w, hleads⟩ := fails_on_empty_queue (fun _ => .success) hjson hempty
  obtain ⟨z, hz, -, hdelivers⟩ := hsettles.completes hleads
  have hdone := receiver_stays_done hz rfl
  rw [hdelivers.receiver] at hdone
  cases hdone

/-- **A transfer delivers exactly the queued files if and only if there is one.** With
an application that reads every file and reports success, every schedule ends with the
files handed over; of an empty queue the receiving loop makes an error. -/
theorem delivers_exactly_iff (hjson : HeadersReadBack t) :
    (t.system fun _ => .success).Settles t.start (DeliversExactly t) ↔ t.queue ≠ [] := by
  constructor
  · intro hsettles hempty
    exact not_settles_of_empty_queue hjson hempty hsettles
  · intro hne
    exact (completes (fun _ => rfl) hjson hne).mono fun _ hσ => hσ.toDeliversExactly

end Whole

/-! ### Transfers of one small file -/

/-- The JSON of a header whose strings need no escapes. -/
def headerJson (h : RTCSendFileHeaderRequest) : Bytes :=
  ("\x7b\"id\":\"" ++ h.id ++ "\",\"token\":\"" ++ h.token ++ "\"\x7d").toUTF8.toList

/-- The JSON of a response whose strings need no escapes. -/
def responseJson (r : RTCSendFileResponse) : Bytes :=
  ("\x7b\"id\":\"" ++ r.id ++ "\",\"success\":" ++ (if r.success then "true" else "false") ++
    (match r.error with
    | none => ""
    | some error => ",\"error\":\"" ++ error ++ "\"") ++ "\x7d").toUTF8.toList

/-- Two files are offered and `note` is accepted. -/
def noteTransfer (queue : List OutgoingFile) (h : ∀ f ∈ queue, f.fileId ∈ ["note"]) : Transfer where
  fileList := [⟨"note", 2⟩, ⟨"photo", 90000⟩]
  selectedFiles := ["note"]
  token id := id ++ "-token"
  queue := queue
  header :=
    { toString := headerJson
      fromSlice := fun data =>
        if data = headerJson ⟨"note", "note-token"⟩ then some ⟨"note", "note-token"⟩ else none }
  responseString := responseJson
  sendError := "Data channel is closed"
  selectedListed := by decide
  queueSelected := h

/-- The accepted file, its two bytes in two pieces. -/
def oneNote : Transfer := noteTransfer [⟨"note", [[1], [2]]⟩] (by decide)

/-- The accepted file is not queued after all. -/
def noNote : Transfer := noteTransfer [] (by decide)

theorem delivers_exactly_one_note :
    (oneNote.system fun _ => .success).Settles oneNote.start (DeliversExactly oneNote) :=
  (delivers_exactly_iff ⟨by decide +kernel, by decide +kernel, by decide +kernel⟩).mpr (by decide)

theorem nothing_queued_fails :
    HeadersReadBack noNote ∧
      ¬ (noNote.system fun _ => .success).Settles noNote.start (DeliversExactly noNote) :=
  have hjson : HeadersReadBack noNote := ⟨by decide, by decide, by decide +kernel⟩
  ⟨hjson, not_settles_of_empty_queue hjson rfl⟩

end MagicShare.WebRtc
