import MagicShare.WebRtc.Pin
import MagicShare.Base.Transition

/-! How data is cut into chunks, and how a string comes out of them again.

`process_in_chunks` hands its callback what arrives, cut at every `chunkSize` bytes.
`processInChunks` lists the chunks; `processWith` is the loop with its callback, in
any monad, and what it does is what the callback does on that list.

A string travels as chunks and a delimiter. `Link` is the channel between the two
ends while they work at the same time: in every run the receiver returns the string,
and the delimiter is the last message it takes (`chunk_framing`). -/
namespace MagicShare.WebRtc

/-! ### The loop with its callback -/

section Callback
variable {m : Type → Type} [Monad m] {T : Type} (callback : T → Bytes → m T)

/-- The inner loop: the full chunks of the buffer go out, one after the other. -/
def drainFull (dataChannel : T) (buffer : Bytes) : m (T × Bytes) :=
  if _h : chunkSize ≤ buffer.length then do
    let dataChannel ← callback dataChannel (buffer.take chunkSize)
    drainFull dataChannel (buffer.drop chunkSize)
  else pure (dataChannel, buffer)
termination_by buffer.length
decreasing_by
  have : 0 < chunkSize := by decide
  simp only [List.length_drop]
  omega

def processWith : T → Bytes → List Bytes → m Unit
  | dataChannel, buffer, [] =>
    if buffer = [] then pure () else do
      let _ ← callback dataChannel buffer
      pure ()
  | dataChannel, buffer, data :: rest => do
    let drained ← drainFull callback dataChannel (buffer ++ data)
    processWith drained.1 drained.2 rest

variable [LawfulMonad m]

theorem drainFull_eq (dataChannel : T) (buffer : Bytes) :
    drainFull callback dataChannel buffer =
      (splitFull buffer).1.foldlM callback dataChannel >>= fun d => pure (d, (splitFull buffer).2) := by
  induction buffer using splitFull.induct generalizing dataChannel with
  | case1 buffer h ih =>
    rw [drainFull, dif_pos h, splitFull_of_le h]
    simp only [List.foldlM_cons, bind_assoc]
    congr
    funext next
    exact ih next
  | case2 buffer h =>
    rw [drainFull, dif_neg h, splitFull_of_lt (by omega)]
    simp

/-- **The callback is called on the chunks**, in their order, as long as it succeeds. -/
theorem processWith_eq (dataChannel : T) (buffer : Bytes) (pieces : List Bytes) :
    processWith callback dataChannel buffer pieces =
      (processInChunks buffer pieces).foldlM callback dataChannel >>= fun _ => pure () := by
  induction pieces generalizing dataChannel buffer with
  | nil =>
    by_cases h : buffer = []
    · simp [processWith, processInChunks, h]
    · simp [processWith, processInChunks, h]
  | cons data rest ih =>
    simp only [processWith, processInChunks, drainFull_eq, List.foldlM_append, bind_assoc, pure_bind]
    congr
    funext next
    exact ih next _

end Callback

/-! ### The sizes of the chunks -/

/-- As `process_in_chunks` leaves them: full but for the last, and none is empty. -/
structure WellSized (chunks : List Bytes) : Prop where
  full : ∀ c ∈ chunks.dropLast, c.length = chunkSize
  last : ∀ c ∈ chunks.getLast?, 1 ≤ c.length ∧ c.length ≤ chunkSize

theorem wellSized_nil : WellSized [] := ⟨by simp, by simp⟩

theorem wellSized_singleton {c : Bytes} (hne : c ≠ []) (h : c.length ≤ chunkSize) : WellSized [c] := by
  refine ⟨by simp, ?_⟩
  intro d hd
  obtain rfl : c = d := by simpa using hd
  exact ⟨List.length_pos_iff.mpr hne, h⟩

theorem WellSized.cons {c : Bytes} {chunks : List Bytes} (hc : c.length = chunkSize)
    (h : WellSized chunks) : WellSized (c :: chunks) := by
  have hpos : 0 < chunkSize := by decide
  cases chunks with
  | nil => exact wellSized_singleton (fun hnil => by simp [hnil] at hc; omega) (by omega)
  | cons d rest =>
    constructor
    · intro e he
      rw [List.dropLast_cons_of_ne_nil (List.cons_ne_nil d rest)] at he
      obtain rfl | he := List.mem_cons.mp he
      · exact hc
      · exact h.full e he
    · intro e he
      rw [List.getLast?_cons_cons] at he
      exact h.last e he

theorem WellSized.append {full chunks : List Bytes} (hfull : ∀ c ∈ full, c.length = chunkSize)
    (h : WellSized chunks) : WellSized (full ++ chunks) := by
  induction full with
  | nil => exact h
  | cons c rest ih =>
    exact .cons (hfull c List.mem_cons_self) (ih fun d hd => hfull d (List.mem_cons_of_mem c hd))

/-- The inner loop emits full chunks and leaves less than one. -/
theorem splitFull_sizes (buffer : Bytes) :
    (∀ c ∈ (splitFull buffer).1, c.length = chunkSize) ∧ (splitFull buffer).2.length < chunkSize := by
  induction buffer using splitFull.induct with
  | case1 buffer h ih =>
    rw [splitFull_of_le h]
    refine ⟨?_, ih.2⟩
    intro c hc
    obtain rfl | hc := List.mem_cons.mp hc
    · rw [List.length_take]
      omega
    · exact ih.1 c hc
  | case2 buffer h =>
    have hlt : buffer.length < chunkSize := by omega
    rw [splitFull_of_lt hlt]
    exact ⟨by simp, hlt⟩

/-- However the data comes in pieces, and with what was left of a chunk before. -/
theorem processInChunks_wellSized (pieces : List Bytes) {buffer : Bytes} (h : buffer.length < chunkSize) :
    WellSized (processInChunks buffer pieces) := by
  induction pieces generalizing buffer with
  | nil =>
    by_cases hnil : buffer = []
    · rw [processInChunks, if_pos hnil]
      exact wellSized_nil
    · rw [processInChunks, if_neg hnil]
      exact wellSized_singleton hnil (by omega)
  | cons data rest ih =>
    obtain ⟨hfull, hleft⟩ := splitFull_sizes (buffer ++ data)
    exact .append hfull (ih hleft)

/-- No data, no chunk. -/
theorem processInChunks_eq_nil_iff (pieces : List Bytes) :
    processInChunks [] pieces = [] ↔ pieces.flatten = [] := by
  have hflat := processInChunks_flatten [] pieces
  rw [List.nil_append] at hflat
  have hsized : WellSized (processInChunks [] pieces) := processInChunks_wellSized pieces (by decide)
  rw [← hflat]
  constructor
  · intro h
    rw [h, List.flatten_nil]
  · intro h
    by_contra hne
    have hlast := hsized.last _ (List.getLast_mem_getLast? hne)
    have hempty : (processInChunks [] pieces).getLast hne = [] :=
      List.flatten_eq_nil_iff.mp h _ (List.getLast_mem hne)
    simp [hempty] at hlast

/-! ### Reading a string -/

/-- `receive_string_from_chunks` on what is in a channel that was closed behind it:
the bytes, and what it leaves. -/
def receiveStringFromChunks : Bytes → List DataChannelMessage → Bytes × List DataChannelMessage
  | buffer, [] => (buffer, [])
  | buffer, msg :: rest =>
    if msg.isString then (buffer, rest) else receiveStringFromChunks (buffer ++ msg.data) rest

theorem receiveStringFromChunks_chunks (chunks : List Bytes) (buffer : Bytes)
    (following : List DataChannelMessage) :
    receiveStringFromChunks buffer (chunks.map binary ++ delimiter :: following) =
      (buffer ++ chunks.flatten, following) := by
  induction chunks generalizing buffer with
  | nil => simp [receiveStringFromChunks, delimiter]
  | cons chunk rest ih =>
    simp only [List.map_cons, List.cons_append, receiveStringFromChunks, binary_isString, binary_data,
      Bool.false_eq_true, if_false, ih, List.flatten_cons, List.append_assoc]

theorem receiveStringFromChunks_chunked (string : Bytes) (following : List DataChannelMessage) :
    receiveStringFromChunks [] (chunked string ++ following) = (string, following) := by
  rw [chunked, List.append_assoc, List.singleton_append, receiveStringFromChunks_chunks,
    sendStringInChunks_flatten, List.nil_append]

/-! ### Both ends at work -/

inductive Receiving
  | collecting (buffer : Bytes)
  | returned (bytes : Bytes)
  deriving DecidableEq

/-- What is still to be sent, what is on its way, and how far the receiver is. -/
structure Link where
  toSend : List DataChannelMessage
  queue : List DataChannelMessage
  receiver : Receiving
  deriving DecidableEq

inductive LinkMove
  | send
  | receive
  deriving DecidableEq

/-- One round of the receiver's loop. -/
def collect (buffer : Bytes) (msg : DataChannelMessage) : Receiving :=
  if msg.isString then .returned buffer else .collecting (buffer ++ msg.data)

/-- The two ends move as they like; the receiver waits for a message and stops after it
has returned. -/
def Link.step (l : Link) : LinkMove → Option Link
  | .send =>
    match l.toSend with
    | [] => none
    | msg :: rest => some { l with toSend := rest, queue := l.queue ++ [msg] }
  | .receive =>
    match l.receiver, l.queue with
    | .collecting buffer, msg :: rest => some { l with queue := rest, receiver := collect buffer msg }
    | _, _ => none

/-- A string is sent and then whatever follows, to a receiver that starts to read it. -/
def Link.start (string : Bytes) (following : List DataChannelMessage) : Link :=
  ⟨chunked string ++ following, [], .collecting []⟩

def linkSystem (string : Bytes) (following : List DataChannelMessage) : Transition.System Link LinkMove :=
  ⟨.start string following, Link.step⟩

theorem Link.step_cases {l k : Link} {move : LinkMove} (h : l.step move = some k) :
    (∃ msg rest, move = .send ∧ l.toSend = msg :: rest ∧
      k = { l with toSend := rest, queue := l.queue ++ [msg] }) ∨
    ∃ buffer msg rest, move = .receive ∧ l.receiver = .collecting buffer ∧ l.queue = msg :: rest ∧
      k = { l with queue := rest, receiver := collect buffer msg } := by
  cases move with
  | send =>
    cases hsend : l.toSend with
    | nil => simp [step, hsend] at h
    | cons msg rest =>
      simp only [step, hsend, Option.some.injEq] at h
      exact .inl ⟨msg, rest, rfl, rfl, h.symm⟩
  | receive =>
    cases hreceiver : l.receiver with
    | returned bytes => simp [step, hreceiver] at h
    | collecting buffer =>
      cases hqueue : l.queue with
      | nil => simp [step, hreceiver, hqueue] at h
      | cons msg rest =>
        simp only [step, hreceiver, hqueue, Option.some.injEq] at h
        exact .inr ⟨buffer, msg, rest, rfl, rfl, rfl, h.symm⟩

/-- What the receiver makes of all that is on its way or still to be sent. -/
def Link.outcome (l : Link) : Bytes × List DataChannelMessage :=
  match l.receiver with
  | .collecting buffer => receiveStringFromChunks buffer (l.queue ++ l.toSend)
  | .returned bytes => (bytes, l.queue ++ l.toSend)

/-- No move changes what comes out. -/
theorem Link.step_outcome {l k : Link} {move : LinkMove} (h : l.step move = some k) :
    k.outcome = l.outcome := by
  obtain ⟨msg, rest, -, hsend, rfl⟩ | ⟨buffer, msg, rest, -, hreceiver, hqueue, rfl⟩ := step_cases h
  · have hall : l.queue ++ [msg] ++ rest = l.queue ++ l.toSend := by
      rw [hsend, List.append_assoc, List.singleton_append]
    unfold outcome
    simp only [hall]
  · simp only [outcome, hreceiver, hqueue, List.cons_append, receiveStringFromChunks, collect]
    by_cases hstring : msg.isString = true
    · simp only [hstring, if_true]
    · simp only [hstring, if_false, Bool.false_eq_true]

/-- A message is sent once and taken once. -/
def Link.measure (l : Link) : Nat := 2 * l.toSend.length + l.queue.length

theorem Link.step_measure {l k : Link} {move : LinkMove} (h : l.step move = some k) :
    k.measure < l.measure := by
  obtain ⟨msg, rest, -, hsend, rfl⟩ | ⟨buffer, msg, rest, -, -, hqueue, rfl⟩ := step_cases h
  · simp only [measure, hsend, List.length_cons, List.length_append, List.length_nil]
    omega
  · simp only [measure, hqueue, List.length_cons]
    omega

theorem link_run_length {string : Bytes} {following : List DataChannelMessage} {moves : List LinkMove}
    {l k : Link} (h : (linkSystem string following).run l moves = some k) :
    moves.length + k.measure ≤ l.measure := by
  induction moves generalizing l with
  | nil =>
    obtain rfl := Option.some.inj h
    simp
  | cons move rest ih =>
    obtain ⟨m, hm, hrest⟩ := Transition.System.run_cons_some _ h
    have hlt := Link.step_measure hm
    have hle := ih hrest
    simp only [List.length_cons]
    omega

/-- While the receiver reads, the end of the string is still to come. -/
def Link.EndAhead (l : Link) : Prop :=
  ∀ buffer, l.receiver = .collecting buffer → ∃ msg ∈ l.queue ++ l.toSend, msg.isString = true

theorem Link.step_endAhead {l k : Link} {move : LinkMove} (hl : l.EndAhead) (h : l.step move = some k) :
    k.EndAhead := by
  obtain ⟨msg, rest, -, hsend, rfl⟩ | ⟨buffer, msg, rest, -, hreceiver, hqueue, rfl⟩ := step_cases h
  · have hall : l.queue ++ [msg] ++ rest = l.queue ++ l.toSend := by
      rw [hsend, List.append_assoc, List.singleton_append]
    unfold EndAhead
    simp only [hall]
    exact hl
  · intro later hlater
    obtain ⟨last, hmem, hlast⟩ := hl buffer hreceiver
    rw [hqueue, List.cons_append] at hmem
    obtain rfl | hmem := List.mem_cons.mp hmem
    · -- the end was just read
      simp [collect, hlast] at hlater
    · exact ⟨last, hmem, hlast⟩

/-- A receiver that waits for the end is not stuck: a message is on its way, or one can
be sent. -/
theorem Link.can_move {l : Link} {buffer : Bytes} (hl : l.EndAhead)
    (hreceiver : l.receiver = .collecting buffer) : ∃ move k, l.step move = some k := by
  obtain ⟨msg, hmem, -⟩ := hl buffer hreceiver
  cases hqueue : l.queue with
  | cons first rest => exact ⟨.receive, _, by simp only [step, hreceiver, hqueue]; rfl⟩
  | nil =>
    cases hsend : l.toSend with
    | nil => simp [hqueue, hsend] at hmem
    | cons first rest => exact ⟨.send, _, by simp only [step, hsend]; rfl⟩

theorem Link.start_outcome (string : Bytes) (following : List DataChannelMessage) :
    (start string following).outcome = (string, following) :=
  receiveStringFromChunks_chunked string following

theorem Link.start_endAhead (string : Bytes) (following : List DataChannelMessage) :
    (start string following).EndAhead := by
  intro buffer _
  refine ⟨delimiter, ?_, rfl⟩
  simp [start, chunked]

/-- **Chunk framing.** Whatever the callback does, `process_in_chunks` calls it on chunks
that are the data and are full but for the last. Sent in chunks with a delimiter, a
string is what the receiver returns in every run, with all that follows still in the
channel; no run goes on for ever, and none stops before the receiver has returned. -/
theorem chunk_framing :
    (∀ pieces : List Bytes,
      (∀ {σ T : Type} (callback : T → Bytes → StateM σ T) (dataChannel : T),
        processWith callback dataChannel [] pieces =
          (processInChunks [] pieces).foldlM callback dataChannel >>= fun _ => pure ()) ∧
      (processInChunks [] pieces).flatten = pieces.flatten ∧
      WellSized (processInChunks [] pieces) ∧
      (pieces.flatten = [] → processInChunks [] pieces = [])) ∧
    ∀ (string : Bytes) (following : List DataChannelMessage) (moves : List LinkMove) (l : Link),
      (linkSystem string following).run (.start string following) moves = some l →
        (∀ bytes, l.receiver = .returned bytes → bytes = string ∧ l.queue ++ l.toSend = following) ∧
        (∀ buffer, l.receiver = .collecting buffer → ∃ move k, l.step move = some k) ∧
        moves.length ≤ 2 * (chunked string ++ following).length := by
  constructor
  · intro pieces
    refine ⟨fun callback dataChannel => processWith_eq callback dataChannel [] pieces, ?_, ?_, ?_⟩
    · exact processInChunks_flatten [] pieces
    · exact processInChunks_wellSized pieces (by decide)
    · exact (processInChunks_eq_nil_iff pieces).mpr
  · intro string following moves l hrun
    have hinv : l.outcome = (string, following) ∧ l.EndAhead :=
      Transition.System.run_invariant (I := fun l => l.outcome = (string, following) ∧ l.EndAhead)
        (fun s e t hs hst => ⟨(Link.step_outcome hst).trans hs.1, Link.step_endAhead hs.2 hst⟩)
        ⟨Link.start_outcome string following, Link.start_endAhead string following⟩ hrun
    refine ⟨?_, fun buffer hreceiver => Link.can_move hinv.2 hreceiver, ?_⟩
    · intro bytes hreturned
      have houtcome := hinv.1
      simp only [Link.outcome, hreturned, Prod.mk.injEq] at houtcome
      exact houtcome
    · have hlength := link_run_length hrun
      have hstart : (Link.start string following).measure = 2 * (chunked string ++ following).length := rfl
      omega

end MagicShare.WebRtc
