import MagicShare.Base.Transition

/-! An upload isolate (`upload_isolate.dart`) and the main isolate that gives it tasks
(`actions.dart`).

The main isolate takes an id, sends the upload from a microtask, and makes a progress
stream of the results with that id. A cancel is sent at once. The child registers the
task's cancel token as it handles the upload, and from there on reports whatever happens.
A cancel before the microtask comes before its upload and finds no token, and a task whose
file stream cannot be opened reports nothing. In the runs without the two every stream
carries its task's events and ends once, and every cancel reaches its token
(`uploads_end_once`). -/
namespace MagicShare.Send
variable {α : Type}

/-! ### Messages -/

inductive BaseHttpUploadTask where
  | upload
  | cancel (taskId : Nat)
  deriving DecidableEq

structure IsolateTask where
  id : Nat
  data : BaseHttpUploadTask

/-- The upload task that a message to the child is about. -/
def IsolateTask.about (task : IsolateTask) : Nat :=
  match task.data with
  | .upload => task.id
  | .cancel taskId => taskId

structure IsolateTaskStreamResult (α : Type) where
  id : Nat
  done : Bool
  error : Option String
  data : Option α

/-- What a progress stream carries. -/
inductive StreamEvent (α : Type) where
  | data (data : α)
  | error (message : String)
  | closed
  deriving DecidableEq

namespace StreamEvent

def isEnd : StreamEvent α → Bool
  | .data _ => false
  | .error _ | .closed => true

/-- The result with which the child reports it. -/
def result (id : Nat) : StreamEvent α → IsolateTaskStreamResult α
  | .data value => ⟨id, false, none, some value⟩
  | .error message => ⟨id, true, some message, none⟩
  | .closed => ⟨id, true, none, none⟩

end StreamEvent

/-- The event of a result in the stream of a task. -/
def IsolateTaskStreamResult.eventFor? (taskId : Nat) (result : IsolateTaskStreamResult α) : Option (StreamEvent α) :=
  if result.id = taskId then
    match result.data with
    | some data => some (.data data)
    | none =>
      if result.done then
        match result.error with
        | some error => some (.error error)
        | none => some .closed
      else none
  else none

/-! ### State -/

/-- `_convertResponseToStream`. An error neither closes the controller nor ends the
subscription. -/
structure ProgressStream (α : Type) where
  events : List (StreamEvent α) := []
  listening : Bool := true

namespace ProgressStream

def listen (taskId : Nat) (result : IsolateTaskStreamResult α) (stream : ProgressStream α) : ProgressStream α :=
  if stream.listening then
    match result.eventFor? taskId with
    | some .closed => ⟨stream.events ++ [.closed], false⟩
    | some event => {stream with events := stream.events ++ [event]}
    | none => stream
  else stream

/-- One event is the end, and it is the last. -/
def Ended (stream : ProgressStream α) : Prop :=
  ∃ before last, stream.events = before ++ [last] ∧ last.isEnd = true ∧ ∀ event ∈ before, event.isEnd = false

end ProgressStream

/-- A task in the guarded block of the child. -/
structure UploadChild (α : Type) where
  sent : List (StreamEvent α) := []
  running : Bool := true
  /-- How much it had sent as its token was cancelled. -/
  cancelledAt : Option Nat := none

def UploadChild.cancel (child : UploadChild α) : UploadChild α :=
  {child with cancelledAt := some child.sent.length}

/-- The http client's `answers` is whether a request may be answered, by whether its
token is cancelled. -/
def UploadChild.mayGet (answers : Bool → Bool) (child : UploadChild α) : StreamEvent α → Bool
  | .closed => answers child.cancelledAt.isSome
  | .data _ | .error _ => true

structure UploadIsolate (α : Type) where
  nextId : Nat := 0
  microtasks : List Nat := []
  toChild : List IsolateTask := []
  toMain : List (IsolateTaskStreamResult α) := []
  children : Nat → Option (UploadChild α) := fun _ => none
  /-- Whether the task has a token in the map. -/
  cancelTokens : Nat → Bool := fun _ => false
  streams : Nat → Option (ProgressStream α) := fun _ => none
  /-- The tasks that a cancel was issued for. -/
  cancels : List Nat := []

inductive UploadEvent (α : Type) where
  /-- `IsolateHttpUploadAction`. -/
  | upload
  /-- Some other task takes an id. -/
  | otherId
  /-- The next deferred upload is sent. -/
  | microtask
  /-- `IsolateHttpUploadCancelAction`. -/
  | cancel (taskId : Nat)
  /-- The child takes the next message; an upload's file stream opens, or throws. -/
  | handle (opens : Bool)
  /-- A task in the guarded block gets to a progress, an error, or its completion. -/
  | send (id : Nat) (event : StreamEvent α)
  /-- The main isolate takes the next result. -/
  | receive

namespace UploadIsolate

/-! ### Steps -/

/-- The child's handler, up to the request. -/
def handle (s : UploadIsolate α) (opens : Bool) (task : IsolateTask) : UploadIsolate α :=
  match task.data with
  | .cancel taskId =>
    {s with
      children :=
        if s.cancelTokens taskId then Function.update s.children taskId ((s.children taskId).map UploadChild.cancel)
        else s.children
      cancelTokens := Function.update s.cancelTokens taskId false}
  | .upload =>
    -- outside of the guarded block an exception is only logged
    if opens then
      {s with
        children := Function.update s.children task.id (some {})
        cancelTokens := Function.update s.cancelTokens task.id true}
    else s

def send (s : UploadIsolate α) (id : Nat) (child : UploadChild α) (event : StreamEvent α) : UploadIsolate α :=
  {s with
    children := Function.update s.children id (some {child with sent := child.sent ++ [event], running := !event.isEnd})
    toMain := s.toMain ++ [event.result id]}

def step (answers : Bool → Bool) (s : UploadIsolate α) : UploadEvent α → Option (UploadIsolate α)
  | .upload =>
    some {s with
      nextId := s.nextId + 1
      microtasks := s.microtasks ++ [s.nextId]
      streams := Function.update s.streams s.nextId (some {})}
  | .otherId => some {s with nextId := s.nextId + 1}
  | .microtask =>
    match s.microtasks with
    | [] => none
    | id :: rest => some {s with microtasks := rest, toChild := s.toChild ++ [⟨id, .upload⟩]}
  | .cancel taskId =>
    if (s.streams taskId).isSome then
      some {s with
        nextId := s.nextId + 1
        toChild := s.toChild ++ [⟨s.nextId, .cancel taskId⟩]
        cancels := s.cancels ++ [taskId]}
    else none
  | .handle opens =>
    match s.toChild with
    | [] => none
    | task :: rest => some ({s with toChild := rest}.handle opens task)
  | .send id event =>
    match s.children id with
    | none => none
    | some child =>
      if child.running && child.mayGet answers event then some (s.send id child event) else none
  | .receive =>
    match s.toMain with
    | [] => none
    | result :: rest =>
      some {s with toMain := rest, streams := fun taskId => (s.streams taskId).map (ProgressStream.listen taskId result)}

end UploadIsolate

/-- A main isolate and an upload isolate that have just started. -/
def uploadIsolate (α : Type) (answers : Bool → Bool) : Transition.System (UploadIsolate α) (UploadEvent α) where
  init := {}
  step := UploadIsolate.step answers

namespace UploadIsolate

/-! ### The property and its condition -/

/-- What the task has sent. -/
def sentBy (s : UploadIsolate α) (id : Nat) : List (StreamEvent α) :=
  ((s.children id).map UploadChild.sent).getD []

/-- What is on its way to the stream of the task. -/
def inFlight (s : UploadIsolate α) (id : Nat) : List (StreamEvent α) :=
  s.toMain.filterMap (IsolateTaskStreamResult.eventFor? id)

/-- The task goes on, or its end is on its way. -/
def Pending (s : UploadIsolate α) (id : Nat) : Prop :=
  id ∈ s.microtasks ∨ (∃ task ∈ s.toChild, task.data = .upload ∧ task.id = id) ∨
    (∃ child, s.children id = some child ∧ child.running = true) ∨ ∃ event ∈ s.inFlight id, event.isEnd = true

/-- Each stream gets what its task sends, in order, and ends once; a cancel reaches its
task's token, and a task that it interrupts does not complete. -/
structure EndsOnce (s : UploadIsolate α) : Prop where
  own : ∀ id stream, s.streams id = some stream → stream.events ++ s.inFlight id = s.sentBy id
  ends : ∀ id stream, s.streams id = some stream →
    (∀ event ∈ stream.events, event.isEnd = false) ∧ s.Pending id ∨ stream.Ended ∧ ¬ s.Pending id
  cancelled : ∀ id ∈ s.cancels, (∃ task ∈ s.toChild, task.data = .cancel id) ∨
    ∃ child, s.children id = some child ∧ child.cancelledAt.isSome = true
  interrupted : ∀ id child sent, s.children id = some child → child.cancelledAt = some sent →
    .closed ∉ child.sent.drop sent

/-- A cancel is issued after the upload's microtask, and an upload's file stream opens. -/
def Ordered (s : UploadIsolate α) : UploadEvent α → Prop
  | .cancel taskId => taskId ∉ s.microtasks
  | .handle opens => (s.toChild.head?.any fun task => task.data = .upload) → opens = true
  | _ => True

instance (s : UploadIsolate α) : (e : UploadEvent α) → Decidable (s.Ordered e)
  | .cancel taskId => inferInstanceAs (Decidable (taskId ∉ s.microtasks))
  | .handle opens => inferInstanceAs (Decidable ((s.toChild.head?.any fun task => task.data = .upload) → opens = true))
  | .upload | .otherId | .microtask | .send _ _ | .receive => .isTrue trivial
/-! ### The invariant -/

variable {s t : UploadIsolate α} {answers : Bool → Bool}

def begun (s : UploadIsolate α) (id : Nat) : Bool := (s.streams id).isSome

/-- The token of a task in the child; how much it had sent as it was cancelled. -/
def token (s : UploadIsolate α) (id : Nat) : Option (Option Nat) := (s.children id).map UploadChild.cancelledAt

def eventsOf (s : UploadIsolate α) (id : Nat) : List (StreamEvent α) :=
  ((s.streams id).map ProgressStream.events).getD []

/-- Each task is in one place on its way to the child, ahead of its cancels. -/
structure Queued (s : UploadIsolate α) : Prop where
  fresh : ∀ id, s.nextId ≤ id → s.begun id = false
  deferred : ∀ id ∈ s.microtasks, s.begun id = true ∧ s.token id = none ∧ ∀ task ∈ s.toChild, task.about ≠ id
  once : s.microtasks.Nodup
  known : ∀ task ∈ s.toChild, s.begun task.about = true
  upcoming : ∀ task ∈ s.toChild, task.data = .upload → s.token task.id = none
  ahead : s.toChild.Pairwise fun first task => task.data = .upload → first.about ≠ task.id
  placed : ∀ id, s.begun id = true →
    id ∈ s.microtasks ∨ (∃ task ∈ s.toChild, task.data = .upload ∧ task.id = id) ∨ (s.token id).isSome = true
  started : ∀ id, (s.token id).isSome = true → s.begun id = true
  registered : ∀ id, s.token id = some none → s.cancelTokens id = true
  cancelled : ∀ id ∈ s.cancels, (∃ task ∈ s.toChild, task.data = .cancel id) ∨ ∃ sent, s.token id = some (some sent)

/-- A task's end is its last event, and after its cancel it does not complete. -/
structure Proper (child : UploadChild α) : Prop where
  runs : child.running = !child.sent.any StreamEvent.isEnd
  last : ∀ event ∈ child.sent.dropLast, event.isEnd = false
  interrupted : ∀ sent, child.cancelledAt = some sent → sent ≤ child.sent.length ∧ .closed ∉ child.sent.drop sent

/-- What the tasks send is in their streams or on its way. -/
structure Told (s : UploadIsolate α) : Prop where
  proper : ∀ id child, s.children id = some child → Proper child
  delivered : ∀ id, s.eventsOf id ++ s.inFlight id = s.sentBy id
  listening : ∀ id stream, s.streams id = some stream → stream.listening = false → .closed ∈ stream.events

/-! ### One step -/

theorem Queued.same (hq : s.Queued) (hnext : s.nextId ≤ t.nextId) (hmicrotasks : t.microtasks = s.microtasks)
    (htoChild : t.toChild = s.toChild) (hbegun : t.begun = s.begun) (htoken : t.token = s.token)
    (hcancelTokens : t.cancelTokens = s.cancelTokens) (hcancels : t.cancels = s.cancels) : t.Queued := by
  obtain ⟨hfresh, hdeferred, honce, hknown, hupcoming, hahead, hplaced, hstarted, hregistered, hcancelled⟩ := hq
  refine ⟨fun id hid => ?_, ?_, ?_, ?_, ?_, ?_, ?_, ?_, ?_, ?_⟩
  · rw [hbegun]
    exact hfresh id (Nat.le_trans hnext hid)
  · rwa [hmicrotasks, hbegun, htoken, htoChild]
  · rwa [hmicrotasks]
  · rwa [htoChild, hbegun]
  · rwa [htoChild, htoken]
  · rwa [htoChild]
  · rwa [hmicrotasks, htoChild, hbegun, htoken]
  · rwa [htoken, hbegun]
  · rwa [htoken, hcancelTokens]
  · rwa [hcancels, htoChild, htoken]

theorem Told.same (ht : s.Told) (hchildren : t.children = s.children) (hstreams : t.streams = s.streams)
    (htoMain : t.toMain = s.toMain) : t.Told := by
  obtain ⟨hproper, hdelivered, hlistening⟩ := ht
  refine ⟨hchildren ▸ hproper, fun id => ?_, hstreams ▸ hlistening⟩
  simpa only [eventsOf, inFlight, sentBy, hchildren, hstreams, htoMain] using hdelivered id

/-- An upload is asked for. -/
theorem Queued.upload (hq : s.Queued) (hnext : t.nextId = s.nextId + 1) (hmicrotasks : t.microtasks = s.microtasks ++ [s.nextId])
    (htoChild : t.toChild = s.toChild) (hbegun : ∀ id, t.begun id = if id = s.nextId then true else s.begun id)
    (htoken : t.token = s.token) (hcancelTokens : t.cancelTokens = s.cancelTokens) (hcancels : t.cancels = s.cancels) :
    t.Queued := by
  have hnew : s.begun s.nextId = false := hq.fresh _ Nat.le.refl
  have hkept : ∀ id, s.begun id = true → t.begun id = true := by
    intro id hid
    rw [hbegun]
    split
    · rfl
    · exact hid
  refine ⟨fun id hid => ?_, fun id hid => ?_, ?_, fun task htask => ?_, ?_, ?_, fun id hid => ?_, fun id hid => ?_, ?_, ?_⟩
  · rw [hnext] at hid
    rw [hbegun, if_neg (by omega)]
    exact hq.fresh id (by omega)
  · rw [hmicrotasks, List.mem_append, List.mem_singleton] at hid
    rw [htoken, htoChild]
    rcases hid with hid | rfl
    · obtain ⟨hb, hrest⟩ := hq.deferred id hid
      exact ⟨hkept id hb, hrest⟩
    · refine ⟨by simp [hbegun], ?_, fun task htask habout => ?_⟩
      · by_contra hne
        cases hnew.symm.trans (hq.started _ (Option.isSome_iff_ne_none.mpr hne))
      · cases (habout ▸ hq.known task htask).symm.trans hnew
  · rw [hmicrotasks]
    refine List.nodup_append.mpr ⟨hq.once, List.pairwise_singleton .., fun id hid other hother heq => ?_⟩
    obtain rfl := List.mem_singleton.mp hother
    cases (heq ▸ (hq.deferred id hid).1).symm.trans hnew
  · exact hkept _ (hq.known task (htoChild ▸ htask))
  · rw [htoChild, htoken]
    exact hq.upcoming
  · rw [htoChild]
    exact hq.ahead
  · rw [hmicrotasks, htoChild, htoken, List.mem_append, List.mem_singleton]
    rw [hbegun] at hid
    split at hid
    · next heq => exact .inl (.inr heq)
    · exact (hq.placed id hid).imp_left .inl
  · rw [htoken] at hid
    exact hkept id (hq.started id hid)
  · rw [htoken, hcancelTokens]
    exact hq.registered
  · rw [hcancels, htoChild, htoken]
    exact hq.cancelled

/-- A message is sent: an upload that was deferred, or a cancel. -/
theorem Queued.sends (hq : s.Queued) {task : IsolateTask} (hnext : s.nextId ≤ t.nextId) (htoChild : t.toChild = s.toChild ++ [task])
    (hbegun : t.begun = s.begun) (htoken : t.token = s.token) (hcancelTokens : t.cancelTokens = s.cancelTokens)
    (hknown : s.begun task.about = true) (honce : t.microtasks.Nodup)
    (hdeferred : ∀ id ∈ t.microtasks, id ∈ s.microtasks ∧ task.about ≠ id)
    (hplaced : ∀ id ∈ s.microtasks, id ∈ t.microtasks ∨ task.data = .upload ∧ task.id = id)
    (hupload : task.data = .upload → task.id ∈ s.microtasks)
    (hcancels : ∀ id ∈ t.cancels, id ∈ s.cancels ∨ task.data = .cancel id) : t.Queued := by
  have hmem : ∀ {other : IsolateTask}, other ∈ t.toChild → other ∈ s.toChild ∨ other = task := by
    intro other hother
    rw [htoChild] at hother
    exact (List.mem_append.mp hother).imp_right List.mem_singleton.mp
  have hold : ∀ {other : IsolateTask}, other ∈ s.toChild → other ∈ t.toChild := fun hother =>
    htoChild ▸ List.mem_append_left _ hother
  have hnew : task ∈ t.toChild := htoChild ▸ List.mem_append_right _ List.mem_cons_self
  refine ⟨fun id hid => ?_, fun id hid => ?_, honce, fun other hother => ?_, fun other hother hother' => ?_, ?_, fun id hid => ?_,
    ?_, ?_, fun id hid => ?_⟩
  · rw [hbegun]
    exact hq.fresh id (Nat.le_trans hnext hid)
  · obtain ⟨hid, hne⟩ := hdeferred id hid
    obtain ⟨hb, hnone, hnot⟩ := hq.deferred id hid
    rw [hbegun, htoken]
    refine ⟨hb, hnone, fun other hother => ?_⟩
    rcases hmem hother with hother | rfl
    · exact hnot other hother
    · exact hne
  · rw [hbegun]
    rcases hmem hother with hother | rfl
    · exact hq.known other hother
    · exact hknown
  · rw [htoken]
    rcases hmem hother with hother | rfl
    · exact hq.upcoming other hother hother'
    · exact (hq.deferred _ (hupload hother')).2.1
  · rw [htoChild]
    refine List.pairwise_append.mpr ⟨hq.ahead, List.pairwise_singleton .., fun first hfirst other hother hother' => ?_⟩
    obtain rfl := List.mem_singleton.mp hother
    exact (hq.deferred _ (hupload hother')).2.2 first hfirst
  · rw [hbegun] at hid
    rw [htoken]
    rcases hq.placed id hid with hin | ⟨other, hother, hother', heq⟩ | hsome
    · exact (hplaced id hin).imp_right fun hsent => .inl ⟨task, hnew, hsent⟩
    · exact .inr (.inl ⟨other, hold hother, hother', heq⟩)
    · exact .inr (.inr hsome)
  · rw [htoken, hbegun]
    exact hq.started
  · rw [htoken, hcancelTokens]
    exact hq.registered
  · rw [htoken]
    rcases hcancels id hid with hid | hcancel
    · refine (hq.cancelled id hid).imp_left fun hsent => ?_
      obtain ⟨other, hother, hcancel⟩ := hsent
      exact ⟨other, hold hother, hcancel⟩
    · exact .inl ⟨task, hnew, hcancel⟩

theorem Queued.microtask (hq : s.Queued) {id : Nat} {rest : List Nat} (hmicrotasks : s.microtasks = id :: rest) :
    Queued {s with microtasks := rest, toChild := s.toChild ++ [⟨id, .upload⟩]} := by
  have hid : id ∈ s.microtasks := hmicrotasks ▸ List.mem_cons_self
  have honce := hq.once
  rw [hmicrotasks, List.nodup_cons] at honce
  refine hq.sends Nat.le.refl rfl rfl rfl rfl (hq.deferred id hid).1 honce.2 (fun other hother => ⟨?_, ?_⟩) (fun other hother => ?_)
    (fun _ => hid) fun _ => .inl
  · exact hmicrotasks ▸ List.mem_cons_of_mem _ hother
  · rintro rfl
    exact honce.1 hother
  · rw [hmicrotasks] at hother
    rcases List.mem_cons.mp hother with rfl | hother
    · exact .inr ⟨rfl, rfl⟩
    · exact .inl hother

/-- The cancel of a task whose upload is sent. -/
theorem Queued.cancel (hq : s.Queued) {taskId : Nat} (hsent : taskId ∉ s.microtasks) (hb : s.begun taskId = true) :
    Queued {s with nextId := s.nextId + 1, toChild := s.toChild ++ [⟨s.nextId, .cancel taskId⟩],
                   cancels := s.cancels ++ [taskId]} := by
  refine hq.sends (Nat.le_succ _) rfl rfl rfl rfl hb hq.once (fun id hid => ⟨hid, ?_⟩) (fun _ => .inl)
    (fun hupload => BaseHttpUploadTask.noConfusion hupload) fun id hid => ?_
  · rintro rfl
    exact hsent hid
  · refine (List.mem_append.mp hid).imp_right fun hid => ?_
    rw [List.mem_singleton.mp hid]

/-- As the child takes a cancel, the task has its token: the messages are in order. -/
theorem Queued.finds (hq : s.Queued) {task : IsolateTask} {rest : List IsolateTask} (htoChild : s.toChild = task :: rest)
    {taskId : Nat} (hcancel : task.data = .cancel taskId) : (s.token taskId).isSome = true := by
  have habout : task.about = taskId := by simp [IsolateTask.about, hcancel]
  have hmem : task ∈ s.toChild := htoChild ▸ List.mem_cons_self
  rcases hq.placed taskId (habout ▸ hq.known task hmem) with hdeferred | ⟨other, hother, hupload, heq⟩ | hsome
  · exact absurd habout ((hq.deferred taskId hdeferred).2.2 task hmem)
  · have hahead := hq.ahead
    rw [htoChild] at hahead hother
    rcases List.mem_cons.mp hother with rfl | hother
    · cases hcancel.symm.trans hupload
    · exact absurd (habout.trans heq.symm) ((List.pairwise_cons.mp hahead).1 other hother hupload)
  · exact hsome

/-- The child takes a message. -/
theorem Queued.takes (hq : s.Queued) {task : IsolateTask} {rest : List IsolateTask} (htoChild : s.toChild = task :: rest)
    (hrest : t.toChild = rest) (hnext : t.nextId = s.nextId) (hmicrotasks : t.microtasks = s.microtasks)
    (hbegun : t.begun = s.begun) (hcancels : t.cancels = s.cancels)
    (htoken : ∀ id, (t.token id).isSome = ((s.token id).isSome || (task.data = .upload && task.id = id)))
    (hregistered : ∀ id, t.token id = some none → t.cancelTokens id = true)
    (hkept : ∀ id sent, s.token id = some (some sent) → ∃ sent, t.token id = some (some sent))
    (hreached : ∀ id, task.data = .cancel id → ∃ sent, t.token id = some (some sent)) : t.Queued := by
  have htask : task ∈ s.toChild := htoChild ▸ List.mem_cons_self
  have hin : ∀ other ∈ rest, other ∈ s.toChild := fun other hother => htoChild ▸ List.mem_cons_of_mem _ hother
  have habout : task.data = .upload → task.about = task.id := fun hupload => by simp [IsolateTask.about, hupload]
  have hnone : ∀ id, s.token id = none → (task.data = .upload → task.id ≠ id) → t.token id = none := by
    intro id hid hne
    have hnot := htoken id
    simp only [hid, Option.isSome_none, Bool.false_or] at hnot
    rw [← Option.not_isSome_iff_eq_none, hnot]
    simpa using hne
  have hahead := hq.ahead
  rw [htoChild, List.pairwise_cons] at hahead
  refine ⟨?_, fun id hid => ?_, hmicrotasks ▸ hq.once, fun other hother => ?_, fun other hother hupload => ?_, hrest ▸ hahead.2,
    fun id hid => ?_, fun id hid => ?_, hregistered, fun id hid => ?_⟩
  · rw [hnext, hbegun]
    exact hq.fresh
  · obtain ⟨hb, hid', hnot⟩ := hq.deferred id (hmicrotasks ▸ hid)
    rw [hbegun, hrest]
    refine ⟨hb, hnone id hid' fun hupload => ?_, fun other hother => hnot other (hin other hother)⟩
    exact habout hupload ▸ hnot task htask
  · rw [hbegun]
    exact hq.known other (hin other (hrest ▸ hother))
  · rw [hrest] at hother
    refine hnone _ (hq.upcoming other (hin other hother) hupload) fun hupload' => ?_
    exact habout hupload' ▸ hahead.1 other hother hupload
  · rw [hbegun] at hid
    rw [hmicrotasks, hrest, htoken]
    rcases hq.placed id hid with hdeferred | ⟨other, hother, hupload, heq⟩ | hsome
    · exact .inl hdeferred
    · rw [htoChild] at hother
      rcases List.mem_cons.mp hother with rfl | hother
      · exact .inr (.inr (by simp [hupload, heq]))
      · exact .inr (.inl ⟨other, hother, hupload, heq⟩)
    · exact .inr (.inr (by simp [hsome]))
  · rw [htoken, Bool.or_eq_true, Bool.and_eq_true, decide_eq_true_iff, decide_eq_true_iff] at hid
    rw [hbegun]
    rcases hid with hsome | ⟨hupload, rfl⟩
    · exact hq.started id hsome
    · exact habout hupload ▸ hq.known task htask
  · rw [hcancels] at hid
    rw [hrest]
    rcases hq.cancelled id hid with ⟨other, hother, hcancel⟩ | ⟨sent, hsent⟩
    · rw [htoChild] at hother
      rcases List.mem_cons.mp hother with rfl | hother
      · exact .inr (hreached id hcancel)
      · exact .inl ⟨other, hother, hcancel⟩
    · exact .inr (hkept id sent hsent)

/-- The child takes an upload and registers its token. -/
theorem Queued.opens (hq : s.Queued) {task : IsolateTask} {rest : List IsolateTask} (htoChild : s.toChild = task :: rest)
    (hupload : task.data = .upload) (hrest : t.toChild = rest) (hnext : t.nextId = s.nextId) (hmicrotasks : t.microtasks = s.microtasks)
    (hbegun : t.begun = s.begun) (hcancels : t.cancels = s.cancels)
    (htoken : ∀ id, t.token id = if id = task.id then some none else s.token id)
    (hcancelTokens : ∀ id, t.cancelTokens id = if id = task.id then true else s.cancelTokens id) : t.Queued := by
  have hnone : s.token task.id = none := hq.upcoming task (htoChild ▸ List.mem_cons_self) hupload
  refine hq.takes htoChild hrest hnext hmicrotasks hbegun hcancels (fun id => ?_) (fun id hid => ?_) (fun id sent hsent => ?_)
    fun id hcancel => ?_
  · rw [htoken]
    split
    · next heq => simp [hupload, heq]
    · next hne => simp [Ne.symm hne]
  · rw [htoken] at hid
    rw [hcancelTokens]
    split at hid
    · next heq => rw [if_pos heq]
    · next hne =>
      rw [if_neg hne]
      exact hq.registered id hid
  · refine ⟨sent, ?_⟩
    rw [htoken, if_neg, hsent]
    rintro rfl
    cases hnone.symm.trans hsent
  · cases hupload.symm.trans hcancel

/-- The child takes a cancel: the token is cancelled, or was before. -/
theorem Queued.reaches (hq : s.Queued) {task : IsolateTask} {rest : List IsolateTask} (htoChild : s.toChild = task :: rest)
    {taskId : Nat} (hcancel : task.data = .cancel taskId) (hrest : t.toChild = rest) (hnext : t.nextId = s.nextId)
    (hmicrotasks : t.microtasks = s.microtasks) (hbegun : t.begun = s.begun) (hcancels : t.cancels = s.cancels)
    (hreached : ∃ sent, t.token taskId = some (some sent)) (htoken : ∀ id, id ≠ taskId → t.token id = s.token id)
    (hcancelTokens : ∀ id, id ≠ taskId → t.cancelTokens id = s.cancelTokens id) : t.Queued := by
  have hsome := hq.finds htoChild hcancel
  refine hq.takes htoChild hrest hnext hmicrotasks hbegun hcancels (fun id => ?_) (fun id hid => ?_) (fun id sent hsent => ?_)
    fun id hcancel' => ?_
  · by_cases heq : id = taskId
    · obtain ⟨sent, hsent⟩ := hreached
      rw [heq, hsome, hsent]
      rfl
    · simp [htoken id heq, hcancel]
  · have hne : id ≠ taskId := by
      rintro rfl
      obtain ⟨sent, hsent⟩ := hreached
      cases hsent.symm.trans hid
    rw [hcancelTokens id hne]
    exact hq.registered id ((htoken id hne).symm.trans hid)
  · by_cases heq : id = taskId
    · exact heq ▸ hreached
    · exact ⟨sent, (htoken id heq).trans hsent⟩
  · obtain rfl := BaseHttpUploadTask.cancel.inj (hcancel'.symm.trans hcancel)
    exact hreached

/-! ### What is sent and received -/

/-- What is before a last part has no end in it. -/
theorem no_end {a b : List (StreamEvent α)} (h : ∀ event ∈ (a ++ b).dropLast, event.isEnd = false) (hb : b ≠ []) :
    ∀ event ∈ a, event.isEnd = false := by
  intro event hevent
  apply h
  rw [List.dropLast_append_of_ne_nil hb]
  exact List.mem_append_left _ hevent

theorem eventFor?_result (taskId id : Nat) (event : StreamEvent α) :
    (event.result id).eventFor? taskId = if id = taskId then some event else none := by
  cases event <;> rfl

theorem listen_events {taskId : Nat} {result : IsolateTaskStreamResult α} {stream : ProgressStream α}
    (h : stream.listening = true ∨ result.eventFor? taskId = none) :
    (stream.listen taskId result).events = stream.events ++ (result.eventFor? taskId).toList := by
  unfold ProgressStream.listen
  split
  · split <;> simp_all
  · next hnot =>
    rcases h with h | h
    · exact absurd h hnot
    · simp [h]

theorem listen_listening {taskId : Nat} {result : IsolateTaskStreamResult α} {stream : ProgressStream α}
    (h : (stream.listen taskId result).listening = false) :
    stream.listening = false ∨ result.eventFor? taskId = some .closed := by
  unfold ProgressStream.listen at h
  split at h
  · split at h
    · next hclosed => exact .inr hclosed
    · exact .inl h
    · exact .inl h
  · exact .inl h

theorem proper_init : Proper ({} : UploadChild α) :=
  ⟨rfl, fun _ hevent => (List.not_mem_nil hevent).elim, fun _ hsent => (Option.some_ne_none _ hsent.symm).elim⟩

theorem Proper.cancel {child : UploadChild α} (hp : Proper child) : Proper child.cancel := by
  refine ⟨hp.runs, hp.last, fun sent hsent => ?_⟩
  obtain rfl : child.sent.length = sent := Option.some.inj hsent
  simp [UploadChild.cancel]

theorem Proper.send {child : UploadChild α} (hp : Proper child) {event : StreamEvent α} (hrunning : child.running = true)
    (hclosed : event = .closed → child.cancelledAt = none) :
    Proper {child with sent := child.sent ++ [event], running := !event.isEnd} := by
  have hopen : ∀ before ∈ child.sent, before.isEnd = false := by
    have hruns := hp.runs
    rw [hrunning] at hruns
    simpa using hruns
  refine ⟨?_, ?_, fun sent hsent => ?_⟩
  · have hany : child.sent.any StreamEvent.isEnd = false := by simpa using hopen
    simp [List.any_append, hany]
  · simpa only [List.dropLast_concat] using hopen
  · obtain ⟨hle, hnot⟩ := hp.interrupted sent hsent
    refine ⟨by simp only [List.length_append]; omega, ?_⟩
    rw [List.drop_append_of_le_length hle, List.mem_append, List.mem_singleton]
    rintro (hmem | heq)
    · exact hnot hmem
    · cases (hclosed heq.symm).symm.trans hsent

theorem Told.sends (ht : s.Told) {id : Nat} {child : UploadChild α} (hchild : s.children id = some child)
    (hrunning : child.running = true) {event : StreamEvent α} (hclosed : event = .closed → child.cancelledAt = none) :
    (s.send id child event).Told := by
  refine ⟨fun other child' hchild' => ?_, fun other => ?_, ht.listening⟩
  · simp only [send, Function.update_apply] at hchild'
    split at hchild'
    · obtain rfl := Option.some.inj hchild'
      exact (ht.proper id child hchild).send hrunning hclosed
    · exact ht.proper other child' hchild'
  · have hdelivered := ht.delivered other
    by_cases heq : other = id
    · subst heq
      simp only [sentBy, hchild] at hdelivered
      simp only [eventsOf, inFlight, sentBy, send, Function.update_self, List.filterMap_append] at hdelivered ⊢
      simp [← List.append_assoc, hdelivered, eventFor?_result]
    · simp only [eventsOf, inFlight, sentBy, send, Function.update_of_ne heq, List.filterMap_append] at hdelivered ⊢
      simpa [eventFor?_result, Ne.symm heq] using hdelivered

/-- A stream that has an event to get is still listened to. -/
theorem Told.listens (ht : s.Told) {id : Nat} {stream : ProgressStream α} (hstream : s.streams id = some stream)
    (hmore : s.inFlight id ≠ []) : stream.listening = true := by
  have hdelivered := ht.delivered id
  simp only [eventsOf, hstream, Option.map_some, Option.getD_some] at hdelivered
  by_contra hnot
  have hclosed := ht.listening id stream hstream (Bool.not_eq_true _ ▸ hnot)
  cases hchild : s.children id with
  | none =>
    simp only [sentBy, hchild] at hdelivered
    exact hmore (List.append_eq_nil_iff.mp hdelivered).2
  | some child =>
    simp only [sentBy, hchild] at hdelivered
    have hlast := (ht.proper id child hchild).last
    rw [show child.sent = stream.events ++ s.inFlight id from hdelivered.symm] at hlast
    cases no_end hlast hmore _ hclosed

/-- The main isolate takes a result. -/
theorem Told.receives (ht : s.Told) (hb : ∀ id, s.streams id = none → s.children id = none) {result : IsolateTaskStreamResult α}
    {rest : List (IsolateTaskStreamResult α)} (htoMain : s.toMain = result :: rest) :
    Told {s with toMain := rest, streams := fun taskId => (s.streams taskId).map (ProgressStream.listen taskId result)} := by
  have hinFlight : ∀ id, s.inFlight id = (result.eventFor? id).toList ++ rest.filterMap (IsolateTaskStreamResult.eventFor? id) := by
    intro id
    rw [inFlight, htoMain, List.filterMap_cons]
    cases result.eventFor? id <;> rfl
  have hlistens : ∀ id stream, s.streams id = some stream → stream.listening = true ∨ result.eventFor? id = none := by
    intro id stream hstream
    cases hevent : result.eventFor? id with
    | none => exact .inr rfl
    | some event => exact .inl (ht.listens hstream (by simp [hinFlight, hevent]))
  refine ⟨ht.proper, fun id => ?_, fun id stream hstream hlistening => ?_⟩
  · have hdelivered := ht.delivered id
    rw [hinFlight] at hdelivered
    cases hstream : s.streams id with
    | none =>
      simp only [eventsOf, sentBy, hstream, hb id hstream] at hdelivered ⊢
      exact (List.append_eq_nil_iff.mp (List.append_eq_nil_iff.mp hdelivered).2).2
    | some stream =>
      simp only [eventsOf, hstream, Option.map_some, Option.getD_some] at hdelivered ⊢
      rw [listen_events (hlistens id stream hstream), List.append_assoc]
      exact hdelivered
  · obtain ⟨before, hbefore, rfl⟩ := Option.map_eq_some_iff.mp hstream
    rw [listen_events (hlistens id before hbefore), List.mem_append]
    rcases listen_listening hlistening with hover | hclosed
    · exact .inl (ht.listening id before hbefore hover)
    · exact .inr (by simp [hclosed])

/-- A child that starts, or whose token is cancelled, has sent what it had. -/
theorem Told.sets (ht : s.Told) {id : Nat} {child : Option (UploadChild α)} (hchild : ∀ c, child = some c → Proper c)
    (hsent : (child.map UploadChild.sent).getD [] = s.sentBy id) (hstreams : t.streams = s.streams) (htoMain : t.toMain = s.toMain)
    (hchildren : t.children = Function.update s.children id child) : t.Told := by
  refine ⟨fun other c hc => ?_, fun other => ?_, hstreams ▸ ht.listening⟩
  · rw [hchildren, Function.update_apply] at hc
    split at hc
    · exact hchild c hc
    · exact ht.proper other c hc
  · have hdelivered := ht.delivered other
    have hsame : t.sentBy other = s.sentBy other := by
      by_cases heq : other = id
      · rw [heq, ← hsent, sentBy, hchildren, Function.update_self]
      · rw [sentBy, hchildren, Function.update_of_ne heq]
        rfl
    rw [hsame]
    simpa only [eventsOf, inFlight, hstreams, htoMain] using hdelivered

/-- The invariant. -/
structure Kept (s : UploadIsolate α) : Prop where
  queued : s.Queued
  told : s.Told

/-- The child handles a message. -/
theorem Kept.handle (hk : s.Kept) {task : IsolateTask} {rest : List IsolateTask} (htoChild : s.toChild = task :: rest)
    {opens : Bool} (hopens : task.data = .upload → opens = true) :
    (UploadIsolate.handle {s with toChild := rest} opens task).Kept := by
  obtain ⟨hq, ht⟩ := hk
  cases hdata : task.data with
  | upload =>
    have hstep : UploadIsolate.handle {s with toChild := rest} opens task = {s with
        toChild := rest
        children := Function.update s.children task.id (some {})
        cancelTokens := Function.update s.cancelTokens task.id true} := by
      simp [UploadIsolate.handle, hdata, hopens hdata]
    rw [hstep]
    have hnone : s.children task.id = none :=
      Option.map_eq_none_iff.mp (hq.upcoming task (htoChild ▸ List.mem_cons_self) hdata)
    refine ⟨hq.opens htoChild hdata rfl rfl rfl rfl rfl (fun id => ?_) fun id => ?_, ht.sets (fun c hc => ?_) ?_ rfl rfl rfl⟩
    · simp only [token, Function.update_apply]
      split <;> rfl
    · exact Function.update_apply ..
    · obtain rfl := Option.some.inj hc
      exact proper_init
    · simp [sentBy, hnone]
  | cancel taskId =>
    obtain ⟨child, hchild⟩ : ∃ child, s.children taskId = some child := by
      have hsome := hq.finds htoChild hdata
      rw [token, Option.isSome_map] at hsome
      exact Option.isSome_iff_exists.mp hsome
    cases hregistered : s.cancelTokens taskId with
    | true =>
      have hstep : UploadIsolate.handle {s with toChild := rest} opens task = {s with
          toChild := rest
          children := Function.update s.children taskId (some child.cancel)
          cancelTokens := Function.update s.cancelTokens taskId false} := by
        simp [UploadIsolate.handle, hdata, hregistered, hchild]
      rw [hstep]
      refine ⟨hq.reaches htoChild hdata rfl rfl rfl rfl rfl ⟨child.sent.length, ?_⟩ (fun id hne => ?_) (fun id hne => ?_),
        ht.sets (fun c hc => ?_) ?_ rfl rfl rfl⟩
      · simp [token, UploadChild.cancel]
      · simp [token, Function.update_of_ne hne]
      · exact Function.update_of_ne hne ..
      · obtain rfl := Option.some.inj hc
        exact (ht.proper taskId child hchild).cancel
      · simp [sentBy, hchild, UploadChild.cancel]
    | false =>
      have hstep : UploadIsolate.handle {s with toChild := rest} opens task = {s with
          toChild := rest
          cancelTokens := Function.update s.cancelTokens taskId false} := by
        simp [UploadIsolate.handle, hdata, hregistered]
      rw [hstep]
      refine ⟨hq.reaches htoChild hdata rfl rfl rfl rfl rfl ?_ (fun _ _ => rfl) (fun id hne => Function.update_of_ne hne ..),
        ht.same rfl rfl rfl⟩
      cases hcancelled : child.cancelledAt with
      | none =>
        have hfound := hq.registered taskId (by simp [token, hchild, hcancelled])
        cases hregistered.symm.trans hfound
      | some sent => exact ⟨sent, by simp [token, hchild, hcancelled]⟩

/-- **One step.** -/
theorem Kept.step (habort : answers true = false) (hk : s.Kept) {e : UploadEvent α} (hc : s.Ordered e)
    (hst : s.step answers e = some t) : t.Kept := by
  obtain ⟨hq, ht⟩ := hk
  have hb : ∀ id, s.streams id = none → s.children id = none := by
    intro id hnone
    by_contra hchild
    have hbegun := hq.started id (by simpa [token, Option.isSome_iff_ne_none] using hchild)
    simp [begun, hnone] at hbegun
  cases e with
  | upload =>
    obtain rfl := Option.some.inj hst
    have hnew : s.streams s.nextId = none := Option.not_isSome_iff_eq_none.mp (by simpa [begun] using hq.fresh _ Nat.le.refl)
    refine ⟨hq.upload rfl rfl rfl (fun id => ?_) rfl rfl rfl, ht.proper, fun id => ?_, fun id stream hstream hover => ?_⟩
    · simp only [begun, Function.update_apply]
      split <;> rfl
    · have hevents : ((Function.update s.streams s.nextId (some {}) id).map ProgressStream.events).getD [] = s.eventsOf id := by
        by_cases heq : id = s.nextId
        · simp [heq, eventsOf, hnew]
        · simp [eventsOf, Function.update_of_ne heq]
      exact (congrArg (· ++ s.inFlight id) hevents).trans (ht.delivered id)
    · simp only [Function.update_apply] at hstream
      split at hstream
      · obtain rfl := Option.some.inj hstream
        cases hover
      · exact ht.listening id stream hstream hover
  | otherId =>
    obtain rfl := Option.some.inj hst
    exact ⟨hq.same (Nat.le_succ _) rfl rfl rfl rfl rfl rfl, ht.same rfl rfl rfl⟩
  | microtask =>
    simp only [UploadIsolate.step] at hst
    split at hst
    · cases hst
    · next hmicrotasks =>
      obtain rfl := Option.some.inj hst
      exact ⟨hq.microtask hmicrotasks, ht.same rfl rfl rfl⟩
  | cancel taskId =>
    simp only [UploadIsolate.step] at hst
    split at hst
    · next hbegun =>
      obtain rfl := Option.some.inj hst
      exact ⟨hq.cancel hc hbegun, ht.same rfl rfl rfl⟩
    · cases hst
  | handle opens =>
    simp only [UploadIsolate.step] at hst
    split at hst
    · cases hst
    · next htoChild =>
      obtain rfl := Option.some.inj hst
      exact Kept.handle ⟨hq, ht⟩ htoChild fun hupload => hc (by simp [htoChild, hupload])
  | send id event =>
    simp only [UploadIsolate.step] at hst
    split at hst
    · cases hst
    · next child hchild =>
      split at hst
      · next hmay =>
        obtain rfl := Option.some.inj hst
        obtain ⟨hrunning, hmay⟩ := Bool.and_eq_true_iff.mp hmay
        refine ⟨hq.same Nat.le.refl rfl rfl rfl ?_ rfl rfl, ht.sends hchild hrunning fun hclosed => ?_⟩
        · funext other
          by_cases heq : other = id
          · simp [token, send, heq, hchild]
          · simp [token, send, Function.update_of_ne heq]
        · subst hclosed
          cases hcancelled : child.cancelledAt with
          | none => rfl
          | some sent =>
            simp only [UploadChild.mayGet, hcancelled, Option.isSome_some] at hmay
            cases hmay.symm.trans habort
      · cases hst
  | receive =>
    simp only [UploadIsolate.step] at hst
    split at hst
    · cases hst
    · next htoMain =>
      obtain rfl := Option.some.inj hst
      refine ⟨hq.same Nat.le.refl rfl rfl ?_ rfl rfl rfl, ht.receives hb htoMain⟩
      funext id
      simp [begun]

/-- An end that has come is the last that the task has sent. -/
theorem Kept.ends (hk : s.Kept) {id : Nat} {stream : ProgressStream α} (hstream : s.streams id = some stream) :
    (∀ event ∈ stream.events, event.isEnd = false) ∧ s.Pending id ∨ stream.Ended ∧ ¬ s.Pending id := by
  obtain ⟨hq, ht⟩ := hk
  have hdelivered := ht.delivered id
  simp only [eventsOf, hstream, Option.map_some, Option.getD_some] at hdelivered
  cases hany : stream.events.any StreamEvent.isEnd with
  | false =>
    refine .inl ⟨by simpa using hany, ?_⟩
    rcases hq.placed id (by simp [begun, hstream]) with hdeferred | hsent | hstarted
    · exact .inl hdeferred
    · exact .inr (.inl hsent)
    · rw [token, Option.isSome_map] at hstarted
      obtain ⟨child, hchild⟩ := Option.isSome_iff_exists.mp hstarted
      cases hrunning : child.running with
      | true => exact .inr (.inr (.inl ⟨child, hchild, hrunning⟩))
      | false =>
        -- its end is sent, and not yet received
        have hover := (ht.proper id child hchild).runs
        rw [hrunning] at hover
        simp only [sentBy, hchild, Option.map_some, Option.getD_some] at hdelivered
        rw [← hdelivered, List.any_append, hany, Bool.false_or] at hover
        exact .inr (.inr (.inr (by simpa using hover)))
  | true =>
    obtain ⟨final, hfinal, hend⟩ := List.any_eq_true.mp hany
    obtain ⟨child, hchild⟩ : ∃ child, s.children id = some child := by
      cases hchild : s.children id with
      | some child => exact ⟨child, rfl⟩
      | none =>
        simp only [sentBy, hchild] at hdelivered
        rw [(List.append_eq_nil_iff.mp hdelivered).1] at hfinal
        cases hfinal
    simp only [sentBy, hchild, Option.map_some, Option.getD_some] at hdelivered
    obtain ⟨hover, hlast, -⟩ := ht.proper id child hchild
    have hrunning : child.running = false := by
      rw [hover, ← hdelivered, List.any_append, hany]
      rfl
    rw [← hdelivered] at hlast
    have hnone : s.inFlight id = [] := by
      by_contra hmore
      cases (no_end hlast hmore final hfinal).symm.trans hend
    refine .inr ⟨?_, ?_⟩
    · rw [hnone, List.append_nil] at hlast
      rcases List.eq_nil_or_concat stream.events with hnil | ⟨before, last, hevents⟩
      · simp [hnil] at hany
      · rw [List.concat_eq_append] at hevents
        rw [hevents, List.dropLast_concat] at hlast
        refine ⟨before, last, hevents, ?_, hlast⟩
        rw [hevents, List.mem_append, List.mem_singleton] at hfinal
        rcases hfinal with hbefore | rfl
        · cases (hlast final hbefore).symm.trans hend
        · exact hend
    · rintro (hdeferred | ⟨task, htask, hupload, rfl⟩ | ⟨other, hother, hother'⟩ | ⟨event, hevent, -⟩)
      · have hno := (hq.deferred id hdeferred).2.1
        simp [token, hchild] at hno
      · have hno := hq.upcoming task htask hupload
        simp [token, hchild] at hno
      · obtain rfl := Option.some.inj (hchild.symm.trans hother)
        cases hrunning.symm.trans hother'
      · rw [hnone] at hevent
        cases hevent

theorem Kept.endsOnce (hk : s.Kept) : s.EndsOnce := by
  refine ⟨fun id stream hstream => ?_, fun id stream hstream => hk.ends hstream, fun id hid => ?_,
    fun id child sent hchild hsent => ((hk.told.proper id child hchild).interrupted sent hsent).2⟩
  · have hdelivered := hk.told.delivered id
    simpa only [eventsOf, hstream, Option.map_some, Option.getD_some] using hdelivered
  · refine (hk.queued.cancelled id hid).imp_right fun hreached => ?_
    obtain ⟨sent, hreached⟩ := hreached
    obtain ⟨child, hchild, hcancelled⟩ := Option.map_eq_some_iff.mp hreached
    exact ⟨child, hchild, by simp [hcancelled]⟩

theorem kept_init : ({} : UploadIsolate α).Kept := by
  refine ⟨⟨fun _ _ => rfl, fun id hid => ?_, List.nodup_nil, fun task htask => ?_, fun task htask => ?_, List.Pairwise.nil,
    fun id hid => ?_, fun id hid => ?_, fun id hid => ?_, fun id hid => ?_⟩, fun id child hchild => ?_, fun _ => rfl,
    fun id stream hstream => ?_⟩
  · cases hid
  · cases htask
  · cases htask
  · cases hid
  · cases hid
  · cases hid
  · cases hid
  · cases hchild
  · cases hstream

end UploadIsolate

/-- **Every progress stream ends once, and every cancel reaches its task.** In every run
in which no cancel overtakes its upload and every file stream opens, if the client fails a
request whose token is cancelled. -/
theorem uploads_end_once {answers : Bool → Bool} (habort : answers true = false) {events : List (UploadEvent α)}
    (hc : (uploadIsolate α answers).Meets UploadIsolate.Ordered (uploadIsolate α answers).init events) :
    (uploadIsolate α answers).Along UploadIsolate.EndsOnce (uploadIsolate α answers).init events :=
  Transition.System.along_of_meets (fun _ _ _ hk hc hst => hk.step habort hc hst) (fun _ hk => hk.endsOnce)
    UploadIsolate.kept_init hc

/-- Two uploads; the first is cancelled as soon as it is sent, the other one completes. -/
theorem uploads_end_once_cancelled : (uploadIsolate Nat not).Along UploadIsolate.EndsOnce (uploadIsolate Nat not).init
    [.upload, .upload, .microtask, .cancel 0, .microtask, .handle true, .handle true, .send 0 (.error "canceled"),
      .handle true, .send 1 (.data 50), .receive, .receive, .send 1 .closed, .receive] :=
  uploads_end_once rfl (by decide)

/-- A cancel before the microtask finds no token and the upload completes; a file stream
that cannot be opened is never reported. -/
theorem cancel_overtakes_upload :
    (∃ s, (uploadIsolate Nat not).run (uploadIsolate Nat not).init
        [.upload, .cancel 0, .microtask, .handle true, .handle true, .send 0 .closed, .receive] = some s ∧ ¬ s.EndsOnce) ∧
      ∃ s, (uploadIsolate Nat not).run (uploadIsolate Nat not).init [.upload, .microtask, .handle false] = some s ∧
        ¬ s.EndsOnce := by
  refine ⟨⟨_, rfl, fun hend => ?_⟩, _, rfl, fun hend => ?_⟩
  · rcases hend.cancelled 0 (List.mem_singleton_self 0) with ⟨task, htask, -⟩ | ⟨child, hchild, hcancelled⟩
    · cases htask
    · obtain rfl := Option.some.inj hchild
      cases hcancelled
  · rcases hend.ends 0 {} rfl with ⟨-, hpending⟩ | ⟨⟨before, last, hevents, -⟩, -⟩
    · rcases hpending with hdeferred | ⟨task, htask, -⟩ | ⟨child, hchild, -⟩ | ⟨event, hevent, -⟩
      · cases hdeferred
      · cases htask
      · cases hchild
      · cases hevent
    · exact List.append_ne_nil_of_right_ne_nil _ (List.cons_ne_nil _ _) hevents.symm

end MagicShare.Send
