import Mathlib.Logic.Function.Basic
import MagicShare.Base.Transition
import MagicShare.Nearby.Device

/-! The main isolate and its children (`parent_isolate_provider.dart`, `actions_sync.dart`,
`main.dart`, `multicast_discovery.dart`).

The main isolate holds the sync state. A setup starts a child for HTTP scans, then one for
multicast discovery, then those for uploads, each with the sync state as it is by then. The
main isolate can reach them once the setup has come to its end, and then sends the whole of
each new sync state to the first two. A child handles its messages in order.

The setup ends with a copy of the state that was read before the uploads' isolates were
waited for, so what is published in between is undone. What is published before that
reaches no child, but the next that is published does (`replicas_follow`); and from then
on a child handles every task in the sync state it was sent in (`tasks_in_state`). -/
namespace MagicShare.Nearby
open Transition

/-! ### The sync state -/

structure StoredSecurityContext where
  privateKey : String
  publicKey : String
  certificate : String
  certificateHash : String
  deriving DecidableEq

structure DeviceInfoResult where
  deviceType : DeviceType
  deviceModel : Option String
  androidSdkInt : Option Nat
  deriving DecidableEq

inductive ProtocolType where
  | http | https
  deriving DecidableEq

/-- What is synchronized with the children, less the functions and tokens of the platform. -/
structure SyncState where
  securityContext : StoredSecurityContext
  deviceInfo : DeviceInfoResult
  «alias» : String
  port : Nat
  networkWhitelist : Option (List String)
  networkBlacklist : Option (List String)
  protocol : ProtocolType
  multicastGroup : String
  discoveryTimeout : Nat
  serverRunning : Bool
  download : Bool
  deriving DecidableEq

/-- The actions that publish a new sync state. -/
inductive IsolateSyncAction where
  | securityContext (securityContext : StoredSecurityContext)
  | deviceInfo (deviceInfo : DeviceInfoResult)
  | settings (networkWhitelist networkBlacklist : Option (List String)) (multicastGroup : String) (discoveryTimeout : Nat)
  | serverState («alias» : String) (port : Nat) (protocol : ProtocolType) (serverRunning download : Bool)

def IsolateSyncAction.reduce (syncState : SyncState) : IsolateSyncAction → SyncState
  | .securityContext next => {syncState with securityContext := next}
  | .deviceInfo next => {syncState with deviceInfo := next}
  | .settings networkWhitelist networkBlacklist multicastGroup discoveryTimeout =>
    {syncState with networkWhitelist, networkBlacklist, multicastGroup, discoveryTimeout}
  | .serverState «alias» port protocol serverRunning download =>
    {syncState with «alias», port, protocol, serverRunning, download}

/-! ### Isolates -/

inductive Child where
  | httpScan
  | multicast
  | httpUpload (index : Fin 2)
  deriving DecidableEq

/-- The children that `_PublishSyncStateAction` sends the sync state to. -/
def Child.isSynced : Child → Bool
  | .httpScan | .multicast => true
  | .httpUpload _ => false

inductive ChildTask where
  | setContentStreamResolver
  | announcement
  | restartListener
  /-- A scan, an upload or the cancel of one. -/
  | task (id : Nat)
  deriving DecidableEq

structure SendToIsolateData where
  syncState : Option SyncState
  data : Option ChildTask

structure ChildIsolate where
  syncState : SyncState
  /-- It has been initialised, and handles messages. -/
  ready : Bool := false
  inbox : List SendToIsolateData := []

inductive ListenerPhase where
  /-- It sleeps, or has not started. -/
  | idle
  /-- It waits for the sockets. -/
  | binding (syncState : SyncState)
  | listening (syncState : SyncState)

structure MulticastService where
  phase : ListenerPhase := .idle
  /-- Of `_cancelCompleter`. -/
  isCompleted : Bool := false

/-- A completer that is completed throws. -/
def MulticastService.restartListener (service : MulticastService) : Option MulticastService :=
  if service.isCompleted then none
  else some {
    phase := match service.phase with
      | .listening _ => .idle
      | phase => phase
    isCompleted := true }

/-- How far `IsolateSetupAction` is. -/
inductive Setup where
  | initial
  | httpScan
  | multicast
  /-- The sync state of the state that the connectors will be put into. -/
  | httpUpload (syncState : SyncState)
  | finished
  deriving DecidableEq

def Setup.next (syncState : SyncState) : Setup → Setup
  | .initial => .httpScan
  | .httpScan => .multicast
  | .multicast => .httpUpload syncState
  | .httpUpload _ | .finished => .finished

/-- What the sync state is after a step of the setup. -/
def Setup.outcome (syncState : SyncState) : Setup → SyncState
  | .httpUpload before => before
  | _ => syncState

/-- Which children a step of the setup starts. -/
def Setup.starts : Setup → Child → Bool
  | .initial, .httpScan | .httpScan, .multicast | .multicast, .httpUpload _ => true
  | _, _ => false

structure Isolates where
  /-- Of the `ParentIsolateState`. -/
  syncState : SyncState
  setup : Setup := .initial
  child : Child → Option ChildIsolate := fun _ => none
  service : MulticastService := {}
  disposed : Bool := false

inductive IsolateEvent where
  /-- The setup goes on. -/
  | setup
  | publish (action : IsolateSyncAction)
  | send (c : Child) (task : ChildTask)
  | ready (c : Child)
  | handleMessage (c : Child)
  /-- The listener reads the sync state, and its sockets are bound. -/
  | startListener
  | bound
  | dispose
  deriving Inhabited

/-- The sync state that an event leads to. -/
def IsolateEvent.replay (syncState : SyncState) : IsolateEvent → SyncState
  | .publish action => action.reduce syncState
  | _ => syncState

def IsolateEvent.isPublish : IsolateEvent → Bool
  | .publish _ => true
  | _ => false

def IsolateEvent.isSetup : IsolateEvent → Bool
  | .setup => true
  | _ => false

/-- The sync state once the messages are handled. -/
def latest (inbox : List SendToIsolateData) (syncState : SyncState) : SyncState :=
  inbox.foldl (fun known message => message.syncState.getD known) syncState

namespace Isolates

def setChild (s : Isolates) (c : Child) (child : ChildIsolate) : Isolates :=
  {s with child := Function.update s.child c (some child)}

/-- The messages are put into the inboxes. -/
def sendToIsolate (s : Isolates) (p : Child → Bool) (message : SendToIsolateData) : Isolates :=
  {s with child := fun c =>
    (s.child c).map fun child => if p c then {child with inbox := child.inbox ++ [message]} else child}

/-- `_handleMessage`. -/
def handle (s : Isolates) (c : Child) (child : ChildIsolate) (message : SendToIsolateData)
    (rest : List SendToIsolateData) : Isolates :=
  let s := s.setChild c {child with syncState := message.syncState.getD child.syncState, inbox := rest}
  match c, message.data with
  -- The error of a completer that is completed is logged.
  | .multicast, some .restartListener => {s with service := s.service.restartListener.getD s.service}
  | _, _ => s

def step (s : Isolates) : IsolateEvent → Option Isolates
  | .setup =>
    match s.setup with
    | .initial => some ({s with setup := .httpScan}.setChild .httpScan {syncState := s.syncState})
    | .httpScan => some ({s with setup := .multicast}.setChild .multicast {syncState := s.syncState})
    | .multicast =>
      let child : ChildIsolate := {syncState := s.syncState, inbox := [⟨none, some .setContentStreamResolver⟩]}
      some (({s with setup := .httpUpload s.syncState}.setChild (.httpUpload 0) child).setChild (.httpUpload 1) child)
    | .httpUpload syncState => some {s with syncState, setup := .finished}
    | .finished => none
  | .publish action =>
    let syncState := action.reduce s.syncState
    if s.setup = .finished then some {s.sendToIsolate Child.isSynced ⟨some syncState, none⟩ with syncState}
    else some {s with syncState}
  | .send c task => if s.setup = .finished then some (s.sendToIsolate (· = c) ⟨none, some task⟩) else none
  | .ready c =>
    (s.child c).bind fun child => if s.disposed then none else some (s.setChild c {child with ready := true})
  | .handleMessage c =>
    match s.child c with
    | some child =>
      match child.inbox with
      | message :: rest => if child.ready && !s.disposed then some (s.handle c child message rest) else none
      | [] => none
    | none => none
  | .startListener =>
    match s.child .multicast, s.service.phase with
    | some child, .idle =>
      if s.disposed then none else some {s with service := {s.service with phase := .binding child.syncState}}
    | _, _ => none
  | .bound =>
    match s.service.phase with
    | .binding syncState =>
      if s.disposed then none else some {s with service := {phase := .listening syncState, isCompleted := false}}
    | _ => none
  | .dispose => some {s with disposed := true}

end Isolates

def isolates (syncState : SyncState) : System Isolates IsolateEvent where
  init := {syncState}
  step := Isolates.step

/-! ### What waits for a child -/

theorem latest_append (inbox : List SendToIsolateData) (message : SendToIsolateData) (syncState : SyncState) :
    latest (inbox ++ [message]) syncState = message.syncState.getD (latest inbox syncState) := by
  simp [latest]

/-- The tasks in an inbox, each with the sync state it will be handled in. -/
def views : List SendToIsolateData → SyncState → List (ChildTask × SyncState)
  | [], _ => []
  | message :: rest, syncState =>
    let known := message.syncState.getD syncState
    message.data.toList.map (·, known) ++ views rest known

theorem views_append (inbox : List SendToIsolateData) (message : SendToIsolateData) (syncState : SyncState) :
    views (inbox ++ [message]) syncState =
      views inbox syncState ++ message.data.toList.map (·, message.syncState.getD (latest inbox syncState)) := by
  induction inbox generalizing syncState with
  | nil => simp [views, latest]
  | cons first rest ih =>
    rw [List.cons_append, views, views, ih, List.append_assoc]
    rfl

namespace Isolates
variable {s t : Isolates} {c : Child} {e : IsolateEvent}

/-- The sync state of a child once it has handled what waits for it. -/
def due (s : Isolates) (c : Child) : Option SyncState :=
  (s.child c).map fun child => latest child.inbox child.syncState

/-- The tasks that wait for a child. -/
def waiting (s : Isolates) (c : Child) : List (ChildTask × SyncState) :=
  ((s.child c).map fun child => views child.inbox child.syncState).getD []

theorem due_congr (h : s.child = t.child) (c : Child) : s.due c = t.due c := by
  simp only [due, h]

theorem due_setChild (s : Isolates) (c : Child) (child : ChildIsolate) (d : Child) :
    (s.setChild c child).due d = if d = c then some (latest child.inbox child.syncState) else s.due d := by
  by_cases hd : d = c
  · subst hd
    simp [due, setChild]
  · simp [due, setChild, hd]

theorem due_sendToIsolate (s : Isolates) (p : Child → Bool) (message : SendToIsolateData) (c : Child) :
    (s.sendToIsolate p message).due c =
      (s.due c).map fun known => if p c then message.syncState.getD known else known := by
  simp only [due, sendToIsolate, Option.map_map]
  refine congrArg (fun f => (s.child c).map f) (funext fun child => ?_)
  by_cases hp : p c
  · simp [hp, latest_append]
  · simp [hp]

theorem waiting_sendToIsolate (s : Isolates) (p : Child → Bool) (message : SendToIsolateData) (c : Child) :
    (s.sendToIsolate p message).waiting c = s.waiting c ++
      if p c then ((s.due c).map fun known => message.data.toList.map (·, message.syncState.getD known)).getD []
      else [] := by
  unfold waiting due sendToIsolate
  cases hchild : s.child c with
  | none => simp [hchild]
  | some child =>
    by_cases hp : p c
    · simp [hchild, hp, views_append]
    · simp [hchild, hp]

theorem handle_child (s : Isolates) (c : Child) (child : ChildIsolate) (message : SendToIsolateData)
    (rest : List SendToIsolateData) : (s.handle c child message rest).child =
      (s.setChild c {child with syncState := message.syncState.getD child.syncState, inbox := rest}).child := by
  unfold handle
  dsimp only
  split <;> rfl

theorem handle_syncState (s : Isolates) (c : Child) (child : ChildIsolate) (message : SendToIsolateData)
    (rest : List SendToIsolateData) : (s.handle c child message rest).syncState = s.syncState ∧
      (s.handle c child message rest).setup = s.setup := by
  unfold handle
  dsimp only
  split <;> exact ⟨rfl, rfl⟩

/-- A message that a child handles. -/
theorem handleMessage_cases (hst : s.step (.handleMessage c) = some t) : ∃ child message rest, s.child c = some child ∧
    child.inbox = message :: rest ∧ t = s.handle c child message rest := by
  simp only [step] at hst
  split at hst
  · next child hchild =>
    split at hst
    · next message rest hinbox =>
      split_ifs at hst
      exact ⟨child, message, rest, hchild, hinbox, (Option.some.inj hst).symm⟩
    · cases hst
  · cases hst

/-- What a step does that is not one of the setup: the sync state, and what comes of the
children. -/
theorem step_apart (hst : s.step e = some t) (he : e.isSetup = false) :
    t.syncState = e.replay s.syncState ∧ t.setup = s.setup ∧ ∀ c, t.due c =
      if s.setup = .finished ∧ c.isSynced ∧ e.isPublish then (s.due c).map fun _ => t.syncState else s.due c := by
  cases e with
  | setup => cases he
  | publish action =>
    simp only [step] at hst
    split_ifs at hst with hfinished
    · obtain rfl := Option.some.inj hst
      refine ⟨rfl, rfl, fun c => (due_sendToIsolate s _ _ c).trans ?_⟩
      by_cases hc : c.isSynced
      · simp [hc, hfinished, IsolateEvent.isPublish]
      · simp [hc]
    · obtain rfl := Option.some.inj hst
      exact ⟨rfl, rfl, fun c => by simp [due, hfinished]⟩
  | send c task =>
    simp only [step] at hst
    split_ifs at hst
    obtain rfl := Option.some.inj hst
    refine ⟨rfl, rfl, fun d => (due_sendToIsolate s _ _ d).trans ?_⟩
    simp [IsolateEvent.isPublish]
  | ready c =>
    simp only [step] at hst
    obtain ⟨child, hchild, hready⟩ := Option.bind_eq_some_iff.mp hst
    split_ifs at hready
    obtain rfl := Option.some.inj hready
    refine ⟨rfl, rfl, fun d => (due_setChild s c _ d).trans ?_⟩
    by_cases hd : d = c
    · subst hd
      simp [due, hchild, IsolateEvent.isPublish]
    · simp [hd, IsolateEvent.isPublish]
  | handleMessage c =>
    obtain ⟨child, message, rest, hchild, hinbox, rfl⟩ := handleMessage_cases hst
    obtain ⟨hsync, hsetup⟩ := handle_syncState s c child message rest
    refine ⟨hsync, hsetup, fun d => ?_⟩
    rw [due_congr (handle_child s c child message rest), due_setChild]
    by_cases hd : d = c
    · subst hd
      simp [due, hchild, hinbox, latest, IsolateEvent.isPublish]
    · simp [hd, IsolateEvent.isPublish]
  | startListener =>
    simp only [step] at hst
    split at hst
    · split_ifs at hst
      obtain rfl := Option.some.inj hst
      exact ⟨rfl, rfl, fun c => by simp [due, IsolateEvent.isPublish]⟩
    · cases hst
  | bound =>
    simp only [step] at hst
    split at hst
    · split_ifs at hst
      obtain rfl := Option.some.inj hst
      exact ⟨rfl, rfl, fun c => by simp [due, IsolateEvent.isPublish]⟩
    · cases hst
  | dispose =>
    obtain rfl := Option.some.inj hst
    exact ⟨rfl, rfl, fun c => by simp [due, IsolateEvent.isPublish]⟩

end Isolates

/-! ### What becomes of the children -/

section Run
variable {s t : Isolates} {events : List IsolateEvent} {first : SyncState}

/-- The sync state that events lead to. -/
def replay (events : List IsolateEvent) (syncState : SyncState) : SyncState := events.foldl IsolateEvent.replay syncState

theorem replay_of_no_publish (h : events.any IsolateEvent.isPublish = false) (syncState : SyncState) :
    replay events syncState = syncState := by
  induction events with
  | nil => rfl
  | cons e rest ih =>
    obtain ⟨he, hrest⟩ := Bool.or_eq_false_iff.mp h
    have hkept : e.replay syncState = syncState := by
      cases e with
      | publish action => cases he
      | _ => rfl
    exact (congrArg (replay rest) hkept).trans (ih hrest)

/-- A run between two steps of the setup. -/
theorem run_apart (h : (isolates first).run s events = some t) (hapart : ∀ e ∈ events, e.isSetup = false) :
    t.syncState = replay events s.syncState ∧ t.setup = s.setup ∧ ∀ c, t.due c =
      if s.setup = .finished ∧ c.isSynced ∧ events.any IsolateEvent.isPublish then (s.due c).map fun _ => t.syncState
      else s.due c := by
  induction events generalizing s with
  | nil =>
    obtain rfl := Option.some.inj h
    exact ⟨rfl, rfl, fun c => by simp⟩
  | cons e rest ih =>
    obtain ⟨m, hm, hrest⟩ := System.run_cons_some _ h
    obtain ⟨hsync, hsetup, hdue⟩ := Isolates.step_apart hm (hapart e List.mem_cons_self)
    obtain ⟨hsync', hsetup', hdue'⟩ := ih hrest fun f hf => hapart f (List.mem_cons_of_mem e hf)
    refine ⟨by rw [hsync', hsync]; rfl, hsetup'.trans hsetup, fun c => ?_⟩
    rw [hdue', hdue, hsetup]
    by_cases hreached : s.setup = .finished ∧ c.isSynced
    · by_cases hlater : rest.any IsolateEvent.isPublish
      · by_cases hnow : e.isPublish
        · simp [hreached, hlater, hnow, Function.comp_def]
        · simp [hreached, hlater, hnow]
      · by_cases hnow : e.isPublish
        · -- Nothing is published after it, so the sync state is the one it has published.
          have hkept : t.syncState = m.syncState :=
            hsync'.trans (replay_of_no_publish (by simpa using hlater) m.syncState)
          simp [hreached, hlater, hnow, hkept]
        · simp [hreached, hlater, hnow]
    · have hnever : ∀ p : Bool, ¬ (s.setup = .finished ∧ c.isSynced ∧ p) := fun p hp => hreached ⟨hp.1, hp.2.1⟩
      rw [if_neg (hnever _), if_neg (hnever _), if_neg (hnever _)]

/-- A step of the setup. -/
theorem setup_spec (hst : s.step .setup = some t) : t.setup = s.setup.next s.syncState ∧
    t.syncState = s.setup.outcome s.syncState ∧
    ∀ c, t.due c = if s.setup.starts c then some s.syncState else s.due c := by
  simp only [Isolates.step] at hst
  cases hsetup : s.setup with
  | finished =>
    rw [hsetup] at hst
    cases hst
  | httpUpload syncState =>
    rw [hsetup] at hst
    obtain rfl := Option.some.inj hst
    exact ⟨rfl, rfl, fun c => rfl⟩
  | initial =>
    rw [hsetup] at hst
    obtain rfl := Option.some.inj hst
    refine ⟨rfl, rfl, fun c => (Isolates.due_setChild _ _ _ c).trans ?_⟩
    cases c <;> rfl
  | httpScan =>
    rw [hsetup] at hst
    obtain rfl := Option.some.inj hst
    refine ⟨rfl, rfl, fun c => (Isolates.due_setChild _ _ _ c).trans ?_⟩
    cases c <;> rfl
  | multicast =>
    rw [hsetup] at hst
    obtain rfl := Option.some.inj hst
    refine ⟨rfl, rfl, fun c => (Isolates.due_setChild _ _ _ c).trans ?_⟩
    rw [Isolates.due_setChild]
    cases c with
    | httpUpload index =>
      obtain rfl | rfl : index = 0 ∨ index = 1 := by omega
      · rfl
      · rfl
    | httpScan => rfl
    | multicast => rfl

/-- **What becomes of the sync state in the isolates**, where the setup goes on after `a`,
`b`, `c` and `d`: what is published in `d` is undone; the first two children hold what they
were started with until something is published in `e`, and then what the main isolate
holds, once they have handled what waits for them; the others hold what they were started
with. -/
theorem replicas_follow (first : SyncState) {a b c d e : List IsolateEvent}
    (hapart : ∀ part ∈ [a, b, c, d, e], ∀ event ∈ part, event.isSetup = false)
    (h : (isolates first).run (isolates first).init
      (a ++ .setup :: (b ++ .setup :: (c ++ .setup :: (d ++ .setup :: e)))) = some s) :
    s.syncState = replay e (replay c (replay b (replay a first))) ∧
      s.due .httpScan = some (if e.any IsolateEvent.isPublish then s.syncState else replay a first) ∧
      s.due .multicast = some (if e.any IsolateEvent.isPublish then s.syncState else replay b (replay a first)) ∧
      ∀ index, s.due (.httpUpload index) = some (replay c (replay b (replay a first))) := by
  have hsplit : ∀ {s t : Isolates} {part rest : List IsolateEvent},
      (isolates first).run s (part ++ .setup :: rest) = some t → ∃ m n, (isolates first).run s part = some m ∧
        m.step .setup = some n ∧ (isolates first).run n rest = some t := by
    intro s t part rest h
    rw [System.run_append] at h
    obtain ⟨m, hm, hrest⟩ := Option.bind_eq_some_iff.mp h
    obtain ⟨n, hn, hlater⟩ := System.run_cons_some _ hrest
    exact ⟨m, n, hm, hn, hlater⟩
  obtain ⟨s₁, s₂, ha, h₁₂, h⟩ := hsplit h
  obtain ⟨s₃, s₄, hb, h₃₄, h⟩ := hsplit h
  obtain ⟨s₅, s₆, hc, h₅₆, h⟩ := hsplit h
  obtain ⟨s₇, s₈, hd, h₇₈, he⟩ := hsplit h
  obtain ⟨sync₁, setup₁, -⟩ := run_apart ha (hapart a (by simp))
  obtain ⟨setup₂, sync₂, due₂⟩ := setup_spec h₁₂
  rw [setup₁] at setup₂ sync₂ due₂
  obtain ⟨sync₃, setup₃, due₃⟩ := run_apart hb (hapart b (by simp))
  obtain ⟨setup₄, sync₄, due₄⟩ := setup_spec h₃₄
  rw [setup₃, setup₂] at setup₄ sync₄ due₄
  obtain ⟨sync₅, setup₅, due₅⟩ := run_apart hc (hapart c (by simp))
  obtain ⟨setup₆, sync₆, due₆⟩ := setup_spec h₅₆
  rw [setup₅, setup₄] at setup₆ sync₆ due₆
  obtain ⟨-, setup₇, due₇⟩ := run_apart hd (hapart d (by simp))
  obtain ⟨setup₈, sync₈, due₈⟩ := setup_spec h₇₈
  rw [setup₇, setup₆] at setup₈ sync₈ due₈
  obtain ⟨sync₉, -, due₉⟩ := run_apart he (hapart e (by simp))
  -- What the main isolate holds as each step of the setup is taken.
  have hfirst : s₁.syncState = replay a first := sync₁
  have hsecond : s₃.syncState = replay b (replay a first) := by rw [sync₃, sync₂, ← hfirst]; rfl
  have hthird : s₅.syncState = replay c (replay b (replay a first)) := by rw [sync₅, sync₄, ← hsecond]; rfl
  have hlast : s₈.syncState = replay c (replay b (replay a first)) := by rw [sync₈, ← hthird]; rfl
  -- What the children are started with, and keep until the setup has come to its end.
  have hscan : s₈.due .httpScan = some (replay a first) := by
    rw [due₈, due₇, due₆, due₅, due₄, due₃, due₂, setup₂, setup₄, setup₆, ← hfirst]
    rfl
  have hmulticast : s₈.due .multicast = some (replay b (replay a first)) := by
    rw [due₈, due₇, due₆, due₅, due₄, setup₄, setup₆, ← hsecond]
    rfl
  have hupload : ∀ index, s₈.due (.httpUpload index) = some (replay c (replay b (replay a first))) := by
    intro index
    rw [due₈, due₇, due₆, setup₆, ← hthird]
    rfl
  refine ⟨sync₉.trans (congrArg (replay e) hlast), ?_, ?_, fun index => ?_⟩
  · rw [due₉, setup₈, hscan]
    by_cases hpublish : e.any IsolateEvent.isPublish
    · rw [if_pos ⟨rfl, rfl, hpublish⟩, if_pos hpublish]
      rfl
    · rw [if_neg fun hall => hpublish hall.2.2, if_neg hpublish]
  · rw [due₉, setup₈, hmulticast]
    by_cases hpublish : e.any IsolateEvent.isPublish
    · rw [if_pos ⟨rfl, rfl, hpublish⟩, if_pos hpublish]
      rfl
    · rw [if_neg fun hall => hpublish hall.2.2, if_neg hpublish]
  · rw [due₉, hupload]
    simp [Child.isSynced]

/-! ### Tasks -/

/-- What the main isolate sends to a child, with the sync state it has. -/
def sent (c : Child) (s : Isolates) : IsolateEvent → List (ChildTask × SyncState)
  | .send d task => if d = c then [(task, s.syncState)] else []
  | _ => []

/-- What the child handles, with the sync state it has by then. -/
def handled (c : Child) (s : Isolates) : IsolateEvent → List (ChildTask × SyncState)
  | .handleMessage d =>
    if d = c then
      ((s.child c).bind fun child => child.inbox.head?.bind fun message =>
        message.data.map (·, message.syncState.getD child.syncState)).toList
    else []
  | _ => []

namespace Isolates

theorem waiting_congr (h : s.child = t.child) (c : Child) : s.waiting c = t.waiting c := by
  simp only [waiting, h]

/-- A step once the setup has come to its end, as one child sees it. -/
theorem step_waiting {c : Child} {e : IsolateEvent} (hc : c.isSynced = true) (hsetup : s.setup = .finished)
    (hdue : s.due c = some s.syncState) (hst : s.step e = some t) :
    (t.setup = .finished ∧ t.due c = some t.syncState) ∧ s.waiting c ++ sent c s e = handled c s e ++ t.waiting c := by
  have hnosetup : e.isSetup = false := by
    cases e with
    | setup =>
      simp only [step, hsetup] at hst
      cases hst
    | _ => rfl
  obtain ⟨hsync, hsetup', hdue'⟩ := step_apart hst hnosetup
  constructor
  · refine ⟨hsetup'.trans hsetup, ?_⟩
    rw [hdue', hdue]
    by_cases hpublish : e.isPublish
    · rw [if_pos ⟨hsetup, hc, hpublish⟩]
      rfl
    · have hkept : t.syncState = s.syncState := by
        rw [hsync]
        cases e with
        | publish action => exact absurd rfl hpublish
        | _ => rfl
      rw [if_neg fun hall => hpublish hall.2.2, hkept]
  · cases e with
    | setup => cases hnosetup
    | publish action =>
      simp only [step, if_pos hsetup] at hst
      obtain rfl := Option.some.inj hst
      have hwaiting := waiting_sendToIsolate s Child.isSynced ⟨some (action.reduce s.syncState), none⟩ c
      rw [if_pos hc, hdue] at hwaiting
      exact ((waiting_congr rfl c).trans hwaiting).symm
    | send d task =>
      simp only [step, if_pos hsetup] at hst
      obtain rfl := Option.some.inj hst
      have hwaiting := waiting_sendToIsolate s (· = d) ⟨none, some task⟩ c
      rw [hdue] at hwaiting
      by_cases hd : d = c
      · subst hd
        simpa [sent, handled] using hwaiting.symm
      · have hcd : ¬ c = d := fun heq => hd heq.symm
        simpa [sent, handled, hd, hcd] using hwaiting.symm
    | ready d =>
      simp only [step] at hst
      obtain ⟨child, hchild, hready⟩ := Option.bind_eq_some_iff.mp hst
      split_ifs at hready
      obtain rfl := Option.some.inj hready
      by_cases hd : c = d
      · subst hd
        simp [waiting, setChild, hchild, sent, handled]
      · simp [waiting, setChild, hd, sent, handled]
    | handleMessage d =>
      obtain ⟨child, message, rest, hchild, hinbox, rfl⟩ := handleMessage_cases hst
      rw [waiting_congr (handle_child s d child message rest)]
      by_cases hd : d = c
      · subst hd
        cases hdata : message.data <;> simp [waiting, setChild, hchild, hinbox, sent, handled, views, hdata]
      · have hcd : ¬ c = d := fun heq => hd heq.symm
        simp [waiting, setChild, hd, hcd, sent, handled]
    | startListener =>
      simp only [step] at hst
      split at hst
      · split_ifs at hst
        obtain rfl := Option.some.inj hst
        exact List.append_nil _
      · cases hst
    | bound =>
      simp only [step] at hst
      split at hst
      · split_ifs at hst
        obtain rfl := Option.some.inj hst
        exact List.append_nil _
      · cases hst
    | dispose =>
      obtain rfl := Option.some.inj hst
      exact List.append_nil _

end Isolates

/-- **A child handles every task in the sync state it was sent in**, in the order in which
the tasks were sent, none lost and none twice, from where the setup has come to its end and
the child is to hold what the main isolate holds. -/
theorem tasks_in_state {c : Child} (hc : c.isSynced = true) (hsetup : s.setup = .finished)
    (hdue : s.due c = some s.syncState) (h : (isolates first).run s events = some t) :
    s.waiting c ++ (isolates first).log (sent c) s events =
      (isolates first).log (handled c) s events ++ t.waiting c := by
  have hstep : ∀ (s : Isolates) (e : IsolateEvent) (t : Isolates), s.setup = .finished ∧ s.due c = some s.syncState →
      (isolates first).step s e = some t → (t.setup = .finished ∧ t.due c = some t.syncState) ∧
        s.waiting c ++ sent c s e = handled c s e ++ t.waiting c := fun s e t hI hst =>
    Isolates.step_waiting hc hI.1 hI.2 hst
  exact System.log_balance hstep ⟨hsetup, hdue⟩ h

end Run

/-! ### A start -/

namespace Start

def laptop : SyncState where
  securityContext := ⟨"private key of laptop", "public key of laptop", "certificate of laptop", "hash of laptop"⟩
  deviceInfo := ⟨.desktop, none, none⟩
  «alias» := "Laptop"
  port := 53317
  networkWhitelist := none
  networkBlacklist := none
  protocol := .https
  multicastGroup := "224.0.0.167"
  discoveryTimeout := 500
  serverRunning := true
  download := false

def rename («alias» : String) : IsolateEvent := .publish (.serverState «alias» 53317 .https true false)

end Start

open Start in
/-- It is renamed while the isolates for uploads are waited for, and is as before. -/
theorem replicas_follow_start : ∃ s,
    (isolates laptop).run (isolates laptop).init [.setup, .setup, .setup, rename "Desk", .setup] = some s ∧
    s.syncState = laptop ∧ s.due .multicast = some laptop := by
  have hsome : ((isolates laptop).run (isolates laptop).init
      [.setup, .setup, .setup, rename "Desk", .setup]).isSome = true := by decide +kernel
  obtain ⟨s, hrun⟩ := Option.isSome_iff_exists.mp hsome
  obtain ⟨hsync, -, hmulticast, -⟩ :=
    replicas_follow laptop (a := []) (b := []) (c := []) (d := [rename "Desk"]) (e := []) (by decide) hrun
  exact ⟨s, hrun, hsync, hmulticast⟩

open Start in
/-- An announcement that is sent before a change and handled after it. -/
theorem tasks_in_state_start : ∃ s, (isolates laptop).run (isolates laptop).init
      [.setup, .setup, .setup, .setup, .ready .multicast] = some s ∧
    (isolates laptop).log (handled .multicast) s
      [.send .multicast .announcement, rename "Desk", .handleMessage .multicast] = [(.announcement, laptop)] := by
  have hsome : ((isolates laptop).run (isolates laptop).init [.setup, .setup, .setup, .setup, .ready .multicast]).any
      (fun s => s.setup = .finished ∧ s.due .multicast = some s.syncState ∧ s.waiting .multicast = [] ∧
        (isolates laptop).log (sent .multicast) s
          [.send .multicast .announcement, rename "Desk", .handleMessage .multicast] = [(.announcement, laptop)] ∧
        ((isolates laptop).run s [.send .multicast .announcement, rename "Desk", .handleMessage .multicast]).any
          fun t => t.waiting .multicast = []) = true := by
    decide +kernel
  obtain ⟨s, hrun, hview⟩ := (Option.any_eq_true _ _).mp hsome
  obtain ⟨hsetup, hdue, hbefore, hsent, hlater⟩ := of_decide_eq_true hview
  obtain ⟨t, hrun', hafter⟩ := (Option.any_eq_true _ _).mp hlater
  have htasks := tasks_in_state rfl hsetup hdue hrun'
  rw [hbefore, of_decide_eq_true hafter, List.append_nil] at htasks
  exact ⟨s, hrun, htasks.symm.trans hsent⟩

end MagicShare.Nearby
