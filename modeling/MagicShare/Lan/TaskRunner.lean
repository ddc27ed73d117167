import Mathlib.Data.List.Perm.Basic
import MagicShare.Base.Settling

/-! The task runner of the network scan (`TaskRunner`).

Up to `concurrency` runners share one queue: each takes a task, awaits it, adds its result
to the stream and takes the next, until the queue is empty. Whichever runner ends last
closes the stream. Tasks complete in any order. Without a stop and without a task that
throws, a runner that is given tasks starts each of them once, adds each result once and
closes the stream once, after the last result (`everything_runs_once`). -/
namespace MagicShare.Lan

/-! ### The code -/

/-- What is seen of a runner, in order. -/
inductive Entry (τ : Type) where
  /-- A task is started; whether the runner was stopped before. -/
  | started (task : τ) (stopped : Bool)
  /-- The result of a task is added to the stream. -/
  | added (task : τ)
  /-- The result of a task comes to a closed stream, and `add` throws. -/
  | refused (task : τ)
  | closed
  | onFinish
  deriving DecidableEq

structure TaskRunner (τ : Type) where
  concurrency : Nat
  stayAlive : Bool
  queue : List τ := []
  runnerCount : Nat := 0
  stopped : Bool := false
  isClosed : Bool := false
  /-- The task that each `_runner` awaits. -/
  running : List τ := []
  log : List (Entry τ) := []
  deriving DecidableEq

inductive RunnerEvent (τ : Type) where
  /-- The task that one of the runners awaits completes. -/
  | completes (runner : Nat)
  | throws (runner : Nat)
  | addAll (tasks : List τ)
  | stop

namespace TaskRunner
variable {τ : Type}

/-- A runner is started and takes its first task. -/
def startRunner (s : TaskRunner τ) (task : τ) : TaskRunner τ :=
  {s with
    runnerCount := s.runnerCount + 1
    running := s.running ++ [task]
    log := s.log ++ [.started task s.stopped]}

/-- `_fireRunners` with this queue. -/
def fireRunners : List τ → TaskRunner τ → TaskRunner τ
  | [], s => {s with queue := []}
  | task :: queue, s =>
    if s.runnerCount < s.concurrency ∧ s.isClosed = false then fireRunners queue (s.startRunner task)
    else {s with queue := task :: queue}

/-- The constructor; without initial tasks or with an empty list of them it stays alive
unless told otherwise. -/
def create (concurrency : Nat) (initialTasks : List τ) (stayAlive : Option Bool) : TaskRunner τ :=
  fireRunners initialTasks {concurrency, stayAlive := stayAlive.getD initialTasks.isEmpty}

/-- A runner found the queue empty: the `onFinish` of `_fireRunners`. -/
def endRunner (s : TaskRunner τ) : TaskRunner τ :=
  let s := {s with runnerCount := s.runnerCount - 1}
  if s.stopped ∨ s.runnerCount = 0 ∧ s.stayAlive = false then
    {s with isClosed := true, log := s.log ++ [.closed, .onFinish]}
  else s

def step (s : TaskRunner τ) : RunnerEvent τ → Option (TaskRunner τ)
  | .completes runner =>
    match s.running[runner]? with
    | none => none
    | some task =>
      -- what `add` throws ends the runner before its bookkeeping
      if s.isClosed then some {s with running := s.running.eraseIdx runner, log := s.log ++ [.refused task]}
      else match s.queue with
      | next :: queue =>
        some {s with
          queue
          running := s.running.set runner next
          log := s.log ++ [.added task, .started next s.stopped]}
      | [] => some (endRunner {s with running := s.running.eraseIdx runner, log := s.log ++ [.added task]})
  | .throws runner =>
    match s.running[runner]? with
    | none => none
    -- the error leaves `_runner`, and its bookkeeping is skipped
    | some _ => some {s with running := s.running.eraseIdx runner}
  | .addAll tasks => some (fireRunners (s.queue ++ tasks) s)
  | .stop => some {s with stopped := true}

end TaskRunner

def taskRunner {τ : Type} (concurrency : Nat) (initialTasks : List τ) (stayAlive : Option Bool) :
    Transition.System (TaskRunner τ) (RunnerEvent τ) where
  init := .create concurrency initialTasks stayAlive
  step := TaskRunner.step

/-- A runner that is only given its initial tasks, none of which throws, and is not stopped:
the events are the completions of the tasks that are awaited. -/
def undisturbed {τ : Type} (concurrency : Nat) (initialTasks : List τ) :
    Transition.System (TaskRunner τ) Nat where
  init := .create concurrency initialTasks none
  step s runner := s.step (.completes runner)

namespace TaskRunner
variable {τ : Type}

/-! ### The property -/

def startedTask : Entry τ → Option τ
  | .started task _ => some task
  | _ => none

def addedTask : Entry τ → Option τ
  | .added task => some task
  | _ => none

/-- The tasks that were started, in order. -/
def started (s : TaskRunner τ) : List τ := s.log.filterMap startedTask

/-- The tasks whose results were added, in order. -/
def added (s : TaskRunner τ) : List τ := s.log.filterMap addedTask

/-- Every task was started once and its result added once, and after that the stream was
closed and `onFinish` called, once. -/
structure RanOnce (tasks : List τ) (s : TaskRunner τ) : Prop where
  started : s.started = tasks
  added : s.added.Perm tasks
  ended : ∃ before, s.log = before ++ [.closed, .onFinish] ∧ .closed ∉ before ∧ .onFinish ∉ before
  accepted : ∀ task, .refused task ∉ s.log

/-- So far no task was started twice and no result added twice, no more tasks run than are
allowed, and the stream is open while there is anything left to do. -/
structure OnSchedule (concurrency : Nat) (tasks : List τ) (s : TaskRunner τ) : Prop where
  limit : s.running.length ≤ concurrency
  startedOnce : s.started ++ s.queue = tasks
  addedOnce : (s.added ++ s.running).Perm s.started
  closed : s.isClosed = true ∨ .closed ∈ s.log ∨ .onFinish ∈ s.log → s.RanOnce tasks

/-! ### Firing -/

/-- The tasks taken are the first of the queue. -/
def takes (s : TaskRunner τ) (taken rest : List τ) : TaskRunner τ :=
  {s with
    queue := rest
    runnerCount := s.runnerCount + taken.length
    running := s.running ++ taken
    log := s.log ++ taken.map fun task => .started task s.stopped}

/-- **What firing does**: as many runners are started as there are tasks and places. -/
theorem fireRunners_spec (queue : List τ) (s : TaskRunner τ) : ∃ taken rest, queue = taken ++ rest ∧
    fireRunners queue s = s.takes taken rest ∧
    (s.isClosed = true → taken = []) ∧
    (taken ≠ [] → s.runnerCount + taken.length ≤ s.concurrency) ∧
    (rest ≠ [] → s.isClosed = false → s.concurrency ≤ s.runnerCount + taken.length) := by
  induction queue generalizing s with
  | nil => exact ⟨[], [], rfl, by simp [fireRunners, takes], by simp⟩
  | cons task queue ih =>
    by_cases hroom : s.runnerCount < s.concurrency ∧ s.isClosed = false
    · obtain ⟨taken, rest, hqueue, hfire, hclosed, hlimit, hfull⟩ := ih (s.startRunner task)
      refine ⟨task :: taken, rest, by rw [hqueue]; rfl, ?_, by simp [hroom.2], fun _ => ?_, fun hrest _ => ?_⟩
      · rw [fireRunners, if_pos hroom, hfire]
        simp [takes, startRunner, Nat.add_assoc, Nat.add_comm 1]
      · by_cases htaken : taken = []
        · simp only [htaken, List.length_singleton]
          exact hroom.1
        · have hle := hlimit htaken
          simp only [startRunner, List.length_cons] at hle ⊢
          omega
      · have hle := hfull hrest hroom.2
        simp only [startRunner, List.length_cons] at hle ⊢
        omega
    · refine ⟨[], task :: queue, rfl, ?_, by simp, by simp, fun _ hopen => ?_⟩
      · rw [fireRunners, if_neg hroom]
        simp [takes]
      · have hfull : ¬ s.runnerCount < s.concurrency := fun hlt => hroom ⟨hlt, hopen⟩
        simp only [List.length_nil]
        omega

/-! ### Events -/

/-- What an event does, by what the runner finds. -/
inductive Moves (s : TaskRunner τ) : RunnerEvent τ → TaskRunner τ → Prop
  | refused {runner : Nat} {task : τ} (hget : s.running[runner]? = some task) (hclosed : s.isClosed = true) :
      Moves s (.completes runner)
        {s with running := s.running.eraseIdx runner, log := s.log ++ [.refused task]}
  | goesOn {runner : Nat} {task next : τ} {queue : List τ} (hget : s.running[runner]? = some task)
      (hopen : s.isClosed = false) (hqueue : s.queue = next :: queue) :
      Moves s (.completes runner) {s with
        queue
        running := s.running.set runner next
        log := s.log ++ [.added task, .started next s.stopped]}
  | closes {runner : Nat} {task : τ} (hget : s.running[runner]? = some task) (hopen : s.isClosed = false)
      (hqueue : s.queue = []) (hlast : s.stopped = true ∨ s.runnerCount - 1 = 0 ∧ s.stayAlive = false) :
      Moves s (.completes runner) {s with
        runnerCount := s.runnerCount - 1
        running := s.running.eraseIdx runner
        isClosed := true
        log := s.log ++ [.added task, .closed, .onFinish]}
  | ends {runner : Nat} {task : τ} (hget : s.running[runner]? = some task) (hopen : s.isClosed = false)
      (hqueue : s.queue = []) (hlast : ¬ (s.stopped = true ∨ s.runnerCount - 1 = 0 ∧ s.stayAlive = false)) :
      Moves s (.completes runner) {s with
        runnerCount := s.runnerCount - 1
        running := s.running.eraseIdx runner
        log := s.log ++ [.added task]}
  | throws {runner : Nat} {task : τ} (hget : s.running[runner]? = some task) :
      Moves s (.throws runner) {s with running := s.running.eraseIdx runner}
  | addAll (tasks : List τ) : Moves s (.addAll tasks) (fireRunners (s.queue ++ tasks) s)
  | stop : Moves s .stop {s with stopped := true}

variable {s t : TaskRunner τ} {e : RunnerEvent τ}

theorem moves_of_step (h : s.step e = some t) : Moves s e t := by
  cases e with
  | completes runner =>
    simp only [step] at h
    split at h
    · cases h
    · next task hget =>
      split at h
      · next hclosed =>
        obtain rfl := Option.some.inj h
        exact .refused hget hclosed
      · next hopen =>
        split at h
        · next next queue hqueue =>
          obtain rfl := Option.some.inj h
          exact .goesOn hget (by simpa using hopen) hqueue
        · next hqueue =>
          obtain rfl := Option.some.inj h
          by_cases hlast : s.stopped = true ∨ s.runnerCount - 1 = 0 ∧ s.stayAlive = false
          · have hmoves := Moves.closes hget (by simpa using hopen) hqueue hlast
            simpa [endRunner, hlast] using hmoves
          · have hmoves := Moves.ends hget (by simpa using hopen) hqueue hlast
            simpa [endRunner, hlast] using hmoves
  | throws runner =>
    simp only [step] at h
    split at h
    · cases h
    · next task hget =>
      obtain rfl := Option.some.inj h
      exact .throws hget
  | addAll tasks =>
    obtain rfl := Option.some.inj h
    exact .addAll tasks
  | stop =>
    obtain rfl := Option.some.inj h
    exact .stop

/-! ### What holds meanwhile -/

/-- Some runner is at work, and each counts. -/
structure Working (concurrency : Nat) (tasks : List τ) (s : TaskRunner τ) : Prop where
  isOpen : s.isClosed = false
  plain : s.stopped = false ∧ s.stayAlive = false
  busy : s.running ≠ []
  count : s.runnerCount = s.running.length
  limit : s.running.length ≤ concurrency
  startedOnce : s.started ++ s.queue = tasks
  addedOnce : (s.added ++ s.running).Perm s.started
  quiet : .closed ∉ s.log ∧ .onFinish ∉ s.log ∧ ∀ task, .refused task ∉ s.log

inductive Stage (concurrency : Nat) (tasks : List τ) (s : TaskRunner τ) : Prop
  | working (h : s.Working concurrency tasks)
  | done (h : s.RanOnce tasks) (hrunning : s.running = []) (hqueue : s.queue = [])

/-- Where a runner was at a task, what the others are at. -/
theorem perm_eraseIdx {runner : Nat} {task : τ} (hget : s.running[runner]? = some task) :
    s.running.Perm (task :: s.running.eraseIdx runner) := by
  obtain ⟨hlt, rfl⟩ := List.getElem?_eq_some_iff.mp hget
  exact (List.getElem_cons_eraseIdx_perm hlt).symm

theorem length_eraseIdx {runner : Nat} {task : τ} (hget : s.running[runner]? = some task) :
    (s.running.eraseIdx runner).length + 1 = s.running.length := by
  have hlength := (perm_eraseIdx hget).length_eq
  simpa using hlength.symm

/-- The queue is empty and a runner ends: with its result those of all tasks but the ones
that still run are added. -/
theorem Working.added_perm {concurrency : Nat} {tasks : List τ} {runner : Nat} {task : τ}
    (h : s.Working concurrency tasks) (hget : s.running[runner]? = some task) (hqueue : s.queue = []) :
    (s.added ++ [task] ++ s.running.eraseIdx runner).Perm tasks := by
  have hstarted := h.startedOnce
  rw [hqueue, List.append_nil] at hstarted
  rw [← hstarted, List.append_assoc]
  exact ((perm_eraseIdx hget).symm.append_left s.added).trans h.addedOnce

/-- A runner goes on to the next task. -/
theorem swapped {runner : Nat} {task : τ} {results begun : List τ} (next : τ)
    (hget : s.running[runner]? = some task) (h : (results ++ s.running).Perm begun) :
    (results ++ [task] ++ s.running.set runner next).Perm (begun ++ [next]) := by
  obtain ⟨hlt, -⟩ := List.getElem?_eq_some_iff.mp hget
  have hset := List.set_perm_cons_eraseIdx hlt next
  calc (results ++ [task] ++ s.running.set runner next).Perm (results ++ [task] ++ (next :: s.running.eraseIdx runner)) :=
        hset.append_left _
    _ = results ++ ([task] ++ next :: s.running.eraseIdx runner) := List.append_assoc ..
    List.Perm _ (results ++ (task :: s.running.eraseIdx runner ++ [next])) :=
        ((List.perm_append_singleton next _).symm.cons task).append_left results
    List.Perm _ (results ++ (s.running ++ [next])) :=
        ((perm_eraseIdx hget).symm.append_right [next]).append_left results
    _ = results ++ s.running ++ [next] := (List.append_assoc ..).symm
    List.Perm _ (begun ++ [next]) := h.append_right [next]

theorem Working.moves {concurrency : Nat} {tasks : List τ} {runner : Nat} (h : s.Working concurrency tasks)
    (hm : Moves s (.completes runner) t) : t.Stage concurrency tasks := by
  obtain ⟨hclosedLog, hfinishLog, hrefusedLog⟩ := h.quiet
  have hcount := h.count
  have hlimit := h.limit
  have hstarted := h.startedOnce
  cases hm with
  | refused hget hclosed =>
    rw [h.isOpen] at hclosed
    cases hclosed
  | goesOn hget hopen hqueue =>
    rename_i task next queue
    rw [hqueue] at hstarted
    refine .working ⟨h.isOpen, h.plain, ?_, ?_, ?_, ?_, ?_, ?_⟩
    · simpa using h.busy
    · simpa using hcount
    · simpa using hlimit
    · simpa [started, List.filterMap_cons, startedTask] using hstarted
    · have hperm := swapped next hget h.addedOnce
      simpa [added, started, List.filterMap_cons, addedTask, startedTask] using hperm
    · simp [hclosedLog, hfinishLog, hrefusedLog]
  | closes hget hopen hqueue hlast =>
    rename_i task
    have hlength := length_eraseIdx hget
    have hnone : s.running.eraseIdx runner = [] := by
      rcases hlast with hstopped | ⟨hzero, -⟩
      · rw [h.plain.1] at hstopped
        cases hstopped
      · rw [← List.length_eq_zero_iff]
        omega
    have hperm := h.added_perm hget hqueue
    rw [hqueue, List.append_nil] at hstarted
    rw [hnone, List.append_nil] at hperm
    have hended : ∃ before, s.log ++ [.added task, .closed, .onFinish] = before ++ [.closed, .onFinish] ∧
        .closed ∉ before ∧ .onFinish ∉ before :=
      ⟨s.log ++ [.added task], by simp, by simp [hclosedLog], by simp [hfinishLog]⟩
    refine .done ⟨?_, ?_, hended, ?_⟩ hnone hqueue
    · simpa [started, List.filterMap_cons, startedTask] using hstarted
    · simpa [added, List.filterMap_cons, addedTask] using hperm
    · simp [hrefusedLog]
  | ends hget hopen hqueue hlast =>
    have hlength := length_eraseIdx hget
    have hperm := h.added_perm hget hqueue
    rw [hqueue, List.append_nil] at hstarted
    refine .working ⟨h.isOpen, h.plain, ?_, ?_, ?_, ?_, ?_, ?_⟩
    · -- the last runner would have closed the stream
      intro hnone
      have hnone : s.running.eraseIdx runner = [] := hnone
      rw [hnone, List.length_nil] at hlength
      exact hlast (.inr ⟨by omega, h.plain.2⟩)
    · show s.runnerCount - 1 = (s.running.eraseIdx runner).length
      omega
    · show (s.running.eraseIdx runner).length ≤ concurrency
      omega
    · simpa [started, List.filterMap_cons, startedTask] using h.startedOnce
    · rw [← hstarted] at hperm
      simpa [added, started, List.filterMap_cons, addedTask, startedTask] using hperm
    · simp [hclosedLog, hfinishLog, hrefusedLog]

theorem Stage.moves {concurrency : Nat} {tasks : List τ} {runner : Nat} (h : s.Stage concurrency tasks)
    (hm : Moves s (.completes runner) t) : t.Stage concurrency tasks := by
  rcases h with hworking | ⟨hdone, hrunning, hqueue⟩
  · exact hworking.moves hm
  · -- nobody is left whose task could complete
    cases hm with
    | refused hget | goesOn hget | closes hget | ends hget =>
      rw [hrunning] at hget
      cases hget

theorem Stage.onSchedule {concurrency : Nat} {tasks : List τ} (h : s.Stage concurrency tasks) :
    s.OnSchedule concurrency tasks := by
  rcases h with hworking | ⟨hdone, hrunning, hqueue⟩
  · obtain ⟨hclosed, hfinish, -⟩ := hworking.quiet
    refine ⟨hworking.limit, hworking.startedOnce, hworking.addedOnce, ?_⟩
    simp [hworking.isOpen, hclosed, hfinish]
  · refine ⟨by simp [hrunning], by simpa [hqueue] using hdone.started, ?_, fun _ => hdone⟩
    rw [hrunning, List.append_nil, hdone.started]
    exact hdone.added

/-- Whoever awaits a task goes on when it completes. -/
theorem completes_enabled {runner : Nat} {task : τ} (hget : s.running[runner]? = some task) :
    ∃ t, s.step (.completes runner) = some t := by
  simp only [step, hget]
  split
  · exact ⟨_, rfl⟩
  · split
    · exact ⟨_, rfl⟩
    · exact ⟨_, rfl⟩

/-- Each completion leaves less to be done. -/
theorem Moves.left_lt {runner : Nat} (hm : Moves s (.completes runner) t) :
    t.running.length + t.queue.length < s.running.length + s.queue.length := by
  cases hm with
  | refused hget =>
    have hlength := length_eraseIdx hget
    show (s.running.eraseIdx runner).length + s.queue.length < _
    omega
  | goesOn hget hopen hqueue => simp [hqueue]
  | closes hget hopen hqueue | ends hget hopen hqueue =>
    have hlength := length_eraseIdx hget
    show (s.running.eraseIdx runner).length + s.queue.length < _
    omega

/-- As it is created, a runner with tasks works on the first of them. -/
theorem stage_create {concurrency : Nat} {tasks : List τ} (htasks : tasks ≠ []) (hconcurrency : 1 ≤ concurrency) :
    (create concurrency tasks none).Stage concurrency tasks := by
  obtain ⟨taken, rest, htaken, hfire, -, hlimit, hfull⟩ :=
    fireRunners_spec tasks ({concurrency, stayAlive := tasks.isEmpty} : TaskRunner τ)
  rw [create, Option.getD_none, hfire]
  have hbusy : taken ≠ [] := by
    rintro rfl
    have hrest : rest ≠ [] := fun h => htasks (by rw [htaken, h]; rfl)
    have hle := hfull hrest rfl
    simp only [List.length_nil] at hle
    omega
  have hstarted : (taken.map fun task => Entry.started task false).filterMap startedTask = taken := by
    rw [List.filterMap_map]
    exact List.filterMap_some
  have hadded : (taken.map fun task => Entry.started task false).filterMap addedTask = [] := by
    simp [List.filterMap_map, addedTask, Function.comp_def]
  refine .working ⟨rfl, ⟨rfl, ?_⟩, ?_, by simp [takes], ?_, ?_, ?_, ?_⟩
  · simpa [takes] using htasks
  · simpa [takes] using hbusy
  · have hle := hlimit hbusy
    simpa [takes] using hle
  · simpa [takes, started, hstarted] using htaken.symm
  · simp [takes, added, started, hstarted, hadded]
  · simp [takes]

end TaskRunner

/-- **A runner runs everything once**: in every order of completions it comes to an end where
each task was started once, each result added once, and the stream closed and `onFinish`
called once after the last of them; until then it is on schedule. -/
theorem everything_runs_once {τ : Type} (tasks : List τ) (htasks : tasks ≠ []) (concurrency : Nat)
    (hconcurrency : 1 ≤ concurrency) :
    (undisturbed concurrency tasks).Settles (undisturbed concurrency tasks).init (·.RanOnce tasks) ∧
      ∀ s, (undisturbed concurrency tasks).Reachable s → s.OnSchedule concurrency tasks := by
  have hinit := TaskRunner.stage_create htasks hconcurrency
  have hstep : ∀ (s : TaskRunner τ) runner t, s.Stage concurrency tasks →
      (undisturbed concurrency tasks).step s runner = some t → t.Stage concurrency tasks :=
    fun s runner t h hst => h.moves (TaskRunner.moves_of_step hst)
  have hleft : ∀ (s : TaskRunner τ) runner t, s.Stage concurrency tasks →
      (undisturbed concurrency tasks).step s runner = some t →
        t.Stage concurrency tasks ∧ t.running.length + t.queue.length < s.running.length + s.queue.length :=
    fun s runner t h hst => ⟨hstep s runner t h hst, TaskRunner.Moves.left_lt (TaskRunner.moves_of_step hst)⟩
  have hbound : ∀ runners t, (undisturbed concurrency tasks).run (undisturbed concurrency tasks).init runners = some t →
      runners.length ≤ (undisturbed concurrency tasks).init.running.length +
        (undisturbed concurrency tasks).init.queue.length :=
    fun runners t hrun => Transition.System.length_le_rank hleft hinit hrun
  refine ⟨⟨⟨_, hbound⟩, fun runners t hrun hstuck => ?_⟩, fun s hs => (hs.invariant hinit hstep).onSchedule⟩
  rcases Transition.System.run_invariant hstep hinit hrun with hworking | ⟨hdone, -, -⟩
  · -- a runner that is at work has a task to complete
    obtain ⟨task, running, hrunning⟩ := List.exists_cons_of_ne_nil hworking.busy
    have hget : t.running[0]? = some task := by rw [hrunning, List.getElem?_cons_zero]
    obtain ⟨u, hu⟩ := TaskRunner.completes_enabled hget
    cases (hstuck 0).symm.trans hu
  · exact hdone

/-- A scan of 255 addresses with 50 runners. -/
theorem everything_runs_once_scan :
    (undisturbed 50 (List.range 255)).Settles (undisturbed 50 (List.range 255)).init (·.RanOnce (List.range 255)) ∧
      ∀ s, (undisturbed 50 (List.range 255)).Reachable s → s.OnSchedule 50 (List.range 255) :=
  everything_runs_once (List.range 255) (by decide +kernel) 50 (by decide)

end MagicShare.Lan
