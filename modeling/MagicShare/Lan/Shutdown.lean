import MagicShare.Lan.TaskRunner

/-! How a task runner ends (`TaskRunner.stop`, and tasks that throw).

`stop` sets a flag that is looked at when a runner finds the queue empty: the runners go on
with the queue, and the first to end closes the stream under the others, whose results are
then refused. A task that throws takes its runner with it, uncounted, so the stream of a
runner that is not kept alive is never closed. The runner shuts down cleanly exactly in the
runs where neither matters (`shutsDown_iff`): it is stopped while one task is left, nothing
is added after that, and tasks throw only where the stream is not to be closed. -/
namespace MagicShare.Lan

namespace TaskRunner
variable {τ : Type}

/-! ### The property -/

def isOnFinish : Entry τ → Bool
  | .onFinish => true
  | _ => false

structure ShutsDown (s : TaskRunner τ) : Prop where
  /-- No result is added to a closed stream. -/
  noLateResult : ∀ task, .refused task ∉ s.log
  /-- No queued task is started after a stop. -/
  noLateStart : ∀ task, .started task true ∉ s.log
  finishedOnce : s.log.countP isOnFinish ≤ 1
  /-- When all tasks that were started have ended, after a stop or with an empty queue and
  not kept alive, the stream is closed. -/
  closes : s.running = [] → s.stopped = true ∨ s.queue = [] ∧ s.stayAlive = false → s.isClosed = true

/-- An event that leaves the way to a clean end. -/
def Orderly (s : TaskRunner τ) : RunnerEvent τ → Prop
  | .completes _ => True
  -- the stream stays open, or tasks are left in the queue that nobody will start
  | .throws _ => s.stopped = false ∧ (s.stayAlive = true ∨ s.running.length = 1 ∧ s.queue ≠ [])
  | .addAll tasks => s.isClosed = false → s.stopped = true → tasks = []
  | .stop => s.isClosed = false → s.stopped = false → s.running.length = 1 ∧ s.queue = []

/-- However the runner goes on in good order, it shuts down. -/
def EndsWell (M : Transition.System (TaskRunner τ) (RunnerEvent τ)) (s : TaskRunner τ) : Prop :=
  ∀ events t, M.Meets Orderly s events → M.run s events = some t → t.ShutsDown

/-! ### What holds meanwhile -/

/-- The books of a runner that is not kept alive: each runner counts and there is something
to do, or all have thrown and tasks are left. -/
inductive Counted (s : TaskRunner τ) : Prop
  | kept (h : s.stayAlive = true)
  | atWork (hcount : s.runnerCount = s.running.length) (hleft : s.running ≠ [] ∨ s.queue ≠ [])
  | stranded (hstopped : s.stopped = false) (hrunning : s.running = []) (hqueue : s.queue ≠ [])

structure Sound (s : TaskRunner τ) : Prop where
  noLateResult : ∀ task, .refused task ∉ s.log
  noLateStart : ∀ task, .started task true ∉ s.log
  finished : s.log.countP isOnFinish = s.isClosed.toNat
  ended : s.isClosed = true → s.running = []
  last : s.isClosed = false → s.stopped = true → s.running.length = 1 ∧ s.queue = []
  counted : s.isClosed = false → s.Counted
  /-- Tasks wait only where there is no place. -/
  full : s.isClosed = false → s.queue ≠ [] → s.concurrency ≤ s.runnerCount

variable {s t : TaskRunner τ} {e : RunnerEvent τ}

theorem Sound.shutsDown (h : s.Sound) : s.ShutsDown := by
  refine ⟨h.noLateResult, h.noLateStart, ?_, fun hrunning hend => ?_⟩
  · rw [h.finished]
    exact Bool.toNat_le _
  · by_contra hopen
    have hopen : s.isClosed = false := by simpa using hopen
    rcases hend with hstopped | ⟨hqueue, hstay⟩
    · have hone := (h.last hopen hstopped).1
      rw [hrunning] at hone
      cases hone
    · rcases h.counted hopen with hkept | ⟨-, hleft⟩ | ⟨-, -, hqueue'⟩
      · rw [hstay] at hkept
        cases hkept
      · exact hleft.elim (fun h => h hrunning) fun h => h hqueue
      · exact hqueue' hqueue

/-- Firing starts tasks only while the runner is neither closed nor stopped. -/
theorem Sound.fires (h : s.Sound) {tasks : List τ} (horderly : s.Orderly (.addAll tasks)) :
    (fireRunners (s.queue ++ tasks) s).Sound := by
  obtain ⟨taken, rest, htaken, hfire, hclosed, hlimit, hfull⟩ := fireRunners_spec (s.queue ++ tasks) s
  rw [hfire]
  have hstopped : s.isClosed = false → s.stopped = true → taken = [] ∧ rest = [] := by
    intro hopen hstopped
    rw [(h.last hopen hstopped).2, horderly hopen hstopped] at htaken
    simpa using htaken.symm
  have hlate : s.stopped = true → taken = [] := by
    intro hs
    cases hopen : s.isClosed with
    | true => exact hclosed hopen
    | false => exact (hstopped hopen hs).1
  have hfinished : (taken.map fun task => Entry.started task s.stopped).countP isOnFinish = 0 := by
    simp [List.countP_eq_zero, isOnFinish]
  refine ⟨?_, ?_, ?_, ?_, ?_, ?_, fun hopen hrest => ?_⟩
  · simpa [takes] using h.noLateResult
  · intro task htask
    rcases List.mem_append.mp htask with hold | hnew
    · exact h.noLateStart task hold
    · obtain ⟨other, hother, heq⟩ := List.mem_map.mp hnew
      rw [hlate (Entry.started.inj heq).2] at hother
      cases hother
  · simpa [takes, hfinished] using h.finished
  · intro hc
    simpa [takes, hclosed hc] using h.ended hc
  · intro hopen hs
    obtain ⟨rfl, rfl⟩ := hstopped hopen hs
    simpa [takes] using (h.last hopen hs).1
  · intro hopen
    rcases h.counted hopen with hkept | ⟨hcount, hleft⟩ | ⟨hs, hrunning, hqueue⟩
    · exact .kept hkept
    · refine .atWork (by simp [takes, hcount]) ?_
      have hsome : s.running ≠ [] ∨ taken ≠ [] ∨ rest ≠ [] := by
        by_contra hnone
        simp only [not_or, not_not] at hnone
        obtain ⟨hrunning, rfl, rfl⟩ := hnone
        rcases hleft with hleft | hleft
        · exact hleft hrunning
        · exact hleft (List.append_eq_nil_iff.mp htaken).1
      rcases hsome with hsome | hsome | hsome
      · exact .inl (by simp [takes, hsome])
      · exact .inl (by simp [takes, hsome])
      · exact .inr hsome
    · -- without a place nothing is taken
      have hfull := h.full hopen hqueue
      have hnone : taken = [] := by
        by_contra hsome
        have hle := hlimit hsome
        have hpos := List.length_pos_of_ne_nil hsome
        omega
      subst hnone
      refine .stranded hs (by simpa [takes] using hrunning) ?_
      rintro rfl
      exact hqueue (List.append_eq_nil_iff.mp htaken).1
  · exact hfull hrest hopen

/-- **An orderly event keeps the books.** -/
theorem Sound.moves (h : s.Sound) (horderly : s.Orderly e) (hm : Moves s e t) : t.Sound := by
  cases hm with
  | refused hget hclosed =>
    rw [h.ended hclosed] at hget
    cases hget
  | goesOn hget hopen hqueue =>
    rename_i runner task next queue
    have hstopped : s.stopped = false := by
      by_contra hs
      have hempty := (h.last hopen (by simpa using hs)).2
      rw [hqueue] at hempty
      cases hempty
    have hbusy : s.running ≠ [] := fun hnone => by simp [hnone] at hget
    refine ⟨?_, ?_, ?_, ?_, ?_, fun _ => ?_, fun _ _ => h.full hopen (by simp [hqueue])⟩
    · simpa using h.noLateResult
    · simpa [hstopped] using h.noLateStart
    · simpa [List.countP_cons, isOnFinish] using h.finished
    · intro hc
      rw [hopen] at hc
      cases hc
    · intro _ hs
      rw [hstopped] at hs
      cases hs
    · rcases h.counted hopen with hkept | ⟨hcount, -⟩ | ⟨-, hrunning, -⟩
      · exact .kept hkept
      · exact .atWork (by simpa using hcount) (.inl (by simpa using hbusy))
      · exact absurd hrunning hbusy
  | closes hget hopen hqueue hlast =>
    rename_i runner task
    have hlength := length_eraseIdx hget
    have hfinished : s.log.countP isOnFinish = 0 := by simpa [hopen] using h.finished
    refine ⟨?_, ?_, ?_, fun _ => ?_, nofun, nofun, nofun⟩
    · simpa using h.noLateResult
    · simpa using h.noLateStart
    · simpa [List.countP_cons, isOnFinish] using hfinished
    · show s.running.eraseIdx runner = []
      rw [← List.length_eq_zero_iff]
      rcases hlast with hstopped | ⟨hzero, hstay⟩
      · have hone := (h.last hopen hstopped).1
        omega
      · rcases h.counted hopen with hkept | ⟨hcount, -⟩ | ⟨-, hrunning, -⟩
        · rw [hstay] at hkept
          cases hkept
        · omega
        · rw [hrunning] at hlength
          cases hlength
  | ends hget hopen hqueue hlast =>
    rename_i runner task
    have hlength := length_eraseIdx hget
    simp only [not_or, not_and] at hlast
    obtain ⟨hstopped, hlast⟩ := hlast
    refine ⟨?_, ?_, ?_, ?_, ?_, fun _ => ?_, fun _ hleft => absurd hqueue hleft⟩
    · simpa using h.noLateResult
    · simpa using h.noLateStart
    · simpa [List.countP_cons, isOnFinish] using h.finished
    · intro hc
      exact absurd hc (by simp [hopen])
    · intro _ hs
      exact absurd hs hstopped
    · rcases h.counted hopen with hkept | ⟨hcount, -⟩ | ⟨-, hrunning, -⟩
      · exact .kept hkept
      · by_cases hstay : s.stayAlive = true
        · exact .kept hstay
        · have hmore : s.runnerCount - 1 ≠ 0 := fun hzero => hlast hzero (by simpa using hstay)
          refine .atWork ?_ (.inl ?_)
          · show s.runnerCount - 1 = (s.running.eraseIdx runner).length
            omega
          · show s.running.eraseIdx runner ≠ []
            intro hnone
            rw [hnone, List.length_nil] at hlength
            omega
      · rw [hrunning] at hget
        cases hget
  | throws hget =>
    rename_i runner task
    have hlength := length_eraseIdx hget
    obtain ⟨hstopped, hallowed⟩ := horderly
    refine ⟨h.noLateResult, h.noLateStart, h.finished, ?_, ?_, fun hopen => ?_, h.full⟩
    · intro hc
      rw [h.ended hc] at hget
      cases hget
    · intro _ hs
      rw [hstopped] at hs
      cases hs
    · rcases hallowed with hkept | ⟨hone, hqueue⟩
      · exact .kept hkept
      · have hnone : s.running.eraseIdx runner = [] := by
          rw [← List.length_eq_zero_iff]
          omega
        exact .stranded hstopped hnone hqueue
  | addAll tasks => exact h.fires horderly
  | stop =>
    refine ⟨h.noLateResult, h.noLateStart, h.finished, h.ended, fun hopen _ => ?_, fun hopen => ?_, h.full⟩
    · cases hs : s.stopped with
      | true => exact h.last hopen hs
      | false => exact horderly hopen hs
    · rcases h.counted hopen with hkept | ⟨hcount, hleft⟩ | ⟨hs, hrunning, -⟩
      · exact .kept hkept
      · exact .atWork hcount hleft
      · have hone := (horderly hopen hs).1
        rw [hrunning] at hone
        cases hone

/-! ### Where a disorderly event leads -/

variable {M : Transition.System (TaskRunner τ) (RunnerEvent τ)}

theorem EndsWell.shutsDown (h : EndsWell M s) : s.ShutsDown := h [] s trivial rfl

/-- Tasks may always complete. -/
theorem EndsWell.completes (hM : M.step = step) (h : EndsWell M s) {runner : Nat}
    (hst : s.step (.completes runner) = some t) : EndsWell M t := by
  intro events u hmeets hrun
  have hst : M.step s (.completes runner) = some t := by rw [hM]; exact hst
  refine h (.completes runner :: events) u ?_ ?_
  · intro t' ht'
    obtain rfl := Option.some.inj (hst.symm.trans ht')
    exact ⟨trivial, hmeets⟩
  · rw [Transition.System.run_cons, hst]
    exact hrun

/-- A task that is awaited, when the queue has another, is followed by that. -/
theorem step_goesOn {task next : τ} {running queue : List τ} (hrunning : s.running = task :: running)
    (hopen : s.isClosed = false) (hqueue : s.queue = next :: queue) :
    s.step (.completes 0) = some {s with
      queue
      running := next :: running
      log := s.log ++ [.added task, .started next s.stopped]} := by
  simp [step, hrunning, hopen, hqueue]

theorem step_endRunner {task : τ} {running : List τ} (hrunning : s.running = task :: running)
    (hopen : s.isClosed = false) (hqueue : s.queue = []) :
    s.step (.completes 0) = some (endRunner {s with running, log := s.log ++ [.added task]}) := by
  simp [step, hrunning, hopen, hqueue]

theorem step_refused {task : τ} {running : List τ} (hrunning : s.running = task :: running)
    (hclosed : s.isClosed = true) :
    s.step (.completes 0) = some {s with running, log := s.log ++ [.refused task]} := by
  simp [step, hrunning, hclosed]

/-- A stopped runner that would go on with its queue does not end well. -/
theorem EndsWell.queue_nil (h : EndsWell M s) (hM : M.step = step) (hopen : s.isClosed = false)
    (hstopped : s.stopped = true) (hrunning : s.running ≠ []) : s.queue = [] := by
  by_contra hqueue
  obtain ⟨task, running, hrunning⟩ := List.exists_cons_of_ne_nil hrunning
  obtain ⟨next, queue, hqueue⟩ := List.exists_cons_of_ne_nil hqueue
  have hnext := (h.completes hM (step_goesOn hrunning hopen hqueue)).shutsDown
  exact hnext.noLateStart next (by simp [hstopped])

/-- Of two tasks that are left at a stop, the second would find the stream closed. -/
theorem EndsWell.running_lt_two (h : EndsWell M s) (hM : M.step = step) (hopen : s.isClosed = false)
    (hstopped : s.stopped = true) (hqueue : s.queue = []) : s.running.length < 2 := by
  by_contra htwo
  obtain ⟨first, running, hfirst⟩ := List.exists_cons_of_length_pos (l := s.running) (by omega)
  obtain ⟨second, others, hsecond⟩ := List.exists_cons_of_length_pos (l := running) (by
    rw [hfirst, List.length_cons] at htwo
    omega)
  have hclosed := h.completes hM (step_endRunner hfirst hopen hqueue)
  simp only [endRunner, hstopped, true_or, if_true] at hclosed
  have hlate := hclosed.completes hM (step_refused hsecond rfl)
  exact hlate.shutsDown.noLateResult second (by simp)

/-- A runner that counts one more than are left is never the last. -/
theorem EndsWell.count_le (h : EndsWell M s) (hM : M.step = step) (hopen : s.isClosed = false)
    (hstopped : s.stopped = false) (hstay : s.stayAlive = false) (hleft : s.running ≠ [] ∨ s.queue = []) :
    s.runnerCount ≤ s.running.length := by
  induction hn : s.running.length + s.queue.length generalizing s with
  | zero =>
    have hrunning : s.running = [] := List.length_eq_zero_iff.mp (by omega)
    have hclosed := h.shutsDown.closes hrunning (.inr ⟨hleft.resolve_left fun h => h hrunning, hstay⟩)
    rw [hopen] at hclosed
    cases hclosed
  | succ n ih =>
    have hbusy : s.running ≠ [] := by
      rcases hleft with hbusy | hqueue
      · exact hbusy
      · exact List.ne_nil_of_length_pos (by rw [hqueue, List.length_nil] at hn; omega)
    obtain ⟨task, running, hrunning⟩ := List.exists_cons_of_ne_nil hbusy
    by_contra hcount
    rw [hrunning, List.length_cons] at hn hcount
    cases hqueue : s.queue with
    | nil =>
      rw [hqueue, List.length_nil] at hn
      have hmore : s.runnerCount - 1 ≠ 0 := by omega
      have hnext := h.completes hM (step_endRunner hrunning hopen hqueue)
      simp only [endRunner, hstopped, hmore, false_and, or_self, if_false, Bool.false_eq_true] at hnext
      have hle : s.runnerCount - 1 ≤ running.length := ih hnext hopen rfl hstay (.inr hqueue) (by
        show running.length + s.queue.length = n
        rw [hqueue, List.length_nil]
        omega)
      omega
    | cons next queue =>
      rw [hqueue, List.length_cons] at hn
      have hnext := h.completes hM (step_goesOn hrunning hopen hqueue)
      have hle : s.runnerCount ≤ (next :: running).length := ih hnext hopen hstopped hstay
        (.inl (List.cons_ne_nil _ _)) (by
          show (next :: running).length + queue.length = n
          rw [List.length_cons]
          omega)
      exact hcount hle

/-- **An event that is not orderly spoils an end.** -/
theorem Sound.orderly_of_endsWell (h : s.Sound) (hM : M.step = step) (hm : Moves s e t) (hends : EndsWell M t) :
    s.Orderly e := by
  cases hm with
  | refused | goesOn | closes | ends => trivial
  | throws hget =>
    rename_i runner task
    have hlength := length_eraseIdx hget
    have hopen : s.isClosed = false := by
      by_contra hclosed
      rw [h.ended (by simpa using hclosed)] at hget
      cases hget
    have hstopped : s.stopped = false := by
      by_contra hs
      have hone := (h.last hopen (by simpa using hs)).1
      have hnone : s.running.eraseIdx runner = [] := List.length_eq_zero_iff.mp (by omega)
      have hclosed : s.isClosed = true := hends.shutsDown.closes hnone (.inl (by simpa using hs))
      rw [hclosed] at hopen
      cases hopen
    refine ⟨hstopped, ?_⟩
    by_contra hnot
    simp only [not_or, not_and, not_not] at hnot
    obtain ⟨hstay, hqueue⟩ := hnot
    rcases h.counted hopen with hkept | ⟨hcount, -⟩ | ⟨-, hrunning, -⟩
    · exact hstay hkept
    · have hleft : s.running.eraseIdx runner ≠ [] ∨ s.queue = [] := by
        by_cases hone : s.running.length = 1
        · exact .inr (hqueue hone)
        · exact .inl (List.ne_nil_of_length_pos (by omega))
      have hle : s.runnerCount ≤ (s.running.eraseIdx runner).length :=
        hends.count_le hM hopen hstopped (by simpa using hstay) hleft
      omega
    · rw [hrunning] at hget
      cases hget
  | addAll tasks =>
    intro hopen hstopped
    by_contra htasks
    obtain ⟨hone, hqueue⟩ := h.last hopen hstopped
    obtain ⟨taken, rest, htaken, hfire, -⟩ := fireRunners_spec (s.queue ++ tasks) s
    rw [hfire] at hends
    rw [hqueue, List.nil_append] at htaken
    cases taken with
    | nil =>
      have hbusy : s.running ++ [] ≠ [] := List.ne_nil_of_length_pos (by simp [hone])
      have hrest : rest = [] := hends.queue_nil hM hopen hstopped hbusy
      exact htasks (by rw [htaken, hrest]; rfl)
    | cons task taken => exact hends.shutsDown.noLateStart task (by simp [takes, hstopped])
  | stop =>
    intro hopen hstopped
    by_cases hrunning : s.running = []
    · have hclosed : s.isClosed = true := hends.shutsDown.closes hrunning (.inl rfl)
      rw [hclosed] at hopen
      cases hopen
    · have hqueue : s.queue = [] := hends.queue_nil hM hopen rfl hrunning
      have hlt : s.running.length < 2 := hends.running_lt_two hM hopen rfl hqueue
      have hpos := List.length_pos_of_ne_nil hrunning
      exact ⟨by omega, hqueue⟩

end TaskRunner

/-! ### All runs -/

/-- A runner as it is created: one that has no task is to be kept alive. -/
theorem sound_create {τ : Type} (concurrency : Nat) {tasks : List τ} {stayAlive : Option Bool}
    (h : tasks ≠ [] ∨ stayAlive ≠ some false) : (TaskRunner.create concurrency tasks stayAlive).Sound := by
  obtain ⟨taken, rest, htaken, hfire, -, -, hfull⟩ := TaskRunner.fireRunners_spec tasks
    ({concurrency, stayAlive := stayAlive.getD tasks.isEmpty} : TaskRunner τ)
  rw [TaskRunner.create, hfire]
  have hfinished : (taken.map fun task => Entry.started task false).countP TaskRunner.isOnFinish = 0 := by
    simp [List.countP_eq_zero, TaskRunner.isOnFinish]
  refine ⟨?_, ?_, ?_, ?_, ?_, fun _ => ?_, fun _ hrest => hfull hrest rfl⟩
  · simp [TaskRunner.takes]
  · simp [TaskRunner.takes]
  · simpa [TaskRunner.takes] using hfinished
  · intro hclosed
    cases hclosed
  · intro _ hstopped
    cases hstopped
  · by_cases hstay : stayAlive.getD tasks.isEmpty = true
    · exact .kept hstay
    · refine .atWork (by simp [TaskRunner.takes]) ?_
      have htasks : tasks ≠ [] := by
        rintro rfl
        cases stayAlive with
        | none => exact hstay rfl
        | some kept =>
          refine h.elim (fun h => h rfl) fun h => h ?_
          simpa using hstay
      by_cases hrest : rest = []
      · refine .inl ?_
        rintro hnone
        have hnone : taken = [] := by simpa [TaskRunner.takes] using hnone
        exact htasks (by rw [htaken, hnone, hrest]; rfl)
      · exact .inr hrest

/-- A runner that is neither given a task nor kept alive has nobody to close its stream. -/
theorem create_of_endsWell {τ : Type} {concurrency : Nat} {tasks : List τ} {stayAlive : Option Bool}
    (h : (taskRunner concurrency tasks stayAlive).init.ShutsDown) : tasks ≠ [] ∨ stayAlive ≠ some false := by
  by_contra hnot
  simp only [not_or, not_not] at hnot
  obtain ⟨rfl, rfl⟩ := hnot
  cases h.closes rfl (.inr ⟨rfl, rfl⟩)

/-- **A runner shuts down cleanly exactly in the runs in good order**: with a task at first
or kept alive, and with orderly events, it shuts down in every state, however the run goes
on in good order; and from the first event that is not orderly on it no longer ends well. -/
theorem shutsDown_iff {τ : Type} (concurrency : Nat) (tasks : List τ) (stayAlive : Option Bool)
    (events : List (RunnerEvent τ)) :
    ((tasks ≠ [] ∨ stayAlive ≠ some false) →
      (taskRunner concurrency tasks stayAlive).Meets TaskRunner.Orderly (taskRunner concurrency tasks stayAlive).init
          events →
        (taskRunner concurrency tasks stayAlive).Along TaskRunner.ShutsDown (taskRunner concurrency tasks stayAlive).init
          events) ∧
    ((taskRunner concurrency tasks stayAlive).Along (TaskRunner.EndsWell (taskRunner concurrency tasks stayAlive))
        (taskRunner concurrency tasks stayAlive).init events ↔
      (tasks ≠ [] ∨ stayAlive ≠ some false) ∧
        (taskRunner concurrency tasks stayAlive).Meets TaskRunner.Orderly (taskRunner concurrency tasks stayAlive).init
          events) := by
  let M := taskRunner concurrency tasks stayAlive
  have hkept : ∀ s e t, s.Sound → s.Orderly e → M.step s e = some t → t.Sound :=
    fun s e t hs he hst => hs.moves he (TaskRunner.moves_of_step hst)
  have hwell : ∀ s : TaskRunner τ, s.Sound → TaskRunner.EndsWell M s :=
    fun s hs events t hmeets hrun => (Transition.System.run_meets hkept hs hmeets hrun).shutsDown
  have hstep : ∀ s e t, s.Sound → M.step s e = some t →
      (s.Orderly e → t.Sound) ∧ (TaskRunner.EndsWell M t → s.Orderly e) := fun s e t hs hst =>
    ⟨fun he => hkept s e t hs he hst, fun ht => hs.orderly_of_endsWell rfl (TaskRunner.moves_of_step hst) ht⟩
  have hiff : (tasks ≠ [] ∨ stayAlive ≠ some false) →
      (M.Along (TaskRunner.EndsWell M) M.init events ↔ M.Meets TaskRunner.Orderly M.init events) := fun hcreate =>
    Transition.System.along_iff_meets_of_invariant hwell hstep (sound_create concurrency hcreate)
  refine ⟨fun hcreate hmeets => Transition.System.along_of_meets hkept (fun s hs => hs.shutsDown)
    (sound_create concurrency hcreate) hmeets, ?_⟩
  constructor
  · intro halong
    have hcreate := create_of_endsWell halong.start.shutsDown
    exact ⟨hcreate, (hiff hcreate).mp halong⟩
  · rintro ⟨hcreate, hmeets⟩
    exact (hiff hcreate).mpr hmeets

/-- Two tasks run when the runner is stopped: the first to complete closes the stream. -/
theorem result_comes_to_closed_stream :
    ¬ (taskRunner 2 ["192.168.1.1", "192.168.1.2"] none).Along TaskRunner.ShutsDown
      (taskRunner 2 ["192.168.1.1", "192.168.1.2"] none).init
      [RunnerEvent.stop, RunnerEvent.completes 0, RunnerEvent.completes 0] := by
  intro h
  have hlast := h.reached (a := [RunnerEvent.stop, RunnerEvent.completes 0, RunnerEvent.completes 0]) (b := []) rfl
  exact hlast.noLateResult "192.168.1.2" (by decide +kernel)

end MagicShare.Lan
