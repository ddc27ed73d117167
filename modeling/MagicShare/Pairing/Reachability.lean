import MagicShare.Base.Records
import MagicShare.Base.Settling

/-! The race of the connection probes (`firstReachableLanAddress`).

One probe (`isLanReachable`) runs for each host: it connects up to `retries` times with a
delay in between, and reports once. All reports share a countdown and a completer; they
come in any order. The future is completed exactly once, with the host of the first probe
that reports success, or with null at the last report when none did (`race_decided`). -/
namespace MagicShare.Pairing

/-! ### The code -/

/-- How the future of `isLanReachable` completes. -/
inductive ProbeResult where
  | reachable
  | unreachable
  | error
  deriving DecidableEq

inductive ProbePhase where
  /-- `_tryConnectOnce` is awaited. -/
  | connecting (attempt : Nat)
  /-- The delay after a failed attempt is awaited. -/
  | delayed (attempt : Nat)
  | completed (result : ProbeResult)
  /-- The callback of `then` was called. -/
  | reported (result : ProbeResult)
  deriving DecidableEq

structure Probe where
  host : String
  phase : ProbePhase
  deriving DecidableEq

structure Race where
  probes : List Probe
  pending : Nat
  /-- What the future was completed with, each time. -/
  completions : List (Option String) := []
  /-- The reports: the host and the result. -/
  reports : List (String × ProbeResult) := []
  deriving DecidableEq

inductive RaceEvent where
  /-- A connection is made, or fails: it is refused, times out, throws. -/
  | connects (probe : Nat) (success : Bool)
  | delayPasses (probe : Nat)
  /-- Something else throws. -/
  | throws (probe : Nat)
  | reports (probe : Nat)

namespace Race

def setPhase (s : Race) (probe : Nat) (host : String) (phase : ProbePhase) : Race :=
  {s with probes := s.probes.set probe ⟨host, phase⟩}

/-- The callbacks of `then`: an error counts like a failure. -/
def callback (s : Race) (host : String) (result : ProbeResult) : Race :=
  if s.completions ≠ [] then s
  else if result = .reachable then {s with completions := s.completions ++ [some host]}
  else if s.pending - 1 = 0 then {s with pending := s.pending - 1, completions := s.completions ++ [none]}
  else {s with pending := s.pending - 1}

/-- A probe as it is started: without retries its loop does not run. -/
def firstPhase (retries : Nat) : ProbePhase := if retries = 0 then .completed .unreachable else .connecting 0

def step (retries : Nat) (s : Race) : RaceEvent → Option Race
  | .connects probe success =>
    match s.probes[probe]? with
    | some ⟨host, .connecting attempt⟩ =>
      some (s.setPhase probe host
        (if success then .completed .reachable
        else if attempt + 1 < retries then .delayed attempt
        else .completed .unreachable))
    | _ => none
  | .delayPasses probe =>
    match s.probes[probe]? with
    | some ⟨host, .delayed attempt⟩ => some (s.setPhase probe host (.connecting (attempt + 1)))
    | _ => none
  | .throws probe =>
    match s.probes[probe]? with
    | some ⟨host, .connecting _⟩ => some (s.setPhase probe host (.completed .error))
    | some ⟨host, .delayed _⟩ => some (s.setPhase probe host (.completed .error))
    | _ => none
  | .reports probe =>
    match s.probes[probe]? with
    | some ⟨host, .completed result⟩ =>
      let s := {s.setPhase probe host (.reported result) with reports := s.reports ++ [(host, result)]}
      some (s.callback host result)
    | _ => none

end Race

/-- `firstReachableLanAddress` for these hosts: all probes are in flight. Without a host it
returns null. -/
def lanRace (hosts : List String) (retries : Nat) : Transition.System Race RaceEvent where
  init :=
    { probes := hosts.map fun host => ⟨host, Race.firstPhase retries⟩
      pending := hosts.length
      completions := if hosts = [] then [none] else [] }
  step := Race.step retries

namespace Race

/-! ### The property -/

/-- The host of the first probe that reported success. -/
def winner (s : Race) : Option String := (s.reports.find? fun report => report.2 = .reachable).map Prod.fst

/-- Every probe has reported, and none success. -/
def AllFailed (s : Race) : Prop := ∀ probe ∈ s.probes, ∃ result, result ≠ .reachable ∧ probe.phase = .reported result

structure Decided (s : Race) : Prop where
  once : s.completions.length ≤ 1
  host : ∀ host, some host ∈ s.completions ↔ s.winner = some host
  succeeded : ∀ host, some host ∈ s.completions → ⟨host, .reported .reachable⟩ ∈ s.probes
  null : none ∈ s.completions ↔ s.AllFailed

/-! ### Each event -/

def unreported (probe : Probe) : Bool :=
  match probe.phase with
  | .reported _ => false
  | .connecting _ | .delayed _ | .completed _ => true

/-- How many events a probe may still have. -/
def rank (retries : Nat) (probe : Probe) : Nat :=
  match probe.phase with
  | .connecting attempt => 2 * (retries - attempt) + 3
  | .delayed attempt => 2 * (retries - attempt) + 2
  | .completed _ => 1
  | .reported _ => 0

/-- A probe that waits for its next attempt has one. -/
def HasAttempt (retries : Nat) (probe : Probe) : Prop := ∀ attempt, probe.phase = .delayed attempt → attempt < retries

/-- An event moves a probe on, or is its report. -/
inductive Moves (retries : Nat) (s : Race) : Race → Prop
  | probing {i : Nat} {probe : Probe} {phase : ProbePhase} (hget : s.probes[i]? = some probe)
      (hopen : unreported probe = true) (hphase : unreported ⟨probe.host, phase⟩ = true)
      (hattempt : HasAttempt retries ⟨probe.host, phase⟩)
      (hrank : HasAttempt retries probe → rank retries ⟨probe.host, phase⟩ < rank retries probe) :
      Moves retries s (s.setPhase i probe.host phase)
  | reporting {i : Nat} {host : String} {result : ProbeResult}
      (hget : s.probes[i]? = some ⟨host, .completed result⟩) :
      Moves retries s (callback
        {s.setPhase i host (.reported result) with reports := s.reports ++ [(host, result)]} host result)

variable {retries : Nat} {s t : Race} {e : RaceEvent}

theorem moves_of_step (h : s.step retries e = some t) : Moves retries s t := by
  cases e with
  | connects probe success =>
    simp only [step] at h
    split at h
    · next host attempt hget =>
      obtain rfl := Option.some.inj h
      refine .probing hget rfl ?_ ?_ fun _ => ?_
      · split_ifs <;> rfl
      · intro other hother
        split_ifs at hother with hsuccess hmore
        obtain rfl : attempt = other := by simpa using hother
        omega
      · split_ifs <;> simp [rank]
    · cases h
  | delayPasses probe =>
    simp only [step] at h
    split at h
    · next host attempt hget =>
      obtain rfl := Option.some.inj h
      refine .probing hget rfl rfl (fun _ hother => by cases hother) fun hattempt => ?_
      have hlt := hattempt attempt rfl
      simp only [rank]
      omega
    · cases h
  | throws probe =>
    simp only [step] at h
    split at h
    · next host attempt hget =>
      obtain rfl := Option.some.inj h
      exact .probing hget rfl rfl (fun _ hother => by cases hother) fun _ => by simp [rank]
    · next host attempt hget =>
      obtain rfl := Option.some.inj h
      exact .probing hget rfl rfl (fun _ hother => by cases hother) fun _ => by simp [rank]
    · cases h
  | reports probe =>
    simp only [step] at h
    split at h
    · next host result hget =>
      obtain rfl := Option.some.inj h
      exact .reporting hget
    · cases h

/-! ### What holds meanwhile -/

/-- The future is open and the countdown counts; or it has the first success; or all probes
have failed. -/
inductive Stage (s : Race) : Prop
  | undecided (hcompletions : s.completions = []) (hwinner : s.winner = none)
      (hpending : s.pending = s.probes.countP unreported) (hleft : 0 < s.pending)
  | won (host : String) (hcompletions : s.completions = [some host]) (hwinner : s.winner = some host)
  | lost (hcompletions : s.completions = [none]) (hwinner : s.winner = none)
      (hnone : s.probes.countP unreported = 0)

structure Racing (retries : Nat) (s : Race) : Prop where
  attempts : ∀ probe ∈ s.probes, HasAttempt retries probe
  /-- The reports are those of the probes that have reported. -/
  reported : ∀ host result, (host, result) ∈ s.reports ↔ ⟨host, .reported result⟩ ∈ s.probes
  stage : Stage s

@[simp] theorem probes_callback (s : Race) (host : String) (result : ProbeResult) :
    (s.callback host result).probes = s.probes := by
  unfold callback
  split_ifs <;> rfl

@[simp] theorem reports_callback (s : Race) (host : String) (result : ProbeResult) :
    (s.callback host result).reports = s.reports := by
  unfold callback
  split_ifs <;> rfl

theorem countP_pos {i : Nat} {probe : Probe} (hget : s.probes[i]? = some probe) (hopen : unreported probe = true) :
    0 < s.probes.countP unreported :=
  List.countP_pos_iff.mpr ⟨probe, List.mem_of_getElem? hget, hopen⟩

/-- What a probe on its way leaves: how many have yet to report. -/
theorem countP_probing {i : Nat} {probe next : Probe} (hget : s.probes[i]? = some probe)
    (hopen : unreported probe = true) (hnext : unreported next = true) :
    (s.probes.set i next).countP unreported = s.probes.countP unreported := by
  obtain ⟨hlt, rfl⟩ := List.getElem?_eq_some_iff.mp hget
  have hpos := countP_pos hget hopen
  rw [List.countP_set hlt, hopen, hnext]
  simp only [if_true]
  omega

theorem countP_reporting {i : Nat} {probe next : Probe} (hget : s.probes[i]? = some probe)
    (hopen : unreported probe = true) (hnext : unreported next = false) :
    (s.probes.set i next).countP unreported = s.probes.countP unreported - 1 := by
  obtain ⟨hlt, rfl⟩ := List.getElem?_eq_some_iff.mp hget
  rw [List.countP_set hlt, hopen, hnext]
  simp

/-- A probe that has reported stays, whichever other probe changes. -/
theorem mem_set_of_reported {i : Nat} {probe next other : Probe} (hget : s.probes[i]? = some probe)
    (hopen : unreported probe = true) (hother : other ∈ s.probes) (hreported : unreported other = false) :
    other ∈ s.probes.set i next := by
  obtain ⟨j, hj⟩ := List.mem_iff_getElem?.mp hother
  have hij : i ≠ j := by
    rintro rfl
    obtain rfl := Option.some.inj (hget.symm.trans hj)
    rw [hopen] at hreported
    cases hreported
  exact List.mem_of_getElem? ((List.getElem?_set_ne hij).trans hj)

theorem winner_append (s : Race) (host : String) (result : ProbeResult) :
    winner {s with reports := s.reports ++ [(host, result)]} =
      s.winner.or (if result = .reachable then some host else none) := by
  simp only [winner, List.find?_append, Option.map_or]
  by_cases hresult : result = .reachable <;> simp [hresult]

/-- A report decides the race if it is the first success or the last report. -/
theorem Stage.callback {host : String} {result : ProbeResult} (h : Stage s)
    (hcount : t.probes.countP unreported = s.probes.countP unreported - 1) (hpos : 0 < s.probes.countP unreported)
    (hwinner : t.winner = s.winner.or (if result = .reachable then some host else none))
    (hpending : t.pending = s.pending) (hcompletions : t.completions = s.completions) :
    Stage (t.callback host result) := by
  unfold Race.callback
  rw [hcompletions, hpending]
  rcases h with ⟨hopen, hnone, hcounted, hleft⟩ | ⟨first, hwon, hfirst⟩ | ⟨-, -, hzero⟩
  · rw [hnone, Option.none_or] at hwinner
    rw [if_neg (fun hne => hne hopen)]
    split_ifs with hreachable hlast
    · rw [if_pos hreachable] at hwinner
      exact .won host (by rw [hopen]; rfl) hwinner
    · rw [if_neg hreachable] at hwinner
      exact .lost (by rw [hopen]; rfl) hwinner (by show t.probes.countP unreported = 0; omega)
    · rw [if_neg hreachable] at hwinner
      exact .undecided hopen hwinner (by show s.pending - 1 = t.probes.countP unreported; omega)
        (by show 0 < s.pending - 1; omega)
  · rw [if_pos (by simp [hwon])]
    rw [hfirst, Option.some_or] at hwinner
    exact .won first (hcompletions.trans hwon) hwinner
  · omega

theorem Racing.moves (h : Racing retries s) (hm : Moves retries s t) : Racing retries t := by
  cases hm with
  | probing hget hopen hphase hattempt hrank =>
    rename_i i probe phase
    refine ⟨fun other hother => ?_, fun host result => ?_, ?_⟩
    · rcases List.mem_or_eq_of_mem_set hother with hold | rfl
      · exact h.attempts other hold
      · exact hattempt
    · refine (h.reported host result).trans ?_
      constructor
      · exact fun hmem => mem_set_of_reported hget hopen hmem rfl
      · intro hmem
        rcases List.mem_or_eq_of_mem_set hmem with hold | hnew
        · exact hold
        · rw [← hnew] at hphase
          cases hphase
    · have hcount := countP_probing hget hopen hphase
      rcases h.stage with ⟨hcompletions, hnone, hpending, hleft⟩ | ⟨first, hcompletions, hfirst⟩ |
        ⟨hcompletions, hnone, hzero⟩
      · exact .undecided hcompletions hnone (hpending.trans hcount.symm) hleft
      · exact .won first hcompletions hfirst
      · exact .lost hcompletions hnone (hcount.trans hzero)
  | reporting hget =>
    rename_i i host result
    refine ⟨fun other hother => ?_, fun host' result' => ?_, 
      h.stage.callback (countP_reporting hget rfl rfl) (countP_pos hget rfl)
        (winner_append (s.setPhase i host (.reported result)) host result) rfl rfl⟩
    · rw [probes_callback] at hother
      rcases List.mem_or_eq_of_mem_set hother with hold | rfl
      · exact h.attempts other hold
      · exact fun attempt hphase => by cases hphase
    · rw [probes_callback, reports_callback, List.mem_append, List.mem_singleton, h.reported]
      constructor
      · rintro (hmem | heq)
        · exact mem_set_of_reported hget rfl hmem rfl
        · obtain ⟨rfl, rfl⟩ := Prod.mk.inj heq
          exact List.mem_of_getElem? (Records.set_self hget)
      · intro hmem
        rcases List.mem_or_eq_of_mem_set hmem with hold | hnew
        · exact .inl hold
        · simp only [Probe.mk.injEq, ProbePhase.reported.injEq] at hnew
          exact .inr (by rw [hnew.1, hnew.2])

/-- The sum of what the probes may still do falls with every event. -/
theorem Racing.rank_lt (h : Racing retries s) (hm : Moves retries s t) :
    (t.probes.map (rank retries)).sum < (s.probes.map (rank retries)).sum := by
  cases hm with
  | probing hget _ _ _ hrank =>
    exact Records.sum_set_lt hget (hrank (h.attempts _ (List.mem_of_getElem? hget)))
  | reporting hget =>
    rw [probes_callback]
    exact Records.sum_set_lt hget (by simp [rank])

theorem Racing.decided (h : Racing retries s) : s.Decided := by
  have hfailed : s.probes.countP unreported = 0 → s.winner = none → s.AllFailed := by
    intro hzero hnone probe hprobe
    have hreported := List.countP_eq_zero.mp hzero probe hprobe
    cases hphase : probe.phase with
    | reported result =>
      refine ⟨result, ?_, rfl⟩
      rintro rfl
      have hmem : (probe.host, ProbeResult.reachable) ∈ s.reports := by
        rw [h.reported, ← hphase]
        exact hprobe
      have hfind := List.find?_eq_none.mp (Option.map_eq_none_iff.mp hnone) _ hmem
      simp at hfind
    | _ => simp [unreported, hphase] at hreported
  have hsucceeded : ∀ host, s.winner = some host → ⟨host, .reported .reachable⟩ ∈ s.probes := by
    intro host hwinner
    obtain ⟨⟨host', result⟩, hfind, rfl⟩ := Option.map_eq_some_iff.mp hwinner
    have hresult : result = .reachable := by simpa using List.find?_some hfind
    rw [← hresult, ← h.reported]
    exact List.mem_of_find?_eq_some hfind
  have hnotAll : ∀ probe ∈ s.probes, (∀ result, result ≠ .reachable → probe.phase ≠ .reported result) → ¬ s.AllFailed := by
    intro probe hprobe hnot hall
    obtain ⟨result, hresult, hphase⟩ := hall probe hprobe
    exact hnot result hresult hphase
  rcases h.stage with ⟨hcompletions, hnone, hpending, hleft⟩ | ⟨first, hcompletions, hfirst⟩ |
    ⟨hcompletions, hnone, hzero⟩
  · obtain ⟨probe, hprobe, hopen⟩ := List.countP_pos_iff.mp (hpending ▸ hleft)
    have hopenNot : ¬ s.AllFailed := hnotAll probe hprobe fun result _ hphase => by simp [unreported, hphase] at hopen
    refine ⟨by simp [hcompletions], ?_, ?_, ?_⟩ <;> simp [hcompletions, hnone, hopenNot]
  · have hwon := hsucceeded first hfirst
    have hnotFailed : ¬ s.AllFailed := hnotAll _ hwon fun result hresult hphase => by
      obtain rfl := ProbePhase.reported.inj hphase
      exact hresult rfl
    refine ⟨by simp [hcompletions], fun host => by simp [hcompletions, hfirst, eq_comm], fun host hhost => ?_, ?_⟩
    · obtain rfl : host = first := by simpa [hcompletions] using hhost
      exact hwon
    · simp [hcompletions, hnotFailed]
  · refine ⟨by simp [hcompletions], ?_, ?_, ?_⟩ <;> simp [hcompletions, hnone, hfailed hzero hnone]

/-- A race in which nothing can happen any more is decided. -/
theorem Racing.completed (h : Racing retries s) (hstuck : ∀ e, s.step retries e = none) : s.completions.length = 1 := by
  have hzero : s.probes.countP unreported = 0 := by
    rw [List.countP_eq_zero]
    intro probe hprobe hopen
    obtain ⟨i, hi⟩ := List.mem_iff_getElem?.mp hprobe
    obtain ⟨host, phase⟩ := probe
    cases phase with
    | connecting attempt => simpa [step, hi] using hstuck (.connects i true)
    | delayed attempt => simpa [step, hi] using hstuck (.delayPasses i)
    | completed result => simpa [step, hi] using hstuck (.reports i)
    | reported result => cases hopen
  rcases h.stage with ⟨-, -, hpending, hleft⟩ | ⟨first, hcompletions, -⟩ | ⟨hcompletions, -, -⟩
  · omega
  · simp [hcompletions]
  · simp [hcompletions]

/-- All probes in flight. -/
theorem racing_init {hosts : List String} (hhosts : hosts ≠ []) (retries : Nat) :
    Racing retries (lanRace hosts retries).init := by
  have hfirst : ∀ host, unreported ⟨host, firstPhase retries⟩ = true := by
    intro host
    unfold firstPhase
    split_ifs <;> rfl
  refine ⟨fun probe hprobe attempt hphase => ?_, fun host result => ?_, .undecided ?_ rfl ?_ ?_⟩
  · obtain ⟨host, -, rfl⟩ := List.mem_map.mp hprobe
    simp only [firstPhase] at hphase
    split_ifs at hphase
  · refine iff_of_false (by simp [lanRace]) fun hmem => ?_
    obtain ⟨other, -, hother⟩ := List.mem_map.mp hmem
    have hopen := hfirst other
    rw [hother] at hopen
    cases hopen
  · exact if_neg hhosts
  · show hosts.length = (hosts.map fun host => (⟨host, firstPhase retries⟩ : Probe)).countP unreported
    rw [List.countP_eq_length.mpr, List.length_map]
    intro probe hprobe
    obtain ⟨host, -, rfl⟩ := List.mem_map.mp hprobe
    exact hfirst host
  · exact List.length_pos_of_ne_nil hhosts

end Race

/-- **The race is decided once**: in every order of the probes it ends with the future
completed exactly once, and at all times it is completed with the first success, or with
null when all have failed, and with nothing else. -/
theorem race_decided (hosts : List String) (hhosts : hosts ≠ []) (retries : Nat) :
    (lanRace hosts retries).Settles (lanRace hosts retries).init (fun s => s.completions.length = 1) ∧
      ∀ s, (lanRace hosts retries).Reachable s → s.Decided := by
  have hinit := Race.racing_init hhosts retries
  have hstep : ∀ s e t, Race.Racing retries s → (lanRace hosts retries).step s e = some t → Race.Racing retries t :=
    fun s e t h hst => h.moves (Race.moves_of_step hst)
  refine ⟨⟨?_, fun events t hrun hstuck => ?_⟩, fun s hs => (hs.invariant hinit hstep).decided⟩
  · exact ⟨_, fun events t hrun => Transition.System.length_le_rank (I := Race.Racing retries)
      (fun s e t h hst => ⟨hstep s e t h hst, h.rank_lt (Race.moves_of_step hst)⟩) hinit hrun⟩
  · exact (Transition.System.run_invariant hstep hinit hrun).completed hstuck

/-- Two hosts with three attempts each. -/
theorem race_decided_two : (lanRace ["127.0.0.1", "192.168.1.20"] 3).Settles
      (lanRace ["127.0.0.1", "192.168.1.20"] 3).init (fun s => s.completions.length = 1) ∧
    ∀ s, (lanRace ["127.0.0.1", "192.168.1.20"] 3).Reachable s → s.Decided :=
  race_decided ["127.0.0.1", "192.168.1.20"] (by decide) 3

end MagicShare.Pairing
