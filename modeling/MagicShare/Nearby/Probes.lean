import MagicShare.Base.Dict
import MagicShare.Base.Transition
import MagicShare.Base.Records
import MagicShare.Nearby.Device
import MagicShare.Receive.Session

/-! Probing the listed devices (`nearby_devices_provider.dart`).

`ProbeAndPruneKnownDevicesAction` asks every listed device for its info and removes those
that did not answer three times in a row. The failures are counted by IP, outside the
state: registering a device leaves its count as it is. The IPs of running transfers are
read when a probe starts, and its outcome is applied when all answers are in; in between
anything may happen, other probes included.

What a removal ought to rest on is kept beside the state: `strikes` counts the failed
probes of an IP since it was last seen, registered or in use. -/
namespace MagicShare.Nearby
open Transition
open Receive (SessionStatus)

def kMaxConsecutiveProbeFailures : Nat := 3

def isActiveSession (status : SessionStatus) : Bool := status = .waiting || status = .sending

/-- The IP of the first HTTP endpoint, if there is one that is not empty. -/
def Device.httpIp (d : Device) : Option String :=
  match d.firstHttpEndpoint with
  | some endpoint => if endpoint.ip = "" then none else some endpoint.ip
  | none => none

structure SendSession where
  status : SessionStatus
  target : Device
  deriving DecidableEq

structure ReceiveSession where
  status : SessionStatus
  sender : Device
  deriving DecidableEq

/-- A running `ProbeAndPruneKnownDevicesAction`. -/
structure Probe where
  probedIps : List String
  distinct : probedIps.Nodup
  seenIps : List String
  /-- A device that answered, while it is being registered. -/
  answered : Option Device
  running : Bool
  deriving DecidableEq

def Probe.failedIps (probe : Probe) : List String := probe.probedIps.filter (· ∉ probe.seenIps)

structure ProbesState where
  devices : List (String × Device)
  consecutiveProbeFailures : List (String × Nat)
  sendSessions : List (String × SendSession)
  receiveSession : Option ReceiveSession
  probes : List Probe
  deriving DecidableEq

namespace ProbesState
variable (σ : ProbesState)

/-- `_readActiveSessionIps`. -/
def readActiveSessionIps : List String :=
  (σ.sendSessions.filterMap fun e => if isActiveSession e.2.status then e.2.target.httpIp else none) ++
    match σ.receiveSession with
    | some receive => if isActiveSession receive.status then receive.sender.httpIp.toList else []
    | none => []

/-- The failures on record of an IP. -/
def failures (ip : String) : Nat := (Dict.get σ.consecutiveProbeFailures ip).getD 0

/-- `RegisterDeviceAction`: a device without an address is skipped. -/
def registerDevice (device : Device) : ProbesState :=
  match device.httpIp with
  | some ip => { σ with devices := Dict.put σ.devices ip device }
  | none => σ

/-- The endpoints that a probe looks at. -/
def knownEndpoints : List HttpEndpoint :=
  (σ.devices.filterMap fun e => e.2.firstHttpEndpoint).filter fun endpoint => endpoint.ip ≠ ""

/-- The first step of a probe: the peers of running transfers are skipped and their
failures forgotten, the others are asked. -/
def startProbe : ProbesState :=
  let activeIps := σ.readActiveSessionIps
  let probeTargets := (σ.knownEndpoints.filter (·.ip ∉ activeIps)).map fun endpoint => (endpoint.ip, endpoint.port)
  let skippedIps := (σ.knownEndpoints.filter (·.ip ∈ activeIps)).map HttpEndpoint.ip
  let σ := { σ with consecutiveProbeFailures := skippedIps.foldl Dict.remove σ.consecutiveProbeFailures }
  if probeTargets.isEmpty then σ
  else { σ with probes := σ.probes ++ [⟨(probeTargets.map Prod.fst).dedup, List.nodup_dedup _, [], none, true⟩] }

/-- One more failure of an IP: counted, or the one that removes it. -/
def missed (acc : List (String × Nat) × List String) (ip : String) : List (String × Nat) × List String :=
  let count := (Dict.get acc.1 ip).getD 0 + 1
  if kMaxConsecutiveProbeFailures ≤ count then (Dict.remove acc.1 ip, acc.2 ++ [ip])
  else (Dict.put acc.1 ip count, acc.2)

/-- The outcome of a probe: the failures on record after it, and what is to be removed. -/
def countMisses (probe : Probe) : List (String × Nat) × List String :=
  probe.failedIps.foldl missed (probe.seenIps.foldl Dict.remove σ.consecutiveProbeFailures, [])

/-- The second step of a probe: its answers are all in. -/
def prune (probe : Probe) : ProbesState :=
  let (failures, toRemove) := σ.countMisses probe
  { σ with consecutiveProbeFailures := failures, devices := σ.devices.filter fun e => e.1 ∉ toRemove }

def setProbe (i : Nat) (probe : Probe) : ProbesState := { σ with probes := σ.probes.set i probe }

end ProbesState

inductive ProbeEvent where
  /-- `RegisterDeviceAction` is done. -/
  | register (device : Device)
  | clear
  /-- The send provider has other sessions, or other statuses of them. -/
  | sends (sessions : List (String × SendSession))
  | receives (session : Option ReceiveSession)
  | probe
  | answer (i : Nat) (device : Device)
  /-- The registration of the device that answered is done. -/
  | answerRegistered (i : Nat)
  | pruned (i : Nat)

namespace ProbesState
variable (σ : ProbesState)

def step : ProbeEvent → Option ProbesState
  | .register device => some (σ.registerDevice device)
  | .clear => some { σ with devices := [] }
  | .sends sessions => some { σ with sendSessions := sessions }
  | .receives session => some { σ with receiveSession := session }
  | .probe => some σ.startProbe
  | .answer i device => do
    let probe ← σ.probes[i]?
    guard (probe.running ∧ probe.answered = none)
    return σ.setProbe i { probe with
      seenIps := spread probe.seenIps device.httpIp.toList, answered := some device }
  | .answerRegistered i => do
    let probe ← σ.probes[i]?
    let device ← probe.answered
    return (σ.registerDevice device).setProbe i { probe with answered := none }
  | .pruned i => do
    let probe ← σ.probes[i]?
    guard (probe.running ∧ probe.answered = none)
    return (σ.prune probe).setProbe i { probe with running := false }

/-- The device that an event registers. -/
def registered : ProbeEvent → Option Device
  | .register device => some device
  | .answerRegistered i => σ.probes[i]?.bind Probe.answered
  | _ => none

/-- The failed probes in a row of an IP after an event. -/
def strike (strikes : String → Nat) (e : ProbeEvent) (τ : ProbesState) (ip : String) : Nat :=
  if ip ∈ σ.readActiveSessionIps ∨ ip ∈ τ.readActiveSessionIps then 0
  else if (σ.registered e).bind Device.httpIp = some ip then 0
  else match e with
    | .pruned i =>
      match σ.probes[i]? with
      | some probe =>
        if ip ∈ probe.seenIps then 0 else if ip ∈ probe.probedIps then strikes ip + 1 else strikes ip
      | none => strikes ip
    | _ => strikes ip

end ProbesState

/-- The state, and for each IP how many probes in a row of it have failed since it was
last registered or had an active session. -/
structure Watched where
  state : ProbesState
  strikes : String → Nat

def probes : System Watched ProbeEvent where
  init := ⟨⟨[], [], [], none, []⟩, fun _ => 0⟩
  step w e := (w.state.step e).map fun τ => ⟨τ, w.state.strike w.strikes e τ⟩

/-- A probe removes an entry after three strikes only, and none that is in use. -/
def ThreeStrikes (w : Watched) : ProbeEvent → Watched → Prop
  | .pruned _, w' => ∀ ip ∈ Dict.keys w.state.devices, ip ∉ Dict.keys w'.state.devices →
      3 ≤ w'.strikes ip ∧ ip ∉ w.state.readActiveSessionIps
  | _, _ => True

/-- An IP that is registered, or whose last session ends, has no failure on record; and
no listed IP is in use when a probe of it fails for the third time. -/
def Undisturbed (w : Watched) (e : ProbeEvent) : Prop :=
  (∀ ip ∈ (w.state.registered e).bind Device.httpIp, ip ∉ w.state.readActiveSessionIps → w.state.failures ip = 0) ∧
  match e with
  | .sends sessions => ∀ ip ∈ w.state.readActiveSessionIps,
      ip ∉ { w.state with sendSessions := sessions }.readActiveSessionIps → w.state.failures ip = 0
  | .receives session => ∀ ip ∈ w.state.readActiveSessionIps,
      ip ∉ { w.state with receiveSession := session }.readActiveSessionIps → w.state.failures ip = 0
  | .pruned i => ∀ probe ∈ w.state.probes[i]?, ∀ ip ∈ probe.failedIps, ip ∈ Dict.keys w.state.devices →
      ip ∈ w.state.readActiveSessionIps → w.state.failures ip + 1 < kMaxConsecutiveProbeFailures
  | _ => True

instance (w : Watched) (e : ProbeEvent) : Decidable (Undisturbed w e) :=
  match e with
  | .register _ | .clear | .probe | .answer .. | .answerRegistered _ => inferInstanceAs (Decidable (_ ∧ True))
  | .sends _ | .receives _ => inferInstanceAs (Decidable (_ ∧ ∀ ip ∈ _, _))
  | .pruned i => inferInstanceAs (Decidable (_ ∧ ∀ probe ∈ w.state.probes[i]?, ∀ ip ∈ Probe.failedIps probe, _))

namespace ProbesState
variable {σ τ : ProbesState} {ip : String}

/-! ### What an event leaves as it is -/

@[simp] theorem active_registerDevice (device : Device) :
    (σ.registerDevice device).readActiveSessionIps = σ.readActiveSessionIps := by
  rw [registerDevice]
  split <;> rfl

@[simp] theorem active_setProbe (i : Nat) (probe : Probe) :
    (σ.setProbe i probe).readActiveSessionIps = σ.readActiveSessionIps := rfl

@[simp] theorem active_startProbe : σ.startProbe.readActiveSessionIps = σ.readActiveSessionIps := by
  rw [startProbe]
  split <;> rfl

@[simp] theorem failures_registerDevice (device : Device) :
    (σ.registerDevice device).failures ip = σ.failures ip := by
  rw [registerDevice]
  split <;> rfl

/-! ### The failures on record -/

theorem failures_startProbe : σ.startProbe.failures ip ≤ σ.failures ip := by
  have hrecord : σ.startProbe.consecutiveProbeFailures =
      ((σ.knownEndpoints.filter (·.ip ∈ σ.readActiveSessionIps)).map HttpEndpoint.ip).foldl Dict.remove
        σ.consecutiveProbeFailures := by
    rw [startProbe]
    split <;> rfl
  rw [failures, hrecord, Dict.get_foldl_remove]
  split
  · exact Nat.zero_le _
  · exact Nat.le_refl _

/-- The failed IPs are counted once each, and removed are those that fail for the third time. -/
theorem foldl_missed {failed : List String} (h : failed.Nodup) (record : List (String × Nat)) (toRemove : List String) :
    (∀ ip ∉ failed, Dict.get (failed.foldl missed (record, toRemove)).1 ip = Dict.get record ip) ∧
    (∀ ip ∈ failed, (Dict.get (failed.foldl missed (record, toRemove)).1 ip).getD 0 ≤ (Dict.get record ip).getD 0 + 1) ∧
    (∀ ip ∈ (failed.foldl missed (record, toRemove)).2, ip ∈ toRemove ∨
      ip ∈ failed ∧ kMaxConsecutiveProbeFailures ≤ (Dict.get record ip).getD 0 + 1) := by
  induction failed generalizing record toRemove with
  | nil => simp
  | cons first failed ih =>
    obtain ⟨hfirst, hnodup⟩ := List.nodup_cons.mp h
    rw [List.foldl_cons]
    -- what counting the first does to the record of each IP
    have hother : ∀ ip ≠ first, Dict.get (missed (record, toRemove) first).1 ip = Dict.get record ip := by
      intro ip hip
      rw [missed]
      split <;> simp [Dict.get_remove, Dict.get_put, hip]
    have hself : (Dict.get (missed (record, toRemove) first).1 first).getD 0 ≤ (Dict.get record first).getD 0 + 1 := by
      rw [missed]
      split <;> simp [Dict.get_remove, Dict.get_put]
    have hremove : ∀ ip ∈ (missed (record, toRemove) first).2, ip ∈ toRemove ∨
        ip = first ∧ kMaxConsecutiveProbeFailures ≤ (Dict.get record first).getD 0 + 1 := by
      intro ip hip
      rw [missed] at hip
      split at hip
      · rename_i hcount
        rcases List.mem_append.mp hip with hip | hip
        · exact .inl hip
        · exact .inr ⟨List.mem_singleton.mp hip, hcount⟩
      · exact .inl hip
    obtain ⟨hkept, hcounted, hremoved⟩ := ih hnodup (missed (record, toRemove) first).1 (missed (record, toRemove) first).2
    refine ⟨fun ip hip => ?_, fun ip hip => ?_, fun ip hip => ?_⟩
    · obtain ⟨hne, hrest⟩ := not_or.mp (List.mem_cons.not.mp hip)
      rw [hkept ip hrest, hother ip hne]
    · rcases List.mem_cons.mp hip with rfl | hrest
      · rw [hkept ip hfirst]
        exact hself
      · have hne : ip ≠ first := fun heq => hfirst (heq ▸ hrest)
        have := hcounted ip hrest
        rwa [hother ip hne] at this
    · rcases hremoved ip hip with hmem | ⟨hrest, hcount⟩
      · rcases hremove ip hmem with hmem | ⟨rfl, hcount⟩
        · exact .inl hmem
        · exact .inr ⟨List.mem_cons_self, hcount⟩
      · have hne : ip ≠ first := fun heq => hfirst (heq ▸ hrest)
        rw [hother ip hne] at hcount
        exact .inr ⟨List.mem_cons_of_mem _ hrest, hcount⟩

theorem countMisses_spec (probe : Probe) :
    (∀ ip ∉ probe.failedIps, Dict.get (σ.countMisses probe).1 ip =
      if ip ∈ probe.seenIps then none else Dict.get σ.consecutiveProbeFailures ip) ∧
    (∀ ip ∈ probe.failedIps, (Dict.get (σ.countMisses probe).1 ip).getD 0 ≤ σ.failures ip + 1) ∧
    (∀ ip ∈ (σ.countMisses probe).2, ip ∈ probe.failedIps ∧ kMaxConsecutiveProbeFailures ≤ σ.failures ip + 1) := by
  obtain ⟨hkept, hcounted, hremove⟩ :=
    foldl_missed (probe.distinct.filter (· ∉ probe.seenIps)) (probe.seenIps.foldl Dict.remove σ.consecutiveProbeFailures) []
  have hfailed : ∀ ip ∈ probe.failedIps,
      Dict.get (probe.seenIps.foldl Dict.remove σ.consecutiveProbeFailures) ip = Dict.get σ.consecutiveProbeFailures ip := by
    intro ip hip
    have hunseen : ip ∉ probe.seenIps := by simpa using (List.mem_filter.mp hip).2
    rw [Dict.get_foldl_remove, if_neg hunseen]
  refine ⟨fun ip hip => ?_, fun ip hip => ?_, fun ip hip => ?_⟩
  · exact (hkept ip hip).trans (Dict.get_foldl_remove ..)
  · have hone := hcounted ip hip
    rwa [hfailed ip hip] at hone
  · obtain hnil | ⟨hmem, hcount⟩ := hremove ip hip
    · exact (List.not_mem_nil hnil).elim
    · rw [hfailed ip hmem] at hcount
      exact ⟨hmem, hcount⟩

theorem mem_failedIps {probe : Probe} : ip ∈ probe.failedIps ↔ ip ∈ probe.probedIps ∧ ip ∉ probe.seenIps := by
  simp [Probe.failedIps]

/-- A prune forgets the failures of an IP that was seen, counts one for a probed IP that was not, and
leaves the others. -/
theorem failures_prune (probe : Probe) : (σ.prune probe).failures ip ≤
    if ip ∈ probe.seenIps then 0 else if ip ∈ probe.probedIps then σ.failures ip + 1 else σ.failures ip := by
  obtain ⟨hkept, hcounted, -⟩ := σ.countMisses_spec probe
  show (Dict.get (σ.countMisses probe).1 ip).getD 0 ≤ _
  by_cases hseen : ip ∈ probe.seenIps
  · rw [hkept ip fun hip => (mem_failedIps.mp hip).2 hseen, if_pos hseen, if_pos hseen]
    exact Nat.le_refl 0
  · rw [if_neg hseen]
    by_cases hprobed : ip ∈ probe.probedIps
    · rw [if_pos hprobed]
      exact hcounted ip (mem_failedIps.mpr ⟨hprobed, hseen⟩)
    · rw [hkept ip fun hip => hprobed (mem_failedIps.mp hip).1, if_neg hseen, if_neg hprobed]
      exact Nat.le_refl _

/-- An entry that a prune removes has not answered, with two failures on record. -/
theorem of_prune_removed {probe : Probe} (h : ip ∈ Dict.keys σ.devices)
    (hremoved : ip ∉ Dict.keys (σ.prune probe).devices) :
    ip ∈ probe.failedIps ∧ kMaxConsecutiveProbeFailures ≤ σ.failures ip + 1 := by
  obtain ⟨entry, hentry, rfl⟩ := List.mem_map.mp h
  refine (σ.countMisses_spec probe).2.2 _ ?_
  by_contra hkept
  have hstays : entry ∈ (σ.prune probe).devices := List.mem_filter.mpr ⟨hentry, decide_eq_true hkept⟩
  exact hremoved (List.mem_map_of_mem hstays)

end ProbesState

/-! ### Runs -/

/-- What is on record of an IP that is not in use are strikes. -/
def Counted (w : Watched) : Prop := ∀ ip, ip ∉ w.state.readActiveSessionIps → w.state.failures ip ≤ w.strikes ip

variable {w : Watched} {τ : ProbesState} {e : ProbeEvent}

/-- Nothing is counted: no more is on record of an IP that stays out of use. -/
theorem Counted.kept (h : Counted w) (hclean : Undisturbed w e) (he : ∀ i, e ≠ .pruned i)
    (hle : ∀ ip, τ.failures ip ≤ w.state.failures ip)
    (hended : ∀ ip ∈ w.state.readActiveSessionIps, ip ∉ τ.readActiveSessionIps → w.state.failures ip = 0) :
    Counted ⟨τ, w.state.strike w.strikes e τ⟩ := by
  intro ip hip
  show τ.failures ip ≤ w.state.strike w.strikes e τ ip
  have hle := hle ip
  by_cases hactive : ip ∈ w.state.readActiveSessionIps
  · rw [hended ip hactive hip] at hle
    exact Nat.le_trans hle (Nat.zero_le _)
  · unfold ProbesState.strike
    rw [if_neg (not_or.mpr ⟨hactive, hip⟩)]
    by_cases hregistered : (w.state.registered e).bind Device.httpIp = some ip
    · rw [hclean.1 ip hregistered hactive] at hle
      exact Nat.le_trans hle (Nat.zero_le _)
    · rw [if_neg hregistered]
      cases e with
      | pruned i => exact absurd rfl (he i)
      | _ => exact Nat.le_trans hle (h ip hactive)

/-- A prune counts a strike for what it counts, and removes at the third. -/
theorem Counted.pruned (h : Counted w) {i : Nat} (hclean : Undisturbed w (.pruned i)) {probe : Probe}
    (hprobe : w.state.probes[i]? = some probe) (hactive : τ.readActiveSessionIps = w.state.readActiveSessionIps)
    (hfailures : ∀ ip, τ.failures ip = (w.state.prune probe).failures ip)
    (hdevices : τ.devices = (w.state.prune probe).devices) :
    Counted ⟨τ, w.state.strike w.strikes (.pruned i) τ⟩ ∧
      ThreeStrikes w (.pruned i) ⟨τ, w.state.strike w.strikes (.pruned i) τ⟩ := by
  -- of an IP out of use
  have hstrike : ∀ ip, ip ∉ w.state.readActiveSessionIps → w.state.strike w.strikes (.pruned i) τ ip =
      if ip ∈ probe.seenIps then 0 else if ip ∈ probe.probedIps then w.strikes ip + 1 else w.strikes ip := by
    intro ip hip
    simp [ProbesState.strike, ProbesState.registered, hactive, hip, hprobe]
  constructor
  · intro ip hip
    have hidle : ip ∉ w.state.readActiveSessionIps := hactive ▸ hip
    have hcounted := h ip hidle
    calc τ.failures ip = (w.state.prune probe).failures ip := hfailures ip
      _ ≤ _ := w.state.failures_prune probe
      _ ≤ _ := by split <;> [exact Nat.le_refl 0; split <;> omega]
      _ = _ := (hstrike ip hidle).symm
  · intro ip hip hremoved
    obtain ⟨hfailed, hcount⟩ := ProbesState.of_prune_removed hip (hdevices ▸ hremoved)
    obtain ⟨hprobed, hunseen⟩ := ProbesState.mem_failedIps.mp hfailed
    have hidle : ip ∉ w.state.readActiveSessionIps := by
      intro hin
      have := hclean.2 probe hprobe ip hfailed hip hin
      omega
    have hcounted := h ip hidle
    refine ⟨?_, hidle⟩
    show 3 ≤ w.state.strike w.strikes (.pruned i) τ ip
    rw [hstrike ip hidle, if_neg hunseen, if_pos hprobed]
    simp only [kMaxConsecutiveProbeFailures] at hcount
    omega

theorem Counted.step {w' : Watched} (h : Counted w) (hclean : Undisturbed w e) (hstep : probes.step w e = some w') :
    Counted w' ∧ ThreeStrikes w e w' := by
  obtain ⟨τ, hτ, rfl⟩ := Option.map_eq_some_iff.mp hstep
  cases e with
  | register device =>
    obtain rfl := Option.some_inj.mp hτ
    refine ⟨h.kept hclean (fun _ he => by cases he) (fun ip => ?_) (fun ip hin hout => ?_), trivial⟩
    · exact Nat.le_of_eq (ProbesState.failures_registerDevice device)
    · exact absurd (by simpa using hin) hout
  | clear =>
    obtain rfl := Option.some_inj.mp hτ
    exact ⟨h.kept hclean (fun _ he => by cases he) (fun _ => Nat.le_refl _) fun _ hin hout => absurd hin hout, trivial⟩
  | sends sessions =>
    obtain rfl := Option.some_inj.mp hτ
    exact ⟨h.kept hclean (fun _ he => by cases he) (fun _ => Nat.le_refl _) hclean.2, trivial⟩
  | receives session =>
    obtain rfl := Option.some_inj.mp hτ
    exact ⟨h.kept hclean (fun _ he => by cases he) (fun _ => Nat.le_refl _) hclean.2, trivial⟩
  | probe =>
    obtain rfl := Option.some_inj.mp hτ
    refine ⟨h.kept hclean (fun _ he => by cases he) (fun _ => ProbesState.failures_startProbe) (fun ip hin hout => ?_), trivial⟩
    exact absurd (by simpa using hin) hout
  | answer i device =>
    obtain ⟨probe, -, -, rfl⟩ := guarded_eq_some.mp hτ
    exact ⟨h.kept hclean (fun _ he => by cases he) (fun _ => Nat.le_refl _) fun _ hin hout => absurd hin hout, trivial⟩
  | answerRegistered i =>
    obtain ⟨probe, -, hτ⟩ := Option.bind_eq_some_iff.mp hτ
    obtain ⟨device, -, hτ⟩ := Option.bind_eq_some_iff.mp hτ
    obtain rfl := Option.some_inj.mp hτ
    refine ⟨h.kept hclean (fun _ he => by cases he) (fun ip => ?_) (fun ip hin hout => ?_), trivial⟩
    · exact Nat.le_of_eq (ProbesState.failures_registerDevice device)
    · exact absurd (by simpa using hin) hout
  | pruned i =>
    obtain ⟨probe, hprobe, -, rfl⟩ := guarded_eq_some.mp hτ
    exact h.pruned hclean hprobe rfl (fun _ => rfl) rfl

def probedDevice : Device :=
  ⟨"2.1", "B", none, .mobile, false, [.http ⟨"10.0.0.2", 53317, true, "cert"⟩], []⟩

/-- Three failed probes in a row. -/
def unreachable : List ProbeEvent :=
  [.register probedDevice, .probe, .pruned 0, .probe, .pruned 1, .probe, .pruned 2]

end MagicShare.Nearby
