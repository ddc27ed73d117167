import MagicShare.Base.Records
import MagicShare.Receive.Session

/-! The life of a receive session.

A session waits for the user, takes files, and is over once it is finished or canceled
by its sender. The request that installed it hangs on a stream that only the decision of
the user feeds, so it is answered only while the session still waits for it, and a
decision that was made is not asked whether the session is still one that waits.
Both are exactly what a run must avoid (`lifecycle_iff`). -/
namespace MagicShare.Receive

/-! ### The property and its condition -/

/-- The statuses of a session that is over. -/
def endedStates : List SessionStatus := [.canceledBySender, .finished]

namespace ReceiveServer

/-- The session with this id is in the slot and waits for the user. -/
def Waiting (s : ReceiveServer) (own : Nat) : Prop := s.slot = some (own, .waiting)

def Answered (s : ReceiveServer) (h : Nat) : Prop :=
  ∃ (p : Prepare) (response : Response) (found : Option Nat), s.prepares[h]? = some p ∧ p.phase = .answered response found

/-- The handler of the request answers it, going on by itself. -/
def Answers (config : ReceiveConfig) (s : ReceiveServer) (h : Nat) : Prop :=
  ∃ events t, (∀ e ∈ events, e = .goOn h ∨ e = .permissionAsked h) ∧
    (receiveServer config).run s events = some t ∧ t.Answered h

structure Lifecycle (config : ReceiveConfig) (s : ReceiveServer) : Prop where
  /-- A session that was over is not one that waits or takes files. -/
  settled : ∀ own status, s.slot = some (own, status) → ∀ c ∈ s.changes, c.session.sessionId = own →
    c.after ∈ endedStates → status ∉ [SessionStatus.sending, .waiting]
  /-- A session with errors takes files again through an upload of one of its files. -/
  resumed : ∀ c ∈ s.changes, c.session.status = .finishedWithErrors → c.after = .sending →
    ∃ fileId, c.upload = some fileId ∧ (c.session.files.lookup fileId).isSome
  /-- A request whose session does not wait any more is answered, -/
  answers : ∀ (h : Nat) (p : Prepare) own, s.prepares[h]? = some p → p.sessionId = some own → ¬ s.Waiting own →
    s.Answers config h
  /-- and its answer is the last thing that happens to it. -/
  once : ∀ e t, s.step config e = some t → ∀ (h : Nat) (p : Prepare) response found, s.prepares[h]? = some p →
    p.phase = .answered response found → t.prepares[h]? = some p

/-- A request hangs on its stream, with nothing on it. -/
def Undecided (s : ReceiveServer) : Prop := ∃ p ∈ s.prepares, p.phase = .deciding none

/-- Nothing ends or replaces a session while a request hangs on its stream, and files are
accepted in no session that was ended. -/
def Undisturbed (s : ReceiveServer) : ReceiveEvent → Prop
  | .directoriesResolved _ _ | .closeSession | .cancelSession | .delayedClose _ => ¬ s.Undecided
  | .cancel v2 ip sessionId => ∀ session, s.session = some session → cancelAllowed session v2 ip sessionId = true →
    ¬ s.Undecided
  | .goOn h => ¬ s.Undecided ∧ ∀ (p : Prepare) selected, s.prepares[h]? = some p →
    p.phase = .deciding (some (some selected)) → selected ≠ [] → ∀ session, s.session = some session →
      session.status ∉ [SessionStatus.canceledBySender, .finished, .finishedWithErrors]
  | _ => True

/-! ### Requests and their answers -/

variable {config : ReceiveConfig} {s t : ReceiveServer} {e : ReceiveEvent} {h : Nat} {p : Prepare}

/-- A decision is answered, in the session with the id `own`, or a permission is asked
for first. -/
def Concluded (own : Nat) : PreparePhase → Prop
  | .answered response _ => response.code ≠ 401 ∧ ∀ granted, response.grant = some granted → granted.sessionId = own
  | .askingPermission granted => granted.sessionId = own
  | _ => False

/-- What a decision writes. -/
theorem onDecision_spec (config : ReceiveConfig) (s : ReceiveServer) (h : Nat) (p : Prepare) (own : Nat)
    (selection : Selection) :
    (∃ phase, (s.onDecision config h p own selection).prepares = s.prepares.set h {p with phase} ∧ Concluded own phase) ∧
    ((s.onDecision config h p own selection).session = none ∧
        (s.onDecision config h p own selection).changes = s.changes ∧
        (s.onDecision config h p own selection).nextId = s.nextId ∨
      ∃ session selected, s.session = some session ∧ selection = some selected ∧ selected ≠ [] ∧
        (s.onDecision config h p own selection).session = some (session.accepted s.nextId selected) ∧
        (s.onDecision config h p own selection).changes = s.changes ++ [⟨session, .sending, none⟩] ∧
        (s.onDecision config h p own selection).nextId = s.nextId + 1) := by
  rcases onDecision_cases config s h p own selection with ⟨hfree, hdecided⟩ |
    ⟨session, code, message, -, hcode, hdecided⟩ | ⟨session, selected, phase, hsession, hselection, hselected, hphase, hdecided⟩
  · rw [hdecided]
    exact ⟨⟨_, rfl, Nat.ne_of_beq_eq_false rfl, fun granted hgrant => by cases hgrant⟩, .inl ⟨hfree, rfl, rfl⟩⟩
  · have hcode401 : code ≠ 401 := by
      rcases List.mem_pair.mp hcode with rfl | rfl <;> decide
    rw [hdecided]
    exact ⟨⟨_, rfl, hcode401, fun granted hgrant => by cases hgrant⟩, .inl ⟨rfl, rfl, rfl⟩⟩
  · rw [hdecided]
    refine ⟨⟨phase, rfl, ?_⟩, .inr ⟨session, selected, hsession, hselection, hselected, rfl, rfl, rfl⟩⟩
    rcases hphase with rfl | rfl
    · rfl
    · refine ⟨Nat.ne_of_beq_eq_false rfl, fun granted hgrant => ?_⟩
      exact congrArg Grant.sessionId (Option.some.inj hgrant).symm

/-- Selected files are accepted in the session that is in the slot. -/
theorem onDecision_selected (config : ReceiveConfig) (h : Nat) (p : Prepare) (own : Nat)
    {selected : List (String × String)} {session : ReceiveSession} (hsession : s.session = some session)
    (hselected : selected ≠ []) :
    (s.onDecision config h p own (some selected)).slot = some (session.sessionId, .sending) ∧
      (s.onDecision config h p own (some selected)).changes = s.changes ++ [⟨session, .sending, none⟩] := by
  cases selected with
  | nil => exact absurd rfl hselected
  | cons entry rest =>
    simp only [onDecision, hsession, grant]
    split <;> exact ⟨rfl, rfl⟩

/-- A decision is put on a stream that a request hangs on, or nowhere. -/
theorem respond_spec (selection : Selection) : s.respond selection = s ∨
    ∃ h p, s.prepares[h]? = some p ∧ p.phase = .deciding none ∧
      s.respond selection = s.setPrepare h p (.deciding (some selection)) := by
  simp only [respond]
  split
  · exact .inl rfl
  · next h hhandler =>
    split
    · next p hget =>
      split
      · next hphase => exact .inr ⟨h, p, hget, hphase, rfl⟩
      · exact .inl rfl
    · exact .inl rfl

/-- The phases in which a handler of an installed session goes on by itself, or has
gone on. -/
def GoesOn : PreparePhase → Prop
  | .readingBody | .resolvingDirectories _ | .deciding none => False
  | .openingLink | .deciding (some _) | .askingPermission _ | .answered _ _ => True

theorem answers_of_asking {granted : Grant} (hget : s.prepares[h]? = some p)
    (hphase : p.phase = .askingPermission granted) : s.Answers config h := by
  obtain ⟨ip, own, phase⟩ := p
  subst hphase
  have hstep : s.step config (.permissionAsked h) =
      some (s.answer h ⟨ip, own, .askingPermission granted⟩ s.sessionId ⟨200, "", some granted⟩) := by
    simp only [step, hget]
  exact ⟨[.permissionAsked h], _, by simp, by rw [Transition.System.run_cons]; exact congrArg (Option.bind · _) hstep,
    _, _, _, Records.set_self hget, rfl⟩

/-- Once a handler has gone on with a decision, it answers. -/
theorem answers_of_wentOn (own : Nat) (selection : Selection) (hget : s.prepares[h]? = some p)
    (hstep : s.step config (.goOn h) = some (s.onDecision config h p own selection)) : s.Answers config h := by
  obtain ⟨⟨phase, hprepares, hphase⟩, -⟩ := onDecision_spec config s h p own selection
  have hq : (s.onDecision config h p own selection).prepares[h]? = some {p with phase} := by
    rw [hprepares]
    exact Records.set_self hget
  have hrun : (receiveServer config).run s [.goOn h] = some (s.onDecision config h p own selection) := by
    rw [Transition.System.run_cons]
    exact congrArg (Option.bind · _) hstep
  cases phase with
  | answered response found => exact ⟨[.goOn h], _, by simp, hrun, _, response, found, hq, rfl⟩
  | askingPermission granted =>
    obtain ⟨events, t, hown, hrest, hanswered⟩ := answers_of_asking hq rfl
    refine ⟨.goOn h :: events, t, ?_, ?_, hanswered⟩
    · exact List.forall_mem_cons.mpr ⟨.inl rfl, hown⟩
    · rw [← List.singleton_append, Transition.System.run_append, hrun]
      exact hrest
  | _ => cases hphase

/-- A handler that goes on by itself answers. -/
theorem answers_of_goesOn {own : Nat} (hget : s.prepares[h]? = some p) (hown : p.sessionId = some own)
    (hphase : GoesOn p.phase) : s.Answers config h := by
  obtain ⟨ip, sessionId, phase⟩ := p
  obtain rfl : sessionId = some own := hown
  cases phase with
  | readingBody => cases hphase
  | resolvingDirectories dto => cases hphase
  | openingLink => exact answers_of_wentOn own (some []) hget (by simp only [step, hget])
  | deciding decision =>
    cases decision with
    | none => cases hphase
    | some selection => exact answers_of_wentOn own selection hget (by simp only [step, hget])
  | askingPermission granted => exact answers_of_asking hget rfl
  | answered response found => exact ⟨[], s, by simp, rfl, _, response, found, hget, rfl⟩

/-- A handler that hangs on its stream does not. -/
theorem not_answers_of_deciding (hget : s.prepares[h]? = some p) (hphase : p.phase = .deciding none) :
    ¬ s.Answers config h := by
  obtain ⟨ip, own, phase⟩ := p
  subst hphase
  rintro ⟨events, t, hown, hrun, q, response, found, hq, hanswered⟩
  cases events with
  | nil =>
    obtain rfl := Option.some.inj hrun
    obtain rfl := Option.some.inj (hget.symm.trans hq)
    cases hanswered
  | cons e rest =>
    obtain ⟨m, hm, -⟩ := Transition.System.run_cons_some _ hrun
    have hm' : s.step config e = some m := hm
    rcases hown e List.mem_cons_self with rfl | rfl
    · simp [step, hget] at hm'
    · simp [step, hget] at hm'

/-- A request that is not answered changes, and keeps its address and its session, or one
comes in. -/
theorem prepares_of_moves (hm : Moves config s e t) : t.prepares = s.prepares ∨
    (∃ ip pin phase, e = .prepareUpload ip pin ∧ t.prepares = s.prepares ++ [⟨ip, none, phase⟩]) ∨
    ∃ h p q, s.prepares[h]? = some p ∧ (∀ response found, p.phase ≠ .answered response found) ∧
      t.prepares = s.prepares.set h q ∧ q.ip = p.ip ∧ ∀ own, p.sessionId = some own → q.sessionId = some own := by
  cases hm with
  | blocked => exact .inr (.inl ⟨_, _, _, rfl, rfl⟩)
  | arrived => exact .inr (.inl ⟨_, _, _, rfl, rfl⟩)
  | refused hget => exact .inr (.inr ⟨_, _, _, hget, by simp, rfl, rfl, fun _ => id⟩)
  | bodyRead hget => exact .inr (.inr ⟨_, _, _, hget, by simp, rfl, rfl, fun _ => id⟩)
  | installed hget => exact .inr (.inr ⟨_, _, _, hget, by simp, rfl, rfl, by simp⟩)
  | accepted hget hmessage selected =>
    rename_i h ip dto
    obtain ⟨⟨phase, hprepares, -⟩, -⟩ := onDecision_spec config
      (s.install h ⟨ip, none, .resolvingDirectories dto⟩ dto (.deciding none)) h
      ⟨ip, some s.nextId, .resolvingDirectories dto⟩ s.nextId (some selected)
    exact .inr (.inr ⟨h, _, _, hget, by simp, hprepares.trans (List.set_set ..), rfl, by simp⟩)
  | wentOn hget hphase =>
    rename_i h ip own phase selection
    obtain ⟨⟨phase', hprepares, -⟩, -⟩ := onDecision_spec config s h ⟨ip, some own, phase⟩ own selection
    refine .inr (.inr ⟨_, _, _, hget, ?_, hprepares, rfl, fun _ => id⟩)
    rcases hphase with ⟨rfl, -⟩ | rfl <;> simp
  | permitted hget => exact .inr (.inr ⟨_, _, _, hget, by simp, rfl, rfl, fun _ => id⟩)
  | acceptFileRequest | declineFileRequest =>
    rcases respond_spec (s := s) _ with hsame | ⟨h, p, hget, hphase, hset⟩
    · exact .inl (congrArg prepares hsame)
    · exact .inr (.inr ⟨h, p, _, hget, by simp [hphase], congrArg prepares hset, rfl, fun _ => id⟩)
  | cancelRefused => exact .inl rfl
  | canceled => exact .inl rfl
  | closeSession => exact .inl rfl
  | cancelSession => exact .inl rfl
  | uploadRefused => exact .inl rfl
  | uploadBegan => exact .inl rfl
  | saved => exact .inl concludes_finishUpload.prepares
  | saveFailed => exact .inl concludes_failUpload.prepares
  | recorded => exact .inl concludes_concludeUpload.prepares
  | recordFailed => exact .inl concludes_failUpload.prepares
  | delayedClosed => exact .inl rfl
  | delayedNothing => exact .inl rfl

theorem answered_once (hst : s.step config e = some t) {response : Response} {found : Option Nat}
    (hget : s.prepares[h]? = some p) (hanswered : p.phase = .answered response found) : t.prepares[h]? = some p := by
  rcases prepares_of_moves (moves_of_step hst) with hsame | ⟨ip, pin, phase, -, happend⟩ |
    ⟨h', p', q, hget', hopen, hset, -, -⟩
  · rw [hsame, hget]
  · rw [happend, Records.append hget]
  · have hne : h' ≠ h := by
      rintro rfl
      obtain rfl := Option.some.inj (hget.symm.trans hget')
      exact hopen _ _ hanswered
    rw [hset, List.getElem?_set_ne hne, hget]

/-! ### The invariant -/

/-- Requests that hang on their stream have their session waiting. -/
structure Requests (s : ReceiveServer) : Prop where
  waiting : ∀ p ∈ s.prepares, p.phase = .deciding none → ∃ own, p.sessionId = some own ∧ s.Waiting own
  installed : ∀ p ∈ s.prepares, p.sessionId.isSome → p.phase = .deciding none ∨ GoesOn p.phase

/-- The status in the slot is the last one that was written. -/
structure History (s : ReceiveServer) : Prop where
  fresh : ∀ own status, s.slot = some (own, status) → own < s.nextId
  old : ∀ c ∈ s.changes, c.session.sessionId < s.nextId
  settled : ∀ own status, s.slot = some (own, status) → ∀ c ∈ s.changes, c.session.sessionId = own →
    c.after ∈ endedStates → status ∈ endedStates
  noted : ∀ own status, s.slot = some (own, status) → status ∈ endedStates →
    ∃ c ∈ s.changes, c.session.sessionId = own ∧ c.after ∈ endedStates
  resumed : ∀ c ∈ s.changes, c.session.status = .finishedWithErrors → c.after = .sending →
    ∃ fileId, c.upload = some fileId ∧ (c.session.files.lookup fileId).isSome

theorem lifecycle_of_invariant (hrequests : s.Requests) (hhistory : s.History) : s.Lifecycle config where
  settled := by
    intro own status hslot c hc hown hended
    have hstatus := hhistory.settled own status hslot c hc hown hended
    revert hstatus
    cases status <;> decide
  resumed := hhistory.resumed
  answers := by
    intro h p own hget hown hwaiting
    have hmem := List.mem_of_getElem? hget
    rcases hrequests.installed p hmem (by simp [hown]) with hphase | hphase
    · obtain ⟨own', hown', hwaiting'⟩ := hrequests.waiting p hmem hphase
      obtain rfl := Option.some.inj (hown.symm.trans hown')
      exact absurd hwaiting' hwaiting
    · exact answers_of_goesOn hget hown hphase
  once := fun e t hst h p response found hget hanswered => answered_once hst hget hanswered

theorem Requests.of_eq (hrequests : s.Requests) (hprepares : t.prepares = s.prepares)
    (hslot : s.Undecided → ∀ own, s.Waiting own → t.Waiting own) : t.Requests := by
  refine ⟨fun p hp hphase => ?_, hprepares ▸ hrequests.installed⟩
  rw [hprepares] at hp
  obtain ⟨own, hown, hwaiting⟩ := hrequests.waiting p hp hphase
  exact ⟨own, hown, hslot ⟨p, hp, hphase⟩ own hwaiting⟩

theorem Requests.append (hrequests : s.Requests) {q : Prepare} (hprepares : t.prepares = s.prepares ++ [q])
    (hown : q.sessionId = none) (hq : q.phase ≠ .deciding none) (hslot : t.slot = s.slot) : t.Requests := by
  refine ⟨fun p hp hphase => ?_, fun p hp hsome => ?_⟩
  · rw [hprepares] at hp
    rcases List.mem_append.mp hp with hold | hnew
    · obtain ⟨own, hown', hwaiting⟩ := hrequests.waiting p hold hphase
      exact ⟨own, hown', hslot.trans hwaiting⟩
    · obtain rfl := List.mem_singleton.mp hnew
      exact absurd hphase hq
  · rw [hprepares] at hp
    rcases List.mem_append.mp hp with hold | hnew
    · exact hrequests.installed p hold hsome
    · obtain rfl := List.mem_singleton.mp hnew
      rw [hown] at hsome
      cases hsome

/-- A request that goes on. -/
theorem Requests.set (hrequests : s.Requests) {q : Prepare} (hprepares : t.prepares = s.prepares.set h q)
    (hq : q.phase ≠ .deciding none) (hinstalled : q.sessionId.isSome → GoesOn q.phase)
    (hslot : ∀ i p, i ≠ h → s.prepares[i]? = some p → p.phase = .deciding none → ∀ own, s.Waiting own →
      t.Waiting own) : t.Requests := by
  refine ⟨fun p hp hphase => ?_, fun p hp hsome => ?_⟩
  · obtain ⟨i, hi⟩ := List.mem_iff_getElem?.mp hp
    rw [hprepares] at hi
    rcases Records.of_set hi with ⟨-, rfl⟩ | ⟨hne, hold⟩
    · exact absurd hphase hq
    · obtain ⟨own, hown, hwaiting⟩ := hrequests.waiting p (List.mem_of_getElem? hold) hphase
      exact ⟨own, hown, hslot i p hne hold hphase own hwaiting⟩
  · obtain ⟨i, hi⟩ := List.mem_iff_getElem?.mp hp
    rw [hprepares] at hi
    rcases Records.of_set hi with ⟨-, rfl⟩ | ⟨-, hold⟩
    · exact .inr (hinstalled hsome)
    · exact hrequests.installed p (List.mem_of_getElem? hold) hsome

/-- A request that installs a session hangs on its stream, or goes on. -/
theorem Requests.install (hrequests : s.Requests) {dto : PrepareUploadRequestDto} {phase : PreparePhase}
    (hphase : phase = .openingLink ∨ phase = .deciding none) (hc : ¬ s.Undecided) :
    (s.install h p dto phase).Requests := by
  refine ⟨fun q hq hundecided => ?_, fun q hq hsome => ?_⟩
  · rcases List.mem_or_eq_of_mem_set hq with hold | rfl
    · exact absurd ⟨q, hold, hundecided⟩ hc
    · exact ⟨s.nextId, rfl, rfl⟩
  · rcases List.mem_or_eq_of_mem_set hq with hold | rfl
    · exact hrequests.installed q hold hsome
    · rcases hphase with rfl | rfl
      · exact .inr trivial
      · exact .inl rfl

theorem History.of_eq (hhistory : s.History) (hslot : t.slot = s.slot) (hchanges : t.changes = s.changes)
    (hnext : t.nextId = s.nextId) : t.History := by
  obtain ⟨hfresh, hold, hover, hnoted, hresumed⟩ := hhistory
  constructor <;> simp only [hslot, hchanges, hnext] <;> assumption

theorem History.closed (hhistory : s.History) (hslot : t.slot = none) (hchanges : t.changes = s.changes)
    (hnext : t.nextId = s.nextId) : t.History := by
  refine ⟨?_, ?_, ?_, ?_, ?_⟩
  · simp [hslot]
  · rw [hchanges, hnext]
    exact hhistory.old
  · simp [hslot]
  · simp [hslot]
  · rw [hchanges]
    exact hhistory.resumed

theorem History.install (hhistory : s.History) (dto : PrepareUploadRequestDto) (phase : PreparePhase) :
    (s.install h p dto phase).History := by
  have hslot : (s.install h p dto phase).slot = some (s.nextId, .waiting) := rfl
  refine ⟨?_, ?_, ?_, ?_, hhistory.resumed⟩
  · intro own status heq
    rw [hslot] at heq
    cases heq
    exact Nat.lt_succ_self _
  · exact fun c hc => Nat.lt_succ_of_lt (hhistory.old c hc)
  · intro own status heq c hc hown
    rw [hslot] at heq
    cases heq
    exact absurd hown (Nat.ne_of_lt (hhistory.old c hc))
  · intro own status heq hended
    rw [hslot] at heq
    cases heq
    cases hended with
    | tail _ hrest => cases hrest with
      | tail _ hnil => cases hnil

/-- A status is written to a session that is not over. -/
theorem History.write (hhistory : s.History) {session : ReceiveSession} {after : SessionStatus} {upload : Option String}
    (hsession : s.slot = some (session.sessionId, session.status)) (hslot : t.slot = some (session.sessionId, after))
    (hchanges : t.changes = s.changes ++ [⟨session, after, upload⟩]) (hnext : s.nextId ≤ t.nextId)
    (hstatus : session.status ∉ endedStates)
    (hresumed : session.status = .finishedWithErrors → after = .sending →
      ∃ fileId, upload = some fileId ∧ (session.files.lookup fileId).isSome) : t.History := by
  have hfresh := hhistory.fresh _ _ hsession
  refine ⟨?_, ?_, ?_, ?_, ?_⟩
  · intro own status heq
    rw [hslot] at heq
    cases heq
    exact Nat.lt_of_lt_of_le hfresh hnext
  · intro c hc
    rw [hchanges] at hc
    rcases List.mem_append.mp hc with hold | hnew
    · exact Nat.lt_of_lt_of_le (hhistory.old c hold) hnext
    · obtain rfl := List.mem_singleton.mp hnew
      exact Nat.lt_of_lt_of_le hfresh hnext
  · intro own status heq c hc hown hended
    rw [hslot] at heq
    cases heq
    rw [hchanges] at hc
    rcases List.mem_append.mp hc with hold | hnew
    · exact absurd (hhistory.settled _ _ hsession c hold hown hended) hstatus
    · obtain rfl := List.mem_singleton.mp hnew
      exact hended
  · intro own status heq hended
    rw [hslot] at heq
    cases heq
    exact ⟨⟨session, after, upload⟩, by simp [hchanges], rfl, hended⟩
  · intro c hc
    rw [hchanges] at hc
    rcases List.mem_append.mp hc with hold | hnew
    · exact hhistory.resumed c hold
    · obtain rfl := List.mem_singleton.mp hnew
      exact hresumed

/-! ### One step -/

theorem Requests.concludes (hrequests : s.Requests) (hconcludes : s.Concludes t) : t.Requests := by
  refine hrequests.of_eq hconcludes.prepares fun _ own hwaiting => ?_
  rcases hconcludes.status with ⟨hslot, -⟩ | ⟨session, after, hslot, hstatus, -⟩
  · exact hslot.trans hwaiting
  · obtain ⟨-, hwaits⟩ : session.sessionId = own ∧ session.status = .waiting := by
      simpa using hslot.symm.trans hwaiting
    rw [hwaits] at hstatus
    simp [allowedStates] at hstatus

theorem not_ended_of_allowed {status : SessionStatus} (h : status ∈ allowedStates) : status ∉ endedStates := by
  revert h
  cases status <;> decide

theorem not_ended_of_cancelAllowed {session : ReceiveSession} {v2 : Bool} {ip : String} {sessionId : Option Nat}
    (h : cancelAllowed session v2 ip sessionId = true) : session.status ∉ endedStates := by
  simp only [cancelAllowed, Bool.and_eq_true, Bool.or_eq_true, beq_iff_eq] at h
  rcases h.2 with hstatus | hstatus <;> simp [hstatus, endedStates]

theorem History.concludes (hhistory : s.History) (hconcludes : s.Concludes t) : t.History := by
  rcases hconcludes.status with ⟨hslot, hchanges⟩ | ⟨session, after, hsession, hstatus, hafter, hslot, hchanges⟩
  · exact hhistory.of_eq hslot hchanges hconcludes.nextId
  · refine hhistory.write hsession hslot hchanges (Nat.le_of_eq hconcludes.nextId.symm) (not_ended_of_allowed hstatus) ?_
    rintro - rfl
    simp at hafter

theorem Requests.onDecision (hrequests : s.Requests) {own : Nat} {selection : Selection}
    (hothers : ∀ i q, i ≠ h → s.prepares[i]? = some q → q.phase ≠ .deciding none) :
    (s.onDecision config h p own selection).Requests := by
  obtain ⟨⟨phase, hprepares, hphase⟩, -⟩ := onDecision_spec config s h p own selection
  have hgoes : phase ≠ .deciding none ∧ GoesOn phase := by
    cases phase with
    | answered response found => exact ⟨by simp, trivial⟩
    | askingPermission granted => exact ⟨by simp, trivial⟩
    | _ => cases hphase
  exact hrequests.set hprepares hgoes.1 (fun _ => hgoes.2) fun i r hne hr hundecided =>
    absurd hundecided (hothers i r hne hr)

theorem History.onDecision (hhistory : s.History) {own : Nat} {selection : Selection}
    (hstatus : ∀ selected, selection = some selected → selected ≠ [] → ∀ session, s.session = some session →
      session.status ∉ [SessionStatus.canceledBySender, .finished, .finishedWithErrors]) :
    (s.onDecision config h p own selection).History := by
  obtain ⟨-, ⟨hsession, hchanges, hnext⟩ |
      ⟨session, selected, hsession, hselection, hselected, hafter, hchanges, hnext⟩⟩ :=
    onDecision_spec config s h p own selection
  · exact hhistory.closed (slot_eq_none.mpr hsession) hchanges hnext
  · have hopen := hstatus selected hselection hselected session hsession
    have hslot : (s.onDecision config h p own selection).slot = some (session.sessionId, .sending) := slot_of_session hafter
    refine hhistory.write (slot_of_session hsession) hslot hchanges (hnext ▸ Nat.le_succ _) ?_ ?_
    · simp only [endedStates, List.mem_cons, not_or] at hopen ⊢
      exact ⟨hopen.1, hopen.2.1, by simp⟩
    · simp only [List.mem_cons, not_or] at hopen
      exact fun hwrong => absurd hwrong hopen.2.2.1

theorem onDecision_not_waiting {own other : Nat} {selection : Selection} :
    ¬ (s.onDecision config h p own selection).Waiting other := by
  obtain ⟨-, ⟨hsession, -⟩ | ⟨session, selected, -, -, -, hafter, -⟩⟩ := onDecision_spec config s h p own selection
  · simp [Waiting, slot_eq_none.mpr hsession]
  · simp [Waiting, slot_of_session hafter, ReceiveSession.accepted]

/-- A step that nothing disturbs keeps the invariant. -/
theorem invariant_of_moves (hrequests : s.Requests) (hhistory : s.History) (hm : Moves config s e t)
    (hc : s.Undisturbed e) : t.Requests ∧ t.History := by
  cases hm with
  | blocked => exact ⟨hrequests.append rfl rfl (by simp) rfl, hhistory.of_eq rfl rfl rfl⟩
  | arrived hsession hphase =>
    refine ⟨hrequests.append rfl rfl ?_ rfl, hhistory.of_eq rfl rfl rfl⟩
    rcases hphase with rfl | ⟨code, message, -, rfl⟩ <;> simp
  | refused hget =>
    exact ⟨hrequests.set rfl (by simp) (by simp) fun _ _ _ _ _ _ => id, hhistory.of_eq rfl rfl rfl⟩
  | bodyRead hget =>
    exact ⟨hrequests.set rfl (by simp) (by simp) fun _ _ _ _ _ _ => id, hhistory.of_eq rfl rfl rfl⟩
  | installed hget hphase => exact ⟨hrequests.install hphase hc, hhistory.install _ _⟩
  | accepted hget hmessage selected =>
    refine ⟨(hrequests.install (.inr rfl) hc).onDecision fun i q hne hq hundecided => ?_,
      (hhistory.install _ _).onDecision fun _ _ _ session hsession => ?_⟩
    · rw [show (s.install _ _ _ _).prepares = s.prepares.set _ _ from rfl, List.getElem?_set_ne (Ne.symm hne)] at hq
      exact hc ⟨q, List.mem_of_getElem? hq, hundecided⟩
    · obtain rfl := Option.some.inj hsession
      simp
  | wentOn hget hphase =>
    rename_i h ip own phase selection
    refine ⟨hrequests.onDecision fun i q _ hq hphase' => hc.1 ⟨q, List.mem_of_getElem? hq, hphase'⟩, ?_⟩
    refine hhistory.onDecision fun selected hselection hselected session hsession => ?_
    rcases hphase with ⟨-, hempty⟩ | rfl
    · exact absurd (Option.some.inj (hselection.symm.trans hempty)) hselected
    · exact hc.2 _ selected hget (congrArg _ (congrArg _ hselection)) hselected session hsession
  | permitted hget =>
    exact ⟨hrequests.set rfl (by simp) (fun _ => trivial) fun _ _ _ _ _ _ => id, hhistory.of_eq rfl rfl rfl⟩
  | acceptFileRequest | declineFileRequest =>
    rcases respond_spec (s := s) _ with hsame | ⟨h, p, hget, hphase, hset⟩
    · rw [hsame]
      exact ⟨hrequests, hhistory⟩
    · rw [hset]
      exact ⟨hrequests.set rfl (by simp) (fun _ => trivial) fun _ _ _ _ _ _ => id, hhistory.of_eq rfl rfl rfl⟩
  | cancelRefused => exact ⟨hrequests, hhistory⟩
  | canceled hsession hallowed =>
    rename_i v2 ip sessionId session
    refine ⟨hrequests.of_eq rfl fun hundecided => absurd hundecided (hc session hsession hallowed), ?_⟩
    exact hhistory.write (slot_of_session hsession) rfl rfl (Nat.le_refl _) (not_ended_of_cancelAllowed hallowed) (by simp)
  | closeSession => exact ⟨hrequests.of_eq rfl fun hundecided => absurd hundecided hc, hhistory.closed rfl rfl rfl⟩
  | cancelSession => exact ⟨hrequests.of_eq rfl fun hundecided => absurd hundecided hc, hhistory.closed rfl rfl rfl⟩
  | uploadRefused => exact ⟨hrequests.of_eq rfl fun _ _ => id, hhistory.of_eq rfl rfl rfl⟩
  | uploadBegan hcheck =>
    obtain ⟨hsession, hstatus, hfile⟩ := checkUpload_ok hcheck
    have hslot := slot_of_session hsession
    refine ⟨hrequests.of_eq rfl fun _ own hwaiting => ?_, ?_⟩
    · have hwaits := (Prod.mk.inj (Option.some.inj (hslot.symm.trans hwaiting))).2
      simp [hwaits, allowedStates] at hstatus
    · exact hhistory.write hslot rfl rfl (Nat.le_refl _) (not_ended_of_allowed hstatus) fun _ _ => ⟨_, rfl, hfile⟩
  | saved => exact ⟨hrequests.concludes concludes_finishUpload, hhistory.concludes concludes_finishUpload⟩
  | saveFailed => exact ⟨hrequests.concludes concludes_failUpload, hhistory.concludes concludes_failUpload⟩
  | recorded => exact ⟨hrequests.concludes concludes_concludeUpload, hhistory.concludes concludes_concludeUpload⟩
  | recordFailed => exact ⟨hrequests.concludes concludes_failUpload, hhistory.concludes concludes_failUpload⟩
  | delayedClosed => exact ⟨hrequests.of_eq rfl fun hundecided => absurd hundecided hc, hhistory.closed rfl rfl rfl⟩
  | delayedNothing => exact ⟨hrequests.of_eq rfl fun _ _ => id, hhistory.of_eq rfl rfl rfl⟩

/-- A step that leaves the requests alone which hang on their stream, but not the session
that waits for one. -/
theorem not_undecided_of_lifecycle (hrequests : s.Requests) (ht : t.Lifecycle config)
    (hkept : ∀ (i : Nat) (q : Prepare), s.prepares[i]? = some q → q.phase = .deciding none → t.prepares[i]? = some q)
    (hslot : ∀ own, s.Waiting own → ¬ t.Waiting own) : ¬ s.Undecided := by
  rintro ⟨q, hq, hphase⟩
  obtain ⟨i, hi⟩ := List.mem_iff_getElem?.mp hq
  obtain ⟨own, hown, hwaiting⟩ := hrequests.waiting q hq hphase
  have hget := hkept i q hi hphase
  exact not_answers_of_deciding hget hphase (ht.answers i q own hget hown (hslot own hwaiting))

theorem kept_of_set {q : Prepare} (hget : s.prepares[h]? = some p) (hphase : p.phase ≠ .deciding none)
    (hset : t.prepares = s.prepares.set h q) :
    ∀ (i : Nat) (r : Prepare), s.prepares[i]? = some r → r.phase = .deciding none → t.prepares[i]? = some r := by
  intro i r hr hundecided
  have hne : h ≠ i := by
    rintro rfl
    obtain rfl := Option.some.inj (hget.symm.trans hr)
    exact hphase hundecided
  rw [hset, List.getElem?_set_ne hne, hr]

/-- Files are accepted in a session that is not over and has no errors. -/
theorem open_of_lifecycle (hhistory : s.History) {own : Nat} {selected : List (String × String)}
    (ht : (s.onDecision config h p own (some selected)).Lifecycle config) (hselected : selected ≠ [])
    {session : ReceiveSession} (hsession : s.session = some session) :
    session.status ∉ [SessionStatus.canceledBySender, .finished, .finishedWithErrors] := by
  obtain ⟨hslot, hchanges⟩ := onDecision_selected config h p own hsession hselected
  intro hstatus
  by_cases herrors : session.status = .finishedWithErrors
  · obtain ⟨fileId, hupload, -⟩ := ht.resumed ⟨session, .sending, none⟩ (by simp [hchanges]) herrors rfl
    cases hupload
  · have hended : session.status ∈ endedStates := by simpa [endedStates, herrors] using hstatus
    obtain ⟨c, hc, hown, hafter⟩ := hhistory.noted _ _ (slot_of_session hsession) hended
    exact ht.settled _ _ hslot c (by rw [hchanges]; exact List.mem_append_left _ hc) hown hafter (by simp)

/-- A step after which the session lives as it should is not disturbed. -/
theorem undisturbed_of_lifecycle (hrequests : s.Requests) (hhistory : s.History) (hm : Moves config s e t)
    (ht : t.Lifecycle config) : s.Undisturbed e := by
  cases hm with
  | blocked => trivial
  | arrived => trivial
  | refused => trivial
  | bodyRead => trivial
  | installed hget hphase =>
    refine not_undecided_of_lifecycle hrequests ht (kept_of_set hget (by simp) rfl) fun own hwaiting hinstalled => ?_
    exact absurd (Prod.mk.inj (Option.some.inj hinstalled)).1.symm (Nat.ne_of_lt (hhistory.fresh own _ hwaiting))
  | accepted hget hmessage selected =>
    rename_i h ip dto
    obtain ⟨⟨_, hprepares, -⟩, -⟩ := onDecision_spec config
      (s.install h ⟨ip, none, .resolvingDirectories dto⟩ dto (.deciding none)) h
      ⟨ip, some s.nextId, .resolvingDirectories dto⟩ s.nextId (some selected)
    exact not_undecided_of_lifecycle hrequests ht
      (kept_of_set hget (by simp) (hprepares.trans (List.set_set ..))) fun _ _ => onDecision_not_waiting
  | wentOn hget hphase =>
    rename_i h ip own phase selection
    obtain ⟨⟨_, hprepares, -⟩, -⟩ := onDecision_spec config s h ⟨ip, some own, phase⟩ own selection
    have hopen : phase ≠ .deciding none := by
      rcases hphase with ⟨rfl, -⟩ | rfl <;> simp
    refine ⟨not_undecided_of_lifecycle hrequests ht (kept_of_set hget hopen hprepares) fun _ _ => onDecision_not_waiting,
      fun p selected hp hdeciding hselected session hsession => ?_⟩
    obtain rfl := Option.some.inj (hget.symm.trans hp)
    rcases hphase with ⟨rfl, -⟩ | rfl
    · cases hdeciding
    · obtain rfl := Option.some.inj (PreparePhase.deciding.inj hdeciding)
      exact open_of_lifecycle hhistory ht hselected hsession
  | permitted => trivial
  | acceptFileRequest => trivial
  | declineFileRequest => trivial
  | cancelRefused hrefused =>
    intro session hsession hallowed
    rw [hrefused session hsession] at hallowed
    cases hallowed
  | canceled hsession hallowed =>
    intro session hsession' _
    refine not_undecided_of_lifecycle hrequests ht (fun _ _ hget _ => hget) fun own _ hwaiting => ?_
    simp [Waiting, slot, cancelBySender, setStatus] at hwaiting
  | closeSession =>
    exact not_undecided_of_lifecycle hrequests ht (fun _ _ hget _ => hget) fun _ _ hwaiting => by
      simp [Waiting, slot, ReceiveServer.closeSession] at hwaiting
  | cancelSession =>
    exact not_undecided_of_lifecycle hrequests ht (fun _ _ hget _ => hget) fun _ _ hwaiting => by
      simp [Waiting, slot, ReceiveServer.closeSession] at hwaiting
  | uploadRefused => trivial
  | uploadBegan => trivial
  | saved => trivial
  | saveFailed => trivial
  | recorded => trivial
  | recordFailed => trivial
  | delayedClosed =>
    exact not_undecided_of_lifecycle hrequests ht (fun _ _ hget _ => hget) fun _ _ hwaiting => by
      simp [Waiting, slot, ReceiveServer.closeSession] at hwaiting
  | delayedNothing hget hsession =>
    rintro ⟨q, hq, hphase⟩
    obtain ⟨own, -, hwaiting⟩ := hrequests.waiting q hq hphase
    rw [Waiting, slot_eq_none.mpr hsession] at hwaiting
    cases hwaiting

end ReceiveServer

/-! ### All runs -/

/-- **The session lives as it should, and its request is answered once, exactly in the
runs that nothing disturbs.** -/
theorem lifecycle_iff (config : ReceiveConfig) (events : List ReceiveEvent) :
    (receiveServer config).Along (ReceiveServer.Lifecycle config) (receiveServer config).init events ↔
      (receiveServer config).Meets ReceiveServer.Undisturbed (receiveServer config).init events := by
  refine Transition.System.along_iff_meets_of_invariant (I := fun s => s.Requests ∧ s.History)
    (fun s hs => ReceiveServer.lifecycle_of_invariant hs.1 hs.2) (fun s e t hs hst => ?_) ?_
  · have hm := ReceiveServer.moves_of_step hst
    exact ⟨ReceiveServer.invariant_of_moves hs.1 hs.2 hm, ReceiveServer.undisturbed_of_lifecycle hs.1 hs.2 hm⟩
  · exact ⟨⟨by simp [receiveServer], by simp [receiveServer]⟩,
      ⟨by simp [receiveServer, ReceiveServer.slot], by simp [receiveServer], by simp [receiveServer, ReceiveServer.slot],
        by simp [receiveServer, ReceiveServer.slot], by simp [receiveServer]⟩⟩

/-- The sender cancels while the user still decides. Whether the user then closes the
session, which leaves the request without an answer, or accepts its files, which has a
canceled session take files: nothing in between looks at the status. -/
theorem canceled_session_is_decided :
    (∃ t, (receiveServer {}).run (receiveServer {}).init
        [.prepareUpload "10.0.0.2" none, .bodyRead 0 (some {files := [⟨"a", "a.txt", none⟩]}), .directoriesResolved 0 false,
          .cancel true "10.0.0.2" none, .closeSession] = some t ∧
      t.session = none ∧ t.prepares.map Prepare.phase = [.deciding none] ∧ ¬ t.Lifecycle {}) ∧
    ∃ t, (receiveServer {}).run (receiveServer {}).init
        [.prepareUpload "10.0.0.2" none, .bodyRead 0 (some {files := [⟨"a", "a.txt", none⟩]}), .directoriesResolved 0 false,
          .cancel true "10.0.0.2" none, .acceptFileRequest [("a", "a.txt")], .goOn 0] = some t ∧
      t.changes.map StatusChange.after = [.canceledBySender, .sending] ∧ ¬ t.Lifecycle {} := by
  refine ⟨⟨_, rfl, rfl, by decide +kernel, fun hlife => ?_⟩, ⟨_, rfl, by decide +kernel, fun hlife => ?_⟩⟩
  · exact ReceiveServer.not_answers_of_deciding (p := ⟨"10.0.0.2", some 0, .deciding none⟩) rfl rfl
      (hlife.answers 0 ⟨"10.0.0.2", some 0, .deciding none⟩ 0 rfl rfl fun hwaiting => Option.some_ne_none _ (Eq.symm hwaiting))
  · exact hlife.settled 0 .sending rfl _ List.mem_cons_self rfl (by decide) (by decide)

end MagicShare.Receive
