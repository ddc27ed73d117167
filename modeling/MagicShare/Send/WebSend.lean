import MagicShare.Base.Records
import MagicShare.Base.Transition
import MagicShare.Receive.Session

/-! The web share (`send_controller.dart`).

A browser asks with prepare-download and is then served files under its session id, which
is its IP address. The request waits for the user's decision on a stream of its own; the
user finds that stream in the session. A second request of the same address puts its own
session there, and a new web share begins without sessions: the request before is then
never answered. As long as nothing of the two happens to a request that waits, the user's
decision is what each is answered, and what the address is served by (`web_send_authorised`). -/
namespace MagicShare.Send
open Receive (checkPin)

/-! ### State -/

structure WebSendSession where
  /-- The request whose stream controller it is; none once the session is active. -/
  responseHandler : Option Nat
  ip : String

/-- The sessions are by their session id, the attempts by address. -/
structure WebSendState where
  sessions : String → Option WebSendSession := fun _ => none
  files : List String
  autoAccept : Bool
  pin : Option String := none
  pinAttempts : String → Nat := fun _ => 0

structure DownloadResponse where
  code : Nat
  message : String := ""
  files : List String := []
  deriving DecidableEq

/-- The await a prepare-download handler is suspended at, with the state it has read. -/
inductive DownloadPhase where
  | checkingPin (state : WebSendState) (share : Nat)
  | waiting (state : WebSendState)
  | answered (response : DownloadResponse)
  /-- An exception has left the handler. -/
  | threw

namespace DownloadPhase

def isWaiting : DownloadPhase → Bool
  | .waiting _ => true
  | _ => false

def isAnswered : DownloadPhase → Bool
  | .answered _ => true
  | _ => false

end DownloadPhase

/-- A prepare-download request, with what has been put on its stream. -/
structure PrepareDownload where
  ip : String
  phase : DownloadPhase
  decision : Option Bool := none

structure WebShare where
  webSendState : Option WebSendState := none
  prepares : List PrepareDownload := []
  /-- The number of web shares so far. -/
  share : Nat := 0
  /-- Whether the last decision on the address in this web share is to accept. -/
  accepted : String → Bool := fun _ => false

inductive WebShareEvent where
  | initializeWebSend (files : List String) (autoAccept : Bool)
  /-- The server starts anew, without a web share. -/
  | restartServer
  | setWebSendPin (pin : Option String)
  | setWebSendAutoAccept (autoAccept : Bool)
  /-- A request, up to the await of `checkPin`. -/
  | prepareDownload (ip : String) (sessionId pin : Option String)
  /-- The handler goes on with the right pin. -/
  | pinChecked (request : Nat)
  /-- `_respondRequest`. -/
  | respondRequest (sessionId : String) (accepted : Bool)
  /-- The handler goes on with the decision. -/
  | goOn (request : Nat)

/-! ### Responses -/

def notInitialized : DownloadResponse := ⟨403, "Web send not initialized.", []⟩

def rejected : DownloadResponse := ⟨403, "File transfer rejected.", []⟩

def WebSendState.granted (state : WebSendState) : DownloadResponse := ⟨200, "", state.files⟩

/-- The session is active, and the address's own. -/
def WebSendState.permits (state : WebSendState) (sessionId ip : String) : Bool :=
  (state.sessions sessionId).any fun session => session.responseHandler.isNone && session.ip = ip

namespace WebShare

/-- The code a download request is answered. -/
def download (s : WebShare) (ip : String) (sessionId fileId : Option String) : Nat :=
  match sessionId with
  | none => 400
  | some sessionId =>
    if s.webSendState.any fun state => state.permits sessionId ip then
      match fileId with
      | none => 400
      | some fileId => if s.webSendState.any fun state => fileId ∈ state.files then 200 else 403
    else 403

/-! ### Steps -/

def setPrepare (s : WebShare) (request : Nat) (p : PrepareDownload) : WebShare :=
  {s with prepares := s.prepares.set request p}

/-- A new request, with the phase it gets to at once. -/
def arrive (s : WebShare) (ip : String) (phase : DownloadPhase) : WebShare :=
  {s with prepares := s.prepares ++ [⟨ip, phase, none⟩]}

def setSession (s : WebShare) (state : WebSendState) (sessionId : String) (session : Option WebSendSession) : WebShare :=
  {s with webSendState := some {state with sessions := Function.update state.sessions sessionId session}}

def prepareDownload (s : WebShare) (ip : String) (sessionId pin : Option String) : WebShare :=
  match s.webSendState with
  | none => s.arrive ip (.answered notInitialized)
  | some state =>
    if sessionId.any fun sessionId => state.permits sessionId ip then s.arrive ip (.answered state.granted)
    else
      let (refusal, attempts) := checkPin state.pin (state.pinAttempts ip) pin
      let state := {state with pinAttempts := Function.update state.pinAttempts ip attempts}
      let phase : DownloadPhase :=
        match refusal with
        | some response => .answered ⟨response.code, response.message, []⟩
        | none => .checkingPin state s.share
      {s.arrive ip phase with webSendState := some state}

/-- From the right pin to the decision; with auto accept to the answer. -/
def pinChecked (s : WebShare) (request : Nat) : Option WebShare :=
  match s.prepares[request]? with
  | some ⟨ip, .checkingPin captured share, decision⟩ =>
    match s.webSendState with
    | none => some (s.setPrepare request ⟨ip, .threw, decision⟩)
    | some state =>
      if captured.autoAccept then
        some {(s.setSession state ip (some ⟨none, ip⟩)).setPrepare request ⟨ip, .answered captured.granted, decision⟩ with
          accepted := if share = s.share then Function.update s.accepted ip true else s.accepted}
      else
        some ((s.setSession state ip (some ⟨some request, ip⟩)).setPrepare request ⟨ip, .waiting captured, decision⟩)
  | _ => none

/-- The user decides on a session, if a request of it waits and is not decided on. -/
def respondRequest (s : WebShare) (sessionId : String) (accepted : Bool) : WebShare :=
  match (s.webSendState.bind fun state => state.sessions sessionId).bind WebSendSession.responseHandler with
  | none => s
  | some request =>
    match s.prepares[request]? with
    | some ⟨ip, phase, none⟩ =>
      {s.setPrepare request ⟨ip, phase, some accepted⟩ with accepted := Function.update s.accepted ip accepted}
    | _ => s

def goOn (s : WebShare) (request : Nat) : Option WebShare :=
  match s.prepares[request]? with
  | some ⟨ip, .waiting captured, some accepted⟩ =>
    match s.webSendState with
    | none => some (s.setPrepare request ⟨ip, .threw, some accepted⟩)
    | some state =>
      if accepted then
        -- the session is updated, whichever it is, and there must be one
        match state.sessions ip with
        | none => some (s.setPrepare request ⟨ip, .threw, some accepted⟩)
        | some session =>
          some ((s.setSession state ip (some {session with responseHandler := none})).setPrepare request
            ⟨ip, .answered captured.granted, some accepted⟩)
      else
        some ((s.setSession state ip none).setPrepare request ⟨ip, .answered rejected, some accepted⟩)
  | _ => none

def step (s : WebShare) : WebShareEvent → Option WebShare
  | .initializeWebSend files autoAccept =>
    some {s with webSendState := some {files, autoAccept}, share := s.share + 1, accepted := fun _ => false}
  | .restartServer => some {s with webSendState := none, accepted := fun _ => false}
  | .setWebSendPin pin => some {s with webSendState := s.webSendState.map fun state => {state with pin := pin}}
  | .setWebSendAutoAccept autoAccept =>
    some {s with webSendState := s.webSendState.map fun state => {state with autoAccept := autoAccept}}
  | .prepareDownload ip sessionId pin => some (s.prepareDownload ip sessionId pin)
  | .pinChecked request => s.pinChecked request
  | .respondRequest sessionId accepted => some (s.respondRequest sessionId accepted)
  | .goOn request => s.goOn request

end WebShare

/-- A server that has just started. -/
def webShare : Transition.System WebShare WebShareEvent where
  init := {}
  step := WebShare.step

namespace WebShare

/-! ### The property and its condition -/

/-- An address is served while it is accepted, a request is answered by its decision, and
one that waits can be decided on until it is, and goes on then. -/
structure Authorised (s : WebShare) : Prop where
  served : ∀ ip sessionId fileId, s.download ip sessionId fileId = 200 → s.accepted ip = true
  told : ∀ p ∈ s.prepares, ∀ response accepted, p.phase = .answered response → p.decision = some accepted →
    response.code = (if accepted then 200 else 403)
  rejected : ∀ p ∈ s.prepares, p.phase = .answered rejected → p.decision = some false
  shown : ∀ h ip captured, s.prepares[h]? = some ⟨ip, .waiting captured, none⟩ →
    ∃ state, s.webSendState = some state ∧ (state.sessions ip).map WebSendSession.responseHandler = some (some h)
  goesOn : ∀ h ip captured accepted, s.prepares[h]? = some ⟨ip, .waiting captured, some accepted⟩ →
    ∃ t, s.step (.goOn h) = some t ∧
      t.prepares[h]? = some ⟨ip, .answered (if accepted then captured.granted else Send.rejected), some accepted⟩
  unbroken : ∀ p ∈ s.prepares, p.phase ≠ .threw

/-- An answer is the only one, and files are granted to an accepted address. -/
structure AnswersOnce (s : WebShare) (_ : WebShareEvent) (t : WebShare) : Prop where
  once : ∀ (h : Nat) (p : PrepareDownload), s.prepares[h]? = some p → p.phase.isAnswered = true → t.prepares[h]? = some p
  granted : ∀ (h : Nat) (p : PrepareDownload) response, t.prepares[h]? = some p → p.phase = .answered response → response.code = 200 →
    s.prepares[h]? = some p ∨ t.accepted p.ip = true

/-- No other request of the address waits when one comes to wait or is accepted, and
none is on its way when the web share begins anew or ends. -/
def Unhindered (s : WebShare) : WebShareEvent → Prop
  | .pinChecked h => ∀ p ∈ (s.prepares[h]?).toList, ∀ q ∈ s.prepares, q.ip = p.ip → q.phase.isWaiting = false
  | .initializeWebSend _ _ | .restartServer => ∀ q ∈ s.prepares, q.phase.isAnswered = true
  | _ => True

instance (s : WebShare) : (e : WebShareEvent) → Decidable (s.Unhindered e)
  | .pinChecked h => inferInstanceAs (Decidable (∀ p ∈ (s.prepares[h]?).toList, ∀ q ∈ s.prepares, _ → _))
  | .initializeWebSend _ _ | .restartServer => inferInstanceAs (Decidable (∀ q ∈ s.prepares, _))
  | .setWebSendPin _ | .setWebSendAutoAccept _ | .prepareDownload _ _ _ | .respondRequest _ _ | .goOn _ => .isTrue trivial

/-! ### The invariant -/

variable {s t : WebShare} {e : WebShareEvent}

def session? (s : WebShare) (sessionId : String) : Option WebSendSession :=
  s.webSendState.bind fun state => state.sessions sessionId

/-- Each request that waits has the session of its address, and each session that is not
active is that of a request that waits. -/
structure Kept (s : WebShare) : Prop where
  own : ∀ sessionId session, s.session? sessionId = some session → session.ip = sessionId
  handled : ∀ sessionId h ip, s.session? sessionId = some ⟨some h, ip⟩ →
    ∃ p, s.prepares[h]? = some p ∧ p.ip = sessionId ∧ p.phase.isWaiting = true
  waiting : ∀ (h : Nat) (p : PrepareDownload), s.prepares[h]? = some p → p.phase.isWaiting = true →
    s.session? p.ip = some ⟨some h, p.ip⟩
  active : ∀ sessionId ip, s.session? sessionId = some ⟨none, ip⟩ → s.accepted sessionId = true
  accepts : ∀ p ∈ s.prepares, p.phase.isWaiting = true → p.decision = some true → s.accepted p.ip = true
  checking : ∀ p ∈ s.prepares, ∀ captured share, p.phase = .checkingPin captured share →
    p.decision = none ∧ share = s.share ∧ s.webSendState.isSome = true
  told : ∀ p ∈ s.prepares, ∀ response accepted, p.phase = .answered response → p.decision = some accepted →
    response.code = (if accepted then 200 else 403)
  rejected : ∀ p ∈ s.prepares, p.phase = .answered rejected → p.decision = some false
  unbroken : ∀ p ∈ s.prepares, p.phase ≠ .threw

theorem session?_eq {state : WebSendState} (h : s.webSendState = some state) (sessionId : String) :
    s.session? sessionId = state.sessions sessionId := by
  simp [session?, h]

@[simp] theorem session?_setPrepare (s : WebShare) (h : Nat) (p : PrepareDownload) (sessionId : String) :
    (s.setPrepare h p).session? sessionId = s.session? sessionId := rfl

theorem session?_setSession (s : WebShare) (state : WebSendState) (ip : String) (session : Option WebSendSession)
    (sessionId : String) :
    (s.setSession state ip session).session? sessionId = if sessionId = ip then session else state.sessions sessionId := by
  simp [session?, setSession, Function.update_apply]

/-- The sessions and the requests are as they were. -/
theorem Kept.same (hk : s.Kept) (hsessions : ∀ sessionId, t.session? sessionId = s.session? sessionId)
    (hprepares : t.prepares = s.prepares) (hshare : t.share = s.share) (haccepted : t.accepted = s.accepted)
    (hstate : s.webSendState.isSome = true → t.webSendState.isSome = true) : t.Kept := by
  obtain ⟨hown, hhandled, hwaiting, hactive, haccepts, hchecking, htold, hrejected, hunbroken⟩ := hk
  refine ⟨?_, ?_, ?_, ?_, ?_, ?_, ?_, ?_, ?_⟩
  · simpa only [hsessions] using hown
  · simpa only [hsessions, hprepares] using hhandled
  · simpa only [hsessions, hprepares] using hwaiting
  · simpa only [hsessions, haccepted] using hactive
  · simpa only [hprepares, haccepted] using haccepts
  · intro p hp captured share hphase
    obtain ⟨hdecision, hcurrent, hsome⟩ := hchecking p (hprepares ▸ hp) captured share hphase
    exact ⟨hdecision, hcurrent.trans hshare.symm, hstate hsome⟩
  · simpa only [hprepares] using htold
  · simpa only [hprepares] using hrejected
  · simpa only [hprepares] using hunbroken

/-- No request is on its way, and there are no sessions. -/
theorem Kept.restart (hk : s.Kept) (hnone : ∀ sessionId, t.session? sessionId = none) (hprepares : t.prepares = s.prepares)
    (hanswered : ∀ p ∈ s.prepares, p.phase.isAnswered = true) : t.Kept := by
  have hover : ∀ p ∈ t.prepares, ∃ response, p.phase = .answered response := by
    intro p hp
    have hp' := hanswered p (hprepares ▸ hp)
    cases hphase : p.phase with
    | answered response => exact ⟨response, rfl⟩
    | checkingPin | waiting | threw =>
      rw [hphase] at hp'
      cases hp'
  refine ⟨fun sessionId session hs => ?_, fun sessionId h ip hs => ?_, fun h p hget hw => ?_, fun sessionId ip hs => ?_,
    fun p hp hw => ?_, fun p hp captured share hphase => ?_, hprepares ▸ hk.told, hprepares ▸ hk.rejected,
    hprepares ▸ hk.unbroken⟩
  · cases (hnone sessionId).symm.trans hs
  · cases (hnone sessionId).symm.trans hs
  · obtain ⟨response, hphase⟩ := hover p (List.mem_of_getElem? hget)
    rw [hphase] at hw
    cases hw
  · cases (hnone sessionId).symm.trans hs
  · obtain ⟨response, hphase⟩ := hover p hp
    rw [hphase] at hw
    cases hw
  · obtain ⟨response, hanswer⟩ := hover p hp
    cases hanswer.symm.trans hphase

theorem answersOnce_same (hprepares : t.prepares = s.prepares) : AnswersOnce s e t :=
  ⟨fun h p hget _ => hprepares ▸ hget, fun h p response hget _ _ => .inl (hprepares ▸ hget)⟩

/-- One that is not answered yet changes. -/
theorem answersOnce_set {h : Nat} {p q : PrepareDownload} (hget : s.prepares[h]? = some p) (hp : p.phase.isAnswered = false)
    (hset : t.prepares = s.prepares.set h q)
    (hgranted : ∀ response, q.phase = .answered response → response.code = 200 → t.accepted q.ip = true) :
    AnswersOnce s e t := by
  refine ⟨fun i r hr hanswered => ?_, fun i r response hr hanswer hcode => ?_⟩
  · have hne : h ≠ i := by
      rintro rfl
      obtain rfl := Option.some.inj (hget.symm.trans hr)
      rw [hp] at hanswered
      cases hanswered
    rw [hset, List.getElem?_set_ne hne, hr]
  · rw [hset] at hr
    rcases Records.of_set hr with ⟨-, rfl⟩ | ⟨-, hold⟩
    · exact .inr (hgranted response hanswer hcode)
    · exact .inl hold

/-! ### One step -/

/-- A request comes, answered at once or with its pin to be checked. -/
theorem Kept.arrives (hk : s.Kept) {ip : String} {phase : DownloadPhase}
    (hprepares : t.prepares = s.prepares ++ [⟨ip, phase, none⟩]) (hsessions : ∀ sessionId, t.session? sessionId = s.session? sessionId)
    (hshare : t.share = s.share) (haccepted : t.accepted = s.accepted)
    (hstate : s.webSendState.isSome = true → t.webSendState.isSome = true)
    (hphase : (∃ captured, phase = .checkingPin captured s.share ∧ s.webSendState.isSome = true) ∨
      ∃ response, phase = .answered response ∧ response ≠ Send.rejected ∧ (response.code = 200 → s.accepted ip = true)) :
    t.Kept ∧ AnswersOnce s e t := by
  have hnot : phase.isWaiting = false ∧ phase ≠ .threw ∧ phase ≠ .answered Send.rejected := by
    rcases hphase with ⟨captured, rfl, -⟩ | ⟨response, rfl, hne, -⟩
    · exact ⟨rfl, DownloadPhase.noConfusion, DownloadPhase.noConfusion⟩
    · exact ⟨rfl, DownloadPhase.noConfusion, fun heq => hne (DownloadPhase.answered.inj heq)⟩
  have hmem : ∀ p ∈ t.prepares, p ∈ s.prepares ∨ p = ⟨ip, phase, none⟩ := by
    intro p hp
    rw [hprepares] at hp
    exact (List.mem_append.mp hp).imp_right List.mem_singleton.mp
  have hold : ∀ {i : Nat} {p : PrepareDownload}, s.prepares[i]? = some p → t.prepares[i]? = some p := by
    intro i p hget
    rw [hprepares, Records.append hget]
  refine ⟨⟨?_, fun sessionId h ip' hs => ?_, fun i p hget hw => ?_, ?_, fun p hp hw hd => ?_,
    fun p hp captured share hc => ?_, fun p hp response accepted hanswer hd => ?_, fun p hp hanswer => ?_, fun p hp => ?_⟩,
    fun i p hget _ => hold hget, fun i p response hget hanswer hcode => ?_⟩
  · simpa only [hsessions] using hk.own
  · obtain ⟨p, hget, hip, hw⟩ := hk.handled sessionId h ip' ((hsessions sessionId).symm.trans hs)
    exact ⟨p, hold hget, hip, hw⟩
  · rw [hprepares] at hget
    rw [hsessions]
    rcases Records.of_append hget with hget | ⟨-, rfl⟩
    · exact hk.waiting i p hget hw
    · cases hnot.1.symm.trans hw
  · simpa only [hsessions, haccepted] using hk.active
  · rw [haccepted]
    rcases hmem p hp with hp | rfl
    · exact hk.accepts p hp hw hd
    · cases hd
  · rw [hshare]
    rcases hmem p hp with hp | rfl
    · obtain ⟨hd, hcurrent, hsome⟩ := hk.checking p hp captured share hc
      exact ⟨hd, hcurrent, hstate hsome⟩
    · rcases hphase with ⟨captured', heq, hsome⟩ | ⟨response, heq, -, -⟩
      · exact ⟨rfl, (DownloadPhase.checkingPin.inj (hc.symm.trans heq)).2, hstate hsome⟩
      · cases heq.symm.trans hc
  · rcases hmem p hp with hp | rfl
    · exact hk.told p hp response accepted hanswer hd
    · cases hd
  · rcases hmem p hp with hp | rfl
    · exact hk.rejected p hp hanswer
    · exact absurd hanswer hnot.2.2
  · rcases hmem p hp with hp | rfl
    · exact hk.unbroken p hp
    · exact hnot.2.1
  · rw [hprepares] at hget
    rcases Records.of_append hget with hget | ⟨-, rfl⟩
    · exact .inl hget
    · rcases hphase with ⟨captured', heq, hsome⟩ | ⟨response', heq, -, haccept⟩
      · cases heq.symm.trans hanswer
      · obtain rfl := DownloadPhase.answered.inj (heq.symm.trans hanswer)
        rw [haccepted]
        exact .inr (haccept hcode)

/-- An active session is that of an accepted address. -/
theorem Kept.permits (hk : s.Kept) {state : WebSendState} (hstate : s.webSendState = some state) {sessionId ip : String}
    (h : state.permits sessionId ip = true) : s.accepted ip = true := by
  simp only [WebSendState.permits, Option.any_eq_true, Bool.and_eq_true, decide_eq_true_eq, Option.isNone_iff_eq_none] at h
  obtain ⟨⟨handler, sessionIp⟩, hsession, hnone, hip⟩ := h
  obtain rfl : handler = none := hnone
  obtain rfl : sessionIp = ip := hip
  have hs := (session?_eq hstate sessionId).trans hsession
  obtain rfl : sessionIp = sessionId := hk.own sessionId _ hs
  exact hk.active sessionIp sessionIp hs

/-- A refusal of `checkPin` is neither a grant nor a rejection. -/
theorem checkPin_refusal {pin requestPin : Option String} {attempts : Nat} {response : Receive.Response}
    (h : (checkPin pin attempts requestPin).1 = some response) : response.code = 401 ∨ response.code = 429 := by
  cases pin with
  | none => cases h
  | some pin =>
    simp only [checkPin] at h
    split_ifs at h <;> obtain rfl := Option.some.inj h
    · exact .inr rfl
    · exact .inl rfl
    · exact .inr rfl
    · exact .inl rfl

theorem Kept.prepareDownload (hk : s.Kept) (ip : String) (sessionId pin : Option String) :
    (s.prepareDownload ip sessionId pin).Kept ∧ AnswersOnce s e (s.prepareDownload ip sessionId pin) := by
  cases hstate : s.webSendState with
  | none =>
    simp only [WebShare.prepareDownload, hstate]
    exact hk.arrives rfl (fun _ => rfl) rfl rfl id (.inr ⟨_, rfl, by decide, fun hcode => by cases hcode⟩)
  | some state =>
    simp only [WebShare.prepareDownload, hstate]
    split_ifs with hpermits
    · refine hk.arrives rfl (fun _ => rfl) rfl rfl id (.inr ⟨_, rfl, fun heq => ?_, fun _ => ?_⟩)
      · cases congrArg DownloadResponse.code heq
      · obtain ⟨own, -, hown⟩ := (Option.any_eq_true _ _).mp hpermits
        exact hk.permits hstate hown
    · refine hk.arrives rfl (fun sessionId => ?_) rfl rfl (fun _ => rfl) ?_
      · rw [session?_eq hstate]
        rfl
      · split
        · next response hrefused =>
          have hcode := checkPin_refusal hrefused
          refine .inr ⟨_, rfl, fun heq => ?_, fun hgranted => ?_⟩
          · have hrejected : response.code = 403 := congrArg DownloadResponse.code heq
            omega
          · have hok : response.code = 200 := hgranted
            omega
        · exact .inl ⟨_, rfl, by simp [hstate]⟩

/-- What a request is, and what its address has for a session, when it has gone on. -/
structure Gone (s : WebShare) (h : Nat) (q : PrepareDownload) (session : Option WebSendSession) : Prop where
  shows : session = none ∨ session = some ⟨some h, q.ip⟩ ∧ q.phase.isWaiting = true ∨
    session = some ⟨none, q.ip⟩ ∧ s.accepted q.ip = true
  waits : q.phase.isWaiting = true → session = some ⟨some h, q.ip⟩
  accepts : q.phase.isWaiting = true → q.decision = some true → s.accepted q.ip = true
  checked : ∀ captured share, q.phase ≠ .checkingPin captured share
  told : ∀ response accepted, q.phase = .answered response → q.decision = some accepted →
    response.code = (if accepted then 200 else 403)
  rejected : q.phase = .answered Send.rejected → q.decision = some false
  unbroken : q.phase ≠ .threw

theorem gone_answered {h : Nat} {ip : String} {response : DownloadResponse} {decision : Option Bool}
    {session : Option WebSendSession} (hshows : session = none ∨ session = some ⟨none, ip⟩ ∧ s.accepted ip = true)
    (htold : ∀ accepted, decision = some accepted → response.code = (if accepted then 200 else 403))
    (hrejected : response = Send.rejected → decision = some false) :
    Gone s h ⟨ip, .answered response, decision⟩ session where
  shows := hshows.imp_right .inr
  waits hw := by cases hw
  accepts hw := by cases hw
  checked _ _ := DownloadPhase.noConfusion
  told response' accepted heq hd := DownloadPhase.answered.inj heq ▸ htold accepted hd
  rejected heq := hrejected (DownloadPhase.answered.inj heq)
  unbroken := DownloadPhase.noConfusion

theorem gone_waiting {h : Nat} {ip : String} {captured : WebSendState} {decision : Option Bool}
    (haccepts : decision = some true → s.accepted ip = true) :
    Gone s h ⟨ip, .waiting captured, decision⟩ (some ⟨some h, ip⟩) where
  shows := .inr (.inl ⟨rfl, rfl⟩)
  waits _ := rfl
  accepts _ := haccepts
  checked _ _ := DownloadPhase.noConfusion
  told _ _ heq := by cases heq
  rejected heq := by cases heq
  unbroken := DownloadPhase.noConfusion

/-- A request goes on, and no other one of its address waits. -/
theorem Kept.goes (hk : s.Kept) {h : Nat} {p q : PrepareDownload} {session : Option WebSendSession}
    (hget : s.prepares[h]? = some p) (hprepares : t.prepares = s.prepares.set h q) (hip : q.ip = p.ip)
    (hsessions : ∀ sessionId, t.session? sessionId = if sessionId = q.ip then session else s.session? sessionId)
    (hshare : t.share = s.share) (hstate : t.webSendState.isSome = true)
    (haccepted : ∀ ip, ip ≠ q.ip → t.accepted ip = s.accepted ip)
    (halone : ∀ i r, s.prepares[i]? = some r → r.ip = q.ip → r.phase.isWaiting = true → i = h)
    (hq : Gone t h q session) : t.Kept := by
  have hset : ∀ {i : Nat} {r : PrepareDownload}, t.prepares[i]? = some r → i = h ∧ r = q ∨ i ≠ h ∧ s.prepares[i]? = some r := by
    exact fun hr => Records.of_set (hprepares ▸ hr)
  have hmem : ∀ r ∈ t.prepares, r = q ∨ r ∈ s.prepares := by
    intro r hr
    rw [hprepares] at hr
    exact (List.mem_or_eq_of_mem_set hr).symm
  have hself : t.prepares[h]? = some q := by rw [hprepares, Records.set_self hget]
  have hkept : ∀ {i : Nat} {r : PrepareDownload}, i ≠ h → s.prepares[i]? = some r → t.prepares[i]? = some r := by
    intro i r hne hr
    rw [hprepares, List.getElem?_set_ne (Ne.symm hne), hr]
  refine ⟨fun sessionId x hx => ?_, fun sessionId i ip hx => ?_, fun i r hr hw => ?_, fun sessionId ip hx => ?_,
    fun r hr hw hd => ?_, fun r hr captured share hphase => ?_, fun r hr => ?_, fun r hr => ?_, fun r hr => ?_⟩
  · rw [hsessions] at hx
    split_ifs at hx with hown
    · rcases hq.shows with hnone | ⟨hs, -⟩ | ⟨hs, -⟩
      · cases hnone.symm.trans hx
      · obtain rfl := Option.some.inj (hs.symm.trans hx)
        exact hown.symm
      · obtain rfl := Option.some.inj (hs.symm.trans hx)
        exact hown.symm
    · exact hk.own sessionId x hx
  · rw [hsessions] at hx
    split_ifs at hx with hown
    · rcases hq.shows with hnone | ⟨hs, hw⟩ | ⟨hs, -⟩
      · cases hnone.symm.trans hx
      · obtain rfl := Option.some.inj (WebSendSession.mk.inj (Option.some.inj (hs.symm.trans hx))).1
        exact ⟨q, hself, hown.symm, hw⟩
      · cases (WebSendSession.mk.inj (Option.some.inj (hs.symm.trans hx))).1
    · obtain ⟨r, hr, hrip, hw⟩ := hk.handled sessionId i ip hx
      refine ⟨r, hkept ?_ hr, hrip, hw⟩
      rintro rfl
      obtain rfl := Option.some.inj (hget.symm.trans hr)
      exact hown (hrip.symm.trans hip.symm)
  · rw [hsessions]
    rcases hset hr with ⟨rfl, rfl⟩ | ⟨hne, hold⟩
    · rw [if_pos rfl]
      exact hq.waits hw
    · have hother : r.ip ≠ q.ip := fun heq => hne (halone i r hold heq hw)
      rw [if_neg hother]
      exact hk.waiting i r hold hw
  · rw [hsessions] at hx
    split_ifs at hx with hown
    · rcases hq.shows with hnone | ⟨hs, -⟩ | ⟨-, haccept⟩
      · cases hnone.symm.trans hx
      · cases (WebSendSession.mk.inj (Option.some.inj (hs.symm.trans hx))).1
      · rw [hown]
        exact haccept
    · rw [haccepted sessionId hown]
      exact hk.active sessionId ip hx
  · obtain ⟨i, hi⟩ := List.getElem?_of_mem hr
    rcases hset hi with ⟨rfl, rfl⟩ | ⟨hne, hold⟩
    · exact hq.accepts hw hd
    · have hother : r.ip ≠ q.ip := fun heq => hne (halone i r hold heq hw)
      rw [haccepted r.ip hother]
      exact hk.accepts r (List.mem_of_getElem? hold) hw hd
  · rcases hmem r hr with rfl | hold
    · exact absurd hphase (hq.checked captured share)
    · obtain ⟨hd, hcurrent, -⟩ := hk.checking r hold captured share hphase
      exact ⟨hd, hcurrent.trans hshare.symm, hstate⟩
  · rcases hmem r hr with rfl | hold
    · exact hq.told
    · exact hk.told r hold
  · rcases hmem r hr with rfl | hold
    · exact hq.rejected
    · exact hk.rejected r hold
  · rcases hmem r hr with rfl | hold
    · exact hq.unbroken
    · exact hk.unbroken r hold

/-- A request whose pin was right is accepted at once, or comes to wait. -/
theorem Kept.pinChecked (hk : s.Kept) {h : Nat} (hc : s.Unhindered (.pinChecked h)) (hst : s.pinChecked h = some t) :
    t.Kept ∧ AnswersOnce s e t := by
  simp only [WebShare.pinChecked] at hst
  split at hst
  · next ip captured share decision hget =>
    obtain ⟨rfl, rfl, hsome⟩ := hk.checking _ (List.mem_of_getElem? hget) captured share rfl
    have halone : ∀ i r, s.prepares[i]? = some r → r.ip = ip → r.phase.isWaiting = true → i = h := by
      intro i r hr hrip hw
      have hnot := hc _ (Option.mem_toList.mpr hget) r (List.mem_of_getElem? hr) hrip
      cases hnot.symm.trans hw
    split at hst
    · next hnone => simp [hnone] at hsome
    · next state hstate =>
      have hsessions : ∀ session sessionId, (s.setSession state ip session).session? sessionId =
          if sessionId = ip then session else s.session? sessionId := by
        intro session sessionId
        rw [session?_setSession, session?_eq hstate]
      split at hst
      · obtain rfl := Option.some.inj hst
        have haccepted : (if s.share = s.share then Function.update s.accepted ip true else s.accepted) =
            Function.update s.accepted ip true := if_pos rfl
        have hown : Function.update s.accepted ip true ip = true := Function.update_self ..
        rw [haccepted]
        refine ⟨hk.goes hget rfl rfl (hsessions _) rfl rfl (fun other hne => Function.update_of_ne hne ..) halone
          (gone_answered (.inr ⟨rfl, hown⟩) (fun _ hd => ?_) fun heq => ?_), answersOnce_set hget rfl rfl fun _ _ _ => hown⟩
        · cases hd
        · cases congrArg DownloadResponse.code heq
      · obtain rfl := Option.some.inj hst
        refine ⟨hk.goes hget rfl rfl (hsessions _) rfl rfl (fun _ _ => rfl) halone (gone_waiting fun hd => ?_),
          answersOnce_set hget rfl rfl fun _ heq => ?_⟩
        · cases hd
        · cases heq
  · cases hst

/-- Only the one that waits with the session of its address does. -/
theorem Kept.waits_alone (hk : s.Kept) {h : Nat} {p : PrepareDownload} (hget : s.prepares[h]? = some p)
    (hp : p.phase.isWaiting = true) {i : Nat} {r : PrepareDownload} (hr : s.prepares[i]? = some r) (hip : r.ip = p.ip)
    (hw : r.phase.isWaiting = true) : i = h := by
  have hfirst := hk.waiting h p hget hp
  have hsecond := hk.waiting i r hr hw
  rw [hip] at hsecond
  exact Option.some.inj (WebSendSession.mk.inj (Option.some.inj (hsecond.symm.trans hfirst))).1

/-- The user decides on a request. -/
theorem Kept.respondRequest (hk : s.Kept) (sessionId : String) (accepted : Bool) :
    (s.respondRequest sessionId accepted).Kept ∧ AnswersOnce s e (s.respondRequest sessionId accepted) := by
  simp only [WebShare.respondRequest]
  split
  · exact ⟨hk, answersOnce_same rfl⟩
  · next h hhandler =>
    split
    · next ip phase hget =>
      obtain ⟨⟨handler, sessionIp⟩, hsession, hhandled⟩ := Option.bind_eq_some_iff.mp hhandler
      obtain rfl : handler = some h := hhandled
      obtain ⟨p, hp, hip, hw⟩ := hk.handled sessionId h sessionIp hsession
      obtain rfl := Option.some.inj (hget.symm.trans hp)
      have hown : s.session? ip = some ⟨some h, ip⟩ := hk.waiting h _ hget hw
      have hup : Function.update s.accepted ip accepted ip = accepted := Function.update_self ..
      obtain ⟨captured, rfl⟩ : ∃ captured, phase = .waiting captured := by
        cases phase with
        | waiting captured => exact ⟨captured, rfl⟩
        | checkingPin | answered | threw => cases hw
      have hstate : s.webSendState.isSome = true := by
        obtain ⟨state, hstate, -⟩ := Option.bind_eq_some_iff.mp hown
        simp [hstate]
      have hsessions : ∀ other, s.session? other = if other = ip then some ⟨some h, ip⟩ else s.session? other := by
        intro other
        split_ifs with hother
        · rw [hother, hown]
        · rfl
      refine ⟨hk.goes hget rfl rfl hsessions rfl hstate (fun other hne => Function.update_of_ne hne ..)
        (fun i r hr hrip hrw => hk.waits_alone hget hw hr hrip hrw) (gone_waiting fun hd => ?_),
        answersOnce_set hget rfl rfl fun response heq => ?_⟩
      · rw [Option.some.inj hd] at hup
        exact Option.some.inj hd ▸ hup
      · cases heq
    · exact ⟨hk, answersOnce_same rfl⟩

theorem Kept.goOn (hk : s.Kept) {h : Nat} (hst : s.goOn h = some t) : t.Kept ∧ AnswersOnce s e t := by
  simp only [WebShare.goOn] at hst
  split at hst
  · next ip captured accepted hget =>
    have hown : s.session? ip = some ⟨some h, ip⟩ := hk.waiting h _ hget rfl
    obtain ⟨state, hstate, hsession⟩ := Option.bind_eq_some_iff.mp hown
    have halone : ∀ i r, s.prepares[i]? = some r → r.ip = ip → r.phase.isWaiting = true → i = h :=
      fun i r hr hrip hrw => hk.waits_alone hget rfl hr hrip hrw
    have hsessions : ∀ session sessionId, (s.setSession state ip session).session? sessionId =
        if sessionId = ip then session else s.session? sessionId := by
      intro session sessionId
      rw [session?_setSession, session?_eq hstate]
    rw [hstate] at hst
    cases accepted with
    | true =>
      have haccepted : s.accepted ip = true := hk.accepts _ (List.mem_of_getElem? hget) rfl rfl
      simp only [if_true, hsession] at hst
      obtain rfl := Option.some.inj hst
      refine ⟨hk.goes hget rfl rfl (hsessions _) rfl rfl (fun _ _ => rfl) halone
        (gone_answered (.inr ⟨rfl, haccepted⟩) (fun accepted hd => ?_) fun heq => ?_),
        answersOnce_set hget rfl rfl fun _ _ _ => haccepted⟩
      · rw [← Option.some.inj hd]
        rfl
      · cases congrArg DownloadResponse.code heq
    | false =>
      simp only [Bool.false_eq_true, if_false] at hst
      obtain rfl := Option.some.inj hst
      refine ⟨hk.goes hget rfl rfl (hsessions _) rfl rfl (fun _ _ => rfl) halone
        (gone_answered (.inl rfl) (fun accepted hd => ?_) fun _ => rfl), answersOnce_set hget rfl rfl fun response heq hcode => ?_⟩
      · rw [← Option.some.inj hd]
        rfl
      · rw [← DownloadPhase.answered.inj heq] at hcode
        cases hcode
  · cases hst

/-- **One step.** -/
theorem Kept.step (hk : s.Kept) (hc : s.Unhindered e) (hst : s.step e = some t) : t.Kept ∧ AnswersOnce s e t := by
  cases e with
  | initializeWebSend files autoAccept =>
    obtain rfl := Option.some.inj hst
    exact ⟨hk.restart (fun _ => rfl) rfl hc, answersOnce_same rfl⟩
  | restartServer =>
    obtain rfl := Option.some.inj hst
    exact ⟨hk.restart (fun _ => rfl) rfl hc, answersOnce_same rfl⟩
  | setWebSendPin pin =>
    obtain rfl := Option.some.inj hst
    refine ⟨hk.same (fun sessionId => ?_) rfl rfl rfl fun hsome => ?_, answersOnce_same rfl⟩
    · cases hstate : s.webSendState <;> simp [session?, hstate]
    · simpa using hsome
  | setWebSendAutoAccept autoAccept =>
    obtain rfl := Option.some.inj hst
    refine ⟨hk.same (fun sessionId => ?_) rfl rfl rfl fun hsome => ?_, answersOnce_same rfl⟩
    · cases hstate : s.webSendState <;> simp [session?, hstate]
    · simpa using hsome
  | prepareDownload ip sessionId pin =>
    obtain rfl := Option.some.inj hst
    exact hk.prepareDownload ip sessionId pin
  | pinChecked h => exact hk.pinChecked hc hst
  | respondRequest sessionId accepted =>
    obtain rfl := Option.some.inj hst
    exact hk.respondRequest sessionId accepted
  | goOn h => exact hk.goOn hst

theorem Kept.authorised (hk : s.Kept) : s.Authorised := by
  refine ⟨fun ip sessionId fileId hcode => ?_, hk.told, hk.rejected, fun h ip captured hget => ?_,
    fun h ip captured accepted hget => ?_, hk.unbroken⟩
  · cases sessionId with
    | none => cases hcode
    | some sessionId =>
      simp only [download] at hcode
      split_ifs at hcode with hpermits
      · obtain ⟨state, hstate, hpermitted⟩ := (Option.any_eq_true _ _).mp hpermits
        exact hk.permits hstate hpermitted
      · cases hcode
  · obtain ⟨state, hstate, hsession⟩ := Option.bind_eq_some_iff.mp (hk.waiting h _ hget rfl)
    exact ⟨state, hstate, by simp [hsession]⟩
  · obtain ⟨state, hstate, hsession⟩ := Option.bind_eq_some_iff.mp (hk.waiting h _ hget rfl)
    cases accepted with
    | true =>
      have hstep : s.step (.goOn h) = some ((s.setSession state ip (some ⟨none, ip⟩)).setPrepare h
          ⟨ip, .answered captured.granted, some true⟩) := by
        simp only [WebShare.step, WebShare.goOn, hget, hstate, if_true, hsession]
      exact ⟨_, hstep, Records.set_self hget⟩
    | false =>
      have hstep : s.step (.goOn h) = some ((s.setSession state ip none).setPrepare h
          ⟨ip, .answered Send.rejected, some false⟩) := by
        simp only [WebShare.step, WebShare.goOn, hget, hstate, Bool.false_eq_true, if_false]
      exact ⟨_, hstep, Records.set_self hget⟩

theorem kept_init : webShare.init.Kept := by
  refine ⟨fun _ _ hs => ?_, fun _ _ _ hs => ?_, fun _ _ hget => ?_, fun _ _ hs => ?_, fun _ hp => ?_, fun _ hp => ?_,
    fun _ hp => ?_, fun _ hp => ?_, fun _ hp => ?_⟩
  · cases hs
  · cases hs
  · cases hget
  · cases hs
  all_goals cases hp

end WebShare

/-- **The web share serves those it has accepted, and answers everybody once.** In every
run in which no request comes to wait, or is accepted, while another one of its address
waits, and none is on its way when the web share begins anew or ends. -/
theorem web_send_authorised {events : List WebShareEvent} (hc : webShare.Meets WebShare.Unhindered webShare.init events) :
    webShare.Along WebShare.Authorised webShare.init events ∧ webShare.Steps WebShare.AnswersOnce webShare.init events :=
  ⟨Transition.System.along_of_meets (fun _ _ _ hk hc hst => (hk.step hc hst).1) (fun _ hk => hk.authorised)
      WebShare.kept_init hc,
    Transition.System.steps_of_meets (fun _ _ _ hk hc hst => hk.step hc hst) WebShare.kept_init hc⟩

namespace WebSend

/-- A file is shared, and a browser asks for it. -/
def asked : List WebShareEvent :=
  [.initializeWebSend ["file"] false, .prepareDownload "192.168.1.7" none none, .pinChecked 0]

/-- The user accepts; later another browser of the address is declined. -/
def decided : List WebShareEvent :=
  [.respondRequest "192.168.1.7" true, .goOn 0, .prepareDownload "192.168.1.7" none none, .pinChecked 1,
    .respondRequest "192.168.1.7" false, .goOn 1]

/-- The page is loaded again before the user has decided, and the user accepts. -/
def reloaded : List WebShareEvent :=
  [.prepareDownload "192.168.1.7" none none, .pinChecked 1, .respondRequest "192.168.1.7" true, .goOn 1]

end WebSend

/-- One request after the other. -/
theorem web_send_authorised_in_turn :
    webShare.Along WebShare.Authorised webShare.init (WebSend.asked ++ WebSend.decided) ∧
      webShare.Steps WebShare.AnswersOnce webShare.init (WebSend.asked ++ WebSend.decided) :=
  web_send_authorised (by decide +kernel)

/-- The first request waits for a decision that nobody can make any more. -/
theorem request_is_left_waiting :
    ∃ t, webShare.run webShare.init (WebSend.asked ++ WebSend.reloaded) = some t ∧
      t.prepares.map (fun p => (p.phase.isWaiting, p.decision)) = [(true, none), (false, some true)] ∧ ¬ t.Authorised := by
  refine ⟨_, rfl, rfl, fun hauthorised => ?_⟩
  obtain ⟨state, hstate, hshown⟩ := hauthorised.shown 0 "192.168.1.7" _ rfl
  obtain rfl := Option.some.inj hstate
  cases hshown

end MagicShare.Send
