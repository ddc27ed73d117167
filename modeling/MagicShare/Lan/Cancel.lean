import MagicShare.Base.Dict
import MagicShare.Nearby.Device
import MagicShare.Receive.Session

/-! The cancel route of the LAN server (`receive_controller.dart`, `send_provider.dart`).

A device that sends and one that receives are told of a cancel by the same request. The
handler looks at the receive session if there is one, and at the send sessions otherwise.
It answers 200 exactly if it has canceled a session, and 403 in all other cases, and then
nothing has changed. -/
namespace MagicShare.Lan
open Nearby (Device)
open Receive (SessionStatus)

/-! ### Data -/

structure ReceiveSession where
  sessionId : String
  status : SessionStatus
  sender : Device
  endTime : Option Nat
  deriving DecidableEq

structure SendingTask where
  isolateIndex : Nat
  taskId : Nat
  deriving DecidableEq

structure SendSession where
  /-- The id the receiver has given the session; none until it has answered. -/
  remoteSessionId : Option String
  status : SessionStatus
  target : Device
  endTime : Option Nat
  sendingTasks : List SendingTask
  deriving DecidableEq

/-- The send sessions are by their session id. -/
structure Sessions where
  receiving : Option ReceiveSession
  sending : List (String × SendSession)
  distinct : (Dict.keys sending).Nodup
  deriving DecidableEq

structure CancelRequest where
  ip : String
  sessionId : Option String

/-- The answer, the sessions then, and the uploads that are stopped. -/
structure CancelResult where
  code : Nat
  message : String := ""
  sessions : Sessions
  stopped : List SendingTask := []
  deriving DecidableEq

def ReceiveSession.canceled (session : ReceiveSession) (now : Nat) : ReceiveSession :=
  { session with status := .canceledBySender, endTime := some now }

def SendSession.canceled (session : SendSession) (now : Nat) : SendSession :=
  { session with status := .canceledByReceiver, endTime := some now }

def hasIp (device : Device) (ip : String) : Bool := device.httpEndpoints.any fun endpoint => endpoint.ip = ip

namespace Sessions
variable (σ : Sessions)

/-! ### The handler -/

def noPermission : CancelResult := { code := 403, message := "No permission", sessions := σ }

/-- `_cancelBySender`. -/
def cancelBySender (now : Nat) : Sessions :=
  { σ with receiving := σ.receiving.map fun session => session.canceled now }

def updateSession (sessionId : String) (session : SendSession) : Sessions :=
  { σ with sending := Dict.put σ.sending sessionId session, distinct := Dict.nodup_put σ.distinct sessionId session }

def cancelSessionByReceiver (sessionId : String) (now : Nat) : Sessions × List SendingTask :=
  match Dict.get σ.sending sessionId with
  | none => (σ, [])
  | some session => (σ.updateSession sessionId (session.canceled now), session.sendingTasks)

/-- The first send session with the id that the request carries. -/
def named (r : CancelRequest) : Option (String × SendSession) :=
  σ.sending.find? fun e => e.2.remoteSessionId = r.sessionId

/-- `_cancelHandler`. -/
def cancelHandler (v2 : Bool) (r : CancelRequest) (now : Nat) : CancelResult :=
  match σ.receiving with
  | some session =>
    -- no cancel of v1 for a session of v2
    if !v2 && session.sender.version ≠ "1.0" then σ.noPermission
    else if !hasIp session.sender r.ip then σ.noPermission
    -- the session id is not required in the waiting state
    else if v2 && session.status ≠ .waiting && r.sessionId ≠ some session.sessionId then σ.noPermission
    else if session.status ≠ .waiting && session.status ≠ .sending then σ.noPermission
    else { code := 200, sessions := σ.cancelBySender now }
  | none =>
    -- a request of v1 is taken to mean the only send session
    let selected := if v2 then σ.named r else match σ.sending with | [only] => some only | _ => none
    match selected with
    | none => σ.noPermission
    | some (sessionId, session) =>
      if !hasIp session.target r.ip then σ.noPermission
      else if session.status ≠ .sending then σ.noPermission
      else
        let (sessions, stopped) := σ.cancelSessionByReceiver sessionId now
        { code := 200, sessions, stopped }

/-! ### The property -/

/-- The request is one of the target of a send session that is being sent. -/
def CancelsSending (r : CancelRequest) : Prop :=
  ∃ e, σ.named r = some e ∧ hasIp e.2.target r.ip = true ∧ e.2.status = .sending

/-- The request is one of the sender of a receive session that is not over, and names it. -/
def CancelsReceiving (r : CancelRequest) (session : ReceiveSession) : Prop :=
  σ.receiving = some session ∧ hasIp session.sender r.ip = true ∧ session.status ∈ [SessionStatus.waiting, .sending] ∧
    r.sessionId = some session.sessionId

/-- As `CancelsReceiving`, in the waiting state also without the id. -/
def CancelsWaiting (r : CancelRequest) (session : ReceiveSession) : Prop :=
  σ.receiving = some session ∧ hasIp session.sender r.ip = true ∧ session.status = .waiting

/-- What a cancel request of v2 does: to the send session, if there is no receive session;
to the receive session; or nothing. -/
structure Canceled (r : CancelRequest) (now : Nat) (result : CancelResult) : Prop where
  sending : σ.receiving = none → ∀ sessionId session, σ.named r = some (sessionId, session) →
    hasIp session.target r.ip = true → session.status = .sending →
    result = { code := 200, sessions := σ.updateSession sessionId (session.canceled now), stopped := session.sendingTasks }
  receiving : ∀ session, σ.CancelsReceiving r session ∨ σ.CancelsWaiting r session ∧ ¬σ.CancelsSending r →
    result = { code := 200, sessions := { σ with receiving := some (session.canceled now) } }
  neither : ¬σ.CancelsSending r → (∀ session, ¬σ.CancelsReceiving r session) → (∀ session, ¬σ.CancelsWaiting r session) →
    result = σ.noPermission

/-- The request is one of the target of this send session, and names it while it is sending. -/
def NamesSending (r : CancelRequest) (session : SendSession) : Prop :=
  hasIp session.target r.ip = true ∧ r.sessionId = session.remoteSessionId ∧ session.status = .sending

/-- The request is one of the sender of this receive session, and names it. -/
def NamesReceiving (r : CancelRequest) (session : ReceiveSession) : Prop :=
  hasIp session.sender r.ip = true ∧ r.sessionId = some session.sessionId

/-- Every session is canceled that is named, and only that. -/
structure CanceledAsNamed (r : CancelRequest) (result : CancelResult) : Prop where
  sending : ∀ e ∈ σ.sending, NamesSending r e.2 →
    (Dict.get result.sessions.sending e.1).map SendSession.status = some .canceledByReceiver
  receiving : ∀ session, σ.receiving = some session → NamesReceiving r session →
    result.sessions.receiving.map ReceiveSession.status = some .canceledBySender
  neither : (∀ e ∈ σ.sending, ¬NamesSending r e.2) → (∀ session, σ.receiving = some session → ¬NamesReceiving r session) →
    result.sessions = σ

variable {σ : Sessions} (r : CancelRequest) (now : Nat)

/-- A session that a request of v2 finds stands under its id. -/
theorem get_of_named {r : CancelRequest} {sessionId : String} {session : SendSession} (h : σ.named r = some (sessionId, session)) :
    Dict.get σ.sending sessionId = some session := by
  obtain ⟨i, hi⟩ := List.mem_iff_getElem?.mp (List.mem_of_find?_eq_some h)
  exact Dict.get_of_getElem? σ.distinct hi

/-- Without a receive session the send session that is named is canceled, if it can be. -/
theorem cancelHandler_sending (h : σ.receiving = none) :
    σ.CancelsSending r ∧ (∃ sessionId session, σ.named r = some (sessionId, session) ∧
      σ.cancelHandler true r now =
        { code := 200, sessions := σ.updateSession sessionId (session.canceled now), stopped := session.sendingTasks }) ∨
    ¬σ.CancelsSending r ∧ σ.cancelHandler true r now = σ.noPermission := by
  cases hnamed : σ.named r with
  | none =>
    refine .inr ⟨?_, ?_⟩
    · rintro ⟨e, he, -⟩
      cases hnamed.symm.trans he
    · simp [cancelHandler, h, hnamed]
  | some e =>
    obtain ⟨sessionId, session⟩ := e
    have hcancels : σ.CancelsSending r ↔ hasIp session.target r.ip = true ∧ session.status = .sending := by
      simp [CancelsSending, hnamed]
    by_cases hip : hasIp session.target r.ip = true
    · by_cases hstatus : session.status = .sending
      · refine .inl ⟨hcancels.mpr ⟨hip, hstatus⟩, sessionId, session, rfl, ?_⟩
        simp [cancelHandler, h, hnamed, hip, hstatus, cancelSessionByReceiver, get_of_named hnamed]
      · refine .inr ⟨fun hc => hstatus (hcancels.mp hc).2, ?_⟩
        simp [cancelHandler, h, hnamed, hip, hstatus]
    · refine .inr ⟨fun hc => hip (hcancels.mp hc).1, ?_⟩
      simp [cancelHandler, h, hnamed, hip]

/-- A receive session is canceled by its sender, and nothing else happens. -/
theorem cancelHandler_receiving {session : ReceiveSession} (h : σ.receiving = some session) :
    (σ.CancelsReceiving r session ∨ σ.CancelsWaiting r session) ∧ σ.cancelHandler true r now =
      { code := 200, sessions := { σ with receiving := some (session.canceled now) } } ∨
    ¬(σ.CancelsReceiving r session ∨ σ.CancelsWaiting r session) ∧ σ.cancelHandler true r now = σ.noPermission := by
  have hafter : σ.cancelBySender now = { σ with receiving := some (session.canceled now) } := by simp [cancelBySender, h]
  by_cases hip : hasIp session.sender r.ip = true
  · by_cases hwaiting : session.status = .waiting
    · refine .inl ⟨.inr ⟨h, hip, hwaiting⟩, ?_⟩
      simp [cancelHandler, h, hip, hwaiting, hafter]
    · by_cases hid : r.sessionId = some session.sessionId
      · by_cases hsending : session.status = .sending
        · refine .inl ⟨.inl ⟨h, hip, by simp [hsending], hid⟩, ?_⟩
          simp [cancelHandler, h, hip, hsending, hid, hafter]
        · refine .inr ⟨?_, ?_⟩
          · rintro (⟨-, -, hstatus, -⟩ | ⟨-, -, hstatus⟩)
            · simp [hwaiting, hsending] at hstatus
            · exact hwaiting hstatus
          · simp [cancelHandler, h, hip, hwaiting, hsending, hid]
      · refine .inr ⟨?_, ?_⟩
        · rintro (⟨-, -, -, hnames⟩ | ⟨-, -, hstatus⟩)
          · exact hid hnames
          · exact hwaiting hstatus
        · simp [cancelHandler, h, hip, hwaiting, hid]
  · refine .inr ⟨?_, ?_⟩
    · rintro (⟨-, hfrom, -⟩ | ⟨-, hfrom, -⟩) <;> exact hip hfrom
    · simp [cancelHandler, h, hip]

/-- **Every cancel request of v2**: it reaches the send session it names while nothing is
received, the receive session it names or waits, or nothing. -/
theorem cancelHandler_canceled (σ : Sessions) (r : CancelRequest) (now : Nat) :
    σ.Canceled r now (σ.cancelHandler true r now) := by
  cases h : σ.receiving with
  | none =>
    refine ⟨fun _ sessionId session hnamed hip hstatus => ?_, fun session hsession => ?_, fun hsending _ _ => ?_⟩
    · obtain ⟨-, sessionId', session', hnamed', hresult⟩ | ⟨hnot, -⟩ := cancelHandler_sending r now h
      · obtain ⟨rfl, rfl⟩ := Prod.mk.inj (Option.some_inj.mp (hnamed'.symm.trans hnamed))
        exact hresult
      · exact absurd ⟨(sessionId, session), hnamed, hip, hstatus⟩ hnot
    · obtain ⟨hsome, -⟩ | ⟨⟨hsome, -⟩, -⟩ := hsession <;> cases h.symm.trans hsome
    · obtain ⟨hcancels, -⟩ | ⟨-, hresult⟩ := cancelHandler_sending r now h
      · exact absurd hcancels hsending
      · exact hresult
  | some session =>
    refine ⟨fun hnone => ?_, fun session' hsession => ?_, fun _ hreceiving hwaiting => ?_⟩
    · cases h.symm.trans hnone
    · obtain rfl : session = session' := by
        obtain ⟨hsome, -⟩ | ⟨⟨hsome, -⟩, -⟩ := hsession <;> exact Option.some_inj.mp (h.symm.trans hsome)
      obtain ⟨-, hresult⟩ | ⟨hnot, -⟩ := cancelHandler_receiving r now h
      · exact hresult
      · exact absurd (hsession.imp id And.left) hnot
    · obtain ⟨hcancels | hcancels, -⟩ | ⟨-, hresult⟩ := cancelHandler_receiving r now h
      · exact absurd hcancels (hreceiving session)
      · exact absurd hcancels (hwaiting session)
      · exact hresult

/-- A receive session of a device at 10.0.0.2, and nothing that is sent. -/
def receivingOnly (status : SessionStatus) : Sessions where
  receiving := some {
    sessionId := "r1"
    status
    sender := ⟨"2.1", "A", none, .mobile, false, [.http ⟨"10.0.0.2", 53317, true, "cert"⟩], []⟩
    endTime := none }
  sending := []
  distinct := List.nodup_nil

/-- A sender that still waits need not name the session; and one that names a finished session
does not cancel it. -/
theorem not_only_named : ¬(receivingOnly .waiting).CanceledAsNamed ⟨"10.0.0.2", none⟩
      ((receivingOnly .waiting).cancelHandler true ⟨"10.0.0.2", none⟩ 0) ∧
    ¬(receivingOnly .finished).CanceledAsNamed ⟨"10.0.0.2", some "r1"⟩
      ((receivingOnly .finished).cancelHandler true ⟨"10.0.0.2", some "r1"⟩ 0) := by
  refine ⟨fun h => ?_, fun h => ?_⟩
  · have hsame := h.neither (fun e he => (List.not_mem_nil he).elim) fun session hsession hnames => by
      cases hnames.2
    exact absurd hsame (by decide)
  · have hcanceled := h.receiving _ rfl ⟨by decide, rfl⟩
    exact absurd hcanceled (by decide)

/-! ### The receive server -/

/-- The receive server's own part of the route, for a sender with one address. -/
theorem cancelAllowed_iff (r : CancelRequest) (now : Nat) (v2 : Bool) (session : Receive.ReceiveSession) (id : Nat → String)
    (hid : Function.Injective id) (sessionId : Option Nat) (hsession : r.sessionId = sessionId.map id) (sender : Device)
    (hversion : sender.version = session.senderVersion) (hip : hasIp sender r.ip = (session.senderIp == r.ip)) :
    (cancelHandler ⟨some ⟨id session.sessionId, session.status, sender, none⟩, [], List.nodup_nil⟩ v2 r now).code = 200 ↔
      Receive.cancelAllowed session v2 r.ip sessionId = true := by
  have hnames : r.sessionId = some (id session.sessionId) ↔ sessionId = some session.sessionId := by
    rw [hsession]
    cases sessionId with
    | none => simp
    | some own => simp [hid.eq_iff]
  simp only [cancelHandler, Receive.cancelAllowed, hip, hversion, noPermission]
  split_ifs with hone hfrom hid' hstatus
  · simp_all
  · simp_all
  · simp_all
  · simp_all
  · -- no check refuses
    simp only [Bool.and_eq_true, Bool.not_eq_true', decide_eq_true_eq, not_and, not_not, hnames] at hone hfrom hid' hstatus
    cases v2 <;> by_cases hwaiting : session.status = .waiting <;> simp_all

end Sessions
end MagicShare.Lan
