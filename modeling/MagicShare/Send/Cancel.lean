import MagicShare.Receive.Drain
import MagicShare.Send.Session

/-! The sender cancels.

A cancel that knows the session id of the receiver is a request that has the session
there drain, whatever else is still on its way. A cancel that does not know it is not told
to anybody: a receiver that accepts the files, before or after, then takes files of a
sender that is gone. As long as that does not happen, both agree in the end (`cancel_agreement`). -/
namespace MagicShare.Send
open Receive

/-! ### The property and its condition -/

/-- The event has files accepted. -/
def accepts (s : ReceiveServer) : ReceiveEvent → Bool
  | .directoriesResolved h acceptAll =>
    match s.prepares[h]? with
    | some ⟨_, _, .resolvingDirectories dto⟩ => acceptAll && dto.message.isNone
    | _ => false
  | .goOn h =>
    match s.prepares[h]? with
    | some ⟨_, _, .deciding (some (some (_ :: _)))⟩ => s.session.isSome
    | _ => false
  | _ => false

/-- The handler of the request has finished. -/
def isAnswered : PreparePhase → Bool
  | .answered _ _ => true
  | _ => false

namespace Transfer

/-- No cancel is on its way, and the handlers of the receiver have finished. -/
structure Settled (s : Transfer) : Prop where
  cancels : s.cancels = []
  prepares : ∀ p ∈ s.receiver.prepares, isAnswered p.phase = true
  uploads : ∀ upload ∈ s.receiver.uploads, upload.phase.rank = 0

/-- Once the sender has canceled and all is settled, the receiver does not wait for it. -/
def Agreed (s : Transfer) : Prop :=
  s.canceled.isSome → s.Settled → ∀ session, s.receiver.session = some session →
    session.status ∉ [SessionStatus.waiting, .sending]

/-- The user cancels while the receiver has not accepted files that the sender has not
been told of, and the receiver accepts none after that. -/
def informed (s : Transfer) : SendEvent → Bool
  | .cancelSession =>
    match s.session.map SendSessionState.remoteSessionId, s.receiver.session with
    | some none, some session => session.status ∉ allowedStates
    | _, _ => true
  | .receiver e => !(s.canceled = some none && accepts s.receiver e)
  | _ => true

end Transfer

/-- The receiver has answered. -/
def Pipeline.Answered : Pipeline → Prop
  | .sendLoop _ | .ended => True
  | _ => False

namespace Transfer
variable {config : SendConfig} {s t : Transfer}

/-! ### The invariant -/

structure Agree (config : SendConfig) (s : Transfer) : Prop where
  prepared : s.receiver.Prepared config.ip
  slotted : s.receiver.Slotted config.ip
  owned : s.receiver.Owned
  own : s.receiver.OwnUploads
  /-- The one request that is not answered is the one the pipeline waits for, -/
  opened : ∀ (h : Nat) (p : Prepare), s.receiver.prepares[h]? = some p →
    (∀ response found, p.phase ≠ .answered response found) →
    ∃ pin, s.pipeline = .preparing pin (some h)
  /-- and only this one, or the last, has a session. -/
  single : ∀ (h : Nat) (p : Prepare) own, s.receiver.prepares[h]? = some p → p.sessionId = some own →
    (∃ pin, s.pipeline = .preparing pin (some h)) ∨ s.pipeline.Answered
  unique : ∀ a b, s.receiver.HasId a → s.receiver.HasId b → a = b
  known : ∀ session, s.session = some session → ∀ remote, session.remoteSessionId = some remote →
    s.pipeline.Answered ∧ s.receiver.HasId remote
  told : ∀ remote, s.canceled = some (some remote) → s.session = none ∧ s.pipeline.Answered ∧ s.receiver.HasId remote ∧
    (remote ∈ s.cancels ∨ s.receiver.Draining)
  cancels : ∀ remote ∈ s.cancels, s.canceled = some (some remote)
  untold : s.canceled = some none → ∀ session, s.receiver.session = some session → session.status ∉ allowedStates

theorem Agree.agreed (hagree : s.Agree config) : s.Agreed := by
  intro hcanceled hsettled session hsession hstatus
  have hwaiting : session.status ≠ .waiting := fun hwaits => by
    obtain ⟨p, hp, hphase⟩ := hagree.slotted.waiting session hsession hwaits
    have hanswered := hsettled.prepares p hp
    rcases hphase with hphase | ⟨decision, hphase⟩ <;>
    · rw [hphase] at hanswered
      cases hanswered
  have hsending : session.status = .sending := by simpa [hwaiting] using hstatus
  obtain ⟨remote, hremote⟩ := Option.isSome_iff_exists.mp hcanceled
  cases remote with
  | none => exact hagree.untold hremote session hsession (hsending ▸ by decide)
  | some remote =>
    obtain ⟨-, -, -, hin | hdraining⟩ := hagree.told remote hremote
    · rw [hsettled.cancels] at hin
      cases hin
    · exact hdraining.not_sending hsettled.uploads hsession hsending

/-- Nothing but the pipeline, the tasks and the status of the session changes. -/
theorem Agree.of_eq (hagree : s.Agree config) (hreceiver : t.receiver = s.receiver)
    (hpipeline : t.pipeline = s.pipeline ∨ s.pipeline.Answered ∧ t.pipeline.Answered) (hcanceled : t.canceled = s.canceled)
    (hcancels : t.cancels = s.cancels)
    (hsession : ∀ session, t.session = some session → ∃ before, s.session = some before ∧
      before.remoteSessionId = session.remoteSessionId) : t.Agree config := by
  have hanswered : s.pipeline.Answered → t.pipeline.Answered := by
    rcases hpipeline with hsame | ⟨-, hthen⟩
    · rw [hsame]
      exact id
    · exact fun _ => hthen
  have hpreparing : ∀ pin h, s.pipeline = .preparing pin (some h) → t.pipeline = .preparing pin (some h) := by
    intro pin h hphase
    rcases hpipeline with hsame | ⟨hwas, -⟩
    · exact hsame.trans hphase
    · rw [hphase] at hwas
      cases hwas
  have hgone : s.session = none → t.session = none := by
    intro hnone
    cases hthen : t.session with
    | none => rfl
    | some session =>
      obtain ⟨before, hbefore, -⟩ := hsession session hthen
      cases hnone.symm.trans hbefore
  refine ⟨hreceiver ▸ hagree.prepared, hreceiver ▸ hagree.slotted, hreceiver ▸ hagree.owned, hreceiver ▸ hagree.own,
    fun h p hget hopen => ?_, fun h p own hget hown => ?_, hreceiver ▸ hagree.unique, fun session hs remote hremote => ?_,
    fun remote hremote => ?_, ?_, ?_⟩
  · rw [hreceiver] at hget
    obtain ⟨pin, hphase⟩ := hagree.opened h p hget hopen
    exact ⟨pin, hpreparing pin h hphase⟩
  · rw [hreceiver] at hget
    rcases hagree.single h p own hget hown with ⟨pin, hphase⟩ | hphase
    · exact .inl ⟨pin, hpreparing pin h hphase⟩
    · exact .inr (hanswered hphase)
  · obtain ⟨before, hbefore, hsame⟩ := hsession session hs
    obtain ⟨hphase, hid⟩ := hagree.known before hbefore remote (hsame.trans hremote)
    exact ⟨hanswered hphase, hreceiver ▸ hid⟩
  · rw [hcanceled] at hremote
    obtain ⟨hnone, hphase, hid, hrest⟩ := hagree.told remote hremote
    rw [hreceiver, hcancels]
    exact ⟨hgone hnone, hanswered hphase, hid, hrest⟩
  · rw [hcancels, hcanceled]
    exact hagree.cancels
  · rw [hcanceled, hreceiver]
    exact hagree.untold

/-! ### The receiver -/

variable {receiver : ReceiveServer} {e : ReceiveEvent}

/-- Without an accepted decision the session takes no files. -/
theorem not_allowed_of_moves {config : ReceiveConfig} {s t : ReceiveServer}
    (hclosed : ∀ session, s.session = some session → session.status ∉ allowedStates)
    (hm : ReceiveServer.Moves config s e t) (haccepts : accepts s e = false) :
    ∀ session, t.session = some session → session.status ∉ allowedStates := by
  have hconcludes : s.Concludes t → ∀ session, t.session = some session → session.status ∉ allowedStates := by
    intro hconcludes session hsession
    have hslot := ReceiveServer.slot_of_session hsession
    rcases hconcludes.status with ⟨hsame, -⟩ | ⟨before, after, hbefore, hstatus, -⟩
    · rw [hsame] at hslot
      obtain ⟨before, hbefore, heq⟩ := Option.map_eq_some_iff.mp hslot
      rw [← (Prod.mk.inj heq).2]
      exact hclosed before hbefore
    · obtain ⟨found, hfound, heq⟩ := Option.map_eq_some_iff.mp hbefore
      rw [← (Prod.mk.inj heq).2] at hstatus
      exact absurd hstatus (hclosed found hfound)
  have hstatus : ∀ {session : ReceiveSession} {status : SessionStatus}, t.session = some {session with status} →
      status ∉ allowedStates → ∀ session, t.session = some session → session.status ∉ allowedStates := by
    intro session status hthen hnot found hfound
    obtain rfl := Option.some.inj (hthen.symm.trans hfound)
    exact hnot
  cases id hm with
  | blocked => exact hclosed
  | arrived => exact hclosed
  | refused => exact hclosed
  | bodyRead => exact hclosed
  | installed =>
    intro session hsession
    obtain rfl := Option.some.inj hsession
    simp [allowedStates]
  | accepted hget hmessage selected =>
    simp [accepts, hget, hmessage] at haccepts
  | wentOn hget hphase =>
    rename_i h ip own phase selection
    obtain ⟨-, ⟨hsession, -⟩ | ⟨session, selected, hsession, hselection, hselected, -⟩⟩ :=
      ReceiveServer.onDecision_spec config s h ⟨ip, some own, phase⟩ own selection
    · simp [hsession]
    · subst hselection
      rcases hphase with ⟨-, hempty⟩ | rfl
      · exact absurd (Option.some.inj hempty) hselected
      · cases selected with
        | nil => exact absurd rfl hselected
        | cons entry rest => simp [accepts, hget, hsession] at haccepts
  | permitted => exact hclosed
  | acceptFileRequest | declineFileRequest =>
    rcases ReceiveServer.respond_spec (s := s) _ with hsame | ⟨h, p, hget, hphase, hset⟩
    · rw [hsame]
      exact hclosed
    · rw [hset]
      exact hclosed
  | cancelRefused => exact hclosed
  | canceled => exact hstatus rfl (by decide)
  | closeSession => simp [ReceiveServer.closeSession]
  | cancelSession => simp [ReceiveServer.closeSession]
  | uploadRefused => exact hclosed
  | uploadBegan hcheck =>
    obtain ⟨hsession, hallowed, -⟩ := ReceiveServer.checkUpload_ok hcheck
    exact absurd hallowed (hclosed _ hsession)
  | saved => exact hconcludes ReceiveServer.concludes_finishUpload
  | saveFailed => exact hconcludes ReceiveServer.concludes_failUpload
  | recorded => exact hconcludes ReceiveServer.concludes_concludeUpload
  | recordFailed => exact hconcludes ReceiveServer.concludes_failUpload
  | delayedClosed => simp [ReceiveServer.closeSession]
  | delayedNothing => exact hclosed

/-- No request comes in. -/
def notPrepare : ReceiveEvent → Bool
  | .prepareUpload _ _ => false
  | _ => true

/-- A handler of the receiver goes on, or another request than a prepare-upload comes in. -/
theorem Agree.goesOn (hagree : s.Agree config) (hst : s.receiver.step config.receive e = some receiver)
    (he : notPrepare e = true) (hinformed : s.canceled = some none → accepts s.receiver e = false) :
    Agree config {s with receiver} := by
  have hm := ReceiveServer.moves_of_step hst
  have hown := ReceiveServer.ownUploads_of_step hagree.own hst
    (ReceiveServer.findOwn_of_single hagree.owned hagree.slotted hagree.unique hm)
  have hfrom : ReceiveServer.From config.ip e := by
    cases e with
    | prepareUpload => cases he
    | _ => trivial
  have hid : ∀ own, s.receiver.HasId own → receiver.HasId own := fun _ => ReceiveServer.hasId_of_moves hm
  -- the requests stay as they are, or the one that the pipeline waits for goes on
  have hprepares : receiver.prepares = s.receiver.prepares ∨ ∃ h q pin, s.pipeline = .preparing pin (some h) ∧
      receiver.prepares = s.receiver.prepares.set h q := by
    rcases ReceiveServer.prepares_of_moves hm with hsame | ⟨ip, pin, phase, rfl, -⟩ | ⟨h, p, q, hget, hopen, hset, -⟩
    · exact .inl hsame
    · cases he
    · obtain ⟨pin, hphase⟩ := hagree.opened h p hget hopen
      exact .inr ⟨h, q, pin, hphase, hset⟩
  have hold : ∀ (i : Nat) (p : Prepare), receiver.prepares[i]? = some p →
      (∃ pin, s.pipeline = .preparing pin (some i)) ∨ s.receiver.prepares[i]? = some p := by
    intro i p hp
    rcases hprepares with hsame | ⟨h, q, pin, hphase, hset⟩
    · exact .inr (hsame ▸ hp)
    · rw [hset] at hp
      rcases Records.of_set hp with ⟨rfl, -⟩ | ⟨-, hbefore⟩
      · exact .inl ⟨pin, hphase⟩
      · exact .inr hbefore
  have hsingle : ∀ (h : Nat) (p : Prepare) own, receiver.prepares[h]? = some p → p.sessionId = some own →
      (∃ pin, s.pipeline = .preparing pin (some h)) ∨ s.pipeline.Answered := by
    intro h p own hp hown
    rcases hold h p hp with hphase | hbefore
    · exact .inl hphase
    · exact hagree.single h p own hbefore hown
  refine ⟨hagree.prepared.moves hm hfrom, hagree.slotted.moves hagree.prepared hm, hagree.owned.moves hagree.slotted hm,
    hown, fun h p hp hopen => ?_, hsingle, ?_, fun session hs remote hremote => ?_, fun remote hremote => ?_, hagree.cancels,
    fun huntold => not_allowed_of_moves (hagree.untold huntold) hm (hinformed huntold)⟩
  · rcases hold h p hp with hphase | hbefore
    · exact hphase
    · exact hagree.opened h p hbefore hopen
  · rintro a b ⟨p, hp, ha⟩ ⟨q, hq, hb⟩
    rcases hprepares with hsame | ⟨h, r, pin, hphase, -⟩
    · rw [hsame] at hp hq
      exact hagree.unique a b ⟨p, hp, ha⟩ ⟨q, hq, hb⟩
    · -- both are the request the pipeline waits for
      obtain ⟨i, hi⟩ := List.mem_iff_getElem?.mp hp
      obtain ⟨j, hj⟩ := List.mem_iff_getElem?.mp hq
      have hindex : ∀ (k : Nat) (x : Prepare) own, receiver.prepares[k]? = some x → x.sessionId = some own → k = h := by
        intro k x own hx hown
        rcases hsingle k x own hx hown with ⟨pin', hphase'⟩ | hanswered
        · rw [hphase] at hphase'
          exact (Option.some.inj (Pipeline.preparing.inj hphase').2).symm
        · rw [hphase] at hanswered
          cases hanswered
      obtain rfl := hindex i p a hi ha
      obtain rfl := hindex j q b hj hb
      obtain rfl := Option.some.inj (hi.symm.trans hj)
      exact Option.some.inj (ha.symm.trans hb)
  · exact (hagree.known session hs remote hremote).imp_right (hid remote)
  · obtain ⟨hnone, hphase, hremoteId, hrest⟩ := hagree.told remote hremote
    refine ⟨hnone, hphase, hid remote hremoteId, hrest.imp_right fun hdraining => ?_⟩
    refine hdraining.moves (fun p hp => ?_) (fun u upload hget hrank session hsession => ?_) hm
    · by_contra hopen
      obtain ⟨h, hget⟩ := List.mem_iff_getElem?.mp hp
      obtain ⟨pin, hpreparing⟩ := hagree.opened h p hget fun response found hanswered => hopen ⟨response, found, hanswered⟩
      rw [hpreparing] at hphase
      cases hphase
    · have hmem := List.mem_of_getElem? hget
      obtain ⟨own, howner⟩ := Option.isSome_iff_exists.mp (hagree.owned.pending upload hmem hrank)
      have hsame := hagree.unique own session.sessionId (hagree.owned.uploads upload hmem own howner)
        (hagree.slotted.slot session hsession).2
      exact hagree.own.files upload hmem hrank session hsession (howner.trans (congrArg some hsame))

/-! ### The pipeline -/

/-- No request of a session, before the pipeline waits for one. -/
theorem Agree.no_id (hagree : s.Agree config) (hnot : ¬ s.pipeline.Answered)
    (hpreparing : ∀ pin h, s.pipeline ≠ .preparing pin (some h)) {own : Nat} : ¬ s.receiver.HasId own := by
  rintro ⟨p, hp, hown⟩
  obtain ⟨h, hget⟩ := List.mem_iff_getElem?.mp hp
  rcases hagree.single h p own hget hown with ⟨pin, hphase⟩ | hphase
  · exact hpreparing pin h hphase
  · exact hnot hphase

/-- The pipeline goes on before any request has a session. -/
theorem Agree.of_unanswered (hagree : s.Agree config) (hnot : ¬ s.pipeline.Answered)
    (hpreparing : ∀ pin h, s.pipeline ≠ .preparing pin (some h)) (hreceiver : t.receiver = s.receiver)
    (hcanceled : t.canceled = s.canceled ∨ t.canceled = some none) (hcancels : t.cancels = s.cancels)
    (hsession : ∀ session, t.session = some session → session.remoteSessionId = none ∨ s.session = some session) :
    t.Agree config := by
  refine ⟨hreceiver ▸ hagree.prepared, hreceiver ▸ hagree.slotted, hreceiver ▸ hagree.owned, hreceiver ▸ hagree.own,
    fun h p hget hopen => ?_, fun h p own hget hown => ?_, hreceiver ▸ hagree.unique, fun session hs remote hremote => ?_,
    fun remote hremote => ?_, ?_, ?_⟩
  · obtain ⟨pin, hphase⟩ := hagree.opened h p (hreceiver ▸ hget) hopen
    exact absurd hphase (hpreparing pin h)
  · have hid : s.receiver.HasId own := ⟨p, List.mem_of_getElem? (hreceiver ▸ hget), hown⟩
    exact absurd hid (hagree.no_id hnot hpreparing)
  · rcases hsession session hs with hnone | hbefore
    · rw [hnone] at hremote
      cases hremote
    · exact absurd (hagree.known session hbefore remote hremote).1 hnot
  · rcases hcanceled with hsame | hnone
    · exact absurd (hagree.told remote (hsame ▸ hremote)).2.1 hnot
    · cases hnone.symm.trans hremote
  · intro remote hmem
    exact absurd (hagree.told remote (hagree.cancels remote (hcancels ▸ hmem))).2.1 hnot
  · intro _ session hsession
    rw [hreceiver] at hsession
    exact absurd (hagree.slotted.slot session hsession).2 (hagree.no_id hnot hpreparing)

/-- The request of the pipeline becomes a handler. -/
theorem Agree.prepareArrives (hagree : s.Agree config) {pin : Option String} {receiver : ReceiveServer}
    (hpipeline : s.pipeline = .preparing pin none)
    (hst : s.receiver.step config.receive (.prepareUpload config.ip pin) = some receiver) :
    Agree config {s with receiver, pipeline := .preparing pin (some s.receiver.prepares.length)} := by
  have hm := ReceiveServer.moves_of_step hst
  have hnot : ¬ s.pipeline.Answered := by simp [hpipeline, Pipeline.Answered]
  have hpreparing : ∀ pin h, s.pipeline ≠ .preparing pin (some h) := by simp [hpipeline]
  have hnoId : ∀ own, ¬ s.receiver.HasId own := fun _ => hagree.no_id hnot hpreparing
  have hfree : s.receiver.session = none := by
    cases hsession : s.receiver.session with
    | none => rfl
    | some session => exact absurd (hagree.slotted.slot session hsession).2 (hnoId _)
  have hthen : receiver.session = none ∧ ∃ phase, receiver.prepares = s.receiver.prepares ++ [⟨config.ip, none, phase⟩] := by
    cases hm with
    | blocked hsession =>
      rw [hfree] at hsession
      cases hsession
    | arrived => exact ⟨hfree, _, rfl⟩
  obtain ⟨hgone, phase, happend⟩ := hthen
  have hlast : ∀ (h : Nat) (p : Prepare), receiver.prepares[h]? = some p →
      s.receiver.prepares[h]? = some p ∨ h = s.receiver.prepares.length ∧ p = ⟨config.ip, none, phase⟩ := by
    intro h p hp
    exact Records.of_append (happend ▸ hp)
  have hid : ∀ own, ¬ receiver.HasId own := by
    rintro own ⟨p, hp, hown⟩
    obtain ⟨h, hget⟩ := List.mem_iff_getElem?.mp hp
    rcases hlast h p hget with hold | ⟨-, rfl⟩
    · exact hnoId own ⟨p, List.mem_of_getElem? hold, hown⟩
    · cases hown
  refine ⟨hagree.prepared.moves hm rfl, ReceiveServer.slotted_of_free hgone, hagree.owned.moves hagree.slotted hm,
    ReceiveServer.ownUploads_of_step hagree.own hst trivial, fun h p hp hopen => ?_, fun h p own hp hown => ?_,
    fun a _ ha => absurd ha (hid a), fun session hs remote hremote => ?_, fun remote hremote => ?_, hagree.cancels,
    fun _ session hsession => ?_⟩
  · rcases hlast h p hp with hold | ⟨rfl, -⟩
    · obtain ⟨pin', hphase⟩ := hagree.opened h p hold hopen
      exact absurd hphase (hpreparing pin' h)
    · exact ⟨pin, rfl⟩
  · exact absurd ⟨p, List.mem_of_getElem? hp, hown⟩ (hid own)
  · exact absurd (hagree.known session hs remote hremote).1 hnot
  · exact absurd (hagree.told remote hremote).2.1 hnot
  · rw [hgone] at hsession
    cases hsession

/-- What the pipeline makes of an answer. -/
structure OnPrepared (response : Response) (s t : Transfer) : Prop where
  receiver : t.receiver = s.receiver
  canceled : t.canceled = s.canceled
  cancels : t.cancels = s.cancels
  pipeline : t.pipeline.Answered ∨ response.code = 401
  session : ∀ session, t.session = some session → ∃ before, s.session = some before ∧
    (session.remoteSessionId = before.remoteSessionId ∨
      ∃ granted, response.grant = some granted ∧ session.remoteSessionId = some granted.sessionId)

theorem onPrepared_status {response : Response} {s : Transfer} (status : SessionStatus) :
    OnPrepared response s {s.setStatus status with pipeline := .ended} := by
  refine ⟨rfl, rfl, rfl, .inl trivial, fun session hsession => ?_⟩
  obtain ⟨before, hbefore, rfl⟩ := Option.map_eq_some_iff.mp hsession
  exact ⟨before, hbefore, .inl rfl⟩

theorem onPrepared_spec (s : Transfer) (response : Response) : OnPrepared response s (s.onPrepared response) := by
  simp only [onPrepared]
  split
  · next granted _ hgrant =>
    split
    · exact ⟨rfl, rfl, rfl, .inl trivial, fun session hsession => by cases hsession⟩
    · refine ⟨rfl, rfl, rfl, .inl trivial, fun session hsession => ?_⟩
      obtain ⟨middle, hmiddle, rfl⟩ := Option.map_eq_some_iff.mp hsession
      obtain ⟨before, hbefore, rfl⟩ := Option.map_eq_some_iff.mp hmiddle
      exact ⟨before, hbefore, .inr ⟨granted, hgrant, rfl⟩⟩
  · exact ⟨rfl, rfl, rfl, .inl trivial, fun session hsession => by cases hsession⟩
  · next hcode => exact ⟨rfl, rfl, rfl, .inr hcode, fun session hsession => ⟨session, hsession, .inl rfl⟩⟩
  · exact onPrepared_status _
  · exact onPrepared_status _
  · exact onPrepared_status _
  · exact onPrepared_status _

/-- The answer reaches the pipeline. -/
theorem Agree.prepareAnswered (hagree : s.Agree config) {pin : Option String} {h : Nat} {ip : String} {own found : Option Nat}
    {response : Response} (hpipeline : s.pipeline = .preparing pin (some h))
    (hget : s.receiver.prepares[h]? = some ⟨ip, own, .answered response found⟩) :
    Agree config (s.onPrepared response) := by
  obtain ⟨hreceiver, hcanceled, hcancels, hphase, hsession⟩ := onPrepared_spec s response
  have hmem := List.mem_of_getElem? hget
  have hnot : ¬ s.pipeline.Answered := by simp [hpipeline, Pipeline.Answered]
  have hindex : ∀ {k pin'}, s.pipeline = .preparing pin' (some k) → k = h := fun hphase' => by
    rw [hpipeline] at hphase'
    exact (Option.some.inj (Pipeline.preparing.inj hphase').2).symm
  refine ⟨hreceiver ▸ hagree.prepared, hreceiver ▸ hagree.slotted, hreceiver ▸ hagree.owned, hreceiver ▸ hagree.own,
    fun k p hp hopen => ?_, fun k p own' hp hown => ?_, hreceiver ▸ hagree.unique, fun session hs remote hremote => ?_,
    fun remote hremote => ?_, ?_, ?_⟩
  · rw [hreceiver] at hp
    obtain ⟨pin', hphase'⟩ := hagree.opened k p hp hopen
    obtain rfl := hindex hphase'
    obtain rfl := Option.some.inj (hget.symm.trans hp)
    exact absurd rfl (hopen response found)
  · rw [hreceiver] at hp
    refine .inr (hphase.resolve_right fun hcode => ?_)
    rcases hagree.single k p own' hp hown with ⟨pin', hphase'⟩ | hanswered
    · obtain rfl := hindex hphase'
      obtain rfl := Option.some.inj (hget.symm.trans hp)
      rcases hagree.prepared.concluded _ hmem own' hown with hwrong | ⟨_, hwrong⟩ | hconcluded
      · cases hwrong
      · cases hwrong
      · exact hconcluded.1 hcode
    · exact hnot hanswered
  · obtain ⟨before, hbefore, hsame | ⟨granted, hgrant, hgranted⟩⟩ := hsession session hs
    · exact absurd (hagree.known before hbefore remote (hsame.symm.trans hremote)).1 hnot
    · obtain rfl := Option.some.inj (hgranted.symm.trans hremote)
      cases own with
      | none =>
        have hungranted : response.grant = none := hagree.prepared.ungranted _ hmem rfl
        cases hungranted.symm.trans hgrant
      | some own =>
        rcases hagree.prepared.concluded _ hmem own rfl with hwrong | ⟨_, hwrong⟩ | hconcluded
        · cases hwrong
        · cases hwrong
        · refine ⟨hphase.resolve_right hconcluded.1, ?_⟩
          rw [hreceiver, hconcluded.2 granted hgrant]
          exact ⟨_, hmem, rfl⟩
  · exact absurd (hagree.told remote (hcanceled ▸ hremote)).2.1 hnot
  · rw [hcancels, hcanceled]
    exact hagree.cancels
  · rw [hcanceled, hreceiver]
    exact hagree.untold

/-! ### Cancels -/

/-- The user cancels. -/
theorem Agree.cancelSession (hagree : s.Agree config) (hinformed : s.informed .cancelSession = true) :
    Agree config s.cancelSession := by
  simp only [Transfer.cancelSession]
  split
  · exact hagree
  · next session hsession =>
    have hfirst : ∀ remote, remote ∉ s.cancels := fun remote hmem => by
      cases hsession.symm.trans (hagree.told remote (hagree.cancels remote hmem)).1
    split
    · next hremote =>
      refine ⟨hagree.prepared, hagree.slotted, hagree.owned, hagree.own, hagree.opened, hagree.single, hagree.unique,
        by simp [Transfer.closeSession], by simp, fun remote hmem => absurd hmem (hfirst remote), fun _ found hfound => ?_⟩
      simpa [informed, hsession, hremote, show s.receiver.session = some found from hfound] using hinformed
    · next remote hremote =>
      obtain ⟨hanswered, hid⟩ := hagree.known session hsession remote hremote
      refine ⟨hagree.prepared, hagree.slotted, hagree.owned, hagree.own, hagree.opened, hagree.single, hagree.unique,
        by simp [Transfer.closeSession], fun other hother => ?_, fun other hmem => ?_, by simp⟩
      · obtain rfl := Option.some.inj (Option.some.inj hother)
        exact ⟨rfl, hanswered, hid, .inl (List.mem_append_right _ (List.mem_singleton_self _))⟩
      · rcases List.mem_append.mp hmem with hold | hnew
        · exact absurd hold (hfirst other)
        · obtain rfl := List.mem_singleton.mp hnew
          rfl

/-- The cancel reaches the receiver. -/
theorem Agree.cancelArrives (hagree : s.Agree config) {i remote : Nat} {receiver : ReceiveServer}
    (hget : s.cancels[i]? = some remote)
    (hst : s.receiver.step config.receive (.cancel true config.ip (some remote)) = some receiver) :
    Agree config {s with receiver, cancels := s.cancels.eraseIdx i} := by
  have hmem := List.mem_of_getElem? hget
  have hcanceled := hagree.cancels remote hmem
  obtain ⟨hnone, hanswered, hid, -⟩ := hagree.told remote hcanceled
  have hdraining : receiver.Draining := by
    refine ReceiveServer.draining_of_cancel hagree.slotted (fun session hsession => ?_) (ReceiveServer.moves_of_step hst)
    exact hagree.unique _ _ (hagree.slotted.slot session hsession).2 hid
  have hafter := hagree.goesOn hst rfl fun _ => rfl
  refine ⟨hafter.prepared, hafter.slotted, hafter.owned, hafter.own, hafter.opened, hafter.single, hafter.unique, hafter.known,
    fun other hother => ?_, fun other hother => hagree.cancels other (List.eraseIdx_subset hother), hafter.untold⟩
  obtain ⟨-, -, hotherId, -⟩ := hafter.told other hother
  exact ⟨hnone, hanswered, hotherId, .inr hdraining⟩

/-! ### One step -/

/-- Nothing changes but the session, and that not its remote id. -/
structure Quiet (s t : Transfer) : Prop where
  receiver : t.receiver = s.receiver
  canceled : t.canceled = s.canceled
  cancels : t.cancels = s.cancels
  pipeline : t.pipeline = s.pipeline
  session : ∀ session, t.session = some session → ∃ before, s.session = some before ∧
    before.remoteSessionId = session.remoteSessionId

theorem quiet_refl (s : Transfer) : Quiet s s := ⟨rfl, rfl, rfl, rfl, fun session hs => ⟨session, hs, rfl⟩⟩

theorem Quiet.trans {m : Transfer} (hsm : Quiet s m) (hmt : Quiet m t) : Quiet s t := by
  refine ⟨hmt.receiver.trans hsm.receiver, hmt.canceled.trans hsm.canceled, hmt.cancels.trans hsm.cancels,
    hmt.pipeline.trans hsm.pipeline, fun session hs => ?_⟩
  obtain ⟨middle, hmiddle, hsecond⟩ := hmt.session session hs
  obtain ⟨before, hbefore, hfirst⟩ := hsm.session middle hmiddle
  exact ⟨before, hbefore, hfirst.trans hsecond⟩

theorem quiet_updateSession (s : Transfer) {update : SendSessionState → SendSessionState}
    (hupdate : ∀ session, (update session).remoteSessionId = session.remoteSessionId) : Quiet s (s.updateSession update) := by
  refine ⟨rfl, rfl, rfl, rfl, fun session hs => ?_⟩
  obtain ⟨before, hbefore, rfl⟩ := Option.map_eq_some_iff.mp hs
  exact ⟨before, hbefore, (hupdate before).symm⟩

theorem quiet_closeSession (s : Transfer) : Quiet s s.closeSession := ⟨rfl, rfl, rfl, rfl, fun session hs => by cases hs⟩

theorem quiet_finish (s : Transfer) : Quiet s s.finish := by
  simp only [finish]
  split
  · exact quiet_refl s
  · split_ifs
    · exact quiet_closeSession s
    · exact quiet_updateSession s fun _ => rfl
    · exact quiet_updateSession s fun _ => rfl
    · exact quiet_refl s

theorem quiet_sendFile (s : Transfer) (config : SendConfig) (fileId : String) (file : SendingFile) (isRetry : Bool) :
    Quiet s (s.sendFile config fileId file isRetry) := by
  simp only [sendFile]
  split
  · next session _ hsession =>
    split
    · refine ⟨rfl, rfl, rfl, rfl, fun after hafter => ⟨session, hsession, ?_⟩⟩
      obtain rfl := Option.some.inj hafter
      cases isRetry <;> rfl
    · exact quiet_refl s
  · exact quiet_refl s

theorem quiet_fileSent (s : Transfer) (task : SendingTask) (success : Bool) : Quiet s (s.fileSent task success) := by
  have hmarked : Quiet s (s.updateSession fun session =>
      session.withFileStatus task.fileId (if success then .finished else .failed)) := quiet_updateSession s fun _ => rfl
  simp only [fileSent]
  split
  · split
    · exact hmarked.trans (quiet_finish _)
    · exact hmarked
  · exact hmarked

theorem quiet_cancelByReceiver (s : Transfer) (sessionId : Nat) : Quiet s (s.cancelByReceiver sessionId) := by
  simp only [cancelByReceiver]
  split
  · exact quiet_refl s
  · split
    · exact quiet_updateSession s fun _ => rfl
    · exact quiet_refl s

theorem Agree.quiet (hagree : s.Agree config) (hquiet : Quiet s t) : t.Agree config :=
  hagree.of_eq hquiet.receiver (.inl hquiet.pipeline) hquiet.canceled hquiet.cancels hquiet.session

/-- The tasks are the business of the sender alone. -/
theorem Agree.tasks (hagree : s.Agree config) (tasks : List SendingTask) (cancels : List Nat) :
    Agree config {s with sendingTasks := tasks, receiverCancels := cancels} :=
  hagree.of_eq rfl (.inl rfl) rfl rfl fun session hs => ⟨session, hs, rfl⟩

/-- A step of a run that is informed keeps the invariant. -/
theorem Agree.step {event : SendEvent} (hagree : s.Agree config) (hinformed : s.informed event = true)
    (hst : s.step config event = some t) : t.Agree config := by
  cases event with
  | startSession background files =>
    simp only [Transfer.step] at hst
    split_ifs at hst with hidle
    obtain rfl := Option.some.inj hst
    refine hagree.of_unanswered (by simp [hidle, Pipeline.Answered]) (by simp [hidle]) rfl (.inl rfl) rfl fun session hs => ?_
    obtain rfl := Option.some.inj hs
    exact .inl rfl
  | prepareArrives =>
    simp only [Transfer.step] at hst
    split at hst
    · next pin hpipeline =>
      obtain ⟨receiver, hreceiver, rfl⟩ := Option.map_eq_some_iff.mp hst
      exact hagree.prepareArrives hpipeline hreceiver
    · cases hst
  | prepareAnswered =>
    simp only [Transfer.step] at hst
    split at hst
    · next pin h hpipeline =>
      split at hst
      · next ip own response found hget =>
        obtain rfl := Option.some.inj hst
        exact hagree.prepareAnswered hpipeline hget
      · cases hst
    · cases hst
  | enterPin pin =>
    simp only [Transfer.step] at hst
    split at hst
    · next pin hpipeline =>
      obtain rfl := Option.some.inj hst
      exact hagree.of_unanswered (by simp [hpipeline, Pipeline.Answered]) (by simp [hpipeline]) rfl (.inl rfl) rfl
        fun session hs => .inr hs
    · next hpipeline =>
      obtain rfl := Option.some.inj hst
      have hnot : ¬ s.pipeline.Answered := by simp [hpipeline, Pipeline.Answered]
      refine hagree.of_unanswered hnot (by simp [hpipeline]) rfl (.inr rfl) rfl fun session hs => .inl ?_
      obtain ⟨before, hbefore, rfl⟩ := Option.map_eq_some_iff.mp hs
      cases hremote : before.remoteSessionId with
      | none => rfl
      | some remote => exact absurd (hagree.known before hbefore remote hremote).1 hnot
    · cases hst
  | takeFile =>
    simp only [Transfer.step] at hst
    split at hst
    · next fileId file queue hpipeline =>
      split_ifs at hst
      obtain rfl := Option.some.inj hst
      refine Agree.quiet ?_ (quiet_sendFile _ config fileId file false)
      exact hagree.of_eq rfl (.inr ⟨by simp [hpipeline, Pipeline.Answered], trivial⟩) rfl rfl fun session hs => ⟨session, hs, rfl⟩
    · cases hst
  | uploadArrives i =>
    simp only [Transfer.step] at hst
    split at hst
    · next fileId request isRetry hget =>
      obtain ⟨receiver, hreceiver, rfl⟩ := Option.map_eq_some_iff.mp hst
      exact (hagree.tasks _ _).goesOn hreceiver rfl fun _ => rfl
    · cases hst
  | uploadAnswered i =>
    simp only [Transfer.step] at hst
    split at hst
    · next fileId request isRetry u hget =>
      split at hst
      · obtain rfl := Option.some.inj hst
        exact (hagree.tasks _ _).quiet (quiet_fileSent _ _ _)
      · cases hst
    · cases hst
  | uploadAborted i =>
    simp only [Transfer.step] at hst
    split at hst
    · next task hget =>
      split_ifs at hst
      obtain rfl := Option.some.inj hst
      exact (hagree.tasks _ _).quiet (quiet_fileSent _ _ _)
    · cases hst
  | loopEnds =>
    simp only [Transfer.step] at hst
    split_ifs at hst with hends
    obtain rfl := Option.some.inj hst
    refine (hagree.quiet (quiet_finish s)).of_eq rfl (.inr ⟨?_, trivial⟩) rfl rfl fun session hs => ⟨session, hs, rfl⟩
    rw [(quiet_finish s).pipeline, hends.1]
    trivial
  | retryFile fileId =>
    simp only [Transfer.step] at hst
    split at hst
    · obtain rfl := Option.some.inj hst
      exact hagree.quiet (quiet_sendFile _ _ _ _ _)
    · cases hst
  | cancelSession =>
    obtain rfl := Option.some.inj hst
    exact hagree.cancelSession hinformed
  | closeSession =>
    obtain rfl := Option.some.inj hst
    exact hagree.quiet (quiet_closeSession s)
  | cancelArrives i =>
    simp only [Transfer.step] at hst
    split at hst
    · next remote hget =>
      obtain ⟨receiver, hreceiver, rfl⟩ := Option.map_eq_some_iff.mp hst
      exact hagree.cancelArrives hget hreceiver
    · cases hst
  | receiverCancelArrives i =>
    simp only [Transfer.step] at hst
    split at hst
    · obtain rfl := Option.some.inj hst
      exact (hagree.tasks _ _).quiet (quiet_cancelByReceiver _ _)
    · cases hst
  | receiver e =>
    simp only [Transfer.step] at hst
    split_ifs at hst with hlocal
    have he : notPrepare e = true := by
      cases e with
      | prepareUpload => cases hlocal
      | _ => rfl
    have haccepts : s.canceled = some none → accepts s.receiver e = false := by
      intro huntold
      simpa [informed, huntold] using hinformed
    split at hst
    · obtain ⟨receiver, hreceiver, rfl⟩ := Option.map_eq_some_iff.mp hst
      exact (hagree.tasks s.sendingTasks _).goesOn hreceiver he haccepts
    · obtain ⟨receiver, hreceiver, rfl⟩ := Option.map_eq_some_iff.mp hst
      exact hagree.goesOn hreceiver he haccepts

theorem agree_init (config : SendConfig) : Agree config {} where
  prepared := by constructor <;> simp
  slotted := ReceiveServer.slotted_of_free rfl
  owned := by constructor <;> simp
  own := by constructor <;> simp
  opened := by simp
  single := by simp
  unique := by simp [ReceiveServer.HasId]
  known := by simp
  told := by simp
  cancels := by simp
  untold := by simp

end Transfer

/-! ### All runs -/

/-- **The sender cancels, at any point: once all is settled, the receiver neither waits for
it nor takes files of it**, in every run in which the receiver accepts no files of a
sender that does not know of it when it cancels. -/
theorem cancel_agreement (config : SendConfig) (events : List SendEvent)
    (hinformed : (transfer config).Meets (fun s event => s.informed event = true) (transfer config).init events) :
    (transfer config).Along Transfer.Agreed (transfer config).init events :=
  Transition.System.along_of_meets (I := Transfer.Agree config) (fun _ _ _ hagree hc hst => hagree.step hc hst)
    (fun _ hagree => hagree.agreed) (Transfer.agree_init config) hinformed

/-- A file is accepted, and the sender cancels while its upload is on its way; the cancel
comes first. -/
def canceledWhileSending : List SendEvent :=
  [.startSession false [⟨"a", "a.txt", none⟩], .prepareArrives, .receiver (.bodyRead 0 (some {files := [⟨"a", "a.txt", none⟩]})),
    .receiver (.directoriesResolved 0 false), .receiver (.acceptFileRequest [("a", "a.txt")]), .receiver (.goOn 0),
    .prepareAnswered, .takeFile, .cancelSession, .cancelArrives 0, .uploadArrives 0]

theorem cancel_agreement_while_sending :
    ((transfer ⟨"10.0.0.2", 1, {}⟩).run (transfer ⟨"10.0.0.2", 1, {}⟩).init canceledWhileSending).isSome = true ∧
      (transfer ⟨"10.0.0.2", 1, {}⟩).Along Transfer.Agreed (transfer ⟨"10.0.0.2", 1, {}⟩).init canceledWhileSending :=
  ⟨by decide +kernel, cancel_agreement ⟨"10.0.0.2", 1, {}⟩ canceledWhileSending (by decide +kernel)⟩

/-- The sender cancels while the receiver decides. It is told nothing, accepts the file,
and takes files of a sender that is gone: nothing is on its way any more. -/
theorem canceled_sender_is_waited_for :
    ∃ t, (transfer ⟨"10.0.0.2", 1, {}⟩).run (transfer ⟨"10.0.0.2", 1, {}⟩).init
        [.startSession false [⟨"a", "a.txt", none⟩], .prepareArrives,
          .receiver (.bodyRead 0 (some {files := [⟨"a", "a.txt", none⟩]})), .receiver (.directoriesResolved 0 false),
          .cancelSession, .receiver (.acceptFileRequest [("a", "a.txt")]), .receiver (.goOn 0), .prepareAnswered, .takeFile,
          .loopEnds] = some t ∧
      t.pipeline = .ended ∧ t.sendingTasks = [] ∧ t.Settled ∧ t.receiver.session.map ReceiveSession.status = some .sending ∧
      ¬ t.Agreed := by
  refine ⟨_, rfl, rfl, rfl, ⟨rfl, by decide +kernel, by decide +kernel⟩, by decide +kernel, fun hagreed => ?_⟩
  exact hagreed rfl ⟨rfl, by decide +kernel, by decide +kernel⟩ _ rfl (by decide +kernel)

end MagicShare.Send
