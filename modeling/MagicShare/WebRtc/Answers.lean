import MagicShare.WebRtc.SignalingFlow

/-! When the answers reach the calls that wait for them.

A call of `send_offer` sends its offer first and registers the callback for the
answer after that, so an answer may find no callback, and is then forwarded to the
application only. Along every run in which no call is cancelled and the application
keeps its receiver, answers reach their calls exactly when each finds the call
waiting (`answers_kept_iff`). -/
namespace MagicShare.WebRtc
open Ws Documents

/-- No call is cancelled, and the application keeps its receiver. -/
def ClientEvent.Keeps : ClientEvent → Prop
  | .cancel _ | .appDrop => False
  | _ => True

instance : DecidablePred ClientEvent.Keeps := fun e =>
  match e with
  | .cancel _ | .appDrop => .isFalse id
  | .serve _ | .close | .read | .sendClient | .sendMessage | .connect | .startListener | .recv
  | .callback | .forward | .appRecv | .sendOffer _ | .onAnswer _ | .rxAnswer _ => .isTrue trivial

/-- The listener, the calls and the server in any order. -/
def answering : Transition.System Client ClientEvent where
  init := {}
  step s e := if e.Keeps then s.step e else none

namespace Client

/-- The messages the listener has looked for a callback for. -/
def dispatched (s : Client) : List WsServerMessage :=
  s.received ++ s.appQueue ++
    match s.listener with
    | .forwarding message => [message]
    | _ => []

/-- An answer that was dispatched is with the call whose offer it answers. -/
def Reached (s : Client) : Prop := ∀ sdp, .answer sdp ∈ s.dispatched →
  ∀ c ∈ s.calls, c.sessionId = sdp.sessionId → c.phase.sdp = some sdp.sdp

/-- What a call was given came for its own session id. -/
def Own (s : Client) : Prop := ∀ c ∈ s.calls, ∀ given, c.phase.sdp = some given →
  ∃ sdp, .answer sdp ∈ s.messages ∧ sdp.sessionId = c.sessionId ∧ sdp.sdp = given

/-- Answers are not lost: a dispatched one is with its call, a call is given an answer
of its own, and at rest every answer of the server has been received. -/
structure AnswersKept (s : Client) : Prop where
  reached : s.Reached
  own : s.Own
  received : s.Quiet → ∀ sdp, .answer sdp ∈ s.messages → ∀ c ∈ s.calls,
    c.sessionId = sdp.sessionId → c.phase = .received sdp.sdp

/-- An answer is dispatched when its call waits for it, or has been given the same. -/
def FindsCall (s : Client) (e : ClientEvent) : Prop := e = .callback →
  ∀ sdp, s.listener = .holding (.answer sdp) → ∀ c ∈ s.calls, c.sessionId = sdp.sessionId →
    c.phase = .waiting ∨ c.phase.sdp = some sdp.sdp

/-! ### What holds meanwhile -/

/-- A listener that lives, with its calls and all answers on their way. -/
structure Attending (s : Client) : Prop where
  sound : s.Sound
  registered : s.Registered
  alive : s.listener ≠ .panicked
  holds : s.appHolds = true
  uncancelled : ∀ c ∈ s.calls, c.phase ≠ .cancelled
  started : s.listener = .off → s.calls = []
  carries : s.Carries answerSdp
  own : s.Own

variable {s t : Client} {e : ClientEvent}

theorem moves_of_answering (h : answering.step s e = some t) : e.Keeps ∧ Moves s e t := by
  simp only [answering] at h
  split_ifs at h with he
  exact ⟨he, moves_of_step h⟩

theorem mem_filterMap_answerSdp {sdp : WsServerSdpMessage} {l : List WsServerMessage} :
    sdp ∈ l.filterMap answerSdp ↔ .answer sdp ∈ l := by
  rw [List.mem_filterMap]
  constructor
  · rintro ⟨message, hmem, hsdp⟩
    cases message with
    | answer sdp' =>
      obtain rfl := Option.some.inj hsdp
      exact hmem
    | _ => cases hsdp
  · intro hmem
    exact ⟨_, hmem, rfl⟩

/-- A call after a change of phase is another one, or the changed one. -/
theorem mem_setPhase {call : Nat} {phase : OfferPhase} {c : OfferCall}
    (h : c ∈ (s.setPhase call phase).calls) :
    (∃ i, i ≠ call ∧ s.calls[i]? = some c) ∨ ∃ c', s.calls[call]? = some c' ∧ c = {c' with phase} := by
  obtain ⟨i, hi⟩ := List.mem_iff_getElem?.mp h
  rw [getElem_setPhase, Option.map_eq_some_iff] at hi
  obtain ⟨c', hc', heq⟩ := hi
  split_ifs at heq with hcall
  · subst hcall
    exact .inr ⟨c', hc', heq.symm⟩
  · exact .inl ⟨i, Ne.symm hcall, heq ▸ hc'⟩

/-- An answer on its way comes from the server. -/
theorem Attending.served (h : s.Attending) {sdp : WsServerSdpMessage} (hmem : .answer sdp ∈ s.past ++ s.ahead) :
    .answer sdp ∈ s.messages := by
  have hcarries : (s.past ++ s.ahead).filterMap answerSdp = s.messages.filterMap answerSdp := h.carries
  rw [← mem_filterMap_answerSdp, ← hcarries]
  exact mem_filterMap_answerSdp.mpr hmem

/-- The callback found is that of a waiting call with the session id. -/
theorem Attending.found (h : s.Attending) {sessionId : String} {call : Nat}
    (hlookup : s.onAnswer.lookup sessionId = some call) : s.calls[call]? = some ⟨sessionId, .waiting⟩ := by
  obtain ⟨phase, hcall, rfl | rfl⟩ := h.registered.callback sessionId call hlookup
  · exact hcall
  · exact absurd rfl (h.uncancelled _ (List.mem_of_getElem? hcall))

theorem Attending.own_step (h : s.Attending) (hm : Moves s e t) : t.Own := by
  have hown := h.own
  cases hm with
  | serve frame hopen =>
    intro c hc given hgiven
    obtain ⟨sdp, hmem, hsdp⟩ := hown c hc given hgiven
    refine ⟨sdp, ?_, hsdp⟩
    simp only [messages, List.filterMap_append]
    exact List.mem_append_left _ hmem
  | calledBack hlistener hlookup hphase =>
    rename_i sdp call
    intro c hc given hgiven
    rcases mem_setPhase hc with ⟨i, -, hi⟩ | ⟨c', hc', rfl⟩
    · exact hown c (List.mem_of_getElem? hi) given hgiven
    · obtain rfl := Option.some.inj ((h.found hlookup).symm.trans hc')
      refine ⟨sdp, h.served ?_, rfl, Option.some.inj hgiven⟩
      simp [past, hlistener]
  | sendOffer hon hfresh =>
    intro c hc given hgiven
    rcases List.mem_append.mp hc with hold | hnew
    · exact hown c hold given hgiven
    · obtain rfl := List.mem_singleton.mp hnew
      cases hgiven
  | onAnswer hcall =>
    intro c hc given hgiven
    rcases mem_setPhase hc with ⟨i, -, hi⟩ | ⟨c', -, rfl⟩
    · exact hown c (List.mem_of_getElem? hi) given hgiven
    · cases hgiven
  | rxAnswer hcall =>
    intro c hc given hgiven
    rcases mem_setPhase hc with ⟨i, -, hi⟩ | ⟨c', hc', rfl⟩
    · exact hown c (List.mem_of_getElem? hi) given hgiven
    · obtain rfl := Option.some.inj (hcall.symm.trans hc')
      exact hown _ (List.mem_of_getElem? hcall) given hgiven
  | cancel hcall hpending =>
    intro c hc given hgiven
    rcases mem_setPhase hc with ⟨i, -, hi⟩ | ⟨c', -, rfl⟩
    · exact hown c (List.mem_of_getElem? hi) given hgiven
    · cases hgiven
  | _ => exact hown

theorem Attending.uncancelled_step (h : s.Attending) (he : e.Keeps) (hm : Moves s e t) :
    ∀ c ∈ t.calls, c.phase ≠ .cancelled := by
  have hcalls := h.uncancelled
  have hset : ∀ {call phase}, phase ≠ .cancelled →
      ∀ c ∈ (s.setPhase call phase).calls, c.phase ≠ OfferPhase.cancelled := by
    intro call phase hphase c hc
    rcases mem_setPhase hc with ⟨i, -, hi⟩ | ⟨c', -, rfl⟩
    · exact hcalls c (List.mem_of_getElem? hi)
    · exact hphase
  cases hm with
  | calledBack => exact hset (by simp)
  | onAnswer => exact hset (by simp)
  | rxAnswer => exact hset (by simp)
  | cancel => exact he.elim
  | sendOffer =>
    intro c hc
    rcases List.mem_append.mp hc with hold | hnew
    · exact hcalls c hold
    · obtain rfl := List.mem_singleton.mp hnew
      simp
  | _ => exact hcalls

theorem Attending.alive_step (h : s.Attending) (hm : Moves s e t) : t.listener ≠ .panicked := by
  have halive := h.alive
  cases hm with
  | callbackPanics hlistener hlookup hphase =>
    rw [h.found hlookup] at hphase
    exact absurd rfl hphase
  | forwardPanics hlistener hholds =>
    rw [h.holds] at hholds
    cases hholds
  | startListener | recv | recvEnd | unasked | calledBack | forwarded => simp
  | _ => exact halive

theorem Attending.step (h : s.Attending) (he : e.Keeps) (hm : Moves s e t) : t.Attending := by
  have halive := h.alive_step hm
  have hholds : t.appHolds = true := by
    have := h.holds
    cases hm with
    | appDrop => exact he.elim
    | _ => exact this
  refine ⟨h.sound.step hm, h.registered.step hm, halive, hholds, h.uncancelled_step he hm, ?_, ?_,
    h.own_step hm⟩
  · have := h.started
    cases hm with
    | sendOffer hon => exact fun hoff => absurd hoff hon
    | onAnswer hcall | rxAnswer hcall | cancel hcall =>
      intro hoff
      rw [this hoff] at hcall
      cases hcall
    | startListener | recv | recvEnd | unasked | calledBack | callbackPanics | forwarded | forwardPanics => simp
    | _ => exact this
  · exact h.carries.step h.sound hm hholds halive fun _ _ _ _ => rfl

/-! ### One step -/

theorem dispatched_subset_past {message : WsServerMessage} (h : message ∈ s.dispatched) : message ∈ s.past := by
  simp only [dispatched, List.mem_append] at h
  simp only [past, List.mem_append]
  rcases h with (hreceived | hqueue) | hhand
  · exact .inl hreceived
  · exact .inr (.inl hqueue)
  · split at hhand
    · next hl => exact .inr (.inr (.inl (by simpa [hl] using hhand)))
    · cases hhand

/-- Where neither the calls nor the dispatched messages change, answers stay with
their calls. -/
theorem Reached.of_eq (h : s.Reached) (hcalls : t.calls = s.calls)
    (hdispatched : ∀ message, message ∈ t.dispatched → message ∈ s.dispatched) : t.Reached :=
  fun sdp hmem c hc => h sdp (hdispatched _ hmem) c (hcalls ▸ hc)

/-- A call that changes its phase keeps its answers, if its new SDP is the old one. -/
theorem Reached.setPhase (h : s.Reached) {call : Nat} {c : OfferCall} (phase : OfferPhase)
    (hcall : s.calls[call]? = some c) (hsdp : c.phase.sdp = phase.sdp) : (s.setPhase call phase).Reached := by
  intro sdp hmem d hd hid
  rcases mem_setPhase hd with ⟨i, -, hi⟩ | ⟨c', hc', rfl⟩
  · exact h sdp hmem d (List.mem_of_getElem? hi) hid
  · obtain rfl := Option.some.inj (hcall.symm.trans hc')
    exact hsdp ▸ h sdp hmem c (List.mem_of_getElem? hcall) hid

/-- An answer without a callback: no call waits for it. -/
theorem Attending.reached_unasked (h : s.Attending) (hr : s.Reached) {message : WsServerMessage}
    (hlistener : s.listener = .holding message)
    (hnone : ∀ sdp, message = .answer sdp → s.onAnswer.lookup sdp.sessionId = none) :
    Reached {s with listener := .forwarding message} ↔ s.FindsCall .callback := by
  have hold : s.dispatched = s.received ++ s.appQueue := by simp [dispatched, hlistener]
  constructor
  · intro ht _ sdp heq c hc hid
    obtain rfl : message = .answer sdp := Listener.holding.inj (hlistener.symm.trans heq)
    exact .inr (ht sdp (by simp [dispatched]) c hc hid)
  · intro hfinds sdp hmem c hc hid
    have hmem' : .answer sdp ∈ s.dispatched ∨ .answer sdp = message := by
      rw [hold]
      simpa [dispatched, or_assoc] using hmem
    rcases hmem' with hmem' | rfl
    · exact hr sdp hmem' c hc hid
    · rcases hfinds rfl sdp hlistener c hc hid with hwaiting | hsdp
      · obtain ⟨i, hi⟩ := List.mem_iff_getElem?.mp hc
        have hback := h.registered.waiting i sdp.sessionId (by rw [hi, ← hid, ← hwaiting])
        rw [hnone sdp rfl] at hback
        cases hback
      · exact hsdp

/-- An answer with a callback: its call waits for it, and is given it. -/
theorem Attending.reached_calledBack (h : s.Attending) (hr : s.Reached) {sdp : WsServerSdpMessage} {call : Nat}
    (hlistener : s.listener = .holding (.answer sdp)) (hlookup : s.onAnswer.lookup sdp.sessionId = some call) :
    s.FindsCall .callback ∧
      Reached {s.setPhase call (.answered sdp.sdp) with
        onAnswer := s.onAnswer.erase sdp.sessionId
        listener := .forwarding (.answer sdp)} := by
  have hcall := h.found hlookup
  have hsame : ∀ {i c}, s.calls[i]? = some c → c.sessionId = sdp.sessionId → i = call :=
    fun hi hid => h.registered.unique _ _ _ _ hi hcall hid
  have hold : s.dispatched = s.received ++ s.appQueue := by simp [dispatched, hlistener]
  constructor
  · intro _ sdp' heq c hc hid
    obtain rfl : sdp = sdp' := WsServerMessage.answer.inj (Listener.holding.inj (hlistener.symm.trans heq))
    obtain ⟨i, hi⟩ := List.mem_iff_getElem?.mp hc
    obtain rfl := hsame hi hid
    obtain rfl := Option.some.inj (hcall.symm.trans hi)
    exact .inl rfl
  · intro sdp' hmem c hc hid
    have hmem' : .answer sdp' ∈ s.dispatched ∨ sdp' = sdp := by
      rw [hold]
      simpa [dispatched, setPhase, or_assoc] using hmem
    rcases mem_setPhase hc with ⟨i, hne, hi⟩ | ⟨c', hc', rfl⟩
    · rcases hmem' with hmem' | rfl
      · exact hr sdp' hmem' c (List.mem_of_getElem? hi) hid
      · exact absurd (hsame hi hid) hne
    · obtain rfl := Option.some.inj (hcall.symm.trans hc')
      rcases hmem' with hmem' | rfl
      · -- an earlier answer would have been given to the call
        have := hr sdp' hmem' _ (List.mem_of_getElem? hcall) hid
        cases this
      · rfl

/-- **One step keeps the answers with their calls** exactly when an answer that is
dispatched finds its call. -/
theorem Attending.reached_iff (h : s.Attending) (hr : s.Reached) (he : e.Keeps) (hm : Moves s e t) :
    t.Reached ↔ s.FindsCall e := by
  have hother : e ≠ .callback → t.Reached → (t.Reached ↔ s.FindsCall e) :=
    fun hne ht => iff_of_true ht fun heq => absurd heq hne
  cases hm with
  | unasked hlistener hnone => exact h.reached_unasked hr hlistener hnone
  | calledBack hlistener hlookup hphase =>
    obtain ⟨hfinds, ht⟩ := h.reached_calledBack hr hlistener hlookup
    exact iff_of_true ht hfinds
  | callbackPanics hlistener hlookup hphase =>
    rw [h.found hlookup] at hphase
    exact absurd rfl hphase
  | forwardPanics hlistener hholds =>
    rw [h.holds] at hholds
    cases hholds
  | appDrop | cancel => exact he.elim
  | sendOffer hon hfresh =>
    refine hother (by simp) fun sdp hmem c hc hid => ?_
    rcases List.mem_append.mp hc with hc | hnew
    · exact hr sdp hmem c hc hid
    · obtain rfl := List.mem_singleton.mp hnew
      have hserved := h.served (List.mem_append_left _ (dispatched_subset_past hmem))
      exact absurd hid.symm (hfresh.2 sdp (mem_filterMap_answerSdp.mpr hserved))
  | onAnswer hcall => exact hother (by simp) (hr.setPhase .waiting hcall rfl)
  | rxAnswer hcall => exact hother (by simp) (hr.setPhase (.received _) hcall rfl)
  | _ => exact hother (by simp) (hr.of_eq rfl (by simp_all [dispatched]))

/-- At rest every answer of the server has been received by its call. -/
theorem Attending.received (h : s.Attending) (hr : s.Reached) (hq : s.Quiet) {sdp : WsServerSdpMessage}
    (hmem : .answer sdp ∈ s.messages) {c : OfferCall} (hc : c ∈ s.calls) (hid : c.sessionId = sdp.sessionId) :
    c.phase = .received sdp.sdp := by
  have hon : s.listener ≠ .off := by
    intro hoff
    rw [h.started hoff] at hc
    cases hc
  obtain ⟨hpast, hahead⟩ := drained h.sound hq hon h.alive h.holds
  have hcarries : (s.past ++ s.ahead).filterMap answerSdp = s.messages.filterMap answerSdp := h.carries
  have hreceived : .answer sdp ∈ s.received := by
    rw [hpast, hahead, List.append_nil] at hcarries
    rw [← mem_filterMap_answerSdp, hcarries]
    exact mem_filterMap_answerSdp.mpr hmem
  have hsdp := hr sdp (by simp [dispatched, hreceived]) c hc hid
  cases hphase : c.phase with
  | received given =>
    rw [hphase] at hsdp
    rw [Option.some.inj hsdp]
  | answered given =>
    -- the call could still take it
    obtain ⟨i, hi⟩ := List.mem_iff_getElem?.mp hc
    have hi' : s.calls[i]? = some ⟨c.sessionId, .answered given⟩ := by rw [hi, ← hphase]
    have hstep := hq (.rxAnswer i) trivial
    simp [Client.step, hi'] at hstep
  | sent | waiting | cancelled =>
    rw [hphase] at hsdp
    cases hsdp

/-- What has been received stays so. -/
theorem received_stays (hm : Moves s e t) {call : Nat} {c : OfferCall} {given : String}
    (hc : s.calls[call]? = some c) (hgiven : c.phase = .received given) : t.calls[call]? = some c := by
  have hset : ∀ {i d phase}, s.calls[i]? = some d → d.phase ≠ .received given →
      (s.setPhase i phase).calls[call]? = some c := by
    intro i d phase hd hne
    have hi : i ≠ call := by
      rintro rfl
      exact hne (Option.some.inj (hd.symm.trans hc) ▸ hgiven)
    rw [getElem_setPhase, hc]
    simp [hi]
  cases hm with
  | calledBack hlistener hlookup hphase =>
    obtain ⟨d, hd, hwaiting⟩ := Option.map_eq_some_iff.mp hphase
    exact hset hd (by simp [hwaiting])
  | sendOffer =>
    exact Records.append hc
  | onAnswer hcall => exact hset hcall (by simp)
  | rxAnswer hcall => exact hset hcall (by simp)
  | cancel hcall hpending =>
    refine hset hcall fun heq => ?_
    rw [heq] at hpending
    cases hpending
  | _ => exact hc

theorem rxAnswer_count_received {events : List ClientEvent} {call : Nat} {c : OfferCall} {given : String}
    (hrun : answering.run s events = some t) (hc : s.calls[call]? = some c)
    (hgiven : c.phase = .received given) : events.count (.rxAnswer call) = 0 := by
  induction events generalizing s with
  | nil => rfl
  | cons e rest ih =>
    obtain ⟨m, hm, hrest⟩ := answering.run_cons_some hrun
    have hmoves := (moves_of_answering hm).2
    have hne : e ≠ .rxAnswer call := by
      rintro rfl
      cases hmoves with
      | rxAnswer hcall =>
        obtain rfl := Option.some.inj (hcall.symm.trans hc)
        cases hgiven
    rw [List.count_cons_of_ne hne]
    exact ih hrest (received_stays hmoves hc hgiven)

/-- **A call takes its answer at most once.** -/
theorem rxAnswer_count {events : List ClientEvent} (hrun : answering.run s events = some t) (call : Nat) :
    events.count (.rxAnswer call) ≤ 1 := by
  induction events generalizing s with
  | nil => simp
  | cons e rest ih =>
    obtain ⟨m, hm, hrest⟩ := answering.run_cons_some hrun
    by_cases heq : e = .rxAnswer call
    · subst heq
      cases (moves_of_answering hm).2 with
      | rxAnswer hcall =>
        rename_i sessionId sdp
        have hreceived : (s.setPhase call (.received sdp)).calls[call]? = some ⟨sessionId, .received sdp⟩ := by
          rw [getElem_setPhase, hcall]
          simp
        rw [List.count_cons_self, rxAnswer_count_received hrest hreceived rfl]
    · rw [List.count_cons_of_ne heq]
      exact ih hrest

/-- Meanwhile the answers are kept as far as those dispatched are with their calls. -/
theorem Attending.answersKept_iff (h : s.Attending) : s.AnswersKept ↔ s.Attending ∧ s.Reached := by
  constructor
  · intro hkept
    exact ⟨h, hkept.reached⟩
  · rintro ⟨-, hr⟩
    exact ⟨hr, h.own, fun hq sdp hmem c hc hid => h.received hr hq hmem hc hid⟩

theorem attending_init : Attending {} where
  sound := sound_init
  registered := registered_init
  alive := by simp
  holds := rfl
  uncancelled := by simp
  started _ := rfl
  carries := rfl
  own := by simp [Own]

theorem reached_init : Reached {} := by simp [Reached]

end Client

open Client

/-- **Answers are kept exactly when each finds its call waiting**; and no call takes
an answer twice. -/
theorem answers_kept_iff (events : List ClientEvent) :
    (answering.Along AnswersKept answering.init events ↔ answering.Meets FindsCall answering.init events) ∧
      ∀ t, answering.run answering.init events = some t → ∀ call, events.count (.rxAnswer call) ≤ 1 := by
  refine ⟨?_, fun t hrun call => rxAnswer_count hrun call⟩
  have hstep : ∀ s e t, Attending s → answering.step s e = some t → t.Attending := by
    intro s e t h hst
    obtain ⟨he, hm⟩ := moves_of_answering hst
    exact h.step he hm
  calc
    answering.Along AnswersKept answering.init events
      ↔ answering.Along (fun s => s.Attending ∧ s.Reached) answering.init events :=
        Transition.System.along_congr_of_invariant Attending hstep (fun _ h => h.answersKept_iff)
          attending_init
    _ ↔ answering.Meets FindsCall answering.init events := by
        refine Transition.System.along_iff_meets (fun s e t h hst => ?_) ⟨attending_init, reached_init⟩
        obtain ⟨he, hm⟩ := moves_of_answering hst
        rw [← h.1.reached_iff h.2 he hm, and_iff_right (h.1.step he hm)]

/-- The answer to an offer that has just left overtakes the registration. -/
def quickAnswer : List ClientEvent :=
  [.serve (.json (.hello (.of phone ⟨0⟩) [])), .read, .sendClient, .sendMessage, .connect, .connect,
    .startListener, .recv, .callback, .forward, .sendOffer "session",
    .serve (.json (.answer ⟨.of phone ⟨1⟩, "session", "v=0"⟩)), .read, .sendMessage, .recv, .callback]

theorem quick_answer_is_lost : ¬ answering.Along AnswersKept answering.init quickAnswer := by
  intro h
  have hcalls : (answering.run answering.init quickAnswer).map Client.calls = some [⟨"session", .sent⟩] := by
    decide +kernel
  have hdispatched : (answering.run answering.init quickAnswer).map Client.dispatched =
      some [.hello (.of phone ⟨0⟩) [], .answer ⟨.of phone ⟨1⟩, "session", "v=0"⟩] := by
    decide +kernel
  obtain ⟨t, hrun, hcall⟩ := Option.map_eq_some_iff.mp hcalls
  rw [hrun] at hdispatched
  have hkept : t.AnswersKept := Transition.System.Along.reached (b := []) (by simpa using h) hrun
  have hreached := hkept.reached ⟨.of phone ⟨1⟩, "session", "v=0"⟩ (by rw [Option.some.inj hdispatched]; simp)
    ⟨"session", .sent⟩ (by rw [hcall]; simp) rfl
  cases hreached

end MagicShare.WebRtc
