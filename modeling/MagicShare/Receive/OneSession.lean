import MagicShare.Base.Records
import MagicShare.Receive.Session

/-! One receive session at a time.

A prepare-upload request finds the slot free, waits for its body and its directories,
and installs its session without looking again; what it grants later, it grants in the
session that is in the slot by then. Along every run no session is replaced, requests
that have no session are blocked by the one there is, and what is granted belongs to
the session it is told for, exactly when the slot is still free at the end of these
waits and the session accepted is the request's own (`oneSession_iff`). -/
namespace MagicShare.Receive

/-! ### The property and its condition -/

/-- The request is told of this grant, or will be once permission was asked for. -/
def Prepare.Granted (p : Prepare) (g : Grant) : Prop :=
  p.phase = .askingPermission g ∨ ∃ response found, p.phase = .answered response found ∧ response.grant = some g

/-- A request that does not own the session in the slot is blocked by it, a request
answered 200 is granted files, and what is granted are the tokens of its own session, of
selected files. -/
structure Prepare.Sound (p : Prepare) : Prop where
  blocked : ∀ response other, p.phase = .answered response (some other) → p.sessionId ≠ some other →
    response.code = 409
  granted : ∀ g, p.Granted g → p.sessionId = some g.sessionId ∧ g.session.sessionId = g.sessionId ∧
    g.files = g.session.tokens ∧ ∀ entry ∈ g.files, (g.selected.lookup entry.1).isSome
  told : ∀ response found, p.phase = .answered response found → response.code = 200 → response.grant.isSome

namespace ReceiveServer

structure OneSession (s : ReceiveServer) : Prop where
  unreplaced : ∀ found ∈ s.installs, found = none
  sound : ∀ p ∈ s.prepares, p.Sound

/-- A body is refused, and a session installed, where the slot is free, and a request
goes on after its decision, and is answered after its permission, where the slot is free
or holds its own session. -/
def FreeOrOwn (s : ReceiveServer) : ReceiveEvent → Prop
  | .bodyRead h dto => ∀ ip, s.prepares[h]? = some ⟨ip, none, .readingBody⟩ → refusesBody dto = true → s.session = none
  | .directoriesResolved h _ => ∀ ip dto, s.prepares[h]? = some ⟨ip, none, .resolvingDirectories dto⟩ →
    s.session = none
  | .goOn h => ∀ ip own phase, s.prepares[h]? = some ⟨ip, some own, phase⟩ → ∀ other, s.sessionId = some other →
    other = own
  | .permissionAsked h => ∀ ip own granted, s.prepares[h]? = some ⟨ip, own, .askingPermission granted⟩ →
    ∀ other, s.sessionId = some other → own = some other
  | _ => True

/-! ### One step -/

variable {config : ReceiveConfig} {s t : ReceiveServer} {e : ReceiveEvent} {h : Nat} {p q : Prepare}

theorem OneSession.of_eq (hone : s.OneSession) (hprepares : t.prepares = s.prepares) (hinstalls : t.installs = s.installs) :
    t.OneSession :=
  ⟨hinstalls ▸ hone.unreplaced, hprepares ▸ hone.sound⟩

/-- A request that changes keeps the property exactly when it is sound then. -/
theorem OneSession.set_iff (hone : s.OneSession) (hget : s.prepares[h]? = some p)
    (hprepares : t.prepares = s.prepares.set h q) (hinstalls : t.installs = s.installs) :
    t.OneSession ↔ q.Sound := by
  constructor
  · intro ht
    refine ht.sound q ?_
    rw [hprepares]
    exact List.mem_set (List.getElem?_eq_some_iff.mp hget).1 _
  · intro hq
    refine ⟨hinstalls ▸ hone.unreplaced, fun r hr => ?_⟩
    rw [hprepares] at hr
    rcases List.mem_or_eq_of_mem_set hr with hold | rfl
    · exact hone.sound r hold
    · exact hq

theorem OneSession.answer_iff (hone : s.OneSession) (hget : s.prepares[h]? = some p) (q : Prepare) (found : Option Nat)
    (response : Response) :
    (s.answer h q found response).OneSession ↔ Prepare.Sound {q with phase := .answered response found} :=
  hone.set_iff hget rfl rfl

theorem OneSession.setPrepare_iff (hone : s.OneSession) (hget : s.prepares[h]? = some p) (q : Prepare)
    (phase : PreparePhase) : (s.setPrepare h q phase).OneSession ↔ Prepare.Sound {q with phase} :=
  hone.set_iff hget rfl rfl

/-- A request that is neither answered nor granted anything. -/
theorem sound_of_pending (hphase : (∀ response found, p.phase ≠ .answered response found) ∧
    ∀ g, p.phase ≠ .askingPermission g) : p.Sound := by
  refine ⟨fun response other hanswered => absurd hanswered (hphase.1 response _), fun g hg => ?_,
    fun response found hanswered => absurd hanswered (hphase.1 response found)⟩
  rcases hg with hasking | ⟨response, found, hanswered, -⟩
  · exact absurd hasking (hphase.2 g)
  · exact absurd hanswered (hphase.1 response found)

/-- A refusal is sound exactly where the slot is free or the request's own, unless it
says so. -/
theorem sound_refused_iff {ip : String} {own found : Option Nat} {code : Nat} {message : String} (hcode : code ≠ 200) :
    Prepare.Sound ⟨ip, own, .answered ⟨code, message, none⟩ found⟩ ↔
      code = 409 ∨ ∀ other, found = some other → own = some other := by
  constructor
  · intro hsound
    by_cases h409 : code = 409
    · exact .inl h409
    · refine .inr fun other hfound => ?_
      subst hfound
      by_contra hne
      exact h409 (hsound.blocked _ other rfl hne)
  · intro hfound
    refine ⟨?_, ?_, ?_⟩
    · intro response other hanswered hne
      obtain ⟨rfl, rfl⟩ := PreparePhase.answered.inj hanswered
      exact hfound.resolve_right fun hown => hne (hown other rfl)
    · rintro g (hasking | ⟨response, found', hanswered, hgrant⟩)
      · cases hasking
      · obtain ⟨rfl, -⟩ := PreparePhase.answered.inj hanswered
        cases hgrant
    · intro response found' hanswered h200
      obtain ⟨rfl, -⟩ := PreparePhase.answered.inj hanswered
      exact absurd h200 hcode

/-- The tokens of a session that was accepted are those of selected files. -/
theorem selected_of_mem_tokens {session : ReceiveSession} {fresh : Nat} {selected : List (String × String)}
    {entry : String × Token} (hmem : entry ∈ (session.accepted fresh selected).tokens) :
    (selected.lookup entry.1).isSome := by
  simp only [ReceiveSession.tokens, ReceiveSession.accepted, List.mem_filterMap, List.mem_map] at hmem
  obtain ⟨_, ⟨⟨id, file⟩, -, rfl⟩, htoken⟩ := hmem
  cases hlookup : selected.lookup id with
  | none =>
    rw [hlookup] at htoken
    cases htoken
  | some desiredName =>
    rw [hlookup] at htoken
    obtain rfl := Option.some.inj htoken
    rw [hlookup]
    rfl

/-- A grant is sound exactly when the session accepted is the request's own. -/
theorem sound_granted_iff {ip : String} {own fresh : Nat} {session : ReceiveSession} {selected : List (String × String)}
    {phase : PreparePhase} (hphase : phase = .askingPermission (session.grant own fresh selected) ∨
      phase = .answered ⟨200, "", some (session.grant own fresh selected)⟩ (some session.sessionId)) :
    Prepare.Sound ⟨ip, some own, phase⟩ ↔ session.sessionId = own := by
  constructor
  · intro hsound
    have hgranted : Prepare.Granted ⟨ip, some own, phase⟩ (session.grant own fresh selected) := by
      rcases hphase with rfl | rfl
      · exact .inl rfl
      · exact .inr ⟨_, _, rfl, rfl⟩
    exact (hsound.granted _ hgranted).2.1
  · intro hown
    have hgrant : ∀ g, Prepare.Granted ⟨ip, some own, phase⟩ g → g = session.grant own fresh selected := by
      rintro g (hasking | ⟨response, found, hanswered, hg⟩)
      · rcases hphase with rfl | rfl
        · exact (PreparePhase.askingPermission.inj hasking).symm
        · cases hasking
      · rcases hphase with rfl | rfl
        · cases hanswered
        · obtain ⟨rfl, -⟩ := PreparePhase.answered.inj hanswered
          exact (Option.some.inj hg).symm
    refine ⟨fun response other hanswered hne => ?_, fun g hg => ?_, fun response found hanswered _ => ?_⟩
    · rcases hphase with rfl | rfl
      · cases hanswered
      · obtain ⟨rfl, hother⟩ := PreparePhase.answered.inj hanswered
        exact absurd ((congrArg some hown.symm).trans hother) hne
    · obtain rfl := hgrant g hg
      exact ⟨rfl, hown, rfl, fun entry hmem => selected_of_mem_tokens hmem⟩
    · rcases hphase with rfl | rfl
      · cases hanswered
      · obtain ⟨rfl, -⟩ := PreparePhase.answered.inj hanswered
        rfl

/-- A decision keeps the property exactly where the slot is free or the request's own. -/
theorem OneSession.onDecision_iff (hone : s.OneSession) {ip : String} {own : Nat} {phase : PreparePhase}
    (hget : s.prepares[h]? = some p) (selection : Selection) :
    (s.onDecision config h ⟨ip, some own, phase⟩ own selection).OneSession ↔
      ∀ other, s.sessionId = some other → other = own := by
  rcases onDecision_cases config s h ⟨ip, some own, phase⟩ own selection with ⟨hfree, hdecided⟩ |
    ⟨session, code, message, hsession, hcode, hdecided⟩ | ⟨session, selected, phase', hsession, -, -, hphase, hdecided⟩
  · rw [hdecided, hone.setPrepare_iff hget, sound_refused_iff (by decide)]
    simp [sessionId, hfree]
  · have hclosed : s.closeSession.OneSession := hone.of_eq rfl rfl
    have hcodes : code ≠ 200 ∧ code ≠ 409 := by
      rcases List.mem_pair.mp hcode with rfl | rfl <;> decide
    rw [hdecided, hclosed.setPrepare_iff hget, sound_refused_iff hcodes.1]
    simp [sessionId, hsession, hcodes.2, eq_comm]
  · have haccepted : (s.accept session selected).OneSession := hone.of_eq rfl rfl
    rw [hdecided, haccepted.setPrepare_iff hget]
    simpa [sessionId, hsession] using sound_granted_iff hphase

theorem onDecision_installs {own : Nat} {selection : Selection} :
    (s.onDecision config h p own selection).installs = s.installs := by
  rcases onDecision_cases config s h p own selection with ⟨-, hdecided⟩ | ⟨_, _, _, -, -, hdecided⟩ |
    ⟨_, _, _, -, -, -, -, hdecided⟩
  · rw [hdecided]
    rfl
  · rw [hdecided]
    rfl
  · rw [hdecided]
    rfl

/-- Installing keeps the property exactly when the slot is free. -/
theorem OneSession.install_iff (hone : s.OneSession) {dto : PrepareUploadRequestDto} {phase : PreparePhase}
    (hphase : phase = .openingLink ∨ phase = .deciding none) :
    (s.install h p dto phase).OneSession ↔ s.session = none := by
  constructor
  · intro ht
    exact Option.map_eq_none_iff.mp (ht.unreplaced _ (List.mem_append_right _ (List.mem_singleton_self _)))
  · intro hfree
    refine ⟨fun found hfound => ?_, fun q hq => ?_⟩
    · rcases List.mem_append.mp hfound with hold | hnew
      · exact hone.unreplaced found hold
      · obtain rfl := List.mem_singleton.mp hnew
        rw [sessionId, hfree]
        rfl
    · rcases List.mem_or_eq_of_mem_set hq with hold | rfl
      · exact hone.sound q hold
      · refine sound_of_pending ?_
        rcases hphase with rfl | rfl <;> simp

/-- The uploads and the user leave the requests alone, apart from the decision. -/
theorem OneSession.respond (hone : s.OneSession) (selection : Selection) : (s.respond selection).OneSession := by
  simp only [ReceiveServer.respond]
  split
  · exact hone
  · split
    · next p hget =>
      split
      · exact (hone.setPrepare_iff hget _ _).mpr (sound_of_pending (by simp))
      · exact hone
    · exact hone

/-- **A step keeps one session at a time exactly when it finds the slot free or its
own.** -/
theorem OneSession.step_iff (hone : s.OneSession) (hm : Moves config s e t) : t.OneSession ↔ s.FreeOrOwn e := by
  cases hm with
  | blocked hsession =>
    refine iff_of_true ⟨hone.unreplaced, fun q hq => ?_⟩ trivial
    rcases List.mem_append.mp hq with hold | hnew
    · exact hone.sound q hold
    · obtain rfl := List.mem_singleton.mp hnew
      exact (sound_refused_iff (by decide)).mpr (.inl rfl)
  | arrived hsession hphase =>
    refine iff_of_true ⟨hone.unreplaced, fun q hq => ?_⟩ trivial
    rcases List.mem_append.mp hq with hold | hnew
    · exact hone.sound q hold
    · obtain rfl := List.mem_singleton.mp hnew
      rcases hphase with rfl | ⟨code, message, hcode, rfl⟩
      · exact sound_of_pending (by simp)
      · exact (sound_refused_iff hcode).mpr (.inr (by simp))
  | refused hget hrefuses hcode =>
    rename_i h ip dto code message
    rw [hone.answer_iff hget, sound_refused_iff hcode.2]
    constructor
    · intro hfound ip' _ _
      have hnone := hfound.resolve_left hcode.1
      cases hsession : s.session with
      | none => rfl
      | some session => cases hnone session.sessionId (by simp [sessionId, hsession])
    · intro hc
      refine .inr fun other hother => ?_
      rw [sessionId, hc ip hget hrefuses] at hother
      cases hother
  | bodyRead hget hrefuses =>
    refine iff_of_true ((hone.setPrepare_iff hget _ _).mpr (sound_of_pending (by simp))) fun _ _ hrefuses' => ?_
    rw [hrefuses] at hrefuses'
    cases hrefuses'
  | installed hget hphase =>
    rw [hone.install_iff hphase]
    exact ⟨fun hfree _ _ _ => hfree, fun hc => hc _ _ hget⟩
  | accepted hget hmessage selected =>
    rename_i h ip dto
    constructor
    · -- a decision leaves the note of what was found
      intro ht ip' dto' _
      have hfound : s.session.map ReceiveSession.sessionId = none :=
        ht.unreplaced _ (by rw [onDecision_installs]; exact List.mem_append_right _ (List.mem_singleton_self _))
      exact Option.map_eq_none_iff.mp hfound
    · intro hc
      have hinstalled : (s.install h ⟨ip, none, .resolvingDirectories dto⟩ dto (.deciding none)).OneSession :=
        (hone.install_iff (.inr rfl)).mpr (hc ip dto hget)
      refine (hinstalled.onDecision_iff (Records.set_self hget) _).mpr fun other hother => ?_
      exact (Option.some.inj hother).symm
  | wentOn hget hphase =>
    rename_i h ip own phase selection
    rw [hone.onDecision_iff hget]
    constructor
    · intro hall ip' own' phase' hget'
      rw [hget] at hget'
      obtain ⟨rfl, rfl, rfl⟩ : ip = ip' ∧ own = own' ∧ phase = phase' := by
        simpa using hget'
      exact hall
    · exact fun hc => hc ip own phase hget
  | permitted hget =>
    rename_i h ip own granted
    rw [hone.answer_iff hget]
    have hold := (hone.sound _ (List.mem_of_getElem? hget)).granted granted (.inl rfl)
    constructor
    · intro hsound ip' own' granted' hget' other hother
      rw [hget] at hget'
      obtain ⟨rfl, rfl, rfl⟩ : ip = ip' ∧ own = own' ∧ granted = granted' := by
        simpa using hget'
      by_contra hne
      have hcode := hsound.blocked _ other (congrArg _ hother) hne
      cases hcode
    · intro hc
      refine ⟨fun response other hanswered hne => ?_, ?_, fun response found hanswered _ => ?_⟩
      · obtain ⟨-, hother⟩ := PreparePhase.answered.inj hanswered
        exact absurd (hc ip own granted hget other hother) hne
      · rintro g (hasking | ⟨response, found, hanswered, hg⟩)
        · cases hasking
        · obtain ⟨rfl, -⟩ := PreparePhase.answered.inj hanswered
          obtain rfl := Option.some.inj hg
          exact hold
      · obtain ⟨rfl, -⟩ := PreparePhase.answered.inj hanswered
        rfl
  | acceptFileRequest => exact iff_of_true (hone.respond _) trivial
  | declineFileRequest => exact iff_of_true (hone.respond _) trivial
  | cancelRefused => exact iff_of_true hone trivial
  | canceled => exact iff_of_true (hone.of_eq rfl rfl) trivial
  | closeSession => exact iff_of_true (hone.of_eq rfl rfl) trivial
  | cancelSession => exact iff_of_true (hone.of_eq rfl rfl) trivial
  | uploadRefused => exact iff_of_true (hone.of_eq rfl rfl) trivial
  | uploadBegan => exact iff_of_true (hone.of_eq rfl rfl) trivial
  | saved => exact iff_of_true (hone.of_eq concludes_finishUpload.prepares concludes_finishUpload.installs) trivial
  | saveFailed => exact iff_of_true (hone.of_eq concludes_failUpload.prepares concludes_failUpload.installs) trivial
  | recorded => exact iff_of_true (hone.of_eq concludes_concludeUpload.prepares concludes_concludeUpload.installs) trivial
  | recordFailed => exact iff_of_true (hone.of_eq concludes_failUpload.prepares concludes_failUpload.installs) trivial
  | delayedClosed => exact iff_of_true (hone.of_eq rfl rfl) trivial
  | delayedNothing => exact iff_of_true (hone.of_eq rfl rfl) trivial

end ReceiveServer

/-! ### All runs -/

/-- **There is one session at a time, exactly in the runs where each request finds the
slot free or its own.** -/
theorem oneSession_iff (config : ReceiveConfig) (events : List ReceiveEvent) :
    (receiveServer config).Along ReceiveServer.OneSession (receiveServer config).init events ↔
      (receiveServer config).Meets ReceiveServer.FreeOrOwn (receiveServer config).init events :=
  Transition.System.along_iff_meets (fun _ _ _ h hst => h.step_iff (ReceiveServer.moves_of_step hst))
    ⟨by simp [receiveServer], by simp [receiveServer]⟩

/-- Two requests pass the guard; the second replaces the session of the first, which the
user can no longer answer. -/
theorem session_is_replaced :
    ∃ t, (receiveServer {}).run (receiveServer {}).init
        [.prepareUpload "10.0.0.2" none, .prepareUpload "10.0.0.3" none, .bodyRead 0 (some {files := [⟨"a", "a.txt", none⟩]}),
          .bodyRead 1 (some {files := [⟨"b", "b.txt", none⟩]}), .directoriesResolved 0 false,
          .directoriesResolved 1 false, .acceptFileRequest [("b", "b.txt")]] = some t ∧
      t.installs = [none, some 0] ∧
      t.prepares.map Prepare.phase = [.deciding none, .deciding (some (some [("b", "b.txt")]))] ∧ ¬ t.OneSession := by
  refine ⟨_, rfl, by decide +kernel, by decide +kernel, fun hone => ?_⟩
  have hfound := hone.unreplaced (some 0) (by decide +kernel)
  cases hfound

end MagicShare.Receive
