import MagicShare.Base.Keyed
import MagicShare.Receive.Session
import MagicShare.Send.WebSend

/-! The PIN lockout of the server (`checkPin` in `common.dart`).

Both the receive server and the web share count the wrong guesses of an address and stop
answering it after three. A handler checks the pin in one go, up to its first await, but
not every request gets there: a prepare-upload is blocked while there is a session, and a
prepare-download that names the active session of its own address is served at once. Of
the requests that are checked, an address is answered by its own guesses alone. -/
namespace MagicShare.Send
open Transition Keyed
open Receive (ReceiveServer ReceiveConfig ReceiveEvent Response Prepare checkPin receiveServer)

/-- A request while a pin is set. -/
structure PinRequest where
  pin : String
  requestPin : Option String
  deriving DecidableEq

/-- A wrong pin that is not empty. -/
def PinRequest.guess (r : PinRequest) : Bool := r.requestPin ≠ some r.pin && r.requestPin.any (· ≠ "")

/-- The code a request is refused with after that many wrong guesses; none where it passes. -/
def verdict (guesses : Nat) (r : PinRequest) : Option Nat :=
  if 3 ≤ guesses then some 429
  else if r.requestPin = some r.pin then none
  else if r.guess && guesses = 2 then some 429
  else some 401

/-- Each request of an address is answered by the guesses it made before. -/
def Lockout (requests : List (PinRequest × Option Nat)) : Prop :=
  ∀ before r answer after, requests = before ++ (r, answer) :: after →
    answer = verdict (before.countP fun request => request.1.guess) r

/-- Every address is answered so, and what others ask has no part in it. -/
structure PinLockout {κ E : Type} [DecidableEq κ] (log : List E → List (κ × PinRequest × Option Nat)) : Prop where
  lockout : ∀ k events, Lockout (own k (log events))
  unaffected : ∀ k events events', (own k (log events)).map Prod.fst = (own k (log events')).map Prod.fst →
    own k (log events) = own k (log events')

/-! ### The two servers -/

/-- The receive server; the settings are read as a request comes in. -/
def receiveServerSet : System ReceiveServer (ReceiveConfig × ReceiveEvent) where
  init := {}
  step s e := s.step e.1 e.2

/-- The code a request is answered at once; none where the handler goes on. -/
def uploadAnswer (p : Prepare) : Option Nat :=
  match p.phase with
  | .answered response _ => some response.code
  | _ => none

def downloadAnswer (p : PrepareDownload) : Option Nat :=
  match p.phase with
  | .answered response => some response.code
  | _ => none

/-- A prepare-upload while a pin is set, with its answer. -/
def uploadRequests (s : ReceiveServer) (e : ReceiveConfig × ReceiveEvent) : List (String × PinRequest × Option Nat) :=
  match e.2, e.1.receivePin with
  | .prepareUpload ip requestPin, some pin =>
    ((s.step e.1 e.2).bind fun t => t.prepares[s.prepares.length]?).toList.map fun p =>
      (ip, ⟨pin, requestPin⟩, uploadAnswer p)
  | _, _ => []

/-- Those that are not blocked by a session. -/
def checkedUploads (s : ReceiveServer) (e : ReceiveConfig × ReceiveEvent) : List (String × PinRequest × Option Nat) :=
  if s.session.isSome then [] else uploadRequests s e

/-- A prepare-download while a pin is set, by the web share and the address. -/
def downloadRequests (s : WebShare) (e : WebShareEvent) : List ((Nat × String) × PinRequest × Option Nat) :=
  match e, s.webSendState.bind WebSendState.pin with
  | .prepareDownload ip _ requestPin, some pin =>
    ((s.step e).bind fun t => t.prepares[s.prepares.length]?).toList.map fun p =>
      ((s.share, ip), ⟨pin, requestPin⟩, downloadAnswer p)
  | _, _ => []

/-- The request names the active session of its address. -/
def namesPermitted (s : WebShare) : WebShareEvent → Bool
  | .prepareDownload ip sessionId _ =>
    s.webSendState.any fun state => sessionId.any fun sessionId => state.permits sessionId ip
  | _ => false

/-- Those that do not. -/
def checkedDownloads (s : WebShare) (e : WebShareEvent) : List ((Nat × String) × PinRequest × Option Nat) :=
  if namesPermitted s e then [] else downloadRequests s e

/-! ### One check -/

/-- `checkPin` as a machine whose state is the attempts on record. -/
def check (attempts : Nat) (r : PinRequest) : Option Nat × Nat :=
  let (refusal, attempts) := checkPin (some r.pin) attempts r.requestPin
  (refusal.map Response.code, attempts)

/-- The attempts on record stop at three. -/
theorem check_min (guesses : Nat) (r : PinRequest) :
    check (min guesses 3) r = (verdict guesses r, min (guesses + if r.guess then 1 else 0) 3) := by
  by_cases hthree : 3 ≤ guesses
  · have hmin : min guesses 3 = 3 := Nat.min_eq_right hthree
    have hmin' : min (guesses + if r.guess then 1 else 0) 3 = 3 := Nat.min_eq_right (Nat.le_add_right_of_le hthree)
    rw [hmin, hmin', verdict, if_pos hthree]
    rfl
  · have hmin : min guesses 3 = guesses := by omega
    by_cases hright : r.requestPin = some r.pin
    · have hguess : r.guess = false := by simp [PinRequest.guess, hright]
      simp [check, checkPin, verdict, hthree, hright, hmin, hguess]
    · by_cases hempty : r.requestPin.all (· = "")
      · have hguess : r.guess = false := by
          cases hpin : r.requestPin <;> simp_all [PinRequest.guess]
        simp [check, checkPin, verdict, hthree, hright, hmin, hguess, hempty]
      · have hguess : r.guess = true := by
          cases hpin : r.requestPin <;> simp_all [PinRequest.guess]
        by_cases htwo : guesses = 2
        · subst htwo
          simp [check, checkPin, verdict, hright, hguess, hempty]
        · have hnext : min (guesses + 1) 3 = guesses + 1 := by omega
          simp [check, checkPin, verdict, hthree, hright, hmin, hguess, hempty, htwo, hnext]

theorem lockout_of_follows {requests : List (PinRequest × Option Nat)} (h : Follows check 0 requests) : Lockout requests := by
  have hrun : ∀ (before : List (PinRequest × Option Nat)) (guesses : Nat) (r : PinRequest) (answer : Option Nat)
      (after : List (PinRequest × Option Nat)), Follows check (min guesses 3) (before ++ (r, answer) :: after) →
      answer = verdict (guesses + before.countP fun request => request.1.guess) r := by
    intro before
    induction before with
    | nil =>
      intro guesses r answer after hfollows
      rw [hfollows.1, check_min]
      rfl
    | cons first before ih =>
      intro guesses r answer after hfollows
      have hrest := hfollows.2
      rw [check_min] at hrest
      rw [ih _ r answer after hrest, List.countP_cons]
      congr 1
      omega
  intro before r answer after heq
  have := hrun before 0 r answer after (heq ▸ h)
  rwa [Nat.zero_add] at this

theorem pinLockout_of_follows {κ E : Type} [DecidableEq κ] {log : List E → List (κ × PinRequest × Option Nat)}
    (h : ∀ k events, Follows check 0 (own k (log events))) : PinLockout log :=
  ⟨fun k events => lockout_of_follows (h k events), fun k events events' => (h k events).unique (h k events')⟩

/-! ### The receive server -/

section Receive
variable {s t : ReceiveServer} {config : ReceiveConfig} {e : ReceiveEvent}

theorem onDecision_pinAttempts (h : Nat) (p : Prepare) (sessionId : Nat) (selection : Receive.Selection) :
    (s.onDecision config h p sessionId selection).pinAttempts = s.pinAttempts := by
  obtain ⟨-, heq⟩ | ⟨session, code, message, -, -, heq⟩ | ⟨session, selected, phase, -, -, -, -, heq⟩ :=
    ReceiveServer.onDecision_cases config s h p sessionId selection <;> rw [heq] <;> rfl

theorem respond_pinAttempts (selection : Receive.Selection) : (s.respond selection).pinAttempts = s.pinAttempts := by
  unfold ReceiveServer.respond
  split
  · rfl
  · split
    · split <;> rfl
    · rfl

theorem concludeUpload_pinAttempts (u : Nat) (upload : Receive.Upload) (quickSave : Bool) :
    (s.concludeUpload u upload quickSave).pinAttempts = s.pinAttempts := by
  unfold ReceiveServer.concludeUpload
  split
  · rfl
  · dsimp only
    split <;> rfl

theorem failUpload_pinAttempts (u : Nat) (upload : Receive.Upload) (quickSave : Bool) :
    (s.failUpload u upload quickSave).pinAttempts = s.pinAttempts := by
  unfold ReceiveServer.failUpload
  split
  · exact concludeUpload_pinAttempts u upload quickSave
  · split
    · rfl
    · exact concludeUpload_pinAttempts u upload quickSave

theorem finishUpload_pinAttempts (u : Nat) (upload : Receive.Upload) (quickSave : Bool) :
    (s.finishUpload u upload quickSave).pinAttempts = s.pinAttempts := by
  unfold ReceiveServer.finishUpload
  split
  · rfl
  · split
    · split
      · exact failUpload_pinAttempts u upload quickSave
      · rfl
    · rfl

/-- Only a prepare-upload counts attempts. -/
theorem moves_pinAttempts (h : ReceiveServer.Moves config s e t) (he : ∀ ip pin, e ≠ .prepareUpload ip pin) :
    t.pinAttempts = s.pinAttempts := by
  cases h with
  | blocked | arrived => exact absurd rfl (he _ _)
  | accepted => exact onDecision_pinAttempts ..
  | wentOn => exact onDecision_pinAttempts ..
  | acceptFileRequest | declineFileRequest => exact respond_pinAttempts _
  | saved => exact finishUpload_pinAttempts ..
  | saveFailed | recordFailed => exact failUpload_pinAttempts ..
  | recorded => exact concludeUpload_pinAttempts ..
  | _ => rfl

/-- The attempts on record of an address. -/
def attempts (s : ReceiveServer) (ip : String) : Nat := (s.pinAttempts.lookup ip).getD 0

theorem attempts_counted {ip : String} {n : Nat} (h : t.pinAttempts = (ip, n) :: s.pinAttempts) (k : String) :
    attempts t k = if k = ip then n else attempts s k := by
  by_cases hk : k = ip
  · simp [attempts, h, hk]
  · have hne : (k == ip) = false := beq_eq_false_iff_ne.mpr hk
    simp [attempts, h, hk, List.lookup_cons, hne]

/-- A prepare-upload that is not blocked counts what `checkPin` counts, and is answered what that says. -/
theorem prepareUpload_step {ip : String} {requestPin : Option String} (hsession : ¬s.session.isSome)
    (h : s.step config (.prepareUpload ip requestPin) = some t) :
    t.pinAttempts = (ip, (checkPin config.receivePin (attempts s ip) requestPin).2) :: s.pinAttempts ∧
      ∃ p, t.prepares[s.prepares.length]? = some p ∧
        uploadAnswer p = (checkPin config.receivePin (attempts s ip) requestPin).1.map Response.code := by
  simp only [ReceiveServer.step, if_neg hsession] at h
  obtain rfl := Option.some_inj.mp h
  refine ⟨rfl, _, List.getElem?_concat_length, ?_⟩
  rw [attempts]
  cases (checkPin config.receivePin ((s.pinAttempts.lookup ip).getD 0) requestPin).1 <;> rfl

/-- A prepare-upload is a check of its address, if there is one at all. -/
theorem checkedUploads_step (k : String) (h : s.step config e = some t) :
    Part check (attempts s k) (attempts t k) (own k (checkedUploads s (config, e))) := by
  by_cases he : ∀ ip pin, e ≠ .prepareUpload ip pin
  · refine .inl ⟨?_, ?_⟩
    · have hnone : uploadRequests s (config, e) = [] := by
        cases e with
        | prepareUpload ip pin => exact absurd rfl (he ip pin)
        | _ => rfl
      rw [checkedUploads, hnone, ite_self]
      rfl
    · rw [attempts, moves_pinAttempts (ReceiveServer.moves_of_step h) he]
      rfl
  · push Not at he
    obtain ⟨ip, requestPin, rfl⟩ := he
    by_cases hsession : s.session.isSome
    · -- blocked by the session
      simp only [ReceiveServer.step, if_pos hsession] at h
      obtain rfl := Option.some_inj.mp h
      refine .inl ⟨?_, rfl⟩
      rw [checkedUploads, if_pos hsession]
      rfl
    · have hchecked : checkedUploads s (config, .prepareUpload ip requestPin) =
          uploadRequests s (config, .prepareUpload ip requestPin) := if_neg hsession
      obtain ⟨hcounted, p, hprepare, hanswer⟩ := prepareUpload_step hsession h
      have hattempts := attempts_counted hcounted
      cases hpin : config.receivePin with
      | none =>
        refine .inl ⟨?_, ?_⟩
        · rw [hchecked, uploadRequests, hpin]
          rfl
        · rw [hattempts k, hpin]
          split
          · next heq => rw [heq]; rfl
          · rfl
      | some pin =>
        have hentry : checkedUploads s (config, .prepareUpload ip requestPin) =
            [(ip, ⟨pin, requestPin⟩, (check (attempts s ip) ⟨pin, requestPin⟩).1)] := by
          rw [hpin] at hanswer
          rw [hchecked]
          simp only [uploadRequests, hpin, h, Option.bind_some, hprepare, Option.toList_some, List.map_cons, List.map_nil,
            hanswer, check]
        have hpart : ∀ k, attempts t k =
            if k = ip then (check (attempts s ip) ⟨pin, requestPin⟩).2 else attempts s k := by
          intro k
          rw [hattempts, hpin]
          rfl
        rw [hentry]
        exact part_entry hpart k

end Receive

/-! ### The web share -/

section Web
variable {s t : WebShare} {e : WebShareEvent}

/-- The attempts on record of an address in a web share; none before it begins. -/
def shareAttempts (s : WebShare) (k : Nat × String) : Nat :=
  if k.1 = s.share then (s.webSendState.map WebSendState.pinAttempts).elim 0 fun attempts => attempts k.2 else 0

/-- The web share has ended. -/
def ShareOver (s : WebShare) (k : Nat × String) : Prop := k.1 < s.share ∨ k.1 = s.share ∧ s.webSendState = none

/-- The web share goes on with the attempts on record. -/
structure SameShare (s t : WebShare) : Prop where
  share : t.share = s.share
  attempts : (t.webSendState.map WebSendState.pinAttempts) = s.webSendState.map WebSendState.pinAttempts

theorem SameShare.shareAttempts (h : SameShare s t) (k : Nat × String) : shareAttempts t k = shareAttempts s k := by
  rw [Send.shareAttempts, Send.shareAttempts, h.share, h.attempts]

theorem SameShare.retired (h : SameShare s t) {k : Nat × String} (hk : ShareOver s k) : ShareOver t k := by
  obtain hk | ⟨hk, hnone⟩ := hk
  · exact .inl (h.share ▸ hk)
  · have hattempts := h.attempts
    rw [hnone, Option.map_none, Option.map_eq_none_iff] at hattempts
    exact .inr ⟨hk.trans h.share.symm, hattempts⟩

theorem sameShare_setSession {state : WebSendState} (h : s.webSendState = some state) (sessionId : String)
    (session : Option WebSendSession) (request : Nat) (p : PrepareDownload) :
    SameShare s ((s.setSession state sessionId session).setPrepare request p) := by
  refine ⟨rfl, ?_⟩
  rw [h]
  rfl

theorem sameShare_pinChecked {request : Nat} (h : s.pinChecked request = some t) : SameShare s t := by
  unfold WebShare.pinChecked at h
  split at h
  · split at h
    · obtain rfl := Option.some_inj.mp h
      exact ⟨rfl, rfl⟩
    · next state hstate =>
      split at h
      · obtain rfl := Option.some_inj.mp h
        refine ⟨rfl, ?_⟩
        rw [hstate]
        rfl
      · obtain rfl := Option.some_inj.mp h
        exact sameShare_setSession hstate ..
  · cases h

theorem sameShare_respondRequest (sessionId : String) (accepted : Bool) : SameShare s (s.respondRequest sessionId accepted) := by
  unfold WebShare.respondRequest
  split
  · exact ⟨rfl, rfl⟩
  · split <;> exact ⟨rfl, rfl⟩

theorem sameShare_goOn {request : Nat} (h : s.goOn request = some t) : SameShare s t := by
  unfold WebShare.goOn at h
  split at h
  · split at h
    · obtain rfl := Option.some_inj.mp h
      exact ⟨rfl, rfl⟩
    · next state hstate =>
      split at h
      · split at h
        · obtain rfl := Option.some_inj.mp h
          exact ⟨rfl, rfl⟩
        · obtain rfl := Option.some_inj.mp h
          exact sameShare_setSession hstate ..
      · obtain rfl := Option.some_inj.mp h
        exact sameShare_setSession hstate ..
  · cases h

/-- A web share begins, ends, or goes on as it was. -/
theorem share_step (h : s.step e = some t) (he : ∀ ip sessionId pin, e ≠ .prepareDownload ip sessionId pin) :
    SameShare s t ∨ (t.share = s.share + 1 ∧ ∀ k, shareAttempts t k = 0) ∨ (t.share = s.share ∧ t.webSendState = none) := by
  cases e with
  | initializeWebSend files autoAccept =>
    obtain rfl := Option.some_inj.mp h
    refine .inr (.inl ⟨rfl, fun k => ?_⟩)
    unfold shareAttempts
    split <;> rfl
  | restartServer =>
    obtain rfl := Option.some_inj.mp h
    exact .inr (.inr ⟨rfl, rfl⟩)
  | setWebSendPin pin =>
    obtain rfl := Option.some_inj.mp h
    refine .inl ⟨rfl, ?_⟩
    show (s.webSendState.map _).map _ = _
    rw [Option.map_map]
    rfl
  | setWebSendAutoAccept autoAccept =>
    obtain rfl := Option.some_inj.mp h
    refine .inl ⟨rfl, ?_⟩
    show (s.webSendState.map _).map _ = _
    rw [Option.map_map]
    rfl
  | prepareDownload ip sessionId pin => exact absurd rfl (he _ _ _)
  | pinChecked request => exact .inl (sameShare_pinChecked h)
  | respondRequest sessionId accepted =>
    obtain rfl := Option.some_inj.mp h
    exact .inl (sameShare_respondRequest sessionId accepted)
  | goOn request => exact .inl (sameShare_goOn h)

/-- A prepare-download is not checked and counts nothing, or it is a check of its address in
this web share. -/
theorem prepareDownload_cases (s : WebShare) (ip : String) (sessionId requestPin : Option String) :
    SameShare s (s.prepareDownload ip sessionId requestPin) ∧
      checkedDownloads s (.prepareDownload ip sessionId requestPin) = [] ∨
    ∃ state r, s.webSendState = some state ∧ (s.prepareDownload ip sessionId requestPin).share = s.share ∧
      (s.prepareDownload ip sessionId requestPin).webSendState.map WebSendState.pinAttempts =
        some (Function.update state.pinAttempts ip (check (state.pinAttempts ip) r).2) ∧
      checkedDownloads s (.prepareDownload ip sessionId requestPin) =
        [((s.share, ip), r, (check (state.pinAttempts ip) r).1)] := by
  cases hstate : s.webSendState with
  | none =>
    refine .inl ⟨?_, ?_⟩
    · rw [WebShare.prepareDownload, hstate]
      exact ⟨rfl, rfl⟩
    · simp [checkedDownloads, downloadRequests, hstate]
  | some state =>
    by_cases hpermits : sessionId.any fun sessionId => state.permits sessionId ip
    · refine .inl ⟨?_, ?_⟩
      · rw [WebShare.prepareDownload, hstate]
        simp only [if_pos hpermits]
        exact ⟨rfl, rfl⟩
      · rw [checkedDownloads, if_pos (by rw [namesPermitted, hstate]; exact hpermits)]
    have hchecked : checkedDownloads s (.prepareDownload ip sessionId requestPin) =
        downloadRequests s (.prepareDownload ip sessionId requestPin) := by
      rw [checkedDownloads, if_neg (by rw [namesPermitted, hstate]; exact hpermits)]
    cases hpin : state.pin with
    | none =>
      refine .inl ⟨?_, ?_⟩
      · rw [WebShare.prepareDownload, hstate]
        simp only [if_neg hpermits, hpin, checkPin, Function.update_eq_self]
        exact ⟨rfl, by rw [hstate]; rfl⟩
      · rw [hchecked]
        simp [downloadRequests, hstate, hpin]
    | some pin =>
      have hafter := WebShare.prepareDownload.eq_def s ip sessionId requestPin
      simp only [hstate, if_neg hpermits, hpin] at hafter
      refine .inr ⟨state, ⟨pin, requestPin⟩, rfl, by rw [hafter]; rfl, by rw [hafter]; rfl, ?_⟩
      rw [hchecked]
      simp only [downloadRequests, hstate, Option.bind_some, hpin, WebShare.step, hafter, WebShare.arrive,
        List.getElem?_concat_length, check]
      cases (checkPin (some pin) (state.pinAttempts ip) requestPin).1 <;> rfl

/-- What one step is to an address of a web share: nothing, a check, or the end. -/
structure ShareStep (s : WebShare) (e : WebShareEvent) (t : WebShare) (k : Nat × String) : Prop where
  ended : ShareOver s k → ShareOver t k ∧ own k (checkedDownloads s e) = []
  part : own k (checkedDownloads s e) = [] ∧ ShareOver t k ∨
    Part check (shareAttempts s k) (shareAttempts t k) (own k (checkedDownloads s e))

theorem SameShare.shareStep (h : SameShare s t) {k : Nat × String} (hnone : own k (checkedDownloads s e) = []) :
    ShareStep s e t k :=
  ⟨fun hk => ⟨h.retired hk, hnone⟩, .inr (.inl ⟨hnone, h.shareAttempts k⟩)⟩

theorem shareStep_other (k : Nat × String) (h : s.step e = some t) (he : ∀ ip sessionId pin, e ≠ .prepareDownload ip sessionId pin) :
    ShareStep s e t k := by
  have hnone : own k (checkedDownloads s e) = [] := by
    have hrequests : downloadRequests s e = [] := by
      cases e with
      | prepareDownload ip sessionId pin => exact absurd rfl (he _ _ _)
      | _ => rfl
    rw [checkedDownloads, hrequests, ite_self]
    rfl
  obtain hsame | ⟨hshare, hfresh⟩ | ⟨hshare, hended⟩ := share_step h he
  · exact hsame.shareStep hnone
  · have hretired : k.1 ≤ s.share → ShareOver t k := fun hk => .inl (by omega)
    constructor
    · intro hk
      refine ⟨hretired ?_, hnone⟩
      obtain hlt | ⟨heq, -⟩ := hk <;> omega
    · by_cases hk : k.1 ≤ s.share
      · exact .inl ⟨hnone, hretired hk⟩
      · refine .inr (.inl ⟨hnone, ?_⟩)
        rw [hfresh, shareAttempts, if_neg (by omega)]
  · have hretired : k.1 = s.share → ShareOver t k := fun hk => .inr ⟨hk.trans hshare.symm, hended⟩
    constructor
    · intro hk
      refine ⟨?_, hnone⟩
      obtain hlt | ⟨heq, -⟩ := hk
      · exact .inl (by omega)
      · exact hretired heq
    · by_cases hk : k.1 = s.share
      · exact .inl ⟨hnone, hretired hk⟩
      · refine .inr (.inl ⟨hnone, ?_⟩)
        rw [shareAttempts, shareAttempts, if_neg (by omega), if_neg hk]

theorem shareStep_prepareDownload (ip : String) (sessionId requestPin : Option String) (k : Nat × String) :
    ShareStep s (.prepareDownload ip sessionId requestPin) (s.prepareDownload ip sessionId requestPin) k := by
  obtain ⟨hsame, hnone⟩ | ⟨state, r, hstate, hshare, hafter, hentry⟩ := prepareDownload_cases s ip sessionId requestPin
  · exact hsame.shareStep (by rw [hnone]; rfl)
  · have hbefore : ∀ ip', shareAttempts s (s.share, ip') = state.pinAttempts ip' := by
      intro ip'
      rw [shareAttempts, if_pos rfl, hstate]
      rfl
    have hattempts : ∀ k, shareAttempts (s.prepareDownload ip sessionId requestPin) k =
        if k = (s.share, ip) then (check (shareAttempts s (s.share, ip)) r).2 else shareAttempts s k := by
      intro k
      obtain ⟨share, ip'⟩ := k
      by_cases hk : share = s.share
      · subst hk
        rw [hbefore, hbefore, shareAttempts, hafter, hshare, if_pos rfl]
        show Function.update state.pinAttempts ip _ ip' = _
        rw [Function.update_apply]
        simp
      · have hother : (share, ip') ≠ (s.share, ip) := fun heq => hk (congrArg Prod.fst heq)
        have hkept : ¬share = (s.prepareDownload ip sessionId requestPin).share := fun heq => hk (heq.trans hshare)
        rw [if_neg hother, shareAttempts, shareAttempts, if_neg hkept, if_neg hk]
    rw [← hbefore ip] at hentry
    constructor
    · intro hk
      obtain hlt | ⟨-, hnone⟩ := hk
      · have hother : (s.share, ip) ≠ k := fun heq => Nat.lt_irrefl _ (heq ▸ hlt)
        exact ⟨.inl (hshare ▸ hlt), by rw [hentry]; simp [own, hother]⟩
      · cases hstate.symm.trans hnone
    · rw [hentry]
      exact .inr (part_entry hattempts k)

theorem shareStep_of_step (k : Nat × String) (h : s.step e = some t) : ShareStep s e t k := by
  by_cases he : ∀ ip sessionId pin, e ≠ .prepareDownload ip sessionId pin
  · exact shareStep_other k h he
  · push Not at he
    obtain ⟨ip, sessionId, requestPin, rfl⟩ := he
    obtain rfl := Option.some_inj.mp h
    exact shareStep_prepareDownload ip sessionId requestPin k

end Web

/-! ### Runs -/

theorem uploads_follow (ip : String) (events : List (ReceiveConfig × ReceiveEvent)) :
    Follows check 0 (own ip (receiveServerSet.log checkedUploads receiveServerSet.init events)) := by
  have hretired : Retired receiveServerSet checkedUploads fun _ _ => False := ⟨fun _ _ _ _ _ h => h, fun _ _ _ h => h.elim⟩
  show Follows check (attempts receiveServerSet.init ip) _
  refine log_follows hretired attempts (fun s e hst => ?_) (fun s e t k hst => .inr (checkedUploads_step k hst)) ip events _
  have hnone : uploadRequests s e = [] := by
    unfold uploadRequests
    rw [show s.step e.1 e.2 = none from hst]
    split <;> rfl
  rw [checkedUploads, hnone, ite_self]

theorem downloads_follow (k : Nat × String) (events : List WebShareEvent) :
    Follows check 0 (own k (webShare.log checkedDownloads webShare.init events)) := by
  have hdisabled : ∀ s e, webShare.step s e = none → checkedDownloads s e = [] := by
    intro s e hst
    have hnone : downloadRequests s e = [] := by
      unfold downloadRequests
      rw [show s.step e = none from hst]
      split <;> rfl
    rw [checkedDownloads, hnone, ite_self]
  have hretired : Retired webShare checkedDownloads ShareOver := by
    refine ⟨fun s e t k hst hk => ((shareStep_of_step k hst).ended hk).1, fun s e k hk => ?_⟩
    cases hst : webShare.step s e with
    | none =>
      rw [hdisabled s e hst]
      rfl
    | some t => exact ((shareStep_of_step k hst).ended hk).2
  have hinit : shareAttempts webShare.init k = 0 := by
    unfold shareAttempts
    split <;> rfl
  have hfollows := log_follows hretired shareAttempts hdisabled (fun s e t k hst => (shareStep_of_step k hst).part) k events
    webShare.init
  rwa [hinit] at hfollows

/-- Of the requests that are checked, an address is answered by its own guesses: two wrong ones
are refused, the third locks it out, and nothing others ask has a part in it. -/
theorem pin_lockout : PinLockout (receiveServerSet.log checkedUploads receiveServerSet.init) ∧
    PinLockout (webShare.log checkedDownloads webShare.init) :=
  ⟨pinLockout_of_follows uploads_follow, pinLockout_of_follows downloads_follow⟩

def guessed : List (ReceiveConfig × ReceiveEvent) :=
  [.prepareUpload "10.0.0.2" (some "1"), .prepareUpload "10.0.0.2" (some "2"), .prepareUpload "10.0.0.2" (some "3"),
    .prepareUpload "10.0.0.3" (some "123456"),
    .bodyRead 3 (some { files := [{ id := "1", fileName := "a.txt" }] }), .directoriesResolved 3 false,
    .prepareUpload "10.0.0.2" (some "123456")].map fun e => ({ receivePin := some "123456" }, e)

def permitted : List WebShareEvent :=
  [.initializeWebSend ["1"] true, .setWebSendPin (some "123456"), .prepareDownload "10.0.0.2" none (some "123456"),
    .pinChecked 0, .prepareDownload "10.0.0.2" none (some "1"), .prepareDownload "10.0.0.2" none (some "2"),
    .prepareDownload "10.0.0.2" none (some "3"), .prepareDownload "10.0.0.2" (some "10.0.0.2") none]

/-- Locked out, an address is answered 409 while another has a session, and served the files
of the session it got before. -/
theorem not_every_request : ¬PinLockout (receiveServerSet.log uploadRequests receiveServerSet.init) ∧
    ¬PinLockout (webShare.log downloadRequests webShare.init) := by
  refine ⟨fun h => ?_, fun h => ?_⟩
  · have hlast := h.lockout "10.0.0.2" guessed [(⟨"123456", some "1"⟩, some 401), (⟨"123456", some "2"⟩, some 401),
      (⟨"123456", some "3"⟩, some 429)] ⟨"123456", some "123456"⟩ (some 409) [] (by decide)
    exact absurd hlast (by decide)
  · have hlast := h.lockout (1, "10.0.0.2") permitted [(⟨"123456", some "123456"⟩, none), (⟨"123456", some "1"⟩, some 401),
      (⟨"123456", some "2"⟩, some 401), (⟨"123456", some "3"⟩, some 429)] ⟨"123456", none⟩ (some 200) [] rfl
    exact absurd hlast (by decide)

end MagicShare.Send
