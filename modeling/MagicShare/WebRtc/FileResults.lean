import MagicShare.WebRtc.Delivery

/-! What becomes of the results of single files.

The receiver answers every file with a response, and the sender is to take them
all and to publish the failures. It takes a single one and looks at none, so the
results reach it only when there is one file and it succeeded
(`results_reach_iff`). -/
namespace MagicShare.WebRtc
open Network Transition.System

/-- The outcomes of the queued files, in the order they are received. -/
def Transfer.assign (t : Transfer) (outcome : Fin t.queue.length → Outcome) (k : Nat) : Outcome :=
  if h : k < t.queue.length then outcome ⟨k, h⟩ else .success

/-- One response per file with that file's outcome, and every file that is read to its
end is complete. -/
structure Answered (t : Transfer) (outcome : Nat → Outcome) (σ : TransferState) : Prop where
  responses : (σ.chan .up).written = t.responses outcome t.queue
  delivered : ∀ k f, t.queue[k]? = some f → (outcome k).stop = none →
    (handedOver σ)[k]? = some (f.fileId, f.pieces.flatten)

/-- The sender took all responses and published the failures. -/
structure Reported (t : Transfer) (outcome : Nat → Outcome) (σ : TransferState) : Prop where
  taken : (σ.chan .up).taken = t.responses outcome t.queue
  published : ∀ k f, t.queue[k]? = some f → outcome k ≠ .success →
    ∃ e ∈ (σ.chan .sendErrors).written, e.fileId = f.fileId

/-- Every schedule ends with all files answered, and the sender is not done before it
has taken the answers. -/
structure ResultsReach (t : Transfer) (outcome : Nat → Outcome) : Prop where
  answered : (t.system outcome).Settles t.start (Answered t outcome)
  reported : ∀ σ, (t.system outcome).Leads t.start σ → σ.ctl .sender = .done .ok →
    Reported t outcome σ

/-- While no file is given up on early, the receiver's side is as it should be. -/
theorem answered_of_readsToTheEnd {t : Transfer} {outcome : Nat → Outcome}
    (h : ReadsToTheEnd outcome) (hjson : HeadersReadBack t) (hne : t.queue ≠ []) :
    (t.system outcome).Settles t.start (Answered t outcome) := by
  refine (completes h hjson hne).mono fun σ hσ => ⟨hσ.responses, fun k f hk _ => ?_⟩
  rw [hσ.handedOver, List.getElem?_map, hk]
  rfl

/-- `send(..).await?` where the application has dropped the file. -/
theorem receiver_refused {t : Transfer} {outcome : Nat → Outcome} {s : SendCtl} {a : AppCtl}
    {w : Channels} {state : RTCFileState} (hdropped : (w.binary state.binaryTx).dropped = true)
    (data : Bytes) (opened : Nat) :
    (t.system outcome).Leads (config s (.forwarding state data opened) a w)
      (config s (.done .err) a w) := by
  have hput : w.put (.binary state.binaryTx) (w.binary state.binaryTx) = w := by
    simp only [Channels.put, Function.update_eq_self]
  have hrefused : (t.system outcome).Leads (config s (.forwarding state data opened) a w)
      (config s (.done .err) a (w.put (.binary state.binaryTx) (w.binary state.binaryTx))) :=
    receiver_on rfl (Op.send_of_dropped hdropped)
  rwa [hput] at hrefused

/-- **A file given up on can take the others with it.** If the application drops the first
file before its first chunk is passed on, the receiving loop ends, with no response. -/
theorem dropped_file_ends_receiver {t : Transfer} {outcome : Nat → Outcome} {f : OutgoingFile}
    {rest : List OutgoingFile} {error : Option String} (hjson : HeadersReadBack t)
    (hqueue : t.queue = f :: rest) (hcontent : f.pieces.flatten ≠ [])
    (hdrops : outcome 0 = .failure error (some ⟨0, true⟩)) :
    ∃ w, (t.system outcome).Leads t.start
      (config .awaiting (.done .err) (.reporting 0 ⟨f.fileId, 0⟩) w) ∧ w.up = .new := by
  obtain ⟨size, hheader⟩ := readHeader_of_mem hjson (f := f) (by simp [hqueue]) 0
  obtain ⟨chunk, chunks, hchunks⟩ : ∃ chunk chunks, processInChunks [] f.pieces = chunk :: chunks := by
    refine List.exists_cons_of_ne_nil fun hnil => hcontent ?_
    have := processInChunks_flatten [] f.pieces
    rw [hnil] at this
    exact this.symm
  have hwire : t.wire t.queue = text (t.header.toString (t.headerOf f)) ::
      binary chunk :: (chunks.map binary ++ t.wire rest) := by
    simp [hqueue, Transfer.wire, hchunks]
  have hsent := leads_to_wire t outcome
  rw [hwire] at hsent
  have hfirst : onMessage t 0 none (text (t.header.toString (t.headerOf f))) =
      .handingOver ⟨f.fileId, size, 0⟩ := hheader
  have hdrop : appAct outcome (.reading 0 ⟨f.fileId, 0⟩ 0) =
      .on (.binary 0) (.drop (.reporting 0 ⟨f.fileId, 0⟩)) := by
    simp only [appAct, Outcome.stops, hdrops]
    rfl
  refine ⟨{
    down := ⟨[text (t.header.toString (t.headerOf f)), binary chunk],
      chunks.map binary ++ t.wire rest, false, false⟩
    up := .new
    sendErrors := .new
    receiveErrors := .new
    receiving := ⟨[⟨f.fileId, 0⟩], [], false, false⟩
    binary := Function.update (fun _ => .new) 0 ⟨[], [], false, true⟩
    results := .new }, hsent.trans ((receiver_takes rfl none 0).trans ?_), rfl⟩
  rw [hfirst]
  refine Leads.trans (receiver_hands_over (by rfl) _) ?_
  refine Leads.trans (app_takes (by rfl) _) ?_
  refine Leads.trans (app_on hdrop (by rfl)) ?_
  refine Leads.trans (receiver_takes (by rfl) _ _) ?_
  refine Leads.trans (receiver_refused ?_ _ _) ?_
  · rfl
  · exact Leads.refl _

/-! ### What the sender takes -/

/-- What the sender has taken and published, by where it is. -/
def SenderTook (t : Transfer) (taken : List DataChannelMessage) : SendCtl → Prop
  | .next queue => taken = [] ∧ ∀ f ∈ queue, f.fileId ∈ t.selectedFiles
  | .chunks _ _ rest => taken = [] ∧ ∀ f ∈ rest, f.fileId ∈ t.selectedFiles
  | .failed _ _ => False
  | .finishing => taken = []
  | .awaiting => taken = []
  | .done result => taken.length ≤ 1 ∧ result = .ok

/-- The sender can always go on up to its one response, and publishes nothing. -/
structure SenderInv (t : Transfer) (σ : TransferState) : Prop where
  down : (σ.chan .down).closed = false ∧ (σ.chan .down).dropped = false
  up : (σ.chan .up).closed = false
  errors : σ.chan .sendErrors = .new
  took : SenderTook t (σ.chan .up).taken (σ.ctl .sender)

section Took
variable {t : Transfer} {outcome : Nat → Outcome} {σ τ : TransferState}

theorem SenderInv.start (t : Transfer) : SenderInv t t.start :=
  ⟨⟨rfl, rfl⟩, rfl, rfl, rfl, t.queueSelected⟩

/-- A message down and a control state with nothing taken yet. -/
theorem SenderInv.sends (h : SenderInv t σ) {l sent refused : SendCtl} {msg : DataChannelMessage}
    {ch : Chan DataChannelMessage}
    (happly : (Op.send msg sent refused).apply none (σ.chan .down) = some (l, ch))
    (hsent : SenderTook t (σ.chan .up).taken sent) :
    SenderInv t ((σ.goto .sender l).put .down ch) := by
  obtain ⟨hdropped, -, -⟩ | ⟨-, -, -, rfl, rfl⟩ := Op.send_cases happly
  · rw [h.down.2] at hdropped
    cases hdropped
  · exact {
      down := by simpa using h.down
      up := by simpa [State.put_chan_of_ne] using h.up
      errors := by simpa [State.put_chan_of_ne] using h.errors
      took := by simpa [State.put_chan_of_ne] using hsent }

theorem SenderInv.goes (h : SenderInv t σ) {l : SendCtl}
    (hl : SenderTook t (σ.chan .up).taken l) : SenderInv t (σ.goto .sender l) :=
  ⟨h.down, h.up, h.errors, by simpa using hl⟩

theorem SenderInv.sender_step (h : SenderInv t σ)
    (hstep : (t.net outcome).step σ .sender = some τ) : SenderInv t τ := by
  have htook := h.took
  obtain ⟨next, hact, rfl⟩ | ⟨c, op, l, ch, hact, happly, rfl⟩ := Net.step_cases hstep
  · change sendAct t (σ.ctl .sender) = .tau next at hact
    cases hs : σ.ctl .sender with
    | next queue =>
      rw [hs] at hact htook
      cases queue with
      | nil =>
        cases hact
        exact h.goes htook.1
      | cons f rest =>
        rw [sendAct_next (htook.2 f (by simp))] at hact
        cases hact
    | chunks fileId more rest =>
      rw [hs] at hact htook
      cases more with
      | nil =>
        cases hact
        exact h.goes htook
      | cons => cases hact
    | failed => rw [hs] at hact; cases hact
    | finishing => rw [hs] at hact; cases hact
    | awaiting => rw [hs] at hact; cases hact
    | done => rw [hs] at hact; cases hact
  · change sendAct t (σ.ctl .sender) = .on c op at hact
    cases hs : σ.ctl .sender with
    | next queue =>
      rw [hs] at hact htook
      cases queue with
      | nil => cases hact
      | cons f rest =>
        rw [sendAct_next (htook.2 f (by simp))] at hact
        cases hact
        exact h.sends happly ⟨htook.1, fun g hg => htook.2 g (List.mem_cons_of_mem _ hg)⟩
    | chunks fileId more rest =>
      rw [hs] at hact htook
      cases more with
      | nil => cases hact
      | cons chunk more =>
        cases hact
        exact h.sends happly htook
    | failed =>
      rw [hs] at htook
      exact htook.elim
    | finishing =>
      rw [hs] at hact htook
      cases hact
      exact h.sends happly htook
    | awaiting =>
      rw [hs] at hact htook
      cases hact
      obtain ⟨msg, rest, -, rfl, rfl⟩ | ⟨-, hclosed, -, -⟩ := Op.recv_cases happly
      · have htaken : (σ.chan .up).taken = [] := htook
        exact {
          down := by simpa [State.put_chan_of_ne] using h.down
          up := by simpa using h.up
          errors := by simpa [State.put_chan_of_ne] using h.errors
          took := by simp [SenderTook, htaken] }
      · rw [h.up] at hclosed
        cases hclosed
    | done =>
      rw [hs] at hact
      cases hact

/-- A move of another task on a channel the sender does not use. -/
theorem SenderInv.elsewhere (h : SenderInv t σ) {p : Party} (hp : p ≠ .sender) (l : p.Ctl)
    {c : Channel} (ch : Chan c.Value) (hdown : .down ≠ c) (hup : .up ≠ c)
    (herrors : .sendErrors ≠ c) : SenderInv t ((σ.goto p l).put c ch) where
  down := by simpa only [State.put_chan_of_ne _ _ hdown, State.goto_chan] using h.down
  up := by simpa only [State.put_chan_of_ne _ _ hup, State.goto_chan] using h.up
  errors := by simpa only [State.put_chan_of_ne _ _ herrors, State.goto_chan] using h.errors
  took := by
    rw [State.put_chan_of_ne _ _ hup, State.goto_chan, State.put_ctl,
      State.goto_ctl_of_ne _ _ hp.symm]
    exact h.took

theorem SenderInv.receiver_step (h : SenderInv t σ)
    (hstep : (t.net outcome).step σ .receiver = some τ) : SenderInv t τ := by
  obtain ⟨next, hact, rfl⟩ | ⟨c, op, l, ch, hact, happly, rfl⟩ := Net.step_cases hstep
  · change receiveAct t (σ.ctl .receiver) = .tau next at hact
    cases hr : σ.ctl .receiver <;> rw [hr] at hact <;> cases hact
  · change receiveAct t (σ.ctl .receiver) = .on c op at hact
    have hne : Party.receiver ≠ .sender := by decide
    cases hr : σ.ctl .receiver with
    | listening fileState opened =>
      rw [hr] at hact
      cases hact
      have hch : ch.closed = false ∧ ch.dropped = false := by
        obtain ⟨_, _, -, -, rfl⟩ | ⟨-, -, -, rfl⟩ := Op.recv_cases happly
        · exact h.down
        · exact h.down
      exact {
        down := by simpa using hch
        up := by simpa [State.put_chan_of_ne] using h.up
        errors := by simpa [State.put_chan_of_ne] using h.errors
        took := by
          rw [State.put_chan_of_ne _ _ (by decide), State.put_ctl,
            State.goto_ctl_of_ne _ _ hne.symm]
          exact h.took }
    | responding lastFileId error msg opened =>
      rw [hr] at hact
      cases hact
      have hch : ch.closed = false ∧ ch.taken = (σ.chan .up).taken := by
        obtain ⟨-, -, rfl⟩ | ⟨-, -, -, -, rfl⟩ := Op.send_cases happly
        · exact ⟨h.up, rfl⟩
        · exact ⟨h.up, rfl⟩
      exact {
        down := by simpa [State.put_chan_of_ne] using h.down
        up := by simpa using hch.1
        errors := by simpa [State.put_chan_of_ne] using h.errors
        took := by
          rw [State.put_chan_self, hch.2, State.put_ctl, State.goto_ctl_of_ne _ _ hne.symm]
          exact h.took }
    | done result => rw [hr] at hact; cases hact
    | _ =>
      rw [hr] at hact
      cases hact
      exact h.elsewhere hne _ _ (by simp) (by simp) (by simp)

theorem SenderInv.app_step (h : SenderInv t σ)
    (hstep : (t.net outcome).step σ .app = some τ) : SenderInv t τ := by
  have hne : Party.app ≠ .sender := by decide
  obtain ⟨next, hact, rfl⟩ | ⟨c, op, l, ch, hact, happly, rfl⟩ := Net.step_cases hstep
  · refine ⟨h.down, h.up, h.errors, ?_⟩
    rw [State.goto_ctl_of_ne _ _ hne.symm]
    exact h.took
  · change appAct outcome (σ.ctl .app) = .on c op at hact
    cases ha : σ.ctl .app with
    | reading handled file taken =>
      rw [ha] at hact
      simp only [appAct] at hact
      split at hact
      · split at hact
        · cases hact
          exact h.elsewhere hne _ _ (by simp) (by simp) (by simp)
        · cases hact
      · cases hact
        exact h.elsewhere hne _ _ (by simp) (by simp) (by simp)
    | stopped => rw [ha] at hact; cases hact
    | _ =>
      rw [ha] at hact
      cases hact
      exact h.elsewhere hne _ _ (by simp) (by simp) (by simp)

theorem SenderInv.step (p : Party) (h : SenderInv t σ)
    (hstep : (t.system outcome).step σ p = some τ) : SenderInv t τ := by
  cases p with
  | sender => exact h.sender_step hstep
  | receiver => exact h.receiver_step hstep
  | app => exact h.app_step hstep

theorem senderInv_of_leads (h : (t.system outcome).Leads t.start σ) : SenderInv t σ :=
  h.invariant (fun _ p _ hσ hstep => hσ.step p hstep) (SenderInv.start t)

/-- A sender that cannot move with a response on its way is done. -/
theorem SenderInv.done_of_stuck (h : SenderInv t σ)
    (hstuck : (t.net outcome).step σ .sender = none) (hresponse : (σ.chan .up).written ≠ []) :
    ∃ result, σ.ctl .sender = .done result := by
  have htook := h.took
  -- a message down always finds room
  have hroom : ∀ {msg sent refused}, (sendAct t (σ.ctl .sender) = .on .down (.send msg sent refused)) →
      False := by
    intro msg sent refused hact
    have := Net.step_on (N := t.net outcome) (p := .sender) hact
      (Op.send_of_room h.down.2 h.down.1 rfl)
    rw [hstuck] at this
    cases this
  have htau : ∀ {next}, sendAct t (σ.ctl .sender) = .tau next → False := by
    intro next hact
    have := Net.step_tau (N := t.net outcome) (p := .sender) hact
    rw [hstuck] at this
    cases this
  cases hs : σ.ctl .sender with
  | next queue =>
    rw [hs] at htook
    cases queue with
    | nil => exact (htau (by rw [hs]; rfl)).elim
    | cons f rest =>
      have hnext := sendAct_next (htook.2 f (by simp)) rest
      exact (hroom ((congrArg (sendAct t) hs).trans hnext)).elim
  | chunks fileId more rest =>
    cases more with
    | nil => exact (htau (by rw [hs]; rfl)).elim
    | cons chunk more => exact (hroom (by rw [hs]; rfl)).elim
  | failed =>
    rw [hs] at htook
    exact htook.elim
  | finishing => exact (hroom (by rw [hs]; rfl)).elim
  | awaiting =>
    rw [hs] at htook
    have htaken : (σ.chan .up).taken = [] := htook
    rw [Chan.written, htaken, List.nil_append] at hresponse
    obtain ⟨msg, rest, hqueue⟩ := List.exists_cons_of_ne_nil hresponse
    have := Net.step_on (N := t.net outcome) (p := .sender) (c := .up)
      (congrArg (sendAct t) hs) (Op.recv_of_cons hqueue)
    rw [hstuck] at this
    cases this
  | done result => exact ⟨result, rfl⟩

end Took

/-! ### When the results reach the sender -/

section Reach
variable {t : Transfer}

theorem responses_length (t : Transfer) (outcome : Nat → Outcome) (files : List OutgoingFile) :
    (t.responses outcome files).length = files.length := by
  simp [Transfer.responses]

/-- A sender that is done takes nothing more. -/
theorem taken_after_done {outcome : Nat → Outcome} {σ τ : TransferState} {result : TaskResult}
    (h : (t.system outcome).Leads σ τ) (hσ : σ.ctl .sender = .done result) :
    (τ.chan .up).taken = (σ.chan .up).taken := by
  have hkeeps := h.invariant
    (I := fun τ => τ.ctl .sender = .done result ∧ (τ.chan .up).taken = (σ.chan .up).taken) ?_
    ⟨hσ, rfl⟩
  · exact hkeeps.2
  · intro τ p υ hτ hstep
    have hne : Party.sender ≠ p := by
      rintro rfl
      have hhalt : (t.net outcome).step τ .sender = none :=
        Net.step_halt (congrArg (sendAct t) hτ.1)
      rw [show (t.system outcome).step τ .sender = none from hhalt] at hstep
      cases hstep
    exact ⟨(Net.step_ctl_of_ne hstep hne).trans hτ.1,
      (Net.step_taken_of_ne (N := t.net outcome) (c := .up) hstep hne).trans hτ.2⟩

/-- What settled results say about the outcomes: the sender ends with one response
taken and nothing published. -/
theorem one_success_of_results_reach {outcome : Nat → Outcome} (hne : t.queue ≠ [])
    (h : ResultsReach t outcome) :
    t.queue.length = 1 ∧ ∀ k, k < t.queue.length → outcome k = .success := by
  obtain ⟨z, hz, hstuck, hanswered⟩ := h.answered.completes (Leads.refl _)
  have hinv := senderInv_of_leads hz
  have hsome : (z.chan .up).written ≠ [] := by
    rw [hanswered.responses, ← List.length_pos_iff, responses_length]
    exact List.length_pos_iff.mpr hne
  obtain ⟨result, hdone⟩ := hinv.done_of_stuck (hstuck .sender) hsome
  have htook := hinv.took
  rw [hdone] at htook
  obtain ⟨hfew, rfl⟩ := htook
  have hreported := h.reported z hz hdone
  rw [hreported.taken, responses_length] at hfew
  have hpos := List.length_pos_iff.mpr hne
  refine ⟨by omega, fun k hk => ?_⟩
  by_contra hfail
  obtain ⟨e, he, -⟩ := hreported.published k _ (List.getElem?_eq_getElem hk) hfail
  rw [hinv.errors] at he
  cases he

theorem results_reach_of_one_success {outcome : Nat → Outcome} (hjson : HeadersReadBack t)
    (hone : t.queue.length = 1) (hsuccess : ∀ k, outcome k = .success) :
    ResultsReach t outcome := by
  have hne : t.queue ≠ [] := List.length_pos_iff.mp (by omega)
  have hreads : ReadsToTheEnd outcome := fun k => by rw [hsuccess k]; rfl
  refine ⟨answered_of_readsToTheEnd hreads hjson hne, fun σ hσ hdone => ⟨?_, ?_⟩⟩
  · obtain ⟨z, hz, -, hcompleted⟩ := (completes hreads hjson hne).completes hσ
    rw [← taken_after_done hz hdone, hcompleted.taken]
    exact List.take_of_length_le (by rw [responses_length]; omega)
  · intro k f _ hfail
    exact absurd (hsuccess k) hfail

/-- **The results reach the sender exactly when one file is sent and it succeeds.** -/
theorem results_reach_iff (hjson : HeadersReadBack t) (hne : t.queue ≠ [])
    (outcome : Fin t.queue.length → Outcome) :
    ResultsReach t (t.assign outcome) ↔
      t.queue.length = 1 ∧ ∀ k, outcome k = .success := by
  constructor
  · intro h
    obtain ⟨hone, hsuccess⟩ := one_success_of_results_reach hne h
    refine ⟨hone, fun k => ?_⟩
    have := hsuccess k k.isLt
    rwa [Transfer.assign, dif_pos k.isLt] at this
  · rintro ⟨hone, hsuccess⟩
    refine results_reach_of_one_success hjson hone fun k => ?_
    by_cases hk : k < t.queue.length
    · rw [Transfer.assign, dif_pos hk, hsuccess]
    · rw [Transfer.assign, dif_neg hk]

theorem results_reach_one_note :
    ResultsReach oneNote (oneNote.assign fun _ => .success) :=
  (results_reach_iff ⟨by decide +kernel, by decide +kernel, by decide +kernel⟩ (by decide)
    fun _ => .success).mpr ⟨rfl, fun _ => rfl⟩

/-- The accepted file is queued, and the disk is full at the other end. -/
theorem failed_file_not_reported :
    ¬ ResultsReach oneNote (oneNote.assign fun _ => .failure (some "disk full") none) := by
  intro h
  have hsuccess := (one_success_of_results_reach (by decide) h).2 0 (by decide)
  cases hsuccess

/-- The accepted file is queued twice; both copies arrive well. -/
def twoNotes : Transfer := noteTransfer [⟨"note", [[1], [2]]⟩, ⟨"note", [[3]]⟩] (by decide)

theorem second_response_not_taken :
    ¬ ResultsReach twoNotes (twoNotes.assign fun _ => .success) := by
  intro h
  have hone := (one_success_of_results_reach (by decide) h).1
  cases hone

end Reach

end MagicShare.WebRtc
