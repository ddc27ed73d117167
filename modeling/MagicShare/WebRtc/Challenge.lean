import MagicShare.WebRtc.Pin

/-! One challenge, seen from both sides.

A `View` says where the peer that asks and the peer that is asked stand and what is
on its way between them; `Goes` leads from view to view. Both challenges of a
connection are the same loop from here: the framing is dealt with where a result is
read (`handler_reads`), and a challenge passes at the first right guess within the
tries (`challenge_passes`) or ends with too many attempts on both sides
(`challenge_fails`). -/
namespace MagicShare.WebRtc
open Network Transition.System

variable {Files : Type} {x : Setup Files} {v h : Peer}

/-! ### Views -/

/-- The peer that asks, the peer that is asked, and the messages between them. -/
structure View (Files : Type) (v h : Peer) where
  verifier : v.Ctl Files
  handler : h.Ctl Files
  toVerifier : List DataChannelMessage
  toHandler : List DataChannelMessage

def View.swap (a : View Files v h) : View Files h v :=
  ⟨a.handler, a.verifier, a.toHandler, a.toVerifier⟩

/-- A state as the two peers see it. -/
structure Facing (σ : PinState Files) (a : View Files v h) : Prop where
  verifier : σ.ctl v = a.verifier
  handler : σ.ctl h = a.handler
  toVerifier : (σ.chan (.inbox v)).queue = a.toVerifier
  toHandler : (σ.chan (.inbox h)).queue = a.toHandler
  allOpen : ∀ c, (σ.chan c).closed = false ∧ (σ.chan c).dropped = false

theorem Facing.swap {σ : PinState Files} {a : View Files v h} (hσ : Facing σ a) :
    Facing σ a.swap :=
  ⟨hσ.handler, hσ.verifier, hσ.toHandler, hσ.toVerifier, hσ.allOpen⟩

/-- Every state with the first view leads to one with the second. -/
def Goes (x : Setup Files) (a b : View Files v h) : Prop :=
  ∀ σ, Facing σ a → ∃ τ, x.system.Leads σ τ ∧ Facing τ b

namespace Goes

theorem refl (a : View Files v h) : Goes x a a := fun σ hσ => ⟨σ, Leads.refl σ, hσ⟩

theorem trans {a b c : View Files v h} (hab : Goes x a b) (hbc : Goes x b c) : Goes x a c := by
  intro σ hσ
  obtain ⟨τ, hleads, hτ⟩ := hab σ hσ
  obtain ⟨υ, hmore, hυ⟩ := hbc τ hτ
  exact ⟨υ, hleads.trans hmore, hυ⟩

theorem swap {a b : View Files v h} (hab : Goes x a.swap b.swap) : Goes x a b := by
  intro σ hσ
  obtain ⟨τ, hleads, hτ⟩ := hab σ hσ.swap
  exact ⟨τ, hleads, hτ.swap⟩

theorem swapped {a b : View Files v h} (hab : Goes x a b) : Goes x a.swap b.swap := by
  intro σ hσ
  obtain ⟨τ, hleads, hτ⟩ := hab σ hσ.swap
  exact ⟨τ, hleads, hτ.swap⟩

end Goes

theorem Peer.other_eq (hvh : v ≠ h) : v.other = h := by
  cases v <;> cases h <;> first | rfl | exact absurd rfl hvh

/-! ### Moves of the peer that asks; those of the other are the same, swapped -/

section Moves
variable {l l' refused : v.Ctl Files} {k : h.Ctl Files} {m u : List DataChannelMessage}

theorem goes_tau (hvh : v ≠ h) (hact : x.act v l = .tau l') :
    Goes x ⟨l, k, m, u⟩ ⟨l', k, m, u⟩ := by
  intro σ hσ
  have hstep := Net.step_tau (N := x.net) ((congrArg (x.act v) hσ.verifier).trans hact)
  refine ⟨_, Leads.single hstep, ?_⟩
  exact {
    verifier := State.goto_ctl_self ..
    handler := (State.goto_ctl_of_ne _ _ hvh.symm).trans hσ.handler
    toVerifier := hσ.toVerifier
    toHandler := hσ.toHandler
    allOpen := hσ.allOpen }

/-- A move on one channel, by what becomes of that channel. -/
theorem goes_on (hvh : v ≠ h) {c : PinChannel} {op : Op c.Value (v.Ctl Files)}
    {m' u' : List DataChannelMessage} (hact : x.act v l = .on c op)
    (hop : ∀ σ : PinState Files, Facing σ (⟨l, k, m, u⟩ : View Files v h) →
      ∃ ch, op.apply none (σ.chan c) = some (l', ch) ∧ ch.closed = false ∧ ch.dropped = false ∧
        ((σ.put c ch).chan (.inbox v)).queue = m' ∧ ((σ.put c ch).chan (.inbox h)).queue = u') :
    Goes x ⟨l, k, m, u⟩ ⟨l', k, m', u'⟩ := by
  intro σ hσ
  obtain ⟨ch, happly, hclosed, hdropped, hmv, hmh⟩ := hop σ hσ
  have hstep := Net.step_on (N := x.net) ((congrArg (x.act v) hσ.verifier).trans hact) happly
  refine ⟨_, Leads.single hstep, ?_⟩
  exact {
    verifier := State.goto_ctl_self ..
    handler := (State.goto_ctl_of_ne _ _ hvh.symm).trans hσ.handler
    toVerifier := hmv
    toHandler := hmh
    allOpen := by
      intro d
      by_cases hdc : d = c
      · subst hdc
        rw [State.put_chan_self]
        exact ⟨hclosed, hdropped⟩
      · rw [State.put_chan_of_ne _ _ hdc]
        exact hσ.allOpen d }

theorem goes_status (hvh : v ≠ h) {status : RTCStatus}
    (hact : x.act v l = .on (.status v) (.send status l' refused)) :
    Goes x ⟨l, k, m, u⟩ ⟨l', k, m, u⟩ := by
  refine goes_on hvh hact fun σ hσ => ?_
  obtain ⟨hclosed, hdropped⟩ := hσ.allOpen (.status v)
  refine ⟨_, Op.send_of_room hdropped hclosed rfl, hclosed, hdropped, ?_, ?_⟩
  · rw [State.put_chan_of_ne _ _ (by simp)]
    exact hσ.toVerifier
  · rw [State.put_chan_of_ne _ _ (by simp)]
    exact hσ.toHandler

theorem goes_sends (hvh : v ≠ h) {msg : DataChannelMessage}
    (hact : x.act v l = .on (.inbox v.other) (.send msg l' refused)) :
    Goes x ⟨l, k, m, u⟩ ⟨l', k, m, u ++ [msg]⟩ := by
  refine goes_on hvh hact fun σ hσ => ?_
  obtain rfl := Peer.other_eq hvh
  obtain ⟨hclosed, hdropped⟩ := hσ.allOpen (.inbox v.other)
  refine ⟨_, Op.send_of_room hdropped hclosed rfl, hclosed, hdropped, ?_, ?_⟩
  · rw [State.put_chan_of_ne _ _ (by simpa using hvh)]
    exact hσ.toVerifier
  · rw [State.put_chan_self]
    exact congrArg (· ++ [msg]) hσ.toHandler

theorem goes_receives (hvh : v ≠ h) {msg : DataChannelMessage}
    {got : DataChannelMessage → v.Ctl Files}
    (hact : x.act v l = .on (.inbox v) (.recv got refused)) :
    Goes x ⟨l, k, msg :: m, u⟩ ⟨got msg, k, m, u⟩ := by
  refine goes_on hvh hact fun σ hσ => ?_
  obtain ⟨hclosed, hdropped⟩ := hσ.allOpen (.inbox v)
  refine ⟨_, Op.recv_of_cons hσ.toVerifier, hclosed, hdropped, ?_, ?_⟩
  · rw [State.put_chan_self]
  · rw [State.put_chan_of_ne _ _ (by simpa using hvh.symm)]
    exact hσ.toHandler

end Moves

/-! ### What the loops rely on in the JSON -/

/-- Every message of the PIN phases is read back, and nothing is not a result. -/
structure PinJsonReadsBack (x : Setup Files) : Prop where
  token : x.tokenJson.ReadsBack (tokenResponse x)
  pin : ∀ p n, x.pinJson.ReadsBack ⟨x.guess p n⟩
  receiving : ∀ r, x.receivingJson.ReadsBack r
  pinRequired : x.sendingJson.ReadsBack .pinRequired
  tooManyAttempts : x.sendingJson.ReadsBack .tooManyAttempts
  files : x.sendingJson.ReadsBack (.ok x.files)
  nothingFails : x.sendingJson.fromSlice [] = none

/-! ### Sides that are in the loops -/

/-- A peer inside `verify_pin`. -/
def asking (p : Peer) (config : PinConfig) (handled : Option (Except String Unit))
    (ctl : VerifyCtl) : p.Ctl Files := ⟨.verifying config ctl, handled, none⟩

/-- A peer inside `handle_pin`. -/
def asked (p : Peer) (verified : Option (Except String Unit))
    (ctl : HandleCtl (p.Asked Files)) : p.Ctl Files := ⟨.handling ctl, none, verified⟩

section Rounds
variable {c : PinConfig} {r q : Option (Except String Unit)}
variable {m u : List DataChannelMessage}

theorem verifier_sends (hvh : v ≠ h) (more : List DataChannelMessage) (sent refused : VerifyCtl)
    (k : h.Ctl Files) :
    Goes x ⟨asking v c r (.sending more sent refused), k, m, u⟩
      ⟨asking v c r sent, k, m, u ++ more⟩ := by
  induction more generalizing u with
  | nil =>
    rw [List.append_nil]
    exact goes_tau hvh rfl
  | cons msg more ih =>
    have hrest := ih (u := u ++ [msg])
    rw [List.append_assoc] at hrest
    exact (goes_sends hvh rfl).trans hrest

/-- The PIN arrives, and the loop starts over. -/
theorem verifier_reads (hjson : PinJsonReadsBack x) (hvh : v ≠ h) (n pinTry : Nat)
    (k : h.Ctl Files) :
    Goes x ⟨asking v c r (.receive pinTry), k,
        text (x.pinJson.toString ⟨x.guess h n⟩) :: m, u⟩
      ⟨asking v c r (verifyLoop x v c (x.guess h n) (pinTry + 1) false), k, m, u⟩ := by
  have hread : x.pinJson.fromSlice (x.pinJson.toString ⟨x.guess h n⟩) =
      some ⟨x.guess h n⟩ := hjson.pin h n
  have hgoes : Goes x ⟨asking v c r (.receive pinTry), k,
      text (x.pinJson.toString ⟨x.guess h n⟩) :: m, u⟩ ⟨_, k, m, u⟩ :=
    goes_receives hvh rfl
  simp only [text_data, hread] at hgoes
  exact hgoes

/-- The user is asked and the PIN sent. -/
theorem handler_sends (hvh : v ≠ h) (n : Nat) (k : v.Ctl Files) :
    Goes x ⟨k, asked h q (.notify n), m, u⟩
      ⟨k, asked h q (.receive n []), m ++ [text (x.pinJson.toString ⟨x.guess h n⟩)], u⟩ := by
  have hstatus : Goes x (View.mk (asked h q (.notify n)) k u m)
      ⟨asked h q (.sendPin n), k, u, m⟩ := goes_status hvh.symm rfl
  have hsends : Goes x (View.mk (asked h q (.sendPin n)) k u m)
      ⟨asked h q (.receive n []), k, u,
        m ++ [text (x.pinJson.toString ⟨x.guess h n⟩)]⟩ := goes_sends hvh.symm rfl
  exact (hstatus.trans hsends).swap

/-- A text that answers the sender's PIN. -/
theorem sender_reads_text (data : Bytes) (n : Nat) (k : Peer.receiver.Ctl Files) :
    Goes x ⟨k, asked .sender q (.receive n []), m, text data :: u⟩
      ⟨k, asked .sender q (onResponse n (parseResponse x .sender data)), m, u⟩ := by
  have hread : Goes x (View.mk (asked .sender q (.receive n [])) k (text data :: u) m)
      ⟨_, k, u, m⟩ := goes_receives (by decide) rfl
  exact hread.swap

/-- Chunks and a delimiter that answer the receiver's PIN. -/
theorem receiver_reads_chunks (chunks : List Bytes) (n : Nat) (buffer : Bytes)
    (k : Peer.sender.Ctl Files) :
    Goes x ⟨k, asked .receiver q (.receive n buffer), m, chunks.map binary ++ delimiter :: u⟩
      ⟨k, asked .receiver q
        (onResponse n (parseResponse x .receiver (buffer ++ chunks.flatten))), m, u⟩ := by
  induction chunks generalizing buffer with
  | nil =>
    rw [List.flatten_nil, List.append_nil]
    have hread : Goes x (View.mk (asked .receiver q (.receive n buffer)) k (delimiter :: u) m)
        ⟨_, k, u, m⟩ := goes_receives (by decide) rfl
    exact hread.swap
  | cons chunk chunks ih =>
    have hrest := ih (buffer ++ chunk)
    rw [List.append_assoc] at hrest
    have hread : Goes x (View.mk (asked .receiver q (.receive n buffer)) k
        (binary chunk :: (chunks.map binary ++ delimiter :: u)) m)
        ⟨_, k, chunks.map binary ++ delimiter :: u, m⟩ := goes_receives (by decide) rfl
    exact Goes.trans hread.swap hrest

/-- What the asked peer does after a result. -/
def afterResult {T : Type} (n : Nat) : VerifyPinResult → HandleCtl T
  | .pinRequired => .notify (n + 1)
  | .tooManyAttempts => .tooMany

theorem receiver_reads_chunked (string : Bytes) (n : Nat) (k : Peer.sender.Ctl Files) :
    Goes x ⟨k, asked .receiver q (.receive n []), m, chunked string ++ u⟩
      ⟨k, asked .receiver q (onResponse n (parseResponse x .receiver string)), m, u⟩ := by
  have hread := receiver_reads_chunks (x := x) (q := q) (m := m) (u := u)
    (sendStringInChunks string) n [] k
  rw [sendStringInChunks_flatten, List.nil_append] at hread
  rw [chunked, List.append_assoc]
  exact hread

/-- **A result is understood**, in either framing. -/
theorem handler_reads (hjson : PinJsonReadsBack x) (hvh : v ≠ h) (result : VerifyPinResult)
    (n : Nat) (k : v.Ctl Files) :
    Goes x ⟨k, asked h q (.receive n []), m, resultMessages x v result ++ u⟩
      ⟨k, asked h q (afterResult n result), m, u⟩ := by
  have hrequired : x.sendingJson.fromSlice (x.sendingJson.toString .pinRequired) = some .pinRequired :=
    hjson.pinRequired
  have hmany : x.sendingJson.fromSlice (x.sendingJson.toString .tooManyAttempts) =
      some .tooManyAttempts := hjson.tooManyAttempts
  have hreceiving : ∀ r, x.receivingJson.fromSlice (x.receivingJson.toString r) = some r :=
    hjson.receiving
  cases v with
  | sender =>
    cases h with
    | sender => exact absurd rfl hvh
    | receiver =>
      cases result with
      | pinRequired =>
        have hread := receiver_reads_chunked (x := x) (q := q) (m := m) (u := u)
          (x.sendingJson.toString .pinRequired) n k
        simp only [parseResponse, hrequired] at hread
        exact hread
      | tooManyAttempts =>
        have hread := receiver_reads_chunked (x := x) (q := q) (m := m) (u := u)
          (x.sendingJson.toString .tooManyAttempts) n k
        simp only [parseResponse, hmany] at hread
        exact hread
  | receiver =>
    cases h with
    | receiver => exact absurd rfl hvh
    | sender =>
      cases result with
      | pinRequired =>
        have hread := sender_reads_text (x := x) (q := q) (m := m) (u := u)
          (x.receivingJson.toString .pinRequired) n k
        simp only [parseResponse, hreceiving] at hread
        exact hread
      | tooManyAttempts =>
        have hread := sender_reads_text (x := x) (q := q) (m := m) (u := u)
          (x.receivingJson.toString .tooManyAttempts) n k
        simp only [parseResponse, hreceiving] at hread
        exact hread

/-! ### The loop from both sides -/

/-- One guess: the loop of the peer that asks is at its head again. -/
theorem one_guess (hjson : PinJsonReadsBack x) (hvh : v ≠ h) (n : Nat) :
    Goes x ⟨asking v c r (.receive n), asked h q (.notify n), [], []⟩
      ⟨asking v c r (verifyLoop x v c (x.guess h n) (n + 1) false),
        asked h q (.receive n []), [], []⟩ :=
  (handler_sends hvh n _).trans (verifier_reads hjson hvh n n _)

theorem verifyLoop_passes {remotePin : String} (hpin : remotePin = c.pin) (pinTry : Nat)
    (notice : Bool) :
    verifyLoop x v c remotePin pinTry notice = .returned (.ok ()) := if_pos hpin

theorem verifyLoop_exhausted {remotePin : String} {pinTry : Nat}
    (hpin : remotePin ≠ c.pin) (htries : c.maxTries.toNat ≤ pinTry) (notice : Bool) :
    verifyLoop x v c remotePin pinTry notice =
      .sending (resultMessages x v .tooManyAttempts) .tooMany .tooMany := by
  rw [verifyLoop, if_neg hpin, if_pos htries]

theorem verifyLoop_again {remotePin : String} {pinTry : Nat} {notice : Bool}
    (hpin : remotePin ≠ c.pin) (htries : pinTry < c.maxTries.toNat)
    (hnotice : notice = true ∨ 0 < pinTry) :
    verifyLoop x v c remotePin pinTry notice =
      .sending (resultMessages x v .pinRequired) (.receive pinTry)
        (.returned (.error x.sendError)) := by
  rw [verifyLoop, if_neg hpin, if_neg (by omega), if_pos (by simpa using hnotice)]

/-- A wrong guess within the tries: both go into the next round. -/
theorem wrong_guess (hjson : PinJsonReadsBack x) (hvh : v ≠ h) {n : Nat}
    (hpin : x.guess h n ≠ c.pin) (htries : n + 1 < c.maxTries.toNat) :
    Goes x ⟨asking v c r (.receive n), asked h q (.notify n), [], []⟩
      ⟨asking v c r (.receive (n + 1)), asked h q (.notify (n + 1)), [], []⟩ := by
  have hguess := one_guess (x := x) (c := c) (r := r) (q := q) hjson hvh n
  rw [verifyLoop_again hpin htries (.inr (by omega))] at hguess
  have hread := handler_reads (q := q) (m := []) (u := []) hjson hvh .pinRequired n
    (asking v c r (.receive (n + 1)))
  rw [List.append_nil] at hread
  exact hguess.trans ((verifier_sends hvh _ _ _ _).trans hread)

/-- **The challenge passes at the first right guess within the tries.** -/
theorem challenge_passes (hjson : PinJsonReadsBack x) (hvh : v ≠ h) {n j : Nat} (hnj : n ≤ j)
    (hwrong : ∀ i, n ≤ i → i < j → x.guess h i ≠ c.pin) (hright : x.guess h j = c.pin)
    (htries : j < c.maxTries.toNat) :
    Goes x ⟨asking v c r (.receive n), asked h q (.notify n), [], []⟩
      ⟨asking v c r (.returned (.ok ())), asked h q (.receive j []), [], []⟩ := by
  obtain ⟨d, rfl⟩ := Nat.exists_eq_add_of_le hnj
  induction d generalizing n with
  | zero =>
    have hguess := one_guess (x := x) (c := c) (r := r) (q := q) hjson hvh n
    rw [verifyLoop_passes (by exact hright)] at hguess
    exact hguess
  | succ d ih =>
    have hnext : n + (d + 1) = n + 1 + d := by omega
    rw [hnext] at hwrong hright htries ⊢
    have hround := wrong_guess (x := x) (c := c) (r := r) (q := q) hjson hvh
      (hwrong n (Nat.le_refl _) (by omega)) (by omega)
    exact hround.trans (ih (by omega) (fun i hi hid => hwrong i (by omega) hid) hright htries)

/-- Both sides come to know that the tries are used up. -/
theorem both_give_up (hjson : PinJsonReadsBack x) (hvh : v ≠ h) (n : Nat) (sent : List DataChannelMessage) :
    Goes x ⟨asking v c r (.sending (resultMessages x v .tooManyAttempts) .tooMany .tooMany),
        asked h q (.receive n []), sent, []⟩
      ⟨asking v c r (.returned (.error "Too many requests")),
        asked h q (.returned (.error "Too many requests")), sent, []⟩ := by
  have hread := handler_reads (q := q) (m := sent) (u := []) hjson hvh .tooManyAttempts n
    (asking v c r .tooMany)
  rw [List.append_nil] at hread
  have hhandler : Goes x (View.mk (asked h q .tooMany) (asking v c r .tooMany) [] sent)
      ⟨asked h q (.returned (.error "Too many requests")), asking v c r .tooMany, [], sent⟩ :=
    goes_status hvh.symm rfl
  exact (verifier_sends hvh _ _ _ _).trans (hread.trans (hhandler.swap.trans (goes_status hvh rfl)))

/-- **Without a right guess the challenge ends with too many attempts**, on both sides. -/
theorem challenge_fails (hjson : PinJsonReadsBack x) (hvh : v ≠ h) {n : Nat}
    (hwrong : ∀ i, n ≤ i → i < c.maxTries.toNat → x.guess h i ≠ c.pin)
    (hn : n < c.maxTries.toNat) :
    Goes x ⟨asking v c r (.receive n), asked h q (.notify n), [], []⟩
      ⟨asking v c r (.returned (.error "Too many requests")),
        asked h q (.returned (.error "Too many requests")), [], []⟩ := by
  obtain ⟨d, hd⟩ := Nat.exists_eq_add_of_lt hn
  induction d generalizing n with
  | zero =>
    have hguess := one_guess (x := x) (c := c) (r := r) (q := q) hjson hvh n
    rw [verifyLoop_exhausted (hwrong n (Nat.le_refl _) hn) (by omega)] at hguess
    exact hguess.trans (both_give_up hjson hvh n [])
  | succ d ih =>
    have hround := wrong_guess (x := x) (c := c) (r := r) (q := q) hjson hvh
      (hwrong n (Nat.le_refl _) hn) (by omega)
    exact hround.trans (ih (fun i hi him => hwrong i (by omega) him) (by omega) (by omega))

end Rounds

end MagicShare.WebRtc
