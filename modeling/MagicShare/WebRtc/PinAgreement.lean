import MagicShare.WebRtc.Challenge
import Mathlib.Data.Nat.Find

/-! Whether the two sides agree on the PIN challenges.

Both challenges and the file list after them are run through on the views of
`Challenge`; the outcome of that one schedule is the outcome of all. The sides agree
unless a PIN is empty, which passes before a PIN is sent, or the sender's tries are
none at all, which the receiver does not expect (`pin_agreement_iff`). -/
namespace MagicShare.WebRtc
open Network Transition.System

variable {Files : Type} {x : Setup Files}

/-! ### What is agreed on -/

def tooManyRequests : Except String Unit := .error "Too many requests"

/-- One challenge at its end: not asked, passed on both sides, or given up on both. -/
inductive Agreed (asked : Prop) (verified handled : Option (Except String Unit)) : Prop
  | notAsked (no : ¬asked) (hv : verified = none) (hh : handled = none)
  | passed (yes : asked) (hv : verified = some (.ok ())) (hh : handled = some (.ok ()))
  | givenUp (yes : asked) (hv : verified = some tooManyRequests)
      (hh : handled = some tooManyRequests)

/-- A side that asks for no PIN, or has been told the right one. -/
def Satisfied (pin : Option PinConfig) (verified : Option (Except String Unit)) : Prop :=
  pin = none ∨ verified = some (.ok ())

/-- The PIN phases as they should end. -/
structure Agreement (x : Setup Files) (σ : PinState Files) : Prop where
  receiverPin : Agreed (x.pin .receiver ≠ none) (σ.ctl .receiver).verified (σ.ctl .sender).handled
  senderPin : Agreed (x.pin .sender ≠ none ∧ Satisfied (x.pin .receiver) (σ.ctl .receiver).verified)
    (σ.ctl .sender).verified (σ.ctl .receiver).handled
  nothingLeft : (σ.ctl .receiver).verified = some (.ok ()) ∨ (σ.ctl .sender).verified = some (.ok ()) →
    ∀ p, (σ.chan (.inbox p)).queue = []
  fileList : Satisfied (x.pin .receiver) (σ.ctl .receiver).verified →
    Satisfied (x.pin .sender) (σ.ctl .sender).verified →
    (σ.ctl .receiver).phase = .own (.received x.files)

/-- `handle_pin` returns Ok exactly when the peer's `verify_pin` does. -/
theorem Agreed.ok_iff {asked : Prop} {verified handled : Option (Except String Unit)}
    (h : Agreed asked verified handled) : handled = some (.ok ()) ↔ verified = some (.ok ()) := by
  cases h with
  | notAsked _ hv hh => simp [hv, hh]
  | passed _ hv hh => simp [hv, hh]
  | givenUp _ hv hh => simp [hv, hh, tooManyRequests]

/-! ### The views of a connection, sender first -/

abbrev PinView (Files : Type) := View Files .sender .receiver

def startView (Files : Type) : PinView Files :=
  ⟨⟨.own .token, none, none⟩, ⟨.own .token, none, none⟩, [], []⟩

theorem facing_start (x : Setup Files) : Facing x.start (startView Files) :=
  ⟨rfl, rfl, rfl, rfl, fun _ => ⟨rfl, rfl⟩⟩

theorem sender_ne_receiver : Peer.sender ≠ .receiver := by decide

section Phases
variable {m u : List DataChannelMessage} {r q : Option (Except String Unit)}

/-- The token response tells the sender whether it is asked. -/
theorem goes_token (x : Setup Files) :
    Goes x (startView Files)
      ⟨⟨onTokenResponse x (x.tokenJson.toString (tokenResponse x)), none, none⟩,
        ⟨afterToken x, none, none⟩, [], []⟩ := by
  have hsends : Goes x (View.mk (v := .receiver) (h := .sender)
      ⟨.own .token, none, none⟩ ⟨.own .token, none, none⟩ [] [])
      ⟨⟨afterToken x, none, none⟩, ⟨.own .token, none, none⟩, [],
        [] ++ [text (x.tokenJson.toString (tokenResponse x))]⟩ :=
    goes_sends sender_ne_receiver.symm rfl
  have hreceives : Goes x (View.mk (v := .sender) (h := .receiver) ⟨.own .token, none, none⟩
      ⟨afterToken x, none, none⟩ [text (x.tokenJson.toString (tokenResponse x))] [])
      ⟨_, ⟨afterToken x, none, none⟩, [], []⟩ := goes_receives sender_ne_receiver rfl
  exact Goes.trans hsends.swap hreceives

/-- The sender puts the file list on the channel. -/
theorem goes_lists (k : Peer.receiver.Ctl Files) :
    Goes x (View.mk (v := .sender) ⟨.own .connected, r, q⟩ k m u)
      ⟨⟨.own .listed, r, q⟩, k, m, u ++ chunked (x.sendingJson.toString (.ok x.files))⟩ := by
  have hlisting : ∀ (more u : List DataChannelMessage),
      Goes x (View.mk (v := .sender) ⟨.own (.listing more), r, q⟩ k m u)
        ⟨⟨.own .listed, r, q⟩, k, m, u ++ more⟩ := by
    intro more
    induction more with
    | nil =>
      intro u
      rw [List.append_nil]
      exact goes_tau sender_ne_receiver rfl
    | cons msg more ih =>
      intro u
      have hrest := ih (u ++ [msg])
      rw [List.append_assoc] at hrest
      exact (goes_sends sender_ne_receiver rfl).trans hrest
  exact (goes_status sender_ne_receiver rfl).trans (hlisting _ _)

/-- The receiver reads the sender's first result. -/
theorem goes_collects (l : Peer.sender.Ctl Files) (string : Bytes) :
    Goes x (View.mk (h := .receiver) l ⟨.own (.collecting []), none, r⟩ m (chunked string ++ u))
      ⟨l, ⟨onPinResponse x string, none, r⟩, m, u⟩ := by
  have hchunks : ∀ (chunks : List Bytes) (buffer : Bytes),
      Goes x (View.mk (h := .receiver) l ⟨.own (.collecting buffer), none, r⟩ m
          (chunks.map binary ++ delimiter :: u))
        ⟨l, ⟨onPinResponse x (buffer ++ chunks.flatten), none, r⟩, m, u⟩ := by
    intro chunks
    induction chunks with
    | nil =>
      intro buffer
      rw [List.flatten_nil, List.append_nil]
      have hread : Goes x (View.mk (v := .receiver) ⟨.own (.collecting buffer), none, r⟩ l
          (delimiter :: u) m) ⟨_, l, u, m⟩ := goes_receives sender_ne_receiver.symm rfl
      exact hread.swap
    | cons chunk chunks ih =>
      intro buffer
      have hread : Goes x (View.mk (v := .receiver) ⟨.own (.collecting buffer), none, r⟩ l
          (binary chunk :: (chunks.map binary ++ delimiter :: u)) m)
          ⟨_, l, chunks.map binary ++ delimiter :: u, m⟩ :=
        goes_receives sender_ne_receiver.symm rfl
      have hrest := ih (buffer ++ chunk)
      rw [List.append_assoc] at hrest
      exact Goes.trans hread.swap hrest
  have hread := hchunks (sendStringInChunks string) []
  rw [sendStringInChunks_flatten, List.nil_append] at hread
  rw [chunked, List.append_assoc]
  exact hread

/-! ### The receiver's challenge -/

/-- Where the sender's part begins, with what came of the receiver's. -/
def secondView (x : Setup Files) (r : Option (Except String Unit)) : PinView Files :=
  ⟨⟨startSenderPin x, r, none⟩, ⟨.own (.collecting []), none, r⟩, [], []⟩

theorem onTokenResponse_none (hjson : PinJsonReadsBack x) (hnone : x.pin .receiver = none) :
    onTokenResponse x (x.tokenJson.toString (tokenResponse x)) = startSenderPin x := by
  have hread : x.tokenJson.fromSlice (x.tokenJson.toString (tokenResponse x)) =
      some (tokenResponse x) := hjson.token
  have htoken : tokenResponse x = .ok x.localToken := by simp only [tokenResponse, hnone]
  rw [htoken] at hread ⊢
  simp only [onTokenResponse, hread]

theorem onTokenResponse_some {config : PinConfig} (hjson : PinJsonReadsBack x)
    (hpin : x.pin .receiver = some config) :
    onTokenResponse x (x.tokenJson.toString (tokenResponse x)) = .handling (.notify 0) := by
  have hread : x.tokenJson.fromSlice (x.tokenJson.toString (tokenResponse x)) =
      some (tokenResponse x) := hjson.token
  have htoken : tokenResponse x = .pinRequired x.localToken := by
    simp only [tokenResponse, hpin]
  rw [htoken] at hread ⊢
  simp only [onTokenResponse, hread]

theorem first_not_asked (hjson : PinJsonReadsBack x) (hnone : x.pin .receiver = none) :
    Goes x (startView Files) (secondView x none) := by
  have hgoes := goes_token x
  rw [onTokenResponse_none hjson hnone] at hgoes
  simp only [afterToken, hnone] at hgoes
  exact hgoes

variable {config : PinConfig}

theorem first_asked (hjson : PinJsonReadsBack x) (hpin : x.pin .receiver = some config) :
    Goes x (startView Files)
      ⟨asked .sender none (.notify 0),
        asking .receiver config none (verifyLoop x .receiver config "" 0 false), [], []⟩ := by
  have hgoes := goes_token x
  rw [onTokenResponse_some hjson hpin] at hgoes
  simp only [afterToken, hpin] at hgoes
  have hstart : Goes x (View.mk (v := .receiver) (h := .sender)
      (asking .receiver config none .start) (asked .sender none (.notify 0)) [] [])
      ⟨asking .receiver config none (verifyLoop x .receiver config "" 0 false),
        asked .sender none (.notify 0), [], []⟩ := goes_status sender_ne_receiver.symm rfl
  exact Goes.trans hgoes hstart.swap

/-- The receiver is satisfied and says so; what is on its way to it stays there. -/
theorem first_confirmed (hjson : PinJsonReadsBack x) (j : Nat) (u : List DataChannelMessage) :
    Goes x (View.mk (v := .sender) (h := .receiver) (asked .sender none (.receive j []))
        (asking .receiver config none (.returned (.ok ()))) [] u)
      ⟨⟨startSenderPin x, some (.ok ()), none⟩,
        ⟨.own (.collecting []), none, some (.ok ())⟩, [], u⟩ := by
  have hdone : Goes x (View.mk (v := .receiver) (h := .sender)
      (asking .receiver config none (.returned (.ok ()))) (asked .sender none (.receive j [])) u [])
      ⟨⟨.own .confirming, none, some (.ok ())⟩, asked .sender none (.receive j []), u, []⟩ :=
    goes_tau sender_ne_receiver.symm rfl
  have hconfirm : Goes x (View.mk (v := .receiver) (h := .sender)
      ⟨.own .confirming, none, some (.ok ())⟩ (asked .sender none (.receive j [])) u [])
      ⟨⟨.own (.collecting []), none, some (.ok ())⟩, asked .sender none (.receive j []), u,
        [] ++ [text (x.receivingJson.toString .ok)]⟩ := goes_sends sender_ne_receiver.symm rfl
  have hread : Goes x (View.mk (v := .sender) (h := .receiver) (asked .sender none (.receive j []))
      ⟨.own (.collecting []), none, some (.ok ())⟩ [text (x.receivingJson.toString .ok)] u)
      ⟨asked .sender none (onResponse j (parseResponse x .sender
        (x.receivingJson.toString .ok))), ⟨.own (.collecting []), none, some (.ok ())⟩, [], u⟩ :=
    (sender_reads_text _ j _).swapped
  have hok : x.receivingJson.fromSlice (x.receivingJson.toString .ok) = some .ok :=
    hjson.receiving .ok
  simp only [parseResponse, hok, onResponse] at hread
  have hreturn : Goes x (View.mk (v := .sender) (h := .receiver)
      (asked .sender none (.returned (.ok ()))) ⟨.own (.collecting []), none, some (.ok ())⟩ [] u)
      ⟨⟨startSenderPin x, some (.ok ()), none⟩,
        ⟨.own (.collecting []), none, some (.ok ())⟩, [], u⟩ := goes_tau sender_ne_receiver rfl
  exact Goes.trans (hdone.trans hconfirm).swap (Goes.trans hread hreturn)

/-- Both sides have given up. -/
def givenUpView (u : List DataChannelMessage) : PinView Files :=
  ⟨⟨.own (.failed "Too many requests"), some tooManyRequests, none⟩,
    ⟨.own (.failed "Too many requests"), none, some tooManyRequests⟩, [], u⟩

/-- From both loops having given up to both sides having failed. -/
theorem both_fail (u : List DataChannelMessage) :
    Goes x (View.mk (v := .sender) (h := .receiver)
      (asked .sender none (.returned (.error "Too many requests")))
      (asking .receiver config none (.returned (.error "Too many requests"))) [] u)
      (givenUpView u) := by
  have hsender : Goes x (View.mk (v := .sender) (h := .receiver)
      (asked .sender none (.returned (.error "Too many requests")))
      (asking .receiver config none (.returned (.error "Too many requests"))) [] u)
      ⟨⟨.own (.failed "Too many requests"), some tooManyRequests, none⟩,
        asking .receiver config none (.returned (.error "Too many requests")), [], u⟩ :=
    goes_tau sender_ne_receiver rfl
  have hreceiver : Goes x (View.mk (v := .receiver) (h := .sender)
      (asking .receiver config none (.returned (.error "Too many requests")))
      ⟨.own (.failed "Too many requests"), some tooManyRequests, none⟩ u [])
      ⟨⟨.own (.failed "Too many requests"), none, some tooManyRequests⟩,
        ⟨.own (.failed "Too many requests"), some tooManyRequests, none⟩, u, []⟩ :=
    goes_tau sender_ne_receiver.symm rfl
  exact Goes.trans hsender hreceiver.swap

/-- The receiver's challenge with a right guess in time. -/
theorem first_passes (hjson : PinJsonReadsBack x) (hpin : x.pin .receiver = some config)
    (hempty : config.pin ≠ "") {j : Nat} (hwrong : ∀ i < j, x.guess .sender i ≠ config.pin)
    (hright : x.guess .sender j = config.pin) (htries : j < config.maxTries.toNat) :
    Goes x (startView Files) (secondView x (some (.ok ()))) := by
  have hloop : verifyLoop x .receiver config "" 0 false = .receive 0 := by
    rw [verifyLoop, if_neg hempty.symm, if_neg (by omega)]
    rfl
  have hasked := first_asked hjson hpin
  rw [hloop] at hasked
  have hchallenge : Goes x (View.mk (v := .receiver) (h := .sender)
      (asking .receiver config none (.receive 0)) (asked .sender none (.notify 0)) [] [])
      ⟨asking .receiver config none (.returned (.ok ())), asked .sender none (.receive j []), [], []⟩ :=
    challenge_passes hjson sender_ne_receiver.symm (Nat.zero_le j)
      (fun i _ hi => hwrong i hi) hright htries
  exact hasked.trans (Goes.trans hchallenge.swap (first_confirmed hjson j []))

/-- The receiver's challenge without one: both sides give up. -/
theorem first_fails (hjson : PinJsonReadsBack x) (hpin : x.pin .receiver = some config)
    (hempty : config.pin ≠ "")
    (hwrong : ∀ i < config.maxTries.toNat, x.guess .sender i ≠ config.pin) :
    ∃ u, Goes x (startView Files) (givenUpView u) := by
  have hasked := first_asked hjson hpin
  obtain htries | htries := Nat.eq_zero_or_pos config.maxTries.toNat
  · -- no try at all: the first PIN is on its way and never read
    rw [verifyLoop_exhausted hempty.symm (by omega)] at hasked
    have hsends : Goes x (View.mk (v := .receiver) (h := .sender)
        (asking .receiver config none (.sending (resultMessages x .receiver .tooManyAttempts)
          .tooMany .tooMany)) (asked .sender none (.notify 0)) [] [])
        ⟨_, asked .sender none (.receive 0 []),
          [] ++ [text (x.pinJson.toString ⟨x.guess .sender 0⟩)], []⟩ :=
      handler_sends sender_ne_receiver.symm 0 _
    have hgive := both_give_up (c := config) (r := none) (q := none) hjson
      sender_ne_receiver.symm 0 ([] ++ [text (x.pinJson.toString ⟨x.guess .sender 0⟩)])
    exact ⟨_, hasked.trans (Goes.trans (hsends.trans hgive).swap (both_fail _))⟩
  · have hloop : verifyLoop x .receiver config "" 0 false = .receive 0 := by
      rw [verifyLoop, if_neg hempty.symm, if_neg (by omega)]
      rfl
    rw [hloop] at hasked
    have hchallenge : Goes x (View.mk (v := .receiver) (h := .sender)
        (asking .receiver config none (.receive 0)) (asked .sender none (.notify 0)) [] [])
        ⟨asking .receiver config none (.returned (.error "Too many requests")),
          asked .sender none (.returned (.error "Too many requests")), [], []⟩ :=
      challenge_fails hjson sender_ne_receiver.symm (fun i _ hi => hwrong i hi) htries
    exact ⟨_, hasked.trans (Goes.trans hchallenge.swap (both_fail _))⟩

/-! ### The sender's challenge -/

/-- The file list arrives. -/
theorem list_arrives (hjson : PinJsonReadsBack x) (q r s : Option (Except String Unit)) :
    Goes x (View.mk (v := .sender) (h := .receiver) ⟨.own .connected, q, s⟩
        ⟨.own (.collecting []), none, r⟩ [] [])
      ⟨⟨.own .listed, q, s⟩, ⟨.own (.received x.files), none, r⟩, [], []⟩ := by
  have hread : x.sendingJson.fromSlice (x.sendingJson.toString (.ok x.files)) =
      some (.ok x.files) := hjson.files
  have hcollects := goes_collects (x := x) (r := r) (m := []) (u := []) ⟨.own .listed, q, s⟩
    (x.sendingJson.toString (.ok x.files))
  simp only [onPinResponse, hread, List.append_nil] at hcollects
  have hreceived : Goes x (View.mk (v := .receiver) (h := .sender)
      ⟨.own (.connected x.files), none, r⟩ ⟨.own .listed, q, s⟩ [] [])
      ⟨⟨.own (.received x.files), none, r⟩, ⟨.own .listed, q, s⟩, [], []⟩ :=
    goes_status sender_ne_receiver.symm rfl
  exact (goes_lists _).trans (hcollects.trans hreceived.swap)

theorem second_not_asked (hjson : PinJsonReadsBack x) (hnone : x.pin .sender = none) :
    Goes x (secondView x r)
      ⟨⟨.own .listed, r, none⟩, ⟨.own (.received x.files), none, r⟩, [], []⟩ := by
  rw [secondView, startSenderPin, hnone]
  exact list_arrives hjson r r none

theorem second_asked (hpin : x.pin .sender = some config) :
    Goes x (secondView x r)
      ⟨asking .sender config r (verifyLoop x .sender config "" 0 true),
        ⟨.own (.collecting []), none, r⟩, [], []⟩ := by
  rw [secondView, startSenderPin, hpin]
  exact goes_status sender_ne_receiver rfl

/-- An empty PIN is right before the receiver is asked. -/
theorem second_empty (hjson : PinJsonReadsBack x) (hpin : x.pin .sender = some config)
    (hempty : config.pin = "") :
    Goes x (secondView x r)
      ⟨⟨.own .listed, r, some (.ok ())⟩, ⟨.own (.received x.files), none, r⟩, [], []⟩ := by
  have hasked := second_asked (r := r) hpin
  rw [verifyLoop_passes hempty.symm] at hasked
  have hreturn : Goes x (View.mk (v := .sender) (h := .receiver)
      (asking .sender config r (.returned (.ok ()))) ⟨.own (.collecting []), none, r⟩ [] [])
      ⟨⟨.own .connected, r, some (.ok ())⟩, ⟨.own (.collecting []), none, r⟩, [], []⟩ :=
    goes_tau sender_ne_receiver rfl
  exact hasked.trans (hreturn.trans (list_arrives hjson r r _))

/-- Without a single try the receiver is told of too many before it is asked. -/
theorem second_no_tries (hjson : PinJsonReadsBack x) (hpin : x.pin .sender = some config)
    (hempty : config.pin ≠ "") (htries : config.maxTries = 0) :
    Goes x (secondView x r)
      ⟨⟨.own (.failed "Too many requests"), r, some tooManyRequests⟩,
        ⟨.own (.failed "Unexpected TooManyAttempts response"), none, r⟩, [], []⟩ := by
  have hasked := second_asked (r := r) hpin
  rw [verifyLoop_exhausted hempty.symm (by simp [htries])] at hasked
  have hread : x.sendingJson.fromSlice (x.sendingJson.toString .tooManyAttempts) =
      some .tooManyAttempts := hjson.tooManyAttempts
  have hcollects := goes_collects (x := x) (r := r) (m := []) (u := [])
    (asking .sender config r .tooMany) (x.sendingJson.toString .tooManyAttempts)
  simp only [onPinResponse, hread, List.append_nil] at hcollects
  have hunexpected : Goes x (View.mk (v := .receiver) (h := .sender)
      ⟨.own .unexpected, none, r⟩ (asking .sender config r .tooMany) [] [])
      ⟨⟨.own (.failed "Unexpected TooManyAttempts response"), none, r⟩,
        asking .sender config r .tooMany, [], []⟩ := goes_status sender_ne_receiver.symm rfl
  have hstatus : Goes x (View.mk (v := .sender) (h := .receiver) (asking .sender config r .tooMany)
      ⟨.own (.failed "Unexpected TooManyAttempts response"), none, r⟩ [] [])
      ⟨asking .sender config r (.returned tooManyRequests),
        ⟨.own (.failed "Unexpected TooManyAttempts response"), none, r⟩, [], []⟩ :=
    goes_status sender_ne_receiver rfl
  have hreturn : Goes x (View.mk (v := .sender) (h := .receiver)
      (asking .sender config r (.returned tooManyRequests))
      ⟨.own (.failed "Unexpected TooManyAttempts response"), none, r⟩ [] [])
      ⟨⟨.own (.failed "Too many requests"), r, some tooManyRequests⟩,
        ⟨.own (.failed "Unexpected TooManyAttempts response"), none, r⟩, [], []⟩ :=
    goes_tau sender_ne_receiver rfl
  exact hasked.trans ((verifier_sends sender_ne_receiver _ _ _ _).trans
    (hcollects.trans (Goes.trans hunexpected.swap (hstatus.trans hreturn))))

/-- The sender's first notice puts the receiver into its loop. -/
theorem second_notified (hjson : PinJsonReadsBack x) (hpin : x.pin .sender = some config)
    (hempty : config.pin ≠ "") (htries : 0 < config.maxTries.toNat) :
    Goes x (secondView x r)
      ⟨asking .sender config r (.receive 0), asked .receiver r (.notify 0), [], []⟩ := by
  have hasked := second_asked (r := r) hpin
  rw [verifyLoop_again hempty.symm htries (.inl rfl)] at hasked
  have hread : x.sendingJson.fromSlice (x.sendingJson.toString .pinRequired) =
      some .pinRequired := hjson.pinRequired
  have hcollects := goes_collects (x := x) (r := r) (m := []) (u := [])
    (asking .sender config r (.receive 0)) (x.sendingJson.toString .pinRequired)
  simp only [onPinResponse, hread, List.append_nil] at hcollects
  exact hasked.trans ((verifier_sends sender_ne_receiver _ _ _ _).trans hcollects)

/-- The sender's challenge with a right guess in time. -/
theorem second_passes (hjson : PinJsonReadsBack x) (hpin : x.pin .sender = some config)
    (hempty : config.pin ≠ "") {j : Nat} (hwrong : ∀ i < j, x.guess .receiver i ≠ config.pin)
    (hright : x.guess .receiver j = config.pin) (htries : j < config.maxTries.toNat) :
    Goes x (secondView x r)
      ⟨⟨.own .listed, r, some (.ok ())⟩, ⟨.own (.received x.files), some (.ok ()), r⟩, [], []⟩ := by
  have hchallenge : Goes x (View.mk (v := .sender) (h := .receiver)
      (asking .sender config r (.receive 0)) (asked .receiver r (.notify 0)) [] [])
      ⟨asking .sender config r (.returned (.ok ())), asked .receiver r (.receive j []), [], []⟩ :=
    challenge_passes hjson sender_ne_receiver (Nat.zero_le j) (fun i _ hi => hwrong i hi) hright
      htries
  have hreturn : Goes x (View.mk (v := .sender) (h := .receiver)
      (asking .sender config r (.returned (.ok ()))) (asked .receiver r (.receive j [])) [] [])
      ⟨⟨.own .connected, r, some (.ok ())⟩, asked .receiver r (.receive j []), [], []⟩ :=
    goes_tau sender_ne_receiver rfl
  -- the file list is the receiver's success message
  have hread : x.sendingJson.fromSlice (x.sendingJson.toString (.ok x.files)) =
      some (.ok x.files) := hjson.files
  have hchunks := receiver_reads_chunked (x := x) (q := r) (m := []) (u := [])
    (x.sendingJson.toString (.ok x.files)) j ⟨.own .listed, r, some (.ok ())⟩
  simp only [parseResponse, hread, onResponse, List.append_nil] at hchunks
  have hhandled : Goes x (View.mk (v := .receiver) (h := .sender)
      (asked .receiver r (.returned (.ok x.files))) ⟨.own .listed, r, some (.ok ())⟩ [] [])
      ⟨⟨.own (.connected x.files), some (.ok ()), r⟩, ⟨.own .listed, r, some (.ok ())⟩, [], []⟩ :=
    goes_tau sender_ne_receiver.symm rfl
  have hconnected : Goes x (View.mk (v := .receiver) (h := .sender)
      ⟨.own (.connected x.files), some (.ok ()), r⟩ ⟨.own .listed, r, some (.ok ())⟩ [] [])
      ⟨⟨.own (.received x.files), some (.ok ()), r⟩, ⟨.own .listed, r, some (.ok ())⟩, [], []⟩ :=
    goes_status sender_ne_receiver.symm rfl
  exact (second_notified hjson hpin hempty (by omega)).trans (hchallenge.trans (hreturn.trans
    ((goes_lists _).trans (hchunks.trans (hhandled.trans hconnected).swap))))

/-- The sender's challenge without one: both sides give up. -/
theorem second_fails (hjson : PinJsonReadsBack x) (hpin : x.pin .sender = some config)
    (hempty : config.pin ≠ "") (htries : 0 < config.maxTries.toNat)
    (hwrong : ∀ i < config.maxTries.toNat, x.guess .receiver i ≠ config.pin) :
    Goes x (secondView x r)
      ⟨⟨.own (.failed "Too many requests"), r, some tooManyRequests⟩,
        ⟨.own (.failed "Too many requests"), some tooManyRequests, r⟩, [], []⟩ := by
  have hchallenge : Goes x (View.mk (v := .sender) (h := .receiver)
      (asking .sender config r (.receive 0)) (asked .receiver r (.notify 0)) [] [])
      ⟨asking .sender config r (.returned (.error "Too many requests")),
        asked .receiver r (.returned (.error "Too many requests")), [], []⟩ :=
    challenge_fails hjson sender_ne_receiver (fun i _ hi => hwrong i hi) htries
  have hsender : Goes x (View.mk (v := .sender) (h := .receiver)
      (asking .sender config r (.returned (.error "Too many requests")))
      (asked .receiver r (.returned (.error "Too many requests"))) [] [])
      ⟨⟨.own (.failed "Too many requests"), r, some tooManyRequests⟩,
        asked .receiver r (.returned (.error "Too many requests")), [], []⟩ :=
    goes_tau sender_ne_receiver rfl
  have hreceiver : Goes x (View.mk (v := .receiver) (h := .sender)
      (asked .receiver r (.returned (.error "Too many requests")))
      ⟨.own (.failed "Too many requests"), r, some tooManyRequests⟩ [] [])
      ⟨⟨.own (.failed "Too many requests"), some tooManyRequests, r⟩,
        ⟨.own (.failed "Too many requests"), r, some tooManyRequests⟩, [], []⟩ :=
    goes_tau sender_ne_receiver.symm rfl
  exact (second_notified hjson hpin hempty htries).trans
    (hchallenge.trans (hsender.trans hreceiver.swap))

end Phases

/-! ### Where the runs end -/

/-- Both sides at their end. -/
def Ended (x : Setup Files) (a : PinView Files) : Prop :=
  x.act .sender a.verifier = .halt ∧ x.act .receiver a.handler = .halt

theorem Ended.stuck {a : PinView Files} (h : Ended x a) {σ : PinState Files} (hσ : Facing σ a) :
    x.system.Stuck σ := by
  intro p
  change x.net.step σ p = none
  cases p with
  | sender => exact Net.step_halt ((congrArg _ hσ.verifier).trans h.1)
  | receiver => exact Net.step_halt ((congrArg _ hσ.handler).trans h.2)

/-- One schedule that ends well is enough. -/
theorem settles_of_goes {Q : PinState Files → Prop} {a : PinView Files}
    (h : Goes x (startView Files) a) (hended : Ended x a) (hQ : ∀ σ, Facing σ a → Q σ) :
    x.system.Settles x.start Q := by
  obtain ⟨σ, hleads, hσ⟩ := h x.start (facing_start x)
  exact settles_of_leads (Net.diamond x.keepsReading x.start) hleads (hended.stuck hσ) (hQ σ hσ)

/-- A schedule that ends is one that ends well. -/
theorem ends_of_goes {Q : PinState Files → Prop} {a : PinView Files}
    (hsettles : x.system.Settles x.start Q) (h : Goes x (startView Files) a)
    (hended : Ended x a) : ∃ σ, Facing σ a ∧ Q σ := by
  obtain ⟨σ, ⟨events, hrun⟩, hσ⟩ := h x.start (facing_start x)
  exact ⟨σ, hσ, hsettles.ends events σ hrun (hended.stuck hσ)⟩

/-! ### When the sides agree -/

/-- The sender's user types the receiver's PIN in time, if there is one. -/
def ReceiverSatisfied (x : Setup Files) : Prop :=
  ∀ config, x.pin .receiver = some config →
    ∃ n < config.maxTries.toNat, x.guess .sender n = config.pin

/-- No empty PIN is asked for, and the sender does not ask without a try to give. -/
structure SoundPins (x : Setup Files) : Prop where
  receiver : ∀ config, x.pin .receiver = some config → config.pin ≠ ""
  sender : ReceiverSatisfied x →
    ∀ config, x.pin .sender = some config → config.pin ≠ "" ∧ config.maxTries ≠ 0

/-- The first right guess among those in time. -/
theorem first_right {guess : Nat → String} {pin : String} {tries : Nat}
    (h : ∃ n < tries, guess n = pin) :
    ∃ j < tries, guess j = pin ∧ ∀ i < j, guess i ≠ pin := by
  refine ⟨Nat.find h, (Nat.find_spec h).1, (Nat.find_spec h).2, fun i hi hpin => ?_⟩
  exact Nat.find_min h hi ⟨Nat.lt_trans hi (Nat.find_spec h).1, hpin⟩

/-- How the receiver's part ends: with the sender's part to come, or given up. -/
theorem first_part (hjson : PinJsonReadsBack x)
    (hsound : ∀ config, x.pin .receiver = some config → config.pin ≠ "") :
    (ReceiverSatisfied x ∧ ∃ r, Goes x (startView Files) (secondView x r) ∧
      ((x.pin .receiver = none ∧ r = none) ∨ (x.pin .receiver ≠ none ∧ r = some (.ok ())))) ∨
    (x.pin .receiver ≠ none ∧ ∃ u, Goes x (startView Files) (givenUpView u)) := by
  cases hpin : x.pin .receiver with
  | none =>
    refine .inl ⟨fun config hconfig => ?_, none, first_not_asked hjson hpin, .inl ⟨rfl, rfl⟩⟩
    rw [hpin] at hconfig
    cases hconfig
  | some config =>
    have hempty := hsound config hpin
    by_cases hguess : ∃ n < config.maxTries.toNat, x.guess .sender n = config.pin
    · obtain ⟨j, hj, hright, hwrong⟩ := first_right hguess
      refine .inl ⟨fun c hc => ?_, _, first_passes hjson hpin hempty hwrong hright hj,
        .inr ⟨by simp, rfl⟩⟩
      obtain rfl := Option.some.inj (hpin.symm.trans hc)
      exact hguess
    · refine .inr ⟨by simp, first_fails hjson hpin hempty fun i hi hright => ?_⟩
      exact hguess ⟨i, hi, hright⟩

/-- What is agreed on once the receiver's part has passed and the sender's has ended. -/
theorem agreement_of_ends {σ : PinState Files} {a : PinView Files} (hσ : Facing σ a)
    (hreceiver : Agreed (x.pin .receiver ≠ none) a.handler.verified a.verifier.handled)
    (hsatisfied : Satisfied (x.pin .receiver) a.handler.verified)
    (hsender : Agreed (x.pin .sender ≠ none) a.verifier.verified a.handler.handled)
    (hleft : a.toVerifier = [] ∧ a.toHandler = [])
    (hfiles : Satisfied (x.pin .sender) a.verifier.verified →
      a.handler.phase = .own (.received x.files)) : Agreement x σ where
  receiverPin := by
    rw [hσ.handler, hσ.verifier]
    exact hreceiver
  senderPin := by
    rw [hσ.handler, hσ.verifier, and_iff_left hsatisfied]
    exact hsender
  nothingLeft := by
    intro _ p
    cases p with
    | sender => exact hσ.toVerifier.trans hleft.1
    | receiver => exact hσ.toHandler.trans hleft.2
  fileList := by
    intro _ hpassed
    rw [hσ.verifier] at hpassed
    rw [hσ.handler]
    exact hfiles hpassed

/-- **With sound PINs the sides agree**, whatever the users type. -/
theorem agreement_of_sound (hjson : PinJsonReadsBack x) (hsound : SoundPins x) :
    x.system.Settles x.start (Agreement x) := by
  obtain ⟨hsatisfied, r, hfirst, hr⟩ | ⟨hasked, u, hfirst⟩ := first_part hjson hsound.receiver
  · have hreceiver : ∀ s : Option (Except String Unit), s = r →
        Agreed (x.pin .receiver ≠ none) s r ∧ Satisfied (x.pin .receiver) s := by
      rintro s rfl
      obtain ⟨hnone, rfl⟩ | ⟨hsome, rfl⟩ := hr
      · exact ⟨.notAsked (by simp [hnone]) rfl rfl, .inl hnone⟩
      · exact ⟨.passed hsome rfl rfl, .inr rfl⟩
    cases hpin : x.pin .sender with
    | none =>
      refine settles_of_goes (hfirst.trans (second_not_asked hjson hpin)) ⟨rfl, rfl⟩ fun σ hσ => ?_
      exact agreement_of_ends hσ (hreceiver _ rfl).1 (hreceiver _ rfl).2
        (.notAsked (by simp [hpin]) rfl rfl) ⟨rfl, rfl⟩ fun _ => rfl
    | some config =>
      obtain ⟨hempty, htries⟩ := hsound.sender hsatisfied config hpin
      have hpos : 0 < config.maxTries.toNat := by
        rw [Nat.pos_iff_ne_zero]
        exact fun hzero => htries (UInt8.toNat_inj.mp hzero)
      by_cases hguess : ∃ n < config.maxTries.toNat, x.guess .receiver n = config.pin
      · obtain ⟨j, hj, hright, hwrong⟩ := first_right hguess
        refine settles_of_goes (hfirst.trans
          (second_passes hjson hpin hempty hwrong hright hj)) ⟨rfl, rfl⟩ fun σ hσ => ?_
        exact agreement_of_ends hσ (hreceiver _ rfl).1 (hreceiver _ rfl).2
          (.passed (by simp [hpin]) rfl rfl) ⟨rfl, rfl⟩ fun _ => rfl
      · refine settles_of_goes (hfirst.trans (second_fails hjson hpin hempty hpos
          fun i hi hright => hguess ⟨i, hi, hright⟩)) ⟨rfl, rfl⟩ fun σ hσ => ?_
        refine agreement_of_ends hσ (hreceiver _ rfl).1 (hreceiver _ rfl).2
          (.givenUp (by simp [hpin]) rfl rfl) ⟨rfl, rfl⟩ fun hpassed => ?_
        obtain hnone | hok := hpassed
        · rw [hpin] at hnone
          cases hnone
        · cases hok
  · refine settles_of_goes hfirst ⟨rfl, rfl⟩ fun σ hσ => ?_
    have hverified : (σ.ctl .receiver).verified = some tooManyRequests :=
      congrArg PeerCtl.verified hσ.handler
    have hnot : ¬ Satisfied (x.pin .receiver) (σ.ctl .receiver).verified := by
      rw [hverified]
      rintro (hnone | hok)
      · exact hasked hnone
      · cases hok
    exact {
      receiverPin := .givenUp hasked hverified (congrArg PeerCtl.handled hσ.verifier)
      senderPin := .notAsked (fun h => hnot h.2) (congrArg PeerCtl.verified hσ.verifier)
        (congrArg PeerCtl.handled hσ.handler)
      nothingLeft := by
        rw [hverified, show (σ.ctl .sender).verified = none from
          congrArg PeerCtl.verified hσ.verifier]
        rintro (hok | hok) <;> cases hok
      fileList := fun hpassed => absurd hpassed hnot }

/-! ### When they do not -/

theorem chunked_ne_nil (string : Bytes) : chunked string ≠ [] := by
  simp [chunked]

/-- After the receiver's part the sender has something to say in any case. -/
theorem sender_says_more (x : Setup Files) (r : Option (Except String Unit))
    (k : Peer.receiver.Ctl Files) :
    ∃ l u, u ≠ [] ∧ Goes x (View.mk (v := .sender) (h := .receiver)
      ⟨startSenderPin x, r, none⟩ k [] []) ⟨l, k, [], u⟩ := by
  have hlist : ∀ q, ∃ l u, u ≠ [] ∧ Goes x (View.mk (v := .sender) (h := .receiver)
      ⟨.own .connected, r, q⟩ k [] []) ⟨l, k, [], u⟩ := by
    intro q
    exact ⟨_, _, chunked_ne_nil _, goes_lists k⟩
  cases hpin : x.pin .sender with
  | none =>
    simp only [startSenderPin, hpin]
    exact hlist none
  | some config =>
    have hasked : Goes x (View.mk (v := .sender) (h := .receiver) ⟨startSenderPin x, r, none⟩
        k [] []) ⟨asking .sender config r (verifyLoop x .sender config "" 0 true), k, [], []⟩ := by
      simp only [startSenderPin, hpin]
      exact goes_status sender_ne_receiver rfl
    by_cases hempty : config.pin = ""
    · rw [verifyLoop_passes hempty.symm] at hasked
      obtain ⟨l, u, hu, hgoes⟩ := hlist (some (.ok ()))
      have hreturn : Goes x (View.mk (v := .sender) (h := .receiver)
          (asking .sender config r (.returned (.ok ()))) k [] [])
          ⟨⟨.own .connected, r, some (.ok ())⟩, k, [], []⟩ := goes_tau sender_ne_receiver rfl
      exact ⟨l, u, hu, hasked.trans (hreturn.trans hgoes)⟩
    · obtain htries | htries := Nat.eq_zero_or_pos config.maxTries.toNat
      · rw [verifyLoop_exhausted (Ne.symm hempty) (by omega)] at hasked
        exact ⟨_, _, chunked_ne_nil _, hasked.trans (verifier_sends sender_ne_receiver _ _ _ _)⟩
      · rw [verifyLoop_again (Ne.symm hempty) htries (.inl rfl)] at hasked
        exact ⟨_, _, chunked_ne_nil _, hasked.trans (verifier_sends sender_ne_receiver _ _ _ _)⟩

/-- **An empty PIN of the receiver passes before the sender's first PIN arrives**, which
the receiver then takes for the end of the sender's first result. -/
theorem first_empty (hjson : PinJsonReadsBack x) {config : PinConfig}
    (hpin : x.pin .receiver = some config) (hempty : config.pin = "") :
    ∃ error, Goes x (startView Files)
      ⟨⟨startSenderPin x, some (.ok ()), none⟩,
        ⟨.own (.failed error), none, some (.ok ())⟩, [], []⟩ := by
  have hasked := first_asked hjson hpin
  rw [verifyLoop_passes hempty.symm] at hasked
  have hsends : Goes x (View.mk (v := .receiver) (h := .sender)
      (asking .receiver config none (.returned (.ok ()))) (asked .sender none (.notify 0)) [] [])
      ⟨asking .receiver config none (.returned (.ok ())), asked .sender none (.receive 0 []),
        [text (x.pinJson.toString ⟨x.guess .sender 0⟩)], []⟩ :=
    handler_sends sender_ne_receiver.symm 0 _
  have hfails : onPinResponse x [] =
      .own (.failed ("Failed to deserialize file list response: " ++ x.jsonError [])) := by
    rw [onPinResponse, hjson.nothingFails]
  have hread : Goes x (View.mk (v := .receiver) (h := .sender)
      ⟨.own (.collecting []), none, some (.ok ())⟩ ⟨startSenderPin x, some (.ok ()), none⟩
      [text (x.pinJson.toString ⟨x.guess .sender 0⟩)] [])
      ⟨_, ⟨startSenderPin x, some (.ok ()), none⟩, [], []⟩ :=
    goes_receives sender_ne_receiver.symm rfl
  simp only [text_isString, if_true, hfails] at hread
  exact ⟨_, hasked.trans (Goes.trans hsends.swap
    ((first_confirmed hjson 0 _).trans hread.swap))⟩

/-- A receiver that has failed with something on its way to it leaves it unread. -/
theorem left_unread {σ τ : PinState Files} {error : String} {q s : Option (Except String Unit)}
    (h : x.system.Leads σ τ)
    (hfailed : σ.ctl .receiver = ⟨.own (.failed error), q, s⟩)
    (hqueue : (σ.chan (.inbox .receiver)).queue ≠ []) :
    τ.ctl .receiver = ⟨.own (.failed error), q, s⟩ ∧ (τ.chan (.inbox .receiver)).queue ≠ [] := by
  refine h.invariant (I := fun τ => τ.ctl .receiver = ⟨.own (.failed error), q, s⟩ ∧
    (τ.chan (.inbox .receiver)).queue ≠ []) ?_ ⟨hfailed, hqueue⟩
  intro τ p υ hτ hstep
  have hne : Peer.receiver ≠ p := by
    rintro rfl
    have hhalt : x.net.step τ .receiver = none :=
      Net.step_halt ((congrArg (x.act .receiver) hτ.1).trans rfl)
    rw [show x.system.step τ .receiver = none from hhalt] at hstep
    cases hstep
  refine ⟨(Net.step_ctl_of_ne hstep hne).trans hτ.1, fun hnil => hτ.2 ?_⟩
  have hprefix := Net.step_queue_of_ne (N := x.net) (c := .inbox .receiver) hstep hne
  rw [hnil] at hprefix
  exact List.prefix_nil.mp hprefix

theorem no_empty_receiver_pin (hjson : PinJsonReadsBack x)
    (hsettles : x.system.Settles x.start (Agreement x)) {config : PinConfig}
    (hpin : x.pin .receiver = some config) : config.pin ≠ "" := by
  intro hempty
  obtain ⟨error, hfirst⟩ := first_empty hjson hpin hempty
  obtain ⟨l, u, hu, hmore⟩ := sender_says_more x (some (.ok ()))
    ⟨.own (.failed error), none, some (.ok ())⟩
  obtain ⟨σ, hleads, hσ⟩ := (hfirst.trans hmore) x.start (facing_start x)
  obtain ⟨z, hz, -, hagree⟩ := hsettles.completes hleads
  obtain ⟨hfailed, hunread⟩ := left_unread hz hσ.handler (by rw [hσ.toHandler]; exact hu)
  refine hunread (hagree.nothingLeft (.inl ?_) .receiver)
  rw [hfailed]

/-- Where the sides agree and the receiver's part has passed, the sender's PIN is sound. -/
theorem sound_sender_pin (hjson : PinJsonReadsBack x)
    (hsettles : x.system.Settles x.start (Agreement x)) (hsatisfied : ReceiverSatisfied x)
    {config : PinConfig} (hpin : x.pin .sender = some config) :
    config.pin ≠ "" ∧ config.maxTries ≠ 0 := by
  have hreceiver : ∀ c, x.pin .receiver = some c → c.pin ≠ "" :=
    fun c hc => no_empty_receiver_pin hjson hsettles hc
  obtain ⟨r, hfirst⟩ : ∃ r, Goes x (startView Files) (secondView x r) := by
    cases hnone : x.pin .receiver with
    | none => exact ⟨_, first_not_asked hjson hnone⟩
    | some c =>
      obtain ⟨j, hj, hright, hwrong⟩ := first_right (hsatisfied c hnone)
      exact ⟨_, first_passes hjson hnone (hreceiver c hnone) hwrong hright hj⟩
  have hempty : config.pin ≠ "" := by
    intro hempty
    obtain ⟨σ, hσ, hagree⟩ :=
      ends_of_goes hsettles (hfirst.trans (second_empty hjson hpin hempty)) ⟨rfl, rfl⟩
    have hpin := hagree.senderPin
    rw [hσ.verifier, hσ.handler] at hpin
    have hok := hpin.ok_iff.mpr rfl
    cases hok
  refine ⟨hempty, fun htries => ?_⟩
  obtain ⟨σ, hσ, hagree⟩ :=
    ends_of_goes hsettles (hfirst.trans (second_no_tries hjson hpin hempty htries)) ⟨rfl, rfl⟩
  have hpin := hagree.senderPin
  rw [hσ.verifier, hσ.handler] at hpin
  cases hpin with
  | notAsked _ hv _ => cases hv
  | passed _ hv _ => cases hv
  | givenUp _ _ hh => cases hh

/-- **The two sides agree on the PIN challenges exactly when the PINs are sound.** -/
theorem pin_agreement_iff (hjson : PinJsonReadsBack x) :
    x.system.Settles x.start (Agreement x) ↔ SoundPins x := by
  constructor
  · intro hsettles
    exact ⟨fun _ hpin => no_empty_receiver_pin hjson hsettles hpin,
      fun hsatisfied _ hpin => sound_sender_pin hjson hsettles hsatisfied hpin⟩
  · exact agreement_of_sound hjson

/-! ### Two users who type 1234 -/

/-- JSON for the values of a table. -/
def tableJson {α : Type} (toString : α → String) (table : List α) : Codec α where
  toString a := (toString a).toUTF8.toList
  fromSlice data := table.find? fun a => (toString a).toUTF8.toList = data

def tokenTable : Codec RTCTokenResponse :=
  tableJson
    (fun
      | .ok token => "\x7b\"status\":\"OK\",\"token\":\"" ++ token ++ "\"\x7d"
      | .pinRequired token => "\x7b\"status\":\"PIN_REQUIRED\",\"token\":\"" ++ token ++ "\"\x7d"
      | .invalidSignature => "\x7b\"status\":\"INVALID_SIGNATURE\"\x7d")
    [.ok "t", .pinRequired "t", .invalidSignature]

def pinTable : Codec RTCPinMessage :=
  tableJson (fun message => "\x7b\"pin\":\"" ++ message.pin ++ "\"\x7d") [⟨"1234"⟩]

def receivingTable : Codec RTCPinReceivingResponse :=
  tableJson
    (fun
      | .ok => "\x7b\"status\":\"OK\"\x7d"
      | .pinRequired => "\x7b\"status\":\"PIN_REQUIRED\"\x7d"
      | .tooManyAttempts => "\x7b\"status\":\"TOO_MANY_ATTEMPTS\"\x7d")
    [.ok, .pinRequired, .tooManyAttempts]

/-- The file list is empty. -/
def sendingTable : Codec (RTCPinSendingResponse Unit) :=
  tableJson
    (fun
      | .ok _ => "\x7b\"status\":\"OK\",\"files\":[]\x7d"
      | .pinRequired => "\x7b\"status\":\"PIN_REQUIRED\"\x7d"
      | .tooManyAttempts => "\x7b\"status\":\"TOO_MANY_ATTEMPTS\"\x7d")
    [.ok (), .pinRequired, .tooManyAttempts]

/-- Both users type `1234` whenever they are asked. -/
def typing1234 (receiver sender : Option PinConfig) : Setup Unit where
  pin
    | .receiver => receiver
    | .sender => sender
  guess _ _ := "1234"
  files := ()
  localToken := "t"
  tokenJson := tokenTable
  pinJson := pinTable
  receivingJson := receivingTable
  sendingJson := sendingTable
  sendError := "Data channel is closed"
  jsonError _ := "EOF while parsing a value"

theorem typing1234_readsBack (receiver sender : Option PinConfig) :
    PinJsonReadsBack (typing1234 receiver sender) where
  token := by
    cases receiver with
    | none => exact (by decide +kernel : tokenTable.ReadsBack (.ok "t"))
    | some => exact (by decide +kernel : tokenTable.ReadsBack (.pinRequired "t"))
  pin _ _ := (by decide +kernel : pinTable.ReadsBack ⟨"1234"⟩)
  receiving r := by
    cases r with
    | ok => exact (by decide +kernel : receivingTable.ReadsBack .ok)
    | pinRequired => exact (by decide +kernel : receivingTable.ReadsBack .pinRequired)
    | tooManyAttempts => exact (by decide +kernel : receivingTable.ReadsBack .tooManyAttempts)
  pinRequired := (by decide +kernel : sendingTable.ReadsBack .pinRequired)
  tooManyAttempts := (by decide +kernel : sendingTable.ReadsBack .tooManyAttempts)
  files := (by decide +kernel : sendingTable.ReadsBack (.ok ()))
  nothingFails := (by decide +kernel : sendingTable.fromSlice [] = none)

/-- The receiver's PIN is typed at once; the sender's is something else. -/
theorem pin_agreement_1234 :
    (typing1234 (some ⟨"1234", 3⟩) (some ⟨"0000", 2⟩)).system.Settles
      (typing1234 (some ⟨"1234", 3⟩) (some ⟨"0000", 2⟩)).start
      (Agreement (typing1234 (some ⟨"1234", 3⟩) (some ⟨"0000", 2⟩))) := by
  refine (pin_agreement_iff (typing1234_readsBack _ _)).mpr ⟨?_, ?_⟩
  · intro config hconfig
    obtain rfl := Option.some.inj hconfig
    decide
  · intro _ config hconfig
    obtain rfl := Option.some.inj hconfig
    decide

/-- A receiver whose PIN is the empty string. -/
theorem empty_pin_disagrees :
    ¬ (typing1234 (some ⟨"", 3⟩) none).system.Settles (typing1234 (some ⟨"", 3⟩) none).start
      (Agreement (typing1234 (some ⟨"", 3⟩) none)) := by
  intro hsettles
  have hpin : (typing1234 (some ⟨"", 3⟩) none).pin .receiver = some ⟨"", 3⟩ := rfl
  exact no_empty_receiver_pin (typing1234_readsBack _ _) hsettles hpin rfl

end MagicShare.WebRtc
