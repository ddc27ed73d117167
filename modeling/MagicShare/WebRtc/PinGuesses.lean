import MagicShare.WebRtc.PinAgreement

/-! How often a PIN can be guessed: `verify_pin` on its own.

The peer's messages are a list, read from the front; at its end the channel is
closed. What is sent and read is recorded in order. Whether the data channel and the
app take what is sent may depend on all that happened before.

When everything is taken, `verify_pin` passes exactly if one of the first `maxTries`
messages carries the PIN; it never reads more than these, and counting them does not
leave the range of its counter (`pin_guess_bound`). -/
namespace MagicShare.WebRtc

inductive PinEvent
  | status (status : RTCStatus)
  | sent (result : VerifyPinResult)
  | read (msg : DataChannelMessage)

inductive PinOutcome
  | ok
  | failed (error : String)
  /-- `pin_try += 1` past 255. -/
  | overflow
  deriving DecidableEq

/-- What `verify_pin` has done, and how it ended. -/
structure PinRun where
  events : List PinEvent
  outcome : PinOutcome

/-- The JSON of the peer's messages, and what becomes of a result or a status. -/
structure PinLink where
  json : Codec RTCPinMessage
  jsonError : Bytes → String
  takes : List PinEvent → PinEvent → Except String Unit

/-- Neither end is closed: what is sent is taken. -/
def PinLink.TakesAll (x : PinLink) : Prop := ∀ past event, x.takes past event = .ok ()

/-- The round of a PIN that was not right, when no try is left. Whether the peer could
be told is ignored. -/
def giveUp (x : PinLink) (past : List PinEvent) : PinRun :=
  let told := past ++ [.sent .tooManyAttempts]
  match x.takes told (.status .tooManyAttempts) with
  | .error error => ⟨told, .failed error⟩
  | .ok _ => ⟨told ++ [.status .tooManyAttempts], .failed "Too many requests"⟩

/-- Before a message is read: the notice, unless it is the first and not wanted. -/
def sendNotice (x : PinLink) (past : List PinEvent) (pinTry : UInt8) (sendInitialNotice : Bool) :
    List PinEvent × Except String Unit :=
  if sendInitialNotice || decide (0 < pinTry) then
    (past ++ [.sent .pinRequired], x.takes past (.sent .pinRequired))
  else (past, .ok ())

/-- The loop of `verify_pin`. -/
def verifyRounds (x : PinLink) (config : PinConfig) (past : List PinEvent) (remotePin : String)
    (pinTry : UInt8) (sendInitialNotice : Bool) (receiveRx : List DataChannelMessage) : PinRun :=
  if remotePin = config.pin then ⟨past, .ok⟩
  else if config.maxTries ≤ pinTry then giveUp x past
  else
    let noticed := sendNotice x past pinTry sendInitialNotice
    match noticed.2 with
    | .error error => ⟨noticed.1, .failed error⟩
    | .ok _ =>
      match receiveRx with
      | [] => ⟨noticed.1, .failed "Failed to receive pin"⟩
      | msg :: rest =>
        match x.json.fromSlice msg.data with
        | none => ⟨noticed.1 ++ [.read msg], .failed (x.jsonError msg.data)⟩
        | some pinReq =>
          if pinTry = 255 then ⟨noticed.1 ++ [.read msg], .overflow⟩
          -- the notice was sent, or it was off already
          else verifyRounds x config (noticed.1 ++ [.read msg]) pinReq.pin (pinTry + 1) false rest

def verifyPin (x : PinLink) (config : PinConfig) (sendInitialNotice : Bool)
    (receiveRx : List DataChannelMessage) : PinRun :=
  match x.takes [] (.status .pinRequired) with
  | .error error => ⟨[], .failed error⟩
  | .ok _ => verifyRounds x config [.status .pinRequired] "" 0 sendInitialNotice receiveRx

/-- The process `verifyAct` decides at the head of its loop as `verifyRounds` does. -/
theorem verifyLoop_toNat {Files : Type} (x : Setup Files) (p : Peer) (config : PinConfig)
    (remotePin : String) (pinTry : UInt8) (notice : Bool) :
    verifyLoop x p config remotePin pinTry.toNat notice =
      if remotePin = config.pin then .returned (.ok ())
      else if config.maxTries ≤ pinTry then .sending (resultMessages x p .tooManyAttempts) .tooMany .tooMany
      else if notice || decide (0 < pinTry) then
        .sending (resultMessages x p .pinRequired) (.receive pinTry.toNat) (.returned (.error x.sendError))
      else .receive pinTry.toNat := by
  simp only [verifyLoop, UInt8.le_iff_toNat_le, UInt8.lt_iff_toNat_lt, UInt8.toNat_zero]

/-! ### Rounds -/

/-- The messages read, each with its notice; the first may go without. -/
def rounds (notice : Bool) : List DataChannelMessage → List PinEvent
  | [] => []
  | msg :: rest => (if notice then [.sent .pinRequired] else []) ++ .read msg :: rounds true rest

/-- The notice of a message that has not come. -/
def awaited (notice : Bool) : List PinEvent := if notice then [.sent .pinRequired] else []

def pinRefusal : List PinEvent := [.sent .tooManyAttempts, .status .tooManyAttempts]

/-- How the loop ends, with so many tries left, when everything sent is taken. -/
inductive Ends (pin : String) (left : Nat) (notice : Bool) (messages : List DataChannelMessage)
    (guesses : List String) (past : List PinEvent) : PinRun → Prop
  /-- A message carries the PIN, and none before it. -/
  | passed (n : Nat) (hn : n < left) (hguess : guesses[n]? = some pin) :
      Ends pin left notice messages guesses past ⟨past ++ rounds notice (messages.take (n + 1)), .ok⟩
  | refused (hle : left ≤ messages.length) (hnone : pin ∉ guesses.take left) :
      Ends pin left notice messages guesses past
        ⟨past ++ rounds notice (messages.take left) ++ pinRefusal, .failed "Too many requests"⟩
  /-- The channel is closed with tries left. -/
  | closed (hlt : messages.length < left) (hnone : pin ∉ guesses) :
      Ends pin left notice messages guesses past
        ⟨past ++ rounds notice messages ++ awaited (notice || !messages.isEmpty),
          .failed "Failed to receive pin"⟩

/-- One more message in front, which does not carry the PIN. -/
theorem Ends.step {pin : String} {left : Nat} {notice : Bool} {msg : DataChannelMessage}
    {messages : List DataChannelMessage} {guess : String} {guesses : List String} {past : List PinEvent}
    {run : PinRun} (hguess : guess ≠ pin)
    (h : Ends pin left true messages guesses (past ++ awaited notice ++ [.read msg]) run) :
    Ends pin (left + 1) notice (msg :: messages) (guess :: guesses) past run := by
  have hrounds : ∀ later, past ++ awaited notice ++ [.read msg] ++ rounds true later =
      past ++ rounds notice (msg :: later) := by
    intro later
    simp only [rounds, awaited, List.append_assoc, List.singleton_append]
  cases h with
  | passed n hn hpin =>
    rw [hrounds]
    exact .passed (n + 1) (by omega) (by simpa using hpin)
  | refused hle hnone =>
    rw [hrounds]
    refine .refused (by simpa using hle) ?_
    simp only [List.take_succ_cons, List.mem_cons, not_or]
    exact ⟨hguess.symm, hnone⟩
  | closed hlt hnone =>
    rw [hrounds]
    have hclosed : Ends pin (left + 1) notice (msg :: messages) (guess :: guesses) past
        ⟨past ++ rounds notice (msg :: messages) ++ awaited (notice || !(msg :: messages).isEmpty),
          .failed "Failed to receive pin"⟩ := by
      refine .closed (by simpa using hlt) ?_
      simp only [List.mem_cons, not_or]
      exact ⟨hguess.symm, hnone⟩
    simpa using hclosed

/-- The message in front carries the PIN. -/
theorem Ends.head {pin : String} {left : Nat} {notice : Bool} {msg : DataChannelMessage}
    {messages : List DataChannelMessage} {guesses : List String} {past : List PinEvent} :
    Ends pin (left + 1) notice (msg :: messages) (pin :: guesses) past
      ⟨past ++ awaited notice ++ [.read msg], .ok⟩ := by
  have h : Ends pin (left + 1) notice (msg :: messages) (pin :: guesses) past
      ⟨past ++ rounds notice ((msg :: messages).take (0 + 1)), .ok⟩ :=
    .passed 0 (Nat.succ_pos left) rfl
  simpa [rounds, awaited] using h

theorem Ends.none_left {pin : String} {notice : Bool} {messages : List DataChannelMessage}
    {guesses : List String} {past : List PinEvent} :
    Ends pin 0 notice messages guesses past ⟨past ++ pinRefusal, .failed "Too many requests"⟩ := by
  have h : Ends pin 0 notice messages guesses past
      ⟨past ++ rounds notice (messages.take 0) ++ pinRefusal, .failed "Too many requests"⟩ :=
    .refused (Nat.zero_le _) (by simp)
  simpa [rounds] using h

theorem Ends.none_sent {pin : String} {left : Nat} {notice : Bool} {past : List PinEvent} (h : 0 < left) :
    Ends pin left notice [] [] past ⟨past ++ awaited notice, .failed "Failed to receive pin"⟩ := by
  have hclosed : Ends pin left notice [] [] past
      ⟨past ++ rounds notice [] ++ awaited (notice || !([] : List DataChannelMessage).isEmpty),
        .failed "Failed to receive pin"⟩ := .closed h (by simp)
  simpa [rounds] using hclosed

/-! ### The counter -/

section Counter
variable {config : PinConfig} {pinTry : UInt8}

theorem no_try_left (h : config.maxTries ≤ pinTry) : config.maxTries.toNat - pinTry.toNat = 0 := by
  have := UInt8.le_iff_toNat_le.mp h
  omega

theorem try_left (h : ¬config.maxTries ≤ pinTry) : pinTry.toNat < config.maxTries.toNat := by
  have := UInt8.le_iff_toNat_le.not.mp h
  omega

/-- Below the limit there is room for one more. -/
theorem toNat_succ (h : pinTry.toNat < config.maxTries.toNat) : (pinTry + 1).toNat = pinTry.toNat + 1 := by
  have hmax : config.maxTries.toNat < 256 := config.maxTries.toNat_lt
  rw [UInt8.toNat_add, UInt8.toNat_one]
  omega

theorem ne_max_of_lt (h : pinTry.toNat < config.maxTries.toNat) : pinTry ≠ 255 := by
  have hmax : config.maxTries.toNat < 256 := config.maxTries.toNat_lt
  intro h255
  simp only [h255, UInt8.toNat_ofNat] at h
  omega

end Counter

/-! ### The loop -/

section Taken
variable {x : PinLink} {config : PinConfig} (htakes : x.TakesAll)
include htakes

theorem giveUp_of_takes (past : List PinEvent) :
    giveUp x past = ⟨past ++ pinRefusal, .failed "Too many requests"⟩ := by
  simp [giveUp, htakes _ _, pinRefusal]

theorem sendNotice_of_takes (past : List PinEvent) (pinTry : UInt8) (notice : Bool) :
    sendNotice x past pinTry notice = (past ++ awaited (notice || decide (0 < pinTry)), .ok ()) := by
  unfold sendNotice awaited
  split
  · rw [htakes]
  · rw [List.append_nil]

/-- The loop, from any round on. -/
theorem verifyRounds_ends {messages : List DataChannelMessage} {requests : List RTCPinMessage}
    (hread : messages.map (fun msg => x.json.fromSlice msg.data) = requests.map some)
    (past : List PinEvent) {remotePin : String} (pinTry : UInt8) (notice : Bool)
    (hremote : remotePin ≠ config.pin) :
    Ends config.pin (config.maxTries.toNat - pinTry.toNat) (notice || decide (0 < pinTry)) messages
      (requests.map (·.pin)) past (verifyRounds x config past remotePin pinTry notice messages) := by
  induction messages generalizing requests past remotePin pinTry notice with
  | nil =>
    obtain rfl : requests = [] := by simpa using hread.symm
    unfold verifyRounds
    by_cases hlimit : config.maxTries ≤ pinTry
    · rw [if_neg hremote, if_pos hlimit, giveUp_of_takes htakes, no_try_left hlimit]
      exact .none_left
    · simp only [if_neg hremote, if_neg hlimit, sendNotice_of_takes htakes]
      have hlt := try_left hlimit
      exact .none_sent (by omega)
  | cons msg rest ih =>
    cases requests with
    | nil => simp at hread
    | cons request requests =>
      simp only [List.map_cons, List.cons.injEq] at hread
      unfold verifyRounds
      by_cases hlimit : config.maxTries ≤ pinTry
      · rw [if_neg hremote, if_pos hlimit, giveUp_of_takes htakes, no_try_left hlimit]
        exact .none_left
      · have hlt := try_left hlimit
        have hnext := toNat_succ hlt
        have hleft : config.maxTries.toNat - pinTry.toNat =
            config.maxTries.toNat - (pinTry + 1).toNat + 1 := by omega
        have hpos : decide (0 < pinTry + 1) = true := by
          rw [decide_eq_true_iff, UInt8.lt_iff_toNat_lt, hnext, UInt8.toNat_zero]
          omega
        simp only [if_neg hremote, if_neg hlimit, hleft, sendNotice_of_takes htakes, hread.1,
          if_neg (ne_max_of_lt hlt), List.map_cons]
        by_cases hpin : request.pin = config.pin
        · rw [verifyRounds.eq_def, if_pos hpin, hpin]
          exact .head
        · have hrest := ih hread.2 (past ++ awaited (notice || decide (0 < pinTry)) ++ [.read msg])
            (pinTry + 1) false hpin
          rw [hpos, Bool.or_true] at hrest
          exact .step hpin hrest

end Taken

/-! ### Every end -/

namespace Ends
variable {pin : String} {left : Nat} {notice : Bool} {messages : List DataChannelMessage}
  {guesses : List String} {past : List PinEvent} {run : PinRun}

/-- It passes exactly if one of the guesses there were tries for is the PIN. -/
theorem ok_iff (h : Ends pin left notice messages guesses past run) :
    run.outcome = .ok ↔ pin ∈ guesses.take left := by
  cases h with
  | passed n hn hguess =>
    refine iff_of_true rfl ?_
    have htake : (guesses.take left)[n]? = some pin := by
      rw [List.getElem?_take_of_lt hn]
      exact hguess
    exact List.mem_of_getElem? htake
  | refused hle hnone => simp [hnone]
  | closed hlt hnone =>
    refine iff_of_false (by simp) ?_
    exact fun hmem => hnone (List.mem_of_mem_take hmem)

theorem no_overflow (h : Ends pin left notice messages guesses past run) : run.outcome ≠ .overflow := by
  cases h <;> simp

/-- It is refused when no guess there was a try for is the PIN, without a look at the
next message. -/
theorem eq_refused (h : Ends pin left notice messages guesses past run) (hle : left ≤ messages.length)
    (hnone : pin ∉ guesses.take left) :
    run = ⟨past ++ rounds notice (messages.take left) ++ pinRefusal, .failed "Too many requests"⟩ := by
  cases hend : run.outcome with
  | ok => exact absurd (h.ok_iff.mp hend) hnone
  | overflow => exact absurd hend h.no_overflow
  | failed error =>
    cases h with
    | passed => cases hend
    | refused => rfl
    | closed hlt => omega

/-- What may follow the last message that is read. -/
def endings : List (List PinEvent) := [[], [.sent .pinRequired], pinRefusal]

theorem awaited_mem (notice : Bool) : awaited notice ∈ endings := by
  cases notice <;> simp [awaited, endings]

/-- What happens is rounds, no more than there are tries. -/
theorem events_eq (h : Ends pin left notice messages guesses past run) :
    ∃ n ending, n ≤ left ∧ ending ∈ endings ∧
      run.events = past ++ rounds notice (messages.take n) ++ ending := by
  cases h with
  | passed n hn hguess => exact ⟨n + 1, [], hn, by simp [endings], (List.append_nil _).symm⟩
  | refused hle hnone => exact ⟨left, pinRefusal, Nat.le_refl _, by simp [endings], rfl⟩
  | closed hlt hnone =>
    refine ⟨messages.length, awaited (notice || !messages.isEmpty), Nat.le_of_lt hlt, awaited_mem _, ?_⟩
    rw [List.take_length]

end Ends

/-- **The bound on guesses.** While the channels are open: `verify_pin` passes exactly if
one of the first `maxTries` messages carries the PIN; after `maxTries` others it tells
so and fails, without another read; every message is read after one notice of its own,
the first only if that is wanted; and the counter stays in its range. -/
theorem pin_guess_bound (x : PinLink) (htakes : x.TakesAll) (config : PinConfig)
    (hpin : config.pin ≠ "") (sendInitialNotice : Bool) (messages : List DataChannelMessage)
    (requests : List RTCPinMessage)
    (hread : messages.map (fun msg => x.json.fromSlice msg.data) = requests.map some) :
    let run := verifyPin x config sendInitialNotice messages
    let tries := config.maxTries.toNat
    let guesses := requests.map (·.pin)
    (run.outcome = .ok ↔ config.pin ∈ guesses.take tries) ∧
    (config.pin ∉ guesses.take tries → tries ≤ messages.length →
      run = ⟨.status .pinRequired :: rounds sendInitialNotice (messages.take tries) ++
          [.sent .tooManyAttempts, .status .tooManyAttempts], .failed "Too many requests"⟩) ∧
    (∃ n ending, n ≤ tries ∧ ending ∈ Ends.endings ∧
      run.events = .status .pinRequired :: rounds sendInitialNotice (messages.take n) ++ ending) ∧
    run.outcome ≠ .overflow := by
  have hrun : verifyPin x config sendInitialNotice messages =
      verifyRounds x config [.status .pinRequired] "" 0 sendInitialNotice messages := by
    simp only [verifyPin, htakes _ _]
  have hends : Ends config.pin config.maxTries.toNat sendInitialNotice messages (requests.map (·.pin))
      [.status .pinRequired] (verifyPin x config sendInitialNotice messages) := by
    have h := verifyRounds_ends htakes hread [.status .pinRequired] 0 sendInitialNotice hpin.symm
    rw [show decide ((0 : UInt8) < 0) = false from rfl, Bool.or_false] at h
    rw [hrun]
    exact h
  refine ⟨hends.ok_iff, ?_, ?_, hends.no_overflow⟩
  · exact fun hnone hle => hends.eq_refused hle hnone
  · exact hends.events_eq

/-- JSON for two PINs, over channels that stay open. -/
def openLink : PinLink where
  json := tableJson (fun message => "\x7b\"pin\":\"" ++ message.pin ++ "\"\x7d") [⟨"1111"⟩, ⟨"1234"⟩]
  jsonError _ := "EOF while parsing a value"
  takes _ _ := .ok ()

def secondTry : List DataChannelMessage :=
  [text (openLink.json.toString ⟨"1111"⟩), text (openLink.json.toString ⟨"1234"⟩)]

/-- A user who types the PIN on the second of two tries. -/
theorem pin_guess_bound_secondTry : (verifyPin openLink ⟨"1234", 2⟩ false secondTry).outcome = .ok := by
  have hread : secondTry.map (fun msg => openLink.json.fromSlice msg.data) =
      [⟨"1111"⟩, ⟨"1234"⟩].map some := by decide +kernel
  have h := pin_guess_bound openLink (fun _ _ => rfl) ⟨"1234", 2⟩ (by decide) false secondTry _ hread
  exact h.1.mpr (by decide +kernel)

end MagicShare.WebRtc
