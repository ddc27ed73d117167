import MagicShare.Base.Records
import MagicShare.Base.Transition
import MagicShare.Pairing.Services

/-! The issuer's side of the LAN handshake (`pairing_lan_server.dart`).

A handler runs from one `await` to the next without interruption: it reads the
body, it closes the response. `_consumed` is looked at before the body is read
and set after, so a handler that has passed the look goes on to hand out the key
however long its body takes. The server is one-shot exactly as long as no such
body arrives once the key is gone (`one_shot_iff`). -/
namespace MagicShare.Pairing

def kPairingExchangeKeyPath : String := "/v1/pair/exchange-key"

/-! ### Replies -/

inductive LanError where
  | unknownRoute | alreadyConsumed | malformedJson | missingFields | tokenMismatch | badJoinerPubKey
  | exchangeFailed | internal
  deriving DecidableEq

def LanError.status : LanError → Nat
  | .unknownRoute => 404
  | .alreadyConsumed => 410
  | .tokenMismatch => 403
  | .internal => 500
  | _ => 400

def LanError.code : LanError → String
  | .unknownRoute => "unknownRoute"
  | .alreadyConsumed => "alreadyConsumed"
  | .malformedJson => "malformedJson"
  | .missingFields => "missingFields"
  | .tokenMismatch => "tokenMismatch"
  | .badJoinerPubKey => "badJoinerPubKey"
  | .exchangeFailed => "exchangeFailed"
  | .internal => "internal"

inductive LanReply where
  | error (e : LanError)
  | wrappedGroupKey (wrapped : List UInt8)
  deriving DecidableEq

def LanReply.status : LanReply → Nat
  | .error e => e.status
  | .wrappedGroupKey _ => 200

/-- The reply a handler falls back to when closing this one throws: the inner
`catch` answers for the exchange, the outer one for everything else. -/
def LanReply.fallback : LanReply → Option LanReply
  | .wrappedGroupKey _ => some (.error .exchangeFailed)
  | .error .internal => none
  | .error _ => some (.error .internal)

/-! ### The exchange -/

/-- What a request brings in its body; a field that is no string is `none`. -/
inductive LanRequestBody where
  /-- The body never arrives whole, or is not UTF-8. -/
  | unreadable
  | malformed
  | fields (tokenId joinerPubKeyB64 : Option String)
  deriving DecidableEq

/-- The server's configuration. `wrap` agrees on a key with the joiner's and
encrypts the group key under it, with a nonce of its own for each request. -/
structure LanServerConfig where
  tokenId : String
  base64UrlDecode : String → Option (List UInt8)
  onCurve : List UInt8 → Bool
  wrap : Nat → ECPublicKey → Option (List UInt8)

def padBase64Url (input : String) : String :=
  String.ofList (input.toList ++ List.replicate ((input.length + 3) / 4 * 4 - input.length) '=')

/-- What the `i`-th request is answered once its body is there. -/
def exchangeReply (config : LanServerConfig) (i : Nat) : LanRequestBody → LanReply
  | .unreadable => .error .internal
  | .malformed => .error .malformedJson
  | .fields (some requestTokenId) (some joinerPubKeyB64) =>
    if requestTokenId ≠ config.tokenId then .error .tokenMismatch
    else
      match config.base64UrlDecode (padBase64Url joinerPubKeyB64) with
      | none => .error .badJoinerPubKey
      | some joinerPubBytes =>
        match (decompressPublicKey config.onCurve joinerPubBytes).bind (config.wrap i) with
        | none => .error .exchangeFailed
        | some wrapped => .wrappedGroupKey wrapped
  | .fields _ _ => .error .missingFields

/-- A body with the right token and a key the exchange works with. -/
def Earns (config : LanServerConfig) (i : Nat) (body : LanRequestBody) : Prop :=
  ∃ wrapped, exchangeReply config i body = .wrappedGroupKey wrapped

/-! ### The server -/

inductive LanHandler where
  /-- Waits for the body. -/
  | reading
  /-- Has written its reply and waits for the response to close. -/
  | closing (reply : LanReply)
  | closed (reply : LanReply)
  /-- Gave up without an answer. -/
  | failed
  deriving DecidableEq

inductive HandshakeState where
  | pending | completed | timedOut
  deriving DecidableEq

/-- The server, its handlers in order of arrival, and what an observer notes: the
requests that were handed a key, with their bodies. -/
structure LanServer where
  listening : Bool := false
  consumed : Bool := false
  handshakeCompleted : HandshakeState := .pending
  handlers : List LanHandler := []
  exchanges : List (Nat × LanRequestBody) := []

inductive LanEvent where
  | start
  | request (method path : String)
  /-- The body of the `i`-th request arrives. -/
  | body (i : Nat) (body : LanRequestBody)
  /-- The response of the `i`-th request closes. -/
  | closed (i : Nat)
  /-- Closing it throws; `writable` says whether it takes another reply. -/
  | closeFailed (i : Nat) (writable : Bool)
  | timeout
  | stop

namespace LanServer

/-- A handler up to its first `await`. -/
def accept (σ : LanServer) (method path : String) : LanHandler :=
  if method ≠ "POST" ∨ path ≠ kPairingExchangeKeyPath then .closing (.error .unknownRoute)
  else if σ.consumed then .closing (.error .alreadyConsumed)
  else .reading

/-- From the body to the closing of the response. -/
def exchange (σ : LanServer) (config : LanServerConfig) (i : Nat) (body : LanRequestBody) : LanServer :=
  match exchangeReply config i body with
  | .error e => {σ with handlers := σ.handlers.set i (.closing (.error e))}
  | .wrappedGroupKey wrapped => {σ with
      consumed := true
      handlers := σ.handlers.set i (.closing (.wrappedGroupKey wrapped))
      exchanges := σ.exchanges ++ [(i, body)]}

/-- The response is closed; after a key the server tears itself down. -/
def finish (σ : LanServer) (i : Nat) (reply : LanReply) : LanServer :=
  match reply with
  | .error e => {σ with handlers := σ.handlers.set i (.closed (.error e))}
  | .wrappedGroupKey wrapped => {σ with
      listening := false
      handshakeCompleted :=
        if σ.handshakeCompleted = .pending then .completed else σ.handshakeCompleted
      handlers := σ.handlers.set i (.closed (.wrappedGroupKey wrapped))}

/-- What becomes of a handler whose response cannot be closed. -/
def afterCloseFailed (reply : LanReply) (writable : Bool) : LanHandler :=
  match reply.fallback with
  | some fallback => if writable then .closing fallback else .failed
  | none => .failed

end LanServer

/-- Requests, bodies and closings in any order. -/
def lanServer (config : LanServerConfig) : Transition.System LanServer LanEvent where
  init := {}
  step σ
    | .start => some {σ with listening := true}
    | .request method path =>
      if σ.listening then some {σ with handlers := σ.handlers ++ [σ.accept method path]} else none
    | .body i body =>
      if σ.handlers[i]? = some .reading then some (σ.exchange config i body) else none
    | .closed i =>
      match σ.handlers[i]? with
      | some (.closing reply) => some (σ.finish i reply)
      | _ => none
    | .closeFailed i writable =>
      match σ.handlers[i]? with
      | some (.closing reply) =>
        some {σ with handlers := σ.handlers.set i (LanServer.afterCloseFailed reply writable)}
      | _ => none
    | .timeout => some {σ with
        listening := false
        handshakeCompleted :=
          if σ.handshakeCompleted = .pending then .timedOut else σ.handshakeCompleted}
    | .stop => some {σ with listening := false}

/-! ### One-shot -/

/-- The reply a handler has written, if it has. -/
def LanHandler.reply : LanHandler → Option LanReply
  | .closing reply => some reply
  | .closed reply => some reply
  | _ => none

/-- The server has handed out at most one key, every other answer is an error, and
only a request that earned the key consumed the exchange. -/
structure LanServer.OneShot (config : LanServerConfig) (σ : LanServer) : Prop where
  once : σ.exchanges.length ≤ 1
  answered : ∀ i reply, (σ.handlers[i]?.bind LanHandler.reply) = some reply → reply.status = 200 →
    i ∈ σ.exchanges.map Prod.fst
  refused : ∀ i reply, (σ.handlers[i]?.bind LanHandler.reply) = some reply →
    i ∉ σ.exchanges.map Prod.fst → 400 ≤ reply.status
  consumed : σ.consumed = true ↔ σ.exchanges ≠ []
  earned : ∀ x ∈ σ.exchanges, Earns config x.1 x.2

/-- No handler that looked while the exchange was open gets a body that earns the
key once it is consumed. -/
def InTime (config : LanServerConfig) (σ : LanServer) : LanEvent → Prop
  | .body i body => σ.handlers[i]? = some .reading → σ.consumed = true → ¬ Earns config i body
  | _ => True

theorem LanReply.status_cases (reply : LanReply) :
    (∃ wrapped, reply = .wrappedGroupKey wrapped) ∨ (reply.status ≠ 200 ∧ 400 ≤ reply.status) := by
  cases reply with
  | wrappedGroupKey wrapped => exact .inl ⟨wrapped, rfl⟩
  | error e => exact .inr (by cases e <;> decide)

namespace LanServer.OneShot
variable {config : LanServerConfig} {σ τ : LanServer}

/-- It is enough to account for the keys that were written. -/
theorem of_granted (once : σ.exchanges.length ≤ 1)
    (granted : ∀ i wrapped, (σ.handlers[i]?.bind LanHandler.reply) = some (.wrappedGroupKey wrapped) →
      i ∈ σ.exchanges.map Prod.fst)
    (consumed : σ.consumed = true ↔ σ.exchanges ≠ []) (earned : ∀ x ∈ σ.exchanges, Earns config x.1 x.2) :
    OneShot config σ where
  once := once
  answered i reply hreply hstatus := by
    rcases reply.status_cases with ⟨wrapped, rfl⟩ | ⟨hne, _⟩
    · exact granted i wrapped hreply
    · exact absurd hstatus hne
  refused i reply hreply hnot := by
    rcases reply.status_cases with ⟨wrapped, rfl⟩ | ⟨_, herror⟩
    · exact absurd (granted i wrapped hreply) hnot
    · exact herror
  consumed := consumed
  earned := earned

theorem granted (h : OneShot config σ) {i : Nat} {wrapped : List UInt8}
    (hreply : (σ.handlers[i]?.bind LanHandler.reply) = some (.wrappedGroupKey wrapped)) :
    i ∈ σ.exchanges.map Prod.fst := h.answered i _ hreply rfl

theorem init (config : LanServerConfig) : OneShot config {} :=
  of_granted (by decide) (fun i wrapped h => by simp at h) (by simp) (fun x hx => nomatch hx)

/-- A handler moves on, with no key it did not have. -/
theorem setHandler (h : OneShot config σ) (i : Nat) (next : LanHandler)
    (hnext : ∀ wrapped, next.reply = some (.wrappedGroupKey wrapped) → i ∈ σ.exchanges.map Prod.fst)
    (listening : Bool) (handshakeCompleted : HandshakeState) : OneShot config {σ with
      handlers := σ.handlers.set i next
      listening := listening
      handshakeCompleted := handshakeCompleted} := by
  refine of_granted h.once (fun j wrapped hj => ?_) h.consumed h.earned
  obtain ⟨handler, hget, hreply⟩ := Option.bind_eq_some_iff.mp hj
  rcases Records.of_set hget with ⟨rfl, rfl⟩ | ⟨-, hold⟩
  · exact hnext wrapped hreply
  · exact h.granted (by rw [hold]; exact hreply)

/-- A new handler has no key. -/
theorem request (h : OneShot config σ) (method path : String) :
    OneShot config {σ with handlers := σ.handlers ++ [σ.accept method path]} := by
  refine of_granted h.once (fun j wrapped hj => ?_) h.consumed h.earned
  obtain ⟨handler, hget, hreply⟩ := Option.bind_eq_some_iff.mp hj
  rcases Records.of_append hget with hold | ⟨-, hnew⟩
  · exact h.granted (by rw [hold]; exact hreply)
  · rw [hnew, accept] at hreply
    split_ifs at hreply <;> simp [LanHandler.reply] at hreply

/-- **A body keeps the server one-shot exactly when it comes in time.** -/
theorem exchange_iff (h : OneShot config σ) {i : Nat} (hi : σ.handlers[i]? = some .reading)
    (body : LanRequestBody) : OneShot config (σ.exchange config i body) ↔ InTime config σ (.body i body) := by
  unfold LanServer.exchange
  cases hreply : exchangeReply config i body with
  | error e =>
    refine iff_of_true (h.setHandler i _ (fun wrapped hw => ?_) _ _) fun _ _ hearns => ?_
    · simp [LanHandler.reply] at hw
    · obtain ⟨wrapped, hw⟩ := hearns
      rw [hreply] at hw
      cases hw
  | wrappedGroupKey wrapped =>
    have hearns : Earns config i body := ⟨wrapped, hreply⟩
    constructor
    · intro ht _ hconsumed _
      have honce := ht.once
      have hne := List.length_pos_iff.mpr (h.consumed.mp hconsumed)
      simp only [List.length_append, List.length_singleton] at honce
      omega
    · intro hin
      have hopen : σ.exchanges = [] := by
        by_contra hne
        exact hin hi (h.consumed.mpr hne) hearns
      refine of_granted (by simp [hopen]) (fun j w hj => ?_) (by simp) (fun x hx => ?_)
      · obtain ⟨handler, hget, hjreply⟩ := Option.bind_eq_some_iff.mp hj
        rcases Records.of_set hget with ⟨rfl, -⟩ | ⟨-, hold⟩
        · simp
        · have hbefore := h.granted (by rw [hold]; exact hjreply)
          simp [hopen] at hbefore
      · simp only [hopen, List.nil_append, List.mem_singleton] at hx
        rw [hx]
        exact hearns

/-- **An event keeps the server one-shot exactly when it is in time.** -/
theorem step_iff {e : LanEvent} (h : OneShot config σ) (hst : (lanServer config).step σ e = some τ) :
    OneShot config τ ↔ InTime config σ e := by
  cases e with
  | start =>
    obtain rfl := Option.some.inj hst
    exact iff_of_true (of_granted h.once (fun _ _ => h.granted) h.consumed h.earned) trivial
  | request method path =>
    simp only [lanServer, Option.ite_none_right_eq_some] at hst
    obtain rfl := Option.some.inj hst.2
    exact iff_of_true (h.request method path) trivial
  | body i body =>
    simp only [lanServer, Option.ite_none_right_eq_some] at hst
    obtain rfl := Option.some.inj hst.2
    exact h.exchange_iff hst.1 body
  | closed i =>
    simp only [lanServer] at hst
    split at hst
    · next reply hi =>
      obtain rfl := Option.some.inj hst
      refine iff_of_true ?_ trivial
      cases reply with
      | error e => exact h.setHandler i _ (fun wrapped hw => by simp [LanHandler.reply] at hw) _ _
      | wrappedGroupKey wrapped =>
        exact h.setHandler i _ (fun _ _ => h.granted (by rw [hi]; rfl)) _ _
    · cases hst
  | closeFailed i writable =>
    simp only [lanServer] at hst
    split at hst
    · next reply hi =>
      obtain rfl := Option.some.inj hst
      refine iff_of_true (h.setHandler i _ (fun wrapped hw => ?_) _ _) trivial
      -- No reply falls back to a key.
      unfold afterCloseFailed at hw
      cases reply with
      | error e => cases e <;> cases writable <;> simp [LanReply.fallback, LanHandler.reply] at hw
      | wrappedGroupKey w => cases writable <;> simp [LanReply.fallback, LanHandler.reply] at hw
    · cases hst
  | timeout =>
    obtain rfl := Option.some.inj hst
    exact iff_of_true (of_granted h.once (fun _ _ => h.granted) h.consumed h.earned) trivial
  | stop =>
    obtain rfl := Option.some.inj hst
    exact iff_of_true (of_granted h.once (fun _ _ => h.granted) h.consumed h.earned) trivial

end LanServer.OneShot

/-- **The server is one-shot along a run exactly when every body of the run comes in
time.** -/
theorem one_shot_iff (config : LanServerConfig) (events : List LanEvent) :
    (lanServer config).Along (LanServer.OneShot config) {} events ↔
      (lanServer config).Meets (InTime config) {} events :=
  Transition.System.along_iff_meets (fun _ _ _ h hst => h.step_iff hst) (LanServer.OneShot.init config)

/-! ### Two joiners at once -/

namespace TwoJoiners

def config : LanServerConfig where
  tokenId := "code"
  base64UrlDecode _ := some (2 :: List.replicate 32 7)
  onCurve _ := true
  wrap i _ := some [UInt8.ofNat i]

def body : LanRequestBody := .fields (some "code") (some "key")

/-- Both requests are in before either body is. -/
def events : List LanEvent :=
  [.start, .request "POST" kPairingExchangeKeyPath, .request "POST" kPairingExchangeKeyPath,
    .body 0 body, .body 1 body, .closed 0, .closed 1]

theorem handlers_after : ((lanServer config).run {} events).map LanServer.handlers =
    some [.closed (.wrappedGroupKey [0]), .closed (.wrappedGroupKey [1])] := by decide

end TwoJoiners

/-- Two joiners whose requests are in before the exchange is consumed both get the
key. -/
theorem two_joiners_both_exchange : ¬ ∀ (config : LanServerConfig) (events : List LanEvent) (σ : LanServer),
    (lanServer config).run {} events = some σ → ∀ (i j : Nat) (w v : List UInt8),
      σ.handlers[i]? = some (LanHandler.closed (.wrappedGroupKey w)) →
      σ.handlers[j]? = some (LanHandler.closed (.wrappedGroupKey v)) → i = j := by
  intro h
  obtain ⟨σ, hσ, hhandlers⟩ := Option.map_eq_some_iff.mp TwoJoiners.handlers_after
  have heq := h TwoJoiners.config TwoJoiners.events σ hσ 0 1 [0] [1] (by rw [hhandlers]; rfl) (by rw [hhandlers]; rfl)
  cases heq

end MagicShare.Pairing
