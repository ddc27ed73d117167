import MagicShare.WebRtc.Session

/-! A session up to the file list.

The nonces and tokens go back and forth message by message. From the receiver's token on
the PIN phases run as a part of the session, so what is known of their end is known here:
either both sides come through, and the receiver has the file list, or one of them has
given up (`opens`, `stays_shut`). -/
namespace MagicShare.WebRtc
open Network Transition.System
open Crypto (generateTokenNonce_genuine)

/-! ### The PIN phases after the token response -/

section Pins
variable {Files : Type} {x : Setup Files} {a : PinView Files}

end Pins

theorem Party.sender_ne_receiver : Party.sender ≠ .receiver := by decide

variable {Secret Public : Type} {s : Session Secret Public}

namespace Session

variable (s) in
/-- The two peers on the data channel. -/
@[reducible] def peers (loose : SessionChannel → Prop) : Duo s.net where
  mine := .sender
  other := .receiver
  inbox := .inbox .sender
  outbox := .inbox .receiver
  loose := loose
  mine_ne_other := Party.sender_ne_receiver
  inbox_ne_outbox := by decide
  unlimited c hc := by
    obtain rfl | rfl := hc <;> rfl

variable (s) in
/-- The two peers, and nothing else. -/
abbrev pair : Duo s.net := s.peers fun _ => False

/-! ### Nonces and tokens -/

/-- What the sides rely on in the JSON up to the file list. -/
structure OpeningJson (s : Session Secret Public) : Prop where
  exchange : s.exchange.JsonReadsBack
  pins : ∀ token, s.exchange.localToken .receiver s.exchange.sessionNonce = .ok token → PinJsonReadsBack (s.pins token)

section Phases
variable {token : String} {nonce : Bytes} {σ : SessionState} {a : PinView (List FileDto)}

end Phases

/-! ### Whether the PINs are told -/

section Told
variable {token : String}

end Told

end Session
end MagicShare.WebRtc
