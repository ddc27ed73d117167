import MagicShare.Base.Network

/-! What the two peers put on the data channel.

A message is a text or bytes. Texts are JSON, and the one-character text `0` is
the delimiter; a byte stream, or a text too long for one message, travels as
binary messages of at most `chunkSize` bytes. JSON is read and written by a
library, so a type that travels comes with a `Codec`; what the protocol relies on
is stated where it is used. -/
namespace MagicShare.WebRtc

abbrev Bytes := List UInt8

/-- One message of a data channel. -/
structure DataChannelMessage where
  isString : Bool
  data : Bytes
  deriving DecidableEq

/-- What `send_text` puts on the channel. -/
def text (data : Bytes) : DataChannelMessage := ⟨true, data⟩

/-- What `send` puts on the channel. -/
def binary (data : Bytes) : DataChannelMessage := ⟨false, data⟩

@[simp] theorem text_isString (data : Bytes) : (text data).isString = true := rfl
@[simp] theorem text_data (data : Bytes) : (text data).data = data := rfl
@[simp] theorem binary_isString (data : Bytes) : (binary data).isString = false := rfl
@[simp] theorem binary_data (data : Bytes) : (binary data).data = data := rfl

/-- The text `0`. Empty messages do not arrive, so the delimiter is not empty. -/
def delimiter : DataChannelMessage := text [0x30]

def isDelimiter (msg : DataChannelMessage) : Bool := msg.isString && decide (msg.data.length ≤ 1)

@[simp] theorem isDelimiter_delimiter : isDelimiter delimiter = true := rfl

/-- How one type is written as JSON and read back; reading may fail. -/
structure Codec (α : Type) where
  toString : α → Bytes
  fromSlice : Bytes → Option α

/-- A value is read back as it was written. -/
def Codec.ReadsBack {α : Type} (c : Codec α) (a : α) : Prop :=
  c.fromSlice (c.toString a) = some a

instance {α : Type} [DecidableEq α] (c : Codec α) (a : α) : Decidable (c.ReadsBack a) :=
  inferInstanceAs (Decidable (_ = _))

/-! ### Chunks -/

def chunkSize : Nat := 16 * 1024

/-- The full chunks a buffer holds, and what stays in it. -/
def splitFull (buffer : Bytes) : List Bytes × Bytes :=
  if _h : chunkSize ≤ buffer.length then
    let later := splitFull (buffer.drop chunkSize)
    (buffer.take chunkSize :: later.1, later.2)
  else ([], buffer)
termination_by buffer.length
decreasing_by
  have : 0 < chunkSize := by decide
  simp only [List.length_drop]
  omega

/-- The chunks sent for data that arrives in pieces, with what is buffered
already: full chunks as soon as they are there, and what is left at the end. -/
def processInChunks : Bytes → List Bytes → List Bytes
  | buffer, [] => if buffer = [] then [] else [buffer]
  | buffer, data :: rest =>
    (splitFull (buffer ++ data)).1 ++ processInChunks (splitFull (buffer ++ data)).2 rest

def sendStringInChunks (string : Bytes) : List Bytes := processInChunks [] [string]

theorem splitFull_of_lt {buffer : Bytes} (h : buffer.length < chunkSize) :
    splitFull buffer = ([], buffer) := by
  rw [splitFull, dif_neg (by omega)]

theorem splitFull_of_le {buffer : Bytes} (h : chunkSize ≤ buffer.length) :
    splitFull buffer =
      (buffer.take chunkSize :: (splitFull (buffer.drop chunkSize)).1,
        (splitFull (buffer.drop chunkSize)).2) := by
  rw [splitFull, dif_pos h]

/-- Splitting loses nothing. -/
theorem splitFull_flatten (buffer : Bytes) :
    (splitFull buffer).1.flatten ++ (splitFull buffer).2 = buffer := by
  induction buffer using splitFull.induct with
  | case1 buffer h ih =>
    rw [splitFull_of_le h]
    simp only [List.flatten_cons, List.append_assoc]
    rw [ih, List.take_append_drop]
  | case2 buffer h =>
    rw [splitFull_of_lt (by omega)]
    simp

/-- **The chunks are the data**, however it came in pieces. -/
theorem processInChunks_flatten (buffer : Bytes) (pieces : List Bytes) :
    (processInChunks buffer pieces).flatten = buffer ++ pieces.flatten := by
  induction pieces generalizing buffer with
  | nil =>
    by_cases h : buffer = []
    · simp [processInChunks, h]
    · simp [processInChunks, h]
  | cons data rest ih =>
    simp only [processInChunks, List.flatten_append, ih, List.flatten_cons]
    rw [← List.append_assoc, splitFull_flatten, List.append_assoc]

theorem sendStringInChunks_flatten (string : Bytes) :
    (sendStringInChunks string).flatten = string := by
  simp [sendStringInChunks, processInChunks_flatten]

end MagicShare.WebRtc
