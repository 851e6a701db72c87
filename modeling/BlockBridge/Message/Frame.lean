import BlockBridge.Fault
import BlockBridge.Message
import BlockBridge.Word

/-!
# Frames

A frame is one message on the channel: the tag of its kind, the block number as
a word, then either a block of data (517 bytes in all) or one more word (9
bytes in all).  A read request carries a word that means nothing; it is sent as
zero and not looked at.  A read result of exactly 9 bytes is a failure, a
longer one carries data.

Main statements: `Message.length_encode` fixes the length of every frame, and
`Message.encodeInto_length` says that writing into a buffer keeps the buffer's
length.
-/

namespace BlockBridge

/-- Length of a frame that carries a block of data. -/
def blockFrameLength : Nat := 1 + 4 + blockSize

/-- Length of a frame that carries a word. -/
def wordFrameLength : Nat := 1 + 4 + 4

namespace Message

/-- The length of a message's frame. -/
def frameLength : Message → Nat
  | writeRequest .. | readResult .. => blockFrameLength
  | readRequest .. | readFailed .. | writeResult .. => wordFrameLength

/-- What follows the block number in a message's frame. -/
def body : Message → Bytes
  | writeRequest _ data => data.bytes
  | readRequest _ => Word.toBytes 0
  | readResult _ data => data.bytes
  | readFailed _ code => Word.toBytes code.toUInt32
  | writeResult _ code => Word.toBytes code.toUInt32

/-- The frame of a message. -/
def encode (m : Message) : Bytes :=
  m.kind.tag :: (Word.toBytes m.block ++ m.body)

/-- Write a message's frame to the front of a buffer, part by part.  A buffer
without room for all of it is left alone. -/
def encodeInto (m : Message) (buffer : Bytes) : Option Nat × Bytes :=
  if m.frameLength ≤ buffer.length then
    let tagged := buffer.overwrite 0 [m.kind.tag]
    let addressed := tagged.overwrite 1 (Word.toBytes m.block)
    (some m.frameLength, addressed.overwrite 5 m.body)
  else (none, buffer)

theorem length_body (m : Message) : 5 + m.body.length = m.frameLength := by
  cases m <;> simp [body, frameLength, blockFrameLength, wordFrameLength, Block.length_eq]

theorem length_encode (m : Message) : m.encode.length = m.frameLength := by
  rw [← length_body]
  simp only [encode, List.length_cons, List.length_append, Word.length_toBytes]
  omega

theorem encodeInto_length (m : Message) (buffer : Bytes) :
    (m.encodeInto buffer).2.length = buffer.length := by
  have hbody := m.length_body
  have hlen : 5 ≤ m.frameLength := by omega
  unfold encodeInto
  split
  · have h₁ : (buffer.overwrite 0 [m.kind.tag]).length = buffer.length :=
      Bytes.length_overwrite (by simp only [List.length_singleton]; omega)
    have h₂ : ((buffer.overwrite 0 [m.kind.tag]).overwrite 1 (Word.toBytes m.block)).length =
        (buffer.overwrite 0 [m.kind.tag]).length :=
      Bytes.length_overwrite (by rw [h₁, Word.length_toBytes]; omega)
    exact (Bytes.length_overwrite (by rw [h₂, h₁]; omega)).trans (h₂.trans h₁)
  · rfl

/-- The block number of a frame; every frame long enough for any kind has one. -/
def addressAt (bs : Bytes) (h : wordFrameLength ≤ bs.length) : Address :=
  Word.read bs 1 (by unfold wordFrameLength at h; omega)

/-- The result code of a frame. -/
def codeAt (bs : Bytes) (h : wordFrameLength ≤ bs.length) : ResultCode :=
  (Word.read bs 5 (by unfold wordFrameLength at h; omega)).toInt32

/-- The data of a frame that is long enough to carry a block. -/
def dataAt (bs : Bytes) (h : blockFrameLength ≤ bs.length) : Block :=
  ⟨(bs.drop 5).take blockSize, by
    unfold blockFrameLength at h
    simp only [List.length_take, List.length_drop]
    omega⟩

theorem wordFrame_le_of_blockFrame_le {bs : Bytes} (h : blockFrameLength ≤ bs.length) :
    wordFrameLength ≤ bs.length :=
  Nat.le_trans (by decide) h

/-- Read a frame.  Bytes past the end of the message are not looked at, save
that the length of a read result tells its two shapes apart. -/
def decode (bs : Bytes) : Except FrameFault Message :=
  match bs.head? with
  | none => .error .empty
  | some tag =>
    match Kind.ofTag? tag with
    | none => .error (.unknownKind tag)
    | some .writeRequest =>
      if h : blockFrameLength ≤ bs.length then
        .ok (.writeRequest (addressAt bs (wordFrame_le_of_blockFrame_le h)) (dataAt bs h))
      else .error (.truncated tag bs.length blockFrameLength)
    | some .readRequest =>
      if h : wordFrameLength ≤ bs.length then
        .ok (.readRequest (addressAt bs h))
      else .error (.truncated tag bs.length wordFrameLength)
    | some .readResult =>
      -- The one kind with two shapes: a word says why there is no data.
      if h : bs.length = wordFrameLength then
        .ok (.readFailed (addressAt bs (Nat.le_of_eq h.symm)) (codeAt bs (Nat.le_of_eq h.symm)))
      else if h : blockFrameLength ≤ bs.length then
        .ok (.readResult (addressAt bs (wordFrame_le_of_blockFrame_le h)) (dataAt bs h))
      else .error (.truncated tag bs.length blockFrameLength)
    | some .writeResult =>
      if h : wordFrameLength ≤ bs.length then
        .ok (.writeResult (addressAt bs h) (codeAt bs h))
      else .error (.truncated tag bs.length wordFrameLength)

end Message
end BlockBridge
