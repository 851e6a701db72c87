import BlockBridge.Message.Frame

/-!
# Reading what was written

Every message comes back from its own frame.  The two shapes of a read result
are told apart by length alone, so the length of each frame enters the proof.

A frame can also be written part by part into a buffer.  What that leaves at the
front of the buffer is the same frame, and nothing behind it is touched.

Main statements: `Message.encodeInto_of_le` for the buffer, and
`Message.frame_of_message` for the layout of a frame and what it tells.
-/

namespace BlockBridge

/-- Overwriting at the end of a front keeps the front and cuts the rest. -/
theorem Bytes.overwrite_append (front rest source : Bytes) :
    Bytes.overwrite (front ++ rest) front.length source =
      front ++ source ++ rest.drop source.length := by
  rw [Bytes.overwrite, List.take_left, List.drop_append]
  simp

/-- The bytes of a word are its digits to the base 256, least significant first. -/
theorem Word.getElem?_toBytes (w : UInt32) (place : Fin 4) :
    (Word.toBytes w)[place.val]? = some (UInt8.ofNat (w.toNat >>> (8 * place.val))) := by
  rw [Nat.shiftRight_eq_div_pow]
  match place with
  | 0 =>
    show some (UInt8.ofNat w.toNat) = some (UInt8.ofNat (w.toNat / 1))
    rw [Nat.div_one]
  | 1 => rfl
  | 2 => rfl
  | 3 => rfl

namespace Message

/-- A frame spelled out: the tag, the four bytes of the block number, the body. -/
theorem encode_eq_cons (m : Message) :
    m.encode = m.kind.tag :: UInt8.ofNat m.block.toNat ::
      UInt8.ofNat (m.block.toNat / 256) :: UInt8.ofNat (m.block.toNat / 65536) ::
      UInt8.ofNat (m.block.toNat / 16777216) :: m.body := rfl

theorem addressAt_encode (m : Message) (h : wordFrameLength ≤ m.encode.length) :
    addressAt m.encode h = m.block :=
  Word.ofBytes_toBytes m.block

/-- A body of one word is read back as the code with the same bits. -/
theorem codeAt_encode {m : Message} {code : ResultCode}
    (hbody : m.body = Word.toBytes code.toUInt32) (h : wordFrameLength ≤ m.encode.length) :
    codeAt m.encode h = code := by
  have hword : Word.read m.encode 5 (by unfold wordFrameLength at h; omega) = code.toUInt32 := by
    simp only [Word.read, encode_eq_cons, hbody, Word.toBytes, List.getElem_cons_succ,
      List.getElem_cons_zero]
    exact Word.ofBytes_toBytes code.toUInt32
  rw [codeAt, hword]
  rfl

/-- A body of one block is read back as that block. -/
theorem dataAt_encode {m : Message} {data : Block} (hbody : m.body = data.bytes)
    (h : blockFrameLength ≤ m.encode.length) : dataAt m.encode h = data := by
  apply Block.ext
  have hdrop : m.encode.drop 5 = data.bytes := by
    rw [encode_eq_cons, hbody]
    rfl
  show (m.encode.drop 5).take blockSize = data.bytes
  rw [hdrop, List.take_of_length_le (Nat.le_of_eq data.length_eq)]

/-- No frame is longer than one with a block of data. -/
theorem frameLength_le (m : Message) : m.frameLength ≤ blockFrameLength := by
  cases m with
  | writeRequest | readResult => exact Nat.le_refl blockFrameLength
  | readRequest | readFailed | writeResult => exact (by decide : wordFrameLength ≤ blockFrameLength)

/-- Written into a buffer with room for it, a message leaves its frame at the
front and the buffer behind it as it was. -/
theorem encodeInto_of_le {m : Message} {buffer : Bytes} (h : m.frameLength ≤ buffer.length) :
    m.encodeInto buffer = (some m.frameLength, m.encode ++ buffer.drop m.frameLength) := by
  have htag : buffer.overwrite 0 [m.kind.tag] = [m.kind.tag] ++ buffer.drop 1 :=
    Bytes.overwrite_append [] buffer [m.kind.tag]
  have haddress : Bytes.overwrite ([m.kind.tag] ++ buffer.drop 1) 1 (Word.toBytes m.block) =
      ([m.kind.tag] ++ Word.toBytes m.block) ++ buffer.drop 5 := by
    have hwrite := Bytes.overwrite_append [m.kind.tag] (buffer.drop 1) (Word.toBytes m.block)
    rw [List.drop_drop] at hwrite
    exact hwrite
  have hbody : Bytes.overwrite (([m.kind.tag] ++ Word.toBytes m.block) ++ buffer.drop 5) 5 m.body =
      m.encode ++ buffer.drop m.frameLength := by
    have hwrite := Bytes.overwrite_append ([m.kind.tag] ++ Word.toBytes m.block) (buffer.drop 5)
      m.body
    rw [List.drop_drop, m.length_body] at hwrite
    exact hwrite
  rw [encodeInto, if_pos h]
  simp only [htag, haddress, hbody]

/-- Every message is read back from its frame. -/
theorem decode_encode (m : Message) : decode m.encode = .ok m := by
  have hhead : m.encode.head? = some m.kind.tag := rfl
  have hlength : m.encode.length = m.frameLength := length_encode m
  unfold decode
  simp only [hhead, Kind.ofTag?_tag]
  cases m with
  | writeRequest block data =>
    have hroom : blockFrameLength ≤ (writeRequest block data).encode.length :=
      Nat.le_of_eq hlength.symm
    simp only [kind]
    rw [dif_pos hroom, addressAt_encode, dataAt_encode rfl]
    rfl
  | readRequest block =>
    have hroom : wordFrameLength ≤ (readRequest block).encode.length := Nat.le_of_eq hlength.symm
    simp only [kind]
    rw [dif_pos hroom, addressAt_encode]
    rfl
  | readResult block data =>
    have hroom : blockFrameLength ≤ (readResult block data).encode.length :=
      Nat.le_of_eq hlength.symm
    have hlong : (readResult block data).encode.length ≠ wordFrameLength := by
      rw [hlength]
      show blockFrameLength ≠ wordFrameLength
      decide
    simp only [kind]
    rw [dif_neg hlong, dif_pos hroom, addressAt_encode, dataAt_encode rfl]
    rfl
  | readFailed block code =>
    have hshort : (readFailed block code).encode.length = wordFrameLength := hlength
    simp only [kind]
    rw [dif_pos hshort, addressAt_encode, codeAt_encode rfl]
    rfl
  | writeResult block code =>
    have hroom : wordFrameLength ≤ (writeResult block code).encode.length :=
      Nat.le_of_eq hlength.symm
    simp only [kind]
    rw [dif_pos hroom, addressAt_encode, codeAt_encode rfl]
    rfl

/-- Every message is read back from its frame, so no two messages share one.  The
frame is as long as the message's shape asks, 517 bytes with a block of data and
9 with a word; it begins with the tag of the message's kind and the four bytes of
the block number, least significant first; and it is what is written to the front
of a zeroed buffer of the longest frame's length. -/
theorem frame_of_message (m : Message) :
    decode m.encode = .ok m ∧
    (m.encode.length = m.frameLength ∧
      m.frameLength =
        match m with
        | .writeRequest .. | .readResult .. => 517
        | .readRequest .. | .readFailed .. | .writeResult .. => 9) ∧
    m.encode.head? = some m.kind.tag ∧
    (∀ place : Fin 4,
      m.encode[1 + place.val]? = some (UInt8.ofNat (m.block.toNat >>> (8 * place.val)))) ∧
    (∀ other : Message, m.encode = other.encode ↔ m = other) ∧
    ∃ rest, m.encodeInto (List.replicate blockFrameLength 0) =
      (some m.encode.length, m.encode ++ rest) := by
  refine ⟨decode_encode m, ⟨length_encode m, ?_⟩, rfl, ?_, ?_, ?_⟩
  · cases m <;> rfl
  · intro place
    have hword : (Word.toBytes m.block ++ m.body)[place.val]? =
        (Word.toBytes m.block)[place.val]? := List.getElem?_append_left place.isLt
    rw [← Word.getElem?_toBytes, ← hword, Nat.add_comm 1]
    exact List.getElem?_cons_succ
  · intro other
    constructor
    · intro hsame
      have hread := decode_encode m
      rw [hsame, decode_encode other] at hread
      exact (Except.ok.inj hread).symm
    · exact congrArg encode
  · have hroom : m.frameLength ≤ (List.replicate blockFrameLength (0 : UInt8)).length := by
      rw [List.length_replicate]
      exact frameLength_le m
    rw [length_encode]
    exact ⟨_, encodeInto_of_le hroom⟩

end Message
end BlockBridge
