import BlockBridge.Proofs.Message.RoundTrip

/-!
# Writing what was read

A frame that is accepted need not be one that any message has: bytes behind the
message are not looked at, nor is the word of a read request.  In all other bytes
the frame is that of the message it is read as, so reading forgets nothing else.

Main statement: `Message.encode_of_decode`.
-/

namespace BlockBridge

/-- Writing a word that was read gives back the four bytes it was read from. -/
theorem Word.toBytes_read {bs : Bytes} {offset : Nat} (h : offset + 4 ≤ bs.length) :
    Word.toBytes (Word.read bs offset h) = (bs.drop offset).take 4 := by
  rw [Word.read, Word.toBytes_ofBytes]
  rw [List.drop_eq_getElem_cons (by omega), List.drop_eq_getElem_cons (by omega),
    List.drop_eq_getElem_cons (by omega), List.drop_eq_getElem_cons (by omega)]
  rfl

namespace Message

/-- What the front of a frame says, written again. -/
theorem take_five {bs : Bytes} {kind : Kind} (hhead : bs.head? = some kind.tag)
    (h : wordFrameLength ≤ bs.length) :
    bs.take 5 = kind.tag :: Word.toBytes (addressAt bs h) := by
  rw [addressAt, Word.toBytes_read]
  cases bs with
  | nil => cases hhead
  | cons first rest =>
    rw [Option.some.inj hhead]
    rfl

/-- The code of a frame, written again. -/
theorem toBytes_codeAt {bs : Bytes} (h : wordFrameLength ≤ bs.length) :
    Word.toBytes (codeAt bs h).toUInt32 = (bs.drop 5).take 4 :=
  Word.toBytes_read _

/-- The data of a frame, written again. -/
theorem take_dataAt {bs : Bytes} (h : blockFrameLength ≤ bs.length) :
    (bs.drop 5).take (dataAt bs h).bytes.length = (dataAt bs h).bytes := by
  rw [(dataAt bs h).length_eq]
  rfl

/-- A message that was read is spelled out in the frame it was read from: first
its tag and block, then its body, save that the body of a read request is not
looked at. -/
theorem spelled_of_decode {bs : Bytes} {m : Message} (h : decode bs = .ok m) :
    m.frameLength ≤ bs.length ∧ bs.take 5 = m.kind.tag :: Word.toBytes m.block ∧
      (m.kind ≠ .readRequest → (bs.drop 5).take m.body.length = m.body) := by
  unfold decode at h
  split at h
  · cases h
  rename_i tag hhead
  split at h
  · cases h
  -- One case for each kind of message; a read result comes in two shapes.
  all_goals
    rename_i hkind
    rw [← Kind.tag_of_ofTag? hkind] at hhead
  · split at h
    · rename_i hlong
      cases h
      exact ⟨hlong, take_five hhead (wordFrame_le_of_blockFrame_le hlong),
        fun _ => take_dataAt hlong⟩
    · cases h
  · split at h
    · rename_i hlong
      cases h
      exact ⟨hlong, take_five hhead hlong, fun hother => absurd rfl hother⟩
    · cases h
  · split at h
    · rename_i hshort
      cases h
      have hroom : wordFrameLength ≤ bs.length := Nat.le_of_eq hshort.symm
      exact ⟨hroom, take_five hhead hroom, fun _ => (toBytes_codeAt hroom).symm⟩
    · split at h
      · rename_i hlong
        cases h
        exact ⟨hlong, take_five hhead (wordFrame_le_of_blockFrame_le hlong),
          fun _ => take_dataAt hlong⟩
      · cases h
  · split at h
    · rename_i hlong
      cases h
      exact ⟨hlong, take_five hhead hlong, fun _ => (toBytes_codeAt hlong).symm⟩
    · cases h

/-- A message that was read is written with no more bytes than it was read from,
and with the same ones, save that the word of a read request is written as zero.
What was written is read as the same message. -/
theorem encode_of_decode {bs : Bytes} {m : Message} (h : decode bs = .ok m) :
    m.encode.length ≤ bs.length ∧
      m.encode =
        (if m.kind = .readRequest then bs.take 5 ++ [0, 0, 0, 0] else bs.take m.frameLength) ∧
      decode m.encode = .ok m := by
  obtain ⟨hlength, hfront, hbody⟩ := spelled_of_decode h
  have hencode : m.encode = bs.take 5 ++ m.body := by
    rw [hfront]
    rfl
  refine ⟨by rw [length_encode]; exact hlength, ?_, decode_encode m⟩
  split
  · rename_i hrequest
    have hzero : m.body = [0, 0, 0, 0] := by
      cases m with
      | readRequest => rfl
      | writeRequest | readResult | readFailed | writeResult => cases hrequest
    rw [hencode, hzero]
  · rename_i hother
    rw [hencode, ← hbody hother, ← List.take_add, m.length_body]

/-- Of a read request with something in its word and a byte too many, neither is
written again; of a write result with a byte too many, only that byte is lost. -/
theorem encode_of_decode_padded :
    (decode [2, 4, 3, 2, 1, 0x7f, 0, 0, 1, 0xee] = .ok (.readRequest 0x01020304) ∧
      (readRequest 0x01020304).encode.length ≤ 10 ∧
      (readRequest 0x01020304).encode = [2, 4, 3, 2, 1] ++ [0, 0, 0, 0] ∧
      decode (readRequest 0x01020304).encode = .ok (.readRequest 0x01020304)) ∧
    decode [4, 5, 0, 0, 0, 0xfe, 0xff, 0xff, 0xff, 0xee] = .ok (.writeResult 5 (-2)) ∧
      (writeResult 5 (-2)).encode.length ≤ 10 ∧
      (writeResult 5 (-2)).encode = [4, 5, 0, 0, 0, 0xfe, 0xff, 0xff, 0xff] ∧
      decode (writeResult 5 (-2)).encode = .ok (.writeResult 5 (-2)) := by
  have hrequest : decode [2, 4, 3, 2, 1, 0x7f, 0, 0, 1, 0xee] =
      .ok (.readRequest 0x01020304) := by rfl
  have hresult : decode [4, 5, 0, 0, 0, 0xfe, 0xff, 0xff, 0xff, 0xee] =
      .ok (.writeResult 5 (-2)) := by rfl
  obtain ⟨hshorter, hzeroed, hrequest'⟩ := encode_of_decode hrequest
  obtain ⟨hshorter', hkept, hresult'⟩ := encode_of_decode hresult
  exact ⟨⟨hrequest, hshorter, hzeroed, hrequest'⟩, hresult, hshorter', hkept, hresult'⟩

end Message
end BlockBridge
