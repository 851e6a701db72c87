import BlockBridge.Proofs.Message.CutShort

/-!
# Frames in buffers

A message is written into a buffer part by part, or not at all.  Where it is written, its
frame takes the front of the buffer and nothing else; a buffer without room for all of it
keeps every byte.

Every part is put where there is room for just it: the same writer with each part checked
against the buffer never fails a check (`Message.encodeIntoChecked?_eq_some`).  So a frame
can be had by way of a zeroed buffer of 517 bytes, as long as the longest frame, and what
would be done if it did not fit is never done (`Message.encodeByBuffer?_eq_some`).

Main statement: `Message.encodeInto_keeps_to_front`.
-/

namespace BlockBridge

/-! ## Checked writes -/

/-- Put a byte string over the places from `start` up to `stop`, if these are places in
order and as many as it has bytes. -/
def Bytes.fill? (buffer : Bytes) (start stop : Nat) (source : Bytes) : Option Bytes :=
  if start ≤ stop ∧ stop ≤ buffer.length ∧ source.length = stop - start then
    some (buffer.overwrite start source)
  else none

theorem Bytes.fill?_of_le {buffer source : Bytes} {start stop : Nat}
    (hstop : start + source.length = stop) (hroom : stop ≤ buffer.length) :
    buffer.fill? start stop source = some (buffer.overwrite start source) :=
  if_pos ⟨by omega, hroom, by omega⟩

namespace Message

/-- Write a message's frame to the front of a buffer with every part checked, and `none` is
a part that does not fit its place. -/
def encodeIntoChecked? (m : Message) (buffer : Bytes) : Option (Option Nat × Bytes) := do
  if buffer.length < m.frameLength then return (none, buffer)
  let tagged ← buffer.fill? 0 1 [m.kind.tag]
  let addressed ← tagged.fill? 1 5 (Word.toBytes m.block)
  let written ← addressed.fill? 5 m.frameLength m.body
  return (some m.frameLength, written)

theorem encodeIntoChecked?_eq_some (m : Message) (buffer : Bytes) :
    m.encodeIntoChecked? buffer = some (m.encodeInto buffer) := by
  have hbody : 5 + m.body.length = m.frameLength := m.length_body
  unfold encodeIntoChecked? encodeInto
  rcases Nat.lt_or_ge buffer.length m.frameLength with hshort | hroom
  · rw [if_pos hshort, if_neg (Nat.not_le.mpr hshort)]
    rfl
  · rw [if_neg (Nat.not_lt.mpr hroom), if_pos hroom]
    -- Each part leaves the buffer as long as it was, so the next one has its place.
    have htag : (buffer.overwrite 0 [m.kind.tag]).length = buffer.length :=
      Bytes.length_overwrite (by rw [List.length_singleton]; omega)
    have haddress : ((buffer.overwrite 0 [m.kind.tag]).overwrite 1 (Word.toBytes m.block)).length =
        buffer.length :=
      (Bytes.length_overwrite (by rw [htag, Word.length_toBytes]; omega)).trans htag
    have hfirst : buffer.fill? 0 1 [m.kind.tag] = some (buffer.overwrite 0 [m.kind.tag]) :=
      Bytes.fill?_of_le rfl (by omega)
    have hsecond : (buffer.overwrite 0 [m.kind.tag]).fill? 1 5 (Word.toBytes m.block) =
        some ((buffer.overwrite 0 [m.kind.tag]).overwrite 1 (Word.toBytes m.block)) :=
      Bytes.fill?_of_le rfl (by omega)
    have hthird : ((buffer.overwrite 0 [m.kind.tag]).overwrite 1 (Word.toBytes m.block)).fill? 5
        m.frameLength m.body = some (((buffer.overwrite 0 [m.kind.tag]).overwrite 1
          (Word.toBytes m.block)).overwrite 5 m.body) :=
      Bytes.fill?_of_le hbody (by omega)
    simp only [hfirst, hsecond, hthird, Option.bind_eq_bind, Option.bind_some]
    rfl

/-! ## A frame by way of a buffer -/

/-- Put bytes into an empty frame, which takes 517 of them at most and stays empty if there
are more. -/
def ownedFrame (bytes : Bytes) : Bytes :=
  if bytes.length ≤ 517 then bytes else []

/-- A message's frame by way of a zeroed buffer of 517 bytes: what the writer says it wrote,
or nothing if it says that there is no room. -/
def encodeByBuffer? (m : Message) : Option Bytes := do
  let (written, buffer) ← m.encodeIntoChecked? (List.replicate 517 0)
  return ownedFrame (← buffer.between? 0 (written.getD 0))

theorem frameLength_le_zeroed (m : Message) :
    m.frameLength ≤ (List.replicate 517 (0 : UInt8)).length := by
  rw [List.length_replicate]
  exact m.frameLength_le

theorem encodeByBuffer?_eq_some (m : Message) : m.encodeByBuffer? = some m.encode := by
  have hlength : m.encode.length = m.frameLength := m.length_encode
  have hroom : m.frameLength ≤ (m.encode ++ (List.replicate 517 0).drop m.frameLength).length := by
    rw [List.length_append, hlength]
    exact Nat.le_add_right _ _
  -- Zeros are left behind the frame, and what is taken out ends before them.
  have hfront : (m.encode ++ (List.replicate 517 0).drop m.frameLength).between? 0 m.frameLength =
      some m.encode := by
    rw [Bytes.between?_of_le (Nat.zero_le _) hroom, List.drop_zero, List.take_left' hlength]
  have howned : ownedFrame m.encode = m.encode := if_pos (hlength ▸ m.frameLength_le)
  rw [encodeByBuffer?, encodeIntoChecked?_eq_some, encodeInto_of_le m.frameLength_le_zeroed]
  simp only [Option.bind_eq_bind, Option.bind_some, Option.getD_some, hfront, howned]
  rfl

/-! ## The buffer read back -/

/-- The frame with what is behind it in the buffer is read as the message, unless it is that
of a failed read and there is something behind it. -/
theorem decode_encode_append_eq_iff (m : Message) (rest : Bytes) :
    decode (m.encode ++ rest) = .ok m ↔
      ¬((∃ block code, m = .readFailed block code) ∧ rest ≠ []) := by
  constructor
  · rintro hread ⟨⟨block, code, rfl⟩, hrest⟩
    have hlength := length_of_readFailed hread
    rw [List.length_append, length_encode] at hlength
    have hpos : 0 < rest.length := List.length_pos_iff.mpr hrest
    have hword : (readFailed block code).frameLength = wordFrameLength := rfl
    omega
  · intro hother
    by_cases hrest : rest = []
    · rw [hrest, List.append_nil]
      exact decode_encode m
    · exact decode_encode_append rest fun block code hfailed =>
        hother ⟨⟨block, code, hfailed⟩, hrest⟩

/-! ## The law -/

/-- Writing a message into a buffer touches nothing but the place of its frame.  It always
comes to an end, with no part put where it does not fit.  It is refused exactly if the buffer
is shorter than the frame, and then every byte of the buffer is as it was; otherwise the
frame's length is returned, the frame is at the front, and every byte behind it is as it was.
The whole buffer is then read back as the message, unless this is a failed read and the
buffer is longer than its frame.  So a zeroed buffer of 517 bytes always has room, and a
frame taken from it is never empty, never too long, and the message's own. -/
theorem encodeInto_keeps_to_front (m : Message) (buffer : Bytes) :
    let written := m.encodeInto buffer
    m.encodeIntoChecked? buffer = some written ∧
    written.2.length = buffer.length ∧
    (written.1 = none ↔ buffer.length < m.frameLength) ∧
    (buffer.length < m.frameLength → written.2 = buffer) ∧
    (m.frameLength ≤ buffer.length →
      written.1 = some m.frameLength ∧
      written.2.take m.frameLength = m.encode ∧
      (∀ place, m.frameLength ≤ place → written.2[place]? = buffer[place]?) ∧
      (decode written.2 = .ok m ↔
        ¬((∃ block code, m = .readFailed block code) ∧ 9 < buffer.length))) ∧
    (m.encodeInto (List.replicate 517 0)).1 = some m.encode.length ∧
    m.encodeByBuffer? = some m.encode ∧ m.encode ≠ [] ∧ m.encode.length ≤ 517 := by
  intro written
  have hlength : m.encode.length = m.frameLength := m.length_encode
  refine ⟨m.encodeIntoChecked?_eq_some buffer, m.encodeInto_length buffer, ?_, ?_, ?_, ?_,
    m.encodeByBuffer?_eq_some, List.cons_ne_nil _ _, hlength ▸ m.frameLength_le⟩
  · show (m.encodeInto buffer).1 = none ↔ _
    rcases Nat.lt_or_ge buffer.length m.frameLength with hshort | hroom
    · rw [encodeInto, if_neg (Nat.not_le.mpr hshort)]
      exact iff_of_true rfl hshort
    · rw [encodeInto_of_le hroom]
      exact iff_of_false (Option.some_ne_none _) (Nat.not_lt.mpr hroom)
  · intro hshort
    show (m.encodeInto buffer).2 = buffer
    rw [encodeInto, if_neg (Nat.not_le.mpr hshort)]
  · intro hroom
    have hwritten : written = (some m.frameLength, m.encode ++ buffer.drop m.frameLength) :=
      encodeInto_of_le hroom
    rw [hwritten]
    refine ⟨rfl, List.take_left' hlength, ?_, ?_⟩
    · intro place hplace
      show (m.encode ++ buffer.drop m.frameLength)[place]? = buffer[place]?
      rw [List.getElem?_append_right (by omega), List.getElem?_drop, hlength,
        Nat.add_sub_cancel' hplace]
    · rw [decode_encode_append_eq_iff]
      -- A failed read has 9 bytes, so there is something behind it if the buffer has more.
      refine not_congr (and_congr_right ?_)
      rintro ⟨block, code, rfl⟩
      rw [Ne, List.drop_eq_nil_iff, Nat.not_le]
      rfl
  · rw [encodeInto_of_le m.frameLength_le_zeroed, hlength]

/-- A failed read does not fit into 8 bytes.  Of 11 it takes 9, and because of the two that
are left it is not read back; of 9 it leaves none. -/
theorem encodeInto_keeps_to_front_failed_read :
    let failed := readFailed 7 (-2)
    let short : Bytes := List.replicate 8 0xaa
    let long : Bytes := List.replicate 11 0xaa
    let tight : Bytes := List.replicate 9 0xaa
    (short.length < failed.frameLength ∧ (failed.encodeInto short).1 = none ∧
      (failed.encodeInto short).2 = short) ∧
    (failed.frameLength ≤ long.length ∧ (failed.encodeInto long).1 = some 9 ∧
      (failed.encodeInto long).2.take 9 = [3, 7, 0, 0, 0, 0xfe, 0xff, 0xff, 0xff] ∧
      (failed.encodeInto long).2[10]? = some 0xaa ∧
      decode (failed.encodeInto long).2 ≠ .ok failed) ∧
    failed.frameLength ≤ tight.length ∧ decode (failed.encodeInto tight).2 = .ok failed := by
  intro failed short long tight
  obtain ⟨_, _, hnone, hkept, _⟩ := encodeInto_keeps_to_front failed short
  obtain ⟨_, _, _, _, hwritten, _⟩ := encodeInto_keeps_to_front failed long
  obtain ⟨_, _, _, _, hfits, _⟩ := encodeInto_keeps_to_front failed tight
  have hshort : short.length < failed.frameLength := by decide
  have hlong : failed.frameLength ≤ long.length := by decide
  have htight : failed.frameLength ≤ tight.length := by decide
  obtain ⟨hlength, hfront, hbehind, hread⟩ := hwritten hlong
  have hspelled : failed.encode = [3, 7, 0, 0, 0, 0xfe, 0xff, 0xff, 0xff] := by decide
  obtain ⟨_, _, _, hwhole⟩ := hfits htight
  refine ⟨⟨hshort, hnone.mpr hshort, hkept hshort⟩, ⟨hlong, hlength, hfront.trans hspelled,
    hbehind 10 (by decide), ?_⟩, htight, ?_⟩
  · exact fun hsame => hread.mp hsame ⟨⟨7, -2, rfl⟩, by decide⟩
  · exact hwhole.mpr fun hover => absurd hover.2 (by decide)

end Message
end BlockBridge
