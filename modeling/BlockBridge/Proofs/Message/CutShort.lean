import BlockBridge.Proofs.Message.Grammar

/-!
# Frames cut short and frames run on

A frame that is cut short is too short for its tag, and one with bytes behind it is
read as if they were not there.  Read results are the exception to both, since their
length says which of two shapes they have: with the data cut off behind its first word
that word is taken for the code of a failure, and behind a failure there must be
nothing, or else so much that code and bytes together make up the data of a block.

Main statement: `Message.decode_of_cut_or_run_on`.
-/

namespace BlockBridge

/-- The result code that the first four bytes of a block make up. -/
def Block.code (data : Block) : ResultCode :=
  (Word.read data.bytes 0 (by rw [data.length_eq]; decide)).toInt32

/-- A result code and the bytes behind it, as far as a block takes them. -/
def Block.ofCode (code : ResultCode) (rest : Bytes) (h : 508 ≤ rest.length) : Block where
  bytes := Word.toBytes code.toUInt32 ++ rest.take 508
  length_eq := by
    rw [List.length_append, List.length_take_of_le h]
    rfl

/-- The bytes of a block's code are its first four. -/
theorem Block.toBytes_code (data : Block) :
    Word.toBytes data.code.toUInt32 = data.bytes.take 4 :=
  Word.toBytes_read _

/-- The length of a frame of this kind that does not tell of a failure. -/
def Kind.fullLength : Kind → Nat
  | writeRequest | readResult => 517
  | readRequest | writeResult => 9

theorem Kind.needed_eq_fullLength {kind : Kind} {length : Nat}
    (h : kind = readResult → length ≠ wordFrameLength) : kind.needed length = kind.fullLength := by
  cases kind with
  | writeRequest | readRequest | writeResult => rfl
  | readResult => exact needed_of_ne (h rfl)

namespace Message

theorem frameLength_le_fullLength (m : Message) : m.frameLength ≤ m.kind.fullLength := by
  cases m with
  | writeRequest | readRequest | readResult | writeResult => exact Nat.le_refl _
  | readFailed => exact (by decide : 9 ≤ 517)

/-- What is wrong with the first `length` bytes of a frame. -/
def cutFault (length : Nat) (m : Message) : FrameFault :=
  if length = 0 then .empty else .truncated m.kind.tag length m.kind.fullLength

theorem head?_take_encode (m : Message) {length : Nat} (h : length ≠ 0) :
    (m.encode.take length).head? = some m.kind.tag := by
  obtain ⟨length, rfl⟩ := Nat.exists_eq_succ_of_ne_zero h
  rfl

/-! ## Cut short -/

/-- The front of a read result that is as long as a failure is read as one. -/
theorem decode_take_readResult (block : Address) (data : Block) :
    decode ((readResult block data).encode.take 9) = .ok (.readFailed block data.code) := by
  have hspelled : (readResult block data).encode.take 9 =
      3 :: (Word.toBytes block ++ Word.toBytes data.code.toUInt32) := by
    rw [data.toBytes_code]
    rfl
  rw [hspelled]
  exact decode_of_spells (.readFailed block data.code)

/-- At any other length the front of a frame is too short. -/
theorem decode_take_encode {m : Message} {length : Nat} (hcut : length < m.frameLength)
    (hother : m.kind = .readResult → length ≠ wordFrameLength) :
    decode (m.encode.take length) = .error (m.cutFault length) := by
  by_cases hzero : length = 0
  · subst hzero
    rfl
  have hlength : (m.encode.take length).length = length :=
    List.length_take_of_le (Nat.le_of_lt (by rwa [length_encode]))
  have hneeded : m.kind.needed length = m.kind.fullLength := Kind.needed_eq_fullLength hother
  have hshort : (m.encode.take length).length < m.kind.needed (m.encode.take length).length := by
    rw [hlength, hneeded]
    exact Nat.lt_of_lt_of_le hcut m.frameLength_le_fullLength
  rw [decode_of_lt (head?_take_encode m hzero) hshort, hlength, hneeded, cutFault, if_neg hzero]

/-! ## Run on -/

/-- Bytes behind a frame are not looked at, unless it is that of a failed read. -/
theorem decode_encode_append {m : Message} (rest : Bytes)
    (hother : ∀ block code, m ≠ .readFailed block code) :
    decode (m.encode ++ rest) = .ok m := by
  apply decode_of_spells
  cases m with
  | writeRequest block data =>
    rw [encode, List.cons_append, List.append_assoc]
    exact .writeRequest block data rest
  | readRequest block =>
    rw [encode, List.cons_append, List.append_assoc]
    exact .readRequest block 0 rest
  | readResult block data =>
    rw [encode, List.cons_append, List.append_assoc]
    exact .readResult block data rest
  | readFailed block code => exact absurd rfl (hother block code)
  | writeResult block code =>
    rw [encode, List.cons_append, List.append_assoc]
    exact .writeResult block code rest

/-- Behind a failed read there are too few bytes until they are enough for a block of data. -/
theorem decode_readFailed_append (block : Address) (code : ResultCode) {rest : Bytes}
    (hrest : rest ≠ []) :
    decode ((readFailed block code).encode ++ rest) =
      if h : 508 ≤ rest.length then .ok (.readResult block (.ofCode code rest h))
      else .error (.truncated 3 (9 + rest.length) 517) := by
  have hspelled : (readFailed block code).encode ++ rest =
      3 :: (Word.toBytes block ++ (Word.toBytes code.toUInt32 ++ rest)) := by
    rw [encode, List.cons_append, List.append_assoc]
    rfl
  have hlength : ((readFailed block code).encode ++ rest).length = 9 + rest.length := by
    rw [List.length_append, length_encode]
    rfl
  split
  · rename_i hroom
    have hdata : Word.toBytes code.toUInt32 ++ rest =
        (Block.ofCode code rest hroom).bytes ++ rest.drop 508 := by
      rw [Block.ofCode, List.append_assoc, List.take_append_drop]
    rw [hspelled, hdata]
    exact decode_of_spells (.readResult block _ _)
  · rename_i hshort
    have hpos : 0 < rest.length := List.length_pos_iff.mpr hrest
    have hneeded :
        Kind.readResult.needed ((readFailed block code).encode ++ rest).length = 517 := by
      apply Kind.needed_of_ne
      rw [hlength, wordFrameLength]
      omega
    have htag : ((readFailed block code).encode ++ rest).head? = some Kind.readResult.tag := rfl
    rw [decode_of_lt htag (by rw [hneeded, hlength]; omega), hneeded, hlength]
    rfl

/-! ## Both -/

/-- What the first `length` bytes of a frame are read as. -/
def ofFront (length : Nat) (m : Message) : Except FrameFault Message :=
  match m with
  | readResult block data =>
    if length = 9 then .ok (.readFailed block data.code) else .error (m.cutFault length)
  | writeRequest .. | readRequest .. | readFailed .. | writeResult .. => .error (m.cutFault length)

/-- What a frame with more bytes behind it is read as. -/
def ofRunOn (rest : Bytes) (m : Message) : Except FrameFault Message :=
  match m with
  | readFailed block code =>
    if h : 508 ≤ rest.length then .ok (.readResult block (.ofCode code rest h))
    else .error (.truncated 3 (9 + rest.length) 517)
  | writeRequest .. | readRequest .. | readResult .. | writeResult .. => .ok m

/-- A frame that is cut short is refused, as empty if nothing is left of it and else as too
short for its tag; but the first 9 bytes of a read result are read as a failure, with the
first four bytes of the data as its code.  A frame with bytes behind it is read as the same
message; but that of a failed read is refused as too short while it has less than 517 bytes
in all, and from there on it is read as a read result, whose data are the word of the code
and the first 508 of those bytes. -/
theorem decode_of_cut_or_run_on (m : Message) :
    (∀ length < m.frameLength, decode (m.encode.take length) = m.ofFront length) ∧
      ∀ rest ≠ [], decode (m.encode ++ rest) = m.ofRunOn rest := by
  constructor
  · intro length hcut
    cases m with
    | readResult block data =>
      by_cases hword : length = 9
      · rw [ofFront, if_pos hword, hword]
        exact decode_take_readResult block data
      · rw [ofFront, if_neg hword]
        exact decode_take_encode hcut fun _ => hword
    | readFailed block code => exact decode_take_encode hcut fun _ => Nat.ne_of_lt hcut
    | writeRequest | readRequest | writeResult =>
      exact decode_take_encode hcut fun hkind => by cases hkind
  · intro rest hrest
    cases m with
    | readFailed block code => exact decode_readFailed_append block code hrest
    | writeRequest | readRequest | readResult | writeResult =>
      exact decode_encode_append rest fun _ _ hother => by cases hother

/-- Of a read result with data all ones, 9 bytes tell of a failure and 10 are too few; with
a byte behind it a failure is too short, and with 508 of them it is a block of data. -/
theorem decode_of_cut_or_run_on_read :
    (9 < (readResult 7 (.fill 0xff)).frameLength ∧
      decode ((readResult 7 (.fill 0xff)).encode.take 9) = .ok (.readFailed 7 (-1))) ∧
    (10 < (readResult 7 (.fill 0xff)).frameLength ∧
      decode ((readResult 7 (.fill 0xff)).encode.take 10) = .error (.truncated 3 10 517)) ∧
    decode ((readFailed 7 (-2)).encode ++ [0]) = .error (.truncated 3 10 517) ∧
    ∃ data : Block, data.bytes = [0xfe, 0xff, 0xff, 0xff] ++ List.replicate 508 0 ∧
      decode ((readFailed 7 (-2)).encode ++ List.replicate 508 0) = .ok (.readResult 7 data) := by
  have hcode : (Block.fill 0xff).code = -1 := by decide
  have hroom : (List.replicate 508 (0 : UInt8)).length = 508 := List.length_replicate
  have hnine := (decode_of_cut_or_run_on (readResult 7 (.fill 0xff))).1 9 (by decide)
  have hten := (decode_of_cut_or_run_on (readResult 7 (.fill 0xff))).1 10 (by decide)
  have hone := (decode_of_cut_or_run_on (readFailed 7 (-2))).2 [0] (by decide)
  have hblock := (decode_of_cut_or_run_on (readFailed 7 (-2))).2 (List.replicate 508 0) (by decide)
  rw [ofFront, if_pos rfl, hcode] at hnine
  rw [ofRunOn, dif_pos (Nat.le_of_eq hroom.symm)] at hblock
  have hbytes : (Block.ofCode (-2) (List.replicate 508 0) (Nat.le_of_eq hroom.symm)).bytes =
      [0xfe, 0xff, 0xff, 0xff] ++ List.replicate 508 0 :=
    congrArg (Word.toBytes (-2) ++ ·) (List.take_of_length_le (Nat.le_of_eq hroom))
  exact ⟨⟨by decide, hnine⟩, ⟨by decide, hten⟩, hone, _, hbytes, hblock⟩

end Message
end BlockBridge
