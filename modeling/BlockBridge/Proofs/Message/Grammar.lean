import BlockBridge.Proofs.Message.Canonical

/-!
# The grammar of frames

Which byte strings are frames is told here without the decoder, by one rule for
each shape that a message has on the channel.  The decoder reads exactly those
byte strings, each as the message its rule names (`Message.decode_eq_ok_iff`), and
whether a byte string is one of them can be told from its tag and its length.

The others are refused, and the fault says why: there is no tag, the tag is no
kind's, or the byte string ends too soon for its tag (`Message.decode_verdict`).

The decoder looks at no byte that is not there: the same decoder with every access
checked against the length never fails a check (`Message.decodeChecked?_eq_some`).

Main statement: `Message.decode_classified`.
-/

namespace BlockBridge

/-! ## Tags and words -/

theorem Word.toBytes_injective {w w' : UInt32} (h : toBytes w = toBytes w') : w = w' := by
  have hread := ofBytes_toBytes w
  simp only [toBytes, List.cons.injEq, and_true] at h
  obtain ⟨h₀, h₁, h₂, h₃⟩ := h
  rw [h₀, h₁, h₂, h₃, ofBytes_toBytes] at hread
  exact hread.symm

/-- A word is read back from among other bytes. -/
theorem Word.read_append (front : Bytes) (w : UInt32) (rest : Bytes)
    (h : front.length + 4 ≤ (front ++ (toBytes w ++ rest)).length) :
    read (front ++ (toBytes w ++ rest)) front.length h = w := by
  apply toBytes_injective
  rw [toBytes_read, List.drop_left]
  exact List.take_left' (length_toBytes w)

/-- The tags from one to four name a kind each, and no other byte does. -/
theorem Kind.ofTag?_eq_none_iff {tag : UInt8} : ofTag? tag = none ↔ ¬(1 ≤ tag ∧ tag ≤ 4) := by
  constructor
  · rintro h ⟨hlow, hhigh⟩
    have hlow : 1 ≤ tag.toNat := hlow
    have hhigh : tag.toNat ≤ 4 := hhigh
    have htags : tag = 1 ∨ tag = 2 ∨ tag = 3 ∨ tag = 4 := by
      simp only [← UInt8.toNat_inj, UInt8.reduceToNat]
      omega
    rcases htags with rfl | rfl | rfl | rfl <;> cases h
  · intro h
    have hne {named : UInt8} (hnamed : 1 ≤ named ∧ named ≤ 4) : tag ≠ named := by
      rintro rfl
      exact h hnamed
    rw [ofTag?, if_neg (hne (by decide)), if_neg (hne (by decide)), if_neg (hne (by decide)),
      if_neg (hne (by decide))]

namespace Message

/-! ## The grammar -/

/-- The frames that stand for a message. -/
inductive Spells : Message → Bytes → Prop where
  | writeRequest (block : Address) (data : Block) (rest : Bytes) :
      Spells (.writeRequest block data) (1 :: (Word.toBytes block ++ (data.bytes ++ rest)))
  /-- The word of a read request may be any. -/
  | readRequest (block : Address) (word : UInt32) (rest : Bytes) :
      Spells (.readRequest block) (2 :: (Word.toBytes block ++ (Word.toBytes word ++ rest)))
  | readResult (block : Address) (data : Block) (rest : Bytes) :
      Spells (.readResult block data) (3 :: (Word.toBytes block ++ (data.bytes ++ rest)))
  /-- Nothing follows the code of a read that failed: a longer frame with its tag carries data. -/
  | readFailed (block : Address) (code : ResultCode) :
      Spells (.readFailed block code) (3 :: (Word.toBytes block ++ Word.toBytes code.toUInt32))
  | writeResult (block : Address) (code : ResultCode) (rest : Bytes) :
      Spells (.writeResult block code)
        (4 :: (Word.toBytes block ++ (Word.toBytes code.toUInt32 ++ rest)))

/-- The tags and lengths of the byte strings that are frames. -/
def WellShaped (bs : Bytes) : Prop :=
  bs.head? = some 1 ∧ 517 ≤ bs.length ∨
    (bs.head? = some 2 ∨ bs.head? = some 4) ∧ 9 ≤ bs.length ∨
      bs.head? = some 3 ∧ (bs.length = 9 ∨ 517 ≤ bs.length)

/-! ## What is read is spelled -/

/-- A failed read is recognised by the length of its frame. -/
theorem length_of_readFailed {bs : Bytes} {block : Address} {code : ResultCode}
    (h : decode bs = .ok (.readFailed block code)) : bs.length = wordFrameLength := by
  unfold decode at h
  split at h
  · cases h
  split at h
  · cases h
  · split at h <;> cases h
  · split at h <;> cases h
  · split at h
    · assumption
    · split at h <;> cases h
  · split at h <;> cases h

theorem spells_of_decode {bs : Bytes} {m : Message} (h : decode bs = .ok m) : Spells m bs := by
  obtain ⟨hlength, hfront, hbody⟩ := spelled_of_decode h
  have hsplit : bs = m.kind.tag :: (Word.toBytes m.block ++ bs.drop 5) := by
    have htake := List.take_append_drop 5 bs
    rw [hfront] at htake
    exact htake.symm
  -- Behind the block comes the body, and then whatever is left.
  have hspelled (hother : m.kind ≠ .readRequest) :
      bs = m.kind.tag :: (Word.toBytes m.block ++ (m.body ++ bs.drop (5 + m.body.length))) := by
    have htake := List.take_append_drop m.body.length (bs.drop 5)
    rw [hbody hother, List.drop_drop] at htake
    rw [htake]
    exact hsplit
  cases m with
  | writeRequest block data =>
    rw [hspelled nofun]
    exact .writeRequest block data _
  | readRequest block =>
    have hword := List.take_append_drop 4 (bs.drop 5)
    rw [← Word.toBytes_read hlength, List.drop_drop] at hword
    rw [hsplit, ← hword]
    exact .readRequest block _ _
  | readResult block data =>
    rw [hspelled nofun]
    exact .readResult block data _
  | readFailed block code =>
    have hover : bs.drop (5 + (readFailed block code).body.length) = [] := by
      apply List.drop_eq_nil_of_le
      rw [length_of_readFailed h]
      exact Nat.le_refl 9
    have hspelled := hspelled nofun
    rw [hover, List.append_nil] at hspelled
    rw [hspelled]
    exact .readFailed block code
  | writeResult block code =>
    rw [hspelled nofun]
    exact .writeResult block code _

/-! ## What is spelled is read -/

section

variable (tag : UInt8) (block : Address) (rest : Bytes)

theorem blockFrame_le (data : Block) :
    blockFrameLength ≤ (tag :: (Word.toBytes block ++ (data.bytes ++ rest))).length := by
  simp only [blockFrameLength, List.length_cons, List.length_append, Word.length_toBytes,
    data.length_eq]
  omega

theorem wordFrame_le (word : UInt32) :
    wordFrameLength ≤ (tag :: (Word.toBytes block ++ (Word.toBytes word ++ rest))).length := by
  simp only [wordFrameLength, List.length_cons, List.length_append, Word.length_toBytes]
  omega

theorem addressAt_append (h : wordFrameLength ≤ (tag :: (Word.toBytes block ++ rest)).length) :
    addressAt (tag :: (Word.toBytes block ++ rest)) h = block :=
  Word.read_append [tag] block rest _

theorem codeAt_append (code : ResultCode)
    (h : wordFrameLength ≤
      (tag :: (Word.toBytes block ++ (Word.toBytes code.toUInt32 ++ rest))).length) :
    codeAt (tag :: (Word.toBytes block ++ (Word.toBytes code.toUInt32 ++ rest))) h = code :=
  congrArg UInt32.toInt32
    (Word.read_append (tag :: Word.toBytes block) code.toUInt32 rest _)

theorem dataAt_append (data : Block)
    (h : blockFrameLength ≤ (tag :: (Word.toBytes block ++ (data.bytes ++ rest))).length) :
    dataAt (tag :: (Word.toBytes block ++ (data.bytes ++ rest))) h = data :=
  Block.ext (List.take_left' data.length_eq)

end

theorem decode_of_spells {bs : Bytes} {m : Message} (h : Spells m bs) : decode bs = .ok m := by
  have hhead : bs.head? = some m.kind.tag := by
    cases h <;> rfl
  unfold decode
  simp only [hhead, Kind.ofTag?_tag]
  cases h with
  | writeRequest block data rest =>
    simp only [kind]
    rw [dif_pos (blockFrame_le 1 block rest data), addressAt_append, dataAt_append]
  | readRequest block word rest =>
    simp only [kind]
    rw [dif_pos (wordFrame_le 2 block rest word), addressAt_append]
  | readResult block data rest =>
    have hlong := blockFrame_le 3 block rest data
    have hother : (3 :: (Word.toBytes block ++ (data.bytes ++ rest))).length ≠
        wordFrameLength := by
      simp only [blockFrameLength, blockSize] at hlong
      simp only [wordFrameLength]
      omega
    simp only [kind]
    rw [dif_neg hother, dif_pos hlong, addressAt_append, dataAt_append]
  | readFailed block code =>
    have hshort : (3 :: (Word.toBytes block ++ Word.toBytes code.toUInt32)).length =
        wordFrameLength := rfl
    have hcode := codeAt_append 3 block [] code
    simp only [List.append_nil] at hcode
    simp only [kind]
    rw [dif_pos hshort, addressAt_append, hcode (Nat.le_of_eq hshort.symm)]
  | writeResult block code rest =>
    simp only [kind]
    rw [dif_pos (wordFrame_le 4 block rest _), addressAt_append, codeAt_append]

/-- The decoder reads what the grammar spells, and nothing else. -/
theorem decode_eq_ok_iff {bs : Bytes} {m : Message} : decode bs = .ok m ↔ Spells m bs :=
  ⟨spells_of_decode, decode_of_spells⟩

end Message

/-! ## Checked accesses -/

/-- The length that a frame of this kind has to have; that of a read result depends on
the length it has. -/
def Kind.needed (length : Nat) : Kind → Nat
  | writeRequest => blockFrameLength
  | readRequest | writeResult => wordFrameLength
  | readResult => if length = wordFrameLength then wordFrameLength else blockFrameLength

theorem Kind.needed_of_eq {length : Nat} (h : length = wordFrameLength) :
    readResult.needed length = wordFrameLength :=
  if_pos h

theorem Kind.needed_of_ne {length : Nat} (h : length ≠ wordFrameLength) :
    readResult.needed length = blockFrameLength :=
  if_neg h

/-- The bytes from place `start` up to place `stop`, if these are places in order. -/
def Bytes.between? (bs : Bytes) (start stop : Nat) : Option Bytes :=
  if start ≤ stop ∧ stop ≤ bs.length then some ((bs.take stop).drop start) else none

/-- The word that a byte string begins with, if it is long enough. -/
def Word.first? (bs : Bytes) : Option UInt32 :=
  if h : 0 + 4 ≤ bs.length then some (read bs 0 h) else none

/-- The block that a byte string begins with, if it is long enough. -/
def Block.first? (bs : Bytes) : Option Block :=
  (bs.between? 0 blockSize).bind ofBytes?

theorem Bytes.between?_of_le {bs : Bytes} {start stop : Nat} (hstart : start ≤ stop)
    (hstop : stop ≤ bs.length) : bs.between? start stop = some ((bs.take stop).drop start) :=
  if_pos ⟨hstart, hstop⟩

theorem Word.first?_between {bs : Bytes} {start stop : Nat} (hword : start + 4 ≤ stop)
    (hstop : stop ≤ bs.length) :
    first? ((bs.take stop).drop start) = some (read bs start (Nat.le_trans hword hstop)) := by
  have hroom : 0 + 4 ≤ ((bs.take stop).drop start).length := by
    simp only [List.length_drop, List.length_take]
    omega
  rw [first?, dif_pos hroom]
  simp [read]

theorem Block.first?_between {bs : Bytes} {start stop : Nat} (hblock : start + blockSize ≤ stop)
    (hstop : stop ≤ bs.length) :
    ∃ data, first? ((bs.take stop).drop start) = some data ∧
      data.bytes = (bs.drop start).take blockSize := by
  have hroom : blockSize ≤ ((bs.take stop).drop start).length := by
    simp only [List.length_drop, List.length_take]
    omega
  have htake : ((bs.take stop).drop start).take blockSize = (bs.drop start).take blockSize := by
    rw [List.drop_take, List.take_take, Nat.min_eq_left (by omega)]
  have hlength : ((bs.drop start).take blockSize).length = blockSize := by
    simp only [List.length_drop, List.length_take]
    omega
  refine ⟨⟨_, hlength⟩, ?_, rfl⟩
  rw [first?, Bytes.between?_of_le (Nat.zero_le _) hroom, List.drop_zero, htake]
  exact dif_pos hlength

namespace Message

/-- Read a frame of a kind, given how long it has to be.  Every access is checked, and
`none` is one beyond the bytes. -/
def readChecked? (bs : Bytes) (needed : Nat) (kind : Kind) : Option Message := do
  let block ← Word.first? (← bs.between? 1 5)
  let body ← bs.between? 5 needed
  match kind with
  | .writeRequest => return .writeRequest block (← Block.first? body)
  | .readRequest => return .readRequest block
  | .readResult =>
    if needed = wordFrameLength then return .readFailed block (← Word.first? body).toInt32
    else return .readResult block (← Block.first? body)
  | .writeResult => return .writeResult block (← Word.first? body).toInt32

/-- Read a frame with every access checked. -/
def decodeChecked? (bs : Bytes) : Option (Except FrameFault Message) :=
  match bs.head? with
  | none => some (.error .empty)
  | some tag =>
    match Kind.ofTag? tag with
    | none => some (.error (.unknownKind tag))
    | some kind =>
      let needed := kind.needed bs.length
      if bs.length < needed then some (.error (.truncated tag bs.length needed))
      else (readChecked? bs needed kind).map .ok

section

variable {bs : Bytes}

theorem exists_header (h : wordFrameLength ≤ bs.length) :
    ∃ header, bs.between? 1 5 = some header ∧ Word.first? header = some (addressAt bs h) := by
  have hfive : 5 ≤ bs.length := Nat.le_trans (by decide) h
  exact ⟨_, Bytes.between?_of_le (by decide) hfive, Word.first?_between (Nat.le_refl 5) hfive⟩

theorem readChecked?_word (h : wordFrameLength ≤ bs.length) :
    readChecked? bs wordFrameLength .readRequest = some (.readRequest (addressAt bs h)) ∧
      readChecked? bs wordFrameLength .readResult =
        some (.readFailed (addressAt bs h) (codeAt bs h)) ∧
      readChecked? bs wordFrameLength .writeResult =
        some (.writeResult (addressAt bs h) (codeAt bs h)) := by
  obtain ⟨header, hheader, haddress⟩ := exists_header h
  have hbody : bs.between? 5 wordFrameLength = some ((bs.take wordFrameLength).drop 5) :=
    Bytes.between?_of_le (by decide) h
  have hcode : Word.first? ((bs.take wordFrameLength).drop 5) = some (Word.read bs 5 _) :=
    Word.first?_between (Nat.le_refl 9) h
  refine ⟨?_, ?_, ?_⟩ <;> simp [readChecked?, hheader, haddress, hbody, hcode, codeAt]

theorem readChecked?_block (h : blockFrameLength ≤ bs.length) :
    readChecked? bs blockFrameLength .writeRequest =
        some (.writeRequest (addressAt bs (wordFrame_le_of_blockFrame_le h)) (dataAt bs h)) ∧
      readChecked? bs blockFrameLength .readResult =
        some (.readResult (addressAt bs (wordFrame_le_of_blockFrame_le h)) (dataAt bs h)) := by
  obtain ⟨header, hheader, haddress⟩ := exists_header (wordFrame_le_of_blockFrame_le h)
  have hbody : bs.between? 5 blockFrameLength = some ((bs.take blockFrameLength).drop 5) :=
    Bytes.between?_of_le (by decide) h
  have hblock : ∃ data, Block.first? ((bs.take blockFrameLength).drop 5) = some data ∧
      data.bytes = (bs.drop 5).take blockSize := Block.first?_between (Nat.le_refl _) h
  obtain ⟨data, hdata, hbytes⟩ := hblock
  obtain rfl : data = dataAt bs h := Block.ext hbytes
  have hother : blockFrameLength ≠ wordFrameLength := by decide
  constructor <;> simp [readChecked?, hheader, haddress, hbody, hdata, hother]

/-! ## A frame whose kind is known -/

variable {kind : Kind}

/-- Long enough for its kind, a frame is read, and every access is good. -/
theorem exists_decode (hhead : bs.head? = some kind.tag)
    (h : kind.needed bs.length ≤ bs.length) :
    ∃ m, decode bs = .ok m ∧ readChecked? bs (kind.needed bs.length) kind = some m := by
  unfold decode
  simp only [hhead, Kind.ofTag?_tag]
  cases kind with
  | writeRequest =>
    have hlong : blockFrameLength ≤ bs.length := h
    exact ⟨_, dif_pos hlong, (readChecked?_block hlong).1⟩
  | readRequest =>
    have hlong : wordFrameLength ≤ bs.length := h
    exact ⟨_, dif_pos hlong, (readChecked?_word hlong).1⟩
  | readResult =>
    by_cases hword : bs.length = wordFrameLength
    · rw [Kind.needed_of_eq hword] at h ⊢
      exact ⟨_, dif_pos hword, (readChecked?_word h).2.1⟩
    · rw [Kind.needed_of_ne hword] at h ⊢
      exact ⟨_, (dif_neg hword).trans (dif_pos h), (readChecked?_block h).2⟩
  | writeResult =>
    have hlong : wordFrameLength ≤ bs.length := h
    exact ⟨_, dif_pos hlong, (readChecked?_word hlong).2.2⟩

/-- Too short for its kind, it is refused. -/
theorem decode_of_lt (hhead : bs.head? = some kind.tag) (h : bs.length < kind.needed bs.length) :
    decode bs = .error (.truncated kind.tag bs.length (kind.needed bs.length)) := by
  unfold decode
  simp only [hhead, Kind.ofTag?_tag]
  cases kind with
  | writeRequest | readRequest | writeResult => exact dif_neg (Nat.not_le.mpr h)
  | readResult =>
    by_cases hword : bs.length = wordFrameLength
    · rw [Kind.needed_of_eq hword, hword] at h
      exact absurd h (Nat.lt_irrefl _)
    · rw [Kind.needed_of_ne hword] at h ⊢
      exact (dif_neg hword).trans (dif_neg (Nat.not_le.mpr h))

theorem wellShaped_iff (hhead : bs.head? = some kind.tag) :
    WellShaped bs ↔ kind.needed bs.length ≤ bs.length := by
  unfold WellShaped
  rw [hhead]
  cases kind with
  | writeRequest | readRequest | writeResult =>
    simp [Kind.tag, Kind.needed, blockFrameLength, wordFrameLength, blockSize]
  | readResult =>
    by_cases hword : bs.length = wordFrameLength
    · rw [Kind.needed_of_eq hword, hword]
      simp [Kind.tag, wordFrameLength]
    · rw [Kind.needed_of_ne hword]
      simp only [wordFrameLength] at hword
      simp [Kind.tag, blockFrameLength, blockSize, hword]

end

/-- No access of the decoder fails a check, whatever the bytes. -/
theorem decodeChecked?_eq_some (bs : Bytes) : decodeChecked? bs = some (decode bs) := by
  rcases hhead : bs.head? with _ | tag
  · simp only [decodeChecked?, decode, hhead]
  rcases hkind : Kind.ofTag? tag with _ | kind
  · simp only [decodeChecked?, decode, hhead, hkind]
  obtain rfl := Kind.tag_of_ofTag? hkind
  simp only [decodeChecked?, hhead, hkind]
  rcases Nat.lt_or_ge bs.length (kind.needed bs.length) with hshort | hlong
  · rw [if_pos hshort, decode_of_lt hhead hshort]
  · obtain ⟨m, hdecode, hchecked⟩ := exists_decode hhead hlong
    rw [if_neg (Nat.not_lt.mpr hlong), hdecode, hchecked]
    rfl

/-! ## What is refused, and why -/

/-- What comes of reading a byte string. -/
inductive Verdict (bs : Bytes) : Except FrameFault Message → Prop where
  /-- There is no tag. -/
  | empty (hnone : bs = []) : Verdict bs (.error .empty)
  /-- The tag is no kind's. -/
  | unknown {tag : UInt8} (hhead : bs.head? = some tag) (htag : ¬(1 ≤ tag ∧ tag ≤ 4)) :
      Verdict bs (.error (.unknownKind tag))
  | read {m : Message} (hshape : WellShaped bs) : Verdict bs (.ok m)
  /-- It ends too soon for its tag. -/
  | truncated {tag : UInt8} (hhead : bs.head? = some tag) (htag : 1 ≤ tag ∧ tag ≤ 4)
      (hshort : ¬WellShaped bs) :
      Verdict bs (.error (.truncated tag bs.length (if tag = 1 ∨ tag = 3 then 517 else 9)))

theorem decode_verdict (bs : Bytes) : Verdict bs (decode bs) := by
  rcases hhead : bs.head? with _ | tag
  · obtain rfl := List.head?_eq_none_iff.mp hhead
    exact .empty rfl
  rcases hkind : Kind.ofTag? tag with _ | kind
  · unfold decode
    simp only [hhead, hkind]
    exact .unknown hhead (Kind.ofTag?_eq_none_iff.mp hkind)
  obtain rfl := Kind.tag_of_ofTag? hkind
  rcases Nat.lt_or_ge bs.length (kind.needed bs.length) with hshort | hlong
  · have hneeded : kind.needed bs.length = if kind.tag = 1 ∨ kind.tag = 3 then 517 else 9 := by
      cases kind with
      | writeRequest | readRequest | writeResult => rfl
      | readResult =>
        apply Kind.needed_of_ne
        intro hword
        rw [Kind.needed_of_eq hword, hword] at hshort
        exact Nat.lt_irrefl _ hshort
    rw [decode_of_lt hhead hshort, hneeded]
    refine .truncated hhead (by cases kind <;> decide) ?_
    rw [wellShaped_iff hhead]
    exact Nat.not_le.mpr hshort
  · obtain ⟨m, hdecode, _⟩ := exists_decode hhead hlong
    rw [hdecode]
    exact .read ((wellShaped_iff hhead).mpr hlong)

theorem WellShaped.exists_tag {bs : Bytes} (h : WellShaped bs) :
    ∃ tag, bs.head? = some tag ∧ 1 ≤ tag ∧ tag ≤ 4 := by
  rcases h with ⟨hhead, _⟩ | ⟨hhead | hhead, _⟩ | ⟨hhead, _⟩ <;>
    exact ⟨_, hhead, by decide, by decide⟩

theorem decode_eq_empty_iff {bs : Bytes} : decode bs = .error .empty ↔ bs = [] := by
  constructor
  · intro h
    have hverdict := decode_verdict bs
    rw [h] at hverdict
    cases hverdict with
    | empty hnone => exact hnone
  · rintro rfl
    rfl

theorem decode_eq_unknownKind_iff {bs : Bytes} {tag : UInt8} :
    decode bs = .error (.unknownKind tag) ↔ bs.head? = some tag ∧ ¬(1 ≤ tag ∧ tag ≤ 4) := by
  constructor
  · intro h
    have hverdict := decode_verdict bs
    rw [h] at hverdict
    cases hverdict with
    | unknown hhead htag => exact ⟨hhead, htag⟩
  · rintro ⟨hhead, htag⟩
    unfold decode
    simp only [hhead, Kind.ofTag?_eq_none_iff.mpr htag]

theorem exists_decode_eq_ok_iff {bs : Bytes} : (∃ m, decode bs = .ok m) ↔ WellShaped bs := by
  constructor
  · rintro ⟨m, h⟩
    have hverdict := decode_verdict bs
    rw [h] at hverdict
    cases hverdict with
    | read hshape => exact hshape
  · intro hshape
    obtain ⟨tag, hhead, htag⟩ := hshape.exists_tag
    rcases hkind : Kind.ofTag? tag with _ | kind
    · exact absurd htag (Kind.ofTag?_eq_none_iff.mp hkind)
    obtain rfl := Kind.tag_of_ofTag? hkind
    obtain ⟨m, hdecode, _⟩ := exists_decode hhead ((wellShaped_iff hhead).mp hshape)
    exact ⟨m, hdecode⟩

/-- Whatever has a known tag and is not read was too short. -/
theorem decode_eq_truncated_iff {bs : Bytes} {tag : UInt8} {length needed : Nat} :
    decode bs = .error (.truncated tag length needed) ↔
      (bs.head? = some tag ∧ 1 ≤ tag ∧ tag ≤ 4) ∧ (∀ m, decode bs ≠ .ok m) ∧
        length = bs.length ∧ needed = if tag = 1 ∨ tag = 3 then 517 else 9 := by
  have hverdict := decode_verdict bs
  constructor
  · intro h
    have hrefused : ∀ m, decode bs ≠ .ok m := by
      intro m hread
      rw [h] at hread
      cases hread
    rw [h] at hverdict
    cases hverdict with
    | truncated hhead htag => exact ⟨⟨hhead, htag⟩, hrefused, rfl, rfl⟩
  · rintro ⟨⟨hhead, htag⟩, hrefused, rfl, rfl⟩
    generalize hresult : decode bs = result at hverdict ⊢
    cases hverdict with
    | empty hnone =>
      rw [hnone] at hhead
      cases hhead
    | unknown hhead' htag' =>
      rw [hhead] at hhead'
      cases hhead'
      exact absurd htag htag'
    | read => exact absurd hresult (hrefused _)
    | truncated hhead' =>
      rw [hhead] at hhead'
      cases hhead'
      rfl

/-! ## The decoder as a whole -/

/-- An empty byte string, one whose tag is not from one to four, and one that is too
short for its tag are refused, each with its own fault, and all others are read: those
with 517 bytes or more for a write request, 9 or more for a read request or a write
result, and for a read result 9, or 517 or more.  What is read is the message that
the grammar spells so.  No access goes beyond the bytes. -/
theorem decode_classified (bs : Bytes) :
    (decode bs = .error .empty ↔ bs = []) ∧
    (∀ tag, decode bs = .error (.unknownKind tag) ↔
      bs.head? = some tag ∧ ¬(1 ≤ tag ∧ tag ≤ 4)) ∧
    ((∃ m, decode bs = .ok m) ↔
      bs.head? = some 1 ∧ 517 ≤ bs.length ∨
        (bs.head? = some 2 ∨ bs.head? = some 4) ∧ 9 ≤ bs.length ∨
          bs.head? = some 3 ∧ (bs.length = 9 ∨ 517 ≤ bs.length)) ∧
    (∀ tag length needed, decode bs = .error (.truncated tag length needed) ↔
      (bs.head? = some tag ∧ 1 ≤ tag ∧ tag ≤ 4) ∧ (∀ m, decode bs ≠ .ok m) ∧
        length = bs.length ∧ needed = if tag = 1 ∨ tag = 3 then 517 else 9) ∧
    (∀ m, decode bs = .ok m ↔ Spells m bs) ∧
    decodeChecked? bs = some (decode bs) := by
  have hempty : decode bs = .error .empty ↔ bs = [] := decode_eq_empty_iff
  have hread : (∃ m, decode bs = .ok m) ↔ WellShaped bs := exists_decode_eq_ok_iff
  refine ⟨hempty, ?_, hread, ?_, ?_, decodeChecked?_eq_some bs⟩
  · intro tag
    exact decode_eq_unknownKind_iff
  · intro tag length needed
    exact decode_eq_truncated_iff
  · intro m
    exact decode_eq_ok_iff

/-- A read result of 9 bytes tells of a failure, and a byte more makes it too short. -/
example :
    decode [3, 7, 0, 0, 0, 0xfe, 0xff, 0xff, 0xff] = .ok (.readFailed 7 (-2)) ∧
      decode [3, 7, 0, 0, 0, 0xfe, 0xff, 0xff, 0xff, 0] = .error (.truncated 3 10 517) :=
  ⟨by rfl, by rfl⟩

end Message
end BlockBridge
