import BlockBridge.Proofs.Device.Interchange

/-!
# Images that change length behind the disk's back

How many blocks a disk image has is settled when it is opened; how long its file is
may change at any time.  So the two drift apart: blocks of the disk can lie past the
end of the file, or half inside it.  Such a block cannot be read, but it can be
written, which brings the file up to its end.

What a write does to a file is said byte by byte (`Bytes.Overwritten`), without
saying how it is done.

Main statement: `ImageDisk.resized_from_outside`.
-/

namespace BlockBridge

/-! ## Writing past the end of a file -/

namespace Bytes

/-- `after` is the file `before` with `source` written at `start`: a file that was too
short has grown, with zeros up to `start`, and no byte elsewhere has changed. -/
structure Overwritten (before : Bytes) (start : Nat) (source after : Bytes) : Prop where
  length_eq : after.length = max before.length (start + source.length)
  inside : ∀ i < source.length, after[start + i]? = source[i]?
  gap : ∀ i, before.length ≤ i → i < start → after[i]? = some 0
  elsewhere : ∀ i < before.length, i < start ∨ start + source.length ≤ i →
    after[i]? = before[i]?

theorem overwritten_place (bytes : Bytes) (start : Nat) (source : Bytes) :
    Overwritten bytes start source (bytes.place start source) where
  length_eq := length_place bytes start source
  inside i hi := by
    have hin : start + i < max bytes.length (start + source.length) := by omega
    rw [getElem?_place hin, if_pos (by omega), Nat.add_sub_cancel_left,
      List.getElem?_eq_getElem hi, Option.getD_some]
  gap i hpast hbefore := by
    have hin : i < max bytes.length (start + source.length) := by omega
    rw [getElem?_place hin, if_neg (by omega), List.getElem?_eq_none hpast, Option.getD_none]
  elsewhere i hi houtside := by
    have hin : i < max bytes.length (start + source.length) := by omega
    rw [getElem?_place hin, if_neg (by omega), List.getElem?_eq_getElem hi, Option.getD_some]

end Bytes

namespace ImageDisk

/-! ## What may happen to an image -/

/-- What may happen to a disk image: it is used, or somebody else gives its file
another length. -/
inductive Incident where
  | use (use : Device.Use)
  | resizeFile (length : Nat)

/-- The disk after an incident. -/
def meet : Incident → ImageDisk → ImageDisk
  | .use use, disk => (device.use use disk).2
  | .resizeFile length, disk => disk.resizeFile length

/-- The disk after a number of incidents. -/
def after (incidents : List Incident) (disk : ImageDisk) : ImageDisk :=
  incidents.foldl (fun disk incident => disk.meet incident) disk

theorem blockCount_meet (incident : Incident) (disk : ImageDisk) :
    (disk.meet incident).blockCount = disk.blockCount := by
  cases incident with
  | use use => exact blockCount_use use disk
  | resizeFile length => rfl

/-- Whatever happens, the disk keeps the number of blocks that it was opened with. -/
theorem blockCount_after (incidents : List Incident) (disk : ImageDisk) :
    (disk.after incidents).blockCount = disk.blockCount := by
  induction incidents generalizing disk with
  | nil => rfl
  | cons first rest ih => exact (ih (disk.meet first)).trans (blockCount_meet first disk)

/-! ## Blocks and the length of the file -/

variable {disk : ImageDisk} {block : Address}

/-- A use of a block beyond the disk fails, however long the file is. -/
theorem use_of_beyond (hbeyond : disk.blockCount ≤ block.toNat) {use : Device.Use}
    (hblock : use.block? = some block) :
    device.use use disk = (.error (.outOfRange block), disk) := by
  have hout : ¬block.toNat < disk.blockCount := Nat.not_lt_of_le hbeyond
  cases use with
  | read other =>
    obtain rfl := Option.some.inj hblock
    simp [Device.use, device, read, hout, Except.map]
  | write other data =>
    obtain rfl := Option.some.inj hblock
    simp [Device.use, device, write, hout, Except.map]
  | erase other =>
    obtain rfl := Option.some.inj hblock
    simp [Device.use, device, write, hout, Except.map]
  | sync => cases hblock

/-- A block of the disk that the file has whole reads as the bytes at its place. -/
theorem read_of_whole (hblock : block.toNat < disk.blockCount)
    (hwhole : offset block + blockSize ≤ disk.image.length) :
    ∃ data, disk.read block = (.ok data, disk) ∧
      data.bytes = (disk.image.toBytes.drop (offset block)).take blockSize := by
  have hslice : disk.image.slice? (offset block) blockSize =
      some ((disk.image.toBytes.drop (offset block)).take blockSize) := by
    rw [SparseFile.slice?_eq_slice?_toBytes, Bytes.slice?, SparseFile.length_toBytes,
      if_pos hwhole]
  have hlength : ((disk.image.toBytes.drop (offset block)).take blockSize).length =
      blockSize := by
    simp only [List.length_take, List.length_drop, SparseFile.length_toBytes]
    omega
  refine ⟨⟨_, hlength⟩, ?_, rfl⟩
  rw [read, if_pos hblock, hslice, Option.bind_some, Block.ofBytes?, dif_pos hlength]

/-- A block of the disk that the file has only in part, or not at all, cannot be read. -/
theorem read_of_cut (hblock : block.toNat < disk.blockCount)
    (hcut : disk.image.length < offset block + blockSize) :
    disk.read block = (.error (.file .unexpectedEnd), disk) := by
  have hslice : disk.image.slice? (offset block) blockSize = none :=
    if_neg (Nat.not_le_of_lt hcut)
  rw [read, if_pos hblock, hslice, Option.bind_none]

/-- Every block of the disk can be written, wherever the file ends. -/
theorem write_of_within (hblock : block.toNat < disk.blockCount) (data : Block) :
    ∃ written, disk.write block data = (.ok (), written) ∧
      written.blockCount = disk.blockCount ∧
      disk.image.toBytes.Overwritten (offset block) data.bytes written.image.toBytes := by
  refine ⟨_, if_pos hblock, rfl, ?_⟩
  rw [SparseFile.toBytes_place]
  exact Bytes.overwritten_place _ _ _

/-- A block that is written reads back, for the file reaches to its end now. -/
theorem write_then_read (hblock : block.toNat < disk.blockCount) (data : Block) :
    ∃ written, disk.write block data = (.ok (), written) ∧
      written.blockCount = disk.blockCount ∧
      written.image.length = max disk.image.length (offset block + blockSize) ∧
      disk.image.toBytes.Overwritten (offset block) data.bytes written.image.toBytes ∧
      written.read block = (.ok data, written) := by
  obtain ⟨written, hwrite, hkept, hover⟩ := write_of_within hblock data
  have hlength : written.image.length = max disk.image.length (offset block + blockSize) := by
    rw [← SparseFile.length_toBytes, hover.length_eq, SparseFile.length_toBytes, data.length_eq]
  obtain ⟨found, hread, _⟩ := read_of_whole (hkept ▸ hblock) (hlength ▸ Nat.le_max_right _ _)
  have hback := read_write hwrite
  rw [hread] at hback
  obtain rfl : found = data := Except.ok.inj hback
  exact ⟨written, hwrite, hkept, hlength, hover, hread⟩

/-- An image with no more blocks than addresses can tell apart opens exactly if it
ends with a whole block. -/
theorem openPath_contents (path : String) (image : SparseFile) (time : Timeline)
    (hsize : image.length / blockSize < UInt32.size) :
    (openPath path (.contents image) time).1 =
      if image.length % blockSize = 0 then
        .ok { image, blockCount := image.length / blockSize }
      else .error (.shortImage image.length) := by
  have hcount : image.length / blockSize ≤ maxBlocks := Nat.le_pred_of_lt hsize
  by_cases hwhole : image.length % blockSize = 0
  · rw [openPath, ofHostFile, if_pos ⟨hwhole, hcount⟩, if_pos hwhole]
  · rw [openPath, ofHostFile, if_neg (fun h => hwhole h.1), if_neg hwhole]

/-- A disk image is used again and again, and in between its file is cut or extended to
any length.  It keeps its number of blocks.  A use of a block beyond them fails and
leaves the image alone.  A block of the disk reads as the bytes at its place if the file
has them all, and otherwise not at all, which leaves the image alone, too.  It can be
written in any case: the file then reaches at least to the block's end, the block lies
at its place, a gap before it is zero, nothing else has changed, and the block reads
back.  Whoever opens the image then finds as many blocks as it has, unless it ends
inside one. -/
theorem resized_from_outside (opened : ImageDisk) (incidents : List Incident)
    (block : Address) :
    let disk := opened.after incidents
    let length := disk.image.length
    let start := blockSize * block.toNat
    device.blockCount disk = device.blockCount opened ∧
    (opened.blockCount ≤ block.toNat → ∀ use : Device.Use, use.block? = some block →
      device.use use disk = (.error (.outOfRange block), disk)) ∧
    (block.toNat < opened.blockCount →
      (start + blockSize ≤ length →
        ∃ data, device.read block disk = (.ok data, disk) ∧
          data.bytes = (disk.image.toBytes.drop start).take blockSize) ∧
      (length < start + blockSize →
        device.read block disk = (.error (.file .unexpectedEnd), disk)) ∧
      ∀ data, ∃ written, device.write block data disk = (.ok (), written) ∧
        device.blockCount written = device.blockCount opened ∧
        written.image.length = max length (start + blockSize) ∧
        disk.image.toBytes.Overwritten start data.bytes written.image.toBytes ∧
        device.read block written = (.ok data, written)) ∧
    ∀ path time, length / blockSize < UInt32.size →
      (openPath path (.contents disk.image) time).1 =
        if length % blockSize = 0 then
          .ok { image := disk.image, blockCount := length / blockSize }
        else .error (.shortImage length) := by
  intro disk length start
  have hcount : disk.blockCount = opened.blockCount := blockCount_after incidents opened
  have hstart : offset block = start := Nat.mul_comm _ _
  refine ⟨hcount, ?_, ?_, fun path time => openPath_contents path disk.image time⟩
  · intro hbeyond use hblock
    rw [← hcount] at hbeyond
    exact use_of_beyond hbeyond hblock
  · intro hblock
    rw [← hcount] at hblock
    rw [← hstart]
    refine ⟨read_of_whole hblock, read_of_cut hblock, fun data => ?_⟩
    obtain ⟨written, hwrite, hkept, hlength, hover, hread⟩ := write_then_read hblock data
    exact ⟨written, hwrite, hkept.trans hcount, hlength, hover, hread⟩

/-- The file of a disk of three blocks is cut inside the second one.  That one cannot be
read any more; the third one can be written, with zeros between the cut and its start. -/
theorem resized_to_seven_hundred :
    let disk := (create 3).after [.use (.write 1 (.fill 9)), .resizeFile 700]
    device.read 1 disk = (.error (.file .unexpectedEnd), disk) ∧
      (∃ written, device.write 2 (.fill 7) disk = (.ok (), written) ∧
        written.image.length = 1536 ∧ written.image.toBytes[900]? = some 0 ∧
        device.read 2 written = (.ok (.fill 7), written)) ∧
      device.use (.erase 3) disk = (.error (.outOfRange 3), disk) ∧
      (openPath "card.img" (.contents disk.image) {}).1 = .error (.shortImage 700) := by
  intro disk
  have hlength : disk.image.length = 700 := rfl
  obtain ⟨_, _, hsecond, hopened⟩ := resized_from_outside (create 3)
    [.use (.write 1 (.fill 9)), .resizeFile 700] 1
  obtain ⟨_, _, hthird, _⟩ := resized_from_outside (create 3)
    [.use (.write 1 (.fill 9)), .resizeFile 700] 2
  obtain ⟨_, hbeyond, _, _⟩ := resized_from_outside (create 3)
    [.use (.write 1 (.fill 9)), .resizeFile 700] 3
  obtain ⟨written, hwrite, _, hend, hover, hread⟩ := (hthird (by decide)).2.2 (.fill 7)
  refine ⟨(hsecond (by decide)).2.1 (by decide), ⟨written, hwrite, hend, ?_, hread⟩,
    hbeyond (by decide) (.erase 3) rfl, hopened _ _ (by decide)⟩
  exact hover.gap 900 (by rw [SparseFile.length_toBytes]; decide) (by decide)

end ImageDisk
end BlockBridge
