import BlockBridge.Proofs.RemoteDisk.Transparency
import Mathlib.Data.List.Basic

/-!
# Spans of blocks

A program of a span within a block puts its bytes in their place and leaves every other
byte of the disk as it is, and so it is a matter of single bytes: after a number of
programs a place holds what the last of them put there that reached it
(`Patch.getElem?_applyAll`), and programs that have no place in common can change places
(`Block.splice_comm`).

A remote disk at rest over a whole RAM disk programs the blocks of the medium in this way,
also where it writes the block without reading it first (`RemoteDisk.Ready.program_within`).

Main statement: `RemoteDisk.program_splices`.
-/

namespace BlockBridge

/-! ## The bytes of a block -/

namespace Bytes

/-- What bytes that are put at an offset bring to a place, if they reach it. -/
def placed (bytes : Bytes) (offset place : Nat) : Option UInt8 :=
  if offset ≤ place then bytes[place - offset]? else none

theorem placed_eq_none {bytes : Bytes} {offset place : Nat}
    (h : place < offset ∨ offset + bytes.length ≤ place) : bytes.placed offset place = none := by
  unfold placed
  split
  · exact List.getElem?_eq_none (by omega)
  · rfl

/-- A place holds the source's byte if the source reaches it, and else the buffer's own. -/
theorem getElem?_overwrite {buffer source : Bytes} {offset : Nat}
    (h : offset + source.length ≤ buffer.length) (place : Nat) :
    (buffer.overwrite offset source)[place]? = (source.placed offset place).or buffer[place]? := by
  have hoffset : offset ≤ buffer.length := by omega
  unfold placed
  rcases Nat.lt_or_ge place offset with hbefore | hfrom
  · rw [if_neg (Nat.not_le.mpr hbefore), Option.none_or, ← List.getElem?_take_of_lt hbefore,
      take_overwrite hoffset, List.getElem?_take_of_lt hbefore]
  · rw [if_pos hfrom]
    obtain ⟨i, rfl⟩ := Nat.exists_eq_add_of_le hfrom
    rw [Nat.add_sub_cancel_left]
    rcases Nat.lt_or_ge i source.length with hinside | hbehind
    · rw [← List.getElem?_drop, ← List.getElem?_take_of_lt hinside, take_drop_overwrite hoffset,
        List.getElem?_eq_getElem hinside, Option.some_or]
    · obtain ⟨j, rfl⟩ := Nat.exists_eq_add_of_le hbehind
      rw [List.getElem?_eq_none (Nat.le_add_right _ _), Option.none_or, ← Nat.add_assoc,
        ← List.getElem?_drop, drop_overwrite hoffset, List.getElem?_drop]

end Bytes

namespace Block

theorem getElem?_splice {block : Block} {offset : Nat} {bytes : Bytes}
    (within : offset + bytes.length ≤ blockSize) (place : Nat) :
    (block.splice offset bytes within).bytes[place]? =
      (bytes.placed offset place).or block.bytes[place]? :=
  Bytes.getElem?_overwrite (by rw [block.length_eq]; exact within) place

/-- Of a block that is replaced as a whole nothing is left. -/
theorem splice_whole {block : Block} {offset : Nat} {bytes : Bytes}
    (within : offset + bytes.length ≤ blockSize) (hwhole : bytes.length = blockSize) :
    block.splice offset bytes within = ⟨bytes, hwhole⟩ := by
  obtain rfl : offset = 0 := by omega
  refine Block.ext ?_
  have hnone : block.bytes.drop (0 + bytes.length) = [] :=
    List.drop_eq_nil_of_le (by rw [block.length_eq]; omega)
  show block.bytes.take 0 ++ bytes ++ block.bytes.drop (0 + bytes.length) = bytes
  rw [hnone, List.take_zero, List.nil_append, List.append_nil]

/-- Spans that do not overlap can be written in either order. -/
theorem splice_comm {block : Block} {offset offset' : Nat} {bytes bytes' : Bytes}
    (within : offset + bytes.length ≤ blockSize) (within' : offset' + bytes'.length ≤ blockSize)
    (hapart : offset + bytes.length ≤ offset' ∨ offset' + bytes'.length ≤ offset) :
    (block.splice offset bytes within).splice offset' bytes' within' =
      (block.splice offset' bytes' within').splice offset bytes within := by
  refine Block.ext (List.ext_getElem? fun place => ?_)
  simp only [getElem?_splice]
  -- No place lies in both spans.
  by_cases hin : offset ≤ place ∧ place < offset + bytes.length
  · have hnone : bytes'.placed offset' place = none := Bytes.placed_eq_none (by omega)
    rw [hnone, Option.none_or, Option.none_or]
  · have hnone : bytes.placed offset place = none := Bytes.placed_eq_none (by omega)
    rw [hnone, Option.none_or, Option.none_or]

end Block

/-! ## Programs one after another -/

/-- A program of a span: the block, where in it the span begins, and the bytes for it. -/
structure Patch where
  block : Address
  offset : Nat
  bytes : Bytes

namespace Patch

/-- The blocks of a disk after a program.  One that does not fit into a block changes
nothing, and neither does one of a block beyond the disk. -/
def apply (patch : Patch) (blocks : List Block) : List Block :=
  if h : patch.offset + patch.bytes.length ≤ blockSize then
    blocks.modify patch.block.toNat (·.splice patch.offset patch.bytes h)
  else blocks

/-- The blocks of a disk after a number of programs. -/
def applyAll (patches : List Patch) (blocks : List Block) : List Block :=
  patches.foldl (fun blocks patch => patch.apply blocks) blocks

/-- What a program puts at a place of a block, if it reaches it. -/
def byteAt? (block : Address) (place : Nat) (patch : Patch) : Option UInt8 :=
  if patch.block = block ∧ patch.offset + patch.bytes.length ≤ blockSize then
    patch.bytes.placed patch.offset place
  else none

/-- A program of a block that is there. -/
theorem apply_of_there {patch : Patch} (h : patch.offset + patch.bytes.length ≤ blockSize)
    {blocks : List Block} {old : Block} (hold : blocks[patch.block.toNat]? = some old) :
    patch.apply blocks =
      blocks.set patch.block.toNat (old.splice patch.offset patch.bytes h) := by
  rw [apply, dif_pos h, List.modify_eq_set_getElem?, hold]
  rfl

/-- A program of a block beyond the disk. -/
theorem apply_of_beyond {patch : Patch} {blocks : List Block}
    (hnone : blocks[patch.block.toNat]? = none) : patch.apply blocks = blocks := by
  unfold apply
  split
  · rw [List.modify_eq_set_getElem?, hnone]
    rfl
  · rfl

theorem length_apply (patch : Patch) (blocks : List Block) :
    (patch.apply blocks).length = blocks.length := by
  unfold apply
  split
  · exact List.length_modify ..
  · rfl

theorem length_applyAll (patches : List Patch) (blocks : List Block) :
    (applyAll patches blocks).length = blocks.length := by
  induction patches generalizing blocks with
  | nil => rfl
  | cons patch rest ih => exact (ih _).trans (patch.length_apply blocks)

/-- A place that a program reaches holds the byte it puts there, and any other place what it
held before. -/
theorem getElem?_apply (patch : Patch) {blocks : List Block} {block : Address} {old : Block}
    (h : blocks[block.toNat]? = some old) :
    ∃ new, (patch.apply blocks)[block.toNat]? = some new ∧
      ∀ place, new.bytes[place]? = (patch.byteAt? block place).or old.bytes[place]? := by
  unfold apply byteAt?
  by_cases hfits : patch.offset + patch.bytes.length ≤ blockSize
  · rw [dif_pos hfits]
    by_cases hblock : patch.block = block
    · refine ⟨old.splice patch.offset patch.bytes hfits, ?_, fun place => ?_⟩
      · rw [hblock, List.getElem?_modify_eq, h]
        rfl
      · rw [if_pos ⟨hblock, hfits⟩, Block.getElem?_splice]
    · have hplace : patch.block.toNat ≠ block.toNat :=
        fun heq => hblock (UInt32.toNat_inj.mp heq)
      refine ⟨old, ?_, fun place => ?_⟩
      · rw [List.getElem?_modify_ne _ _ hplace, h]
      · rw [if_neg fun hboth => hblock hboth.1, Option.none_or]
  · refine ⟨old, ?_, fun place => ?_⟩
    · rw [dif_neg hfits, h]
    · rw [if_neg fun hboth => hfits hboth.2, Option.none_or]

/-- After a number of programs a place holds what the last that reached it put there, and
what it held before if none did; by induction on the programs. -/
theorem getElem?_applyAll (patches : List Patch) {blocks : List Block} {block : Address}
    {old : Block} (h : blocks[block.toNat]? = some old) :
    ∃ new, (applyAll patches blocks)[block.toNat]? = some new ∧
      ∀ place, new.bytes[place]? =
        ((patches.filterMap (byteAt? block place)).getLast?).or old.bytes[place]? := by
  induction patches generalizing blocks old with
  | nil => exact ⟨old, h, fun _ => rfl⟩
  | cons patch rest ih =>
    obtain ⟨next, hnext, hfirst⟩ := patch.getElem?_apply h
    obtain ⟨new, hnew, hrest⟩ := ih hnext
    refine ⟨new, hnew, fun place => ?_⟩
    rw [hrest, hfirst, List.filterMap_cons]
    cases patch.byteAt? block place with
    | none => rfl
    | some byte =>
      rw [List.getLast?_cons, Option.some_or, Option.some_or, Option.or_some]

/-- Programs of spans of one block that do not overlap can change places. -/
theorem apply_comm {block : Address} {offset offset' : Nat} {bytes bytes' : Bytes}
    (hapart : offset + bytes.length ≤ offset' ∨ offset' + bytes'.length ≤ offset)
    (blocks : List Block) :
    apply ⟨block, offset', bytes'⟩ (apply ⟨block, offset, bytes⟩ blocks) =
      apply ⟨block, offset, bytes⟩ (apply ⟨block, offset', bytes'⟩ blocks) := by
  unfold apply
  by_cases hfits : offset + bytes.length ≤ blockSize
  · by_cases hfits' : offset' + bytes'.length ≤ blockSize
    · simp only [dif_pos hfits, dif_pos hfits', List.modify_modify_eq]
      congr 1
      funext old
      exact Block.splice_comm hfits hfits' hapart
    · simp only [dif_neg hfits']
  · simp only [dif_neg hfits]

end Patch

/-! ## A remote disk over a RAM disk that is not broken -/

namespace RamDisk

/-- A program of a block of a disk that is not broken anywhere, whether the block is read
for it or not. -/
theorem program_unbroken (disk : RamDisk) (h : disk.faulty = []) (block : Address) (offset : Nat)
    (bytes : Bytes) (within : offset + bytes.length ≤ blockSize) :
    let after := device.program block offset bytes within disk
    after.2.faulty = [] ∧ after.2.blocks = Patch.apply ⟨block, offset, bytes⟩ disk.blocks ∧
      (block.toNat < disk.blocks.length → after.1 = .ok ()) := by
  have hread : device.read block disk = disk.read block := rfl
  have hwrite (data : Block) (disk : RamDisk) :
      device.write block data disk = disk.write block data := rfl
  simp only [Device.program, hread, hwrite]
  cases hcontents : disk.contents block with
  | none =>
    have hbeyond : ¬ block.toNat < disk.blocks.length :=
      Nat.not_lt.mpr (List.getElem?_eq_none_iff.mp hcontents)
    have hfailed (data : Block) : disk.write block data = (.error (.outOfRange block), disk) := by
      rw [write, h, if_neg List.not_mem_nil, if_neg hbeyond]
    rw [Patch.apply_of_beyond hcontents, read, h, if_neg List.not_mem_nil, hcontents]
    split
    · rw [hfailed]
      exact ⟨h, rfl, fun hin => absurd hin hbeyond⟩
    · exact ⟨h, rfl, fun hin => absurd hin hbeyond⟩
  | some old =>
    rw [Patch.apply_of_there within hcontents]
    split
    · rename_i hwhole
      rw [disk.write_unbroken h hcontents, Block.splice_whole within hwhole]
      exact ⟨h, rfl, fun _ => rfl⟩
    · rw [disk.read_unbroken h hcontents]
      simp only [write_unbroken { disk with reads := disk.reads + 1 } h hcontents]
      exact ⟨h, trivial, fun _ => trivial⟩

end RamDisk

namespace RemoteDisk

/-- Write a span of a block the long way, however long it is: read the block, change the span,
and write the block back. -/
def rewrite {σ : Type} (channel : Channel σ) (block : Address) (offset : Nat) (bytes : Bytes)
    (within : offset + bytes.length ≤ blockSize) (remote : RemoteDisk σ) :
    Except Fault Unit × RemoteDisk σ :=
  match remote.read channel block with
  | (.error fault, remote) => (.error fault, remote)
  | (.ok data, remote) => remote.write channel block (data.splice offset bytes within)

/-- The remote disk after a number of programs. -/
def programAll (patches : List Patch) (remote : RemoteDisk (Inline RamDisk)) :
    RemoteDisk (Inline RamDisk) :=
  patches.foldl (fun remote patch =>
    (remote.program (Inline.channel RamDisk.device) patch.block patch.offset patch.bytes).2) remote

/-- That a remote disk has nothing in flight over a sound line to a RAM disk, of which no
block is broken. -/
structure Ready (remote : RemoteDisk (Inline RamDisk)) : Prop where
  rest : remote.session.AtRest
  unbroken : remote.medium.faulty = []

variable {remote : RemoteDisk (Inline RamDisk)}

/-- A program of a span that fits into its block. -/
theorem Ready.program_within (h : remote.Ready) (block : Address) (offset : Nat) (bytes : Bytes)
    (within : offset + bytes.length ≤ blockSize) :
    let programmed := remote.program (Inline.channel RamDisk.device) block offset bytes
    programmed.2.Ready ∧
      programmed.2.medium.blocks = Patch.apply ⟨block, offset, bytes⟩ remote.medium.blocks ∧
      (block.toNat < remote.medium.blocks.length → programmed.1 = .ok ()) := by
  intro programmed
  obtain ⟨last, haccess, hrest, hmedium⟩ :=
    access_of_atRest h.rest RamDisk.device block (.program offset bytes within)
  obtain ⟨hunbroken, hblocks, hdone⟩ :=
    remote.medium.program_unbroken h.unbroken block offset bytes within
  rw [RamDisk.served_access] at haccess hmedium
  have hlast : programmed.2 = last := congrArg (·.2.2) haccess
  refine ⟨⟨?_, ?_⟩, ?_, fun hin => ?_⟩
  · rw [hlast]
    exact hrest
  · rw [hlast, hmedium]
    exact hunbroken
  · rw [hlast, hmedium]
    exact hblocks
  · have hended := hdone hin
    have hresult : programmed.1 = Except.mapError _ _ := congrArg (·.1) haccess
    rw [hresult]
    show Except.mapError _ (RamDisk.device.program block offset bytes within remote.medium).1 = _
    rw [hended]
    rfl

/-- Any program does to the blocks of the medium what it says. -/
theorem Ready.program (h : remote.Ready) (patch : Patch) :
    let programmed :=
      remote.program (Inline.channel RamDisk.device) patch.block patch.offset patch.bytes
    programmed.2.Ready ∧ programmed.2.medium.blocks = patch.apply remote.medium.blocks := by
  by_cases hfits : patch.offset + patch.bytes.length ≤ blockSize
  · obtain ⟨hready, hblocks, _⟩ := h.program_within patch.block patch.offset patch.bytes hfits
    exact ⟨hready, hblocks⟩
  · rw [RemoteDisk.program, dif_neg hfits, Patch.apply, dif_neg hfits]
    exact ⟨h, rfl⟩

/-- So do any number of them, by induction on the programs. -/
theorem Ready.programAll (h : remote.Ready) (patches : List Patch) :
    (remote.programAll patches).Ready ∧
      (remote.programAll patches).medium.blocks = Patch.applyAll patches remote.medium.blocks := by
  induction patches generalizing remote with
  | nil => exact ⟨h, rfl⟩
  | cons patch rest ih =>
    obtain ⟨hready, hblocks⟩ := h.program patch
    obtain ⟨hlast, hall⟩ := ih hready
    rw [hblocks] at hall
    exact ⟨hlast, hall⟩

/-- The long way leaves the same blocks. -/
theorem Ready.rewrite (h : remote.Ready) {block : Address} {old : Block}
    (hcontents : remote.medium.contents block = some old) {offset : Nat} {bytes : Bytes}
    (within : offset + bytes.length ≤ blockSize) :
    let rewritten := remote.rewrite (Inline.channel RamDisk.device) block offset bytes within
    rewritten.1 = .ok () ∧
      rewritten.2.medium.blocks = Patch.apply ⟨block, offset, bytes⟩ remote.medium.blocks := by
  obtain ⟨reader, hread, hrest, hmedium⟩ := read_of_atRest h.rest RamDisk.device block
  rw [RamDisk.served_read, remote.medium.read_unbroken h.unbroken hcontents] at hread hmedium
  have hagain : reader.medium.contents block = some old := by
    rw [hmedium]
    exact hcontents
  have hunbroken : reader.medium.faulty = [] := by
    rw [hmedium]
    exact h.unbroken
  obtain ⟨writer, hwrite, _, hwritten⟩ :=
    write_of_atRest hrest RamDisk.device block (old.splice offset bytes within)
  rw [RamDisk.served_write, reader.medium.write_unbroken hunbroken hagain] at hwrite hwritten
  have hrewrite : remote.rewrite (Inline.channel RamDisk.device) block offset bytes within =
      (.ok (), writer) := by
    rw [RemoteDisk.rewrite, hread]
    exact hwrite
  intro rewritten
  rw [show rewritten = (.ok (), writer) from hrewrite, Patch.apply_of_there within hcontents]
  refine ⟨rfl, ?_⟩
  show writer.medium.blocks = _
  rw [hwritten, hmedium]

/-- A span that is read is what the block holds there. -/
theorem Ready.readAt (h : remote.Ready) {block : Address} {data : Block}
    (hcontents : remote.medium.contents block = some data) {offset : Nat} {buffer : Bytes}
    (within : offset + buffer.length ≤ blockSize) :
    let span := remote.readAt (Inline.channel RamDisk.device) block offset buffer
    span.1 = .ok () ∧ span.2.1 = data.slice offset buffer.length := by
  obtain ⟨reader, hread, _⟩ := read_of_atRest h.rest RamDisk.device block
  rw [RamDisk.served_read, remote.medium.read_unbroken h.unbroken hcontents] at hread
  intro span
  have hspan : span = (.ok (), data.slice offset buffer.length, reader) := by
    show remote.readAt _ block offset buffer = _
    rw [RemoteDisk.readAt, if_pos within, hread]
    rfl
  rw [hspan]
  exact ⟨rfl, rfl⟩

/-- Let a remote disk with a usable configuration lie over a sound line at rest to a RAM disk
that is not broken, and let any spans be programmed one after another.  After that a program
of a span within a block of the disk succeeds, puts the bytes in their place and changes no
other; so it does where the block is not read first because all of it is replaced, for the
long way leaves the same blocks.  A span that is read holds, byte for byte, what the last
program that reached the place put there, and what the disk held at first if none did.
Programs of spans of one block that do not overlap leave the same blocks in either order. -/
theorem program_splices (config : Config) (hvalid : config.validate = .ok ())
    (remote : RemoteDisk (Inline RamDisk))
    (htimeout : remote.session.client.timeout = config.responseTimeout)
    (hidle : remote.session.client.inFlight = 0) (hheard : remote.session.channel.replies = [])
    (hsound : remote.session.channel.plan = []) (hunbroken : remote.medium.faulty = [])
    (patches : List Patch) :
    let channel := Inline.channel RamDisk.device
    let reached := remote.programAll patches
    (∀ block offset bytes (within : offset + bytes.length ≤ blockSize),
      block.toNat < remote.medium.blocks.length →
      let programmed := reached.program channel block offset bytes
      let rewritten := reached.rewrite channel block offset bytes within
      programmed.1 = .ok () ∧ rewritten.1 = .ok () ∧
        programmed.2.medium.blocks =
          reached.medium.blocks.modify block.toNat (·.splice offset bytes within) ∧
        rewritten.2.medium.blocks = programmed.2.medium.blocks ∧
        programmed.2.session.client.inFlight = 0) ∧
    (∀ block offset (buffer : Bytes) data, offset + buffer.length ≤ blockSize →
      remote.medium.contents block = some data →
      let span := reached.readAt channel block offset buffer
      span.1 = .ok () ∧ span.2.1.length = buffer.length ∧
        ∀ place < buffer.length, span.2.1[place]? =
          ((patches.filterMap (Patch.byteAt? block (offset + place))).getLast?).or
            data.bytes[offset + place]?) ∧
    ∀ block offset offset' (bytes bytes' : Bytes),
      offset + bytes.length ≤ offset' ∨ offset' + bytes'.length ≤ offset →
      (reached.programAll [⟨block, offset, bytes⟩, ⟨block, offset', bytes'⟩]).medium.blocks =
        (reached.programAll [⟨block, offset', bytes'⟩, ⟨block, offset, bytes⟩]).medium.blocks := by
  intro channel reached
  have hpatient : 0 < remote.session.client.timeout :=
    htimeout ▸ Config.responseTimeout_pos hvalid
  have hready : remote.Ready := ⟨⟨hidle, hpatient, hheard, hsound⟩, hunbroken⟩
  obtain ⟨hreached, hblocks⟩ := hready.programAll patches
  refine ⟨?_, ?_, ?_⟩
  · intro block offset bytes within hin programmed rewritten
    have hstill : block.toNat < reached.medium.blocks.length := by
      rw [hblocks, Patch.length_applyAll]
      exact hin
    obtain ⟨hafter, hspliced, hdone⟩ := hreached.program_within block offset bytes within
    obtain ⟨hdone', hspliced'⟩ := hreached.rewrite (List.getElem?_eq_getElem hstill) within
    have happly : Patch.apply ⟨block, offset, bytes⟩ reached.medium.blocks =
        reached.medium.blocks.modify block.toNat (·.splice offset bytes within) := dif_pos within
    exact ⟨hdone hstill, hdone', hspliced.trans happly, hspliced'.trans hspliced.symm,
      hafter.rest.idle⟩
  · intro block offset buffer data within hcontents span
    obtain ⟨now, hnow, hplaces⟩ := Patch.getElem?_applyAll patches hcontents
    rw [← hblocks] at hnow
    obtain ⟨hdone, hspan⟩ := hreached.readAt hnow within
    refine ⟨hdone, ?_, fun place hplace => ?_⟩
    · exact (congrArg List.length hspan).trans (Block.length_slice within)
    · have hslice : (now.slice offset buffer.length)[place]? = now.bytes[offset + place]? := by
        rw [Block.slice, List.getElem?_take_of_lt hplace, List.getElem?_drop]
      rw [← hplaces, ← hslice]
      exact congrArg (·[place]?) hspan
  · intro block offset offset' bytes bytes' hapart
    obtain ⟨_, hforth⟩ := hreached.programAll [⟨block, offset, bytes⟩, ⟨block, offset', bytes'⟩]
    obtain ⟨_, hback⟩ := hreached.programAll [⟨block, offset', bytes'⟩, ⟨block, offset, bytes⟩]
    exact (hforth.trans (Patch.apply_comm hapart _)).trans hback.symm

/-- The third byte of the first block is programmed twice.  The last program does not fit into
its block and counts for nothing. -/
theorem program_splices_overlapping :
    let config : Config := {}
    let disk : RamDisk := { blocks := [.fill 1, .fill 2] }
    let line : Inline RamDisk := { server := { device := disk } }
    let remote := ofConfig config line {}
    let patches : List Patch :=
      [⟨0, 1, [7, 8]⟩, ⟨1, 2, [5]⟩, ⟨0, 2, [9]⟩, ⟨0, 511, [6, 6]⟩]
    config.validate = .ok () ∧ remote.session.client.timeout = config.responseTimeout ∧
      remote.session.client.inFlight = 0 ∧ remote.session.channel.replies = [] ∧
      remote.session.channel.plan = [] ∧ remote.medium.faulty = [] ∧
      ((remote.programAll patches).readAt (Inline.channel RamDisk.device) 0 0 [0, 0, 0]).2.1 =
        [1, 7, 9] ∧
      ((remote.programAll patches).program (Inline.channel RamDisk.device) 1 512 []).1 =
        .ok () := by
  intro config disk line remote patches
  have hvalid : config.validate = .ok () := config.validate_eq_ok_iff.mpr (by decide)
  obtain ⟨hprogram, hread, _⟩ := program_splices config hvalid remote rfl rfl rfl rfl rfl patches
  obtain ⟨_, hlength, hplaces⟩ := hread 0 0 [0, 0, 0] (.fill 1) (by decide) rfl
  obtain ⟨hdone, _⟩ := hprogram 1 512 [] (by decide) (by decide)
  refine ⟨hvalid, rfl, rfl, rfl, rfl, rfl, List.ext_getElem? fun place => ?_, hdone⟩
  match place with
  | 0 => exact (hplaces 0 (by decide)).trans rfl
  | 1 => exact (hplaces 1 (by decide)).trans rfl
  | 2 => exact (hplaces 2 (by decide)).trans rfl
  | place + 3 =>
    refine List.getElem?_eq_none ?_
    rw [hlength]
    exact Nat.le_add_left 3 place

end RemoteDisk
end BlockBridge
