import BlockBridge.Device.DeadCard
import BlockBridge.Device.ImageDisk
import BlockBridge.Device.RamDisk

/-!
# The card slot

A slot holds one medium: a RAM disk, a disk image or a card that was pulled
out.  Whichever it is, the slot is one block device, and the medium can be
exchanged for a disk image while the slot is in use.

The path of the image names a file from the first image on.  Before that, and
once the file was removed, it names nothing.

Main statements: a block that was written reads back (`Slot.read_write`), an
image that cannot be opened leaves the slot as it is
(`Slot.openImage_of_error`), and a new image opens again as itself
(`Slot.openImage_newImage`).
-/

namespace BlockBridge

/-- What a slot holds. -/
inductive Slot where
  | ram (disk : RamDisk)
  | image (disk : ImageDisk)
  | dead (card : DeadCard)
  deriving DecidableEq

/-- Why the medium in a slot failed. -/
inductive Slot.Fault where
  | disk (fault : DiskFault)
  | card (fault : DeadCard.Fault)
  deriving DecidableEq

namespace Slot

/-- The name of a fault, as its medium gives it. -/
def Fault.detail : Fault → String
  | disk fault => fault.detail
  | card fault => DeadCard.device.detail fault

/-- The number of blocks of the medium. -/
def blockCount : Slot → Nat
  | ram disk => RamDisk.device.blockCount disk
  | image disk => ImageDisk.device.blockCount disk
  | dead card => DeadCard.device.blockCount card

/-- The outcome of an operation on a medium as an outcome for its slot. -/
def settle {δ ε α : Type} (blame : ε → Fault) (hold : δ → Slot) :
    Except ε α × δ → Except Fault α × Slot
  | (.ok value, medium) => (.ok value, hold medium)
  | (.error fault, medium) => (.error (blame fault), hold medium)

theorem settle_of_ok {δ ε α : Type} {blame : ε → Fault} {hold : δ → Slot}
    {outcome : Except ε α × δ} {value : α} (h : outcome.1 = .ok value) :
    (settle blame hold outcome).1 = .ok value := by
  rcases outcome with ⟨result, medium⟩
  rw [show result = .ok value from h]
  rfl

/-- Do the same to whichever medium the slot holds. -/
def access {α : Type} (act : {δ ε : Type} → Device δ ε → δ → Except ε α × δ) :
    Slot → Except Fault α × Slot
  | ram disk => settle .disk .ram (act RamDisk.device disk)
  | image disk => settle .disk .image (act ImageDisk.device disk)
  | dead card => settle .card .dead (act DeadCard.device card)

/-- Slots as block devices. -/
def device : Device Slot Fault where
  blockCount := blockCount
  read block := access fun kind => kind.read block
  write block data := access fun kind => kind.write block data
  erase block := access fun kind => kind.erase block
  sync := access fun kind => kind.sync
  detail := Fault.detail

/-- What the path of the image names now. -/
def hostFile : Slot → HostFile
  | image disk => disk.hostFile
  | ram _ | dead _ => .refused .notFound

/-- Put in what the path of the image names.  If it cannot be opened, the
medium stays. -/
def openImage (path : String) (slot : Slot) (time : Timeline) :
    Except DiskFault Unit × Slot × Timeline :=
  match ImageDisk.openPath path slot.hostFile time with
  | (.ok disk, time) => (.ok (), image disk, time)
  | (.error fault, time) => (.error fault, slot, time)

/-- Put in a new image of so many zeroed blocks.  It takes the place of a file
that the path names already. -/
def newImage (blockCount : UInt32) : Slot :=
  image (ImageDisk.create blockCount)

/-- Change the file that the path of the image names behind the medium's back,
if there is one. -/
def alterFile (change : ImageDisk → ImageDisk) (slot : Slot) :
    Except FileFault Unit × Slot :=
  match slot with
  | image disk =>
    match disk.hostFile with
    | .contents _ => (.ok (), image (change disk))
    | .refused fault => (.error fault, slot)
  | ram _ | dead _ => (.error .notFound, slot)

/-- A block that was written reads back, whichever medium it is on. -/
theorem read_write {block : Address} {data : Block} {slot slot' : Slot}
    (h : device.write block data slot = (.ok (), slot')) :
    (device.read block slot').1 = .ok data := by
  cases slot with
  | ram disk =>
    have h : settle Fault.disk ram (disk.write block data) = (.ok (), slot') := h
    rcases hwrite : disk.write block data with ⟨outcome, after⟩
    rw [hwrite] at h
    cases outcome with
    | error fault => exact absurd (Prod.mk.inj h).1 (by simp)
    | ok written =>
      have hread : (after.read block).1 = .ok data := RamDisk.read_write hwrite
      rw [← (Prod.mk.inj h).2]
      exact settle_of_ok hread
  | image disk =>
    have h : settle Fault.disk image (disk.write block data) = (.ok (), slot') := h
    rcases hwrite : disk.write block data with ⟨outcome, after⟩
    rw [hwrite] at h
    cases outcome with
    | error fault => exact absurd (Prod.mk.inj h).1 (by simp)
    | ok written =>
      have hread : (after.read block).1 = .ok data := ImageDisk.read_write hwrite
      rw [← (Prod.mk.inj h).2]
      exact settle_of_ok hread
  | dead card => exact absurd (Prod.mk.inj h).1 (by simp)

/-- An image that cannot be opened leaves the slot and the journal as they are. -/
theorem openImage_of_error {path : String} {slot : Slot} {time : Timeline} {fault : DiskFault}
    (h : ImageDisk.ofHostFile slot.hostFile = .error fault) :
    slot.openImage path time = (.error fault, slot, time) := by
  simp [openImage, ImageDisk.openPath, h]

/-- A new image opens again as itself. -/
theorem openImage_newImage (path : String) (blockCount : UInt32) (time : Timeline) :
    ((newImage blockCount).openImage path time).2.1 = newImage blockCount := by
  have hopen : ImageDisk.ofHostFile (newImage blockCount).hostFile =
      .ok (ImageDisk.create blockCount) := ImageDisk.ofHostFile_create blockCount
  rw [openImage, ImageDisk.openPath, hopen]
  rfl

end Slot
end BlockBridge
