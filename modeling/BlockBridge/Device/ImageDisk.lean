import BlockBridge.Device
import BlockBridge.Device.DiskFault
import BlockBridge.Journal

/-!
# Disk images

A disk whose blocks are kept in a file, one after the other.  The number of
blocks is fixed when the disk is opened.  The file may be cut short or extended
behind the disk's back: what lies past its end cannot be read, and writing
there extends it, with zeros in between.

Main statements: a block that was written reads back (`ImageDisk.read_write`),
and a new image opens again as the disk that it was made for
(`ImageDisk.ofHostFile_create`).
-/

namespace BlockBridge

/-- The state of a disk that keeps its blocks in a file. -/
structure ImageDisk where
  /-- The file. -/
  image : SparseFile
  blockCount : Nat
  /-- Whether the path of the image still names it.  A file that was removed
  lives on for the disk that holds it open. -/
  linked : Bool := true
  deriving DecidableEq

namespace ImageDisk

/-- The name of the part that these records come from. -/
def logTarget : String := "sdbridge::adapters::file_disk"

/-- The largest number of blocks that addresses can tell apart. -/
def maxBlocks : Nat := UInt32.size - 1

/-- Open an image: it has to be a file of whole blocks. -/
def ofHostFile : HostFile → Except DiskFault ImageDisk
  | .refused fault => .error (.file fault)
  | .contents file =>
    if file.length % blockSize = 0 ∧ file.length / blockSize ≤ maxBlocks then
      .ok { image := file, blockCount := file.length / blockSize }
    else .error (.shortImage file.length)

/-- Open what a path names, and record the disk's size. -/
def openPath (path : String) (file : HostFile) (time : Timeline) :
    Except DiskFault ImageDisk × Timeline :=
  match ofHostFile file with
  | .error fault => (.error fault, time)
  | .ok disk =>
    (.ok disk, time.note logTarget [.info s!"disk image {path}: {disk.blockCount} blocks"])

/-- A new image of so many zeroed blocks. -/
def create (blockCount : UInt32) : ImageDisk where
  image := .zeros (blockCount.toNat * blockSize)
  blockCount := blockCount.toNat

/-- What the path of the image names now. -/
def hostFile (disk : ImageDisk) : HostFile :=
  if disk.linked then .contents disk.image else .refused .notFound

/-- A new image opens again as the disk that it was made for. -/
theorem ofHostFile_create (blockCount : UInt32) :
    ofHostFile (create blockCount).hostFile = .ok (create blockCount) := by
  have hlength : blockCount.toNat * blockSize / blockSize = blockCount.toNat :=
    Nat.mul_div_cancel _ (by decide)
  have hcount : blockCount.toNat ≤ maxBlocks := Nat.le_pred_of_lt blockCount.toNat_lt
  have hwhole : blockCount.toNat * blockSize % blockSize = 0 := Nat.mul_mod_left _ _
  simp [ofHostFile, hostFile, create, SparseFile.zeros, hlength, hcount, hwhole]

/-- Cut or extend the file behind the disk's back. -/
def resizeFile (length : Nat) (disk : ImageDisk) : ImageDisk :=
  { disk with image := disk.image.resize length }

/-- Remove the file behind the disk's back. -/
def unlink (disk : ImageDisk) : ImageDisk :=
  { disk with linked := false }

/-- Where a block starts in the image. -/
def offset (block : Address) : Nat := block.toNat * blockSize

/-- Read a block of the disk that the file has whole. -/
def read (block : Address) (disk : ImageDisk) : Except DiskFault Block × ImageDisk :=
  if block.toNat < disk.blockCount then
    -- The file may have become shorter than the disk.
    match (disk.image.slice? (offset block) blockSize).bind Block.ofBytes? with
    | some data => (.ok data, disk)
    | none => (.error (.file .unexpectedEnd), disk)
  else (.error (.outOfRange block), disk)

/-- Write a block of the disk. -/
def write (block : Address) (data : Block) (disk : ImageDisk) :
    Except DiskFault Unit × ImageDisk :=
  if block.toNat < disk.blockCount then
    (.ok (), { disk with image := disk.image.place (offset block) data.bytes })
  else (.error (.outOfRange block), disk)

/-- A block that was written reads back. -/
theorem read_write {block : Address} {data : Block} {disk disk' : ImageDisk}
    (h : disk.write block data = (.ok (), disk')) : (disk'.read block).1 = .ok data := by
  unfold write at h
  by_cases hin : block.toNat < disk.blockCount
  · rw [if_pos hin] at h
    rw [← (Prod.mk.inj h).2]
    have hslice : (disk.image.place (offset block) data.bytes).slice? (offset block) blockSize =
        some data.bytes := by
      rw [← data.length_eq]
      exact SparseFile.slice?_place _ _ _
    simp [read, hin, hslice, Block.ofBytes?_bytes]
  · rw [if_neg hin] at h
    exact absurd (Prod.mk.inj h).1 (by simp)

/-- Disk images as block devices. -/
def device : Device ImageDisk DiskFault where
  blockCount := ImageDisk.blockCount
  read := read
  write := write
  detail := DiskFault.detail

end ImageDisk
end BlockBridge
