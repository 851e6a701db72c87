/-!
# Blocks and byte strings

The medium is addressed in blocks of 512 bytes.  A `Block` carries the proof
that it is exactly that long, so no later function has to ask.  A byte string
of any other length is plain `Bytes`.

Main statements: overwriting keeps a byte string's length
(`Bytes.length_overwrite`) and all but the bytes it is about
(`Bytes.take_overwrite`, `Bytes.drop_overwrite`), and a byte string is a block
exactly when it has the block's length (`Block.ofBytes?_isSome`).
-/

namespace BlockBridge

/-- A byte string of any length: a frame, a payload, the contents of a file. -/
abbrev Bytes := List UInt8

/-- A block's number on the medium. -/
abbrev Address := UInt32

/-- The signed word with which the storage side reports an outcome. -/
abbrev ResultCode := Int32

/-- Bytes in one block. -/
def blockSize : Nat := 512

namespace Bytes

/-- Put `source` over the bytes of `buffer` that start at `offset`. -/
def overwrite (buffer : Bytes) (offset : Nat) (source : Bytes) : Bytes :=
  buffer.take offset ++ source ++ buffer.drop (offset + source.length)

theorem length_overwrite {buffer source : Bytes} {offset : Nat}
    (h : offset + source.length ≤ buffer.length) :
    (overwrite buffer offset source).length = buffer.length := by
  simp only [overwrite, List.length_append, List.length_take, List.length_drop]
  omega

/-- Overwriting changes nothing before the offset. -/
theorem take_overwrite {buffer source : Bytes} {offset : Nat} (h : offset ≤ buffer.length) :
    (overwrite buffer offset source).take offset = buffer.take offset := by
  have hlength : (buffer.take offset).length = offset := List.length_take_of_le h
  rw [overwrite, List.append_assoc, List.take_append_of_le_length (by omega), List.take_take,
    Nat.min_self]

/-- Overwriting puts the source at the offset. -/
theorem take_drop_overwrite {buffer source : Bytes} {offset : Nat} (h : offset ≤ buffer.length) :
    ((overwrite buffer offset source).drop offset).take source.length = source := by
  have hlength : (buffer.take offset).length = offset := List.length_take_of_le h
  rw [overwrite, List.append_assoc, List.drop_left' hlength, List.take_left]

/-- Overwriting changes nothing behind the source. -/
theorem drop_overwrite {buffer source : Bytes} {offset : Nat} (h : offset ≤ buffer.length) :
    (overwrite buffer offset source).drop (offset + source.length) =
      buffer.drop (offset + source.length) := by
  have hlength : (buffer.take offset ++ source).length = offset + source.length := by
    rw [List.length_append, List.length_take_of_le h]
  rw [overwrite, List.drop_left' hlength]

end Bytes

/-- One block's worth of bytes. -/
@[ext]
structure Block where
  bytes : Bytes
  length_eq : bytes.length = blockSize
  deriving DecidableEq

namespace Block

/-- The block whose bytes are all `b`. -/
def fill (b : UInt8) : Block :=
  ⟨List.replicate blockSize b, List.length_replicate⟩

/-- The erased block. -/
def zero : Block := fill 0

instance : Inhabited Block := ⟨zero⟩

/-- A byte string as a block, if it has a block's length. -/
def ofBytes? (bs : Bytes) : Option Block :=
  if h : bs.length = blockSize then some ⟨bs, h⟩ else none

theorem ofBytes?_isSome (bs : Bytes) :
    (ofBytes? bs).isSome = true ↔ bs.length = blockSize := by
  unfold ofBytes?
  split <;> simp_all

theorem ofBytes?_bytes (block : Block) : ofBytes? block.bytes = some block := by
  simp [ofBytes?, block.length_eq]

/-- The `len` bytes of a block that start at `offset`. -/
def slice (block : Block) (offset len : Nat) : Bytes :=
  (block.bytes.drop offset).take len

/-- The block with `source` written over the bytes that start at `offset`. -/
def splice (block : Block) (offset : Nat) (source : Bytes)
    (h : offset + source.length ≤ blockSize) : Block :=
  ⟨block.bytes.overwrite offset source,
    (Bytes.length_overwrite (by rw [block.length_eq]; exact h)).trans block.length_eq⟩

theorem length_slice {block : Block} {offset len : Nat} (h : offset + len ≤ blockSize) :
    (block.slice offset len).length = len := by
  have := block.length_eq
  simp only [slice, List.length_take, List.length_drop]
  omega

end Block

end BlockBridge
