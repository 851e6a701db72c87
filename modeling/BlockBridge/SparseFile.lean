import BlockBridge.FileBytes

/-!
# Sparse files

A disk image can be far longer than what was ever written to it.  A sparse file
keeps its length and the stretches that were written, and is zero elsewhere.

Main statements: seen as a byte string (`SparseFile.toBytes`), each operation
does to a sparse file what it does to a plain one (`SparseFile.toBytes_resize`,
`SparseFile.toBytes_place`, `SparseFile.slice?_eq_slice?_toBytes`).
-/

namespace BlockBridge

/-- Bytes that were written to a file in one go. -/
structure SparseFile.Stretch where
  /-- Where they start. -/
  offset : Nat
  bytes : Bytes
  deriving DecidableEq

/-- A file of which only the stretches that were written are kept. -/
structure SparseFile where
  length : Nat
  /-- What was written, the newest first. -/
  stretches : List SparseFile.Stretch := []
  /-- Every stretch lies inside the file, so extending the file shows zeros. -/
  within : ∀ stretch ∈ stretches, stretch.offset + stretch.bytes.length ≤ length := by simp
  deriving DecidableEq

namespace SparseFile

namespace Stretch

/-- The byte that a stretch has at an index of the file. -/
def at? (index : Nat) (stretch : Stretch) : Option UInt8 :=
  if stretch.offset ≤ index then stretch.bytes[index - stretch.offset]? else none

/-- Lay a stretch over the part of a file that starts at `start`. -/
def cover (start : Nat) (part : Bytes) (stretch : Stretch) : Bytes :=
  part.overwrite (stretch.offset - start)
    ((stretch.bytes.drop (start - stretch.offset)).take
      (part.length - (stretch.offset - start)))

/-- What a file of `length` bytes has of a stretch that starts inside it. -/
def clip (length : Nat) (stretch : Stretch) : Stretch :=
  { stretch with bytes := stretch.bytes.take (length - stretch.offset) }

end Stretch

/-- A file of zeros. -/
def zeros (length : Nat) : SparseFile where
  length := length

/-- A file with given contents. -/
def ofBytes (bytes : Bytes) : SparseFile where
  length := bytes.length
  stretches := [⟨0, bytes⟩]

/-- The `length` bytes that start at `start`; what lies past the end is zero. -/
def part (start length : Nat) (file : SparseFile) : Bytes :=
  file.stretches.foldr (fun stretch part => stretch.cover start part) (List.replicate length 0)

/-- The whole contents. -/
def toBytes (file : SparseFile) : Bytes := file.part 0 file.length

/-- Cut a file to `length` bytes, or extend it with zeros. -/
def resize (file : SparseFile) (length : Nat) : SparseFile where
  length := length
  stretches := (file.stretches.filter (·.offset ≤ length)).map (Stretch.clip length)
  within := by
    intro stretch hstretch
    obtain ⟨whole, hwhole, rfl⟩ := List.mem_map.1 hstretch
    have hoffset : whole.offset ≤ length := by simpa using (List.mem_filter.1 hwhole).2
    simp only [Stretch.clip, List.length_take]
    omega

/-- Put `source` at `offset` of a file.  A gap before it is filled with zeros. -/
def place (file : SparseFile) (offset : Nat) (source : Bytes) : SparseFile where
  length := max file.length (offset + source.length)
  stretches := ⟨offset, source⟩ :: file.stretches
  within := by
    intro stretch hstretch
    rcases List.mem_cons.1 hstretch with rfl | hold
    · exact Nat.le_max_right _ _
    · exact Nat.le_trans (file.within stretch hold) (Nat.le_max_left _ _)

/-- The `length` bytes of a file that start at `offset`, if it has them all. -/
def slice? (file : SparseFile) (offset length : Nat) : Option Bytes :=
  if offset + length ≤ file.length then some (file.part offset length) else none

/-- The byte at an index, zero where none was written. -/
def byteAt (index : Nat) (file : SparseFile) : UInt8 :=
  (file.stretches.findSome? (Stretch.at? index)).getD 0

/-! ### Byte by byte -/

namespace Stretch

theorem at?_of_le {stretch : Stretch} {index : Nat} (h : stretch.offset ≤ index) :
    stretch.at? index = stretch.bytes[index - stretch.offset]? := if_pos h

theorem at?_of_lt {stretch : Stretch} {index : Nat} (h : index < stretch.offset) :
    stretch.at? index = none := if_neg (Nat.not_le_of_lt h)

theorem length_cover (start : Nat) (part : Bytes) (stretch : Stretch) :
    (stretch.cover start part).length = part.length := by
  simp only [cover, Bytes.overwrite, List.length_append, List.length_take, List.length_drop]
  omega

/-- Covering shows the stretch where it lies and leaves the rest. -/
theorem getElem?_cover {start : Nat} {part : Bytes} {stretch : Stretch} {i : Nat}
    (h : i < part.length) :
    (stretch.cover start part)[i]? = (stretch.at? (start + i)).or part[i]? := by
  have hpart : part[i]? = some part[i] := List.getElem?_eq_getElem h
  unfold cover Bytes.overwrite
  by_cases hbefore : i < stretch.offset - start
  · -- The stretch starts behind the byte.
    have htake : i < (part.take (stretch.offset - start)).length := by
      rw [List.length_take]
      omega
    rw [List.append_assoc, List.getElem?_append_left htake, List.getElem?_take_of_lt hbefore,
      at?_of_lt (by omega), Option.none_or]
  · have htake : (part.take (stretch.offset - start)).length = stretch.offset - start := by
      rw [List.length_take]
      omega
    rw [at?_of_le (by omega), List.append_assoc, List.getElem?_append_right (by omega), htake]
    by_cases hin : start + i - stretch.offset < stretch.bytes.length
    · -- The stretch has the byte.
      have hmiddle : i - (stretch.offset - start) <
          ((stretch.bytes.drop (start - stretch.offset)).take
            (part.length - (stretch.offset - start))).length := by
        rw [List.length_take, List.length_drop]
        omega
      have hindex : start - stretch.offset + (i - (stretch.offset - start)) =
          start + i - stretch.offset := by omega
      rw [List.getElem?_append_left hmiddle, List.getElem?_take_of_lt (by omega),
        List.getElem?_drop, hindex, List.getElem?_eq_getElem hin, Option.some_or]
    · -- The stretch ends before the byte.
      have hmiddle : ((stretch.bytes.drop (start - stretch.offset)).take
          (part.length - (stretch.offset - start))).length =
          stretch.bytes.length - (start - stretch.offset) := by
        rw [List.length_take, List.length_drop]
        omega
      have hindex : stretch.offset - start + (stretch.bytes.length - (start - stretch.offset)) +
          (i - (stretch.offset - start) - (stretch.bytes.length - (start - stretch.offset))) =
          i := by omega
      have hnone : stretch.bytes[start + i - stretch.offset]? = none :=
        List.getElem?_eq_none (by omega)
      rw [List.getElem?_append_right (by omega), hmiddle, List.getElem?_drop, hindex, hnone,
        Option.none_or]

theorem at?_clip {length index : Nat} (stretch : Stretch) (h : index < length) :
    (stretch.clip length).at? index = stretch.at? index := by
  by_cases hoffset : stretch.offset ≤ index
  · have hclip : (stretch.clip length).at? index =
        (stretch.bytes.take (length - stretch.offset))[index - stretch.offset]? := at?_of_le hoffset
    rw [hclip, at?_of_le hoffset, List.getElem?_take_of_lt (by omega)]
  · rw [at?_of_lt (Nat.lt_of_not_le hoffset)]
    exact @at?_of_lt (stretch.clip length) index (Nat.lt_of_not_le hoffset)

end Stretch

theorem length_part (start length : Nat) (file : SparseFile) :
    (file.part start length).length = length := by
  unfold part
  induction file.stretches with
  | nil => exact List.length_replicate
  | cons stretch rest ih => rw [List.foldr_cons, Stretch.length_cover, ih]

theorem getElem?_part {start length i : Nat} (file : SparseFile) (h : i < length) :
    (file.part start length)[i]? = some (file.byteAt (start + i)) := by
  have hfold : ∀ stretches : List Stretch,
      (stretches.foldr (fun stretch part => stretch.cover start part)
        (List.replicate length 0)).length = length ∧
      (stretches.foldr (fun stretch part => stretch.cover start part)
        (List.replicate length 0))[i]? =
          some ((stretches.findSome? (Stretch.at? (start + i))).getD 0) := by
    intro stretches
    induction stretches with
    | nil => simp [h]
    | cons stretch rest ih =>
      rw [List.foldr_cons, Stretch.length_cover, Stretch.getElem?_cover (by omega), ih.2,
        List.findSome?_cons]
      refine ⟨ih.1, ?_⟩
      cases stretch.at? (start + i) with
      | none => rfl
      | some byte => rfl
  exact (hfold file.stretches).2

theorem length_toBytes (file : SparseFile) : file.toBytes.length = file.length :=
  length_part 0 file.length file

theorem getElem?_toBytes {file : SparseFile} {i : Nat} (h : i < file.length) :
    file.toBytes[i]? = some (file.byteAt i) := by
  rw [toBytes, getElem?_part file h, Nat.zero_add]

/-- Nothing lies past the end, so an index there shows zero. -/
theorem byteAt_of_length_le {file : SparseFile} {i : Nat} (h : file.length ≤ i) :
    file.byteAt i = 0 := by
  have hnone : file.stretches.findSome? (Stretch.at? i) = none := by
    refine List.findSome?_eq_none_iff.2 fun stretch hstretch => ?_
    have hwithin := file.within stretch hstretch
    rw [Stretch.at?_of_le (by omega), List.getElem?_eq_none (by omega)]
  rw [byteAt, hnone, Option.getD_none]

/-- The contents show every byte, and zero past the end. -/
theorem getD_toBytes (file : SparseFile) (i : Nat) :
    file.toBytes[i]?.getD 0 = file.byteAt i := by
  by_cases h : i < file.length
  · rw [getElem?_toBytes h, Option.getD_some]
  · rw [List.getElem?_eq_none (by rw [length_toBytes]; omega), Option.getD_none,
      byteAt_of_length_le (by omega)]

theorem byteAt_place (file : SparseFile) (offset : Nat) (source : Bytes) (i : Nat) :
    (file.place offset source).byteAt i =
      if offset ≤ i ∧ i < offset + source.length then source[i - offset]?.getD 0
      else file.byteAt i := by
  simp only [byteAt, place, List.findSome?_cons, Stretch.at?]
  by_cases hoffset : offset ≤ i
  · rw [if_pos hoffset]
    by_cases hin : i < offset + source.length
    · rw [if_pos ⟨hoffset, hin⟩, List.getElem?_eq_getElem (by omega)]
    · rw [if_neg (by omega), List.getElem?_eq_none (by omega)]
  · rw [if_neg hoffset, if_neg (by omega)]

theorem byteAt_resize {file : SparseFile} {length i : Nat} (h : i < length) :
    (file.resize length).byteAt i = file.byteAt i := by
  unfold byteAt resize
  dsimp only
  induction file.stretches with
  | nil => rfl
  | cons stretch rest ih =>
    by_cases hoffset : stretch.offset ≤ length
    · rw [List.filter_cons_of_pos (by simpa using hoffset), List.map_cons, List.findSome?_cons,
        List.findSome?_cons, Stretch.at?_clip stretch h]
      cases stretch.at? i with
      | none => exact ih
      | some byte => rfl
    · have hnone : stretch.at? i = none := Stretch.at?_of_lt (by omega)
      rw [List.filter_cons_of_neg (by simpa using hoffset), List.findSome?_cons, hnone]
      exact ih

/-! ### As a byte string -/

theorem toBytes_zeros (length : Nat) : (zeros length).toBytes = List.replicate length 0 := rfl

theorem toBytes_ofBytes (bytes : Bytes) : (ofBytes bytes).toBytes = bytes := by
  refine List.ext_getElem? fun i => ?_
  by_cases h : i < bytes.length
  · rw [getElem?_toBytes h, List.getElem?_eq_getElem h]
    simp [byteAt, ofBytes, Stretch.at?, List.getElem?_eq_getElem h]
  · rw [List.getElem?_eq_none (by rw [length_toBytes]; exact Nat.le_of_not_lt h),
      List.getElem?_eq_none (Nat.le_of_not_lt h)]

/-- Resizing a sparse file resizes its contents. -/
theorem toBytes_resize (file : SparseFile) (length : Nat) :
    (file.resize length).toBytes = file.toBytes.resize length := by
  refine List.ext_getElem? fun i => ?_
  by_cases h : i < length
  · rw [getElem?_toBytes h, Bytes.getElem?_resize h, byteAt_resize h, getD_toBytes]
  · rw [List.getElem?_eq_none (by rw [length_toBytes]; exact Nat.le_of_not_lt h),
      List.getElem?_eq_none (by rw [Bytes.length_resize]; exact Nat.le_of_not_lt h)]

/-- Placing bytes in a sparse file places them in its contents. -/
theorem toBytes_place (file : SparseFile) (offset : Nat) (source : Bytes) :
    (file.place offset source).toBytes = file.toBytes.place offset source := by
  have hlength : (file.toBytes.place offset source).length =
      max file.length (offset + source.length) := by
    rw [Bytes.length_place, length_toBytes]
  refine List.ext_getElem? fun i => ?_
  by_cases h : i < max file.length (offset + source.length)
  · rw [getElem?_toBytes h, Bytes.getElem?_place (by rw [length_toBytes]; exact h), byteAt_place,
      getD_toBytes]
  · rw [List.getElem?_eq_none (by rw [length_toBytes]; exact Nat.le_of_not_lt h),
      List.getElem?_eq_none (by rw [hlength]; exact Nat.le_of_not_lt h)]

/-- A slice of a sparse file is that slice of its contents. -/
theorem slice?_eq_slice?_toBytes (file : SparseFile) (offset length : Nat) :
    file.slice? offset length = file.toBytes.slice? offset length := by
  unfold slice? Bytes.slice?
  rw [length_toBytes]
  by_cases hfits : offset + length ≤ file.length
  · rw [if_pos hfits, if_pos hfits]
    refine congrArg some (List.ext_getElem? fun i => ?_)
    by_cases h : i < length
    · rw [getElem?_part file h, List.getElem?_take_of_lt h, List.getElem?_drop,
        getElem?_toBytes (by omega)]
    · rw [List.getElem?_eq_none (by rw [length_part]; omega),
        List.getElem?_eq_none (by rw [List.length_take]; omega)]
  · rw [if_neg hfits, if_neg hfits]

/-- What was placed is there. -/
theorem slice?_place (file : SparseFile) (offset : Nat) (source : Bytes) :
    (file.place offset source).slice? offset source.length = some source := by
  rw [slice?_eq_slice?_toBytes, toBytes_place]
  exact Bytes.slice?_place _ _ _

end SparseFile
end BlockBridge
