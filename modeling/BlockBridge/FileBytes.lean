import BlockBridge.Block

/-!
# Files as byte strings

A file behaves as a row of bytes that can be cut, extended with zeros, and
written at any place.

Main statements: `Bytes.length_resize` and `Bytes.length_place` give the length
of a file after each change, `Bytes.getElem?_resize` and `Bytes.getElem?_place`
every byte of it, and what was placed can be read back (`Bytes.slice?_place`).
-/

namespace BlockBridge
namespace Bytes

/-- Cut a file to `length` bytes, or extend it with zeros. -/
def resize (bytes : Bytes) (length : Nat) : Bytes :=
  bytes.take length ++ List.replicate (length - bytes.length) 0

/-- Put `source` at `offset` of a file.  A gap before it is filled with zeros. -/
def place (bytes : Bytes) (offset : Nat) (source : Bytes) : Bytes :=
  bytes.resize offset ++ source ++ bytes.drop (offset + source.length)

/-- The `length` bytes of a file that start at `offset`, if it has them all. -/
def slice? (bytes : Bytes) (offset length : Nat) : Option Bytes :=
  if offset + length ≤ bytes.length then some ((bytes.drop offset).take length) else none

theorem length_resize (bytes : Bytes) (length : Nat) : (bytes.resize length).length = length := by
  simp only [resize, List.length_append, List.length_take, List.length_replicate]
  omega

theorem length_place (bytes : Bytes) (offset : Nat) (source : Bytes) :
    (bytes.place offset source).length = max bytes.length (offset + source.length) := by
  simp only [place, List.length_append, length_resize, List.length_drop]
  omega

/-- A byte of a resized file is what it was, or zero where there was none. -/
theorem getElem?_resize {bytes : Bytes} {length i : Nat} (h : i < length) :
    (bytes.resize length)[i]? = some (bytes[i]?.getD 0) := by
  by_cases hi : i < bytes.length
  · have htake : i < (bytes.take length).length := by
      rw [List.length_take]
      omega
    rw [resize, List.getElem?_append_left htake, List.getElem?_take_of_lt h,
      List.getElem?_eq_getElem hi, Option.getD_some]
  · have htake : (bytes.take length).length ≤ i := by
      rw [List.length_take]
      omega
    rw [resize, List.getElem?_append_right htake, List.getElem?_eq_none (Nat.le_of_not_lt hi),
      Option.getD_none, List.getElem?_replicate, if_pos]
    rw [List.length_take]
    omega

/-- Placing bytes changes nothing before them, but for a gap that is filled. -/
theorem take_place (bytes : Bytes) (offset : Nat) (source : Bytes) :
    (bytes.place offset source).take offset = bytes.resize offset := by
  rw [place, List.append_assoc, List.take_left' (length_resize bytes offset)]

/-- What was placed is there. -/
theorem slice?_place (bytes : Bytes) (offset : Nat) (source : Bytes) :
    (bytes.place offset source).slice? offset source.length = some source := by
  have hfits : offset + source.length ≤ (bytes.place offset source).length := by
    rw [length_place]
    exact Nat.le_max_right _ _
  rw [slice?, if_pos hfits, place, List.append_assoc,
    List.drop_left' (length_resize bytes offset), List.take_left]

/-- Placing bytes changes nothing behind them. -/
theorem drop_place (bytes : Bytes) (offset : Nat) (source : Bytes) :
    (bytes.place offset source).drop (offset + source.length) =
      bytes.drop (offset + source.length) := by
  have hlength : (bytes.resize offset ++ source).length = offset + source.length := by
    rw [List.length_append, length_resize]
  rw [place, List.drop_left' hlength]

/-- A byte after placing is the placed one if it lies there, and else what it
was, or zero in the gap. -/
theorem getElem?_place {bytes source : Bytes} {offset i : Nat}
    (h : i < max bytes.length (offset + source.length)) :
    (bytes.place offset source)[i]? =
      some (if offset ≤ i ∧ i < offset + source.length then source[i - offset]?.getD 0
        else bytes[i]?.getD 0) := by
  have hresize := length_resize bytes offset
  by_cases hbefore : i < offset
  · rw [← List.getElem?_take_of_lt hbefore, take_place, getElem?_resize hbefore,
      if_neg (by omega)]
  · by_cases hin : i < offset + source.length
    · rw [place, List.append_assoc, List.getElem?_append_right (by omega),
        List.getElem?_append_left (by omega), hresize, if_pos ⟨by omega, hin⟩,
        List.getElem?_eq_getElem (by omega), Option.getD_some]
    · have hold : i < bytes.length := by omega
      obtain ⟨rest, rfl⟩ := Nat.exists_eq_add_of_le (Nat.le_of_not_lt hin)
      rw [← List.getElem?_drop, drop_place, List.getElem?_drop, if_neg (by omega),
        List.getElem?_eq_getElem hold, Option.getD_some]

end Bytes
end BlockBridge
