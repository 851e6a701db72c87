import BlockBridge.Block
import BlockBridge.Text.Field

/-!
# Hex dumps

A dump shows a block's bytes in rows of sixteen: where the row lies on the
medium, its bytes in hexadecimal, and its printable characters between bars.

Main statement: the rows of a dump, joined, are the data (`HexDump.flatten_rows`).
-/

namespace BlockBridge
namespace HexDump

/-- Bytes in one row. -/
def rowLength : Nat := 16

/-- The data cut into rows; only the last may be short. -/
def rows : Bytes → List Bytes
  | [] => []
  | b :: rest => (b :: rest.take (rowLength - 1)) :: rows (rest.drop (rowLength - 1))
termination_by data => data.length
decreasing_by
  simp only [List.length_drop, List.length_cons]
  omega

theorem flatten_rows (data : Bytes) : (rows data).flatten = data := by
  fun_induction rows data with
  | case1 => rfl
  | case2 b rest ih =>
    rw [List.flatten_cons, ih, List.cons_append, List.take_append_drop]

/-- One column of a row: a blank and two digits, or three blanks past the row's end. -/
def cell : Option UInt8 → List Char
  | some b => ' ' :: Text.hex 2 b.toNat
  | none => [' ', ' ', ' ']

/-- A byte as a character of the text column. -/
def glyph (b : UInt8) : Char :=
  if 0x20 ≤ b ∧ b ≤ 0x7e then Char.ofNat b.toNat else '.'

/-- The line of a row that starts at byte `offset` of the medium. -/
def line (offset : Nat) (row : Bytes) : List Char :=
  Text.hex 8 offset ++ [' '] ++
    (List.range rowLength).flatMap (fun column => cell row[column]?) ++
    [' ', ' ', '|'] ++ row.map glyph ++ ['|']

/-- The lines of the given rows, the first of them at byte `offset`. -/
def lines (offset : Nat) : List Bytes → List (List Char)
  | [] => []
  | row :: rest => line offset row :: lines (offset + rowLength) rest

/-- The dump of a block's data: a heading, then one line for each row. -/
def render (block : Address) (data : Bytes) : String :=
  let heading := s!"block {block}:".toList
  String.ofList ((heading :: lines (block.toNat * blockSize) (rows data)).flatMap (· ++ ['\n']))

end HexDump
end BlockBridge
