import BlockBridge.HexDump
import BlockBridge.Proofs.Text.Digits

/-!
# Hex dumps read back

A dump is read here by its columns alone: a line is a field of digits, then sixteen cells of
three characters, then the text between two bars.  A byte may itself be shown as a bar, a
blank or a dot, so the text is what lies between the first bar and the last one, and the
data are read from the cells.

What is read in this way is what was dumped, whatever the bytes are: no line has a character
in it that ends a line (`HexDump.newline_not_mem_line`), each line shows its own row
(`HexDump.read?_line`), and the rows in order are the data (`HexDump.getElem?_rows`).

Main statement: `HexDump.render_faithful`.
-/

namespace BlockBridge
namespace HexDump

/-! ## Rows -/

theorem rows_of_ne_nil {data : Bytes} (h : data ≠ []) :
    rows data = data.take rowLength :: rows (data.drop rowLength) := by
  cases data with
  | nil => exact absurd rfl h
  | cons b rest =>
    rw [rows]
    rfl

theorem length_rows (data : Bytes) : (rows data).length = (data.length + 15) / 16 := by
  fun_induction rows data with
  | case1 => rfl
  | case2 b rest ih =>
    rw [List.length_cons, ih, List.length_drop, List.length_cons, rowLength]
    omega

/-- The row at a place, with the bytes from there on, as far as they go. -/
theorem getElem?_rows (data : Bytes) (i : Nat) :
    (rows data)[i]? =
      if 16 * i < data.length then some ((data.drop (16 * i)).take 16) else none := by
  induction i generalizing data with
  | zero =>
    cases data with
    | nil => simp [rows]
    | cons b rest =>
      rw [rows_of_ne_nil (List.cons_ne_nil b rest), Nat.mul_zero,
        if_pos (List.length_pos_iff.mpr (List.cons_ne_nil b rest))]
      rfl
  | succ i ih =>
    cases data with
    | nil => simp [rows]
    | cons b rest =>
      rw [rows_of_ne_nil (List.cons_ne_nil b rest), List.getElem?_cons_succ, ih, List.drop_drop,
        List.length_drop, rowLength, Nat.mul_succ, Nat.add_comm 16]
      -- What is left behind the first row reaches as far as the data did.
      by_cases hmore : 16 * i + 16 < (b :: rest).length
      · rw [if_pos hmore, if_pos (by omega)]
      · rw [if_neg hmore, if_neg (by omega)]

theorem length_le_of_mem_rows {data row : Bytes} (h : row ∈ rows data) : row.length ≤ 16 := by
  obtain ⟨i, hi⟩ := List.mem_iff_getElem?.mp h
  rw [getElem?_rows] at hi
  split at hi
  · rw [← Option.some.inj hi, List.length_take]
    exact Nat.min_le_left _ _
  · cases hi

/-! ## Cells -/

/-- What a cell of three characters shows: nothing if it is blank, else the byte of the two
digits behind a blank. -/
def readCell? (text : List Char) : Option (Option UInt8) :=
  if text = [' ', ' ', ' '] then some none
  else if text.length = 3 ∧ text.head? = some ' ' then
    (Text.ofHex? text.tail).map fun n => some (UInt8.ofNat n)
  else none

/-- What so many cells show, and the characters behind them. -/
def readCells? : Nat → List Char → Option (List (Option UInt8) × List Char)
  | 0, text => some ([], text)
  | count + 1, text => do
    let shown ← readCell? (text.take 3)
    let (cells, rest) ← readCells? count (text.drop 3)
    return (shown :: cells, rest)

theorem length_cell (shown : Option UInt8) : (cell shown).length = 3 := by
  cases shown with
  | none => rfl
  | some b =>
    rw [cell, Text.hex_two b.toNat_lt]
    rfl

theorem readCell?_cell (shown : Option UInt8) : readCell? (cell shown) = some shown := by
  cases shown with
  | none => rfl
  | some b =>
    have hdigit : ∀ digit < 16, digit.digitChar ≠ ' ' := by decide
    have hhigh : (b.toNat / 16).digitChar ≠ ' ' := hdigit _ (by have := b.toNat_lt; omega)
    have hcell : cell (some b) ≠ [' ', ' ', ' '] := by
      rw [cell, Text.hex_two b.toNat_lt]
      simp [hhigh]
    have hbyte : (cell (some b)).length = 3 ∧ (cell (some b)).head? = some ' ' :=
      ⟨length_cell _, rfl⟩
    rw [readCell?, if_neg hcell, if_pos hbyte, cell, List.tail_cons, Text.ofHex?_hex]
    simp

theorem readCells?_flatMap_cell (cells : List (Option UInt8)) (rest : List Char) :
    readCells? cells.length (cells.flatMap cell ++ rest) = some (cells, rest) := by
  induction cells with
  | nil => rfl
  | cons shown cells ih =>
    have hfirst : (cell shown ++ (cells.flatMap cell ++ rest)).take 3 = cell shown :=
      List.take_left' (length_cell shown)
    have hrest : (cell shown ++ (cells.flatMap cell ++ rest)).drop 3 = cells.flatMap cell ++ rest :=
      List.drop_left' (length_cell shown)
    rw [List.flatMap_cons, List.append_assoc, List.length_cons, readCells?, hfirst, hrest,
      readCell?_cell, ih]
    rfl

/-- The columns of a row: a byte each, and blank ones behind the last byte. -/
def columns (row : Bytes) : List (Option UInt8) :=
  row.map some ++ List.replicate (16 - row.length) none

/-- Column by column, a row is dumped as its columns. -/
theorem columns_eq_map_range {row : Bytes} (h : row.length ≤ 16) :
    columns row = (List.range rowLength).map (row[·]?) := by
  apply List.ext_getElem?
  intro column
  rw [columns, List.getElem?_append, List.length_map, List.getElem?_map, List.getElem?_replicate,
    List.getElem?_map, rowLength]
  by_cases hbyte : column < row.length
  · rw [if_pos hbyte, List.getElem?_range (by omega), List.getElem?_eq_getElem hbyte,
      Option.map_some, Option.map_some, List.getElem?_eq_getElem hbyte]
  · rw [if_neg hbyte]
    by_cases hblank : column < 16
    · rw [if_pos (by omega), List.getElem?_range hblank, Option.map_some,
        List.getElem?_eq_none (Nat.le_of_not_lt hbyte)]
    · rw [if_neg (by omega), List.getElem?_eq_none (by rw [List.length_range]; omega)]
      rfl

theorem filterMap_columns (row : Bytes) : (columns row).filterMap id = row := by
  simp [columns, List.filterMap_append, List.filterMap_map]

/-! ## Lines -/

/-- What a line of a dump shows: a field of digits, the cells, and the text. -/
structure Line where
  field : List Char
  cells : List (Option UInt8)
  text : List Char

/-- A line taken apart by its columns.  A byte may be shown as a bar, so the text is what
lies between the first bar behind the cells and the last character of the line. -/
def read? (line : List Char) : Option Line := do
  let field := line.takeWhile (· ≠ ' ')
  let (cells, rest) ← readCells? 16 (line.drop (field.length + 1))
  if 4 ≤ rest.length ∧ rest.take 3 = [' ', ' ', '|'] ∧ rest.getLast? = some '|' then
    some { field, cells, text := (rest.drop 3).dropLast }
  else none

/-- What the line of a row shows that begins at byte `offset`. -/
def Line.ofRow (offset : Nat) (row : Bytes) : Line where
  field := Text.hex 8 offset
  cells := columns row
  text := row.map glyph

/-- A line shows its own row. -/
theorem read?_line (offset : Nat) {row : Bytes} (h : row.length ≤ 16) :
    read? (line offset row) = some (.ofRow offset row) := by
  have hline : line offset row = Text.hex 8 offset ++ ' ' :: ((columns row).flatMap cell ++
      ([' ', ' ', '|'] ++ (row.map glyph ++ ['|']))) := by
    rw [line, columns_eq_map_range h, List.flatMap_map]
    simp only [List.append_assoc, List.cons_append, List.nil_append]
  have hfield : (line offset row).takeWhile (· ≠ ' ') = Text.hex 8 offset := by
    rw [hline, List.takeWhile_append_of_pos, List.takeWhile_cons_of_neg (by simp),
      List.append_nil]
    -- A field of digits has no blank in it, so it ends at the first one.
    intro c hc
    obtain ⟨digit, hdigit, rfl⟩ := Text.exists_hexDigit hc
    have hnot : ∀ digit < 16, decide (digit.digitChar ≠ ' ') = true := by decide
    exact hnot digit hdigit
  have hrest : (line offset row).drop ((Text.hex 8 offset).length + 1) =
      (columns row).flatMap cell ++ ([' ', ' ', '|'] ++ (row.map glyph ++ ['|'])) := by
    rw [hline, ← List.drop_drop, List.drop_left]
    rfl
  have hcells : (columns row).length = 16 := by
    rw [columns, List.length_append, List.length_map, List.length_replicate]
    omega
  have hread := readCells?_flatMap_cell (columns row) ([' ', ' ', '|'] ++ (row.map glyph ++ ['|']))
  rw [hcells] at hread
  simp only [read?, hfield, hrest, hread, Option.bind_eq_bind, Option.bind_some]
  have hlast : ([' ', ' ', '|'] ++ (row.map glyph ++ ['|'])).getLast? = some '|' := by
    rw [← List.append_assoc, List.getLast?_concat]
  have htext : (([' ', ' ', '|'] ++ (row.map glyph ++ ['|'])).drop 3).dropLast = row.map glyph :=
    List.dropLast_concat
  rw [if_pos ⟨by simp, rfl, hlast⟩, htext]
  rfl

/-- A letter, a bar and a newline, as they stand on a line. -/
example : String.ofList (line 0x400 [0x41, 0x7c, 0x0a]) =
    "00000400  41 7c 0a                                         |A|.|" := by
  decide +kernel

theorem getElem?_lines (offset : Nat) (parts : List Bytes) (i : Nat) :
    (lines offset parts)[i]? = parts[i]?.map (line (offset + 16 * i)) := by
  induction parts generalizing offset i with
  | nil => rfl
  | cons row parts ih =>
    cases i with
    | zero => rfl
    | succ i =>
      rw [lines, List.getElem?_cons_succ, ih, List.getElem?_cons_succ, rowLength]
      congr 2
      omega

theorem length_lines (offset : Nat) (parts : List Bytes) :
    (lines offset parts).length = parts.length := by
  induction parts generalizing offset with
  | nil => rfl
  | cons row parts ih => rw [lines, List.length_cons, List.length_cons, ih]

/-! ## Characters -/

/-- The character that stands for a byte in the text: its own, or a dot. -/
theorem toNat_glyph (b : UInt8) :
    (glyph b).toNat = if 0x20 ≤ b.toNat ∧ b.toNat ≤ 0x7e then b.toNat else '.'.toNat := by
  by_cases hprintable : 0x20 ≤ b ∧ b ≤ 0x7e
  · have hbyte : 0x20 ≤ b.toNat ∧ b.toNat ≤ 0x7e := hprintable
    have hchar : ∀ n < 0x7f, (Char.ofNat n).toNat = n := by decide
    rw [glyph, if_pos hprintable, if_pos hbyte, hchar _ (Nat.lt_succ_of_le hbyte.2)]
  · have hbyte : ¬(0x20 ≤ b.toNat ∧ b.toNat ≤ 0x7e) := hprintable
    rw [glyph, if_neg hprintable, if_neg hbyte]

/-- Whether a character is shown as itself: no control character, and none beyond ASCII. -/
def Printable (c : Char) : Prop := 0x20 ≤ c.toNat ∧ c.toNat ≤ 0x7e

instance (c : Char) : Decidable (Printable c) :=
  inferInstanceAs (Decidable (0x20 ≤ c.toNat ∧ c.toNat ≤ 0x7e))

theorem printable_glyph (b : UInt8) : Printable (glyph b) := by
  rw [Printable, toNat_glyph]
  split
  · assumption
  · decide

theorem printable_of_mem_hex {width n : Nat} {c : Char} (h : c ∈ Text.hex width n) :
    Printable c := by
  obtain ⟨digit, hdigit, rfl⟩ := Text.exists_hexDigit h
  have hchar : ∀ digit < 16, Printable digit.digitChar := by decide
  exact hchar digit hdigit

theorem printable_of_mem_cell {shown : Option UInt8} {c : Char} (h : c ∈ cell shown) :
    Printable c := by
  have hblank : Printable ' ' := by decide
  cases shown with
  | none =>
    rw [List.eq_of_mem_replicate (n := 3) h]
    exact hblank
  | some b =>
    rcases List.mem_cons.mp h with rfl | hdigit
    · exact hblank
    · exact printable_of_mem_hex hdigit

/-- Whatever the bytes are, a line is made of characters that are shown as themselves. -/
theorem printable_of_mem_line {offset : Nat} {row : Bytes} {c : Char} (h : c ∈ line offset row) :
    Printable c := by
  have hmarks : ∀ c ∈ [' ', '|'], Printable c :=
    List.forall_mem_cons.mpr ⟨by decide, List.forall_mem_singleton.mpr (by decide)⟩
  simp only [line, List.mem_append, List.mem_flatMap, List.mem_map] at h
  rcases h with ((((hfield | hmark) | ⟨column, _, hcell⟩) | hmark) | ⟨b, _, rfl⟩) | hmark
  · exact printable_of_mem_hex hfield
  · exact hmarks c (by simp_all)
  · exact printable_of_mem_cell hcell
  · exact hmarks c (by simp_all)
  · exact printable_glyph b
  · exact hmarks c (by simp_all)

theorem newline_not_mem_line (offset : Nat) (row : Bytes) : '\n' ∉ line offset row := by
  intro h
  exact absurd (printable_of_mem_line h) (by decide)

/-! ## The dump cut into lines -/

/-- The heading of a dump. -/
def heading (block : Address) : List Char :=
  ['b', 'l', 'o', 'c', 'k', ' '] ++ Nat.toDigits 10 block.toNat ++ [':']

theorem newline_not_mem_heading (block : Address) : '\n' ∉ heading block := by
  intro h
  simp only [heading, List.mem_append] at h
  rcases h with (hword | hdigit) | hcolon
  · exact absurd hword (by decide)
  · obtain ⟨digit, hdigit, hchar⟩ := Text.exists_digit (by decide) hdigit
    have hnone : ∀ digit < 10, '\n' ≠ digit.digitChar := by decide
    exact hnone digit hdigit hchar
  · exact absurd hcolon (by decide)

/-- Two blocks do not share a heading. -/
theorem heading_injective {block other : Address} (h : heading block = heading other) :
    block = other := by
  have hdigits : Nat.toDigits 10 block.toNat = Nat.toDigits 10 other.toNat :=
    List.append_cancel_left (List.append_cancel_right h)
  have hnumber := congrArg (Nat.ofDigitChars 10 · 0) hdigits
  simp only [Nat.ofDigitChars_ten_toDigits] at hnumber
  exact UInt32.toNat_inj.mp hnumber

theorem toList_render (block : Address) (data : Bytes) :
    (render block data).toList =
      (heading block :: lines (block.toNat * 512) (rows data)).flatMap (· ++ ['\n']) := by
  have hheading : s!"block {block}:".toList = heading block := by
    show ("block " ++ Nat.repr block.toNat ++ ":").toList = heading block
    simp only [String.toList_append, Nat.repr, String.toList_ofList]
    rfl
  rw [render, String.toList_ofList, hheading]
  rfl

/-- Lines that are each ended by a newline, and have none in them, are found again. -/
theorem splitOn_flatMap {parts : List (List Char)} (h : ∀ part ∈ parts, '\n' ∉ part) :
    (parts.flatMap (· ++ ['\n'])).splitOn '\n' = parts ++ [[]] := by
  -- A newline behind each line is one between lines, with an empty line behind the last.
  have hjoin : parts.flatMap (· ++ ['\n']) = ['\n'].intercalate (parts ++ [[]]) := by
    induction parts with
    | nil => rfl
    | cons part parts ih =>
      have hrest := ih fun other hother => h other (List.mem_cons_of_mem _ hother)
      cases parts with
      | nil => simp [List.intercalate]
      | cons next parts =>
        rw [List.flatMap_cons, hrest]
        exact List.intercalate_cons_cons.symm
  rw [hjoin]
  apply List.splitOn_intercalate
  · intro part hpart
    rcases List.mem_append.mp hpart with hline | hlast
    · exact h part hline
    · rw [List.mem_singleton.mp hlast]
      exact List.not_mem_nil
  · simp

theorem splitOn_render (block : Address) (data : Bytes) :
    (render block data).toList.splitOn '\n' =
      heading block :: (lines (block.toNat * 512) (rows data) ++ [[]]) := by
  rw [toList_render, splitOn_flatMap]
  · rfl
  · intro part hpart
    rcases List.mem_cons.mp hpart with rfl | hline
    · exact newline_not_mem_heading block
    · obtain ⟨i, hi⟩ := List.mem_iff_getElem?.mp hline
      rw [getElem?_lines] at hi
      obtain ⟨row, _, rfl⟩ := Option.map_eq_some_iff.mp hi
      exact newline_not_mem_line _ row

/-! ## The data read back -/

/-- The data that a dump shows: the bytes in the cells of its lines, behind the heading and
up to the end of the last line. -/
def data? (dump : String) : Option Bytes := do
  let lines ← (dump.toList.splitOn '\n').tail.dropLast.mapM read?
  return lines.flatMap fun line => line.cells.filterMap id

theorem mapM_read?_lines (offset : Nat) {parts : List Bytes}
    (h : ∀ row ∈ parts, row.length ≤ 16) :
    ∃ shown, (lines offset parts).mapM read? = some shown ∧
      (shown.flatMap fun line => line.cells.filterMap id) = parts.flatten := by
  induction parts generalizing offset with
  | nil => exact ⟨[], rfl, rfl⟩
  | cons row parts ih =>
    obtain ⟨hrow, hparts⟩ := List.forall_mem_cons.mp h
    obtain ⟨shown, hread, hbytes⟩ := ih (offset + rowLength) hparts
    refine ⟨.ofRow offset row :: shown, ?_, ?_⟩
    · rw [lines, List.mapM_cons, read?_line offset hrow, hread]
      rfl
    · rw [List.flatMap_cons, hbytes, List.flatten_cons, Line.ofRow, filterMap_columns]

theorem data?_render (block : Address) (data : Bytes) : data? (render block data) = some data := by
  have hrows : ∀ row ∈ rows data, row.length ≤ 16 := fun _ => length_le_of_mem_rows
  obtain ⟨shown, hread, hbytes⟩ := mapM_read?_lines (block.toNat * 512) hrows
  rw [data?, splitOn_render, List.tail_cons, List.dropLast_concat, hread, Option.bind_eq_bind,
    Option.bind_some, hbytes, flatten_rows]
  rfl

/-- Two dumps are the same only if block and data are. -/
theorem render_inj {block other : Address} {data otherData : Bytes} :
    render block data = render other otherData ↔ block = other ∧ data = otherData := by
  constructor
  · intro h
    -- The block is told by the first line, the data by all the others.
    have hlines := congrArg (fun dump : String => dump.toList.splitOn '\n') h
    simp only [splitOn_render, List.cons.injEq] at hlines
    have hdata := congrArg data? h
    rw [data?_render, data?_render] at hdata
    exact ⟨heading_injective hlines.1, Option.some.inj hdata⟩
  · rintro ⟨rfl, rfl⟩
    rfl

/-! ## The law -/

/-- That a line shows the row that begins at byte `offset`: this number in hexadecimal, filled
up with zeros to eight digits and no further; a cell for each byte and blank ones behind the
last; and for each byte the character with its number if that is printable, else a dot. -/
structure Line.Shows (offset : Nat) (row : Bytes) (line : Line) : Prop where
  ofHex?_field : Text.ofHex? line.field = some offset
  eight_le : 8 ≤ line.field.length
  head?_field : 8 < line.field.length → line.field.head? ≠ some '0'
  cells_eq : line.cells = row.map some ++ List.replicate (16 - row.length) none
  text_eq : line.text.map Char.toNat =
    row.map fun b => if 0x20 ≤ b.toNat ∧ b.toNat ≤ 0x7e then b.toNat else '.'.toNat

theorem Line.shows_ofRow (offset : Nat) (row : Bytes) :
    (Line.ofRow offset row).Shows offset row where
  ofHex?_field := Text.ofHex?_hex 8 offset
  eight_le := by
    show 8 ≤ (Text.hex 8 offset).length
    rw [Text.hex, Text.length_padStart]
    exact Nat.le_max_left _ _
  head?_field h := Text.head?_hex h (by decide)
  cells_eq := rfl
  text_eq := by
    rw [Line.ofRow, List.map_map]
    exact List.map_congr_left fun b _ => toNat_glyph b

/-- A dump tells block and data, and nothing in the data can disturb it.  It is the heading
with the block's number and then one line for each sixteen bytes or what is left of them, each
ended by a newline and without another one in it.  Line `i` shows the bytes from `16 * i` on,
as far as there are any, and where they lie on the medium.  The cells of all lines together
hold exactly the data.  So dumps of different blocks or different data differ.  And of data
that fit into memory no row lies where a number of 64 bits does not reach. -/
theorem render_faithful (block : Address) (data : Bytes) :
    (∃ body : List (List Char),
      (render block data).toList.splitOn '\n' =
        (['b', 'l', 'o', 'c', 'k', ' '] ++ Nat.toDigits 10 block.toNat ++ [':']) ::
          (body ++ [[]]) ∧
      body.length = (data.length + 15) / 16 ∧
      ∀ i (h : i < body.length), ∃ line, read? body[i] = some line ∧
        line.Shows (block.toNat * 512 + 16 * i) ((data.drop (16 * i)).take 16)) ∧
    data? (render block data) = some data ∧
    (∀ other otherData,
      render block data = render other otherData ↔ block = other ∧ data = otherData) ∧
    (data.length < 9223372036854775808 →
      ∀ i < (data.length + 15) / 16, block.toNat * 512 + 16 * i < UInt64.size) := by
  refine ⟨⟨lines (block.toNat * 512) (rows data), splitOn_render block data, ?_, ?_⟩,
    data?_render block data, fun _ _ => render_inj, ?_⟩
  · rw [length_lines, length_rows]
  · intro i hi
    have hplace : 16 * i < data.length := by
      rw [length_lines, length_rows] at hi
      omega
    have hrow : (rows data)[i]? = some ((data.drop (16 * i)).take 16) := by
      rw [getElem?_rows, if_pos hplace]
    have hline : (lines (block.toNat * 512) (rows data))[i] =
        line (block.toNat * 512 + 16 * i) ((data.drop (16 * i)).take 16) := by
      apply Option.some.inj
      rw [← List.getElem?_eq_getElem hi, getElem?_lines, hrow, Option.map_some]
    refine ⟨_, ?_, Line.shows_ofRow _ _⟩
    rw [hline]
    exact read?_line _ (by rw [List.length_take]; exact Nat.min_le_left _ _)
  · intro hmemory i hi
    have hblock : block.toNat < 4294967296 := block.toNat_lt
    show block.toNat * 512 + 16 * i < 18446744073709551616
    omega

/-- Seventeen bytes make two lines, although a bar, a blank and a newline are among them, and
with a dot for the newline the dump is another one. -/
theorem render_faithful_bar_and_newline :
    let data : Bytes := [0x7c, 0x20, 0x0a, 0x2e] ++ List.replicate 13 0xff
    let dotted : Bytes := [0x7c, 0x20, 0x2e, 0x2e] ++ List.replicate 13 0xff
    (data.length < 9223372036854775808 ∧ 1 < (data.length + 15) / 16 ∧
      (2 : Address).toNat * 512 + 16 * 1 < UInt64.size) ∧
    (∃ body : List (List Char), body.length = 2 ∧
      (render 2 data).toList.splitOn '\n' =
        ['b', 'l', 'o', 'c', 'k', ' ', '2', ':'] :: (body ++ [[]])) ∧
    data? (render 2 data) = some data ∧ render 2 data ≠ render 2 dotted := by
  intro data dotted
  obtain ⟨⟨body, hlines, hlength, _⟩, hdata, hsame, hreach⟩ := render_faithful 2 data
  have hmemory : data.length < 9223372036854775808 := by decide
  have hsecond : 1 < (data.length + 15) / 16 := by decide
  refine ⟨⟨hmemory, hsecond, hreach hmemory 1 hsecond⟩,
    ⟨body, hlength.trans (by decide), hlines⟩, hdata, ?_⟩
  intro hequal
  exact absurd ((hsame 2 dotted).mp hequal).2 (by decide)

end HexDump
end BlockBridge
