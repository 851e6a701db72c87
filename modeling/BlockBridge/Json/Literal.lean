import BlockBridge.Text.Field

/-!
# String literals

Between its quotes a JSON string is a row of pieces: plain characters, and
escapes that give a 16-bit unit.  Two units may have to be taken together to
make one character; a unit that needs a partner and has none makes the whole
literal unreadable, though it is still well formed.

Main statement: written text reads back (`Json.Literal.resolve_chars`).
-/

namespace BlockBridge
namespace Json

/-- What a string literal says; nothing, if half a pair is missing from it. -/
abbrev Literal := Option String

namespace Literal

/-- One piece of a string literal. -/
inductive Piece where
  /-- A character that stands for itself, or its one-letter escape. -/
  | char (c : Char)
  /-- An escape by number. -/
  | unit (u : Nat)
  deriving DecidableEq

/-- Whether a unit is the first half of a pair. -/
def isHigh (u : Nat) : Bool := 0xd800 ≤ u && u ≤ 0xdbff

/-- Whether a unit is the second half of a pair. -/
def isLow (u : Nat) : Bool := 0xdc00 ≤ u && u ≤ 0xdfff

/-- The character that a pair of units makes. -/
def join (high low : Nat) : Char :=
  Char.ofNat (0x10000 + (high - 0xd800) * 0x400 + (low - 0xdc00))

/-- The characters that a row of pieces stands for. -/
def resolve : List Piece → Option (List Char)
  | [] => some []
  | .char c :: rest => (resolve rest).map (c :: ·)
  | .unit u :: .unit v :: rest =>
    -- Two halves make a pair only when the first comes first.
    if isHigh u && isLow v then (resolve rest).map (join u v :: ·)
    else if isHigh u || isLow u then none
    else (resolve (.unit v :: rest)).map (Char.ofNat u :: ·)
  | .unit u :: rest =>
    if isHigh u || isLow u then none else (resolve rest).map (Char.ofNat u :: ·)

/-- The text that a row of pieces stands for. -/
def ofPieces (pieces : List Piece) : Literal :=
  (resolve pieces).map String.ofList

theorem resolve_chars (chars : List Char) : resolve (chars.map .char) = some chars := by
  induction chars with
  | nil => rfl
  | cons c chars ih => simp [resolve, ih]

/-- The character that a one-letter escape stands for. -/
def ofEscape? : Char → Option Char
  | '"' => some '"'
  | '\\' => some '\\'
  | '/' => some '/'
  | 'b' => some '\x08'
  | 'f' => some '\x0c'
  | 'n' => some '\n'
  | 'r' => some '\r'
  | 't' => some '\t'
  | _ => none

/-- How a character is written between quotes: quotes, backslashes and control
characters are escaped, all else stands for itself. -/
def writeChar (c : Char) : List Char :=
  if c = '"' then ['\\', '"']
  else if c = '\\' then ['\\', '\\']
  else if c = '\x08' then ['\\', 'b']
  else if c = '\x0c' then ['\\', 'f']
  else if c = '\n' then ['\\', 'n']
  else if c = '\r' then ['\\', 'r']
  else if c = '\t' then ['\\', 't']
  else if c.toNat < 0x20 then '\\' :: 'u' :: Text.hex 4 c.toNat
  else [c]

/-- How a literal is written.  One that says nothing is written as half a pair. -/
def write : Literal → List Char
  | some text => '"' :: (text.toList.flatMap writeChar ++ ['"'])
  | none => ['"', '\\', 'u', 'd', '8', '0', '0', '"']

end Literal
end Json
end BlockBridge
