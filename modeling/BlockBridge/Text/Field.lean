/-!
# Fields of text

Columns of fixed width, hexadecimal numerals in lower case, and values shown
by name and parts, as log lines and dumps need them.

Main statement: `Text.length_padStart` gives the width of a padded column.
-/

namespace BlockBridge
namespace Text

/-- Fill a column up to `width` characters on its left.  Longer text stays whole. -/
def padStart (width : Nat) (c : Char) (text : List Char) : List Char :=
  List.replicate (width - text.length) c ++ text

/-- Fill a column up to `width` characters with blanks on its right. -/
def padEnd (width : Nat) (text : List Char) : List Char :=
  text ++ List.replicate (width - text.length) ' '

theorem length_padStart (width : Nat) (c : Char) (text : List Char) :
    (padStart width c text).length = max width text.length := by
  simp only [padStart, List.length_append, List.length_replicate]
  omega

/-- A number in lower-case hexadecimal, filled with zeros to at least `width` digits. -/
def hex (width n : Nat) : List Char :=
  padStart width '0' (Nat.toDigits 16 n)

/-- A byte as two hexadecimal digits. -/
def hexByte (b : UInt8) : String :=
  String.ofList (hex 2 b.toNat)

/-- A value shown as its name and one unnamed part. -/
def tagged (name part : String) : String :=
  name ++ "(" ++ part ++ ")"

/-- A value shown as its name and its named parts. -/
def record (name : String) (parts : List (String × String)) : String :=
  name ++ " \x7b " ++
    ", ".intercalate (parts.map fun part => part.1 ++ ": " ++ part.2) ++ " \x7d"

end Text
end BlockBridge
