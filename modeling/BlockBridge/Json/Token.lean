import BlockBridge.Json.Literal

/-!
# Tokens

A JSON text is a row of tokens with blanks between them.  The scanner reads it
character by character; between two characters it remembers in which token it
is.  A number ends where the next character cannot go on with it.

Numbers are kept as they are written: how large they are, and whether they are
whole, is for the reader of a field to judge.
-/

namespace BlockBridge
namespace Json

/-- The smallest parts of a JSON text. -/
inductive Token where
  | openObject
  | closeObject
  | openArray
  | closeArray
  | colon
  | comma
  | null
  | bool (value : Bool)
  | number (digits : List Char)
  | string (literal : Literal)
  deriving DecidableEq

namespace Token

/-- Characters that may stand between tokens. -/
def isBlank (c : Char) : Bool :=
  c = ' ' || c = '\n' || c = '\t' || c = '\r'

/-- How a token is written. -/
def write : Token → List Char
  | openObject => ['\x7b']
  | closeObject => ['\x7d']
  | openArray => ['[']
  | closeArray => [']']
  | colon => [':']
  | comma => [',']
  | null => ['n', 'u', 'l', 'l']
  | bool true => ['t', 'r', 'u', 'e']
  | bool false => ['f', 'a', 'l', 's', 'e']
  | number digits => digits
  | string literal => Literal.write literal

/-- How far a number has been read. -/
inductive NumberPart where
  /-- After the minus sign. -/
  | sign
  /-- After a leading zero. -/
  | zero
  /-- Among the digits before the point. -/
  | whole
  /-- After the point. -/
  | point
  /-- Among the digits after the point. -/
  | fraction
  /-- After the letter of the exponent. -/
  | exponent
  /-- After the sign of the exponent. -/
  | exponentSign
  /-- Among the digits of the exponent. -/
  | exponentDigits
  deriving DecidableEq

namespace NumberPart

/-- Where a number goes with its next character, if it can. -/
def next? (part : NumberPart) (c : Char) : Option NumberPart :=
  match part with
  | sign => if c = '0' then some zero else if c.isDigit then some whole else none
  | zero =>
    if c = '.' then some point
    else if c = 'e' || c = 'E' then some exponent
    else none
  | whole =>
    if c.isDigit then some whole
    else if c = '.' then some point
    else if c = 'e' || c = 'E' then some exponent
    else none
  | point => if c.isDigit then some fraction else none
  | fraction =>
    if c.isDigit then some fraction
    else if c = 'e' || c = 'E' then some exponent
    else none
  | exponent =>
    if c.isDigit then some exponentDigits
    else if c = '+' || c = '-' then some exponentSign
    else none
  | exponentSign => if c.isDigit then some exponentDigits else none
  | exponentDigits => if c.isDigit then some exponentDigits else none

/-- Whether a number may end here. -/
def isEnd : NumberPart → Bool
  | zero | whole | fraction | exponentDigits => true
  | sign | point | exponent | exponentSign => false

/-- The part of a number that a character begins, if it begins one. -/
def first? (c : Char) : Option NumberPart :=
  if c = '-' then some sign
  else if c = '0' then some zero
  else if c.isDigit then some whole
  else none

end NumberPart

/-- The token that the scanner is in; the parts read so far come latest first. -/
inductive Inside where
  /-- Between tokens. -/
  | blank
  /-- In a word of which `rest` is still to come. -/
  | word (rest : List Char) (token : Token)
  | number (part : NumberPart) (digits : List Char)
  /-- Between the quotes of a string. -/
  | string (pieces : List Literal.Piece)
  /-- After a backslash. -/
  | escape (pieces : List Literal.Piece)
  /-- In an escape by number, with so many digits still to come. -/
  | unit (pieces : List Literal.Piece) (missing value : Nat)

/-- What the scanner knows between two characters; tokens come latest first. -/
structure Scanner where
  inside : Inside := .blank
  tokens : List Token := []

namespace Scanner

/-- The value of a hexadecimal digit in either case. -/
def hexValue? (c : Char) : Option Nat :=
  if c.isDigit then some (c.toNat - '0'.toNat)
  else if 'a' ≤ c && c ≤ 'f' then some (c.toNat - 'a'.toNat + 10)
  else if 'A' ≤ c && c ≤ 'F' then some (c.toNat - 'A'.toNat + 10)
  else none

/-- The mark that a character is by itself, if it is one. -/
def mark? : Char → Option Token
  | '\x7b' => some .openObject
  | '\x7d' => some .closeObject
  | '[' => some .openArray
  | ']' => some .closeArray
  | ':' => some .colon
  | ',' => some .comma
  | _ => none

/-- Read the first character of a token, or a blank. -/
def begin (tokens : List Token) (c : Char) : Option Scanner :=
  if isBlank c then some { tokens }
  else
    match mark? c with
    | some token => some { tokens := token :: tokens }
    | none =>
      if c = '"' then some { inside := .string [], tokens }
      else if c = 'n' then some { inside := .word ['u', 'l', 'l'] .null, tokens }
      else if c = 't' then some { inside := .word ['r', 'u', 'e'] (.bool true), tokens }
      else if c = 'f' then some { inside := .word ['a', 'l', 's', 'e'] (.bool false), tokens }
      else (NumberPart.first? c).map fun part => { inside := .number part [c], tokens }

/-- Read one character. -/
def step (scanner : Scanner) (c : Char) : Option Scanner :=
  let tokens := scanner.tokens
  match scanner.inside with
  | .blank => begin tokens c
  | .word [] _ => none
  | .word [last] token => if c = last then some { tokens := token :: tokens } else none
  | .word (expected :: rest) token =>
    if c = expected then some { inside := .word rest token, tokens } else none
  | .number part digits =>
    match part.next? c with
    | some part => some { inside := .number part (c :: digits), tokens }
    | none =>
      -- The number is over, and the character belongs to what follows it.
      if part.isEnd then begin (.number digits.reverse :: tokens) c else none
  | .string pieces =>
    if c = '"' then some { tokens := .string (Literal.ofPieces pieces.reverse) :: tokens }
    else if c = '\\' then some { inside := .escape pieces, tokens }
    else if c.toNat < 0x20 then none
    else some { inside := .string (.char c :: pieces), tokens }
  | .escape pieces =>
    if c = 'u' then some { inside := .unit pieces 4 0, tokens }
    else (Literal.ofEscape? c).map fun c => { inside := .string (.char c :: pieces), tokens }
  | .unit pieces missing value =>
    (hexValue? c).map fun digit =>
      let value := value * 16 + digit
      if missing ≤ 1 then { inside := .string (.unit value :: pieces), tokens }
      else { inside := .unit pieces (missing - 1) value, tokens }

/-- The tokens read, if the text may end here. -/
def finish (scanner : Scanner) : Option (List Token) :=
  match scanner.inside with
  | .blank => some scanner.tokens.reverse
  | .number part digits =>
    if part.isEnd then some (Token.number digits.reverse :: scanner.tokens).reverse else none
  | _ => none

end Scanner

/-- The tokens of a text, if it is made of tokens and blanks. -/
def scan (text : List Char) : Option (List Token) :=
  (text.foldlM Scanner.step {}).bind Scanner.finish

end Token
end Json
end BlockBridge
