import BlockBridge.Json.Token

/-!
# JSON values

A JSON value as a tree, whose leaves keep what was written.  The members of an
object stay in order, and a key may occur more than once.

A tree is built token by token.  Values can lie in each other to any depth, so
the builder keeps the containers that are still open in a list.
-/

namespace BlockBridge

/-- A JSON value. -/
inductive Json where
  | null
  | bool (value : Bool)
  | number (digits : List Char)
  | string (literal : Json.Literal)
  | array (items : List Json)
  | object (members : List (Json.Literal × Json))

namespace Json

mutual

/-- The tokens of a value. -/
def tokens : Json → List Token
  | null => [.null]
  | bool value => [.bool value]
  | number digits => [.number digits]
  | string literal => [.string literal]
  | array items => .openArray :: (itemTokens items ++ [.closeArray])
  | object members => .openObject :: (memberTokens members ++ [.closeObject])

/-- The tokens between the brackets of an array. -/
def itemTokens : List Json → List Token
  | [] => []
  | [item] => item.tokens
  | item :: rest => item.tokens ++ .comma :: itemTokens rest

/-- The tokens between the braces of an object. -/
def memberTokens : List (Literal × Json) → List Token
  | [] => []
  | [(key, value)] => .string key :: .colon :: value.tokens
  | (key, value) :: rest =>
    .string key :: .colon :: (value.tokens ++ .comma :: memberTokens rest)

end

/-- A container that is still open; its parts come latest first. -/
inductive Opened where
  | array (items : List Json)
  /-- An object of which the value of `key` is being read. -/
  | object (members : List (Literal × Json)) (key : Literal)

/-- What may come next. -/
inductive Expected where
  | value
  /-- The first item of an array, or its end. -/
  | firstItem
  /-- The first key of an object, or its end. -/
  | firstKey
  /-- The next key of an object. -/
  | key (members : List (Literal × Json))
  | colon (members : List (Literal × Json)) (key : Literal)
  /-- What follows a value that is complete. -/
  | after (value : Json)

/-- What has been built of a value; the innermost container comes first. -/
structure Builder where
  opened : List Opened := []
  expected : Expected := .value

namespace Builder

/-- Read the first token of a value. -/
def begin (opened : List Opened) (token : Token) : Option Builder :=
  match token with
  | .null => some ⟨opened, .after .null⟩
  | .bool value => some ⟨opened, .after (.bool value)⟩
  | .number digits => some ⟨opened, .after (.number digits)⟩
  | .string literal => some ⟨opened, .after (.string literal)⟩
  | .openArray => some ⟨opened, .firstItem⟩
  | .openObject => some ⟨opened, .firstKey⟩
  | .closeArray | .closeObject | .colon | .comma => none

/-- Read one token. -/
def step (builder : Builder) (token : Token) : Option Builder :=
  match builder.expected, builder.opened, token with
  | .value, opened, token => begin opened token
  | .firstItem, opened, .closeArray => some ⟨opened, .after (.array [])⟩
  | .firstItem, opened, token => begin (.array [] :: opened) token
  | .firstKey, opened, .closeObject => some ⟨opened, .after (.object [])⟩
  | .firstKey, opened, .string key => some ⟨opened, .colon [] key⟩
  | .key members, opened, .string key => some ⟨opened, .colon members key⟩
  | .colon members key, opened, .colon => some ⟨.object members key :: opened, .value⟩
  | .after value, .array items :: opened, .comma =>
    some ⟨.array (value :: items) :: opened, .value⟩
  | .after value, .array items :: opened, .closeArray =>
    some ⟨opened, .after (.array (value :: items).reverse)⟩
  | .after value, .object members key :: opened, .comma =>
    some ⟨opened, .key ((key, value) :: members)⟩
  | .after value, .object members key :: opened, .closeObject =>
    some ⟨opened, .after (.object ((key, value) :: members).reverse)⟩
  | _, _, _ => none

/-- The value built, if it is complete. -/
def finish : Builder → Option Json
  | ⟨[], .after value⟩ => some value
  | _ => none

end Builder

/-- The value that a row of tokens spells. -/
def ofTokens? (tokens : List Token) : Option Json :=
  (tokens.foldlM Builder.step {}).bind Builder.finish

/-- The value that a text spells. -/
def parse (text : String) : Option Json :=
  (Token.scan text.toList).bind ofTokens?

/-- The text of a value, without blanks. -/
def write (value : Json) : String :=
  String.ofList (value.tokens.flatMap Token.write)

/-- A natural number as a value. -/
def ofNat (n : Nat) : Json := .number (Nat.toDigits 10 n)

/-- The natural number that a value is, if it is one below `bound` and written
with digits alone. -/
def toNatBelow? (bound : Nat) : Json → Option Nat
  | .number digits =>
    if digits.all Char.isDigit then
      let n := digits.foldl (fun n c => n * 10 + (c.toNat - '0'.toNat)) 0
      if n < bound then some n else none
    else none
  | _ => none

/-- The 32-bit word that a value is. -/
def toUInt32? (value : Json) : Option UInt32 :=
  (value.toNatBelow? UInt32.size).map UInt32.ofNat

/-- The byte that a value is. -/
def toUInt8? (value : Json) : Option UInt8 :=
  (value.toNatBelow? UInt8.size).map UInt8.ofNat

/-- The truth value that a value is. -/
def toBool? : Json → Option Bool
  | .bool value => some value
  | _ => none

/-- The text that a value is. -/
def toText? : Json → Option String
  | .string literal => literal
  | _ => none

/-- The values of a record's fields.  An object gives them by name: other
members are passed over, a field may be missing but must not occur twice, and
every key must be readable.  An array gives them in order, and may stop early. -/
def fields? (names : List String) : Json → Option (List (Option Json))
  | .object members =>
    if members.all (·.1.isSome) then
      -- Members of other names are never looked at.
      names.mapM fun name =>
        match members.filter (·.1 = some name) with
        | [] => some none
        | [member] => some (some member.2)
        | _ => none
    else none
  | .array items =>
    if items.length ≤ names.length then
      some (items.map some ++ List.replicate (names.length - items.length) none)
    else none
  | _ => none

end Json
end BlockBridge
