import BlockBridge.Proofs.Json.Parsing
import BlockBridge.Proofs.Text.Digits
import Mathlib.Data.List.Chain

/-!
# Written values read back

A value is written without blanks.  A literal is written so that it says the same
(`Json.Literal.spelled_write`), and a natural number is written as a numeral of its value
(`Json.isNumeral_toDigits`, `Json.toNatBelow?_ofNat`).  Two tokens need nothing between
them unless both are numbers, and in the tokens of a value no number comes right after
another one (`Json.apart_tokens`).

Main statement: a value reads back from what is written of it, if its numbers are
numerals (`Json.parse_write`).
-/

namespace BlockBridge
namespace Json

/-! ## Literals -/

namespace Literal

/-- Whether a piece stands for a character by itself: a control character may be given by
number. -/
def Piece.Says (piece : Piece) (c : Char) : Prop :=
  piece = .char c ∨ c.toNat < 0x20 ∧ piece = .unit c.toNat

theorem resolve_cons {piece : Piece} {c : Char} (h : piece.Says c) (pieces : List Piece) :
    resolve (piece :: pieces) = (resolve pieces).map (c :: ·) := by
  rcases h with rfl | ⟨hcontrol, rfl⟩
  · rfl
  · -- The number of a control character is no half of a pair.
    have hhigh : isHigh c.toNat = false := by
      simp only [isHigh, Bool.and_eq_false_iff, decide_eq_false_iff_not]
      omega
    have hlow : isLow c.toNat = false := by
      simp only [isLow, Bool.and_eq_false_iff, decide_eq_false_iff_not]
      omega
    cases pieces with
    | nil => simp [resolve, hhigh, hlow]
    | cons next pieces =>
      cases next with
      | char d => simp [resolve, hhigh, hlow]
      | unit v =>
        rw [resolve]
        simp [hhigh, hlow]

theorem hexNumber?_hex : ∀ n < 0x20,
    (Text.hex 4 n).length = 4 ∧ hexNumber? 0 (Text.hex 4 n) = some n := by
  decide

/-- Characters that have an escape of one letter and are written with it. -/
def escapedChars : List Char := ['"', '\\', '\x08', '\x0c', '\n', '\r', '\t']

theorem exists_escape {c : Char} (h : c ∈ escapedChars) :
    ∃ letter, ofEscape? letter = some c ∧ writeChar c = ['\\', letter] := by
  simp only [escapedChars, List.mem_cons, List.not_mem_nil, or_false] at h
  rcases h with rfl | rfl | rfl | rfl | rfl | rfl | rfl
  · exact ⟨'"', rfl, rfl⟩
  · exact ⟨'\\', rfl, rfl⟩
  · exact ⟨'b', rfl, rfl⟩
  · exact ⟨'f', rfl, rfl⟩
  · exact ⟨'n', rfl, rfl⟩
  · exact ⟨'r', rfl, rfl⟩
  · exact ⟨'t', rfl, rfl⟩

/-- Each character is written as one piece that stands for it. -/
theorem exists_piece (c : Char) :
    ∃ piece : Piece, piece.Says c ∧ piece.Spelled (writeChar c) := by
  by_cases hescaped : c ∈ escapedChars
  · obtain ⟨letter, hletter, hwrite⟩ := exists_escape hescaped
    rw [hwrite]
    exact ⟨.char c, .inl rfl, .escaped hletter⟩
  · simp only [escapedChars, List.mem_cons, List.not_mem_nil, or_false, not_or] at hescaped
    by_cases hcontrol : c.toNat < 0x20
    · obtain ⟨hlength, hvalue⟩ := hexNumber?_hex c.toNat hcontrol
      have hwrite : writeChar c = '\\' :: 'u' :: Text.hex 4 c.toNat := by
        simp [writeChar, hescaped, hcontrol]
      rw [hwrite]
      exact ⟨.unit c.toNat, .inr ⟨hcontrol, rfl⟩, .unit hlength hvalue⟩
    · have hwrite : writeChar c = [c] := by
        simp [writeChar, hescaped, hcontrol]
      rw [hwrite]
      exact ⟨.char c, .inl rfl, .plain hescaped.1 hescaped.2.1 hcontrol⟩

theorem exists_row (chars : List Char) :
    ∃ pieces, Row pieces (chars.flatMap writeChar) ∧ resolve pieces = some chars := by
  induction chars with
  | nil => exact ⟨[], .nil, rfl⟩
  | cons c chars ih =>
    obtain ⟨pieces, hrow, hresolve⟩ := ih
    obtain ⟨piece, hsays, hspelled⟩ := exists_piece c
    refine ⟨piece :: pieces, .cons hspelled hrow, ?_⟩
    rw [resolve_cons hsays, hresolve, Option.map_some]

theorem spelled_write (literal : Literal) : literal.Spelled (write literal) := by
  cases literal with
  | none =>
    -- Half a pair, which says nothing.
    have hspelled : Piece.Spelled (.unit 0xd800) ['\\', 'u', 'd', '8', '0', '0'] :=
      .unit rfl rfl
    exact ⟨[.unit 0xd800], _, .cons hspelled .nil, rfl, rfl⟩
  | some text =>
    obtain ⟨pieces, hrow, hresolve⟩ := exists_row text.toList
    refine ⟨pieces, _, hrow, ?_, rfl⟩
    rw [ofPieces, hresolve, Option.map_some, String.ofList_toList]

end Literal

/-! ## Natural numbers -/

theorem isDigits_toDigits (n : Nat) : IsDigits (Nat.toDigits 10 n) :=
  ⟨Nat.toDigits_ne_nil, fun _ hc => Nat.isDigit_of_mem_toDigits (by decide) (by decide) hc⟩

theorem isNumeral_toDigits (n : Nat) : IsNumeral (Nat.toDigits 10 n) := by
  refine ⟨[], Nat.toDigits 10 n, [], [], .inl rfl, ⟨isDigits_toDigits n, fun hzero => ?_⟩, .inl rfl,
    .inl rfl, by simp⟩
  rcases Nat.eq_zero_or_pos n with rfl | hpos
  · rfl
  · exact absurd hzero (Text.head?_toDigits (by decide) (by decide) hpos)

theorem toNatBelow?_ofNat (bound n : Nat) :
    (ofNat n).toNatBelow? bound = if n < bound then some n else none := by
  have hdigits : (Nat.toDigits 10 n).all Char.isDigit = true :=
    List.all_eq_true.mpr (isDigits_toDigits n).2
  have hvalue : (Nat.toDigits 10 n).foldl (fun n c => n * 10 + (c.toNat - '0'.toNat)) 0 = n := by
    conv_rhs => rw [← Nat.ofDigitChars_ten_toDigits (n := n), Nat.ofDigitChars_eq_foldl]
    simp only [Nat.mul_comm 10]
  rw [ofNat, toNatBelow?]
  simp only [hdigits, if_true, hvalue]

theorem toUInt32?_ofNat (n : UInt32) : (ofNat n.toNat).toUInt32? = some n := by
  simp [toUInt32?, toNatBelow?_ofNat, n.toNat_lt_size]

theorem toUInt8?_ofNat (n : UInt8) : (ofNat n.toNat).toUInt8? = some n := by
  simp [toUInt8?, toNatBelow?_ofNat, n.toNat_lt_size]

/-! ## Rows of tokens -/

namespace Token

/-- Whether a token is a number. -/
def isNumber : Token → Bool
  | number _ => true
  | _ => false

/-- Whether two tokens may be written without a blank between them. -/
def Apart (first next : Token) : Prop :=
  first.isNumber = false ∨ next.isNumber = false

/-- Whether a token can be written; that is said of its number. -/
def Proper : Token → Prop
  | number digits => IsNumeral digits
  | _ => True

theorem Proper.spelled {token : Token} (h : token.Proper) : token.Spelled token.write := by
  cases token with
  | number digits => exact ⟨rfl, h⟩
  | string literal => exact literal.spelled_write
  | _ => rfl

/-- No other token is written with a character first that a number could go on with. -/
theorem Proper.endsBefore {token next : Token} (h : token.Apart next) (text : List Char) :
    token.EndsBefore (next.write ++ text) := by
  cases token with
  | number digits =>
    have hnext : next.isNumber = false := h.resolve_left (by simp [isNumber])
    have hfirst : ∃ c rest, next.write = c :: rest ∧
        c ∈ ['\x7b', '\x7d', '[', ']', ':', ',', 'n', 't', 'f', '"'] := by
      cases next with
      | number _ => cases hnext
      | bool value => cases value <;> exact ⟨_, _, rfl, by simp⟩
      | string literal => cases literal <;> exact ⟨_, _, rfl, by simp⟩
      | _ => exact ⟨_, _, rfl, by simp⟩
    have hnone : ∀ c ∈ ['\x7b', '\x7d', '[', ']', ':', ',', 'n', 't', 'f', '"'],
        ¬(c.isDigit = true ∨ c ∈ ['-', '+', '.', 'e', 'E']) := by
      intro c hc
      simp only [List.mem_cons, List.not_mem_nil, or_false] at hc
      rcases hc with rfl | rfl | rfl | rfl | rfl | rfl | rfl | rfl | rfl | rfl <;> decide
    obtain ⟨c, rest, hwrite, hc⟩ := hfirst
    rw [hwrite]
    intro d hd more hmore
    cases hd
    exact hnone c hc (hmore.mem_chars (by simp))
  | _ => trivial

theorem laid_write {tokens : List Token} (hproper : ∀ token ∈ tokens, token.Proper)
    (hapart : tokens.IsChain Apart) : Laid tokens (tokens.flatMap write) := by
  induction tokens with
  | nil => exact .nil
  | cons token tokens ih =>
    obtain ⟨htoken, hrest⟩ := List.forall_mem_cons.mp hproper
    refine .token htoken.spelled ?_ (ih hrest hapart.tail)
    cases tokens with
    | nil => cases token <;> first | trivial | simp [EndsBefore]
    | cons next tokens =>
      exact Proper.endsBefore (List.isChain_cons_cons.mp hapart).1 _

theorem isChain_append (first : List Token) {rest : List Token} {mark : Token}
    (hmark : mark.isNumber = false) (hfirst : first.IsChain Apart) (hrest : rest.IsChain Apart) :
    (first ++ mark :: rest).IsChain Apart := by
  refine List.isChain_append.mpr ⟨hfirst, List.isChain_cons.mpr ⟨?_, hrest⟩, ?_⟩
  · exact fun _ _ => .inl hmark
  · intro _ _ next hnext
    cases hnext
    exact .inr hmark

end Token

mutual

/-- In the tokens of a value no number comes right after another one. -/
theorem apart_tokens (value : Json) : value.tokens.IsChain Token.Apart := by
  match value with
  | .null | .bool _ | .number _ | .string _ => exact .singleton _
  | .array items =>
    exact Token.isChain_append [] rfl .nil
      (Token.isChain_append _ rfl (apart_itemTokens items) .nil)
  | .object members =>
    exact Token.isChain_append [] rfl .nil
      (Token.isChain_append _ rfl (apart_memberTokens members) .nil)

theorem apart_itemTokens (items : List Json) : (itemTokens items).IsChain Token.Apart := by
  match items with
  | [] => exact .nil
  | [item] => exact apart_tokens item
  | item :: next :: items =>
    rw [itemTokens_cons item (by simp)]
    exact Token.isChain_append _ rfl (apart_tokens item) (apart_itemTokens (next :: items))

theorem apart_memberTokens (members : List (Literal × Json)) :
    (memberTokens members).IsChain Token.Apart := by
  match members with
  | [] => exact .nil
  | [(key, value)] =>
    exact Token.isChain_append [.string key] rfl (.singleton _) (apart_tokens value)
  | (key, value) :: next :: members =>
    rw [memberTokens_cons key value (by simp)]
    exact Token.isChain_append [.string key] rfl (.singleton _)
      (Token.isChain_append _ rfl (apart_tokens value) (apart_memberTokens (next :: members)))

end

/-- What is written of a value spells it. -/
theorem spells_write {value : Json} (h : ∀ token ∈ value.tokens, token.Proper) :
    value.Spells value.write := by
  rw [Spells, write, String.toList_ofList]
  exact Token.laid_write h value.apart_tokens

/-- What is written of a value reads back as it. -/
theorem parse_write {value : Json} (h : ∀ token ∈ value.tokens, token.Proper) :
    parse value.write = some value :=
  (parse_eq_some_iff _ _).mpr (spells_write h)

end Json
end BlockBridge
