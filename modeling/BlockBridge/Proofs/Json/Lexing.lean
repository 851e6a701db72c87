import BlockBridge.Proofs.Json.Numeral

/-!
# Texts made of tokens

Which texts spell a token (`Json.Token.Spelled`), and which texts are a row of tokens
with blanks between them (`Json.Token.Laid`).  Tokens need no blank between them, but a
number goes on as long as it can: the characters after it must not make it longer
(`Json.Token.EndsBefore`).

Main statement: the scanner reads the tokens of a text exactly if they are laid out in
it (`Json.Token.scan_eq_some_iff`).
-/

namespace BlockBridge
namespace Json

/-! ## The grammar of a literal -/

namespace Literal

/-- The number that hexadecimal digits give, read on from `value`. -/
def hexNumber? (value : Nat) (digits : List Char) : Option Nat :=
  digits.foldlM (fun value c => (Token.Scanner.hexValue? c).map (value * 16 + ·)) value

/-- The spellings of one piece of a literal. -/
inductive Piece.Spelled : Piece → List Char → Prop
  /-- Quotes, backslashes and control characters cannot stand for themselves. -/
  | plain {c : Char} : c ≠ '"' → c ≠ '\\' → ¬c.toNat < 0x20 → Spelled (.char c) [c]
  | escaped {letter c : Char} : ofEscape? letter = some c → Spelled (.char c) ['\\', letter]
  | unit {digits : List Char} {u : Nat} : digits.length = 4 → hexNumber? 0 digits = some u →
      Spelled (.unit u) ('\\' :: 'u' :: digits)

/-- The spellings of a row of pieces. -/
inductive Row : List Piece → List Char → Prop
  | nil : Row [] []
  | cons {piece : Piece} {pieces : List Piece} {text rest : List Char} :
      piece.Spelled text → Row pieces rest → Row (piece :: pieces) (text ++ rest)

/-- The spellings of a literal: a row of pieces between quotes that says the same. -/
def Spelled (literal : Literal) (text : List Char) : Prop :=
  ∃ pieces row, Row pieces row ∧ ofPieces pieces = literal ∧ text = '"' :: (row ++ ['"'])

theorem hexNumber?_cons (value : Nat) (c : Char) (digits : List Char) :
    hexNumber? value (c :: digits) =
      (Token.Scanner.hexValue? c).bind fun digit => hexNumber? (value * 16 + digit) digits := by
  rw [hexNumber?, List.foldlM_cons]
  cases Token.Scanner.hexValue? c <;> rfl

end Literal

/-! ## The grammar of a row of tokens -/

namespace Token

/-- The spellings of a token: numbers stand as they are written, a literal has many
spellings, and each other token has one. -/
def Spelled : Token → List Char → Prop
  | number digits, text => text = digits ∧ IsNumeral digits
  | string literal, text => literal.Spelled text
  | token, text => text = token.write

/-- Whether a token is over where a text follows it: a number is not where the next
character could go on with it. -/
def EndsBefore : Token → List Char → Prop
  | number digits, text => ∀ c ∈ text.head?, ∀ more, ¬IsNumeral (digits ++ c :: more)
  | _, _ => True

/-- The texts that are a row of tokens, with blanks before, between and after them. -/
inductive Laid : List Token → List Char → Prop
  | nil : Laid [] []
  | blank {c : Char} {tokens : List Token} {text : List Char} :
      isBlank c = true → Laid tokens text → Laid tokens (c :: text)
  | token {token : Token} {lexeme : List Char} {tokens : List Token} {text : List Char} :
      token.Spelled lexeme → token.EndsBefore text → Laid tokens text →
        Laid (token :: tokens) (lexeme ++ text)

namespace Scanner

/-! ## Reading to the end -/

/-- What comes of the rest of a text, from where the scanner is. -/
def read (scanner : Scanner) (text : List Char) : Option (List Token) :=
  (text.foldlM step scanner).bind finish

@[simp]
theorem read_nil (scanner : Scanner) : scanner.read [] = scanner.finish := rfl

theorem read_cons (scanner : Scanner) (c : Char) (text : List Char) :
    scanner.read (c :: text) = (scanner.step c).bind (·.read text) := by
  rw [read, List.foldlM_cons]
  cases scanner.step c <;> rfl

theorem read_of_step {scanner next : Scanner} {c : Char} (h : scanner.step c = some next)
    (text : List Char) : scanner.read (c :: text) = next.read text := by
  rw [read_cons, h, Option.bind_some]

/-! ## The tokens that are laid out are read -/

variable (before : List Token)

/-- A character that begins a number begins no other token. -/
theorem begin_of_first? {c : Char} {part : NumberPart} (h : NumberPart.first? c = some part) :
    begin before c = some { inside := .number part [c], tokens := before } := by
  have hchar : c = '-' ∨ c.isDigit = true := by
    by_cases hminus : c = '-'
    · exact .inl hminus
    · by_cases hzero : c = '0'
      · exact .inr (by simp [hzero])
      · right
        simp only [NumberPart.first?, hminus, hzero, if_false] at h
        exact (Option.ite_none_right_eq_some.mp h).1
  have hother : ∀ d : Char, d ≠ '-' → d.isDigit = false → c ≠ d := by
    rintro d hminus hdigit rfl
    rcases hchar with hchar | hchar
    · exact hminus hchar
    · rw [hdigit] at hchar
      cases hchar
  have hblank : isBlank c = false := by
    simp [isBlank, hother ' ' (by decide) (by decide), hother '\n' (by decide) (by decide),
      hother '\t' (by decide) (by decide), hother '\r' (by decide) (by decide)]
  have hmark : mark? c = none := by
    unfold mark?
    split
    all_goals first
      | rfl
      | exact absurd rfl (hother _ (by decide) (by decide))
  simp [begin, hblank, hmark, h, hother '"' (by decide) (by decide),
    hother 'n' (by decide) (by decide), hother 't' (by decide) (by decide),
    hother 'f' (by decide) (by decide)]

/-- The digits of a number are collected as long as it goes on. -/
theorem read_digits {part last : NumberPart} {more : List Char} (digits text : List Char)
    (h : more.foldlM NumberPart.next? part = some last) :
    read { inside := .number part digits, tokens := before } (more ++ text) =
      read { inside := .number last (more.reverse ++ digits), tokens := before } text := by
  induction more generalizing part digits with
  | nil =>
    cases h
    rfl
  | cons c more ih =>
    obtain ⟨next, hnext, hmore⟩ := Option.bind_eq_some_iff.mp h
    have hstep : step { inside := .number part digits, tokens := before } c =
        some { inside := .number next (c :: digits), tokens := before } := by
      simp only [step, hnext]
    rw [List.cons_append, read_of_step hstep, ih _ hmore, List.reverse_cons, List.append_assoc]
    rfl

/-- Where a number may end and does not go on, the text is read on as if the scanner were
between tokens. -/
theorem read_after_number {part : NumberPart} (digits : List Char) {text : List Char}
    (hend : part.isEnd = true) (hnext : ∀ c ∈ text.head?, part.next? c = none) :
    read { inside := .number part digits, tokens := before } text =
      read { tokens := .number digits.reverse :: before } text := by
  cases text with
  | nil => simp [finish, hend]
  | cons c text => simp [read_cons, step, hnext c rfl, hend]

theorem read_number {digits text : List Char} (hnumeral : IsNumeral digits)
    (hends : (number digits).EndsBefore text) :
    read { tokens := before } (digits ++ text) =
      read { tokens := .number digits :: before } text := by
  cases digits with
  | nil => exact absurd hnumeral not_isNumeral_nil
  | cons c digits =>
    obtain ⟨part, hfirst, hrest⟩ := (isNumeral_cons c digits).mp hnumeral
    obtain ⟨last, hlast, hend⟩ := (part.rest_iff digits).mp hrest
    have hover : ∀ d ∈ text.head?, last.next? d = none := by
      intro d hd
      refine (last.next?_eq_none_iff d).mpr fun more hmore => hends d hd more ?_
      rw [List.cons_append, isNumeral_cons]
      exact ⟨part, hfirst, (part.rest_append _ _).mpr ⟨last, hlast, hmore⟩⟩
    have hstep : step { tokens := before } c =
        some { inside := .number part [c], tokens := before } := begin_of_first? before hfirst
    rw [List.cons_append, read_of_step hstep, read_digits before [c] text hlast,
      read_after_number before _ hend hover]
    simp

/-- The digits of an escape by number. -/
theorem read_unit {digits : List Char} {value u : Nat} (pieces : List Literal.Piece)
    (text : List Char) (hne : digits ≠ [])
    (hvalue : Literal.hexNumber? value digits = some u) :
    read { inside := .unit pieces digits.length value, tokens := before } (digits ++ text) =
      read { inside := .string (.unit u :: pieces), tokens := before } text := by
  induction digits generalizing value with
  | nil => exact absurd rfl hne
  | cons c digits ih =>
    rw [Literal.hexNumber?_cons] at hvalue
    obtain ⟨digit, hdigit, hvalue⟩ := Option.bind_eq_some_iff.mp hvalue
    cases digits with
    | nil =>
      cases hvalue
      exact read_of_step (by simp [step, hdigit]) text
    | cons d digits =>
      have hstep :
          step { inside := .unit pieces (c :: d :: digits).length value, tokens := before } c =
            some { inside := .unit pieces (d :: digits).length (value * 16 + digit),
                   tokens := before } := by
        simp [step, hdigit]
      rw [List.cons_append, read_of_step hstep, ih (by simp) hvalue]

theorem read_piece {piece : Literal.Piece} {lexeme : List Char} (pieces : List Literal.Piece)
    (text : List Char) (h : piece.Spelled lexeme) :
    read { inside := .string pieces, tokens := before } (lexeme ++ text) =
      read { inside := .string (piece :: pieces), tokens := before } text := by
  cases h with
  | plain hquote hescape hcontrol =>
    exact read_of_step (by simp [step, hquote, hescape, hcontrol]) text
  | @escaped letter c h =>
    have hletter : letter ≠ 'u' := by
      rintro rfl
      exact absurd h (by simp [Literal.ofEscape?])
    have hstep : step { inside := .string pieces, tokens := before } '\\' =
        some { inside := .escape pieces, tokens := before } := rfl
    exact (read_of_step hstep _).trans (read_of_step (by simp [step, hletter, h]) text)
  | @unit digits u hlength hvalue =>
    have hstep : step { inside := .string pieces, tokens := before } '\\' =
        some { inside := .escape pieces, tokens := before } := rfl
    have hunit : step { inside := .escape pieces, tokens := before } 'u' =
        some { inside := .unit pieces digits.length 0, tokens := before } := by
      simp [step, hlength]
    have hne : digits ≠ [] := by
      rintro rfl
      cases hlength
    rw [List.cons_append, read_of_step hstep, List.cons_append, read_of_step hunit,
      read_unit before pieces text hne hvalue]

theorem read_row {pieces : List Literal.Piece} {row : List Char} (h : Literal.Row pieces row)
    (read' : List Literal.Piece) (text : List Char) :
    read { inside := .string read', tokens := before } (row ++ text) =
      read { inside := .string (pieces.reverse ++ read'), tokens := before } text := by
  induction h generalizing read' with
  | nil => rfl
  | @cons piece pieces lexeme rest hpiece _ ih =>
    rw [List.append_assoc, read_piece before read' _ hpiece, ih, List.reverse_cons,
      List.append_assoc]
    rfl

theorem read_string {literal : Literal} {lexeme : List Char} (h : literal.Spelled lexeme)
    (text : List Char) :
    read { tokens := before } (lexeme ++ text) =
      read { tokens := .string literal :: before } text := by
  obtain ⟨pieces, row, hrow, rfl, rfl⟩ := h
  have hopen : step { tokens := before } '"' =
      some { inside := .string [], tokens := before } := rfl
  have hclose : step { inside := .string (pieces.reverse ++ []), tokens := before } '"' =
      some { tokens := .string (Literal.ofPieces pieces) :: before } := by
    simp [step]
  rw [List.cons_append, read_of_step hopen, List.append_assoc, read_row before hrow]
  exact read_of_step hclose text

/-- One token is read from its spelling, wherever it is over. -/
theorem read_token {token : Token} {lexeme text : List Char} (h : token.Spelled lexeme)
    (hends : token.EndsBefore text) :
    read { tokens := before } (lexeme ++ text) = read { tokens := token :: before } text := by
  cases token with
  | number digits =>
    obtain ⟨rfl, hnumeral⟩ := h
    exact read_number before hnumeral hends
  | string literal => exact read_string before h text
  | bool value =>
    cases h
    cases value <;> rfl
  | openObject | closeObject | openArray | closeArray | colon | comma | null =>
    cases h
    rfl

theorem read_of_laid {tokens : List Token} {text : List Char} (h : Laid tokens text) :
    read { tokens := before } text = some (before.reverse ++ tokens) := by
  induction h generalizing before with
  | nil => simp [finish]
  | blank hblank _ ih =>
    rw [← ih before]
    exact read_of_step (by simp [step, begin, hblank]) _
  | token hspelled hends _ ih =>
    rw [read_token before hspelled hends, ih, List.reverse_cons, List.append_assoc]
    rfl

/-! ## What is read is laid out -/

/-- What a text holds that is read on from within a literal: the rest of the literal, and
then the other tokens. -/
def FollowsPieces (pieces : List Literal.Piece) (tokens : List Token) (text : List Char) : Prop :=
  ∃ rest row others more, Literal.Row rest row ∧ Laid others more ∧
    tokens = .string (Literal.ofPieces (pieces.reverse ++ rest)) :: others ∧
    text = row ++ '"' :: more

/-- What a text holds that is read on from within a token: the rest of that token, and
then the other tokens. -/
def Follows : Inside → List Token → List Char → Prop
  | .blank, tokens, text => Laid tokens text
  | .word rest token, tokens, text =>
    ∃ others more, Laid others more ∧ tokens = token :: others ∧ text = rest ++ more
  | .number part digits, tokens, text =>
    ∃ rest last others more, rest.foldlM NumberPart.next? part = some last ∧
      last.isEnd = true ∧ (∀ c ∈ more.head?, last.next? c = none) ∧ Laid others more ∧
      tokens = .number (digits.reverse ++ rest) :: others ∧ text = rest ++ more
  | .string pieces, tokens, text => FollowsPieces pieces tokens text
  | .escape pieces, tokens, text =>
    ∃ piece lexeme more, piece.Spelled ('\\' :: lexeme) ∧
      FollowsPieces (piece :: pieces) tokens more ∧ text = lexeme ++ more
  | .unit pieces missing value, tokens, text =>
    ∃ digits u more, digits.length = max missing 1 ∧ Literal.hexNumber? value digits = some u ∧
      FollowsPieces (.unit u :: pieces) tokens more ∧ text = digits ++ more

/-- Whether all tokens are those read so far and those that the text still holds. -/
def Reads (scanner : Scanner) (all : List Token) (text : List Char) : Prop :=
  ∃ tokens, all = scanner.tokens.reverse ++ tokens ∧ Follows scanner.inside tokens text

theorem reads_of_finish {scanner : Scanner} {all : List Token}
    (h : scanner.finish = some all) : scanner.Reads all [] := by
  obtain ⟨inside, before⟩ := scanner
  cases inside with
  | blank =>
    cases h
    exact ⟨[], by simp, .nil⟩
  | number part digits =>
    by_cases hend : part.isEnd = true
    · simp only [finish, hend, if_true, Option.some.injEq] at h
      subst h
      exact ⟨[.number digits.reverse], by simp, [], part, [], [], rfl, hend, by simp, .nil, by simp,
        rfl⟩
    · simp [finish, hend] at h
  | word | string | escape | unit => cases h

theorem followsPieces_cons {piece : Literal.Piece} {pieces : List Literal.Piece}
    {tokens : List Token} {lexeme text : List Char} (hpiece : piece.Spelled lexeme)
    (h : FollowsPieces (piece :: pieces) tokens text) :
    FollowsPieces pieces tokens (lexeme ++ text) := by
  obtain ⟨rest, row, others, more, hrow, hlaid, rfl, rfl⟩ := h
  exact ⟨piece :: rest, lexeme ++ row, others, more, hrow.cons hpiece, hlaid, by simp, by simp⟩

/-- What a character begins: nothing, a token that is over with it, or one of which it is
the first character. -/
theorem begin_cases {before : List Token} {c : Char} {next : Scanner}
    (h : begin before c = some next) :
    isBlank c = true ∧ next = { tokens := before } ∨
      (∃ token, token.Spelled [c] ∧ (∀ text, token.EndsBefore text) ∧
        next = { tokens := token :: before }) ∨
      c = '"' ∧ next = { inside := .string [], tokens := before } ∨
      (∃ rest token, token.Spelled (c :: rest) ∧ (∀ text, token.EndsBefore text) ∧
        next = { inside := .word rest token, tokens := before }) ∨
      ∃ part, NumberPart.first? c = some part ∧
        next = { inside := .number part [c], tokens := before } := by
  unfold begin at h
  split at h
  · rename_i hblank
    cases h
    exact .inl ⟨hblank, rfl⟩
  · split at h
    · rename_i token hmark
      cases h
      refine .inr (.inl ⟨token, ?_, ?_, rfl⟩)
      all_goals unfold mark? at hmark; split at hmark <;> cases hmark
      all_goals first
        | rfl
        | exact fun _ => trivial
    · -- No blank and no mark: a string, a word, or a number.
      by_cases hquote : c = '"'
      · rw [if_pos hquote] at h
        cases h
        exact .inr (.inr (.inl ⟨hquote, rfl⟩))
      rw [if_neg hquote] at h
      right; right; right
      by_cases hn : c = 'n'
      · rw [if_pos hn] at h
        cases h
        exact .inl ⟨_, .null, by rw [hn]; rfl, fun _ => trivial, rfl⟩
      rw [if_neg hn] at h
      by_cases ht : c = 't'
      · rw [if_pos ht] at h
        cases h
        exact .inl ⟨_, .bool true, by rw [ht]; rfl, fun _ => trivial, rfl⟩
      rw [if_neg ht] at h
      by_cases hf : c = 'f'
      · rw [if_pos hf] at h
        cases h
        exact .inl ⟨_, .bool false, by rw [hf]; rfl, fun _ => trivial, rfl⟩
      rw [if_neg hf, Option.map_eq_some_iff] at h
      obtain ⟨part, hfirst, rfl⟩ := h
      exact .inr ⟨part, hfirst, rfl⟩

/-- What follows the first character of a token is laid out with it. -/
theorem laid_of_begin {before all : List Token} {c : Char} {text : List Char} {next : Scanner}
    (hbegin : begin before c = some next) (h : next.Reads all text) :
    Reads { tokens := before } all (c :: text) := by
  rcases begin_cases hbegin with ⟨hblank, rfl⟩ | ⟨token, hspelled, hends, rfl⟩ | ⟨rfl, rfl⟩ |
    ⟨rest, token, hspelled, hends, rfl⟩ | ⟨part, hfirst, rfl⟩
  · obtain ⟨tokens, rfl, hlaid⟩ := h
    exact ⟨tokens, rfl, .blank hblank hlaid⟩
  · obtain ⟨tokens, rfl, hlaid⟩ := h
    exact ⟨token :: tokens, by simp, .token hspelled (hends text) hlaid⟩
  · obtain ⟨_, rfl, rest, row, others, more, hrow, hlaid, rfl, rfl⟩ := h
    refine ⟨_, rfl, ?_⟩
    have hspelled : Spelled (.string (Literal.ofPieces rest)) ('"' :: (row ++ ['"'])) :=
      ⟨rest, row, hrow, rfl, rfl⟩
    have htoken := Laid.token hspelled trivial hlaid
    rw [List.cons_append, List.append_assoc] at htoken
    exact htoken
  · obtain ⟨_, rfl, others, more, hlaid, rfl, rfl⟩ := h
    exact ⟨_, rfl, .token hspelled (hends more) hlaid⟩
  · obtain ⟨_, rfl, rest, last, others, more, hrest, hend, hover, hlaid, rfl, rfl⟩ := h
    have hnumeral : IsNumeral (c :: rest) :=
      (isNumeral_cons c rest).mpr ⟨part, hfirst, (part.rest_iff rest).mpr ⟨last, hrest, hend⟩⟩
    have hspelled : Spelled (.number (c :: rest)) (c :: rest) := ⟨rfl, hnumeral⟩
    refine ⟨_, rfl, .token hspelled ?_ hlaid⟩
    intro d hd further hlonger
    obtain ⟨part', hfirst', hlonger⟩ := (isNumeral_cons c _).mp hlonger
    rw [hfirst] at hfirst'
    cases hfirst'
    obtain ⟨last', hlast', hmore⟩ := (part.rest_append rest _).mp hlonger
    rw [hrest] at hlast'
    cases hlast'
    exact (last.next?_eq_none_iff d).mp (hover d hd) further hmore

theorem reads_of_step {scanner next : Scanner} {c : Char} {all : List Token} {text : List Char}
    (hstep : scanner.step c = some next) (h : next.Reads all text) :
    scanner.Reads all (c :: text) := by
  obtain ⟨inside, before⟩ := scanner
  cases inside with
  | blank => exact laid_of_begin hstep h
  | word rest token =>
    match rest with
    | [] => cases hstep
    | [last] =>
      by_cases hc : c = last
      · simp only [step, hc, if_true, Option.some.injEq] at hstep
        subst hstep
        obtain ⟨tokens, rfl, hlaid⟩ := h
        exact ⟨token :: tokens, by simp, tokens, text, hlaid, rfl, by simp [hc]⟩
      · simp [step, hc] at hstep
    | expected :: e :: rest =>
      by_cases hc : c = expected
      · simp only [step, hc, if_true, Option.some.injEq] at hstep
        subst hstep
        obtain ⟨tokens, rfl, others, more, hlaid, rfl, rfl⟩ := h
        exact ⟨token :: others, rfl, others, more, hlaid, rfl, by simp [hc]⟩
      · simp [step, hc] at hstep
  | number part digits =>
    cases hnext : part.next? c with
    | some goes =>
      simp only [step, hnext, Option.some.injEq] at hstep
      subst hstep
      obtain ⟨tokens, rfl, rest, last, others, more, hrest, hend, hover, hlaid, rfl, rfl⟩ := h
      refine ⟨_, rfl, c :: rest, last, others, more, ?_, hend, hover, hlaid, by simp, rfl⟩
      rw [List.foldlM_cons, hnext]
      exact hrest
    | none =>
      by_cases hend : part.isEnd = true
      · simp only [step, hnext, hend, if_true] at hstep
        obtain ⟨tokens, rfl, hlaid⟩ := laid_of_begin hstep h
        exact ⟨.number digits.reverse :: tokens, by simp, [], part, tokens, c :: text, rfl, hend,
          by simpa using hnext, hlaid, by simp, rfl⟩
      · simp [step, hnext, hend] at hstep
  | string pieces =>
    by_cases hquote : c = '"'
    · simp only [step, hquote, if_true, Option.some.injEq] at hstep
      subst hstep
      obtain ⟨tokens, rfl, hlaid⟩ := h
      exact ⟨.string (Literal.ofPieces pieces.reverse) :: tokens, by simp, [], [], tokens, text,
        .nil, hlaid, by simp, by simp [hquote]⟩
    · by_cases hescape : c = '\\'
      · subst hescape
        cases hstep
        obtain ⟨tokens, rfl, piece, lexeme, more, hpiece, hfollows, rfl⟩ := h
        exact ⟨tokens, rfl, followsPieces_cons hpiece hfollows⟩
      · by_cases hcontrol : c.toNat < 0x20
        · simp [step, hquote, hescape, hcontrol] at hstep
        · simp only [step, hquote, hescape, hcontrol, if_false, Option.some.injEq] at hstep
          subst hstep
          obtain ⟨tokens, rfl, hfollows⟩ := h
          exact ⟨tokens, rfl, followsPieces_cons (.plain hquote hescape hcontrol) hfollows⟩
  | escape pieces =>
    by_cases hletter : c = 'u'
    · simp only [step, hletter, if_true, Option.some.injEq] at hstep
      subst hstep
      obtain ⟨tokens, rfl, digits, u, more, hlength, hvalue, hfollows, rfl⟩ := h
      exact ⟨tokens, rfl, .unit u, 'u' :: digits, more, .unit hlength hvalue, hfollows,
        by simp [hletter]⟩
    · simp only [step, hletter, if_false, Option.map_eq_some_iff] at hstep
      obtain ⟨d, hescape, rfl⟩ := hstep
      obtain ⟨tokens, rfl, hfollows⟩ := h
      exact ⟨tokens, rfl, .char d, [c], text, .escaped hescape, hfollows, rfl⟩
  | unit pieces missing value =>
    simp only [step, Option.map_eq_some_iff] at hstep
    obtain ⟨digit, hdigit, rfl⟩ := hstep
    by_cases hlast : missing ≤ 1
    · simp only [hlast, if_true] at h
      obtain ⟨tokens, rfl, hfollows⟩ := h
      refine ⟨tokens, rfl, [c], value * 16 + digit, text, ?_, ?_, hfollows, rfl⟩
      · rw [List.length_singleton]
        omega
      · rw [Literal.hexNumber?_cons, hdigit]
        rfl
    · simp only [hlast, if_false] at h
      obtain ⟨tokens, rfl, digits, u, more, hlength, hvalue, hfollows, rfl⟩ := h
      refine ⟨tokens, rfl, c :: digits, u, more, ?_, ?_, hfollows, rfl⟩
      · rw [List.length_cons]
        omega
      · rw [Literal.hexNumber?_cons, hdigit, Option.bind_some, hvalue]

theorem reads_of_read {scanner : Scanner} {all : List Token} {text : List Char}
    (h : scanner.read text = some all) : scanner.Reads all text := by
  induction text generalizing scanner with
  | nil => exact reads_of_finish h
  | cons c text ih =>
    rw [read_cons] at h
    obtain ⟨next, hstep, hnext⟩ := Option.bind_eq_some_iff.mp h
    exact reads_of_step hstep (ih hnext)

end Scanner

/-- The scanner reads the tokens that are laid out in a text, and no other texts. -/
theorem scan_eq_some_iff (tokens : List Token) (text : List Char) :
    scan text = some tokens ↔ Laid tokens text := by
  constructor
  · intro h
    obtain ⟨rest, rfl, hlaid⟩ := Scanner.reads_of_read h
    exact hlaid
  · exact Scanner.read_of_laid []

end Token
end Json
end BlockBridge
