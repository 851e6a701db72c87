import BlockBridge.Json.Tree
import BlockBridge.Proofs.Json.Lexing

/-!
# Texts that spell a value

A value has one row of tokens, and a text spells the value if these tokens are laid out
in it (`Json.Spells`).  The builder is taken through the tokens of a value by recursion
over the value (`Json.Builder.run_tokens`).  The other way, what has been built so far
always shows the tokens that were read (`Json.Builder.tokensRead_of_step`).

Main statement: `Json.parse_eq_some_iff`.
-/

namespace BlockBridge
namespace Json

/-- The texts that spell a value. -/
def Spells (value : Json) (text : String) : Prop :=
  Token.Laid value.tokens text.toList

/-! ## Parts of a container -/

/-- The tokens of items each of which another item follows. -/
def itemsBefore (items : List Json) : List Token :=
  items.flatMap fun item => item.tokens ++ [.comma]

/-- The tokens of members each of which another member follows. -/
def membersBefore (members : List (Literal × Json)) : List Token :=
  members.flatMap fun member => .string member.1 :: .colon :: (member.2.tokens ++ [.comma])

theorem itemTokens_cons (item : Json) {rest : List Json} (h : rest ≠ []) :
    itemTokens (item :: rest) = item.tokens ++ .comma :: itemTokens rest := by
  cases rest with
  | nil => exact absurd rfl h
  | cons next rest => rw [itemTokens]; simp

theorem memberTokens_cons (key : Literal) (value : Json) {rest : List (Literal × Json)}
    (h : rest ≠ []) :
    memberTokens ((key, value) :: rest) =
      .string key :: .colon :: (value.tokens ++ .comma :: memberTokens rest) := by
  cases rest with
  | nil => exact absurd rfl h
  | cons next rest => rw [memberTokens]; simp

theorem itemTokens_append (items : List Json) (last : Json) :
    itemTokens (items ++ [last]) = itemsBefore items ++ last.tokens := by
  induction items with
  | nil => simp [itemTokens, itemsBefore]
  | cons item items ih =>
    rw [List.cons_append, itemTokens_cons item (by simp), ih]
    simp [itemsBefore]

theorem memberTokens_append (members : List (Literal × Json)) (key : Literal) (last : Json) :
    memberTokens (members ++ [(key, last)]) =
      membersBefore members ++ .string key :: .colon :: last.tokens := by
  induction members with
  | nil => simp [memberTokens, membersBefore]
  | cons member members ih =>
    rw [List.cons_append, memberTokens_cons _ _ (by simp), ih]
    simp [membersBefore]

namespace Builder

/-- Read a row of tokens. -/
def run (builder : Builder) (tokens : List Token) : Option Builder :=
  tokens.foldlM step builder

@[simp]
theorem run_nil (builder : Builder) : builder.run [] = some builder := rfl

theorem run_cons (builder : Builder) (token : Token) (tokens : List Token) :
    builder.run (token :: tokens) = (builder.step token).bind (·.run tokens) := by
  rw [run, List.foldlM_cons]
  rfl

theorem run_of_step {builder next : Builder} {token : Token}
    (h : builder.step token = some next) (tokens : List Token) :
    builder.run (token :: tokens) = next.run tokens := by
  rw [run_cons, h, Option.bind_some]

/-! ## The tokens of a value are read -/

/-- Whether a value may begin here, in the given containers. -/
def Awaits (builder : Builder) (opened : List Opened) : Prop :=
  ∀ token, token ≠ .closeArray → builder.step token = begin opened token

theorem awaits_value (opened : List Opened) : Awaits ⟨opened, .value⟩ opened :=
  fun _ _ => rfl

theorem awaits_firstItem (opened : List Opened) :
    Awaits ⟨opened, .firstItem⟩ (.array [] :: opened) := by
  intro token h
  cases token with
  | closeArray => exact absurd rfl h
  | _ => rfl

/-- Whether a key may come here, after the given members. -/
def AwaitsKey (builder : Builder) (opened : List Opened) (before : List (Literal × Json)) : Prop :=
  ∀ key, builder.step (.string key) = some ⟨opened, .colon before key⟩

mutual

/-- The tokens of a value take the builder past that value. -/
theorem run_tokens {builder : Builder} {opened : List Opened} (h : builder.Awaits opened)
    (value : Json) (rest : List Token) :
    builder.run (value.tokens ++ rest) = run ⟨opened, .after value⟩ rest := by
  match value with
  | .null | .bool _ | .number _ | .string _ => exact run_of_step (h _ (by simp)) rest
  | .array [] =>
    have hopen : builder.step .openArray = some ⟨opened, .firstItem⟩ := h _ (by simp)
    exact run_of_step hopen _
  | .array (item :: items) =>
    have hopen : builder.step .openArray = some ⟨opened, .firstItem⟩ := h _ (by simp)
    rw [tokens, List.cons_append, run_of_step hopen, List.append_assoc]
    exact run_itemTokens (awaits_firstItem opened) (item :: items) (by simp) rest
  | .object [] =>
    have hopen : builder.step .openObject = some ⟨opened, .firstKey⟩ := h _ (by simp)
    exact run_of_step hopen _
  | .object (member :: members) =>
    have hopen : builder.step .openObject = some ⟨opened, .firstKey⟩ := h _ (by simp)
    have hkey : AwaitsKey ⟨opened, .firstKey⟩ opened [] := fun _ => rfl
    rw [tokens, List.cons_append, run_of_step hopen, List.append_assoc]
    exact run_memberTokens hkey (member :: members) (by simp) rest

/-- The items of an array that are still to come, and its end. -/
theorem run_itemTokens {builder : Builder} {opened : List Opened} {before : List Json}
    (h : builder.Awaits (.array before :: opened)) (items : List Json) (hne : items ≠ [])
    (rest : List Token) :
    builder.run (itemTokens items ++ .closeArray :: rest) =
      run ⟨opened, .after (.array (before.reverse ++ items))⟩ rest := by
  match items with
  | [] => exact absurd rfl hne
  | [item] =>
    rw [itemTokens, run_tokens h item]
    have hclose : step ⟨.array before :: opened, .after item⟩ .closeArray =
        some ⟨opened, .after (.array (item :: before).reverse)⟩ := rfl
    rw [run_of_step hclose, List.reverse_cons]
  | item :: next :: items =>
    have hcomma : step ⟨.array before :: opened, .after item⟩ .comma =
        some ⟨.array (item :: before) :: opened, .value⟩ := rfl
    rw [itemTokens_cons item (by simp), List.append_assoc, run_tokens h item, List.cons_append,
      run_of_step hcomma, run_itemTokens (awaits_value _) (next :: items) (by simp) rest,
      List.reverse_cons, List.append_assoc]
    rfl

/-- The members of an object that are still to come, and its end. -/
theorem run_memberTokens {builder : Builder} {opened : List Opened}
    {before : List (Literal × Json)} (h : builder.AwaitsKey opened before)
    (members : List (Literal × Json)) (hne : members ≠ []) (rest : List Token) :
    builder.run (memberTokens members ++ .closeObject :: rest) =
      run ⟨opened, .after (.object (before.reverse ++ members))⟩ rest := by
  match members with
  | [] => exact absurd rfl hne
  | [(key, value)] =>
    have hcolon : step ⟨opened, .colon before key⟩ .colon =
        some ⟨.object before key :: opened, .value⟩ := rfl
    have hclose : step ⟨.object before key :: opened, .after value⟩ .closeObject =
        some ⟨opened, .after (.object ((key, value) :: before).reverse)⟩ := rfl
    rw [memberTokens, List.cons_append, run_of_step (h key), List.cons_append, run_of_step hcolon,
      run_tokens (awaits_value _) value, run_of_step hclose, List.reverse_cons]
  | (key, value) :: next :: members =>
    have hcolon : step ⟨opened, .colon before key⟩ .colon =
        some ⟨.object before key :: opened, .value⟩ := rfl
    have hcomma : step ⟨.object before key :: opened, .after value⟩ .comma =
        some ⟨opened, .key ((key, value) :: before)⟩ := rfl
    have hkey : AwaitsKey ⟨opened, .key ((key, value) :: before)⟩ opened
        ((key, value) :: before) := fun _ => rfl
    rw [memberTokens_cons key value (by simp), List.cons_append, run_of_step (h key),
      List.cons_append, run_of_step hcolon, List.append_assoc, run_tokens (awaits_value _) value,
      List.cons_append, run_of_step hcomma, run_memberTokens hkey (next :: members) (by simp) rest,
      List.reverse_cons, List.append_assoc]
    rfl

end

/-! ## What is built shows what was read -/

/-- The tokens of a container that is still open, up to the value that is being read. -/
def openedTokens : Opened → List Token
  | .array items => .openArray :: itemsBefore items.reverse
  | .object members key =>
    .openObject :: (membersBefore members.reverse ++ [.string key, .colon])

/-- The tokens read since the innermost container that a value of its own has begun. -/
def expectedTokens : Expected → List Token
  | .value => []
  | .firstItem => [.openArray]
  | .firstKey => [.openObject]
  | .key members => .openObject :: membersBefore members.reverse
  | .colon members key => .openObject :: (membersBefore members.reverse ++ [.string key])
  | .after value => value.tokens

/-- The tokens read so far. -/
def tokensRead (builder : Builder) : List Token :=
  builder.opened.reverse.flatMap openedTokens ++ expectedTokens builder.expected

theorem tokensRead_of_begin {opened : List Opened} {token : Token} {next : Builder}
    (h : begin opened token = some next) :
    next.tokensRead = opened.reverse.flatMap openedTokens ++ [token] := by
  cases token <;> cases h <;> rfl

theorem tokensRead_of_step {builder next : Builder} {token : Token}
    (h : builder.step token = some next) : next.tokensRead = builder.tokensRead ++ [token] := by
  obtain ⟨opened, expected⟩ := builder
  cases expected with
  | value =>
    rw [tokensRead_of_begin h]
    simp [tokensRead, expectedTokens]
  | firstItem =>
    by_cases hclose : token = .closeArray
    · subst hclose
      cases h
      simp [tokensRead, expectedTokens, tokens, itemTokens]
    · rw [awaits_firstItem opened token hclose] at h
      rw [tokensRead_of_begin h]
      simp [tokensRead, expectedTokens, openedTokens, itemsBefore]
  | firstKey =>
    cases token with
    | closeObject =>
      cases h
      simp [tokensRead, expectedTokens, tokens, memberTokens]
    | string key =>
      cases h
      simp [tokensRead, expectedTokens, membersBefore]
    | _ => cases h
  | key members =>
    cases token with
    | string key =>
      cases h
      simp [tokensRead, expectedTokens]
    | _ => cases h
  | colon members key =>
    cases token with
    | colon =>
      cases h
      simp [tokensRead, expectedTokens, openedTokens]
    | _ => cases h
  | after value =>
    match opened, token with
    | .array items :: opened, .comma =>
      cases h
      simp [tokensRead, expectedTokens, openedTokens, itemsBefore]
    | .array items :: opened, .closeArray =>
      cases h
      simp [tokensRead, expectedTokens, openedTokens, tokens, itemTokens_append]
    | .object members key :: opened, .comma =>
      cases h
      simp [tokensRead, expectedTokens, openedTokens, membersBefore]
    | .object members key :: opened, .closeObject =>
      cases h
      simp [tokensRead, expectedTokens, openedTokens, tokens, memberTokens_append]

theorem tokensRead_of_run {builder next : Builder} {tokens : List Token}
    (h : builder.run tokens = some next) : next.tokensRead = builder.tokensRead ++ tokens := by
  induction tokens generalizing builder with
  | nil =>
    cases h
    simp
  | cons token tokens ih =>
    rw [run_cons] at h
    obtain ⟨between, hstep, hrun⟩ := Option.bind_eq_some_iff.mp h
    rw [ih hrun, tokensRead_of_step hstep, List.append_assoc]
    rfl

end Builder

/-- A row of tokens is read as the value whose tokens they are. -/
theorem ofTokens?_eq_some_iff (tokens : List Token) (value : Json) :
    ofTokens? tokens = some value ↔ tokens = value.tokens := by
  constructor
  · intro h
    obtain ⟨⟨opened, expected⟩, hrun, hfinish⟩ := Option.bind_eq_some_iff.mp h
    have hread := Builder.tokensRead_of_run hrun
    unfold Builder.finish at hfinish
    split at hfinish
    · cases hfinish
      rename_i heq
      cases heq
      exact hread.symm
    · cases hfinish
  · rintro rfl
    have hrun := Builder.run_tokens (Builder.awaits_value []) value []
    rw [List.append_nil] at hrun
    exact Option.bind_eq_some_iff.mpr ⟨_, hrun, rfl⟩

/-- A text is read as a value exactly if it spells that value. -/
theorem parse_eq_some_iff (text : String) (value : Json) :
    parse text = some value ↔ value.Spells text := by
  rw [parse, Option.bind_eq_some_iff]
  simp only [Token.scan_eq_some_iff, ofTokens?_eq_some_iff]
  constructor
  · rintro ⟨_, hlaid, rfl⟩
    exact hlaid
  · exact fun h => ⟨_, h, rfl⟩

end Json
end BlockBridge
