import BlockBridge.Json.Token

/-!
# Numerals

A JSON number is a sign, a whole part, a fraction and an exponent, of which only the
whole part must be there (`Json.IsNumeral`).  The scanner reads it character by
character and remembers only in which part it is.  So for each part there is a grammar
of what may still follow (`Json.Token.NumberPart.Rest`), and a character takes one
grammar to the next (`rest_cons`).

Main statements: the scanner comes to an end of a number exactly at the end of a numeral
(`Json.isNumeral_cons`, `NumberPart.rest_iff`), and it cannot read on exactly if no
numeral goes on like that (`NumberPart.next?_eq_none_iff`).
-/

namespace BlockBridge
namespace Json

/-! ## The grammar -/

/-- One decimal digit or more. -/
def IsDigits (text : List Char) : Prop :=
  text ≠ [] ∧ ∀ c ∈ text, c.isDigit = true

namespace Numeral

/-- The whole part of a number: digits, and a zero comes first only if it comes alone. -/
def Whole (text : List Char) : Prop :=
  IsDigits text ∧ (text.head? = some '0' → text = ['0'])

/-- The fraction of a number, if it has one. -/
def Fraction (text : List Char) : Prop :=
  text = [] ∨ ∃ digits, IsDigits digits ∧ text = '.' :: digits

/-- The sign of an exponent, if it has one. -/
def ExponentSign (text : List Char) : Prop :=
  text = [] ∨ text = ['+'] ∨ text = ['-']

/-- The exponent of a number, if it has one. -/
def Exponent (text : List Char) : Prop :=
  text = [] ∨ ∃ letter sign digits, (letter = 'e' ∨ letter = 'E') ∧ ExponentSign sign ∧
    IsDigits digits ∧ text = letter :: (sign ++ digits)

end Numeral

open Numeral in
/-- A number: perhaps a minus sign, the whole part, perhaps a fraction, and perhaps an
exponent. -/
def IsNumeral (text : List Char) : Prop :=
  ∃ sign whole fraction exponent, (sign = [] ∨ sign = ['-']) ∧ Whole whole ∧
    Fraction fraction ∧ Exponent exponent ∧ text = sign ++ (whole ++ (fraction ++ exponent))

theorem isDigits_cons {c : Char} {text : List Char} :
    IsDigits (c :: text) ↔ c.isDigit = true ∧ ∀ d ∈ text, d.isDigit = true := by
  simp [IsDigits]

theorem Numeral.whole_cons {c : Char} {text : List Char} :
    Whole (c :: text) ↔ c = '0' ∧ text = [] ∨
      c ≠ '0' ∧ c.isDigit = true ∧ ∀ d ∈ text, d.isDigit = true := by
  rw [Whole, isDigits_cons]
  by_cases hzero : c = '0'
  · subst hzero
    simp only [List.head?_cons, List.cons.injEq, true_and, forall_const, ne_eq, not_true_eq_false,
      false_and, or_false]
    constructor
    · exact fun h => h.2
    · rintro rfl
      exact ⟨⟨by decide, by simp⟩, rfl⟩
  · simp [hzero]

namespace Token
namespace NumberPart

open Numeral

/-! ## What may follow each part -/

/-- What may follow in a number of which some has been read. -/
def Rest (part : NumberPart) (text : List Char) : Prop :=
  match part with
  | sign => ∃ whole fraction exponent, Whole whole ∧ Fraction fraction ∧ Exponent exponent ∧
      text = whole ++ (fraction ++ exponent)
  | zero => ∃ fraction exponent, Fraction fraction ∧ Exponent exponent ∧
      text = fraction ++ exponent
  | whole => ∃ digits fraction exponent, (∀ c ∈ digits, c.isDigit = true) ∧ Fraction fraction ∧
      Exponent exponent ∧ text = digits ++ (fraction ++ exponent)
  | point => ∃ digits exponent, IsDigits digits ∧ Exponent exponent ∧ text = digits ++ exponent
  | fraction => ∃ digits exponent, (∀ c ∈ digits, c.isDigit = true) ∧ Exponent exponent ∧
      text = digits ++ exponent
  | exponent => ∃ sign digits, ExponentSign sign ∧ IsDigits digits ∧ text = sign ++ digits
  | exponentSign => IsDigits text
  | exponentDigits => ∀ c ∈ text, c.isDigit = true

theorem rest_nil (part : NumberPart) : part.Rest [] ↔ part.isEnd = true := by
  cases part with
  | sign =>
    -- A whole part is still to come, and it is not empty.
    refine iff_of_false ?_ (by simp [isEnd])
    rintro ⟨whole, _, _, hwhole, _, _, htext⟩
    exact hwhole.1.1 (List.append_eq_nil_iff.mp htext.symm).1
  | whole => exact iff_of_true ⟨[], [], [], by simp, .inl rfl, .inl rfl, rfl⟩ rfl
  | zero | point | fraction | exponent | exponentSign | exponentDigits =>
    simp [Rest, isEnd, Fraction, Exponent, IsDigits]

theorem exponent_cons {c : Char} {text : List Char} :
    Exponent (c :: text) ↔ (c = 'e' ∨ c = 'E') ∧ exponent.Rest text := by
  constructor
  · rintro (hnil | ⟨letter, sign, digits, hletter, hsign, hdigits, htext⟩)
    · cases hnil
    · obtain ⟨rfl, rfl⟩ := List.cons.inj htext
      exact ⟨hletter, sign, digits, hsign, hdigits, rfl⟩
  · rintro ⟨hletter, sign, digits, hsign, hdigits, rfl⟩
    exact .inr ⟨c, sign, digits, hletter, hsign, hdigits, rfl⟩

theorem rest_zero_cons {c : Char} {text : List Char} :
    zero.Rest (c :: text) ↔
      c = '.' ∧ point.Rest text ∨ (c = 'e' ∨ c = 'E') ∧ exponent.Rest text := by
  constructor
  · rintro ⟨fraction, exponent, hfraction | ⟨digits, hdigits, rfl⟩, hexponent, htext⟩
    · rw [hfraction, List.nil_append] at htext
      rw [← htext] at hexponent
      exact .inr (exponent_cons.mp hexponent)
    · obtain ⟨rfl, rfl⟩ := List.cons.inj htext
      exact .inl ⟨rfl, digits, exponent, hdigits, hexponent, rfl⟩
  · rintro (⟨rfl, digits, exponent, hdigits, hexponent, rfl⟩ | hexponent)
    · exact ⟨'.' :: digits, exponent, .inr ⟨digits, hdigits, rfl⟩, hexponent, rfl⟩
    · exact ⟨[], c :: text, .inl rfl, exponent_cons.mpr hexponent, rfl⟩

theorem rest_whole_cons {c : Char} {text : List Char} :
    whole.Rest (c :: text) ↔ c.isDigit = true ∧ whole.Rest text ∨ zero.Rest (c :: text) := by
  constructor
  · rintro ⟨_ | ⟨d, digits⟩, fraction, exponent, hdigits, hfraction, hexponent, htext⟩
    · exact .inr ⟨fraction, exponent, hfraction, hexponent, htext⟩
    · obtain ⟨rfl, rfl⟩ := List.cons.inj htext
      obtain ⟨hfirst, hrest⟩ := List.forall_mem_cons.mp hdigits
      exact .inl ⟨hfirst, digits, fraction, exponent, hrest, hfraction, hexponent, rfl⟩
  · rintro (⟨hfirst, digits, fraction, exponent, hrest, hfraction, hexponent, rfl⟩ |
      ⟨fraction, exponent, hfraction, hexponent, htext⟩)
    · exact ⟨c :: digits, fraction, exponent, List.forall_mem_cons.mpr ⟨hfirst, hrest⟩, hfraction,
        hexponent, rfl⟩
    · exact ⟨[], fraction, exponent, by simp, hfraction, hexponent, htext⟩

theorem rest_sign_cons {c : Char} {text : List Char} :
    sign.Rest (c :: text) ↔
      c = '0' ∧ zero.Rest text ∨ c ≠ '0' ∧ c.isDigit = true ∧ whole.Rest text := by
  constructor
  · rintro ⟨_ | ⟨d, digits⟩, fraction, exponent, hwhole, hfraction, hexponent, htext⟩
    · exact absurd rfl hwhole.1.1
    · obtain ⟨rfl, rfl⟩ := List.cons.inj htext
      rcases whole_cons.mp hwhole with ⟨rfl, rfl⟩ | ⟨hzero, hfirst, hrest⟩
      · exact .inl ⟨rfl, fraction, exponent, hfraction, hexponent, rfl⟩
      · exact .inr ⟨hzero, hfirst, digits, fraction, exponent, hrest, hfraction, hexponent, rfl⟩
  · rintro (⟨rfl, fraction, exponent, hfraction, hexponent, rfl⟩ |
      ⟨hzero, hfirst, digits, fraction, exponent, hrest, hfraction, hexponent, rfl⟩)
    · exact ⟨['0'], fraction, exponent, whole_cons.mpr (.inl ⟨rfl, rfl⟩), hfraction, hexponent, rfl⟩
    · exact ⟨c :: digits, fraction, exponent, whole_cons.mpr (.inr ⟨hzero, hfirst, hrest⟩),
        hfraction, hexponent, rfl⟩

theorem rest_fraction_cons {c : Char} {text : List Char} :
    fraction.Rest (c :: text) ↔
      c.isDigit = true ∧ fraction.Rest text ∨ (c = 'e' ∨ c = 'E') ∧ exponent.Rest text := by
  constructor
  · rintro ⟨_ | ⟨d, digits⟩, exponent, hdigits, hexponent, htext⟩
    · rw [List.nil_append] at htext
      rw [← htext] at hexponent
      exact .inr (exponent_cons.mp hexponent)
    · obtain ⟨rfl, rfl⟩ := List.cons.inj htext
      obtain ⟨hfirst, hrest⟩ := List.forall_mem_cons.mp hdigits
      exact .inl ⟨hfirst, digits, exponent, hrest, hexponent, rfl⟩
  · rintro (⟨hfirst, digits, exponent, hrest, hexponent, rfl⟩ | hexponent)
    · exact ⟨c :: digits, exponent, List.forall_mem_cons.mpr ⟨hfirst, hrest⟩, hexponent, rfl⟩
    · exact ⟨[], c :: text, by simp, exponent_cons.mpr hexponent, rfl⟩

theorem rest_point_cons {c : Char} {text : List Char} :
    point.Rest (c :: text) ↔ c.isDigit = true ∧ fraction.Rest text := by
  constructor
  · rintro ⟨_ | ⟨d, digits⟩, exponent, hdigits, hexponent, htext⟩
    · exact absurd rfl hdigits.1
    · obtain ⟨rfl, rfl⟩ := List.cons.inj htext
      obtain ⟨hfirst, hrest⟩ := isDigits_cons.mp hdigits
      exact ⟨hfirst, digits, exponent, hrest, hexponent, rfl⟩
  · rintro ⟨hfirst, digits, exponent, hrest, hexponent, rfl⟩
    exact ⟨c :: digits, exponent, isDigits_cons.mpr ⟨hfirst, hrest⟩, hexponent, rfl⟩

theorem rest_exponent_cons {c : Char} {text : List Char} :
    exponent.Rest (c :: text) ↔
      c.isDigit = true ∧ exponentDigits.Rest text ∨
        (c = '+' ∨ c = '-') ∧ exponentSign.Rest text := by
  constructor
  · rintro ⟨sign, digits, rfl | rfl | rfl, hdigits, htext⟩
    · rw [List.nil_append] at htext
      rw [← htext] at hdigits
      exact .inl (isDigits_cons.mp hdigits)
    · obtain ⟨rfl, rfl⟩ := List.cons.inj htext
      exact .inr ⟨.inl rfl, hdigits⟩
    · obtain ⟨rfl, rfl⟩ := List.cons.inj htext
      exact .inr ⟨.inr rfl, hdigits⟩
  · rintro (hdigits | ⟨rfl | rfl, hdigits⟩)
    · exact ⟨[], c :: text, .inl rfl, isDigits_cons.mpr hdigits, rfl⟩
    · exact ⟨['+'], text, .inr (.inl rfl), hdigits, rfl⟩
    · exact ⟨['-'], text, .inr (.inr rfl), hdigits, rfl⟩

/-! ## One character after the other -/

/-- A digit is none of the other characters of a number. -/
theorem ne_of_isDigit {c : Char} (h : c.isDigit = true) :
    c ≠ '.' ∧ c ≠ 'e' ∧ c ≠ 'E' ∧ c ≠ '+' ∧ c ≠ '-' := by
  refine ⟨?_, ?_, ?_, ?_, ?_⟩ <;> (rintro rfl; exact absurd h (by decide))

/-- A number goes on with a character exactly if the part that this leads to may be
followed by the rest. -/
theorem rest_cons (part : NumberPart) (c : Char) (text : List Char) :
    part.Rest (c :: text) ↔ ∃ next, part.next? c = some next ∧ next.Rest text := by
  have hdigit : '0'.isDigit = true := by decide
  cases part with
  | sign =>
    rw [rest_sign_cons, next?]
    by_cases hzero : c = '0'
    · simp [hzero]
    · by_cases hfirst : c.isDigit = true
      · simp [hzero, hfirst]
      · simp [hzero, hfirst]
  | zero =>
    rw [rest_zero_cons, next?]
    by_cases hpoint : c = '.'
    · simp [hpoint]
    · by_cases hletter : c = 'e' ∨ c = 'E'
      · simp [hpoint, hletter]
      · simp [hpoint, hletter]
  | whole =>
    rw [rest_whole_cons, rest_zero_cons, next?]
    by_cases hfirst : c.isDigit = true
    · simp [hfirst, ne_of_isDigit hfirst]
    · by_cases hpoint : c = '.'
      · simp [hpoint]
      · by_cases hletter : c = 'e' ∨ c = 'E'
        · simp [hfirst, hpoint, hletter]
        · simp [hfirst, hpoint, hletter]
  | point =>
    rw [rest_point_cons, next?]
    by_cases hfirst : c.isDigit = true
    · simp [hfirst]
    · simp [hfirst]
  | fraction =>
    rw [rest_fraction_cons, next?]
    by_cases hfirst : c.isDigit = true
    · simp [hfirst, ne_of_isDigit hfirst]
    · by_cases hletter : c = 'e' ∨ c = 'E'
      · simp [hfirst, hletter]
      · simp [hfirst, hletter]
  | exponent =>
    rw [rest_exponent_cons, next?]
    by_cases hfirst : c.isDigit = true
    · simp [hfirst, ne_of_isDigit hfirst]
    · by_cases hsign : c = '+' ∨ c = '-'
      · simp [hfirst, hsign]
      · simp [hfirst, hsign]
  | exponentSign =>
    have hcons : exponentSign.Rest (c :: text) ↔ c.isDigit = true ∧ exponentDigits.Rest text :=
      isDigits_cons
    rw [hcons, next?]
    by_cases hfirst : c.isDigit = true
    · simp [hfirst]
    · simp [hfirst]
  | exponentDigits =>
    have hcons : exponentDigits.Rest (c :: text) ↔ c.isDigit = true ∧ exponentDigits.Rest text :=
      List.forall_mem_cons
    rw [hcons, next?]
    by_cases hfirst : c.isDigit = true
    · simp [hfirst]
    · simp [hfirst]

/-- What may follow a part is what the scanner reads to its end, and then what may
follow the part that it has come to. -/
theorem rest_append (part : NumberPart) (text more : List Char) :
    part.Rest (text ++ more) ↔
      ∃ last, text.foldlM next? part = some last ∧ last.Rest more := by
  induction text generalizing part with
  | nil => simp
  | cons c text ih =>
    rw [List.cons_append, rest_cons, List.foldlM_cons]
    cases part.next? c with
    | none => simp
    | some next => simpa using ih next

theorem rest_iff (part : NumberPart) (text : List Char) :
    part.Rest text ↔ ∃ last, text.foldlM next? part = some last ∧ last.isEnd = true := by
  simpa only [List.append_nil, rest_nil] using part.rest_append text []

/-- Every number that was begun can be brought to an end. -/
theorem exists_rest (part : NumberPart) : ∃ text, part.Rest text := by
  have hzero : IsDigits ['0'] := ⟨by simp, by simp⟩
  cases part with
  | sign => exact ⟨['0'], ['0'], [], [], ⟨hzero, fun _ => rfl⟩, .inl rfl, .inl rfl, rfl⟩
  | zero => exact ⟨[], [], [], .inl rfl, .inl rfl, rfl⟩
  | whole => exact ⟨[], [], [], [], by simp, .inl rfl, .inl rfl, rfl⟩
  | point => exact ⟨['0'], ['0'], [], hzero, .inl rfl, rfl⟩
  | fraction => exact ⟨[], [], [], by simp, .inl rfl, rfl⟩
  | exponent => exact ⟨['0'], [], ['0'], .inl rfl, hzero, rfl⟩
  | exponentSign => exact ⟨['0'], hzero⟩
  | exponentDigits => exact ⟨[], by simp [Rest]⟩

/-- The scanner cannot read on exactly where no number goes on with the character. -/
theorem next?_eq_none_iff (part : NumberPart) (c : Char) :
    part.next? c = none ↔ ∀ more, ¬part.Rest (c :: more) := by
  constructor
  · intro hnone more hrest
    obtain ⟨next, hnext, _⟩ := (part.rest_cons c more).mp hrest
    rw [hnone] at hnext
    cases hnext
  · intro hnever
    cases hnext : part.next? c with
    | none => rfl
    | some next =>
      obtain ⟨more, hmore⟩ := next.exists_rest
      exact absurd ((part.rest_cons c more).mpr ⟨next, hnext, hmore⟩) (hnever more)

end NumberPart
end Token

/-! ## Whole numerals -/

open Token NumberPart

theorem not_isNumeral_nil : ¬IsNumeral [] := by
  rintro ⟨sign, whole, fraction, exponent, _, hwhole, _, _, htext⟩
  have hnil := (List.append_eq_nil_iff.mp (List.append_eq_nil_iff.mp htext.symm).2).1
  exact hwhole.1.1 hnil

/-- A numeral is a character that begins one, and what may follow that. -/
theorem isNumeral_cons (c : Char) (text : List Char) :
    IsNumeral (c :: text) ↔ ∃ part, first? c = some part ∧ part.Rest text := by
  have hsplit : IsNumeral (c :: text) ↔
      c = '-' ∧ sign.Rest text ∨ sign.Rest (c :: text) := by
    constructor
    · rintro ⟨_, whole, fraction, exponent, rfl | rfl, hwhole, hfraction, hexponent, htext⟩
      · exact .inr ⟨whole, fraction, exponent, hwhole, hfraction, hexponent, htext⟩
      · obtain ⟨rfl, rfl⟩ := List.cons.inj htext
        exact .inl ⟨rfl, whole, fraction, exponent, hwhole, hfraction, hexponent, rfl⟩
    · rintro (⟨rfl, whole, fraction, exponent, hwhole, hfraction, hexponent, rfl⟩ |
        ⟨whole, fraction, exponent, hwhole, hfraction, hexponent, htext⟩)
      · exact ⟨['-'], whole, fraction, exponent, .inr rfl, hwhole, hfraction, hexponent, rfl⟩
      · exact ⟨[], whole, fraction, exponent, .inl rfl, hwhole, hfraction, hexponent, htext⟩
  have hminus : '-'.isDigit = false := by decide
  rw [hsplit, rest_sign_cons, first?]
  by_cases hsign : c = '-'
  · simp [hsign, hminus]
  · by_cases hzero : c = '0'
    · simp [hzero]
    · by_cases hfirst : c.isDigit = true
      · simp [hsign, hzero, hfirst]
      · simp [hsign, hzero, hfirst]

/-- The characters of a numeral. -/
theorem IsNumeral.mem_chars {text : List Char} (h : IsNumeral text) {c : Char} (hc : c ∈ text) :
    c.isDigit = true ∨ c ∈ ['-', '+', '.', 'e', 'E'] := by
  obtain ⟨sign, whole, fraction, exponent, hsign, hwhole, hfraction, hexponent, rfl⟩ := h
  simp only [List.mem_append] at hc
  rcases hc with hc | hc | hc | hc
  · rcases hsign with rfl | rfl
    · simp at hc
    · simp_all
  · exact .inl (hwhole.1.2 c hc)
  · rcases hfraction with rfl | ⟨digits, hdigits, rfl⟩
    · simp at hc
    · rcases List.mem_cons.mp hc with rfl | hmem
      · simp
      · exact .inl (hdigits.2 c hmem)
  · rcases hexponent with rfl | ⟨letter, sign, digits, hletter, hsign, hdigits, rfl⟩
    · simp at hc
    · rcases List.mem_cons.mp hc with rfl | hmem
      · rcases hletter with rfl | rfl <;> simp
      · rcases List.mem_append.mp hmem with hmem | hmem
        · rcases hsign with rfl | rfl | rfl <;> simp_all
        · exact .inl (hdigits.2 c hmem)

end Json
end BlockBridge
