/-
Decimal literals: digits with a fraction or without, or a fraction alone, behind a sign or none and
in front of an exponent or none. A literal is held in its parts, from which its text and its value
are read off. The text gives the parts back (`chars_injective`), so that the value is one of the
text.
-/
import AnnotatedEntity.Proofs.Text.Cut
import AnnotatedEntity.Text.Integer
import Mathlib.Data.Rat.Defs
import Mathlib.Tactic.NormNum

namespace AnnotatedEntity

/-! ## Parts of a literal -/

/-- The sign in front of a number, if there is one. -/
inductive NumberSign where
  | absent
  | plus
  | minus
deriving Repr, DecidableEq

namespace NumberSign

def chars : NumberSign → List Char
  | absent => []
  | plus => ['+']
  | minus => ['-']

def factor : NumberSign → Int
  | minus => -1
  | _ => 1

end NumberSign

/-- Decimal digits, perhaps none. -/
@[ext]
structure DigitRow where
  chars : List Char
  allDigits : ∀ c ∈ chars, c.isDigit = true

def DigitRow.value (d : DigitRow) : Nat := Text.digitsValue 10 d.chars

/-- A power of ten by which a number is scaled, with the mark in front of it. -/
@[ext]
structure DecimalExponent where
  mark : Char
  sign : NumberSign
  digits : DigitRow
  isMark : mark = 'e' ∨ mark = 'E'
  nonempty : digits.chars ≠ []

namespace DecimalExponent

def chars (e : DecimalExponent) : List Char := e.mark :: (e.sign.chars ++ e.digits.chars)

def value (e : DecimalExponent) : Int := e.sign.factor * e.digits.value

end DecimalExponent

@[ext]
structure DecimalLiteral where
  sign : NumberSign
  whole : DigitRow
  /-- What stands behind the point, if there is a point. -/
  fraction : Option DigitRow
  exponent : Option DecimalExponent
  nonempty : whole.chars ≠ [] ∨ ∃ digits ∈ fraction, digits.chars ≠ []

namespace DecimalLiteral

/-- The fraction with its point. -/
def fractionChars (l : DecimalLiteral) : List Char :=
  match l.fraction with
  | some digits => '.' :: digits.chars
  | none => []

def exponentChars (l : DecimalLiteral) : List Char :=
  match l.exponent with
  | some e => e.chars
  | none => []

/-- The literal up to its exponent. -/
def mantissaChars (l : DecimalLiteral) : List Char :=
  l.sign.chars ++ (l.whole.chars ++ l.fractionChars)

def chars (l : DecimalLiteral) : List Char := l.mantissaChars ++ l.exponentChars

/-- The literal as it is written. -/
def text (l : DecimalLiteral) : String := String.ofList l.chars

def fractionValue (l : DecimalLiteral) : ℚ :=
  match l.fraction with
  | some digits => digits.value / 10 ^ digits.chars.length
  | none => 0

def exponentValue (l : DecimalLiteral) : Int :=
  match l.exponent with
  | some e => e.value
  | none => 0

/-- There is a digit behind the point, if there is a point. -/
def PointClosed (l : DecimalLiteral) : Prop := ∀ digits ∈ l.fraction, digits.chars ≠ []

/-- The number that the literal denotes. -/
def value (l : DecimalLiteral) : ℚ :=
  l.sign.factor * (l.whole.value + l.fractionValue) * 10 ^ l.exponentValue

end DecimalLiteral

/-! ## Characters of the parts -/

/-- The character is a sign in front of a number. -/
def isSign (c : Char) : Bool := c = '+' || c = '-'

/-- The character begins an exponent. -/
def isExponentMark (c : Char) : Bool := c = 'e' || c = 'E'

theorem isSign_of_mem_chars {s : NumberSign} : ∀ c ∈ s.chars, isSign c = true := by
  cases s <;> simp [NumberSign.chars, isSign]

theorem isSign_eq_false_of_isDigit {c : Char} (h : c.isDigit = true) : isSign c = false := by
  rw [isSign, Bool.or_eq_false_iff, decide_eq_false_iff_not, decide_eq_false_iff_not]
  constructor <;> rintro rfl <;> exact absurd h (by decide)

theorem isExponentMark_eq_false_of_isDigit {c : Char} (h : c.isDigit = true) :
    isExponentMark c = false := by
  rw [isExponentMark, Bool.or_eq_false_iff, decide_eq_false_iff_not, decide_eq_false_iff_not]
  constructor <;> rintro rfl <;> exact absurd h (by decide)

theorem DigitRow.not_mem_point (d : DigitRow) : '.' ∉ d.chars :=
  fun h => absurd (d.allDigits '.' h) (by decide)

theorem NumberSign.not_mem_point (s : NumberSign) : '.' ∉ s.chars := by
  cases s <;> decide

/-- A sign is told apart from what follows it. -/
theorem NumberSign.append_inj {s s' : NumberSign} {rest rest' : List Char}
    (hrest : ∀ c ∈ rest.head?, isSign c = false) (hrest' : ∀ c ∈ rest'.head?, isSign c = false)
    (h : s.chars ++ rest = s'.chars ++ rest') : s = s' ∧ rest = rest' := by
  obtain ⟨hsign, hrest⟩ :=
    Text.append_inj_of_head isSign_of_mem_chars isSign_of_mem_chars hrest hrest' h
  refine ⟨?_, hrest⟩
  cases s <;> cases s' <;> first | rfl | cases hsign

theorem DigitRow.head_not_sign (d : DigitRow) : ∀ c ∈ d.chars.head?, isSign c = false :=
  fun _ hc => isSign_eq_false_of_isDigit (d.allDigits _ (List.mem_of_mem_head? hc))

/-! ## The text gives the parts back -/

theorem DecimalExponent.chars_injective : Function.Injective DecimalExponent.chars := by
  intro e e' h
  obtain ⟨hmark, hrest⟩ := List.cons.inj h
  obtain ⟨hsign, hdigits⟩ :=
    NumberSign.append_inj e.digits.head_not_sign e'.digits.head_not_sign hrest
  exact DecimalExponent.ext hmark hsign (DigitRow.ext hdigits)

namespace DecimalLiteral

variable {l l' : DecimalLiteral}

theorem mem_point_mantissaChars_iff : '.' ∈ l.mantissaChars ↔ l.fraction.isSome = true := by
  have hwhole := l.whole.not_mem_point
  have hsign := l.sign.not_mem_point
  rw [mantissaChars, fractionChars]
  cases h : l.fraction <;> simp [hwhole, hsign]

theorem not_mem_point_exponentChars (l : DecimalLiteral) : '.' ∉ l.exponentChars := by
  rw [exponentChars]
  cases l.exponent with
  | none => exact List.not_mem_nil
  | some e =>
    have hmark : '.' ≠ e.mark := by rcases e.isMark with h | h <;> rw [h] <;> decide
    simp [DecimalExponent.chars, hmark, e.sign.not_mem_point, e.digits.not_mem_point]

/-- A point in a literal is the one of its fraction. -/
theorem mem_point_iff : '.' ∈ l.chars ↔ l.fraction.isSome = true := by
  rw [chars, List.mem_append, mem_point_mantissaChars_iff,
    or_iff_left l.not_mem_point_exponentChars]

theorem not_mark_of_mem_mantissaChars : ∀ c ∈ l.mantissaChars, (!isExponentMark c) = true := by
  have hdigits : ∀ d : DigitRow, ∀ c ∈ d.chars, (!isExponentMark c) = true := fun d c hc => by
    rw [isExponentMark_eq_false_of_isDigit (d.allDigits c hc), Bool.not_false]
  have hsign : ∀ c ∈ l.sign.chars, (!isExponentMark c) = true := by
    cases l.sign <;> simp [NumberSign.chars, isExponentMark]
  refine List.forall_mem_append.mpr ⟨hsign, List.forall_mem_append.mpr ⟨hdigits l.whole, ?_⟩⟩
  rw [fractionChars]
  cases l.fraction with
  | none => simp
  | some d => exact List.forall_mem_cons.mpr ⟨by decide, hdigits d⟩

theorem mark_of_head_exponentChars : ∀ c ∈ l.exponentChars.head?, (!isExponentMark c) = false := by
  rw [exponentChars]
  cases l.exponent with
  | none => simp
  | some e =>
    intro c hc
    obtain rfl := Option.some.inj hc
    rcases e.isMark with h | h <;> rw [h] <;> decide

/-- A literal is cut where its exponent begins. -/
theorem append_exponent_inj {back back' : List Char}
    (hback : ∀ c ∈ back.head?, (!isExponentMark c) = false)
    (hback' : ∀ c ∈ back'.head?, (!isExponentMark c) = false)
    (h : l.mantissaChars ++ back = l'.mantissaChars ++ back') :
    l.mantissaChars = l'.mantissaChars ∧ back = back' :=
  Text.append_inj_of_head not_mark_of_mem_mantissaChars not_mark_of_mem_mantissaChars hback hback' h

theorem head_unsigned_not_sign (l : DecimalLiteral) :
    ∀ c ∈ (l.whole.chars ++ l.fractionChars).head?, isSign c = false := by
  have hdigits : ∀ d : DigitRow, ∀ c ∈ d.chars, isSign c = false := fun d c hc =>
    isSign_eq_false_of_isDigit (d.allDigits c hc)
  have hfraction : ∀ c ∈ l.fractionChars, isSign c = false := by
    rw [fractionChars]
    cases l.fraction with
    | none => simp
    | some d => exact List.forall_mem_cons.mpr ⟨by decide, hdigits d⟩
  exact fun c hc => List.forall_mem_append.mpr ⟨hdigits l.whole, hfraction⟩ c
    (List.mem_of_mem_head? hc)

theorem head_fractionChars (l : DecimalLiteral) :
    ∀ c ∈ l.fractionChars.head?, c.isDigit = false := by
  rw [fractionChars]
  cases l.fraction with
  | none => simp
  | some d =>
    intro c hc
    obtain rfl := Option.some.inj hc
    decide

theorem fraction_eq_of_fractionChars (h : l.fractionChars = l'.fractionChars) :
    l.fraction = l'.fraction := by
  rw [fractionChars, fractionChars] at h
  cases hd : l.fraction <;> cases hd' : l'.fraction <;> simp only [hd, hd'] at h
  case none.none => rfl
  case some.some => exact congrArg some (DigitRow.ext (List.cons.inj h).2)
  all_goals cases h

theorem exponent_eq_of_exponentChars (h : l.exponentChars = l'.exponentChars) :
    l.exponent = l'.exponent := by
  rw [exponentChars, exponentChars] at h
  cases he : l.exponent <;> cases he' : l'.exponent <;> simp only [he, he'] at h
  case none.none => rfl
  case some.some => exact congrArg some (DecimalExponent.chars_injective h)
  all_goals cases h

/-- **A literal is known by its text.** -/
theorem chars_injective : Function.Injective chars := by
  intro l l' h
  obtain ⟨hmantissa, hexponent⟩ :=
    append_exponent_inj mark_of_head_exponentChars mark_of_head_exponentChars h
  obtain ⟨hsign, hrest⟩ := NumberSign.append_inj l.head_unsigned_not_sign
    l'.head_unsigned_not_sign hmantissa
  obtain ⟨hwhole, hfraction⟩ := Text.append_inj_of_head l.whole.allDigits l'.whole.allDigits
    l.head_fractionChars l'.head_fractionChars hrest
  exact DecimalLiteral.ext hsign (DigitRow.ext hwhole) (fraction_eq_of_fractionChars hfraction)
    (exponent_eq_of_exponentChars hexponent)

theorem text_injective : Function.Injective text := fun _ _ h =>
  chars_injective (String.ofList_injective h)

/-! ## A zero for the fraction -/

/-- The literal with a zero behind its point. -/
def withZero (l : DecimalLiteral) : DecimalLiteral where
  sign := l.sign
  whole := l.whole
  fraction := some ⟨['0'], List.forall_mem_singleton.mpr rfl⟩
  exponent := l.exponent
  nonempty := .inr ⟨_, rfl, by simp⟩

theorem pointClosed_withZero (l : DecimalLiteral) : l.withZero.PointClosed := by
  intro digits hdigits
  obtain rfl := Option.some.inj hdigits
  simp

theorem value_withZero (h : l.fraction = none) : l.withZero.value = l.value := by
  have hzero : l.withZero.fractionValue = l.fractionValue := by
    rw [fractionValue, fractionValue, h, withZero]
    simp [DigitRow.value, Text.digitsValue, Text.digitValue]
  rw [value, value, hzero]
  rfl

theorem chars_withZero (h : l.fraction = none) (h' : l.exponent = none) :
    l.withZero.chars = l.chars ++ ['.', '0'] := by
  simp [chars, mantissaChars, fractionChars, exponentChars, withZero, h, h']

/-- Behind an exponent there is no room for a point. -/
theorem chars_ne_append_zero {e : DecimalExponent} (h : l.exponent = some e) :
    l'.chars ≠ l.chars ++ ['.', '0'] := by
  intro heq
  have hchars : l.exponentChars = e.mark :: (e.sign.chars ++ e.digits.chars) := by
    rw [exponentChars, h]
    rfl
  have hback : ∀ c ∈ (l.exponentChars ++ ['.', '0']).head?, (!isExponentMark c) = false := by
    have hmark : ∀ c ∈ l.exponentChars.head?, (!isExponentMark c) = false :=
      mark_of_head_exponentChars
    rw [hchars] at hmark ⊢
    exact hmark
  rw [chars, chars, List.append_assoc] at heq
  obtain ⟨-, hexponent⟩ := append_exponent_inj mark_of_head_exponentChars hback heq
  exact l'.not_mem_point_exponentChars (by simp [hexponent])

end DecimalLiteral

end AnnotatedEntity
