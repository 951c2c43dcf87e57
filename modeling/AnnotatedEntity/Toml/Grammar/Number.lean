/-
Whole numbers in four bases and floating-point numbers.
-/
import AnnotatedEntity.Decimal.Binary64
import AnnotatedEntity.Text.Integer
import AnnotatedEntity.Toml.Grammar.Space

namespace AnnotatedEntity.Toml.Grammar

open Text (Reader)

open Text.Reader

/-! ## Digits -/

/-- The next digit in a base. -/
def digit (base : Nat) : Reader Char := satisfy (Text.isDigitOf base)

/-- Digits in a base. A single underscore may stand between two of them. -/
def digits (base : Nat) : Reader (List Char) := do
  let first ← digit base
  let others ← many do
    let _ ← optionally (char '_')
    digit base
  return first :: others

/-- The sign in front of a number. -/
def isNegated : Reader Bool := do
  return (← optionally (satisfy fun c => c == '+' || c == '-')) = some '-'

/-- Decimal digits without a zero in front, unless it is the only one. -/
def wholeDigits : Reader (List Char) := do
  let first ← digit 10
  if first = '0' then return [first]
  else
    let others ← many do
      let _ ← optionally (char '_')
      digit 10
    return first :: others

/-! ## Whole numbers -/

/-- A number in a base that its first two characters name. -/
def prefixed (mark : String) (base : Nat) : Reader Int := do
  literal mark
  return Text.digitsValue base (← digits base)

def decimal : Reader Int := do
  let negated ← isNegated
  let n := Text.digitsValue 10 (← wholeDigits)
  return if negated then -n else n

/-- A whole number of 64 bits. -/
def integer : Reader Int := do
  let n ← prefixed "0x" 16 <|> prefixed "0o" 8 <|> prefixed "0b" 2 <|> decimal
  guard (Text.fits64 n)
  return n

/-! ## Floating-point numbers -/

def fraction : Reader (List Char) := do
  let _ ← char '.'
  digits 10

def exponent : Reader Int := do
  let _ ← satisfy fun c => c == 'e' || c == 'E'
  let negated ← isNegated
  let n := Text.digitsValue 10 (← digits 10)
  return if negated then -n else n

/-- A fraction, an exponent or both. -/
def fractionExponent : Reader (List Char × Int) :=
  (do return ([], ← exponent))
    <|> (do
      let digits ← fraction
      return (digits, (← optionally exponent).getD 0))

/-- A number with a fraction or an exponent. One that is too great is refused, but one that is too
small is the negative infinity. -/
def finiteFloat : Reader Binary64 := do
  let negated ← isNegated
  let whole ← wholeDigits
  let (fraction, exponent) ← fractionExponent
  let digits := Text.digitsValue 10 (whole ++ fraction)
  let x := Binary64.ofDecimal negated digits (exponent - fraction.length)
  guard (x ≠ .infinite false)
  return x

def namedFloat : Reader Binary64 := do
  let negated ← isNegated
  (do literal "inf"; return .infinite negated) <|> (do literal "nan"; return .nan)

def float : Reader Binary64 := finiteFloat <|> namedFloat

end AnnotatedEntity.Toml.Grammar
