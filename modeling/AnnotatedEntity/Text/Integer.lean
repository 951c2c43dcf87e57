/-
Whole numbers of 64 bits with a sign, as texts: an optional sign and decimal digits.
-/

namespace AnnotatedEntity.Text

/-- The number is one that 64 bits with a sign can hold. -/
def fits64 (n : Int) : Bool := -9223372036854775808 ≤ n && n ≤ 9223372036854775807

/-- The value of a digit of any base up to sixteen. -/
def digitValue (c : Char) : Nat :=
  if c.isDigit then c.toNat - 48
  else if 'a' ≤ c && c ≤ 'f' then c.toNat - 87
  else c.toNat - 55

/-- The character is a digit of a base up to sixteen. -/
def isDigitOf (base : Nat) (c : Char) : Bool :=
  (c.isDigit || ('a' ≤ c && c ≤ 'f') || ('A' ≤ c && c ≤ 'F')) && digitValue c < base

/-- The value of a row of digits in a base, most significant first. -/
def digitsValue (base : Nat) (digits : List Char) : Nat :=
  digits.foldl (fun n c => n * base + digitValue c) 0

/-- The value of a non-empty row of decimal digits. -/
def natural? (s : List Char) : Option Nat :=
  if s ≠ [] && s.all Char.isDigit then some (digitsValue 10 s) else none

/-- The value of a signed decimal numeral, if it fits. -/
def integer? (s : List Char) : Option Int :=
  let value? : Option Int :=
    match s with
    | '-' :: digits => (natural? digits).map fun n => -(n : Int)
    | '+' :: digits => (natural? digits).map fun n => (n : Int)
    | digits => (natural? digits).map fun n => (n : Int)
  value?.filter fits64

end AnnotatedEntity.Text
