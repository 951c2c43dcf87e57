/-
Floating-point numbers of 64 bits, and the one that is nearest to a decimal. All arithmetic is on
whole numbers: a positive number is a fraction `n / d`.
-/

namespace AnnotatedEntity

def twoTo (k : Nat) : Nat := Nat.pow 2 k

def tenTo (k : Nat) : Nat := Nat.pow 10 k

/-- A finite number is `significand · 2 ^ exponent`, and zero keeps its sign. The significand has
53 bits, or fewer at the least exponent, which is -1074. -/
inductive Binary64 where
  | finite (isNegative : Bool) (significand : Nat) (exponent : Int)
  | infinite (isNegative : Bool)
  | nan
deriving Repr, DecidableEq, Inhabited

namespace Binary64

/-- A quotient rounded to the nearest whole number, a tie to the even one. -/
def roundQuotient (n d : Nat) : Nat :=
  let q := n / d
  let twice := 2 * (n % d)
  if twice > d ∨ (twice = d ∧ q % 2 = 1) then q + 1 else q

/-- The greatest `e` such that `2 ^ e` is at most `n / d`. -/
def binaryExponent (n d : Nat) : Int :=
  let e : Int := (n.log2 : Int) - d.log2
  if d * twoTo e.toNat ≤ n * twoTo (-e).toNat then e else e - 1

/-- The number nearest to a positive fraction, a tie to the one with an even significand. -/
def ofFraction (isNegative : Bool) (n d : Nat) : Binary64 :=
  let q := max (binaryExponent n d - 52) (-1074)
  let m := roundQuotient (n * twoTo (-q).toNat) (d * twoTo q.toNat)
  let (m, q) := if m = twoTo 53 then (twoTo 52, q + 1) else (m, q)
  if q > 971 then .infinite isNegative else .finite isNegative m q

/-- Zero, which has a sign. -/
def zero (isNegative : Bool) : Binary64 := .finite isNegative 0 (-1074)

/-- The number nearest to `digits · 10 ^ exponent`. The first tests only keep powers of ten small:
what they settle is far beyond either end of the range. -/
def ofDecimal (isNegative : Bool) (digits : Nat) (exponent : Int) : Binary64 :=
  if digits = 0 ∨ digits.log2 + 1 + exponent < -324 then zero isNegative
  else if exponent > 309 then .infinite isNegative
  else ofFraction isNegative (digits * tenTo exponent.toNat) (tenTo (-exponent).toNat)

end Binary64

end AnnotatedEntity
