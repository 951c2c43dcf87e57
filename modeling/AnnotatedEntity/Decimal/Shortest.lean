/-
The text of a floating-point number: as few digits as read back to it, written without an exponent
and always with a point.
-/
import AnnotatedEntity.Decimal.Binary64

namespace AnnotatedEntity

/-- A number `digits · 10 ^ exponent`. -/
structure DecimalNumber where
  digits : Nat
  exponent : Int
deriving Repr, DecidableEq, Inhabited

/-- Compares `a · 10 ^ i` with `n · 2 ^ j`. -/
def compareScaled (a : Nat) (i : Int) (n : Nat) (j : Int) : Ordering :=
  compare (a * tenTo i.toNat * twoTo (-j).toNat) (n * twoTo j.toNat * tenTo (-i).toNat)

namespace DecimalNumber

/-! ## The fewest digits -/

/-- The decimal lies among the reals that round to `m · 2 ^ q`: up to half the way to the neighbour
on each side, the ends included if `m` is even. Below a power of two the neighbour is nearer. -/
def readsBack (m : Nat) (q : Int) (x : DecimalNumber) : Bool :=
  let isNarrow := m = twoTo 52 ∧ q > -1074
  let low := if isNarrow then 4 * m - 1 else 4 * m - 2
  let fromLow := compareScaled x.digits x.exponent low (q - 2)
  let fromHigh := compareScaled x.digits x.exponent (4 * m + 2) (q - 2)
  let hasEnds := m % 2 = 0
  (fromLow = .gt ∨ (hasEnds ∧ fromLow = .eq)) ∧ (fromHigh = .lt ∨ (hasEnds ∧ fromHigh = .eq))

def digitCount (n : Nat) : Nat := (Nat.toDigits 10 n).length

/-- The least `k` such that `n / d` is below `10 ^ k`. -/
def decimalExponent (n d : Nat) : Int :=
  if n < d then 1 - (digitCount ((d - 1) / n) : Int) else digitCount (n / d)

/-- Of the two multiples of `10 ^ exponent` around `m · 2 ^ q`, the nearer one that reads back. Of
two that are equally near it is the greater. -/
def onGrid (m : Nat) (q exponent : Int) : Option DecimalNumber :=
  let below :=
    m * twoTo q.toNat * tenTo (-exponent).toNat / (twoTo (-q).toNat * tenTo exponent.toNat)
  let low : DecimalNumber := ⟨below, exponent⟩
  let high : DecimalNumber := ⟨below + 1, exponent⟩
  match low.readsBack m q, high.readsBack m q with
  | true, true =>
    some (if compareScaled (2 * below + 1) exponent (2 * m) q = .gt then low else high)
  | true, false => some low
  | false, true => some high
  | false, false => none

/-- The number itself, with all its digits. -/
def allDigits (m : Nat) (q : Int) : DecimalNumber :=
  ⟨m * twoTo q.toNat * Nat.pow 5 (-q).toNat, min q 0⟩

/-- The decimal with the fewest digits that reads back as `m · 2 ^ q`, which is positive, and the
nearest of those. Seventeen digits are enough for any number. -/
def shortest (m : Nat) (q : Int) : DecimalNumber :=
  let k := decimalExponent (m * twoTo q.toNat) (twoTo (-q).toNat)
  ((List.range 17).findSome? fun n : Nat => onGrid m q (k - n - 1)).getD (allDigits m q)

/-! ## Layout -/

/-- The digits before and after a point that stands `places` digits from the end. -/
def splitAtPoint (digits : List Char) (places : Nat) : List Char × List Char :=
  let padded := List.replicate (places + 1 - digits.length) '0' ++ digits
  (padded.take (padded.length - places), padded.drop (padded.length - places))

/-- The decimal without an exponent. The fraction has no zeros at its end, but at least one
digit. -/
def text (x : DecimalNumber) : String :=
  let digits := Nat.toDigits 10 (x.digits * tenTo x.exponent.toNat)
  let (whole, fraction) := splitAtPoint digits (-x.exponent).toNat
  let fraction := (fraction.reverse.dropWhile (· == '0')).reverse
  String.ofList (whole ++ '.' :: if fraction.isEmpty then ['0'] else fraction)

end DecimalNumber

namespace Binary64

def sign (isNegative : Bool) : String := if isNegative then "-" else ""

def text : Binary64 → String
  | .finite s 0 _ => sign s ++ "0.0"
  | .finite s m q => sign s ++ (DecimalNumber.shortest m q).text
  | .infinite s => sign s ++ "inf"
  | .nan => "NaN"

end Binary64

end AnnotatedEntity
