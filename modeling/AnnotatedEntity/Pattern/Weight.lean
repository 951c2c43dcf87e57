/-
How much room an expression takes once it is laid out for a search, about. A part that comes a number
of times is laid out as often, so a short pattern can take very much.
-/
import AnnotatedEntity.Pattern.Expr

namespace AnnotatedEntity.Pattern

/-- A pattern that takes more bytes than this is turned down. -/
def greatestWeight : Nat := 10485760

/-- What one step of a search takes. -/
def stepWeight : Nat := 32

/-- A character takes a step for each of its bytes. A set takes two, and with characters that are not
ASCII the steps for all forms that these can have. -/
def setWeight (s : CharSet) : Nat :=
  match s with
  | [(first, last)] =>
    if first = last then stepWeight * (Char.ofNat first).utf8Size else 2 * stepWeight + 8
  | s => if s.isAscii then 2 * stepWeight + 8 * s.length else 13 * stepWeight + 8 * s.length

namespace Expr

def weight : Expr → Nat
  | empty | look _ => stepWeight
  | set chars => setWeight chars
  | seq a b => a.weight + b.weight
  | alt a b => a.weight + b.weight + stepWeight + 8
  | capture e => e.weight + 2 * stepWeight
  | times e least none => (max 1 least) * e.weight + stepWeight + 8
  | times e least (some most) =>
    least * e.weight + (most - least) * (e.weight + stepWeight + 8) + stepWeight

end Expr

end AnnotatedEntity.Pattern
