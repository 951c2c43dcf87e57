/-
Characters by their code points, and sets of them as lists of closed ranges.
-/

namespace AnnotatedEntity.Text

/-- The character of a code point, if it is one. -/
def charOfCode (n : Nat) : Option Char := if n.isValidChar then some (.ofNat n) else none

/-- The character lies in one of the ranges. -/
def within (ranges : List (Nat × Nat)) (c : Char) : Bool :=
  ranges.any fun (first, last) => first ≤ c.toNat && c.toNat ≤ last

theorem within_iff {ranges : List (Nat × Nat)} {c : Char} :
    within ranges c = true ↔ ∃ r ∈ ranges, r.1 ≤ c.toNat ∧ c.toNat ≤ r.2 := by
  simp [within]

end AnnotatedEntity.Text
