/-
Signs behind a part of a pattern that say how often it comes.
-/
import AnnotatedEntity.Pattern.Scan
import AnnotatedEntity.Pattern.Tree
import AnnotatedEntity.Text.Integer

namespace AnnotatedEntity.Pattern.Grammar

open Scan

/-- How often a part comes. -/
structure Count where
  least : Nat
  most : Option Nat
deriving Repr, DecidableEq, Inhabited

/-- The greatest number that can be asked for. -/
def greatestCount : Nat := 0xFFFFFFFF

/-- A number in decimal digits. Blanks around it count for nothing. -/
def decimal : Scan (Except Fault Nat) := do
  let _ ← Scan.span Text.isBlank advance
  let start ← position
  let digits ← Scan.span Char.isDigit step
  let span ← since start
  let _ ← Scan.span Text.isBlank step
  if digits.isEmpty then return .error ⟨.noNumber, span⟩
  let n := Text.digitsValue 10 digits
  return if n ≤ greatestCount then .ok n else .error ⟨.hugeNumber, span⟩

/-- A question mark, which bears only on which of several finds is taken. -/
def laziness : Scan Unit := do
  if (← peek) = some '?' then advance

/-- The count in braces. That the pattern ends behind a number or a comma is told first, and then
what is wrong with the number. -/
def braces : Scan Count := do
  let start ← position
  let stillOpen : Scan Unit := do
    if ← atEnd then fail .openCount (← since start)
  step
  stillOpen
  let least ← decimal
  stillOpen
  let isRange := (← peek) = some ','
  if isRange then
    step
    stillOpen
  let least ← liftM least
  let most ←
    if !isRange then pure (some least)
    else if (← peek) = some '\x7d' then pure none
    else some <$> liftM (← decimal)
  if (← peek) != some '\x7d' then fail .openCount (← since start)
  step
  laziness
  if most.any (· < least) then fail .fallingCount (← since start)
  return { least, most }

/-- The signs for how often, and what is taken for them. -/
def count? (c : Char) : Option (Scan Count) :=
  let sign (count : Count) : Scan Count := do
    advance
    laziness
    return count
  match c with
  | '?' => some (sign ⟨0, some 1⟩)
  | '*' => some (sign ⟨0, none⟩)
  | '+' => some (sign ⟨1, none⟩)
  | '\x7b' => some braces
  | _ => none

end AnnotatedEntity.Pattern.Grammar
