/-
From a written pattern to what is searched for, or why it is turned down.
-/
import AnnotatedEntity.Pattern.Grammar.Alternation
import AnnotatedEntity.Pattern.Meaning
import AnnotatedEntity.Pattern.Report
import AnnotatedEntity.Pattern.Weight

namespace AnnotatedEntity.Pattern

/-- Why a pattern is turned down. -/
inductive Rejection where
  | faulty (fault : Fault)
  | tooHeavy
  /-- It asks for words of Unicode, whose letters are not known. -/
  | unknownWords
deriving Repr, DecidableEq, Inhabited

def Rejection.message (pattern : List Char) : Rejection → String
  | faulty fault => String.intercalate "\n" ((fault.report pattern).map String.ofList)
  | tooHeavy => "Compiled regex exceeds size limit of " ++ toString greatestWeight ++ " bytes."
  | unknownWords => "error building NFA"

namespace Expr

/-- The expression asks for words of Unicode somewhere. -/
def asksUnicodeWords : Expr → Bool
  | empty | set _ => false
  | look l =>
    match l with
    | .unicodeWord _ => true
    | _ => false
  | seq a b | alt a b => a.asksUnicodeWords || b.asksUnicodeWords
  | times e _ _ | capture e => e.asksUnicodeWords

def ofText (pattern : List Char) : Except Rejection Expr := do
  let meaning : Except Fault Expr := do
    let tree ← Tree.ofText pattern
    let (e, _) ← tree.meaning.run {}
    return e
  let e ← meaning.mapError .faulty
  if e.weight > greatestWeight then throw .tooHeavy
  if e.asksUnicodeWords then throw .unknownWords
  return e

end Expr

end AnnotatedEntity.Pattern
