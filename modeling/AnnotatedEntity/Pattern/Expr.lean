/-
What a pattern searches for, and the search. Places in a text are marked: an expression moves the
marks from where a find begins to where it ends. `settle_eq` says that the marks do not depend on how
early the search for another round is given up.
-/
import AnnotatedEntity.Pattern.CharSet
import AnnotatedEntity.Pattern.Look

namespace AnnotatedEntity.Pattern

inductive Expr where
  | empty
  | set (chars : CharSet)
  | look (l : Look)
  | seq (first second : Expr)
  | alt (first second : Expr)
  | times (inner : Expr) (least : Nat) (most : Option Nat)
  /-- A find within the find, which is remembered. -/
  | capture (inner : Expr)
deriving Repr, DecidableEq, Inhabited

namespace Expr

/-! ## Building -/

/-- The expressions one behind the other. -/
def seqAll (es : List Expr) : Expr :=
  match es with
  | [] => empty
  | [e] => e
  | e :: rest => seq e (seqAll rest)

/-- Nothing but the empty text is ever found. -/
def isThin : Expr → Bool
  | empty | look _ => true
  | set _ => false
  | seq a b | alt a b => a.isThin && b.isThin
  | times e _ _ | capture e => e.isThin

/-- An expression a number of times. What takes nothing is not taken twice. -/
def repeated (e : Expr) (least : Nat) (most : Option Nat) : Expr :=
  let least := if e.isThin then min least 1 else least
  let most := if e.isThin then some (min (most.getD 1) 1) else most
  if most = some 0 then empty else if least = 1 && most = some 1 then e else times e least most

/-! ## Places -/

/-- For each place of a text, from its start to its end, whether it is marked. -/
abbrev Marks := List Bool

namespace Marks

/-- All places of a text. -/
def all (text : List Char) : Marks := List.replicate (text.length + 1) true

def any (ms : Marks) : Bool := List.any ms id

/-- The places that are marked in one or the other. -/
def or (a b : Marks) : Marks := List.zipWith (· || ·) a b

/-- The places behind the characters of a set that stand at a marked place. -/
def pass (chars : CharSet) (text : List Char) (ms : Marks) : Marks :=
  false :: List.zipWith (fun isMarked c => isMarked && chars.contains c) ms text

/-- The marked places that pass a test. The character before the first one is given. -/
def keep (l : Look) (before : Option Char) : List Char → Marks → Marks
  | c :: text, isMarked :: ms =>
    (isMarked && l.holds before (some c)) :: keep l (some c) text ms
  | [], isMarked :: _ => [isMarked && l.holds before none]
  | _, [] => []

end Marks

/-! ## Rounds -/

section Settling

variable {α : Type} [DecidableEq α]

/-- A function again and again, a number of times or until it changes nothing. -/
def settle (f : α → α) : Nat → α → α
  | 0, a => a
  | n + 1, a => if f a = a then a else settle f n (f a)

theorem settle_fixed {f : α → α} {a : α} (h : f a = a) (n : Nat) : settle f n a = a := by
  cases n <;> simp [settle, h]

theorem settle_eq (f : α → α) : ∀ (n : Nat) (a : α), settle f n a = n.repeat f a
  | 0, _ => rfl
  | n + 1, a => by
    have repeat_succ : ∀ (n : Nat) (a : α), (n + 1).repeat f a = n.repeat f (f a) := by
      intro n
      induction n with
      | zero => intro a; rfl
      | succ n ih => intro a; exact congrArg f (ih a)
    rw [repeat_succ, ← settle_eq f n (f a), settle]
    split
    · rename_i h; rw [h, settle_fixed h]
    · rfl

end Settling

/-! ## Search -/

/-- Where the finds end that begin at the marked places. A round of a repetition that takes nothing
changes nothing, so there are never more rounds that count than characters, but for one. -/
def ends (text : List Char) : Expr → Marks → Marks
  | empty, ms => ms
  | set chars, ms => ms.pass chars text
  | look l, ms => ms.keep l none text
  | seq a b, ms => b.ends text (a.ends text ms)
  | alt a b, ms => (a.ends text ms).or (b.ends text ms)
  | times e least most, ms =>
    let needed := settle (e.ends text) (min least (text.length + 1)) ms
    let more := (most.map (· - least)).getD text.length
    settle (fun ms => ms.or (e.ends text ms)) (min more text.length) needed
  | capture e, ms => e.ends text ms

/-- The expression is found somewhere in the text. -/
def occursIn (e : Expr) (text : List Char) : Bool := (e.ends text (Marks.all text)).any

theorem occursIn_empty (text : List Char) : empty.occursIn text = true := by
  simp [occursIn, ends, Marks.all, Marks.any]

end Expr

end AnnotatedEntity.Pattern
