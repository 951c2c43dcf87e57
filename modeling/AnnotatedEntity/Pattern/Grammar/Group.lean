/-
What opens a group: a parenthesis and perhaps a name, or modes that change.
-/
import AnnotatedEntity.Pattern.Scan
import AnnotatedEntity.Pattern.Tree
import AnnotatedEntity.Text.Alphanumeric

namespace AnnotatedEntity.Pattern.Grammar

open Scan

/-! ## Names -/

def isNameStart (c : Char) : Bool := c = '_' || Text.isAlphabetic c

def isNameChar (c : Char) : Bool :=
  c = '_' || c = '.' || c = '[' || c = ']' || Text.isAlphanumeric c

/-- The characters of a name, up to the sign that closes it. -/
def nameChars (isFirst : Bool) : Nat → Scan (List Char)
  | 0 => return []
  | n + 1 => do
    match ← peek with
    | none => fail .openName (← here)
    | some '>' => return []
    | some c =>
      if if isFirst then isNameStart c else isNameChar c then
        advance
        return c :: (← nameChars false n)
      else fail .badNameChar (← charSpan)

/-- The name of a group, which no other group has. -/
def groupName : Scan Unit := do
  let start ← position
  let name ← nameChars true ((← get).rest.length + 1)
  let span ← since start
  advance
  if name.isEmpty then fail .emptyName (.point start)
  match (← get).names.lookup name with
  | some first => fail (.secondName first) span
  | none => modify fun s => { s with names := (name, span) :: s.names }

/-! ## Modes -/

/-- A mode, or the sign from which on modes are turned off. -/
abbrev ModeSign := Option Mode

/-- The signs up to a colon or a parenthesis, the latest first. -/
def modeSigns : Nat → List (ModeSign × Span) → Scan (List (ModeSign × Span))
  | 0, signs => return signs
  | n + 1, signs => do
    match ← peek with
    | none | some ':' | some ')' => return signs
    | some c =>
      let span ← charSpan
      let sign : ModeSign ←
        if c = '-' then pure none
        else
          match Mode.ofLetter? c with
          | some mode => pure (some mode)
          | none => fail .unknownMode span
      match signs.lookup sign with
      | some first => fail (if sign.isNone then .secondNegation first else .secondMode first) span
      | none =>
        advance
        if ← atEnd then fail .openModes (← here)
        modeSigns n ((sign, span) :: signs)

/-- Modes are turned on up to the sign for negation, and off behind it. -/
def changesOf (isOn : Bool) : List ModeSign → ModeChanges
  | [] => []
  | none :: rest => changesOf false rest
  | some mode :: rest => (mode, isOn) :: changesOf isOn rest

def modeChanges : Scan ModeChanges := do
  let signs ← modeSigns (← get).rest.length []
  match signs with
  | (none, span) :: _ => fail .danglingNegation span
  | _ => return changesOf true (signs.reverse.map (·.1))

/-! ## Groups -/

inductive GroupOpening where
  /-- No group, but modes that change from here on. -/
  | changes (modes : ModeChanges)
  | group (isCapture : Bool) (modes : ModeChanges)
deriving Repr, DecidableEq, Inhabited

/-- What opens a group, from its parenthesis on. -/
def groupOpening : Scan GroupOpening := do
  let parenthesis ← charSpan
  step
  if ← acceptAny ["?=", "?!", "?<=", "?<!"] then fail .lookAround (← since parenthesis.first)
  let question ← here
  if ← acceptAny ["?P<", "?<"] then
    groupName
    return .group true []
  else if ← accept "?" then
    if ← atEnd then fail .openGroup parenthesis
    let modes ← modeChanges
    let isClosed := (← peek) = some ')'
    advance
    if !isClosed then return .group false modes
    if modes.isEmpty then fail .nothingToRepeat question
    return .changes modes
  else return .group true []

end AnnotatedEntity.Pattern.Grammar
