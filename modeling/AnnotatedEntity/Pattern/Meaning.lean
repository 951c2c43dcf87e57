/-
What a written pattern searches for under the modes in force. A part that cannot be searched for is a
fault. Where Unicode is not in force the parts are about bytes, and one that could break up a
character is a fault.
-/
import AnnotatedEntity.Pattern.Expr
import AnnotatedEntity.Pattern.Tree

namespace AnnotatedEntity.Pattern

/-! ## Modes -/

structure Modes where
  isCaseless : Bool := false
  isMultiLine : Bool := false
  dotTakesAll : Bool := false
  isUnicode : Bool := true
  /-- A carriage return ends a line, too. -/
  isEitherLineEnd : Bool := false
deriving Repr, DecidableEq, Inhabited

namespace Modes

def change (m : Modes) : Mode × Bool → Modes
  | (.caseless, isOn) => { m with isCaseless := isOn }
  | (.multiLine, isOn) => { m with isMultiLine := isOn }
  | (.dotTakesAll, isOn) => { m with dotTakesAll := isOn }
  | (.unicode, isOn) => { m with isUnicode := isOn }
  | (.eitherLineEnd, isOn) => { m with isEitherLineEnd := isOn }
  | (.lazyFirst, _) | (.spaced, _) => m

def changeAll (m : Modes) (changes : ModeChanges) : Modes := changes.foldl change m

end Modes

/-! ## Sets -/

/-- A set under its modes, where letters may count for their small and capital forms. -/
def foldedSet (m : Modes) (span : Span) (s : CharSet) : Except Fault CharSet :=
  if !m.isCaseless then .ok s
  else if m.isUnicode then .error ⟨.noUnicodeCase, span⟩
  else .ok s.foldAscii

/-- All characters but those of a set. -/
def negatedSet (m : Modes) (span : Span) (s : CharSet) : Except Fault CharSet :=
  if m.isUnicode then .ok s.complement else .error ⟨.brokenEncoding, span⟩

def negatedIf (isNegated : Bool) (m : Modes) (span : Span) (s : CharSet) : Except Fault CharSet :=
  if isNegated then negatedSet m span s else .ok s

/-- The name of a property as it is looked up: blanks, hyphens, underscores and a leading `is` do
not count, and neither does case. -/
def propertyKey (name : List Char) : List Char :=
  let hasLead := (name.take 2).map Char.toLower = ['i', 's']
  let counts (c : Char) : Bool := c != ' ' && c != '_' && c != '-' && c.toNat < 0x80
  ((if hasLead then name.drop 2 else name).filter counts).map Char.toLower

/-- What is wrong with a property. Three names are those of a value before they are those of a
property. -/
def propertyFlaw (name : List Char) : Flaw :=
  let isPair := name.contains ':' || name.contains '='
  if !isPair && ["cf", "sc", "lc"].contains (String.ofList (propertyKey name)) then
    .unknownPropertyValue
  else .unknownProperty

def NamedSet.meaning (m : Modes) (span : Span) : NamedSet → Except Fault CharSet
  | .ascii name isNegated => do
    let s ← foldedSet m span name.chars
    negatedIf isNegated m span s
  | .shorthand name isNegated =>
    if m.isUnicode then .error ⟨.unknownShorthand, span⟩
    else negatedIf isNegated m span name.chars
  | .property name => .error ⟨if m.isUnicode then propertyFlaw name else .notAscii, span⟩

/-- A character in a set. -/
def Literal.inSet (m : Modes) (l : Literal) : Except Fault Char :=
  if m.isUnicode || l.char.toNat < 0x80 then .ok l.char
  else .error ⟨if l.isByte then .brokenEncoding else .notAscii, l.span⟩

namespace SetTree

/-- Characters stand in the set that are not in a set within it. -/
def hasOwnChars : SetTree → Bool
  | literal _ | range .. => true
  | union _ members => members.any fun s =>
    match s with
    | literal _ | range .. => true
    | _ => false
  | _ => false

/-- A set under its modes. The sets within it have been looked at already. -/
def folded (m : Modes) (span : Span) (tree : SetTree) (s : CharSet) : Except Fault CharSet :=
  if m.isUnicode && !tree.hasOwnChars then .ok s else foldedSet m span s

def combine (op : SetOperation) (a b : CharSet) : CharSet :=
  match op with
  | .inter => a.inter b
  | .diff => a.diff b
  | .symmDiff => a.symmDiff b

mutual

def meaning (m : Modes) : SetTree → Except Fault CharSet
  | empty _ => .ok []
  | literal l => do return .single (← l.inSet m)
  | range _ first last => do
    let first ← first.inSet m
    let last ← last.inSet m
    return [(first.toNat, last.toNat)]
  | named span name => name.meaning m span
  | bracketed span isNegated inner => do
    let s ← inner.meaning m
    negatedIf isNegated m span (← inner.folded m span s)
  | union _ members => do return .ofRanges (← rangesOf m members)
  | operation _ op left right => do
    let a ← left.meaning m
    let b ← right.meaning m
    let b ← right.folded m right.span b
    let a ← left.folded m left.span a
    return combine op a b

/-- The ranges of all the sets. -/
def rangesOf (m : Modes) : List SetTree → Except Fault (List CharRange)
  | [] => .ok []
  | s :: rest => do
    let own ← s.meaning m
    return own ++ (← rangesOf m rest)

end

end SetTree

/-! ## Patterns -/

/-- The text is one line unless lines are asked for. -/
def Mark.look (m : Modes) : Mark → Look
  | .textStart => .textStart
  | .textEnd => .textEnd
  | .lineStart =>
    if !m.isMultiLine then .textStart
    else if m.isEitherLineEnd then .eitherLineStart
    else .lineStart
  | .lineEnd =>
    if !m.isMultiLine then .textEnd
    else if m.isEitherLineEnd then .eitherLineEnd
    else .lineEnd
  | .word mark => if m.isUnicode then .unicodeWord mark else .word mark

/-- All characters but line ends, or all of them. -/
def dotSet (m : Modes) : CharSet :=
  let breaks : List Char :=
    if m.dotTakesAll then [] else if m.isEitherLineEnd then ['\n', '\r'] else ['\n']
  CharSet.complement (.ofRanges (breaks.map fun c => (c.toNat, c.toNat)))

def Atom.meaning (m : Modes) : Atom → Except Fault Expr
  | .literal l =>
    if !m.isUnicode && l.isByte && l.char.toNat ≥ 0x80 then .error ⟨.brokenEncoding, l.span⟩
    else do return .set (← foldedSet m l.span (.single l.char))
  | .dot span => if m.isUnicode then .ok (.set (dotSet m)) else .error ⟨.brokenEncoding, span⟩
  | .mark _ test => .ok (.look (test.look m))
  | .named span name => do return .set (← name.meaning m span)

namespace Tree

/-- What a part finds, and the modes behind it. -/
abbrev Sense := StateT Modes (Except Fault)

mutual

def meaning : Tree → Sense Expr
  | empty _ => return .empty
  | atom a => do a.meaning (← get)
  | set span isNegated inner => do
    let m ← get
    let s ← (SetTree.bracketed span isNegated inner).meaning m
    return .set s
  | changes _ modes => do
    modify (·.changeAll modes)
    return .empty
  | group _ isCapture modes inner => do
    let outer ← get
    modify (·.changeAll modes)
    let e ← inner.meaning
    modify fun _ => outer
    return if isCapture then .capture e else e
  | times _ least most inner => do return (← inner.meaning).repeated least most
  | sequence _ parts => do return .seqAll (← meanings parts)
  | alternation _ branches => do
    match ← meanings branches with
    | [] => return .empty
    | e :: es => return es.foldl .alt e

def meanings : List Tree → Sense (List Expr)
  | [] => return []
  | t :: rest => do
    let e ← t.meaning
    return e :: (← meanings rest)

end

end Tree

end AnnotatedEntity.Pattern
