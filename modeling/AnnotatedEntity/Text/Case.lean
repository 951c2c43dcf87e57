/-
Upper and lower case over all of Unicode. A letter may have a sequence for its counterpart
(`ß` is `SS` above, `İ` is `i` and a combining dot below), so both maps go from a character to a
list. Only one letter looks at its neighbours: the capital sigma becomes `ς` at the end of a word
and `σ` elsewhere.
-/
import AnnotatedEntity.Text.CodePoint
import AnnotatedEntity.Text.CaseTable
import AnnotatedEntity.Text.CaseContextTable

namespace AnnotatedEntity.Text

/-! ## Single characters -/

/-- The run has an entry for the code point. -/
def CaseRun.covers (r : CaseRun) (n : Nat) : Bool :=
  r.first ≤ n && n ≤ r.last && (n - r.first) % r.step == 0

def CaseRun.image (r : CaseRun) (n : Nat) : Char := Char.ofNat ((n : Int) + r.offset).toNat

/-- The counterpart of a character: a sequence, a letter of a run, or the character itself. -/
def counterpart (sequences : List (Nat × List Nat)) (runs : List CaseRun) (c : Char) : List Char :=
  match sequences.find? (·.1 == c.toNat) with
  | some (_, image) => image.map Char.ofNat
  | none =>
    match runs.find? (·.covers c.toNat) with
    | some r => [r.image c.toNat]
    | none => [c]

def lowerChar (c : Char) : List Char := counterpart lowerSequences lowerRuns c

def upperChar (c : Char) : List Char := counterpart upperSequences upperRuns c

/-! ## Texts -/

def isCased (c : Char) : Bool := within casedRanges c

def isCaseIgnorable (c : Char) : Bool := within caseIgnorableRanges c

/-- The nearest character that counts is cased. -/
def meetsCased (s : List Char) : Bool :=
  match s.dropWhile isCaseIgnorable with
  | c :: _ => isCased c
  | [] => false

/-- A letter between `before` (read backwards) and `after` ends a word: a cased letter comes
before it and none comes after it. -/
def endsWord (before after : List Char) : Bool :=
  meetsCased before && !meetsCased after

/-- The lower-case form of a text that stands after `before` (read backwards). -/
def lowerAfter (before : List Char) : List Char → List Char
  | [] => []
  | c :: after =>
    let image :=
      if c = 'Σ' then [if endsWord before after then 'ς' else 'σ'] else lowerChar c
    image ++ lowerAfter (c :: before) after

def lower (s : List Char) : List Char := lowerAfter [] s

def upper (s : List Char) : List Char := s.flatMap upperChar

/-- The text with its first character raised. -/
def capitalize : List Char → List Char
  | [] => []
  | c :: rest => upperChar c ++ rest

end AnnotatedEntity.Text
