/-
Sets of characters as closed ranges of code points, ascending and apart, so that a set has one form.
-/
import AnnotatedEntity.Text.CodePoint

namespace AnnotatedEntity.Pattern

abbrev CharRange := Nat × Nat

/-- The ranges of a set, ascending and with a gap between any two. -/
abbrev CharSet := List CharRange

namespace CharSet

/-- The greatest code point. -/
def top : Nat := 0x10FFFF

def single (c : Char) : CharSet := [(c.toNat, c.toNat)]

/-- A range is added. What it overlaps or touches becomes one range with it. -/
def insert (range : CharRange) : CharSet → CharSet
  | [] => [range]
  | (first, last) :: rest =>
    if range.2 + 1 < first then range :: (first, last) :: rest
    else if last + 1 < range.1 then (first, last) :: insert range rest
    else insert (min first range.1, max last range.2) rest

def union (a b : CharSet) : CharSet := b.foldl (fun s range => insert range s) a

/-- The set of these ranges, in any order. -/
def ofRanges (ranges : List CharRange) : CharSet := union [] ranges

/-- What is not in the set, from a code point on. -/
def complementFrom (start : Nat) : CharSet → CharSet
  | [] => if start ≤ top then [(start, top)] else []
  | (first, last) :: rest =>
    if start < first then (start, first - 1) :: complementFrom (last + 1) rest
    else complementFrom (last + 1) rest

def complement (s : CharSet) : CharSet := complementFrom 0 s

def inter (a b : CharSet) : CharSet := complement (union (complement a) (complement b))

def diff (a b : CharSet) : CharSet := inter a (complement b)

/-- What is in one of the two only. -/
def symmDiff (a b : CharSet) : CharSet := union (diff a b) (diff b a)

/-- What lies within a range, moved from its beginning to another place. -/
def moved (within : CharRange) (target : Nat) (s : CharSet) : CharSet :=
  (inter s [within]).map fun (first, last) =>
    (first - within.1 + target, last - within.1 + target)

/-- With a letter of ASCII its small and its capital form. -/
def foldAscii (s : CharSet) : CharSet :=
  union (union s (moved (0x41, 0x5A) 0x61 s)) (moved (0x61, 0x7A) 0x41 s)

def isAscii (s : CharSet) : Bool := List.all s (·.2 < 0x80)

/-! ## Membership -/

def contains (s : CharSet) (c : Char) : Bool := Text.within s c

theorem contains_single (c d : Char) : contains (single c) d = true ↔ d = c := by
  simp only [contains, single, Text.within_iff, List.mem_singleton, exists_eq_left]
  constructor
  · exact fun ⟨h, h'⟩ => Char.toNat_inj.1 (Nat.le_antisymm h' h)
  · rintro rfl; exact ⟨Nat.le_refl _, Nat.le_refl _⟩

theorem contains_insert (range : CharRange) (h : range.1 ≤ range.2) (s : CharSet)
    (hs : ∀ r ∈ s, r.1 ≤ r.2) (c : Char) :
    contains (insert range s) c = true ↔
      range.1 ≤ c.toNat ∧ c.toNat ≤ range.2 ∨ contains s c = true := by
  simp only [contains, Text.within_iff]
  induction s generalizing range with
  | nil => simp [insert]
  | cons r rest ih =>
    have hr := hs r (by simp)
    have hrest : ∀ q ∈ rest, q.1 ≤ q.2 := fun q hq => hs q (by simp [hq])
    unfold insert
    split
    · simp
    · split
      · simp only [List.mem_cons, exists_eq_or_imp, ih range h hrest]
        exact or_left_comm
      · rw [ih _ (by simp only; omega) hrest]
        simp only [List.mem_cons, exists_eq_or_imp, ← or_assoc]
        refine or_congr ?_ Iff.rfl
        omega

end CharSet

end AnnotatedEntity.Pattern
