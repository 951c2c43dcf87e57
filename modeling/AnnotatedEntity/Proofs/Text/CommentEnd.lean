/-
Texts that end a block comment: somewhere in them a star is followed by a slash. Where two texts
meet they can end one together (`endsComment_append_iff`), but not across a separator, so that a
text that is cut into lines ends a comment if and only if one of its lines does. Trimming and the
doubling of quotes make no difference.
-/
import AnnotatedEntity.Attributes
import AnnotatedEntity.Proofs.Text.Cut
import Mathlib.Data.List.Infix

namespace AnnotatedEntity.Text

/-- A star stands before a slash somewhere in the text. -/
def EndsComment (s : List Char) : Prop := ['*', '/'] <:+: s

instance (s : List Char) : Decidable (EndsComment s) :=
  inferInstanceAs (Decidable (['*', '/'] <:+: s))

variable {s t sep : List Char}

/-! ## Where texts meet -/

theorem not_endsComment_nil : ¬ EndsComment [] := by decide

theorem endsComment_append_iff : EndsComment (s ++ t) ↔
    EndsComment s ∨ EndsComment t ∨ s.getLast? = some '*' ∧ t.head? = some '/' := by
  unfold EndsComment
  rw [List.infix_append_iff_ne_nil, ← List.singleton_suffix_iff_getLast?_eq_some,
    ← List.singleton_prefix_iff_head?_eq_some]
  refine or_congr_right (or_congr_right ⟨?_, fun h => ⟨['*'], ['/'], by simp, by simp, rfl, h⟩⟩)
  rintro ⟨front, back, hfront, hback, heq, h⟩
  obtain ⟨a, front, rfl⟩ := List.exists_cons_of_ne_nil hfront
  obtain ⟨b, back, rfl⟩ := List.exists_cons_of_ne_nil hback
  rw [List.cons_append] at heq
  obtain ⟨rfl, hrest⟩ := List.cons.inj heq
  cases front with
  | nil =>
    obtain ⟨rfl, rfl⟩ := List.cons.inj hrest
    exact h
  | cons c front => simpa using congrArg List.length hrest

theorem endsComment_cons_iff {c : Char} :
    EndsComment (c :: s) ↔ EndsComment s ∨ c = '*' ∧ s.head? = some '/' := by
  have hc : ¬ EndsComment [c] := fun h => absurd h.length_le (by simp)
  rw [← List.singleton_append, endsComment_append_iff, or_iff_right hc, List.getLast?_singleton,
    Option.some.injEq]

theorem not_endsComment_of_slash (h : '/' ∉ s) : ¬ EndsComment s :=
  fun hs => h (hs.subset (by simp))

theorem not_endsComment_of_star (h : '*' ∉ s) : ¬ EndsComment s :=
  fun hs => h (hs.subset (by simp))

theorem endsComment_append_of_head (h : t.head? ≠ some '/') :
    EndsComment (s ++ t) ↔ EndsComment s ∨ EndsComment t := by
  rw [endsComment_append_iff, or_iff_left (b := _ ∧ _) fun hmeet => h hmeet.2]

theorem endsComment_append_of_last (h : s.getLast? ≠ some '*') :
    EndsComment (s ++ t) ↔ EndsComment s ∨ EndsComment t := by
  rw [endsComment_append_iff, or_iff_left (b := _ ∧ _) fun hmeet => h hmeet.1]

/-! ## Trimming -/

theorem ne_of_isBlank {c : Char} (h : isBlank c = true) : c ≠ '*' ∧ c ≠ '/' := by
  constructor <;> rintro rfl <;> revert h <;> decide

theorem endsComment_trimEnd : EndsComment (trimEnd s) ↔ EndsComment s := by
  obtain ⟨back, hs, hback⟩ := exists_dropTrailing_append isBlank s
  have hslash : '/' ∉ back := fun h => (ne_of_isBlank (hback _ h)).2 rfl
  conv_rhs => rw [hs]
  rw [endsComment_append_of_head fun h => hslash (List.mem_of_mem_head? h),
    or_iff_left (not_endsComment_of_slash hslash), trimEnd]

theorem endsComment_trimStart : EndsComment (s.dropWhile isBlank) ↔ EndsComment s := by
  have hstar : '*' ∉ s.takeWhile isBlank := fun h =>
    (ne_of_isBlank (List.mem_takeWhile_imp h)).1 rfl
  conv_rhs => rw [← List.takeWhile_append_dropWhile (p := isBlank) (l := s)]
  rw [endsComment_append_of_last fun h => hstar (List.mem_of_getLast? h),
    or_iff_right (not_endsComment_of_star hstar)]

theorem endsComment_trim : EndsComment (trim s) ↔ EndsComment s :=
  endsComment_trimEnd.trans endsComment_trimStart

/-! ## Separated parts -/

/-- A text that keeps those on its two sides apart. -/
def KeepsApart (sep : List Char) : Prop :=
  (sep ≠ [] ∧ ¬ EndsComment sep) ∧ sep.head? ≠ some '/' ∧ sep.getLast? ≠ some '*'

instance (sep : List Char) : Decidable (KeepsApart sep) := inferInstanceAs (Decidable (_ ∧ _))

theorem endsComment_append_apart (h : KeepsApart sep) :
    EndsComment (s ++ (sep ++ t)) ↔ EndsComment s ∨ EndsComment t := by
  obtain ⟨⟨hne, hsep⟩, hhead, hlast⟩ := h
  have hrest : (sep ++ t).head? ≠ some '/' := by rwa [List.head?_append_of_ne_nil _ hne]
  rw [endsComment_append_of_head hrest, endsComment_append_of_last hlast, or_iff_right hsep]

theorem endsComment_behind (h : KeepsApart sep) : EndsComment (sep ++ t) ↔ EndsComment t := by
  simpa [not_endsComment_nil] using endsComment_append_apart h (s := []) (t := t)

theorem endsComment_before (h : KeepsApart sep) : EndsComment (s ++ sep) ↔ EndsComment s := by
  simpa [not_endsComment_nil] using endsComment_append_apart h (s := s) (t := [])

theorem endsComment_intercalate (h : KeepsApart sep) : ∀ parts : List (List Char),
    EndsComment (sep.intercalate parts) ↔ ∃ part ∈ parts, EndsComment part
  | [] => by simpa using not_endsComment_nil
  | [part] => by simp
  | part :: next :: parts => by
    rw [List.intercalate_cons_cons, List.append_assoc, endsComment_append_apart h,
      endsComment_intercalate h]
    simp

/-- A line feed keeps a star from a slash. -/
theorem endsComment_iff_splitOn :
    EndsComment s ↔ ∃ line ∈ s.splitOn '\n', EndsComment line := by
  have hfeed : KeepsApart ['\n'] := by decide
  rw [← endsComment_intercalate hfeed, List.intercalate_splitOn]

/-! ## Doubled quotes -/

theorem head?_doubleQuotes : ∀ s : List Char, (doubleQuotes s).head? = s.head?
  | [] => rfl
  | c :: s => by
    rw [doubleQuotes, List.flatMap_cons]
    split
    · next h => simp [h]
    · rfl

theorem endsComment_doubleQuotes : ∀ s : List Char,
    EndsComment (doubleQuotes s) ↔ EndsComment s
  | [] => Iff.rfl
  | c :: s => by
    rw [doubleQuotes, List.flatMap_cons, endsComment_cons_iff, ← endsComment_doubleQuotes s,
      ← head?_doubleQuotes s]
    split
    · next h =>
      subst h
      show EndsComment ('\x22' :: '\x22' :: doubleQuotes s) ↔ _
      simp [endsComment_cons_iff]
    · exact endsComment_cons_iff

end AnnotatedEntity.Text
