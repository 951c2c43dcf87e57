/-
Comments as lines of a doc block. The lines of a comment are those between its line feeds, trimmed
at their ends and behind a star, so that they depend on no blank around the comment or at the end of
a line, nor on how the lines are ended (`commentLines_congr`). They lose nothing else: without the
stars they spell out a comment that has these very lines (`docLines_normalForm`).
-/
import AnnotatedEntity.Proofs.BufferText
import AnnotatedEntity.Proofs.ColumnSource
import AnnotatedEntity.Text.Lines
import Mathlib.Data.List.Basic

namespace AnnotatedEntity

/-! ## Lines without the blanks at their ends -/

namespace Text

variable {s blanks : List Char} {c : Char}

/-- The lines between the line feeds of a text, without the blanks at their ends. -/
def trimmedLines (s : List Char) : List (List Char) := (s.splitOn '\n').map trimEnd

theorem trimmedLines_ne_nil (s : List Char) : trimmedLines s ≠ [] :=
  fun h => List.splitOn_ne_nil '\n' s (List.map_eq_nil_iff.mp h)

theorem not_mem_of_mem_trimmedLines {line : List Char} (h : line ∈ trimmedLines s) :
    '\n' ∉ line := by
  obtain ⟨part, hpart, rfl⟩ := List.mem_map.mp h
  exact fun hfeed => not_mem_of_mem_splitOn hpart (mem_of_mem_dropTrailing hfeed)

theorem getLast_of_mem_trimmedLines {line : List Char} (h : line ∈ trimmedLines s) :
    ∀ last ∈ line.getLast?, isBlank last = false := by
  obtain ⟨part, -, rfl⟩ := List.mem_map.mp h
  exact getLast_dropTrailing part

theorem trimmedLines_append_feed (s t : List Char) :
    trimmedLines (s ++ '\n' :: t) = trimmedLines s ++ trimmedLines t := by
  rw [trimmedLines, List.splitOn_append_cons_self, List.map_append, ← trimmedLines, ← trimmedLines]

theorem trimmedLines_feed (s : List Char) : trimmedLines ('\n' :: s) = [] :: trimmedLines s :=
  trimmedLines_append_feed [] s

theorem trimmedLines_of_not_mem (h : '\n' ∉ s) : trimmedLines s = [trimEnd s] := by
  rw [trimmedLines, List.splitOn_eq_singleton h, List.map_singleton]

/-- A character that ends no line comes in front of the first one. -/
theorem trimmedLines_cons (h : c ≠ '\n') (s : List Char) :
    trimmedLines (c :: s) = (trimmedLines s).modifyHead fun line => trimEnd (c :: line) := by
  obtain ⟨first, others, hparts⟩ := List.exists_cons_of_ne_nil (List.splitOn_ne_nil '\n' s)
  have hfirst : trimEnd (c :: trimEnd first) = trimEnd (c :: first) :=
    dropTrailing_append_dropTrailing [c] first
  have hfeed : ¬ (c == '\n') = true := fun heq => h (beq_iff_eq.mp heq)
  rw [trimmedLines, trimmedLines, List.splitOn_cons_eq_if_modifyHead, if_neg hfeed, hparts]
  simp [hfirst]

/-- Blanks at the end of the last line are gone. -/
theorem trimmedLines_append (hblank : ∀ c ∈ blanks, isBlank c = true) (hfeed : '\n' ∉ blanks) :
    trimmedLines (s ++ blanks) = trimmedLines s := by
  by_cases h : '\n' ∈ s
  · obtain ⟨front, back, rfl, hback⟩ := exists_append_cons_of_mem h
    have hlast : '\n' ∉ back ++ blanks := by simp [hback, hfeed]
    rw [List.append_assoc, List.cons_append, trimmedLines_append_feed, trimmedLines_append_feed,
      trimmedLines_of_not_mem hlast, trimmedLines_of_not_mem hback]
    exact congrArg (fun line => trimmedLines front ++ [line]) (dropTrailing_append hblank back)
  · have hlast : '\n' ∉ s ++ blanks := by simp [h, hfeed]
    rw [trimmedLines_of_not_mem hlast, trimmedLines_of_not_mem h]
    exact congrArg (fun line => [line]) (dropTrailing_append hblank s)

/-- A text that begins with no blank has a first line that is not empty. -/
theorem head?_trimmedLines (h : isBlank c = false) (s : List Char) :
    (trimmedLines (c :: s)).head? ≠ some [] := by
  have hfeed : c ≠ '\n' := by
    rintro rfl
    exact absurd h (by decide)
  obtain ⟨first, others, hlines⟩ := List.exists_cons_of_ne_nil (trimmedLines_ne_nil s)
  rw [trimmedLines_cons hfeed, hlines, List.modifyHead_cons, List.head?_cons, trimEnd,
    ← List.nil_append (c :: first), dropTrailing_append_stop h]
  simp

/-- A text that ends with no blank has a last line that is not empty. -/
theorem getLast?_trimmedLines (h : isBlank c = false) (s : List Char) :
    (trimmedLines (s ++ [c])).getLast? ≠ some [] := by
  have hfeed : '\n' ≠ c := by
    rintro rfl
    exact absurd h (by decide)
  have hend : ∀ back : List Char, '\n' ∉ back → trimmedLines (back ++ [c]) = [back ++ [c]] := by
    intro back hback
    have hline : '\n' ∉ back ++ [c] := by simp [hback, hfeed]
    rw [trimmedLines_of_not_mem hline, trimEnd, dropTrailing_append_stop h]
    rfl
  by_cases hs : '\n' ∈ s
  · obtain ⟨front, back, rfl, hback⟩ := exists_append_cons_of_mem hs
    rw [List.append_assoc, List.cons_append, trimmedLines_append_feed, hend back hback]
    simp
  · rw [hend s hs]
    simp

/-! ### Other ends of lines -/

/-- The text with a carriage return before each line feed. -/
def withReturns (s : List Char) : List Char :=
  s.flatMap fun c => if c = '\n' then ['\r', '\n'] else [c]

theorem trimmedLines_withReturns (s : List Char) :
    trimmedLines (withReturns s) = trimmedLines s := by
  induction s with
  | nil => rfl
  | cons c s ih =>
    by_cases h : c = '\n'
    · subst h
      have hreturn : trimEnd ['\r'] = [] := by decide
      show trimmedLines ('\r' :: '\n' :: withReturns s) = _
      rw [trimmedLines_cons (by decide), trimmedLines_feed, trimmedLines_feed, ih,
        List.modifyHead_cons, hreturn]
    · have hcons : withReturns (c :: s) = c :: withReturns s := by simp [withReturns, h]
      rw [hcons, trimmedLines_cons h, trimmedLines_cons h, ih]

/-- Lines that end with a line feed or with a carriage return and a line feed are the same when they
are trimmed, if only the last one has no end. -/
theorem map_trimEnd_lines (hne : s ≠ []) (hlast : s.getLast? ≠ some '\n') :
    (lines s).map trimEnd = trimmedLines s := by
  fun_induction lines s with
  | case1 => exact absurd rfl hne
  | case2 rest ih =>
    have hrest : rest ≠ [] := by
      rintro rfl
      exact hlast rfl
    rw [List.getLast?_cons_of_ne_nil hrest] at hlast
    rw [List.map_cons, ih hrest hlast, trimmedLines_feed]
    rfl
  | case3 rest ih =>
    have hrest : rest ≠ [] := by
      rintro rfl
      exact hlast rfl
    rw [List.getLast?_cons_of_ne_nil (by simp), List.getLast?_cons_of_ne_nil hrest] at hlast
    have hreturn : trimEnd ['\r'] = [] := by decide
    rw [List.map_cons, ih hrest hlast, trimmedLines_cons (by decide), trimmedLines_feed,
      List.modifyHead_cons, hreturn]
    rfl
  | case4 c rest hfeed hreturn hlines ih =>
    cases rest with
    | nil => rw [trimmedLines_of_not_mem (by simpa using Ne.symm hfeed), List.map_singleton]
    | cons d rest =>
      rw [List.getLast?_cons_of_ne_nil (by simp)] at hlast
      have hnil := ih (by simp) hlast
      rw [hlines, List.map_nil] at hnil
      exact absurd hnil.symm (trimmedLines_ne_nil _)
  | case5 c rest hfeed hreturn line others hlines ih =>
    have hrest : rest ≠ [] := by
      rintro rfl
      cases hlines
    rw [List.getLast?_cons_of_ne_nil hrest] at hlast
    rw [trimmedLines_cons hfeed, ← ih hrest hlast, hlines, List.map_cons, List.map_cons,
      List.modifyHead_cons]
    exact congrArg (· :: _) (dropTrailing_append_dropTrailing [c] line).symm

end Text

/-! ## What the lines of a comment depend on -/

open Text (isBlank trimEnd trimmedLines)

/-- A line of a doc block for a text that has no blanks at its end. -/
def starLine : List Char → List Char
  | [] => " *".toList
  | text => " * ".toList ++ text

theorem docLine_eq_starLine (part : List Char) : docLine part = starLine (trimEnd part) := by
  rcases List.eq_nil_or_concat (trimEnd part) with h | ⟨front, last, h⟩
  · rw [docLine, h]
    decide
  · rw [List.concat_eq_append] at h
    have hlast : isBlank last = false := Text.getLast_dropTrailing part last (by
      rw [← trimEnd, h]
      simp)
    have hstar : ∀ text : List Char, text ≠ [] → starLine text = " * ".toList ++ text := by
      intro text hne
      cases text with
      | nil => exact absurd rfl hne
      | cons c text => rfl
    rw [docLine, h, hstar _ (by simp), ← List.append_assoc, trimEnd,
      Text.dropTrailing_append_stop hlast]
    rfl

theorem starLine_eq_bare_iff {text : List Char} : starLine text = " *".toList ↔ text = [] := by
  cases text <;> simp [starLine]

/-- Without the star and the blanks at its sides a line is the text it was made of. -/
theorem drop_starLine (text : List Char) : (starLine text).drop 3 = text := by
  cases text <;> rfl

theorem commentLines_eq (comment : List Char) : commentLines comment =
    if Text.trim comment = [] then [] else (trimmedLines (Text.trim comment)).map starLine := by
  rw [commentLines]
  split
  · next h => rw [if_pos h]
  · next h =>
    rw [if_neg h, trimmedLines, List.map_map]
    exact List.map_congr_left fun part _ => docLine_eq_starLine part

section

variable {s t before after blanks : List Char}

/-- Blanks around a comment make no difference. -/
theorem commentLines_append (hbefore : ∀ c ∈ before, isBlank c = true)
    (hafter : ∀ c ∈ after, isBlank c = true) (s : List Char) :
    commentLines (before ++ (s ++ after)) = commentLines s := by
  have htrim : Text.trim (before ++ (s ++ after)) = Text.trim s :=
    Text.stripBoth_append hbefore hafter s
  rw [commentLines_eq, commentLines_eq, htrim]

theorem commentLines_blanks_append (hbefore : ∀ c ∈ before, isBlank c = true) (s : List Char) :
    commentLines (before ++ s) = commentLines s := by
  have hnone : ∀ c ∈ ([] : List Char), isBlank c = true := by simp
  have h := commentLines_append hbefore hnone s
  rwa [List.append_nil] at h

theorem commentLines_append_blanks (hafter : ∀ c ∈ after, isBlank c = true) (s : List Char) :
    commentLines (s ++ after) = commentLines s := by
  have hnone : ∀ c ∈ ([] : List Char), isBlank c = true := by simp
  exact commentLines_append hnone hafter s

/-- A comment that has nothing to trim around it. -/
theorem commentLines_of_bare {first last : Char} (hfirst : isBlank first = false)
    (hlast : isBlank last = false) (h : s.head? = some first) (h' : s.getLast? = some last) :
    commentLines s = (trimmedLines s).map starLine := by
  have htrim : Text.trim s = s := Text.stripBoth_eq_self_iff.mpr
    ⟨fun c hc => Option.some.inj (h.symm.trans hc) ▸ hfirst,
      fun c hc => Option.some.inj (h'.symm.trans hc) ▸ hlast⟩
  have hne : s ≠ [] := fun hnil => by simp [hnil] at h
  rw [commentLines_eq, htrim, if_neg hne]

/-- Blanks at the end of a line make no difference. Where there is nothing but blanks on one side
of its line feed, the other side is the whole comment. -/
theorem commentLines_blanks_feed (hblank : ∀ c ∈ blanks, isBlank c = true) (hfeed : '\n' ∉ blanks)
    (front back : List Char) :
    commentLines (front ++ (blanks ++ '\n' :: back)) = commentLines (front ++ '\n' :: back) := by
  have hend : isBlank '\n' = true := by decide
  by_cases hback : ∀ c ∈ back, isBlank c = true
  · have hrest : ∀ c ∈ '\n' :: back, isBlank c = true := by simpa [hend] using hback
    have hrest' : ∀ c ∈ blanks ++ '\n' :: back, isBlank c = true :=
      List.forall_mem_append.mpr ⟨hblank, hrest⟩
    rw [commentLines_append_blanks hrest', commentLines_append_blanks hrest]
  by_cases hfront : ∀ c ∈ front, isBlank c = true
  · have hfeed' : ∀ c ∈ ['\n'], isBlank c = true := by simp [hend]
    have hstart : ∀ c ∈ front ++ ['\n'], isBlank c = true :=
      List.forall_mem_append.mpr ⟨hfront, hfeed'⟩
    have hstart' : ∀ c ∈ front ++ (blanks ++ ['\n']), isBlank c = true :=
      List.forall_mem_append.mpr ⟨hfront, List.forall_mem_append.mpr ⟨hblank, hfeed'⟩⟩
    have h := commentLines_blanks_append hstart back
    have h' := commentLines_blanks_append hstart' back
    simp only [List.append_assoc, List.singleton_append] at h h'
    rw [h, h']
  · obtain ⟨before, first, f, rfl, hbefore, hfirst⟩ := Text.exists_first_of_not_forall hfront
    obtain ⟨b, last, after, rfl, hafter, hlast⟩ := Text.exists_last_of_not_forall hback
    have hwhole : ∀ middle, commentLines
        (before ++ first :: f ++ (middle ++ '\n' :: (b ++ last :: after))) =
          (trimmedLines (first :: f ++ middle) ++ trimmedLines (b ++ [last])).map starLine := by
      intro middle
      have hsplit : before ++ first :: f ++ (middle ++ '\n' :: (b ++ last :: after)) =
          before ++ ((first :: f ++ middle ++ '\n' :: (b ++ [last])) ++ after) := by simp
      have hend : (first :: f ++ middle ++ '\n' :: (b ++ [last])).getLast? = some last := by
        rw [← List.cons_append, ← List.append_assoc, List.getLast?_concat]
      rw [hsplit, commentLines_append hbefore hafter, ← Text.trimmedLines_append_feed]
      exact commentLines_of_bare hfirst hlast (by simp) hend
    have h := hwhole []
    rw [List.nil_append, List.append_nil] at h
    rw [hwhole blanks, h, Text.trimmedLines_append hblank hfeed]

/-- Every line of a comment can be trimmed at its end. -/
theorem commentLines_intercalate : ∀ (parts : List (List Char)) (front : List Char),
    (∀ part ∈ parts, '\n' ∉ part) →
    commentLines (front ++ ['\n'].intercalate (parts.map trimEnd)) =
      commentLines (front ++ ['\n'].intercalate parts)
  | [], _, _ => rfl
  | [part], front, _ => by
    obtain ⟨blanks, hpart, hblank⟩ := Text.exists_dropTrailing_append isBlank part
    have h := commentLines_append_blanks hblank (front ++ trimEnd part)
    rw [List.append_assoc, trimEnd, ← hpart] at h
    simpa [trimEnd] using h.symm
  | part :: next :: parts, front, hparts => by
    obtain ⟨hpart, hrest⟩ := List.forall_mem_cons.mp hparts
    obtain ⟨blanks, hcut, hblank⟩ := Text.exists_dropTrailing_append isBlank part
    have hfeed : '\n' ∉ blanks := fun hmem => hpart (hcut ▸ List.mem_append_right _ hmem)
    have ih := commentLines_intercalate (next :: parts) (front ++ trimEnd part ++ ['\n']) hrest
    calc commentLines (front ++ ['\n'].intercalate ((part :: next :: parts).map trimEnd))
      _ = commentLines (front ++ trimEnd part ++ ['\n'] ++
          ['\n'].intercalate ((next :: parts).map trimEnd)) := by
        simp [List.intercalate_cons_cons]
      _ = commentLines (front ++ trimEnd part ++ '\n' :: ['\n'].intercalate (next :: parts)) := by
        rw [ih, List.append_assoc _ ['\n'], List.singleton_append]
      _ = commentLines (front ++ trimEnd part ++
          (blanks ++ '\n' :: ['\n'].intercalate (next :: parts))) :=
        (commentLines_blanks_feed hblank hfeed _ _).symm
      _ = commentLines (front ++ ['\n'].intercalate (part :: next :: parts)) := by
        rw [List.intercalate_cons_cons, ← List.append_assoc _ blanks, List.append_assoc front,
          trimEnd, ← hcut]
        simp

theorem commentLines_trimmedLines (s : List Char) :
    commentLines (['\n'].intercalate (trimmedLines s)) = commentLines s := by
  have hlines := commentLines_intercalate (s.splitOn '\n') [] fun part hpart =>
    Text.not_mem_of_mem_splitOn hpart
  rwa [List.intercalate_splitOn] at hlines

/-- **What the lines of a comment depend on**: its lines, trimmed at their ends. -/
theorem commentLines_congr (h : trimmedLines s = trimmedLines t) :
    commentLines s = commentLines t := by
  rw [← commentLines_trimmedLines s, h, commentLines_trimmedLines t]

theorem commentLines_trim (s : List Char) : commentLines (Text.trim s) = commentLines s := by
  have htrim : Text.trim (Text.trim s) = Text.trim s := Text.stripBoth_stripBoth isBlank s
  rw [commentLines_eq, commentLines_eq, htrim]

end

/-! ## What the lines of a comment are -/

/-- Lines as they stand in a doc block: each is one line with no blank at its end, and the first one
and the last one have a text. -/
structure AreDocLines (lines : List String) : Prop where
  no_feed : ∀ line ∈ lines, '\n' ∉ line.toList
  no_blank_end : ∀ line ∈ lines, ∀ last ∈ line.toList.getLast?, isBlank last = false
  first : lines.head? ≠ some " *"
  last : lines.getLast? ≠ some " *"

/-- The comment that the lines of a doc block spell out. -/
def spelledOut (lines : List String) : String :=
  "\n".intercalate (lines.map fun line => String.ofList (line.toList.drop 3))

theorem not_mem_starLine {text : List Char} (h : '\n' ∉ text) : '\n' ∉ starLine text := by
  cases text with
  | nil => decide
  | cons c text => simpa [starLine] using h

theorem getLast_starLine {text : List Char} (h : ∀ last ∈ text.getLast?, isBlank last = false) :
    ∀ last ∈ (starLine text).getLast?, isBlank last = false := by
  cases text with
  | nil =>
    intro last hlast
    obtain rfl : '*' = last := Option.some.inj hlast
    decide
  | cons c text =>
    have hlast : (starLine (c :: text)).getLast? = (c :: text).getLast? :=
      List.getLast?_append_of_ne_nil " * ".toList (by simp)
    rwa [hlast]

theorem ofList_starLine_eq_iff {text : List Char} :
    String.ofList (starLine text) = " *" ↔ text = [] := by
  rw [← starLine_eq_bare_iff, ← String.toList_inj, String.toList_ofList]

/-- A line that is trimmed at its end, behind the star. -/
theorem starLine_trimEnd (part : List Char) : String.ofList (starLine (trimEnd part)) =
    if part.all isBlank then " *" else " * " ++ String.ofList (trimEnd part) := by
  have hnil : trimEnd part = [] ↔ part.all isBlank = true :=
    Text.dropTrailing_eq_nil_iff.trans List.all_eq_true.symm
  split
  · next h => rw [hnil.mpr h]; rfl
  · next h =>
    obtain ⟨c, rest, hrest⟩ := List.exists_cons_of_ne_nil (mt hnil.mp h)
    rw [hrest, starLine, String.ofList_append, String.ofList_toList]
    simp

namespace Column

variable {c : Column}

theorem docLines_of_eq_nil (h : Text.trim (c.comment.getD "").toList = []) : c.docLines = [] := by
  rw [docLines, commentLines_eq, if_pos h, List.map_nil]

/-- A comment that is not blank stands in the doc block line by line. -/
theorem docLines_of_ne_nil (h : Text.trim (c.comment.getD "").toList ≠ []) : c.docLines =
    (trimmedLines (Text.trim (c.comment.getD "").toList)).map (String.ofList ∘ starLine) := by
  rw [docLines, commentLines_eq, if_neg h, List.map_map]

theorem docLines_congr {d : Column}
    (h : commentLines (d.comment.getD "").toList = commentLines (c.comment.getD "").toList) :
    d.docLines = c.docLines := by
  rw [docLines, h, docLines]

theorem areDocLines_docLines (c : Column) : AreDocLines c.docLines := by
  by_cases h : Text.trim (c.comment.getD "").toList = []
  · rw [docLines_of_eq_nil h]
    exact ⟨by simp, by simp, by simp, by simp⟩
  · have hends := Text.stripBoth_eq_self_iff.mp
      (Text.stripBoth_stripBoth isBlank (c.comment.getD "").toList)
    rw [docLines_of_ne_nil h]
    rw [← Text.trim] at hends
    refine ⟨?no_feed, ?no_blank_end, ?first, ?last⟩
    case no_feed =>
      simp only [List.forall_mem_map, Function.comp_apply, String.toList_ofList]
      exact fun line hline => not_mem_starLine (Text.not_mem_of_mem_trimmedLines hline)
    case no_blank_end =>
      simp only [List.forall_mem_map, Function.comp_apply, String.toList_ofList]
      exact fun line hline => getLast_starLine (Text.getLast_of_mem_trimmedLines hline)
    case first =>
      obtain ⟨first, rest, htext⟩ := List.exists_cons_of_ne_nil h
      have hne := Text.head?_trimmedLines (hends.1 first (by simp [htext])) rest
      rw [List.head?_map, htext]
      intro hbare
      obtain ⟨line, hline, hstar⟩ := Option.map_eq_some_iff.mp hbare
      exact hne (ofList_starLine_eq_iff.mp hstar ▸ hline)
    case last =>
      obtain ⟨front, last, htext⟩ := (List.eq_nil_or_concat _).resolve_left h
      rw [List.concat_eq_append] at htext
      have hne := Text.getLast?_trimmedLines (hends.2 last (by simp [htext])) front
      rw [List.getLast?_map, htext]
      intro hbare
      obtain ⟨line, hline, hstar⟩ := Option.map_eq_some_iff.mp hbare
      exact hne (ofList_starLine_eq_iff.mp hstar ▸ hline)

/-- What the lines spell out is the comment, trimmed line by line. -/
theorem spelledOut_docLines (h : Text.trim (c.comment.getD "").toList ≠ []) :
    (spelledOut c.docLines).toList =
      ['\n'].intercalate (trimmedLines (Text.trim (c.comment.getD "").toList)) := by
  have hdrop : ∀ lines : List (List Char),
      ((lines.map (String.ofList ∘ starLine)).map fun line => String.ofList (line.toList.drop 3)).map
        String.toList = lines := by
    intro lines
    simp [Function.comp_def, drop_starLine]
  rw [spelledOut, String.toList_intercalate, docLines_of_ne_nil h, hdrop]
  rfl

/-- **Comments in a doc block.** A blank comment has no lines there. Any other one has a line for
each of its lines, a bare star or a star and what stands on it, and these lose nothing but blanks:
they spell out a comment with the same lines. Blanks around a comment and at the ends of its lines
make no difference, nor does it whether its lines end with a carriage return. -/
theorem docLines_normalForm (c : Column) :
    let comment := c.comment.getD ""
    let text := Text.trim comment.toList
    let linesOf (other : String) := docLines { c with comment := some other }
    (text = [] → c.docLines = []) ∧
    (text ≠ [] →
      c.docLines = (text.splitOn '\n').map (fun part =>
        if part.all isBlank then " *" else " * " ++ String.ofList (trimEnd part)) ∧
      c.docLines = (Text.lines text).map fun line => String.ofList (docLine line)) ∧
    AreDocLines c.docLines ∧
    linesOf (spelledOut c.docLines) = c.docLines ∧
    (∀ before after : String, (∀ ch ∈ before.toList, isBlank ch = true) →
      (∀ ch ∈ after.toList, isBlank ch = true) →
        linesOf (before ++ (comment ++ after)) = c.docLines) ∧
    (∀ other : String, trimmedLines other.toList = trimmedLines comment.toList →
      linesOf other = c.docLines) ∧
    linesOf (Text.onString Text.withReturns comment) = c.docLines := by
  intro comment text linesOf
  have hends := Text.stripBoth_eq_self_iff.mp (Text.stripBoth_stripBoth isBlank comment.toList)
  rw [← Text.trim] at hends
  refine ⟨docLines_of_eq_nil, fun h => ⟨?parts, ?lines⟩, areDocLines_docLines c, ?spelled, ?around,
    fun other h => docLines_congr (commentLines_congr h), ?returns⟩
  case parts =>
    rw [docLines_of_ne_nil h, trimmedLines, List.map_map]
    exact List.map_congr_left fun part _ => starLine_trimEnd part
  case lines =>
    have hlast : text.getLast? ≠ some '\n' := fun hfeed => absurd (hends.2 _ hfeed) (by decide)
    rw [docLines_of_ne_nil h, ← Text.map_trimEnd_lines h hlast, List.map_map]
    exact List.map_congr_left fun line _ => congrArg String.ofList (docLine_eq_starLine line).symm
  case spelled =>
    refine docLines_congr ?_
    by_cases h : text = []
    · rw [docLines_of_eq_nil h]
      exact (commentLines_trim comment.toList).symm.trans (congrArg commentLines h) |>.symm
    · rw [Option.getD_some, spelledOut_docLines h, commentLines_trimmedLines]
      exact commentLines_trim comment.toList
  case around =>
    intro before after hbefore hafter
    refine docLines_congr ?_
    rw [Option.getD_some, String.toList_append, String.toList_append]
    exact commentLines_append hbefore hafter comment.toList
  case returns =>
    refine docLines_congr (commentLines_congr ?_)
    rw [Option.getD_some, Text.toList_onString]
    exact Text.trimmedLines_withReturns comment.toList

example : docLines { name := "note", rawType := "TEXT", comment := some " One\t\r\n\r\n  two\n" } =
    [" * One", " *", " *   two"] := by decide +kernel

end Column

end AnnotatedEntity
