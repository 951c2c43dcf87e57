/-
Texts that are cut at a character, and texts that are trimmed. Trimming takes nothing but characters
that pass the test, and it takes as many as there are: what is put around a text and passes the test
is gone again (`stripBoth_append`), and what is trimmed stays as it is (`stripBoth_stripBoth`).
-/
import AnnotatedEntity.Text.Blank
import Mathlib.Data.List.TakeWhile

namespace AnnotatedEntity.Text

variable {p : Char → Bool} {stop sep : Char} {s before after : List Char}

/-! ## Up to a character -/

theorem takeWhile_append_stop (h : p stop = false) (rest : List Char) :
    ∀ s : List Char, (s ++ stop :: rest).takeWhile p = s.takeWhile p
  | [] => by simp [h]
  | c :: s => by simp [List.takeWhile_cons, takeWhile_append_stop h rest s]

theorem dropWhile_append_stop (h : p stop = false) (rest : List Char) :
    ∀ s : List Char, (s ++ stop :: rest).dropWhile p = s.dropWhile p ++ stop :: rest
  | [] => by simp [h]
  | c :: s => by
    rw [List.cons_append, List.dropWhile_cons, List.dropWhile_cons, dropWhile_append_stop h rest s]
    split <;> rfl

/-- What stands before a character that stays is not trimmed. -/
theorem dropTrailing_append_stop (h : p stop = false) (front s : List Char) :
    dropTrailing p (front ++ stop :: s) = front ++ stop :: dropTrailing p s := by
  rw [dropTrailing, List.reverse_append, List.reverse_cons, List.append_assoc,
    List.singleton_append, dropWhile_append_stop h, dropTrailing]
  simp

theorem forall_ne_of_not_mem (h : sep ∉ s) : ∀ c ∈ s, decide (c ≠ sep) = true := fun _ hc =>
  decide_eq_true (ne_of_mem_of_not_mem hc h)

theorem takeWhile_of_not_mem (h : sep ∉ s) : s.takeWhile (· ≠ sep) = s :=
  List.takeWhile_eq_self_iff.mpr (forall_ne_of_not_mem h)

theorem dropWhile_of_not_mem (h : sep ∉ s) : s.dropWhile (· ≠ sep) = [] :=
  List.dropWhile_eq_nil_iff.mpr (forall_ne_of_not_mem h)

theorem dropWhile_of_head (h : ∀ c ∈ s.head?, p c = false) : s.dropWhile p = s := by
  cases s with
  | nil => rfl
  | cons c s =>
    have hc : p c = false := h c (by simp)
    simp [hc]

theorem takeWhile_of_head (h : ∀ c ∈ s.head?, p c = false) : s.takeWhile p = [] := by
  cases s with
  | nil => rfl
  | cons c s =>
    have hc : p c = false := h c (by simp)
    simp [hc]

/-- Two texts that are cut at the first character that fails the test are the same part by part. -/
theorem append_inj_of_head {front back front' back' : List Char} (hfront : ∀ c ∈ front, p c = true)
    (hfront' : ∀ c ∈ front', p c = true) (hback : ∀ c ∈ back.head?, p c = false)
    (hback' : ∀ c ∈ back'.head?, p c = false) (h : front ++ back = front' ++ back') :
    front = front' ∧ back = back' := by
  have htake := congrArg (List.takeWhile p) h
  rw [List.takeWhile_append_of_pos hfront, List.takeWhile_append_of_pos hfront',
    takeWhile_of_head hback, takeWhile_of_head hback', List.append_nil, List.append_nil] at htake
  subst htake
  exact ⟨rfl, List.append_cancel_left h⟩

/-- A text in which a character occurs is cut at the last place. -/
theorem exists_append_cons_of_mem {c : Char} (h : c ∈ s) :
    ∃ front back, s = front ++ c :: back ∧ c ∉ back := by
  obtain ⟨back, front, hs, hback⟩ := List.eq_append_cons_of_mem (List.mem_reverse.mpr h)
  refine ⟨front.reverse, back.reverse, ?_, by simpa using hback⟩
  rw [← List.reverse_reverse s, hs]
  simp

/-- A text with a character that fails the test is cut at the first one. -/
theorem exists_first_of_not_forall (h : ¬ ∀ c ∈ s, p c = true) :
    ∃ front c back, s = front ++ c :: back ∧ (∀ d ∈ front, p d = true) ∧ p c = false := by
  have hne : s.dropWhile p ≠ [] := fun hnil => h (List.dropWhile_eq_nil_iff.mp hnil)
  obtain ⟨c, back, hback⟩ := List.exists_cons_of_ne_nil hne
  have hc := List.head?_dropWhile_not p s
  rw [hback] at hc
  refine ⟨s.takeWhile p, c, back, ?_, fun d hd => List.mem_takeWhile_imp hd, hc⟩
  rw [← hback, List.takeWhile_append_dropWhile]

/-- A text with a character that fails the test is cut at the last one. -/
theorem exists_last_of_not_forall (h : ¬ ∀ c ∈ s, p c = true) :
    ∃ front c back, s = front ++ c :: back ∧ (∀ d ∈ back, p d = true) ∧ p c = false := by
  have hreverse : ¬ ∀ c ∈ s.reverse, p c = true := by simpa using h
  obtain ⟨back, c, front, hs, hback, hc⟩ := exists_first_of_not_forall hreverse
  refine ⟨front.reverse, c, back.reverse, ?_, by simpa using hback, hc⟩
  rw [← List.reverse_reverse s, hs]
  simp

/-! ## Between the characters that separate -/

/-- No part holds the separator. -/
theorem not_mem_of_mem_splitOn : ∀ {s part : List Char}, part ∈ s.splitOn sep → sep ∉ part
  | [], part, h => by
    obtain rfl := List.mem_singleton.mp h
    exact List.not_mem_nil
  | c :: s, part, h => by
    obtain ⟨first, others, hparts⟩ := List.exists_cons_of_ne_nil (List.splitOn_ne_nil sep s)
    have hs : ∀ line ∈ first :: others, sep ∉ line := fun line hline =>
      not_mem_of_mem_splitOn (hparts ▸ hline)
    rw [List.splitOn_cons_eq_if_modifyHead, hparts] at h
    split at h
    · rcases List.mem_cons.mp h with rfl | h
      · exact List.not_mem_nil
      · exact hs part h
    · next hc =>
      rcases List.mem_cons.mp h with rfl | h
      · exact List.not_mem_cons_of_ne_of_not_mem (fun heq => hc (beq_iff_eq.mpr heq.symm))
          (hs first List.mem_cons_self)
      · exact hs part (List.mem_cons_of_mem _ h)

/-! ## Trimming -/

/-- No character that ASCII prints is blank, but for the space. -/
theorem isBlank_eq_false_of_graphic {c : Char} (hfirst : 0x21 ≤ c.toNat) (hlast : c.toNat ≤ 0x7E) :
    isBlank c = false := by
  have hranges : ∀ r ∈ blankRanges, r.2 < 0x21 ∨ 0x7E < r.1 := by decide
  rw [isBlank, Bool.eq_false_iff, ne_eq, within_iff]
  rintro ⟨r, hr, hlow, hhigh⟩
  rcases hranges r hr with h | h <;> omega

theorem dropTrailing_of_forall_not (h : ∀ c ∈ s, p c = false) : dropTrailing p s = s := by
  rw [dropTrailing, List.dropWhile_eq_self_iff.mpr, List.reverse_reverse]
  intro hlen
  simpa using h _ (List.mem_reverse.mp (List.getElem_mem hlen))

theorem trim_of_forall_not_isBlank (h : ∀ c ∈ s, isBlank c = false) : trim s = s := by
  rw [trim, stripBoth, List.dropWhile_eq_self_iff.mpr, dropTrailing_of_forall_not h]
  intro hlen
  simpa using h _ (List.getElem_mem hlen)

/-- Only characters that pass the test are taken from the end. -/
theorem exists_dropTrailing_append (p : Char → Bool) (s : List Char) :
    ∃ back, s = dropTrailing p s ++ back ∧ ∀ c ∈ back, p c = true := by
  refine ⟨(s.reverse.takeWhile p).reverse, ?_, fun c hc => ?_⟩
  · rw [dropTrailing, ← List.reverse_append, List.takeWhile_append_dropWhile, List.reverse_reverse]
  · exact List.mem_takeWhile_imp (List.mem_reverse.mp hc)

theorem dropTrailing_append (h : ∀ c ∈ after, p c = true) (s : List Char) :
    dropTrailing p (s ++ after) = dropTrailing p s := by
  rw [dropTrailing, List.reverse_append,
    List.dropWhile_append_of_pos fun c hc => h c (List.mem_reverse.mp hc), dropTrailing]

theorem dropTrailing_eq_nil_iff : dropTrailing p s = [] ↔ ∀ c ∈ s, p c = true := by
  rw [dropTrailing, List.reverse_eq_nil_iff, List.dropWhile_eq_nil_iff]
  simp

theorem mem_of_mem_dropTrailing {c : Char} (h : c ∈ dropTrailing p s) : c ∈ s := by
  obtain ⟨back, hs, -⟩ := exists_dropTrailing_append p s
  rw [hs]
  exact List.mem_append_left back h

theorem getLast_dropTrailing (s : List Char) : ∀ c ∈ (dropTrailing p s).getLast?, p c = false := by
  intro c hc
  have hnot := List.head?_dropWhile_not p s.reverse
  rw [dropTrailing, List.getLast?_reverse] at hc
  rwa [hc] at hnot

/-- What comes in front of a text does not matter to what is taken from its end. -/
theorem dropTrailing_append_dropTrailing (front s : List Char) :
    dropTrailing p (front ++ dropTrailing p s) = dropTrailing p (front ++ s) := by
  obtain ⟨back, hs, hback⟩ := exists_dropTrailing_append p s
  calc dropTrailing p (front ++ dropTrailing p s)
    _ = dropTrailing p (front ++ dropTrailing p s ++ back) := (dropTrailing_append hback _).symm
    _ = dropTrailing p (front ++ s) := by rw [List.append_assoc, ← hs]

/-- What passes the test around a text is gone again. -/
theorem stripBoth_append (hbefore : ∀ c ∈ before, p c = true) (hafter : ∀ c ∈ after, p c = true)
    (s : List Char) : stripBoth p (before ++ (s ++ after)) = stripBoth p s := by
  rw [stripBoth, List.dropWhile_append_of_pos hbefore, List.dropWhile_append, stripBoth]
  split
  · next h =>
    have hs : s.dropWhile p = [] := List.isEmpty_iff.mp h
    rw [hs, List.dropWhile_eq_nil_iff.mpr hafter]
  · exact dropTrailing_append hafter _

/-- Only characters that pass the test are taken from the ends. -/
theorem exists_append_stripBoth (p : Char → Bool) (s : List Char) :
    ∃ before after, s = before ++ (stripBoth p s ++ after) ∧ (∀ c ∈ before, p c = true) ∧
      ∀ c ∈ after, p c = true := by
  obtain ⟨after, hs, hafter⟩ := exists_dropTrailing_append p (s.dropWhile p)
  refine ⟨s.takeWhile p, after, ?_, fun c hc => List.mem_takeWhile_imp hc, hafter⟩
  rw [stripBoth, ← hs, List.takeWhile_append_dropWhile]

theorem stripBoth_sublist (p : Char → Bool) (s : List Char) : (stripBoth p s).Sublist s := by
  have hend : (dropTrailing p (s.dropWhile p)).Sublist (s.dropWhile p).reverse.reverse :=
    (List.dropWhile_sublist p).reverse
  rw [List.reverse_reverse] at hend
  exact hend.trans (List.dropWhile_sublist p)

theorem stripBoth_stripBoth (p : Char → Bool) (s : List Char) :
    stripBoth p (stripBoth p s) = stripBoth p s := by
  obtain ⟨before, after, hs, hbefore, hafter⟩ := exists_append_stripBoth p s
  calc stripBoth p (stripBoth p s)
    _ = stripBoth p (before ++ (stripBoth p s ++ after)) :=
      (stripBoth_append hbefore hafter _).symm
    _ = stripBoth p s := by rw [← hs]

/-- A text stays as it is exactly where neither its first nor its last character passes the
test. -/
theorem stripBoth_eq_self_iff : stripBoth p s = s ↔
    (∀ c ∈ s.head?, p c = false) ∧ ∀ c ∈ s.getLast?, p c = false := by
  constructor
  · intro h
    -- A character at an end that passes the test would be gone, and the text would be shorter.
    have hshort : ∀ before rest after, s = before ++ (rest ++ after) → before ++ after ≠ [] →
        ¬ ((∀ c ∈ before, p c = true) ∧ ∀ c ∈ after, p c = true) := by
      rintro before rest after hs hne ⟨hbefore, hafter⟩
      have hrest : s = stripBoth p rest := by rw [← h, hs, stripBoth_append hbefore hafter]
      have hlength := (stripBoth_sublist p rest).length_le
      rw [← hrest, hs] at hlength
      simp only [List.length_append] at hlength
      have hzero : (before ++ after).length = 0 := by
        rw [List.length_append]
        omega
      exact hne (List.length_eq_zero_iff.mp hzero)
    refine ⟨fun c hc => ?_, fun c hc => ?_⟩
    · obtain ⟨rest, hs⟩ := List.head?_eq_some_iff.mp hc
      simpa using hshort [c] rest [] (by simpa using hs) (by simp)
    · obtain ⟨rest, hs⟩ := List.getLast?_eq_some_iff.mp hc
      simpa using hshort [] rest [c] hs (by simp)
  · rintro ⟨hhead, hlast⟩
    rw [← List.head?_reverse] at hlast
    rw [stripBoth, dropWhile_of_head hhead, dropTrailing, dropWhile_of_head hlast,
      List.reverse_reverse]

/-! ## At the last separator -/

/-- What stands before the last separator of a text, and what stands behind it: all of the text if
there is no separator. -/
def cutLast (sep : Char) (s : List Char) : List Char × List Char :=
  let front := dropTrailing (· ≠ sep) s
  (front.dropLast, s.drop front.length)

theorem cutLast_append {back : List Char} (h : sep ∉ back) (front : List Char) :
    cutLast sep (front ++ sep :: back) = (front, back) := by
  have hback : dropTrailing (· ≠ sep) back = [] :=
    dropTrailing_eq_nil_iff.mpr (forall_ne_of_not_mem h)
  have hfront : dropTrailing (· ≠ sep) (front ++ sep :: back) = front ++ [sep] := by
    rw [dropTrailing_append_stop (by simp), hback]
  rw [cutLast, hfront]
  simp

end AnnotatedEntity.Text
