/-
The text of a buffer, read line by line. Each line of the buffer is a line of the text, empty ones
at either end too, so that the text gives the lines back if these hold no line feed themselves. The
one exception is a buffer that holds nothing but one empty line: its text is the one of a buffer
without lines (`text_applyAll`).
-/
import AnnotatedEntity.Proofs.Buffer
import AnnotatedEntity.Proofs.Text.Cut

namespace AnnotatedEntity

/-! ## Lines of a printed text -/

namespace Text

/-- The lines of a text that is printed with a line feed behind it. -/
def feedLines (s : String) : List String := (s.toList.splitOn '\n').map String.ofList

variable {s : String} {chars : List Char}

/-- A text without line feeds belongs to the first part of what it is put in front of. -/
theorem splitOn_feed_append (h : '\n' ∉ chars) (rest : List Char) :
    (chars ++ rest).splitOn '\n' = (rest.splitOn '\n').modifyHead (chars ++ ·) := by
  induction chars with
  | nil => exact (congrFun List.modifyHead_id _).symm
  | cons c chars ih =>
    obtain ⟨hc, hchars⟩ := List.ne_and_not_mem_of_not_mem_cons h
    have hfeed : ¬ (c == '\n') = true := fun heq => hc (beq_iff_eq.mp heq).symm
    rw [List.cons_append, List.splitOn_cons_eq_if_modifyHead, if_neg hfeed, ih hchars,
      List.modifyHead_modifyHead]
    rfl

theorem not_mem_of_mem_feedLines {line : String} (h : line ∈ feedLines s) :
    '\n' ∉ line.toList := by
  obtain ⟨part, hpart, rfl⟩ := List.mem_map.mp h
  rw [String.toList_ofList]
  exact not_mem_of_mem_splitOn hpart

theorem feedLines_ne_nil (s : String) : feedLines s ≠ [] :=
  fun h => List.splitOn_ne_nil '\n' s.toList (List.map_eq_nil_iff.mp h)

theorem feedLines_of_not_mem (h : '\n' ∉ s.toList) : feedLines s = [s] := by
  rw [feedLines, List.splitOn_eq_singleton h, List.map_singleton, String.ofList_toList]

def firstLine (s : String) : String := (feedLines s).head (feedLines_ne_nil s)

/-- What is put in front of a text comes in front of its first line only. -/
theorem feedLines_append (h : '\n' ∉ s.toList) (t : String) :
    feedLines (s ++ t) = (s ++ firstLine t) :: (feedLines t).tail := by
  obtain ⟨first, others, hparts⟩ := List.exists_cons_of_ne_nil (List.splitOn_ne_nil '\n' t.toList)
  simp only [firstLine, feedLines, String.toList_append, splitOn_feed_append h, hparts]
  simp

theorem ended_feedLines (s : String) : CodeBuffer.ended (feedLines s) = s ++ "\n" := by
  obtain ⟨first, others, hlines⟩ := List.exists_cons_of_ne_nil (feedLines_ne_nil s)
  have hjoined : "\n".intercalate (feedLines s) = s := by
    apply String.toList_injective
    rw [String.toList_intercalate, feedLines, List.map_map]
    simp
  rw [hlines] at hjoined ⊢
  rw [← CodeBuffer.intercalate_feed, hjoined]

/-! ## Lines that are ended -/

/-- The lines of a text that have a line feed behind them. -/
def endedLines (s : String) : List String := (feedLines s).dropLast

theorem feedLines_ended : ∀ {lines : List String}, (∀ line ∈ lines, '\n' ∉ line.toList) →
    feedLines (CodeBuffer.ended lines) = lines ++ [""]
  | [], _ => by simp [feedLines]
  | line :: lines, h => by
    obtain ⟨hline, hlines⟩ := List.forall_mem_cons.mp h
    have hchars : (CodeBuffer.ended (line :: lines)).toList =
        line.toList ++ '\n' :: (CodeBuffer.ended lines).toList := by simp
    rw [feedLines, hchars, List.splitOn_append_cons_self_of_not_mem hline, List.map_cons,
      String.ofList_toList, ← feedLines, feedLines_ended hlines, List.cons_append]

/-- Lines without line feeds are read back from their text. -/
theorem endedLines_ended {lines : List String} (h : ∀ line ∈ lines, '\n' ∉ line.toList) :
    endedLines (CodeBuffer.ended lines) = lines := by
  rw [endedLines, feedLines_ended h, List.dropLast_concat]

end Text

/-! ## Buffers that edits have filled -/

namespace CodeBuffer

open Text (endedLines)

/-- What is read back of the lines of a buffer. -/
theorem endedLines_text {b : CodeBuffer} (h : ∀ line ∈ b.lines, '\n' ∉ line.toList) :
    endedLines b.text = if b.lines = [""] then [] else b.lines := by
  rw [text_eq]
  split
  · rfl
  · exact Text.endedLines_ended h

theorem text_eq_empty_iff (b : CodeBuffer) : b.text = "" ↔ b.lines = [] ∨ b.lines = [""] := by
  rw [text_eq]
  split
  · next h => simp [h]
  · next h => rw [ended_eq_empty_iff, or_iff_left h]

/-- **The text of a buffer** that any edits have filled is made of its lines, each with a line feed
behind it, unless there is one empty line and nothing else. Lines without line feeds are read back
from it, that one excepted, so that two buffers of one text have the same lines, or neither has more
than an empty line. -/
theorem text_applyAll {n m : Nat} {es fs : List Edit}
    (hes : ∀ line ∈ ((ofIndentation n).applyAll es).lines, '\n' ∉ line.toList)
    (hfs : ∀ line ∈ ((ofIndentation m).applyAll fs).lines, '\n' ∉ line.toList) :
    let b := (ofIndentation n).applyAll es
    let b' := (ofIndentation m).applyAll fs
    (b.text = if b.lines = [""] then "" else ended b.lines) ∧
      endedLines b.text = (if b.lines = [""] then [] else b.lines) ∧
      (b.text = b'.text ↔ b.lines = b'.lines ∨
        (b.lines = [] ∨ b.lines = [""]) ∧ (b'.lines = [] ∨ b'.lines = [""])) := by
  intro b b'
  refine ⟨text_eq b, endedLines_text hes, fun htext => ?_, ?_⟩
  · by_cases hempty : b.text = ""
    · exact .inr ⟨b.text_eq_empty_iff.mp hempty, b'.text_eq_empty_iff.mp (htext ▸ hempty)⟩
    · have hne : b.lines ≠ [""] := fun h => hempty (b.text_eq_empty_iff.mpr (.inr h))
      have hne' : b'.lines ≠ [""] := fun h =>
        hempty (htext.trans (b'.text_eq_empty_iff.mpr (.inr h)))
      have hread := congrArg endedLines htext
      rw [endedLines_text hes, endedLines_text hfs, if_neg hne, if_neg hne'] at hread
      exact .inl hread
  · rintro (hlines | ⟨hb, hb'⟩)
    · rw [text_eq, text_eq, hlines]
    · rw [b.text_eq_empty_iff.mpr hb, b'.text_eq_empty_iff.mpr hb']

theorem text_applyAll_blank :
    let edits : List Edit := [.write "", .indent, .write "a", .outdent, .writeAll ["", ""]]
    let b := (ofIndentation 2).applyAll edits
    let b' := (ofIndentation 2).applyAll (edits ++ [.write ""])
    ((∀ line ∈ b.lines, '\n' ∉ line.toList) ∧ ∀ line ∈ b'.lines, '\n' ∉ line.toList) ∧
      b.text = "\n  a\n\n\n" ∧ endedLines b.text = ["", "  a", "", ""] ∧ b.text ≠ b'.text := by
  intro edits b b'
  have hb : ∀ line ∈ b.lines, '\n' ∉ line.toList := by decide
  have hb' : ∀ line ∈ b'.lines, '\n' ∉ line.toList := by decide
  obtain ⟨htext, hread, hiff⟩ := text_applyAll hb hb'
  exact ⟨⟨hb, hb'⟩, htext.trans (by decide), hread.trans (by decide),
    fun h => absurd (hiff.mp h) (by decide)⟩

/-- One empty line alone is not ended, and it leaves the text of a buffer without lines. -/
theorem text_of_empty_line :
    (¬ ∀ (n : Nat) (es : List Edit),
      ((ofIndentation n).applyAll es).text = ended ((ofIndentation n).applyAll es).lines) ∧
    ¬ ∀ (n : Nat) (es fs : List Edit),
      (∀ line ∈ ((ofIndentation n).applyAll es).lines, '\n' ∉ line.toList) →
      (∀ line ∈ ((ofIndentation n).applyAll fs).lines, '\n' ∉ line.toList) →
      ((ofIndentation n).applyAll es).text = ((ofIndentation n).applyAll fs).text →
        ((ofIndentation n).applyAll es).lines = ((ofIndentation n).applyAll fs).lines := by
  constructor
  · intro h
    exact absurd (h 4 [.write ""]) (by decide)
  · intro h
    exact absurd (h 4 [.write ""] [] (by decide) (by decide) (by decide)) (by decide)

end CodeBuffer

end AnnotatedEntity
