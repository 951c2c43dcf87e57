/-
What edits do to a buffer, said apart from it. The lines that edits add depend on the depth at
which they begin and on nothing else in the buffer (`applyAll_eq`), so that edits which come back
to that depth can be taken out of a run and looked at alone (`writtenAll_append`). Edits that do not
go above it either are as good as their lines spliced in (`applyAll_of_isBlock`). The text of a
buffer is its lines, each with a line feed behind it, unless there is nothing but one empty line
(`text_eq`).
-/
import AnnotatedEntity.CodeBuffer

namespace AnnotatedEntity

/-- A line moved to the right twice, or once by the sum. -/
theorem CodeBuffer.indented_indented (n depth levels : Nat) (line : String) :
    indented n depth (indented n levels line) = indented n (depth + levels) line := by
  unfold indented
  by_cases h : line = ""
  · simp [h]
  · simp [h, Nat.mul_add, ← List.replicate_append_replicate, String.append_assoc]

/-! ## Edits without a buffer -/

namespace Edit

/-- The lines that an edit adds at a depth. -/
def written (indentation depth : Nat) : Edit → List String
  | write line => [CodeBuffer.indented indentation depth line]
  | writeIf condition line =>
    if condition then [CodeBuffer.indented indentation depth line] else []
  | writeAll lines | splice lines => lines.map (CodeBuffer.indented indentation depth)
  | indent | outdent => []

/-- The depth that an edit leaves. -/
def depthAfter (depth : Nat) : Edit → Nat
  | indent => depth + 1
  | outdent => depth - 1
  | write _ | writeIf _ _ | writeAll _ | splice _ => depth

/-- The lines that edits add, one after the other. -/
def writtenAll (indentation : Nat) : Nat → List Edit → List String
  | _, [] => []
  | depth, e :: es =>
    e.written indentation depth ++ writtenAll indentation (e.depthAfter depth) es

/-- The depth that edits leave. -/
def depthAfterAll (depth : Nat) (es : List Edit) : Nat := es.foldl depthAfter depth

/-- The edits come back to the depth at which they begin, whichever that is. -/
def Level (es : List Edit) : Prop := ∀ depth, depthAfterAll depth es = depth

theorem depthAfterAll_append (depth : Nat) (es fs : List Edit) :
    depthAfterAll depth (es ++ fs) = depthAfterAll (depthAfterAll depth es) fs :=
  List.foldl_append

theorem writtenAll_append_eq (indentation : Nat) :
    ∀ (depth : Nat) (es fs : List Edit), writtenAll indentation depth (es ++ fs) =
      writtenAll indentation depth es ++ writtenAll indentation (depthAfterAll depth es) fs
  | _, [], _ => rfl
  | depth, e :: es, fs => by
    simp only [List.cons_append, writtenAll, List.append_assoc, depthAfterAll, List.foldl_cons]
    rw [writtenAll_append_eq indentation _ es fs, depthAfterAll]

/-- Lines behind level edits are what they would be without these. -/
theorem writtenAll_append {es : List Edit} (h : Level es) (indentation depth : Nat)
    (fs : List Edit) : writtenAll indentation depth (es ++ fs) =
      writtenAll indentation depth es ++ writtenAll indentation depth fs := by
  rw [writtenAll_append_eq, h depth]

theorem Level.nil : Level [] := fun _ => rfl

theorem Level.append {es fs : List Edit} (hes : Level es) (hfs : Level fs) : Level (es ++ fs) :=
  fun depth => by rw [depthAfterAll_append, hes depth, hfs depth]

/-! ## Edits at a greater depth -/

/-- The edits, begun some levels above a depth, never come below it. -/
def StaysAbove : Nat → List Edit → Prop
  | _, [] => True
  | levels, e :: es => (e = outdent → 0 < levels) ∧ StaysAbove (e.depthAfter levels) es

theorem staysAbove_append : ∀ {levels : Nat} {es fs : List Edit}, StaysAbove levels (es ++ fs) ↔
    StaysAbove levels es ∧ StaysAbove (depthAfterAll levels es) fs
  | _, [], _ => by simp [StaysAbove, depthAfterAll]
  | levels, e :: es, fs => by
    rw [List.cons_append, StaysAbove, StaysAbove, staysAbove_append, and_assoc]
    rfl

theorem depthAfter_add {e : Edit} {levels : Nat} (h : e = outdent → 0 < levels) (depth : Nat) :
    e.depthAfter (depth + levels) = depth + e.depthAfter levels := by
  cases e with
  | indent => exact Nat.add_assoc depth levels 1
  | outdent => exact Nat.add_sub_assoc (h rfl) depth
  | write _ | writeIf _ _ | writeAll _ | splice _ => rfl

theorem written_add (indentation depth levels : Nat) (e : Edit) :
    e.written indentation (depth + levels) =
      (e.written indentation levels).map (CodeBuffer.indented indentation depth) := by
  cases e with
  | write line => simp [written, CodeBuffer.indented_indented]
  | writeIf condition line => cases condition <;> simp [written, CodeBuffer.indented_indented]
  | writeAll lines | splice lines => simp [written, CodeBuffer.indented_indented]
  | indent | outdent => rfl

/-- Lines at a greater depth are the lines at the smaller one, each moved to the right. -/
theorem writtenAll_add (indentation depth : Nat) : ∀ {levels : Nat} {es : List Edit},
    StaysAbove levels es → writtenAll indentation (depth + levels) es =
      (writtenAll indentation levels es).map (CodeBuffer.indented indentation depth)
  | _, [], _ => rfl
  | levels, e :: es, ⟨he, hes⟩ => by
    rw [writtenAll, writtenAll, written_add, depthAfter_add he, writtenAll_add _ _ hes,
      List.map_append]

/-- Edits that stay above the depth at which they begin write what they write at depth zero, moved
to the right. -/
theorem writtenAll_eq_map (indentation depth : Nat) {es : List Edit} (h : StaysAbove 0 es) :
    writtenAll indentation depth es =
      (writtenAll indentation 0 es).map (CodeBuffer.indented indentation depth) :=
  writtenAll_add indentation depth h

/-- Edits that can be made in a buffer of their own: they come back to the depth at which they
begin, and never below it in between. -/
structure IsBlock (es : List Edit) : Prop where
  level : Level es
  above : StaysAbove 0 es

theorem IsBlock.nil : IsBlock [] := ⟨.nil, trivial⟩

theorem IsBlock.append {es fs : List Edit} (hes : IsBlock es) (hfs : IsBlock fs) :
    IsBlock (es ++ fs) :=
  ⟨hes.level.append hfs.level, staysAbove_append.mpr ⟨hes.above, by rw [hes.level]; exact hfs.above⟩⟩

end Edit

/-! ## Edits on a buffer -/

namespace CodeBuffer

theorem apply_eq (b : CodeBuffer) (e : Edit) : b.apply e =
    { b with
      depth := e.depthAfter b.depth
      lines := b.lines ++ e.written b.indentation b.depth } := by
  cases e with
  | writeIf condition line => cases condition <;> simp [apply, write, Edit.depthAfter, Edit.written]
  | _ => simp [apply, write, writeAll, Edit.depthAfter, Edit.written]

/-- **What edits do to a buffer**: they add lines behind those that are there, and the lines they
add do not depend on these. -/
theorem applyAll_eq : ∀ (es : List Edit) (b : CodeBuffer), b.applyAll es =
    { b with
      depth := Edit.depthAfterAll b.depth es
      lines := b.lines ++ Edit.writtenAll b.indentation b.depth es }
  | [], b => by simp [applyAll, Edit.writtenAll, Edit.depthAfterAll]
  | e :: es, b => by
    have ih := applyAll_eq es (b.apply e)
    rw [apply_eq] at ih
    simp only [applyAll, List.foldl_cons, Edit.depthAfterAll, Edit.writtenAll] at ih ⊢
    rw [apply_eq, ih, List.append_assoc]

theorem indentation_apply (b : CodeBuffer) (e : Edit) :
    (b.apply e).indentation = b.indentation := by
  rw [apply_eq]

theorem lines_prefix_apply (b : CodeBuffer) (e : Edit) : b.lines <+: (b.apply e).lines := by
  rw [apply_eq]
  exact List.prefix_append _ _

theorem apply_splice_nil (b : CodeBuffer) : b.apply (.splice []) = b := by
  simp [apply, writeAll]

/-- **A block of edits** does to a buffer what splicing its lines does, at any depth. -/
theorem applyAll_of_isBlock {es : List Edit} (h : Edit.IsBlock es) (b : CodeBuffer) :
    b.applyAll es = b.apply (.splice (Edit.writtenAll b.indentation 0 es)) := by
  rw [applyAll_eq, h.level, Edit.writtenAll_eq_map _ _ h.above]
  rfl

@[simp] theorem lines_applyAll_ofIndentation (n : Nat) (es : List Edit) :
    ((ofIndentation n).applyAll es).lines = Edit.writtenAll n 0 es := by
  rw [applyAll_eq]
  simp [ofIndentation]

/-- At depth zero a line stands as it is written. -/
@[simp] theorem indented_zero (n : Nat) (line : String) : indented n 0 line = line := by
  unfold indented
  split
  · next h => exact h.symm
  · simp

/-- Lines spliced at depth zero stand as they are. -/
@[simp] theorem map_indented_zero (n : Nat) (lines : List String) :
    lines.map (indented n 0) = lines :=
  List.map_id'' (indented_zero n) lines

/-! ## The text -/

/-- Lines as one text, each with a line feed behind it. -/
def ended (lines : List String) : String := String.join (lines.map (· ++ "\n"))

@[simp] theorem ended_nil : ended [] = "" := by simp [ended]

@[simp] theorem ended_cons (line : String) (lines : List String) :
    ended (line :: lines) = line ++ "\n" ++ ended lines := by
  simp [ended]

theorem ended_append (lines more : List String) :
    ended (lines ++ more) = ended lines ++ ended more := by
  induction lines with
  | nil => simp
  | cons line lines ih => simp only [List.cons_append, ended_cons, ih, String.append_assoc]

theorem ended_eq_empty_iff {lines : List String} : ended lines = "" ↔ lines = [] := by
  cases lines <;> simp

theorem intercalate_feed (line : String) (lines : List String) :
    "\n".intercalate (line :: lines) ++ "\n" = ended (line :: lines) := by
  induction lines generalizing line with
  | nil => simp
  | cons next lines ih =>
    rw [String.intercalate_cons_cons, String.append_assoc, ih, ended_cons line]

/-- **The text of a buffer** is its lines with their ends. One empty line alone is lost. -/
theorem text_eq (b : CodeBuffer) : b.text = if b.lines = [""] then "" else ended b.lines := by
  unfold text
  match h : b.lines with
  | [] => simp
  | [line] =>
    by_cases hl : line = ""
    · simp [hl]
    · simp [hl, ended]
  | line :: next :: lines =>
    have hne : "\n".intercalate (line :: next :: lines) ≠ "" := by
      intro h
      simpa using congrArg String.toList h
    rw [if_neg hne, if_neg (by simp), intercalate_feed]

theorem text_of_ne {b : CodeBuffer} (h : b.lines ≠ [""]) : b.text = ended b.lines := by
  rw [text_eq, if_neg h]

end CodeBuffer

end AnnotatedEntity
