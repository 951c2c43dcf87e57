/-
A part of the source that is made apart: its edits are made in a fresh buffer, and the lines of that
buffer are then spliced in where they belong. The fresh buffer begins at depth zero, and it follows
the other one at a fixed distance for as long as no level is closed that was not opened before. Then
the two ways come to the same lines, whatever depth and lines are there already (`applyAll_apart`).
The first level that is closed too early brings the two nearer to one another for good, and a line
behind it shows that (`nested_iff_applyAll_apart`).
-/
import AnnotatedEntity.Proofs.Buffer

namespace AnnotatedEntity

/-! ## Levels opened and closed -/

namespace Edit

/-- Nowhere among the edits have more levels been closed than opened. -/
def Nested (es : List Edit) : Prop :=
  ∀ front, front <+: es → front.count outdent ≤ front.count indent

theorem staysAbove_iff_count : ∀ {levels : Nat} {es : List Edit}, StaysAbove levels es ↔
    ∀ front, front <+: es → front.count outdent ≤ levels + front.count indent
  | levels, [] => by simp [StaysAbove]
  | levels, e :: es => by
    rw [StaysAbove, staysAbove_iff_count]
    constructor
    · rintro ⟨he, hes⟩ front hfront
      rcases List.prefix_cons_iff.mp hfront with rfl | ⟨others, rfl, hothers⟩
      · exact Nat.zero_le _
      have hcount := hes others hothers
      cases e with
      | outdent =>
        have := he rfl
        simp [depthAfter] at hcount ⊢
        omega
      | _ =>
        simp [depthAfter] at hcount ⊢
        omega
    · intro h
      refine ⟨fun he => ?_, fun front hfront => ?_⟩
      · subst he
        have hfirst := h [outdent] (by simp)
        simp at hfirst
        omega
      · have hcount := h (e :: front) ((List.prefix_cons_inj e).mpr hfront)
        cases e <;> simp [depthAfter] at hcount ⊢ <;> omega

theorem nested_iff_staysAbove {es : List Edit} : Nested es ↔ StaysAbove 0 es := by
  simp only [Nested, staysAbove_iff_count, Nat.zero_add]

/-- Edits that never come below a depth end as far above it as they would above zero. -/
theorem depthAfterAll_add (depth : Nat) : ∀ {levels : Nat} {es : List Edit},
    StaysAbove levels es → depthAfterAll (depth + levels) es = depth + depthAfterAll levels es
  | _, [], _ => rfl
  | levels, e :: es, ⟨he, hes⟩ => by
    simp only [depthAfterAll, List.foldl_cons]
    rw [depthAfter_add he]
    exact depthAfterAll_add depth hes

/-- Two depths that have come nearer to one another stay so. -/
theorem depthAfterAll_lt {depth : Nat} (hdepth : 0 < depth) : ∀ {inner outer : Nat}
    (es : List Edit), outer < depth + inner →
      depthAfterAll outer es < depth + depthAfterAll inner es
  | _, _, [], h => h
  | inner, outer, e :: es, h => by
    have hstep : e.depthAfter outer < depth + e.depthAfter inner := by
      cases e <;> simp only [depthAfter] <;> omega
    exact depthAfterAll_lt hdepth es hstep

/-- Above depth zero, the distance is kept exactly where no level is closed too early. -/
theorem depthAfterAll_add_iff {depth : Nat} (hdepth : 0 < depth) : ∀ {levels : Nat}
    {es : List Edit}, depthAfterAll (depth + levels) es = depth + depthAfterAll levels es ↔
      StaysAbove levels es
  | levels, [] => iff_of_true rfl trivial
  | levels, e :: es => by
    by_cases he : e = outdent → 0 < levels
    · rw [StaysAbove, and_iff_right he, ← depthAfterAll_add_iff hdepth, ← depthAfter_add he]
      rfl
    · obtain ⟨rfl, hlevels⟩ := Classical.not_imp.mp he
      obtain rfl : levels = 0 := by omega
      -- The outer depth falls by one here, and the inner one cannot fall below zero.
      have hlt : depthAfterAll (depth - 1) es < depth + depthAfterAll 0 es :=
        depthAfterAll_lt hdepth es (by omega)
      exact iff_of_false (Nat.ne_of_lt hlt) fun h => he h.1

theorem Nested.append_write {es : List Edit} (h : Nested es) (line : String) :
    Nested (es ++ [write line]) := by
  rw [nested_iff_staysAbove] at h ⊢
  exact staysAbove_append.mpr ⟨h, by simp [StaysAbove]⟩

end Edit

/-! ## The two ways -/

namespace CodeBuffer

open Edit (Nested)

/-- **Edits made apart.** Where no level is closed that was not opened before, splicing in the lines
of a fresh buffer and making the edits in place come to the same lines. Edits in place also leave
the levels open that they have not closed. -/
theorem applyAll_apart {es : List Edit} (h : Nested es) (b : CodeBuffer) :
    let apart := (ofIndentation b.indentation).applyAll es
    (b.apply (.splice apart.lines)).lines = (b.applyAll es).lines ∧
      (b.applyAll es).depth = b.depth + apart.depth := by
  intro apart
  have habove := Edit.nested_iff_staysAbove.mp h
  constructor
  · rw [lines_applyAll_ofIndentation, applyAll_eq,
      Edit.writtenAll_eq_map b.indentation b.depth habove]
    rfl
  · have hdepth := Edit.depthAfterAll_add b.depth habove
    simp only [apart, applyAll_eq]
    exact hdepth

/-- A body between braces, behind which a level stays open, inside a class. -/
theorem applyAll_apart_body :
    let body : List Edit := [.write "\x7b", .indent, .writeIf true "return 1;", .writeAll ["", "a"],
      .outdent, .write "\x7d", .indent, .splice ["  b"]]
    let b : CodeBuffer := { indentation := 2, depth := 1, lines := ["class X"] }
    let apart := (ofIndentation 2).applyAll body
    (Nested body ∧ (b.apply (.splice apart.lines)).lines = (b.applyAll body).lines) ∧
      (b.applyAll body).lines =
        ["class X", "  \x7b", "    return 1;", "", "    a", "  \x7d", "      b"] ∧
      (b.applyAll body).depth = b.depth + 1 := by
  intro body b apart
  have hbody : Nested body := Edit.nested_iff_staysAbove.mpr (by
    simp [body, Edit.StaysAbove, Edit.depthAfter])
  obtain ⟨hlines, hdepth⟩ := applyAll_apart hbody b
  exact ⟨⟨hbody, hlines⟩, by decide, hdepth⟩

/-! ## Where the two ways part -/

/-- A line shows the depth at which it is written. -/
theorem indented_inj {n depth depth' : Nat} {line : String} (hn : 0 < n) (hline : line ≠ "") :
    indented n depth line = indented n depth' line ↔ depth = depth' := by
  refine ⟨fun h => ?_, fun h => by rw [h]⟩
  rw [indented, indented, if_neg hline, if_neg hline] at h
  have hlength := congrArg (fun s : String => s.toList.length) h
  exact Nat.eq_of_mul_eq_mul_left hn (by simpa using hlength)

theorem getLast?_lines_applyAll_write (b : CodeBuffer) (es : List Edit) (line : String) :
    (b.applyAll (es ++ [.write line])).lines.getLast? =
      some (indented b.indentation (Edit.depthAfterAll b.depth es) line) := by
  rw [applyAll_eq, Edit.writtenAll_append_eq]
  simp [Edit.writtenAll, Edit.written]

/-- **Edits that cannot be made apart.** At a depth above zero, a line behind the edits stands in
the same place on both ways only if no level was closed too early. -/
theorem nested_iff_applyAll_apart {es : List Edit} {line : String} {b : CodeBuffer}
    (hdepth : 0 < b.depth) (hn : 0 < b.indentation) (hline : line ≠ "") :
    let apart := (ofIndentation b.indentation).applyAll (es ++ [.write line])
    Nested es ↔
      (b.apply (.splice apart.lines)).lines = (b.applyAll (es ++ [.write line])).lines := by
  intro apart
  refine ⟨fun h => (applyAll_apart (h.append_write line) b).1, fun h => ?_⟩
  have hapart : (b.apply (.splice apart.lines)).lines.getLast? =
      some (indented b.indentation (b.depth + Edit.depthAfterAll 0 es) line) := by
    show (b.lines ++ apart.lines.map _).getLast? = _
    rw [List.getLast?_append, List.getLast?_map, getLast?_lines_applyAll_write, Option.map_some,
      Option.some_or]
    exact congrArg some (indented_indented b.indentation b.depth _ line)
  have hlast := congrArg List.getLast? h
  rw [hapart, getLast?_lines_applyAll_write, Option.some.injEq, indented_inj hn hline] at hlast
  rw [Edit.nested_iff_staysAbove, ← Edit.depthAfterAll_add_iff hdepth]
  exact hlast.symm

end CodeBuffer

end AnnotatedEntity
