/-
The depth of a buffer over a whole history of edits. A level that is closed at depth zero is
forgotten, and does not count against those that are opened later. So the depth is not the balance
of the levels opened and closed but what this balance has gained on the lowest one that there ever
was (`depthAfterAll_zero`), and the two are the same exactly where no level was closed too early
(`depth_eq_balance_iff`). Every line stands at the depth that the buffer had when the line was
written, and no later edit moves it (`applyAll_history`).
-/
import AnnotatedEntity.Proofs.Splice
import Mathlib.Data.List.Infix
import Mathlib.Data.List.Induction

namespace AnnotatedEntity

/-! ## The balance of levels -/

namespace Edit

/-- The levels that edits open, less those that they close. -/
def balance (es : List Edit) : Int := es.count indent - es.count outdent

/-- The least balance that there has been, from the one before the first edit to the last one. -/
def lowest (es : List Edit) : Int := (es.inits.map balance).foldl min 0

theorem balance_append (es fs : List Edit) : balance (es ++ fs) = balance es + balance fs := by
  simp only [balance, List.count_append]
  omega

theorem lowest_append_singleton (es : List Edit) (e : Edit) :
    lowest (es ++ [e]) = min (lowest es) (balance (es ++ [e])) := by
  simp [lowest, List.inits_append]

/-- A level is not above the lowest balance if and only if it is above none that there has been. -/
theorem le_lowest_iff {level : Int} {es : List Edit} :
    level ≤ lowest es ↔ ∀ front, front <+: es → level ≤ balance front := by
  induction es using List.reverseRecOn with
  | nil => simp [lowest, balance]
  | append_singleton es e ih =>
    rw [lowest_append_singleton, Int.le_min, ih]
    simp only [List.prefix_concat_iff, or_imp, forall_and, forall_eq]
    exact and_comm

theorem lowest_nonpos (es : List Edit) : lowest es ≤ 0 :=
  le_lowest_iff.mp (Int.le_refl _) [] List.nil_prefix

/-- Where no level is closed too early, the balance never falls below zero. -/
theorem lowest_eq_zero_iff {es : List Edit} : lowest es = 0 ↔ Nested es := by
  have hnested : Nested es ↔ 0 ≤ lowest es := by
    simp only [Nested, le_lowest_iff, balance, Int.sub_nonneg, Int.ofNat_le]
  rw [hnested]
  exact ⟨fun h => Int.le_of_eq h.symm, Int.le_antisymm (lowest_nonpos es)⟩

/-! ## The depth -/

/-- One edit changes the depth by its balance, but does not take it below zero. -/
theorem depthAfter_eq (depth : Nat) (e : Edit) :
    (e.depthAfter depth : Int) = max 0 (depth + balance [e]) := by
  cases e with
  | indent =>
    have hbalance : balance [indent] = 1 := rfl
    rw [hbalance, depthAfter]
    omega
  | outdent =>
    have hbalance : balance [outdent] = -1 := rfl
    rw [hbalance, depthAfter]
    omega
  | write _ | writeIf _ _ | writeAll _ | splice _ =>
    show (depth : Int) = max 0 (depth + 0)
    omega

/-- **The depth that edits leave** is by how much their balance is above the lowest one. -/
theorem depthAfterAll_zero (es : List Edit) :
    (depthAfterAll 0 es : Int) = balance es - lowest es := by
  induction es using List.reverseRecOn with
  | nil => rfl
  | append_singleton es e ih =>
    have hstep : (depthAfterAll 0 (es ++ [e]) : Int) =
        max 0 (depthAfterAll 0 es + balance [e]) := by
      rw [depthAfterAll_append]
      exact depthAfter_eq _ e
    -- A new lowest balance is where the depth would fall below zero.
    rw [hstep, ih, lowest_append_singleton, balance_append]
    omega

/-! ## The lines -/

/-- The lines that an edit is given to write. -/
def given : Edit → List String
  | write line => [line]
  | writeIf condition line => if condition then [line] else []
  | writeAll lines | splice lines => lines
  | indent | outdent => []

/-- The edits in turn, each with those that came before it. -/
def history (es : List Edit) : List (List Edit × Edit) := es.inits.zip es

theorem history_append_singleton (es : List Edit) (e : Edit) :
    history (es ++ [e]) = history es ++ [(es, e)] := by
  induction es with
  | nil => rfl
  | cons first es ih =>
    simp only [history] at ih
    simp only [history, List.cons_append, List.inits_cons, List.zip_cons_cons, List.zip_map_left,
      ih, List.map_append]
    rfl

/-- All the lines of an edit stand at the depth before it. -/
theorem written_eq_map_given (indentation depth : Nat) (e : Edit) :
    e.written indentation depth = e.given.map (CodeBuffer.indented indentation depth) := by
  cases e with
  | writeIf condition line => cases condition <;> rfl
  | write _ | writeAll _ | splice _ | indent | outdent => rfl

end Edit

namespace CodeBuffer

open Edit (balance lowest Nested)

theorem depth_applyAll_ofIndentation (n : Nat) (es : List Edit) :
    ((ofIndentation n).applyAll es).depth = Edit.depthAfterAll 0 es := by
  rw [applyAll_eq]
  rfl

/-- The depth is the balance of levels exactly where no level was closed too early. -/
theorem depth_eq_balance_iff (n : Nat) (es : List Edit) :
    (((ofIndentation n).applyAll es).depth : Int) = balance es ↔ Nested es := by
  rw [depth_applyAll_ofIndentation, Edit.depthAfterAll_zero, ← Edit.lowest_eq_zero_iff]
  omega

/-- What one more edit adds: the lines it is given, at the depth that there is. -/
theorem lines_applyAll_append_singleton (n : Nat) (es : List Edit) (e : Edit) :
    ((ofIndentation n).applyAll (es ++ [e])).lines = ((ofIndentation n).applyAll es).lines ++
      e.given.map (indented n ((ofIndentation n).applyAll es).depth) := by
  rw [depth_applyAll_ofIndentation, lines_applyAll_ofIndentation, lines_applyAll_ofIndentation,
    Edit.writtenAll_append_eq, Edit.writtenAll, Edit.writtenAll, List.append_nil,
    Edit.written_eq_map_given]

theorem lines_prefix_applyAll_append (b : CodeBuffer) (es more : List Edit) :
    (b.applyAll es).lines <+: (b.applyAll (es ++ more)).lines := by
  rw [applyAll_eq, applyAll_eq, Edit.writtenAll_append_eq, ← List.append_assoc]
  exact List.prefix_append _ _

theorem lines_applyAll_history (n : Nat) (es : List Edit) : ((ofIndentation n).applyAll es).lines =
    (Edit.history es).flatMap fun (front, e) =>
      e.given.map (indented n ((ofIndentation n).applyAll front).depth) := by
  induction es using List.reverseRecOn with
  | nil => rfl
  | append_singleton es e ih =>
    rw [lines_applyAll_append_singleton, ih, Edit.history_append_singleton, List.flatMap_append,
      List.flatMap_singleton]

/-- **A buffer after any history of edits.** Its depth is by how much the balance of levels is above
the lowest one that there has been. Further edits leave the lines that are there. And these are the
lines that the edits were given, in turn, each behind as many spaces as the depth before its edit
asks for, or empty if it is empty. -/
theorem applyAll_history (n : Nat) (es : List Edit) :
    let b := (ofIndentation n).applyAll es
    (b.depth : Int) = balance es - lowest es ∧
    (∀ more, b.lines <+: ((ofIndentation n).applyAll (es ++ more)).lines) ∧
    b.lines = (Edit.history es).flatMap fun (front, e) =>
      let depth := ((ofIndentation n).applyAll front).depth
      e.given.map fun line =>
        if line = "" then "" else String.ofList (List.replicate (n * depth) ' ') ++ line := by
  refine ⟨?depth, fun more => lines_prefix_applyAll_append _ es more, ?lines⟩
  case depth =>
    rw [depth_applyAll_ofIndentation]
    exact Edit.depthAfterAll_zero es
  case lines =>
    exact lines_applyAll_history n es

/-- Two levels closed too early are forgotten: the one that is opened next is there. -/
example :
    let es : List Edit := [.outdent, .indent, .outdent, .outdent, .indent, .writeAll ["", "a"]]
    (balance es, lowest es) = (-1, -2) ∧ ((ofIndentation 2).applyAll es).lines = ["", "  a"] := by
  decide

end CodeBuffer

end AnnotatedEntity
