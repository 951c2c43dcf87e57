/-
A buffer that is shared by any run of steps. A column that is rendered into it leaves what splicing
a buffer of its own would leave, at whatever depth, and nothing at all if it fails or is ignored.
So the buffer of a run is told by an outline, in which each column's step is the splicing of its
block (`buffer_run`), and the log by the steps that gave the messages (`log_run`). What one more
step does after any run is `step_of_run`.
-/
import AnnotatedEntity.Proofs.ColumnSource

namespace AnnotatedEntity

/-! ## Columns as blocks of edits -/

namespace Column

variable {ctx : RenderContext} {c : Column} {held : NativeType}

theorem isBlock_declarationEdits (as : Attributes) :
    Edit.IsBlock (c.declarationEdits ctx held as) :=
  ⟨level_declarationEdits as, by simp [declarationEdits, Edit.StaysAbove]⟩

theorem isBlock_setterEdits : Edit.IsBlock (c.setterEdits ctx held) :=
  ⟨level_setterEdits, by simp [setterEdits, Edit.StaysAbove, Edit.depthAfter]⟩

theorem isBlock_getterEdits : Edit.IsBlock (c.getterEdits held) :=
  ⟨level_getterEdits, by simp [getterEdits, Edit.StaysAbove, Edit.depthAfter]⟩

theorem isBlock_accessorEdits : Edit.IsBlock (c.accessorEdits ctx held) := by
  unfold accessorEdits
  have hsetter : Edit.IsBlock (if c.name = "id" then [] else c.setterEdits ctx held) := by
    split
    · exact .nil
    · exact isBlock_setterEdits
  have hempty : Edit.IsBlock [.write ""] := ⟨fun _ => rfl, by simp [Edit.StaysAbove]⟩
  exact (hempty.append hsetter).append isBlock_getterEdits

end Column

/-! ## Steps apart from a session -/

namespace RenderStep

variable {ctx : RenderContext} {r : RenderStep} {c : Column}

/-- The column that a step renders, if it renders one. -/
def column? : RenderStep → Option Column
  | declare c | access c => some c
  | edit _ => none

/-- The messages that a step leaves in the log, whether it succeeds or fails. -/
def told : RenderStep → List String
  | access c => if c.isIgnored then [] else [c.accessorMessage]
  | declare _ | edit _ => []

/-- A step as one edit of the buffer: a column's step splices the block of the column. -/
def outline (ctx : RenderContext) : RenderStep → Edit
  | edit e => e
  | r => .splice (ctx.blockOf r)

theorem told_of_ignored (hr : r.column? = some c) (hc : c.isIgnored = true) : r.told = [] := by
  cases r with
  | declare d => rfl
  | access d =>
    obtain rfl := Option.some.inj hr
    rw [told, if_pos hc]
  | edit e => rfl

theorem outline_of_column (hr : r.column? = some c) : r.outline ctx = .splice (ctx.blockOf r) := by
  cases r with
  | declare d | access d => rfl
  | edit e => cases hr

end RenderStep

namespace RenderSession

variable {ctx : RenderContext} {r : RenderStep} {c : Column}

theorem edits_of_ignored (hr : r.column? = some c) (hc : c.isIgnored = true) :
    edits ctx r = ⟨r.told, .ok []⟩ := by
  rw [RenderStep.told_of_ignored hr hc]
  cases r with
  | declare d | access d =>
    obtain rfl := Option.some.inj hr
    simp [edits, Column.declaration, Column.accessors, hc, Attempt.done]
  | edit e => cases hr

/-- A column that is not ignored is rendered as a block if it has a native type. -/
theorem edits_of_ok {held : NativeType} (hr : r.column? = some c) (hc : c.isIgnored = false)
    (h : ctx.converter.columnType c = .ok held) :
    ∃ es, edits ctx r = ⟨r.told, .ok es⟩ ∧ Edit.IsBlock es := by
  cases r with
  | declare d =>
    obtain rfl := Option.some.inj hr
    obtain ⟨as, -, hd⟩ := Column.declaration_of_ok hc h
    exact ⟨_, hd, Column.isBlock_declarationEdits as⟩
  | access d =>
    obtain rfl := Option.some.inj hr
    refine ⟨d.accessorEdits ctx held, ?_, Column.isBlock_accessorEdits⟩
    simp [edits, Column.accessors_of_ok hc h, RenderStep.told, hc]
  | edit e => cases hr

theorem edits_of_error {e : ConvertError} (hr : r.column? = some c) (hc : c.isIgnored = false)
    (h : ctx.converter.columnType c = .error e) : edits ctx r = ⟨r.told, .error e⟩ := by
  cases r with
  | declare d =>
    obtain rfl := Option.some.inj hr
    simp [edits, Column.declaration_of_error hc h, RenderStep.told]
  | access d =>
    obtain rfl := Option.some.inj hr
    simp [edits, Column.accessors_of_error hc h, RenderStep.told, hc]
  | edit e => cases hr

/-- All that can come of rendering a column: nothing if it is ignored, a block if it has a native
type, and else the reason why it has none. -/
theorem edits_cases (ctx : RenderContext) (hr : r.column? = some c) :
    (c.isIgnored = true ∧ edits ctx r = ⟨r.told, .ok []⟩) ∨
    (c.isIgnored = false ∧ ∃ held es, ctx.converter.columnType c = .ok held ∧
      edits ctx r = ⟨r.told, .ok es⟩ ∧ Edit.IsBlock es) ∨
    (c.isIgnored = false ∧ ∃ e, ctx.converter.columnType c = .error e ∧
      edits ctx r = ⟨r.told, .error e⟩) := by
  cases hc : c.isIgnored with
  | true => exact .inl ⟨rfl, edits_of_ignored hr hc⟩
  | false =>
    cases h : ctx.converter.columnType c with
    | ok held =>
      obtain ⟨es, heq, hes⟩ := edits_of_ok hr hc h
      exact .inr (.inl ⟨rfl, held, es, rfl, heq, hes⟩)
    | error e => exact .inr (.inr ⟨rfl, e, rfl, edits_of_error hr hc h⟩)

theorem log_edits (ctx : RenderContext) (r : RenderStep) : (edits ctx r).log = r.told := by
  match hr : r.column? with
  | some c =>
    rcases edits_cases ctx hr with ⟨-, h⟩ | ⟨-, _, _, -, h, -⟩ | ⟨-, _, -, h⟩
    all_goals rw [h]
  | none =>
    cases r with
    | declare d | access d => cases hr
    | edit e => rfl

/-! ## One step -/

variable {s : RenderSession} {log : List String} {es : List Edit} {e : ConvertError}

theorem step_of_ok (s : RenderSession) (h : edits ctx r = ⟨log, .ok es⟩) :
    s.step ctx r = ({ buffer := s.buffer.applyAll es, log := s.log ++ log }, .ok ()) := by
  rw [step, h]

theorem step_of_error (s : RenderSession) (h : edits ctx r = ⟨log, .error e⟩) :
    s.step ctx r = ({ s with log := s.log ++ log }, .error e) := by
  rw [step, h]

theorem blockOf_of_error (h : edits ctx r = ⟨log, .error e⟩) : ctx.blockOf r = [] := by
  simp only [RenderContext.blockOf, step_of_error _ h, CodeBuffer.ofIndentation]

/-- **One step on the buffer** is its outline, whether it succeeds or fails. -/
theorem buffer_step (hs : s.buffer.indentation = ctx.options.indentation) (r : RenderStep) :
    (s.step ctx r).1.buffer = s.buffer.apply (r.outline ctx) := by
  match hr : r.column? with
  | some c =>
    rw [RenderStep.outline_of_column hr]
    have hok {es : List Edit} (h : edits ctx r = ⟨r.told, .ok es⟩) (hes : Edit.IsBlock es) :
        (s.step ctx r).1.buffer = s.buffer.apply (.splice (ctx.blockOf r)) := by
      rw [step_of_ok s h, RenderContext.blockOf_of_ok (by rw [h]), ← hs]
      exact CodeBuffer.applyAll_of_isBlock hes s.buffer
    rcases edits_cases ctx hr with ⟨-, h⟩ | ⟨-, _, es, -, h, hes⟩ | ⟨-, e, -, h⟩
    · exact hok h .nil
    · exact hok h hes
    · rw [step_of_error s h, blockOf_of_error h, CodeBuffer.apply_splice_nil]
  | none =>
    cases r with
    | declare d | access d => cases hr
    | edit e => rfl

theorem log_step (ctx : RenderContext) (s : RenderSession) (r : RenderStep) :
    (s.step ctx r).1.log = s.log ++ r.told := by
  rw [← log_edits ctx r]
  unfold step
  dsimp only
  split <;> rfl

/-- A step fails by the column that it renders, if this is not ignored and has no native type. -/
theorem step_eq_error_iff (hr : r.column? = some c) : (s.step ctx r).2 = .error e ↔
    c.isIgnored = false ∧ ctx.converter.columnType c = .error e := by
  rcases edits_cases ctx hr with ⟨hc, h⟩ | ⟨hc, held, es, hheld, h, -⟩ | ⟨hc, e', he, h⟩
  · simp [step_of_ok s h, hc]
  · simp [step_of_ok s h, hheld]
  · simp [step_of_error s h, hc, he]

theorem step_of_ignored (ctx : RenderContext) (s : RenderSession) (hr : r.column? = some c)
    (hc : c.isIgnored = true) : s.step ctx r = (s, .ok ()) := by
  rw [step_of_ok s (edits_of_ignored hr hc), RenderStep.told_of_ignored hr hc, List.append_nil]
  rfl

/-! ## Runs -/

/-- A session in which nothing has been done. -/
def start (ctx : RenderContext) : RenderSession :=
  { buffer := .ofIndentation ctx.options.indentation }

/-- The session after steps that follow one another, whether they succeed or fail. -/
def run (ctx : RenderContext) (s : RenderSession) (steps : List RenderStep) : RenderSession :=
  steps.foldl (fun s r => (s.step ctx r).1) s

theorem log_run (ctx : RenderContext) : ∀ (steps : List RenderStep) (s : RenderSession),
    (s.run ctx steps).log = s.log ++ steps.flatMap RenderStep.told
  | [], s => by simp [run]
  | r :: steps, s => by
    have ih := log_run ctx steps (s.step ctx r).1
    rw [log_step, List.append_assoc] at ih
    exact ih

/-- **A run on the buffer** is its outline. -/
theorem buffer_run : ∀ (steps : List RenderStep) {s : RenderSession},
    s.buffer.indentation = ctx.options.indentation →
      (s.run ctx steps).buffer = s.buffer.applyAll (steps.map (RenderStep.outline ctx))
  | [], _, _ => rfl
  | r :: steps, s, hs => by
    have hstep := buffer_step hs r
    have ih := buffer_run steps (s := (s.step ctx r).1)
      (by rw [hstep, CodeBuffer.indentation_apply, hs])
    rw [hstep] at ih
    exact ih

/-- **What a step does after any run.** Earlier lines stay, and the log takes the messages of this
step. A column's step adds what splicing the column's block would add and leaves the depth. It
fails for the column's types alone, and then the buffer is as it was; and an ignored column
changes nothing. -/
theorem step_of_run (ctx : RenderContext) (steps : List RenderStep) (r : RenderStep) :
    let s := (start ctx).run ctx steps
    let next := (s.step ctx r).1
    let result := (s.step ctx r).2
    s.buffer = (start ctx).buffer.applyAll (steps.map (RenderStep.outline ctx)) ∧
    s.log = steps.flatMap RenderStep.told ∧
    s.buffer.lines <+: next.buffer.lines ∧
    next.log = s.log ++ r.told ∧
    ∀ c, r.column? = some c →
      next.buffer.depth = s.buffer.depth ∧
      (result = .ok () → next.buffer = s.buffer.apply (.splice (ctx.blockOf r))) ∧
      (∀ e, result = .error e → next.buffer = s.buffer) ∧
      (∀ e, result = .error e ↔ c.isIgnored = false ∧ ctx.converter.columnType c = .error e) ∧
      (c.isIgnored = true → result = .ok () ∧ next = s) := by
  intro s next result
  have hrun : s.buffer = (start ctx).buffer.applyAll (steps.map (RenderStep.outline ctx)) :=
    buffer_run steps rfl
  have hs : s.buffer.indentation = ctx.options.indentation := by
    rw [hrun, CodeBuffer.applyAll_eq]
    rfl
  have hnext : next.buffer = s.buffer.apply (r.outline ctx) := buffer_step hs r
  refine ⟨hrun, log_run ctx steps (start ctx), ?_, log_step ctx s r, fun c hr => ?_⟩
  · rw [hnext]
    exact s.buffer.lines_prefix_apply _
  rw [RenderStep.outline_of_column hr] at hnext
  refine ⟨?_, fun _ => hnext, fun e he => ?_, fun e => step_eq_error_iff hr, fun hc => ?_⟩
  · rw [hnext]
    rfl
  · obtain ⟨hc, htype⟩ := (step_eq_error_iff hr).mp he
    rw [hnext, blockOf_of_error (edits_of_error hr hc htype), CodeBuffer.apply_splice_nil]
  · have hstep := step_of_ignored ctx s hr hc
    exact ⟨congrArg Prod.snd hstep, congrArg Prod.fst hstep⟩

end RenderSession

end AnnotatedEntity
