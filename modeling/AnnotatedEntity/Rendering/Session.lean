/-
One buffer and one log that are shared by any run of steps: columns rendered into the buffer, the
depth changed, lines written by hand. A step that fails leaves the buffer as it was.
-/
import AnnotatedEntity.Rendering.Column

namespace AnnotatedEntity

inductive RenderStep where
  | declare (c : Column)
  | access (c : Column)
  | edit (e : Edit)

structure RenderSession where
  buffer : CodeBuffer
  log : List String := []

namespace RenderSession

/-- What a step would have written. -/
def edits (ctx : RenderContext) : RenderStep → Attempt (List Edit)
  | .declare c => c.declaration ctx
  | .access c => c.accessors ctx
  | .edit e => .done [e]

/-- The session after a step, and whether the step failed. -/
def step (ctx : RenderContext) (s : RenderSession) (r : RenderStep) :
    RenderSession × Except ConvertError Unit :=
  let attempt := edits ctx r
  let log := s.log ++ attempt.log
  match attempt.result with
  | .ok es => ({ buffer := s.buffer.applyAll es, log }, .ok ())
  | .error e => ({ s with log }, .error e)

/-- The session after steps of which each one needs the one before. -/
def steps (ctx : RenderContext) (s : RenderSession) :
    List RenderStep → RenderSession × Except ConvertError Unit
  | [] => (s, .ok ())
  | r :: rest =>
    match s.step ctx r with
    | (s, .ok ()) => s.steps ctx rest
    | (s, .error e) => (s, .error e)

end RenderSession

end AnnotatedEntity
