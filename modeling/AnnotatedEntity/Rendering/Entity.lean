/-
The body of an entity: the properties of all columns in the table's order, then their accessors in
the same order. The first column that fails ends the work.
-/
import AnnotatedEntity.Rendering.Column

namespace AnnotatedEntity

/-- What is written for the columns: the properties and, apart from them, the accessors. -/
def columnEdits (ctx : RenderContext) : List Column → Attempt (List Edit × List Edit)
  | [] => .done ([], [])
  | c :: rest => do
    let declaration ← c.declaration ctx
    let accessors ← c.accessors ctx
    let (declarations, others) ← columnEdits ctx rest
    return (declaration ++ declarations, accessors ++ others)

/-- The body of the table's entity. -/
def Table.entityBody (ctx : RenderContext) (t : Table) : Attempt String := do
  let empty := CodeBuffer.ofIndentation ctx.options.indentation
  let (declarations, accessors) ← columnEdits ctx t.rendered
  let body := empty.applyAll
    [.splice (empty.applyAll declarations).lines, .splice (empty.applyAll accessors).lines]
  return body.text

/-- What the columns of a table are rendered with under the options. -/
def RenderContext.ofTable (t : Table) (converter : Converter) (o : Options) : RenderContext where
  table := .ofTable t o
  converter := converter
  options := o
  classes := .ofExtras o.typehintClasses

end AnnotatedEntity
