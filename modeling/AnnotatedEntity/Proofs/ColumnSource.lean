/-
A column as source depends on one thing that can fail: the look-up of its types. If a native type
is found, the property and the accessors are both written, and if none is found, neither is
(`declaration_of_ok` and the lemmas beside it). Either part comes back to the depth at which it
begins, so that it can be taken for a block of its own, which `RenderContext.blockOf` is.
-/
import AnnotatedEntity.Proofs.Buffer
import AnnotatedEntity.Proofs.Text.Cut
import AnnotatedEntity.Rendering.Session

namespace AnnotatedEntity

theorem Converter.columnType_eq_ok_iff {conv : Converter} {c : Column} {held : NativeType} :
    conv.columnType c = .ok held ↔
      ∃ mapped, conv.mappedType c = .ok mapped ∧ conv.nativeType mapped = .ok held := by
  cases h : conv.mappedType c <;> simp [columnType, h, bind, Except.bind]

theorem Converter.columnType_eq_error_iff {conv : Converter} {c : Column} {e : ConvertError} :
    conv.columnType c = .error e ↔ conv.mappedType c = .error e ∨
      ∃ mapped, conv.mappedType c = .ok mapped ∧ conv.nativeType mapped = .error e := by
  cases h : conv.mappedType c <;> simp [columnType, h, bind, Except.bind]

namespace Column

variable {ctx : RenderContext} {c : Column} {held : NativeType} {e : ConvertError}

/-! ## What the types decide -/

theorem attributes_of_ok (h : ctx.converter.columnType c = .ok held) :
    ∃ as, c.attributes ctx = .ok as := by
  obtain ⟨mapped, hm, -⟩ := Converter.columnType_eq_ok_iff.mp h
  rw [attributes, hm]
  exact ⟨_, rfl⟩

theorem declaration_of_ok (hc : c.isIgnored = false) (h : ctx.converter.columnType c = .ok held) :
    ∃ as, c.attributes ctx = .ok as ∧
      c.declaration ctx = .done (c.declarationEdits ctx held as) := by
  obtain ⟨as, has⟩ := attributes_of_ok h
  exact ⟨as, has, by simp [declaration, hc, h, has]⟩

theorem declaration_of_error (hc : c.isIgnored = false)
    (h : ctx.converter.columnType c = .error e) : c.declaration ctx = ⟨[], .error e⟩ := by
  simp [declaration, hc, h]

theorem accessors_of_ok (hc : c.isIgnored = false) (h : ctx.converter.columnType c = .ok held) :
    c.accessors ctx = ⟨[c.accessorMessage], .ok (c.accessorEdits ctx held)⟩ := by
  simp [accessors, hc, h, Attempt.done]

theorem accessors_of_error (hc : c.isIgnored = false)
    (h : ctx.converter.columnType c = .error e) :
    c.accessors ctx = ⟨[c.accessorMessage], .error e⟩ := by
  simp [accessors, hc, h]

/-! ## Depth -/

theorem level_declarationEdits (as : Attributes) : Edit.Level (c.declarationEdits ctx held as) :=
  fun _ => rfl

theorem level_setterEdits : Edit.Level (c.setterEdits ctx held) := fun _ => rfl

theorem level_getterEdits : Edit.Level (c.getterEdits held) := fun _ => rfl

theorem level_accessorEdits : Edit.Level (c.accessorEdits ctx held) := by
  unfold accessorEdits
  have hsetter : Edit.Level (if c.name = "id" then [] else c.setterEdits ctx held) := by
    split
    · exact .nil
    · exact level_setterEdits
  have hempty : Edit.Level [.write ""] := fun _ => rfl
  exact (hempty.append hsetter).append level_getterEdits

end Column

/-! ## Lines of a comment -/

/-- A line of a doc block begins with its star, whatever the comment is. -/
theorem docLine_eq (line : List Char) :
    docLine line = ' ' :: '*' :: Text.trimEnd (' ' :: Text.trimEnd line) :=
  have hstar : Text.isBlank '*' = false := by decide
  Text.dropTrailing_append_stop hstar [' '] _

theorem exists_of_mem_commentLines {comment line : List Char} (h : line ∈ commentLines comment) :
    ∃ rest, line = ' ' :: '*' :: rest := by
  unfold commentLines at h
  split at h
  · cases h
  · obtain ⟨part, -, rfl⟩ := List.mem_map.mp h
    exact ⟨_, docLine_eq part⟩

/-! ## Lines of the property -/

namespace Column

/-- A tag on a line of a doc block. -/
def tagLine (ctx : RenderContext) (name : String) (as : Option Attributes) : String :=
  " * " ++ ctx.table.tag name as

/-- The tag of an identifier. -/
def identifierLines (ctx : RenderContext) (c : Column) : List String :=
  if c.isPrimary then [tagLine ctx "Id" none] else []

/-- The tag of an identifier that is generated. -/
def generatedLines (ctx : RenderContext) (c : Column) : List String :=
  if c.isAutoIncrement then
    [tagLine ctx "GeneratedValue" (some [("strategy", .text ctx.options.strategyName)])]
  else []

/-- The lines between the marks of a property's doc block: the comment, and the tags. -/
def docBlock (ctx : RenderContext) (c : Column) (as : Attributes) : List String :=
  c.docLines ++ identifierLines ctx c ++ tagLine ctx "Column" (some as) :: generatedLines ctx c

variable {ctx : RenderContext} {c : Column} {as : Attributes}

/-- **Every line of a doc block begins with a star**, whatever the texts of the column are. -/
theorem docBlock_starred : ∀ line ∈ c.docBlock ctx as, " *".toList <+: line.toList := by
  have htag : ∀ (name : String) (as : Option Attributes),
      " *".toList <+: (tagLine ctx name as).toList := by
    intro name as
    rw [tagLine, String.toList_append]
    exact (by decide : " *".toList <+: " * ".toList).trans (List.prefix_append _ _)
  simp only [docBlock, List.forall_mem_append, List.forall_mem_cons]
  refine ⟨⟨?doc, ?identifier⟩, htag _ _, ?generated⟩
  case doc =>
    intro line hline
    obtain ⟨text, htext, rfl⟩ := List.mem_map.mp hline
    obtain ⟨rest, rfl⟩ := exists_of_mem_commentLines htext
    exact ⟨rest, by simp⟩
  case identifier =>
    unfold identifierLines
    split
    · exact List.forall_mem_singleton.mpr (htag _ _)
    · simp
  case generated =>
    unfold generatedLines
    split
    · exact List.forall_mem_singleton.mpr (htag _ _)
    · simp

/-- The line of the property itself. -/
def propertyLine (c : Column) (held : NativeType) : String :=
  "protected $" ++ c.name ++ c.initializer held ++ ";"

end Column

/-! ## Lines of the accessors -/

namespace Column

variable {ctx : RenderContext} {c : Column} {held : NativeType}

/-- The lines of the setter, with the empty one behind it. -/
def setterLines (ctx : RenderContext) (c : Column) (held : NativeType) : List String :=
  Edit.writtenAll ctx.options.indentation 0 (c.setterEdits ctx held)

/-- The lines of the getter. -/
def getterLines (ctx : RenderContext) (c : Column) (held : NativeType) : List String :=
  Edit.writtenAll ctx.options.indentation 0 (c.getterEdits held)

end Column

/-! ## Blocks -/

/-- The lines that a step leaves in an empty buffer. -/
def RenderContext.blockOf (ctx : RenderContext) (r : RenderStep) : List String :=
  let empty : RenderSession := { buffer := .ofIndentation ctx.options.indentation }
  (empty.step ctx r).1.buffer.lines

namespace RenderContext

variable {ctx : RenderContext} {c : Column} {held : NativeType}

theorem blockOf_of_ok {r : RenderStep} {es : List Edit}
    (h : (RenderSession.edits ctx r).result = .ok es) :
    ctx.blockOf r = Edit.writtenAll ctx.options.indentation 0 es := by
  simp only [blockOf, RenderSession.step, h]
  exact CodeBuffer.lines_applyAll_ofIndentation _ _

theorem blockOf_declare {as : Attributes} (hc : c.isIgnored = false)
    (h : ctx.converter.columnType c = .ok held) (has : c.attributes ctx = .ok as) :
    ctx.blockOf (.declare c) =
      Edit.writtenAll ctx.options.indentation 0 (c.declarationEdits ctx held as) := by
  obtain ⟨as', has', hd⟩ := Column.declaration_of_ok hc h
  obtain rfl : as = as' := Except.ok.inj (has.symm.trans has')
  exact blockOf_of_ok (by rw [RenderSession.edits, hd, Attempt.done])

theorem blockOf_access (hc : c.isIgnored = false) (h : ctx.converter.columnType c = .ok held) :
    ctx.blockOf (.access c) =
      Edit.writtenAll ctx.options.indentation 0 (c.accessorEdits ctx held) :=
  blockOf_of_ok (by rw [RenderSession.edits, Column.accessors_of_ok hc h])

/-- The block of accessors: an empty line, the setter where there is one, and the getter. -/
theorem blockOf_access_eq (hc : c.isIgnored = false) (h : ctx.converter.columnType c = .ok held) :
    ctx.blockOf (.access c) = "" :: (if c.name = "id" then [] else c.setterLines ctx held) ++
      c.getterLines ctx held := by
  rw [blockOf_access hc h, Column.accessorEdits]
  split
  · simp [Edit.writtenAll, Edit.written, Edit.depthAfter, Column.getterLines]
  · simp only [List.cons_append, Edit.writtenAll, Edit.written, Edit.depthAfter,
      CodeBuffer.indented_zero, List.nil_append]
    rw [Edit.writtenAll_append Column.level_setterEdits, Column.setterLines, Column.getterLines]

/-- A property's block: its doc block between the two marks, the property and an empty line. -/
theorem blockOf_declare_eq {as : Attributes} (hc : c.isIgnored = false)
    (h : ctx.converter.columnType c = .ok held) (has : c.attributes ctx = .ok as) :
    ctx.blockOf (.declare c) =
      "/**" :: c.docBlock ctx as ++ [" */", c.propertyLine held, ""] := by
  rw [blockOf_declare hc h has]
  simp only [Column.declarationEdits, Edit.writtenAll, Edit.written, Edit.depthAfter,
    CodeBuffer.indented_zero, CodeBuffer.map_indented_zero, Column.docBlock,
    Column.identifierLines, Column.generatedLines, List.append_nil, List.append_assoc,
    List.cons_append, List.nil_append]
  rfl

/-- A property's block begins with its doc block. -/
theorem blockOf_declare_eq_cons (hc : c.isIgnored = false)
    (h : ctx.converter.columnType c = .ok held) :
    ∃ lines, ctx.blockOf (.declare c) = "/**" :: lines := by
  obtain ⟨as, has⟩ := Column.attributes_of_ok h
  exact ⟨_, blockOf_declare_eq hc h has⟩

end RenderContext

end AnnotatedEntity
