/-
Indentation. Of all the lines of an entity's body only the statements inside the accessors stand at
a depth, and they stand at depth one. A body is therefore the same outline under every indentation,
with that many spaces before the statements and none before any other line
(`entityBody_indentation`).
-/
import AnnotatedEntity.Proofs.EntityBody
import Mathlib.Data.List.Basic

namespace AnnotatedEntity

/-- Edits that open no level write at the margin, where no indentation tells. -/
theorem Edit.writtenAll_append_margin (n : Nat) (back : List Edit) : ∀ {front : List Edit},
    .indent ∉ front → writtenAll n 0 (front ++ back) = writtenAll 0 0 front ++ writtenAll n 0 back
  | [], _ => rfl
  | e :: front, h => by
    obtain ⟨he, hfront⟩ := not_or.mp fun hmem => h (List.mem_cons.mpr hmem)
    have hwritten : e.written n 0 = e.written 0 0 := by cases e <;> simp [written]
    have hdepth : e.depthAfter 0 = 0 := by
      cases e with
      | indent => exact absurd rfl he
      | _ => rfl
    rw [List.cons_append, writtenAll, writtenAll, hwritten, hdepth,
      writtenAll_append_margin n back hfront, List.append_assoc]

/-! ## Lines apart from their indentation -/

/-- A line of a body: at the margin, or a statement inside a method. -/
inductive BodyLine where
  | margin (line : String)
  | statement (line : String)
deriving Repr, DecidableEq

namespace BodyLine

/-- The line as it stands where a level is so many spaces wide. -/
def placed (width : Nat) : BodyLine → String
  | margin line => line
  | statement line => String.ofList (List.replicate width ' ') ++ line

def statement? : BodyLine → Option String
  | margin _ => none
  | statement line => some line

theorem map_placed_margin (width : Nat) (lines : List String) :
    (lines.map margin).map (placed width) = lines := by
  rw [List.map_map]
  exact List.map_id lines

theorem filterMap_statement?_margin (lines : List String) :
    (lines.map margin).filterMap statement? = [] := by
  rw [List.filterMap_map, List.filterMap_eq_nil_iff]
  exact fun _ _ => rfl

theorem indented_empty (n depth : Nat) : CodeBuffer.indented n depth "" = "" := if_pos rfl

/-- At depth one a line stands as a statement does. -/
theorem indented_one (n : Nat) {line : String} (h : line ≠ "") :
    CodeBuffer.indented n 1 line = (statement line).placed n := by
  rw [CodeBuffer.indented, if_neg h, Nat.mul_one, placed]

end BodyLine

/-! ## Accessors -/

namespace Column

variable {ctx : RenderContext} {c : Column} {held : NativeType}

/-- The statement of a setter that keeps its argument, cast where the type asks for it. -/
def assignment (c : Column) (held : NativeType) : String :=
  "$this->" ++ c.name ++ " = " ++ (if held.isCastable then "(" ++ held.name ++ ") " else "") ++
    "$" ++ c.name ++ ";"

/-- The statement of a getter. -/
def fetch (c : Column) : String := "return $this->" ++ c.name ++ ";"

/-- A setter between its braces. The line between the two statements is empty. -/
def setterBody (c : Column) (held : NativeType) : List BodyLine :=
  [.margin "\x7b", .statement (c.assignment held), .margin "", .statement "return $this;",
   .margin "\x7d"]

/-- A getter between its braces. -/
def getterBody (c : Column) : List BodyLine :=
  [.margin "\x7b", .statement c.fetch, .margin "\x7d"]

/-- The statements of a column's accessors, in turn. -/
def statements (c : Column) (held : NativeType) : List String :=
  (if c.name = "id" then [] else [c.assignment held, "return $this;"]) ++ [c.fetch]

/-- The lines of a setter above its body, which end in its signature. -/
def setterHead (ctx : RenderContext) (c : Column) (held : NativeType) : List String :=
  Edit.writtenAll 0 0 ((c.setterEdits ctx held).take 8)

/-- The lines of a getter above its body. -/
def getterHead (c : Column) (held : NativeType) : List String :=
  Edit.writtenAll 0 0 ((c.getterEdits held).take 6)

/-- A setter and the empty line behind it. -/
def setterOutline (ctx : RenderContext) (c : Column) (held : NativeType) : List BodyLine :=
  (c.setterHead ctx held).map .margin ++ (c.setterBody held ++ [.margin ""])

def getterOutline (c : Column) (held : NativeType) : List BodyLine :=
  (c.getterHead held).map .margin ++ c.getterBody

/-- The accessors of a column apart from any indentation. -/
def accessorOutline (ctx : RenderContext) (c : Column) (held : NativeType) : List BodyLine :=
  .margin "" :: (if c.name = "id" then [] else c.setterOutline ctx held) ++ c.getterOutline held

theorem setterLines_placed :
    c.setterLines ctx held = (c.setterOutline ctx held).map (·.placed ctx.options.indentation) := by
  have hedits : c.setterEdits ctx held = (c.setterEdits ctx held).take 8 ++
      [.write "\x7b", .indent, .write (c.assignment held), .write "", .write "return $this;",
       .outdent, .write "\x7d", .write ""] := rfl
  have hflat : .indent ∉ (c.setterEdits ctx held).take 8 := by simp [setterEdits]
  have hassign : c.assignment held ≠ "" := by simp [assignment]
  rw [setterLines, hedits, Edit.writtenAll_append_margin _ _ hflat, setterOutline, List.map_append,
    BodyLine.map_placed_margin, setterHead]
  simp [Edit.writtenAll, Edit.written, Edit.depthAfter, setterBody, BodyLine.placed,
    BodyLine.indented_one, BodyLine.indented_empty, hassign]

theorem getterLines_placed :
    c.getterLines ctx held = (c.getterOutline held).map (·.placed ctx.options.indentation) := by
  have hedits : c.getterEdits held = (c.getterEdits held).take 6 ++
      [.write "\x7b", .indent, .write c.fetch, .outdent, .write "\x7d"] := rfl
  have hflat : .indent ∉ (c.getterEdits held).take 6 := by simp [getterEdits]
  have hfetch : c.fetch ≠ "" := by simp [fetch]
  rw [getterLines, hedits, Edit.writtenAll_append_margin _ _ hflat, getterOutline, List.map_append,
    BodyLine.map_placed_margin, getterHead]
  simp [Edit.writtenAll, Edit.written, Edit.depthAfter, getterBody, BodyLine.placed,
    BodyLine.indented_one, hfetch]

/-- The block of accessors is their outline at the width of the options. -/
theorem blockOf_access_placed (hc : c.isIgnored = false)
    (h : ctx.converter.columnType c = .ok held) : ctx.blockOf (.access c) =
      (c.accessorOutline ctx held).map (·.placed ctx.options.indentation) := by
  rw [RenderContext.blockOf_access_eq hc h, setterLines_placed, getterLines_placed,
    accessorOutline, List.map_append, List.map_cons, apply_ite (List.map _)]
  rfl

theorem filterMap_setterOutline : (c.setterOutline ctx held).filterMap BodyLine.statement? =
    [c.assignment held, "return $this;"] := by
  rw [setterOutline, List.filterMap_append, BodyLine.filterMap_statement?_margin]
  rfl

theorem filterMap_getterOutline :
    (c.getterOutline held).filterMap BodyLine.statement? = [c.fetch] := by
  rw [getterOutline, List.filterMap_append, BodyLine.filterMap_statement?_margin]
  rfl

/-- No other lines of the accessors are statements. -/
theorem filterMap_accessorOutline :
    (c.accessorOutline ctx held).filterMap BodyLine.statement? = c.statements held := by
  have hempty : (BodyLine.margin "").statement? = none := rfl
  rw [accessorOutline, List.cons_append, List.filterMap_cons_none hempty, List.filterMap_append,
    filterMap_getterOutline, statements]
  split
  · rfl
  · rw [filterMap_setterOutline]

theorem getterBody_infix : c.getterBody <:+: c.accessorOutline ctx held := by
  rw [accessorOutline, getterOutline, ← List.append_assoc]
  exact (List.suffix_append _ _).isInfix

theorem setterBody_infix (hid : c.name ≠ "id") :
    c.setterBody held <:+: c.accessorOutline ctx held := by
  refine ⟨.margin "" :: (c.setterHead ctx held).map .margin, .margin "" :: c.getterOutline held, ?_⟩
  rw [accessorOutline, if_neg hid, setterOutline]
  simp

end Column

/-! ## Bodies -/

namespace RenderContext

/-- What a table is rendered with under the options, but with an indentation of its own. -/
def indentedBy (t : Table) (conv : Converter) (o : Options) (n : Nat) : RenderContext :=
  .ofTable t conv { o with indentation := n }

variable {t : Table} {conv : Converter} {o : Options} {c : Column} {n : Nat}

/-- No line of a property depends on the indentation. -/
theorem blockOf_declare_indentedBy (hc : c.Typed (indentedBy t conv o 0)) :
    (indentedBy t conv o n).blockOf (.declare c) =
      (indentedBy t conv o 0).blockOf (.declare c) := by
  obtain ⟨hi, held, hheld⟩ := hc
  obtain ⟨as, has⟩ := Column.attributes_of_ok hheld
  have hheld' : (indentedBy t conv o n).converter.columnType c = .ok held := hheld
  have has' : c.attributes (indentedBy t conv o n) = .ok as := has
  rw [blockOf_declare_eq hi hheld has, blockOf_declare_eq hi hheld' has']
  rfl

end RenderContext

/-- What is made of the native type of a column; nothing where it has none. -/
def Converter.withType {α : Type} (conv : Converter) (f : Column → NativeType → List α)
    (c : Column) : List α :=
  match conv.columnType c with
  | .ok held => f c held
  | .error _ => []

theorem Converter.withType_of_ok {α : Type} {conv : Converter} {c : Column} {held : NativeType}
    (h : conv.columnType c = .ok held) (f : Column → NativeType → List α) :
    conv.withType f c = f c held := by
  rw [withType, h]

namespace Table

open RenderContext (indentedBy)

variable {ctx : RenderContext} {t : Table} {conv : Converter} {o : Options}

/-- A body apart from any indentation: the properties, which stand at the margin, and behind them
the accessors. -/
def bodyOutline (ctx : RenderContext) (t : Table) : List BodyLine :=
  (t.rendered.flatMap fun c => ctx.blockOf (.declare c)).map .margin ++
    t.rendered.flatMap (ctx.converter.withType (Column.accessorOutline ctx))

/-- A body is its outline at the width of the options. -/
theorem bodyLines_indentedBy (h : ∀ c ∈ t.rendered, c.Typed (indentedBy t conv o 0)) (n : Nat) :
    t.bodyLines (indentedBy t conv o n) =
      (t.bodyOutline (indentedBy t conv o 0)).map (·.placed n) := by
  rw [bodyLines, bodyOutline, List.map_append, BodyLine.map_placed_margin, List.map_flatMap]
  refine congrArg₂ (· ++ ·) (List.flatMap_congr fun c hc => ?declared)
    (List.flatMap_congr fun c hc => ?accessed)
  case declared => exact RenderContext.blockOf_declare_indentedBy (h c hc)
  case accessed =>
    obtain ⟨hi, held, hheld⟩ := h c hc
    have hheld' : (indentedBy t conv o n).converter.columnType c = .ok held := hheld
    rw [Column.blockOf_access_placed hi hheld', Converter.withType_of_ok hheld]
    rfl

theorem filterMap_bodyOutline (h : ∀ c ∈ t.rendered, c.Typed ctx) :
    (t.bodyOutline ctx).filterMap BodyLine.statement? =
      t.rendered.flatMap (ctx.converter.withType Column.statements) := by
  rw [bodyOutline, List.filterMap_append, BodyLine.filterMap_statement?_margin, List.nil_append,
    List.filterMap_flatMap]
  refine List.flatMap_congr fun c hc => ?_
  obtain ⟨-, held, hheld⟩ := h c hc
  rw [Converter.withType_of_ok hheld, Converter.withType_of_ok hheld]
  exact Column.filterMap_accessorOutline

theorem accessorOutline_infix {c : Column} {held : NativeType} (hc : c ∈ t.rendered)
    (hheld : ctx.converter.columnType c = .ok held) :
    c.accessorOutline ctx held <:+: t.bodyOutline ctx := by
  rw [bodyOutline, List.flatMap_def (l := t.rendered),
    ← Converter.withType_of_ok hheld (Column.accessorOutline ctx)]
  exact (List.infix_of_mem_flatten (List.mem_map_of_mem hc)).trans (List.suffix_append _ _).isInfix

/-- **What the indentation reaches.** Under all indentations a table fails with the same error and
log, or it has the same log and a body of one outline: the statements of the accessors stand behind
as many spaces as the indentation has, and every other line is the same. An empty line between the
two statements of a setter has no spaces, as all lines at the margin. -/
theorem entityBody_indentation (t : Table) (conv : Converter) (o : Options) :
    (∃ log e, ∀ n, t.entityBody (indentedBy t conv o n) = ⟨log, .error e⟩) ∨
    ∃ log outline,
      (∀ n, t.entityBody (indentedBy t conv o n) =
          ⟨log, .ok (CodeBuffer.ended (t.bodyLines (indentedBy t conv o n)))⟩ ∧
        t.bodyLines (indentedBy t conv o n) = outline.map (·.placed n)) ∧
      outline.filterMap BodyLine.statement? = t.rendered.flatMap (conv.withType Column.statements) ∧
      ∀ c ∈ t.rendered, ∃ held, conv.columnType c = .ok held ∧ c.getterBody <:+: outline ∧
        (c.name ≠ "id" → c.setterBody held <:+: outline) := by
  rcases typed_or_first_error (indentedBy t conv o 0) t with
    h | ⟨before, c, after, e, ht, hb, hc, he⟩
  · refine .inr ⟨_, t.bodyOutline (indentedBy t conv o 0),
      fun n => ⟨entityBody_of_typed h, bodyLines_indentedBy h n⟩, filterMap_bodyOutline h,
      fun c hc => ?_⟩
    obtain ⟨-, held, hheld⟩ := h c hc
    have hinfix := accessorOutline_infix hc hheld
    exact ⟨held, hheld, Column.getterBody_infix.trans hinfix,
      fun hid => (Column.setterBody_infix hid).trans hinfix⟩
  · exact .inl ⟨_, e, fun n => entityBody_of_error ht hb hc he⟩

end Table

end AnnotatedEntity
