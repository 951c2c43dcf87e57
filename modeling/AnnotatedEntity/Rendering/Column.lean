/-
A column as source: the property with its doc block, and the accessors. All that can fail comes
before the first line, so a column is written whole or not at all.
-/
import AnnotatedEntity.ClassRegistry
import AnnotatedEntity.CodeBuffer
import AnnotatedEntity.Rendering.Attempt
import AnnotatedEntity.TableView

namespace AnnotatedEntity

/-- What the columns of one table are rendered with. -/
structure RenderContext where
  table : TableView
  converter : Converter
  options : Options
  classes : ClassRegistry

namespace Column

/-! ## The property -/

/-- The attributes of the column's tag, in the order in which they are written. -/
def attributes (ctx : RenderContext) (c : Column) : Except ConvertError Attributes := do
  let mapped ← ctx.converter.mappedType c
  let quoted := ctx.table.quote c.name
  let named := if quoted = c.name then [] else [("name", .text quoted)]
  let typed := [("type", .text mapped.tagName)]
  let sized := c.parameters.setLength.toList.map fun n => ("length", .number n)
  let scaled :=
    match c.parameters.setPrecisionScale with
    | some (precision, scale) => [("precision", .number precision), ("scale", .number scale)]
    | none => []
  let nullable := if c.nullableRequired then [("nullable", .flag c.nullable)] else []
  let unsigned :=
    if c.isUnsigned then [("options", .group (Attributes.ofPairs [("unsigned", .flag true)]))]
    else []
  return Attributes.ofPairs (named ++ typed ++ sized ++ scaled ++ nullable ++ unsigned)

/-- What follows the property's name: its default, if one is stored. -/
def initializer (held : NativeType) (c : Column) : String :=
  match c.storedDefault with
  | some stored => " = " ++ held.literal (some stored)
  | none => ""

/-- The doc block with the column's tags, the property and an empty line. -/
def declarationEdits (ctx : RenderContext) (c : Column) (held : NativeType)
    (attributes : Attributes) : List Edit :=
  let strategy := Attributes.ofPairs [("strategy", .text ctx.options.strategyName)]
  [.write "/**",
   .writeAll c.docLines,
   .writeIf c.isPrimary (" * " ++ ctx.table.tag "Id" none),
   .write (" * " ++ ctx.table.tag "Column" (some attributes)),
   .writeIf c.isAutoIncrement (" * " ++ ctx.table.tag "GeneratedValue" (some strategy)),
   .write " */",
   .write ("protected $" ++ c.name ++ c.initializer held ++ ";"),
   .write ""]

/-- How the property is written; nothing for an ignored column. -/
def declaration (ctx : RenderContext) (c : Column) : Attempt (List Edit) :=
  if c.isIgnored then .done []
  else do
    let held ← .ofExcept (ctx.converter.columnType c)
    let attributes ← .ofExcept (c.attributes ctx)
    return c.declarationEdits ctx held attributes

/-! ## The accessors -/

/-- The type hint of a setter's parameter, with the blank after it: for known classes only, and
only if the options ask for hints. -/
def typehint (ctx : RenderContext) (held : NativeType) : String :=
  if ctx.options.propertyTypehint && ctx.classes.knows held then held.name ++ " " else ""

def setterEdits (ctx : RenderContext) (c : Column) (held : NativeType) : List Edit :=
  let cast := if held.isCastable then "(" ++ held.name ++ ") " else ""
  let absent := if c.nullable then " = null" else ""
  [.write "/**",
   .write (" * Set the value of " ++ c.name ++ "."),
   .write " *",
   .write (" * @param " ++ held.name ++ " $" ++ c.name),
   .write " *",
   .write (" * @return " ++ ctx.table.className),
   .write " */",
   .write ("public function set" ++ c.methodSuffix ++ "(" ++ typehint ctx held ++ "$" ++ c.name
     ++ absent ++ ")"),
   .write "\x7b",
   .indent,
   .write ("$this->" ++ c.name ++ " = " ++ cast ++ "$" ++ c.name ++ ";"),
   .write "",
   .write "return $this;",
   .outdent,
   .write "\x7d",
   .write ""]

def getterEdits (c : Column) (held : NativeType) : List Edit :=
  [.write "/**",
   .write (" * Get the value of " ++ c.name ++ "."),
   .write " *",
   .write (" * @return " ++ held.name),
   .write " */",
   .write ("public function get" ++ c.methodSuffix ++ "(): " ++ held.returnType c.nullable),
   .write "\x7b",
   .indent,
   .write ("return $this->" ++ c.name ++ ";"),
   .outdent,
   .write "\x7d"]

/-- An empty line, the setter unless the column is the identifier, and the getter. -/
def accessorEdits (ctx : RenderContext) (c : Column) (held : NativeType) : List Edit :=
  let setter := if c.name = "id" then [] else c.setterEdits ctx held
  .write "" :: setter ++ c.getterEdits held

/-- The message that is logged before a column's accessors are rendered. -/
def accessorMessage (c : Column) : String :=
  "  Writing setter/getter for column \"" ++ c.name ++ "\""

/-- How the accessors are written; nothing for an ignored column. -/
def accessors (ctx : RenderContext) (c : Column) : Attempt (List Edit) :=
  if c.isIgnored then .done []
  else do
    .say c.accessorMessage
    let held ← .ofExcept (ctx.converter.columnType c)
    return c.accessorEdits ctx held

end Column

end AnnotatedEntity
