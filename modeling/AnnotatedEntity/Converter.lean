/-
Converters: from a column to its mapped type, and from a mapped type to a native one. The standard
converter looks raw types up in a table, in which a later entry for a name hides the earlier ones.
-/
import AnnotatedEntity.Column
import AnnotatedEntity.NativeType
import AnnotatedEntity.Options
import AnnotatedEntity.RawType

namespace AnnotatedEntity

/-! ## Converters -/

inductive ConvertError where
  | unknownRawType (column rawType : String)
  | unmappedType (mapped : String)
deriving Repr, DecidableEq, Inhabited

def ConvertError.message : ConvertError → String
  | unknownRawType column rawType =>
    "Unknown raw type `" ++ rawType ++ "` for column `" ++ column ++ "`"
  | unmappedType mapped => "No native type for mapped type `" ++ mapped ++ "`"

structure Converter where
  mappedType : Column → Except ConvertError MappedType
  nativeType : MappedType → Except ConvertError NativeType

/-- The native type of a column, by way of its mapped type. -/
def Converter.columnType (conv : Converter) (c : Column) : Except ConvertError NativeType := do
  conv.nativeType (← conv.mappedType c)

/-! ## The table of raw types -/

/-- Normal names of raw types and what they are mapped to. The entry nearest to the front counts. -/
abbrev TypeTable := List (String × MappedType)

namespace TypeTable

def builtin : TypeTable :=
  [("char", .string), ("varchar", .string), ("enum", .string), ("set", .string),
   ("tinytext", .text), ("text", .text), ("mediumtext", .text), ("longtext", .text),
   ("tinyint", .smallInt), ("smallint", .smallInt), ("year", .smallInt),
   ("mediumint", .integer), ("int", .integer), ("integer", .integer), ("bigint", .bigInt),
   ("bool", .boolean), ("boolean", .boolean), ("decimal", .decimal), ("numeric", .decimal),
   ("float", .float), ("double", .float), ("real", .float), ("date", .date), ("time", .time),
   ("datetime", .dateTime), ("timestamp", .dateTime), ("tinyblob", .blob), ("blob", .blob),
   ("mediumblob", .blob), ("longblob", .blob), ("binary", .binary), ("varbinary", .binary),
   ("json", .array)]

/-- Maps a raw type, whatever it was mapped to before. -/
def register (table : TypeTable) (raw : String) (mapped : MappedType) : TypeTable :=
  ((RawType.ofString raw).name, mapped) :: table

/-- Maps raw types one after the other. -/
def registerAll (table : TypeTable) (pairs : List (String × MappedType)) : TypeTable :=
  pairs.foldl (fun table (raw, mapped) => table.register raw mapped) table

/-- The built-in table with the options' mappings over it. -/
def ofOptions (o : Options) : TypeTable := builtin.registerAll o.typeMappings.pairs

def find? (table : TypeTable) (name : String) : Option MappedType :=
  (List.find? (·.1 == name) table).map (·.2)

/-- What the table says of a column. A flag is stored as a `tinyint` of length one, which is why
that spelling is boolean before the table is asked. -/
def mappedType (table : TypeTable) (c : Column) : Except ConvertError MappedType :=
  let raw := RawType.ofString c.rawType
  if raw.name = "tinyint" ∧ raw.length.or c.parameters.length = some 1 then .ok .boolean
  else
    match table.find? raw.name with
    | some mapped => .ok mapped
    | none => .error (.unknownRawType c.name c.rawType)

end TypeTable

/-! ## The standard converter -/

/-- The native type that carries a mapped type. Custom types are carried as strings. -/
def MappedType.native : MappedType → NativeType
  | .integer | .smallInt | .bigInt => .integer
  | .boolean => .boolean
  | .decimal | .float => .float
  | .date | .time | .dateTime | .dateTimeTz => .ofClass "\\DateTime"
  | .array | .simpleArray | .jsonArray => .array
  | .object => .object
  | .string | .text | .blob | .binary | .guid | .custom _ => .string

namespace Converter

def ofTable (table : TypeTable) : Converter where
  mappedType := table.mappedType
  nativeType mapped := .ok mapped.native

/-- The standard converter under the options' mappings. -/
def ofOptions (o : Options) : Converter := ofTable (.ofOptions o)

end Converter

end AnnotatedEntity
