/-
A manifest: the tables to render, as they are written down before the options are known. What an
entry leaves out is filled in from the options or made up from the table's name.
-/
import AnnotatedEntity.Options
import AnnotatedEntity.Table

namespace AnnotatedEntity

structure ColumnEntry where
  name : String
  rawType : String
  storedDefault : Option String := none
  comment : Option String := none
  primary : Bool := false
  autoIncrement : Bool := false
  ignore : Bool := false
  unsigned : Bool := false
  nullable : Bool := false
  /-- Takes the place of the options' mode for this column. -/
  nullableRequired : Option Bool := none
  length : Option Int := none
  precision : Option Int := none
  scale : Option Int := none
deriving Repr, DecidableEq, Inhabited

structure TableEntry where
  name : String
  model : Option String := none
  comment : Option String := none
  columns : List ColumnEntry := []
deriving Repr, DecidableEq, Inhabited

structure Manifest where
  /-- Takes the place of the options' namespace for all tables. -/
  entityNamespace : Option String := none
  tables : List TableEntry := []
deriving Repr, DecidableEq, Inhabited

def ColumnEntry.column (o : Options) (e : ColumnEntry) : Column where
  name := e.name
  rawType := e.rawType
  storedDefault := e.storedDefault
  comment := e.comment
  isPrimary := e.primary
  isAutoIncrement := e.autoIncrement
  isIgnored := e.ignore
  isUnsigned := e.unsigned
  nullable := e.nullable
  nullableRequired := e.nullableRequired.getD (o.nullableMode.requires e.nullable)
  parameters := { length := e.length, precision := e.precision, scale := e.scale }

def TableEntry.table (o : Options) (space : String) (e : TableEntry) : Table where
  name := e.name
  model := e.model.getD (pascalCase e.name)
  classNamespace := space
  columns := e.columns.map (·.column o)
  comment := e.comment

/-- The tables of a manifest under the options. -/
def Manifest.tablesUnder (o : Options) (m : Manifest) : List Table :=
  m.tables.map (·.table o (m.entityNamespace.getD o.entityNamespace))

end AnnotatedEntity
