/-
How a document's statements grow one tree. A table is written once: by its own header, or key by
key with dotted names. A header may go through tables that are not written yet, and may still write
a table that only other headers have gone through.
-/
import AnnotatedEntity.Toml.Value

namespace AnnotatedEntity.Toml

/-- How a table came about. -/
inductive Origin where
  /-- It has a header of its own. -/
  | declared
  /-- Headers have gone through it. -/
  | implied
  /-- Dotted names have gone through it. -/
  | dotted
deriving Repr, DecidableEq, Inhabited

inductive Node where
  | leaf (v : Value)
  | table (origin : Origin) (entries : List (String × Node))
  | tables (elements : List (List (String × Node)))
deriving Repr, Inhabited

abbrev Entries := List (String × Node)

/-! ## Entries -/

namespace Entries

/-- Puts a node in the place of the one that is there. -/
def replace (key : String) (node : Node) (es : Entries) : Entries :=
  es.map fun (k, n) => if k = key then (k, node) else (k, n)

def erase (key : String) (es : Entries) : Entries := es.filter (·.1 ≠ key)

/-- A key that is not there yet, at the end. -/
def append (key : String) (node : Node) (es : Entries) : Entries := es ++ [(key, node)]

end Entries

/-! ## Statements -/

/-- A value under a dotted name: the tables to go through, and the key. -/
structure Assignment where
  path : List String
  key : String
  value : Value
deriving Repr, Inhabited

/-- The header of a table, or of one more table in a list of tables. -/
structure Header where
  path : List String
  key : String
  isElement : Bool
deriving Repr, DecidableEq, Inhabited

structure Section where
  header : Header
  body : List Assignment
deriving Repr, Inhabited

structure Document where
  /-- What stands before the first header. -/
  body : List Assignment
  sections : List Section
deriving Repr, Inhabited

/-! ## Growing the tree -/

/-- Sets a key that is new. On the way lie new tables, tables of dotted names, and tables and lists
that headers have gone through; but the table that holds the key is one of dotted names. -/
def assignAt (key : String) (v : Value) : List String → Entries → Option Entries
  | [], es => if (es.lookup key).isSome then none else some (es.append key (.leaf v))
  | k :: path, es =>
    match es.lookup k with
    | none => do
      let below ← assignAt key v path []
      return es.append k (.table .dotted below)
    | some (.table .dotted below) => do
      let below ← assignAt key v path below
      return es.replace k (.table .dotted below)
    | some (.table .implied below) =>
      if path.isEmpty then none
      else do
        let below ← assignAt key v path below
        return es.replace k (.table .implied below)
    | some (.tables elements) =>
      if path.isEmpty then none
      else do
        let below ← assignAt key v path (← elements.getLast?)
        return es.replace k (.tables (elements.dropLast ++ [below]))
    | some (.table .declared _) | some (.leaf _) => none

def assignAll (es : Entries) (body : List Assignment) : Option Entries :=
  body.foldlM (fun es a => assignAt a.key a.value a.path es) es

/-- Changes the table that a header's path leads to. A list of tables stands for its last one, and
what is missing becomes a table. -/
def changeAt (change : Entries → Option Entries) : List String → Entries → Option Entries
  | [], es => change es
  | k :: path, es =>
    match es.lookup k with
    | none => do
      let below ← changeAt change path []
      return es.append k (.table .implied below)
    | some (.table origin below) => do
      let below ← changeAt change path below
      return es.replace k (.table origin below)
    | some (.tables elements) => do
      let below ← changeAt change path (← elements.getLast?)
      return es.replace k (.tables (elements.dropLast ++ [below]))
    | some (.leaf _) => none

/-- Writes a table under a key that is new or that headers have gone through. In either case it
then stands last. -/
def declareTable (key : String) (body : List Assignment) (es : Entries) : Option Entries :=
  match es.lookup key with
  | none => do
    let table ← assignAll [] body
    return es.append key (.table .declared table)
  | some (.table .implied below) => do
    let table ← assignAll below body
    return (es.erase key).append key (.table .declared table)
  | some _ => none

/-- Adds a table to the list of tables under a key. -/
def declareElement (key : String) (body : List Assignment) (es : Entries) : Option Entries :=
  match es.lookup key with
  | none => do
    let table ← assignAll [] body
    return es.append key (.tables [table])
  | some (.tables elements) => do
    let table ← assignAll [] body
    return es.replace key (.tables (elements ++ [table]))
  | some _ => none

def addSection (es : Entries) (s : Section) : Option Entries :=
  let declare := if s.header.isElement then declareElement else declareTable
  changeAt (declare s.header.key s.body) s.header.path es

/-- The tree of a document, unless two of its statements are at odds. -/
def Document.tree (d : Document) : Option Entries := do
  d.sections.foldlM addSection (← assignAll [] d.body)

/-! ## The values -/

mutual

def Node.value : Node → Value
  | .leaf v => v
  | .table _ es => .table (entryValues es)
  | .tables elements => .tables (elementValues elements)

def entryValues : List (String × Node) → List (String × Value)
  | [] => []
  | (k, n) :: rest => (k, n.value) :: entryValues rest

def elementValues : List (List (String × Node)) → List (List (String × Value))
  | [] => []
  | es :: rest => entryValues es :: elementValues rest

end

/-- The keys and values of a document. -/
def Document.values (d : Document) : Option (List (String × Value)) := d.tree.map entryValues

/-- The table that is written between braces. -/
def inlineTable (body : List Assignment) : Option Value :=
  (assignAll [] body).map fun es => .table (entryValues es)

end AnnotatedEntity.Toml
