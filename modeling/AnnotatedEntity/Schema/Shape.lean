/-
Shapes: how a value of a document is read as a text, a number, a list and so on. A date or time is
like a table with one key, and a list of tables is like a list that is written as a value.
-/
import AnnotatedEntity.Schema.Mismatch

namespace AnnotatedEntity

open Toml (Value)

/-! ## What a value is like -/

namespace Toml.Value

/-- The only key of a date or time that is taken for a table. -/
def datetimeKey : String := "$__toml_private_datetime"

def entries? : Value → Option (List (String × Value))
  | .table entries => some entries
  | .datetime d => some [(datetimeKey, .string d.text)]
  | _ => none

def items? : Value → Option (List Value)
  | .array items => some items
  | .tables elements => some (elements.map .table)
  | _ => none

def kind : Value → Schema.Kind
  | .string s => .string s
  | .integer n => .integer n
  | .float x => .float x
  | .boolean b => .boolean b
  | .array _ | .tables _ => .sequence
  | .table _ | .datetime _ => .map

end Toml.Value

namespace Schema

/-- How a value is read. -/
abbrev Shape (α : Type) := Value → Except Mismatch α

variable {α : Type}

/-! ## Plain shapes -/

def wrongKind (expected : String) (v : Value) : Except Mismatch α :=
  .error (.wrongKind v.kind expected)

def text : Shape String
  | .string s => .ok s
  | v => wrongKind "a string" v

def flag : Shape Bool
  | .boolean b => .ok b
  | v => wrongKind "a boolean" v

def number : Shape Int
  | .integer n => .ok n
  | v => wrongKind "i64" v

def count : Shape Nat
  | .integer n => if n < 0 then .error (.negative n) else .ok n.toNat
  | v => wrongKind "usize" v

def listOf (shape : Shape α) : Shape (List α) := fun v =>
  match v.items? with
  | some items => items.mapM shape
  | none => wrongKind "a sequence" v

/-- A table whose keys are free, in the order in which they are written. -/
def entriesOf (shape : Shape α) : Shape (List (String × α)) := fun v =>
  match v.entries? with
  | some entries => entries.mapM fun (k, v) => do return (k, ← shape v)
  | none => wrongKind "a map" v

/-! ## Choices -/

def chosen (all : List α) (name : α → String) (s : String) : Except Mismatch α :=
  match all.find? fun a => name a == s with
  | some a => .ok a
  | none => .error (.unknownVariant s (all.map name))

/-- What may stand under the key of a choice: nothing. -/
def checkEmpty : Value → Except Mismatch Unit
  | .table [] | .array [] | .tables [] => .ok ()
  | .table _ | .array _ => .error .filledTable
  | .tables _ => .error .filledList
  | .string _ => .error (.strayValue "string")
  | .integer _ => .error (.strayValue "integer")
  | .float _ => .error (.strayValue "float")
  | .boolean _ => .error (.strayValue "boolean")
  | .datetime _ => .error (.strayValue "datetime")

/-- One of the things listed, by its name. -/
def choice (all : List α) (name : α → String) : Shape α
  | .string s => chosen all name s
  | .table [] => .error .emptyChoice
  | .table [(s, v)] => do
    let a ← chosen all name s
    checkEmpty v
    return a
  | .table _ => .error .manyChoices
  | _ => .error .noChoice

end Schema

end AnnotatedEntity
