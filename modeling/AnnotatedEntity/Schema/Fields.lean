/-
Records: named fields, each with a shape. A record may be written as a table, in which other keys
do no harm, or as a list of values in the order of its fields. Of several failures the first in the
document counts, and a field that is not given is noticed after all that are.
-/
import AnnotatedEntity.Schema.Shape

namespace AnnotatedEntity.Schema

open Toml (Value)

variable {α β : Type}

/-! ## Failures -/

inductive FieldFailure where
  /-- The value at this position does not fit. -/
  | rejected (position : Nat) (cause : Mismatch)
  | absent (name : String)
deriving Repr, DecidableEq, Inhabited

/-- Which of two failures is noticed first, where the first field stands before the second one in
the record. -/
def FieldFailure.first : FieldFailure → FieldFailure → FieldFailure
  | .rejected p cause, .rejected q other =>
    if p ≤ q then .rejected p cause else .rejected q other
  | .absent _, .rejected q other => .rejected q other
  | failure, .absent _ => failure

/-! ## Fields -/

/-- The names of some fields, in the order of the record, and what is read from named values. -/
structure Fields (α : Type) where
  names : List String
  read : List (String × Value) → Except FieldFailure α

namespace Fields

/-- One field, and what it is taken for where it is not given. -/
def one (name : String) (otherwise : Except FieldFailure α) (shape : Shape α) : Fields α where
  names := [name]
  read given :=
    match given.lookup name with
    | none => otherwise
    | some v =>
      match shape v with
      | .ok a => .ok a
      | .error cause => .error (.rejected (given.findIdx (·.1 == name)) cause)

def required (name : String) (shape : Shape α) : Fields α := one name (.error (.absent name)) shape

def withDefault (name : String) (default : α) (shape : Shape α) : Fields α :=
  one name (.ok default) shape

def optional (name : String) (shape : Shape α) : Fields (Option α) :=
  one name (.ok none) fun v => some <$> shape v

/-- Both are read, so that the first failure can be told. -/
def applyTo (f : Except FieldFailure (α → β)) (x : Except FieldFailure α) : Except FieldFailure β :=
  match f, x with
  | .ok f, .ok a => .ok (f a)
  | .ok _, .error failure => .error failure
  | .error failure, .ok _ => .error failure
  | .error failure, .error other => .error (failure.first other)

instance : Applicative Fields where
  pure a := { names := [], read := fun _ => .ok a }
  seq f x :=
    { names := f.names ++ (x ()).names
      read := fun given => applyTo (f.read given) ((x ()).read given) }

/-! ## Records -/

/-- The record in named values. -/
def ofEntries (fields : Fields α) (entries : List (String × Value)) : Except Mismatch α :=
  match fields.read entries with
  | .ok a => .ok a
  | .error (.rejected _ cause) => .error cause
  | .error (.absent name) => .error (.missingField name)

/-- The record in a list of values, each of which takes the next name. -/
def ofItems (expected : String) (fields : Fields α) (items : List Value) : Except Mismatch α :=
  match fields.read (fields.names.zip items) with
  | .ok a => .ok a
  | .error (.rejected _ cause) => .error cause
  | .error (.absent _) =>
    .error (.tooShort items.length
      (expected ++ " with " ++ toString fields.names.length ++ " elements"))

/-- A record as a table or as a list. -/
def shape (expected : String) (fields : Fields α) : Shape α := fun v =>
  match v.entries?, v.items? with
  | some entries, _ => fields.ofEntries entries
  | none, some items => fields.ofItems expected items
  | none, none => wrongKind expected v

end Fields

end AnnotatedEntity.Schema
