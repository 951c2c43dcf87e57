/-
Loading options and manifests: reading a file, taking it for a document, and reading the document
in its shape. Each step can fail in its own way.
-/
import AnnotatedEntity.Files
import AnnotatedEntity.Schema.Documents
import AnnotatedEntity.Toml.Grammar.Document

namespace AnnotatedEntity

inductive LoadFailure where
  | unreadable (cause : ReadFailure)
  | malformed
  | unfitting (cause : Schema.Mismatch)
deriving Repr, DecidableEq, Inhabited

/-- What went wrong, for a kind of file and its path. -/
def LoadFailure.message (what path : String) : LoadFailure → String
  | unreadable _ => "Failed to read " ++ what ++ " " ++ path
  | malformed | unfitting _ => "Invalid " ++ what ++ " " ++ path

/-- The document that a file is. -/
def Files.document (files : Files) (path : String) :
    Except LoadFailure (List (String × Toml.Value)) :=
  match files.text path with
  | .error cause => .error (.unreadable cause)
  | .ok content =>
    match Toml.parse? content with
    | some entries => .ok entries
    | none => .error .malformed

/-- What the document in a file says in the fields of a record. -/
def Files.load {α : Type} (files : Files) (fields : Schema.Fields α) (path : String) :
    Except LoadFailure α := do
  match fields.ofEntries (← files.document path) with
  | .ok a => .ok a
  | .error cause => .error (.unfitting cause)

def Options.load (files : Files) (path : String) : Except LoadFailure Options :=
  files.load Options.fields path

def Manifest.load (files : Files) (path : String) : Except LoadFailure Manifest :=
  files.load Manifest.fields path

/-- What the file of options is called in a report. -/
def Options.fileKind : String := "formatter config"

/-- What a manifest is called in a report. -/
def Manifest.fileKind : String := "manifest"

end AnnotatedEntity
