/-
The work of a run, once the command line is known: the options, the manifest, and then table after
table up to the first one that fails. All that could be told of it is told; what is shown of that
makes no difference here.
-/
import AnnotatedEntity.Loading
import AnnotatedEntity.Program.CommandLine
import AnnotatedEntity.Program.Log
import AnnotatedEntity.Rendering.Entity

namespace AnnotatedEntity

open Log (Event)

/-- Why a run has failed, and what was behind it. -/
structure Report where
  message : String
  cause : Option String
deriving Repr, DecidableEq, Inhabited

structure Execution where
  events : List Event := []
  output : String := ""
  report : Option Report := none
deriving Repr, DecidableEq, Inhabited

namespace Execution

/-- The work with something told and written before it. -/
def after (events : List Event) (output : String) (rest : Execution) : Execution :=
  { rest with events := events ++ rest.events, output := output ++ rest.output }

/-! ## Tables -/

def renderingEvent (t : Table) : Event where
  part := .main
  level := .info
  message := "Rendering table \"" ++ t.name ++ "\" as " ++ t.className

/-- A message of the renderer, without the blanks in front. -/
def accessorEvent (message : String) : Event where
  part := .rendering
  level := .info
  message := Text.onString Text.trimStart message

/-- A table's entity with its class and its comment above it. -/
def block (t : Table) (body : String) : String :=
  let comment := (t.comment.map fun c => "// " ++ c ++ "\n").getD ""
  "// " ++ t.className ++ "\n" ++ comment ++ body ++ "\n"

/-- The tables one after the other. The first one that fails writes nothing and is the last. -/
def ofTables (o : Options) (conv : Converter) : List Table → Execution
  | [] => {}
  | t :: rest =>
    let attempt := t.entityBody (.ofTable t conv o)
    let events := renderingEvent t :: attempt.log.map accessorEvent
    match attempt.result with
    | .ok body => (ofTables o conv rest).after events (block t body)
    | .error e => { events, report := some ⟨"Failed to render table " ++ t.name, some e.message⟩ }

/-! ## Files -/

def failureReport (what path : String) (failure : LoadFailure) : Report where
  message := failure.message what path
  cause :=
    match failure with
    | .unreadable cause => some cause.message
    | .malformed | .unfitting _ => none

/-- The options file that counts: the one that is named, or else the user's own if there is one. -/
def optionsPath (files : Files) (userOptions : Option String) (c : CommandLine) : Option String :=
  match c.optionsFile with
  | some path => some path
  | none => userOptions.filter files.isFile

def optionsEvent (path : Option String) : Event where
  part := .options
  level := .debug
  message :=
    match path with
    | some path => "Loaded formatter config from " ++ path
    | none => "No formatter config found, using defaults"

def loadOptions (files : Files) : Option String → Except Report Options
  | none => .ok {}
  | some path => (Options.load files path).mapError (failureReport Options.fileKind path)

/-- The options with what the command line sets in their place. -/
def override (c : CommandLine) (o : Options) : Options :=
  { o with
    quoteStrategy := c.quote.getD o.quoteStrategy
    propertyTypehint := c.typehint || o.propertyTypehint }

def settingsEvent (o : Options) : Event where
  part := .main
  level := .debug
  message := "Quoting identifiers: " ++ o.quoteStrategy.name ++ ", type hints: "
    ++ Text.flag o.propertyTypehint

def manifestEvent (path : String) (m : Manifest) : Event where
  part := .manifest
  level := .debug
  message := "Loaded " ++ toString m.tables.length ++ " table(s) from " ++ path

/-! ## The whole -/

/-- The work under options that are settled. -/
def ofOptions (files : Files) (path : String) (o : Options) : Execution :=
  match Manifest.load files path with
  | .ok m => (ofTables o (.ofOptions o) (m.tablesUnder o)).after [manifestEvent path m] ""
  | .error failure => { report := some (failureReport Manifest.fileKind path failure) }

def ofCommandLine (files : Files) (userOptions : Option String) (c : CommandLine) : Execution :=
  let path := optionsPath files userOptions c
  match loadOptions files path with
  | .ok loaded =>
    let o := override c loaded
    (ofOptions files c.manifest o).after [optionsEvent path, settingsEvent o] ""
  | .error report => { report := some report }

end Execution

end AnnotatedEntity
