/-
The command line: one manifest and a few options. Arguments are taken from left to right, and the
first one that is wrong, or asks for the version or for help, settles the matter.
-/
import AnnotatedEntity.Options

namespace AnnotatedEntity

structure CommandLine where
  manifest : String
  optionsFile : Option String := none
  quote : Option QuoteStrategy := none
  typehint : Bool := false
  verbose : Bool := false
deriving Repr, DecidableEq, Inhabited

namespace CommandLine

/-- What ends the reading before there is a command line. -/
inductive Stop where
  | usage
  | version
  | help
deriving Repr, DecidableEq, Inhabited

/-- The options that take a value. -/
inductive ValueOption where
  | optionsFile
  | quote
deriving Repr, DecidableEq, Inhabited

/-- What the arguments so far have said. -/
structure Draft where
  manifest : Option String := none
  optionsFile : Option String := none
  quote : Option QuoteStrategy := none
  typehint : Bool := false
  verbose : Bool := false
  /-- An option that still waits for its value. -/
  pending : Option ValueOption := none
  /-- Two dashes have been seen: no further argument is an option. -/
  onlyOperands : Bool := false
deriving Repr, DecidableEq, Inhabited

namespace Draft

/-! ## Setting things, each of them once -/

def setManifest (d : Draft) (path : List Char) : Except Stop Draft :=
  if path.isEmpty || d.manifest.isSome then .error .usage
  else .ok { d with manifest := some (.ofList path) }

def setTypehint (d : Draft) : Except Stop Draft :=
  if d.typehint then .error .usage else .ok { d with typehint := true }

def setVerbose (d : Draft) : Except Stop Draft :=
  if d.verbose then .error .usage else .ok { d with verbose := true }

def setValue (d : Draft) (value : List Char) : ValueOption → Except Stop Draft
  | .optionsFile =>
    if value.isEmpty || d.optionsFile.isSome then .error .usage
    else .ok { d with optionsFile := some (.ofList value), pending := none }
  | .quote =>
    match QuoteStrategy.ofText? (.ofList value) with
    | some strategy =>
      if d.quote.isSome then .error .usage
      else .ok { d with quote := some strategy, pending := none }
    | none => .error .usage

/-- An option with its value, if that came with it. -/
def takeOption (d : Draft) (option : ValueOption) : Option (List Char) → Except Stop Draft
  | some value => d.setValue value option
  | none => .ok { d with pending := some option }

/-! ## Arguments -/

/-- A long option, with the value after an equals sign. -/
def takeLong (d : Draft) (name : String) (value : Option (List Char)) : Except Stop Draft :=
  match name, value with
  | "config", value => d.takeOption .optionsFile value
  | "quote", value => d.takeOption .quote value
  | "typehint", none => d.setTypehint
  | "verbose", none => d.setVerbose
  | "version", none => .error .version
  | "help", none => .error .help
  | _, _ => .error .usage

/-- Short options in one argument. One that takes a value takes the rest of it. -/
def takeShort (d : Draft) : List Char → Except Stop Draft
  | [] => .ok d
  | ['c'] => d.takeOption .optionsFile none
  | 'c' :: '=' :: value | 'c' :: value => d.takeOption .optionsFile (some value)
  | 'v' :: rest => do takeShort (← d.setVerbose) rest
  | 'V' :: _ => .error .version
  | 'h' :: _ => .error .help
  | _ :: _ => .error .usage

/-- An argument where an option or the manifest can stand. -/
def takeFree (d : Draft) : List Char → Except Stop Draft
  | ['-', '-'] => .ok { d with onlyOperands := true }
  | '-' :: '-' :: long =>
    let name := String.ofList (long.takeWhile (· ≠ '='))
    match long.dropWhile (· ≠ '=') with
    | [] => d.takeLong name none
    | _ :: value => d.takeLong name (some value)
  | ['-'] => d.setManifest ['-']
  | '-' :: short => d.takeShort short
  | operand => d.setManifest operand

/-- An argument that looks like an option is no value. A lone dash does not look like one. -/
def looksLikeOption : List Char → Bool
  | '-' :: _ :: _ => true
  | _ => false

def take (d : Draft) (arg : List Char) : Except Stop Draft :=
  match d.pending with
  | some option => if looksLikeOption arg then .error .usage else d.setValue arg option
  | none => if d.onlyOperands then d.setManifest arg else d.takeFree arg

/-- The command line, if nothing is missing. -/
def finish (d : Draft) : Except Stop CommandLine :=
  match d.pending, d.manifest with
  | none, some manifest =>
    .ok {
      manifest
      optionsFile := d.optionsFile
      quote := d.quote
      typehint := d.typehint
      verbose := d.verbose }
  | _, _ => .error .usage

end Draft

/-- The command line that the arguments are. -/
def parse (args : List String) : Except Stop CommandLine := do
  (← args.foldlM (fun d arg => d.take arg.toList) ({} : Draft)).finish

end CommandLine

end AnnotatedEntity
