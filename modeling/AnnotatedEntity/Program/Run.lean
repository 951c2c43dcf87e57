/-
A run of the program from its arguments to its exit code.
-/
import AnnotatedEntity.Program.Execution
import AnnotatedEntity.Program.VariableFile

namespace AnnotatedEntity

/-- All that a run can see. -/
structure Surroundings where
  files : Files
  /-- The user's own options file, whether it is there or not. -/
  userOptions : Option String
  /-- The content of a file of variables. -/
  variableFile : Option ByteArray
  /-- The variables that are set outside. -/
  environment : String → Option String

/-- What a run leaves behind. -/
structure Outcome where
  exitCode : Nat
  output : String
  /-- What is told of the filter, before the work begins. -/
  complaints : List String := []
  log : List Log.Event := []
  report : Option Report := none
deriving Repr, DecidableEq, Inhabited

namespace Program

def versionText : String := "mwb-doctrine 0.1.0\n"

def helpText : String :=
  "Renders MySQL Workbench columns as Doctrine 2 annotated entity properties and accessors\n\n"
    ++ "Usage: mwb-doctrine [OPTIONS] <MANIFEST>\n\n"
    ++ "Arguments:\n"
    ++ "  <MANIFEST>  TOML manifest listing tables and their columns\n\n"
    ++ "Options:\n"
    ++ "  -c, --config <CONFIG>  Formatter options file "
    ++ "(defaults to ~/.config/mwb-doctrine/formatter.toml)\n"
    ++ "      --quote <QUOTE>    Identifier quoting: auto, always or none\n"
    ++ "      --typehint         Type-hint setter parameters whose type is a known class\n"
    ++ "  -v, --verbose\n"
    ++ "  -h, --help             Print help\n"
    ++ "  -V, --version          Print version\n"

/-- The variable that holds a written filter. -/
def filterVariable : String := "RUST_LOG"

/-- What a variable holds, outside or else in the file of variables. -/
def heldVariable (environment : String → Option String) (variableFile : Option ByteArray)
    (name : String) : Option String :=
  let outer (name : List Char) := (environment (.ofList name)).map String.toList
  let assigned := (variableFile.map (VariableFile.ofContent outer)).getD []
  (VariableFile.held outer assigned name.toList).map String.ofList

/-- The user's own options file, below the directory for settings. -/
def userOptionsPath (held : String → Option String) : Option String :=
  let settings := (held "XDG_CONFIG_HOME").filter (·.startsWith "/")
  let base := settings.or ((held "HOME").map (· ++ "/.config"))
  base.map (· ++ "/mwb-doctrine/formatter.toml")

/-- The filter as it is written, if it is. -/
def writtenFilter? (s : Surroundings) : Option (List Char) :=
  (heldVariable s.environment s.variableFile filterVariable).map String.toList

/-- The written filter, or else warnings and, if the command line asks for more, all but traces. -/
def filter (written : Option (List Char)) (verbose : Bool) : Log.Filter :=
  match written with
  | some text => .ofText text
  | none => .upTo (if verbose then .debug else .warn)

/-- What is left of the work when its events have gone through the filter. -/
def outcomeOf (written : Option (List Char)) (verbose : Bool) (e : Execution) : Outcome where
  exitCode := if e.report.isSome then 1 else 0
  output := e.output
  complaints := (written.map Log.complaints).getD []
  log := e.events.filter (filter written verbose).shows
  report := e.report

def run (s : Surroundings) (args : List String) : Outcome :=
  match CommandLine.parse args with
  | .ok c =>
    outcomeOf (writtenFilter? s) c.verbose (Execution.ofCommandLine s.files s.userOptions c)
  | .error .usage => { exitCode := 2, output := "" }
  | .error .version => { exitCode := 0, output := versionText }
  | .error .help => { exitCode := 0, output := helpText }

end Program

end AnnotatedEntity
