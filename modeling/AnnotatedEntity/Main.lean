/-
The program on the command line. It reads the files that a run can ask for, and shows what the run
leaves behind.
-/
import AnnotatedEntity.Program.Run

namespace AnnotatedEntity

/-- The failure behind a system's error. -/
def failureOf : IO.Error → ReadFailure
  | .permissionDenied .. => .denied
  | .inappropriateType _ code _ => if code = 20 || code = -20 then .notDirectory else .isDirectory
  | _ => .notFound

def readPath (path : String) : IO (Except ReadFailure ByteArray) := do
  try
    return .ok (← IO.FS.readBinFile path)
  catch e =>
    return .error (failureOf e)

/-- The paths and what reading each of them gives. -/
def readPaths (paths : List String) : IO Files := do
  let contents ← paths.mapM fun path => return (path, ← readPath path)
  return fun path => (contents.lookup path).getD (.error .notFound)

/-- A directory and those above it, from the inside out. -/
def ancestors (directory : String) : List String :=
  let names := directory.splitOn "/"
  (List.range names.length).map fun n => "/".intercalate (names.take (names.length - n))

/-- The nearest file of variables. -/
def readVariableFile : IO (Option ByteArray) := do
  let paths := (ancestors (← IO.currentDir).toString).map (· ++ "/.env")
  let contents ← paths.mapM readPath
  return contents.findSome? Except.toOption

/-- The stretches of characters that pass the test. -/
def stretches (p : Char → Bool) (s : String) : List String :=
  (s.map fun c => if p c then c else '$').splitOn "$"

/-- What stands in a file of variables and can be the name of one: a name that is assigned to, or
one after `$`, or one in braces up to an equals sign. -/
def namesIn (content : ByteArray) : List String :=
  let isBraced (c : Char) := c ≠ '\x7b' && c ≠ '\x7d' && c ≠ '='
  let tests := [VariableFile.isNameChar, Text.isAlphanumeric, isBraced]
  match String.fromUTF8? content with
  | some s => tests.flatMap fun p => stretches p s
  | none => []

/-- The variables of these names as they are set outside. -/
def readEnvironment (names : List String) : IO (String → Option String) := do
  let held ← names.mapM fun name => return (name, ← IO.getEnv name)
  return fun name => (held.lookup name).join

/-- Everything that a run with these arguments can see. -/
def readSurroundings (args : List String) : IO Surroundings := do
  let variableFile ← readVariableFile
  let known := [Program.filterVariable, "XDG_CONFIG_HOME", "HOME"]
  let environment ← readEnvironment (known ++ (variableFile.map namesIn).getD [])
  let userOptions := Program.userOptionsPath (Program.heldVariable environment variableFile)
  let paths :=
    match CommandLine.parse args with
    | .ok c => c.manifest :: c.optionsFile.toList ++ userOptions.toList
    | .error _ => []
  return { files := ← readPaths paths, userOptions, variableFile, environment }

def showReport (report : Report) : IO Unit := do
  IO.eprintln "Error:"
  IO.eprintln ("   0: " ++ report.message)
  if let some cause := report.cause then IO.eprintln ("   1: " ++ cause)

end AnnotatedEntity

open AnnotatedEntity

def main (args : List String) : IO UInt32 := do
  let outcome := Program.run (← readSurroundings args) args
  IO.print outcome.output
  outcome.complaints.forM fun text => IO.eprintln text
  outcome.log.forM fun e => IO.eprintln e.text
  outcome.report.forM showReport
  if outcome.exitCode = 2 then IO.eprint Program.helpText
  return outcome.exitCode.toUInt32
