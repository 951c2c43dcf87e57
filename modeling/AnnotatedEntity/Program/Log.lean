/-
What the program tells of its work, and which of it is shown. A filter is a list of directives. Each
one sets the limit for the parts of the program whose names begin in some way, and for a part the
longest beginning decides. A pattern may have to be found in the message, too.
-/
import AnnotatedEntity.Pattern.Compile
import AnnotatedEntity.Text.Blank

namespace AnnotatedEntity.Log

/-! ## Events -/

inductive Level where
  | error
  | warn
  | info
  | debug
  | trace
deriving Repr, DecidableEq, Inhabited

namespace Level

def name : Level → String
  | error => "ERROR"
  | warn => "WARN"
  | info => "INFO"
  | debug => "DEBUG"
  | trace => "TRACE"

def all : List Level := [error, warn, info, debug, trace]

/-- The more is told, the greater. -/
def verbosity : Level → Nat
  | error => 1
  | warn => 2
  | info => 3
  | debug => 4
  | trace => 5

end Level

/-- The part of the program that tells something. -/
inductive Part where
  | main
  | options
  | manifest
  | rendering
deriving Repr, DecidableEq, Inhabited

/-- The name that a filter knows a part by. -/
def Part.path : Part → String
  | main => "mwb_doctrine"
  | options => "mwb_doctrine::infra::config::formatter_toml"
  | manifest => "mwb_doctrine::infra::config::manifest"
  | rendering => "mwb_doctrine::infra::adapters::render_log"

structure Event where
  part : Part
  level : Level
  message : String
deriving Repr, DecidableEq, Inhabited

/-- How an event is shown. -/
def Event.text (e : Event) : String := e.level.name ++ " " ++ e.message

/-! ## Filters -/

/-- The greatest level that is shown, or none at all. -/
abbrev Limit := Option Level

def Limit.admits (limit : Limit) (level : Level) : Bool :=
  match limit with
  | some greatest => level.verbosity ≤ greatest.verbosity
  | none => false

structure Directive where
  /-- How the names of the parts begin. -/
  start : List Char
  limit : Limit
deriving Repr, DecidableEq, Inhabited

structure Filter where
  directives : List Directive
  /-- What has to be found in a message. -/
  pattern : Option Pattern.Expr := none
deriving Repr, DecidableEq, Inhabited

namespace Filter

/-- Of two directives the one with the longer beginning, or else the later one. -/
def closer (d : Directive) (best : Option Directive) : Option Directive :=
  match best with
  | some b => if d.start.length < b.start.length then some b else some d
  | none => some d

/-- The directive that decides for a part of this name. -/
def deciding (f : Filter) (path : List Char) : Option Directive :=
  (f.directives.filter fun d => d.start.isPrefixOf path).foldl (fun best d => closer d best) none

def shows (f : Filter) (e : Event) : Bool :=
  match f.deciding e.part.path.toList with
  | some d => Limit.admits d.limit e.level && f.pattern.all (·.occursIn e.message.toList)
  | none => false

/-- The same limit for all parts. -/
def upTo (level : Level) : Filter := { directives := [⟨[], some level⟩] }

end Filter

/-! ## Written filters -/

/-- The limit of this name, in any case. -/
def limit? (s : List Char) : Option Limit :=
  let lowered := s.map Char.toLower
  if lowered = "off".toList then some none
  else (Level.all.find? fun l => l.name.toList.map Char.toLower = lowered).map some

/-- A directive: a limit for all, a name whose parts have no limit, or a name and its limit. What
is none of these is passed over, and what spoils it is told. -/
def directive (s : List Char) : Except (List Char) Directive :=
  match s.splitOn '=' with
  | [word] =>
    match limit? word with
    | some limit => .ok ⟨[], limit⟩
    | none => .ok ⟨word, some .trace⟩
  | [start, word] =>
    match Text.trim word with
    | [] => .ok ⟨start, some .trace⟩
    | word =>
      match limit? word with
      | some limit => .ok ⟨start, limit⟩
      | none => .error word
  | _ => .error s

/-- What stands between commas, without the blanks around it and without what is empty. -/
def writtenDirectives (s : List Char) : List (Except (List Char) Directive) :=
  let words := (s.splitOn ',').map Text.trim
  (words.filter (!·.isEmpty)).map directive

/-- A filter as it is written: directives between commas, and after a slash a pattern. -/
structure WrittenFilter where
  directives : List (Except (List Char) Directive)
  pattern : Option (List Char) := none

/-- The parts of a written filter. A second slash spoils it all. -/
def WrittenFilter.ofText? (s : List Char) : Option WrittenFilter :=
  match s.splitOn '/' with
  | [words] => some { directives := writtenDirectives words }
  | [words, pattern] => some { directives := writtenDirectives words, pattern }
  | _ => none

/-- Only errors are shown where no directive is left. -/
def Filter.ofDirectives (ds : List Directive) (pattern : Option Pattern.Expr) : Filter :=
  match ds with
  | [] => { Filter.upTo .error with pattern }
  | ds => { directives := ds, pattern }

/-- The filter without what is spoilt in it. -/
def Filter.ofText (s : List Char) : Filter :=
  match WrittenFilter.ofText? s with
  | some w =>
    let pattern := w.pattern.bind fun text => (Pattern.Expr.ofText text).toOption
    .ofDirectives (w.directives.filterMap Except.toOption) pattern
  | none => .ofDirectives [] none

/-! ## Complaints -/

/-- What is told of a text that is passed over in a written filter. -/
def complaint (spoilt : List Char) : String :=
  "warning: invalid logging spec '" ++ String.ofList spoilt ++ "', ignoring it"

/-- What is told of a pattern that is passed over. -/
def patternComplaint (text : List Char) (r : Pattern.Rejection) : String :=
  "warning: invalid regex filter - " ++ r.message text

def WrittenFilter.complaints (w : WrittenFilter) : List String :=
  let ofDirectives := w.directives.filterMap fun d =>
    match d with
    | .ok _ => none
    | .error spoilt => some (complaint spoilt)
  let ofPattern := w.pattern.bind fun text =>
    match Pattern.Expr.ofText text with
    | .ok _ => none
    | .error r => some (patternComplaint text r)
  ofDirectives ++ ofPattern.toList

/-- What is told of all that is passed over in a written filter. -/
def complaints (s : List Char) : List String :=
  match WrittenFilter.ofText? s with
  | some w => w.complaints
  | none => [complaint s ++ " (too many '/'s)"]

end AnnotatedEntity.Log
