/-
A working directory that is given by the files below it, and how a path is followed through it. A
directory is there if it is on the way to a file. Above the working directory there is nothing but
directories.
-/
import AnnotatedEntity.Files

namespace AnnotatedEntity

/-- Files with their paths, as names from the working directory on. -/
abbrev FileTree := List (List String × ByteArray)

namespace FileTree

/-! ## Places -/

/-- Where a path can lead to. -/
inductive Place where
  | inside (names : List String)
  | above
  | nowhere
deriving Repr, DecidableEq, Inhabited

inductive Entry where
  | file (content : ByteArray)
  | directory
  | nothing

def entryAt (tree : FileTree) : Place → Entry
  | .above => .directory
  | .nowhere => .nothing
  | .inside names =>
    match List.lookup names tree with
    | some content => .file content
    | none =>
      if names.isEmpty || tree.any fun f => names.isPrefixOf f.1 then .directory else .nothing

/-- The place that a name leads to from a directory. -/
def Place.follow : Place → String → Place
  | place, "" | place, "." => place
  | inside [], ".." | above, ".." => above
  | inside names, ".." => inside names.dropLast
  | inside names, name => inside (names ++ [name])
  | _, _ => nowhere

/-! ## Paths -/

/-- The names in a path. -/
def segments (path : String) : List String := (path.toList.splitOn '/').map String.ofList

/-- Follows names one after the other. Each one but the last has to lead to a directory. -/
def walk (tree : FileTree) (place : Place) : List String → Except ReadFailure Place
  | [] => .ok place
  | name :: rest =>
    match tree.entryAt place with
    | .directory => tree.walk (place.follow name) rest
    | .file _ => .error .notDirectory
    | .nothing => .error .notFound

/-- The place where a path starts. -/
def startOf (path : String) : Place := if path.toList.head? = some '/' then .above else .inside []

def files (tree : FileTree) : Files := fun path => do
  if path = "" then .error .notFound
  else
    match tree.entryAt (← tree.walk (startOf path) (segments path)) with
    | .file content => .ok content
    | .directory => .error .isDirectory
    | .nothing => .error .notFound

/-- A tree from paths that have no detours. -/
def ofPaths (files : List (String × ByteArray)) : FileTree :=
  files.map fun (path, content) => (segments path, content)

end FileTree

end AnnotatedEntity
