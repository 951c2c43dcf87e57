/-
The classes that a setter may use as a type hint: the date classes and those the options add. A
class is known by its fully qualified name, with or without the backslash in front.
-/
import AnnotatedEntity.NativeType

namespace AnnotatedEntity

/-- The name with a backslash in front, unless it has one. -/
def qualified (name : String) : String :=
  if name.toList.head? = some '\\' then name else "\\" ++ name

/-- The qualified names of the known classes. -/
abbrev ClassRegistry := List String

namespace ClassRegistry

def builtin : ClassRegistry := ["\\DateTime", "\\DateTimeImmutable", "\\DateTimeInterface"]

def ofExtras (extras : List String) : ClassRegistry := builtin ++ extras.map qualified

def knows (registry : ClassRegistry) : NativeType → Bool
  | .ofClass name => List.contains registry (qualified name)
  | _ => false

end ClassRegistry

end AnnotatedEntity
