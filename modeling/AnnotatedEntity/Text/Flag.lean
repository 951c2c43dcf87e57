/-
Flags as texts.
-/

namespace AnnotatedEntity.Text

def flag (b : Bool) : String := if b then "true" else "false"

end AnnotatedEntity.Text
