/-
The words that a database keeps for itself. A column of such a name is quoted.
-/
import AnnotatedEntity.Text.Blank
import AnnotatedEntity.Text.Case

namespace AnnotatedEntity

def reservedWords : List String :=
  ["add", "all", "alter", "analyze", "and", "as", "asc", "before", "between", "bigint", "binary",
   "blob", "both", "by", "call", "cascade", "case", "change", "char", "character", "check",
   "collate", "column", "condition", "constraint", "continue", "convert", "create", "cross",
   "current_date", "current_time", "current_timestamp", "current_user", "cursor", "database",
   "databases", "day_hour", "dec", "decimal", "declare", "default", "delayed", "delete", "desc",
   "describe", "distinct", "div", "double", "drop", "dual", "each", "else", "elseif", "enclosed",
   "escaped", "exists", "exit", "explain", "false", "fetch", "float", "for", "force", "foreign",
   "from", "fulltext", "function", "grant", "group", "having", "if", "ignore", "in", "index",
   "inner", "inout", "insert", "int", "integer", "interval", "into", "is", "iterate", "join",
   "key", "keys", "kill", "leading", "leave", "left", "like", "limit", "lines", "load", "lock",
   "long", "loop", "match", "mod", "natural", "not", "null", "numeric", "on", "option", "or",
   "order", "out", "outer", "primary", "procedure", "range", "read", "real", "references",
   "regexp", "release", "rename", "repeat", "replace", "require", "restrict", "return", "revoke",
   "right", "rlike", "schema", "select", "set", "show", "smallint", "spatial", "sql", "table",
   "then", "to", "trigger", "true", "undo", "union", "unique", "unlock", "unsigned", "update",
   "usage", "use", "using", "values", "varchar", "when", "where", "while", "with", "write", "xor"]

/-- The name is a reserved word, in whatever case. -/
def isReservedWord (name : String) : Bool :=
  reservedWords.contains (Text.onString Text.lower name)

end AnnotatedEntity
