import AnnotatedEntity.Attributes
import AnnotatedEntity.ClassRegistry
import AnnotatedEntity.CodeBuffer
import AnnotatedEntity.Column
import AnnotatedEntity.Converter
import AnnotatedEntity.Decimal.Binary64
import AnnotatedEntity.Decimal.Shortest
import AnnotatedEntity.FileTree
import AnnotatedEntity.Files
import AnnotatedEntity.Loading
import AnnotatedEntity.Main
import AnnotatedEntity.Manifest
import AnnotatedEntity.MappedType
import AnnotatedEntity.Naming
import AnnotatedEntity.NativeType
import AnnotatedEntity.Options
import AnnotatedEntity.Pattern.CharSet
import AnnotatedEntity.Pattern.Compile
import AnnotatedEntity.Pattern.Expr
import AnnotatedEntity.Pattern.Fault
import AnnotatedEntity.Pattern.Grammar.Alternation
import AnnotatedEntity.Pattern.Grammar.Escape
import AnnotatedEntity.Pattern.Grammar.Group
import AnnotatedEntity.Pattern.Grammar.Repetition
import AnnotatedEntity.Pattern.Grammar.Set
import AnnotatedEntity.Pattern.Look
import AnnotatedEntity.Pattern.Meaning
import AnnotatedEntity.Pattern.Report
import AnnotatedEntity.Pattern.Scan
import AnnotatedEntity.Pattern.Span
import AnnotatedEntity.Pattern.Tree
import AnnotatedEntity.Pattern.Weight
import AnnotatedEntity.Program.CommandLine
import AnnotatedEntity.Program.Execution
import AnnotatedEntity.Program.Log
import AnnotatedEntity.Program.Run
import AnnotatedEntity.Program.VariableFile
import AnnotatedEntity.Proofs.AttributeContent
import AnnotatedEntity.Proofs.AttributeHistory
import AnnotatedEntity.Proofs.Buffer
import AnnotatedEntity.Proofs.BufferText
import AnnotatedEntity.Proofs.ClassNames
import AnnotatedEntity.Proofs.ColumnSource
import AnnotatedEntity.Proofs.ColumnTag
import AnnotatedEntity.Proofs.CommentLines
import AnnotatedEntity.Proofs.DefaultValue
import AnnotatedEntity.Proofs.Depth
import AnnotatedEntity.Proofs.DocBlock
import AnnotatedEntity.Proofs.EntityBody
import AnnotatedEntity.Proofs.EntityClass
import AnnotatedEntity.Proofs.Fields
import AnnotatedEntity.Proofs.Indentation
import AnnotatedEntity.Proofs.InlineLength
import AnnotatedEntity.Proofs.ManifestDocument
import AnnotatedEntity.Proofs.MappedTypeNames
import AnnotatedEntity.Proofs.MethodNames
import AnnotatedEntity.Proofs.OptionsDocument
import AnnotatedEntity.Proofs.PascalCase
import AnnotatedEntity.Proofs.Precedence
import AnnotatedEntity.Proofs.Quoting
import AnnotatedEntity.Proofs.RawType
import AnnotatedEntity.Proofs.Run
import AnnotatedEntity.Proofs.Session
import AnnotatedEntity.Proofs.Spelling
import AnnotatedEntity.Proofs.Splice
import AnnotatedEntity.Proofs.TableHeader
import AnnotatedEntity.Proofs.Text.AsciiCase
import AnnotatedEntity.Proofs.Text.ByteOrder
import AnnotatedEntity.Proofs.Text.CommentEnd
import AnnotatedEntity.Proofs.Text.Cut
import AnnotatedEntity.Proofs.Text.DecimalLiteral
import AnnotatedEntity.Proofs.Text.LetterCase
import AnnotatedEntity.Proofs.Text.Numeral
import AnnotatedEntity.Proofs.Text.Reader
import AnnotatedEntity.Proofs.TypeHints
import AnnotatedEntity.Proofs.TypeTable
import AnnotatedEntity.Proofs.Verbosity
import AnnotatedEntity.RawType
import AnnotatedEntity.Rendering.Attempt
import AnnotatedEntity.Rendering.Column
import AnnotatedEntity.Rendering.Entity
import AnnotatedEntity.Rendering.Session
import AnnotatedEntity.ReservedWord
import AnnotatedEntity.Schema.Documents
import AnnotatedEntity.Schema.Fields
import AnnotatedEntity.Schema.Mismatch
import AnnotatedEntity.Schema.Shape
import AnnotatedEntity.Table
import AnnotatedEntity.TableView
import AnnotatedEntity.Text.Alphanumeric
import AnnotatedEntity.Text.Blank
import AnnotatedEntity.Text.Case
import AnnotatedEntity.Text.CaseContextTable
import AnnotatedEntity.Text.CaseTable
import AnnotatedEntity.Text.CodePoint
import AnnotatedEntity.Text.Flag
import AnnotatedEntity.Text.Integer
import AnnotatedEntity.Text.Lines
import AnnotatedEntity.Text.Quoted
import AnnotatedEntity.Text.Reader
import AnnotatedEntity.Text.UnseenTable
import AnnotatedEntity.Toml.Datetime
import AnnotatedEntity.Toml.Grammar.Document
import AnnotatedEntity.Toml.Grammar.Moment
import AnnotatedEntity.Toml.Grammar.Number
import AnnotatedEntity.Toml.Grammar.Quoted
import AnnotatedEntity.Toml.Grammar.Space
import AnnotatedEntity.Toml.Tree
import AnnotatedEntity.Toml.Value
