import XslLowering.Attempt
import XslLowering.Cache
import XslLowering.Callback.Builtin
import XslLowering.Callback.Registry
import XslLowering.Callback.Scope
import XslLowering.Callback.Value
import XslLowering.CommandLine
import XslLowering.Decimal.Nearest
import XslLowering.Decimal.Shortest
import XslLowering.Dictionary
import XslLowering.Document.Basic
import XslLowering.Document.Error
import XslLowering.Document.Namespace
import XslLowering.Document.Node
import XslLowering.Document.Reader
import XslLowering.Document.Writer
import XslLowering.Expression.Error
import XslLowering.Expression.Lexer
import XslLowering.Expression.Place
import XslLowering.Expression.Stream
import XslLowering.Expression.Token
import XslLowering.Files.Basic
import XslLowering.Files.Fault
import XslLowering.Json.Basic
import XslLowering.Json.Reader
import XslLowering.Main
import XslLowering.Markup.Doctype
import XslLowering.Markup.Error
import XslLowering.Markup.Piece
import XslLowering.Markup.Reference
import XslLowering.Markup.Tag
import XslLowering.Pattern.Basic
import XslLowering.Pattern.CaseFolding
import XslLowering.Pattern.Edition
import XslLowering.Pattern.NamedSet
import XslLowering.Pattern.Program
import XslLowering.Pattern.Property
import XslLowering.Pattern.Reader
import XslLowering.Pattern.Replace
import XslLowering.Pattern.Script
import XslLowering.Pattern.Segment
import XslLowering.Pattern.Size
import XslLowering.Proofs.Attempt
import XslLowering.Proofs.Cache.Interleaving
import XslLowering.Proofs.Document.Arena
import XslLowering.Proofs.Document.DeclaredEntities
import XslLowering.Proofs.Document.DocumentOrder
import XslLowering.Proofs.Document.EntityTable
import XslLowering.Proofs.Document.Frame
import XslLowering.Proofs.Document.Legible
import XslLowering.Proofs.Document.RoundTrip
import XslLowering.Proofs.Document.Traversal
import XslLowering.Proofs.Document.WrittenTags
import XslLowering.Proofs.Expression.Faults
import XslLowering.Proofs.Expression.Fusing
import XslLowering.Proofs.Expression.Joining
import XslLowering.Proofs.Expression.Placement
import XslLowering.Proofs.Expression.Rendering
import XslLowering.Proofs.Expression.StreamRuns
import XslLowering.Proofs.Expression.TokenText
import XslLowering.Proofs.Markup.Pieces
import XslLowering.Proofs.Stylesheet.Braces
import XslLowering.Proofs.Stylesheet.CallReplacement
import XslLowering.Proofs.Stylesheet.CallbackCalls
import XslLowering.Proofs.Stylesheet.Declaring
import XslLowering.Proofs.Stylesheet.Forest
import XslLowering.Proofs.Stylesheet.Literals
import XslLowering.Proofs.Stylesheet.Lowering
import XslLowering.Proofs.Stylesheet.NormalizedBlanks
import XslLowering.Proofs.Stylesheet.PointwiseWalk
import XslLowering.Proofs.Stylesheet.QuotedRegions
import XslLowering.Proofs.Stylesheet.RenderedTemplates
import XslLowering.Proofs.Stylesheet.Retokenizing
import XslLowering.Proofs.Stylesheet.SecondWalk
import XslLowering.Proofs.Stylesheet.Settled
import XslLowering.Proofs.Stylesheet.Sites
import XslLowering.Proofs.Stylesheet.TemplateArguments
import XslLowering.Proofs.Stylesheet.TemplateGrammar
import XslLowering.Proofs.Stylesheet.Templates
import XslLowering.Proofs.Stylesheet.UnwrittenCalls
import XslLowering.Proofs.Stylesheet.WrittenCalls
import XslLowering.Proofs.Text.Occurrence
import XslLowering.Proofs.Transpiler.CallbackBinding
import XslLowering.Proofs.Transpiler.Dispatching
import XslLowering.Proofs.Transpiler.EntityGuard
import XslLowering.Proofs.Transpiler.Footprint
import XslLowering.Proofs.Transpiler.Idempotence
import XslLowering.Proofs.Transpiler.NestedScopes
import XslLowering.Proofs.Transpiler.OutputAgreement
import XslLowering.Proofs.Transpiler.SharedCache
import XslLowering.Proofs.Transpiler.UnneededDeclaration
import XslLowering.Settings
import XslLowering.Stylesheet.Basic
import XslLowering.Stylesheet.Compilation
import XslLowering.Stylesheet.Error
import XslLowering.Stylesheet.FunctionMap
import XslLowering.Stylesheet.Pass
import XslLowering.Stylesheet.Strategy
import XslLowering.Stylesheet.ValueTemplate
import XslLowering.Stylesheet.Walk
import XslLowering.Text.Age
import XslLowering.Text.Blank
import XslLowering.Text.Bytes
import XslLowering.Text.CaseMapping
import XslLowering.Text.Category
import XslLowering.Text.CharClass
import XslLowering.Text.CharSet
import XslLowering.Text.Hexadecimal
import XslLowering.Text.Quoted
import XslLowering.Text.Search
import XslLowering.Transpiler.Basic
import XslLowering.Transpiler.Builder
import XslLowering.Transpiler.Error
