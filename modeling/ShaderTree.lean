import ShaderTree.Binary32.Basic
import ShaderTree.Binary32.Decimal
import ShaderTree.Binary32.Literal
import ShaderTree.Cache
import ShaderTree.Command.Arguments
import ShaderTree.Command.Directory
import ShaderTree.Command.Run
import ShaderTree.Glsl.Draft
import ShaderTree.Glsl.Fault
import ShaderTree.Glsl.Generator
import ShaderTree.Glsl.Options
import ShaderTree.Glsl.Typing
import ShaderTree.Interface
import ShaderTree.Log
import ShaderTree.Log.Filter
import ShaderTree.Main
import ShaderTree.Operand
import ShaderTree.OrderedSet
import ShaderTree.Program
import ShaderTree.References
import ShaderTree.Scope
import ShaderTree.Stage
import ShaderTree.Statement
import ShaderTree.Stock
import ShaderTree.Text.Blank
import ShaderTree.Text.CharClass
import ShaderTree.Text.Invisible
import ShaderTree.Text.Pattern.Basic
import ShaderTree.Text.Pattern.Bracket
import ShaderTree.Text.Pattern.Complaint
import ShaderTree.Text.Pattern.Cursor
import ShaderTree.Text.Pattern.Escape
import ShaderTree.Text.Pattern.Meaning
import ShaderTree.Text.Pattern.Reader
import ShaderTree.Text.Pattern.Term
import ShaderTree.Text.Quoted
import ShaderTree.Text.Terminal
import ShaderTree.Ty
import ShaderTree.Variable
import ShaderTree.VertexLayout
import ShaderTree.Visit
import ShaderTree.Proofs.References
import ShaderTree.Proofs.Draft
import ShaderTree.Proofs.Generation
import ShaderTree.Proofs.Collection
import ShaderTree.Proofs.LiteralText
import ShaderTree.Proofs.Lexing
import ShaderTree.Proofs.OperandReader
import ShaderTree.Proofs.StatementReader
import ShaderTree.Proofs.DeclarationReader
import ShaderTree.Proofs.Construction
import ShaderTree.Proofs.Readability
import ShaderTree.Proofs.CacheHistory
import ShaderTree.Proofs.ElseOwnership
import ShaderTree.Proofs.ProgramIdentity
import ShaderTree.Proofs.ContextLoss
import ShaderTree.Proofs.ViewSource
import ShaderTree.Proofs.StageIndependence
import ShaderTree.Proofs.SourceLines
import ShaderTree.Proofs.Interface
import ShaderTree.Proofs.LiteralReading
import ShaderTree.Proofs.DistinctNames
import ShaderTree.Proofs.Checks
import ShaderTree.Proofs.ValueTyping
import ShaderTree.Proofs.EqualSources
import ShaderTree.Proofs.MaskComposition
import ShaderTree.Proofs.ScopeRecords
import ShaderTree.Proofs.VertexTiling
import ShaderTree.Proofs.Interruption
import ShaderTree.Proofs.Accumulation
import ShaderTree.Proofs.RequestOrder
import ShaderTree.Proofs.OperatorSpacing
import ShaderTree.Proofs.MaskGrammar
import ShaderTree.Proofs.TypeAgreement
