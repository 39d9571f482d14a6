import NullContract.Check.Checked
import NullContract.Check.Diagnostic
import NullContract.Check.Oracle
import NullContract.CommandLine.Options
import NullContract.CommandLine.Run
import NullContract.Contract.Clause
import NullContract.Contract.Constraint
import NullContract.Contract.Validation
import NullContract.Decimal.Double
import NullContract.Decimal.Magnitude
import NullContract.Decimal.Reading
import NullContract.Decimal.Shortest
import NullContract.Discovery
import NullContract.Env
import NullContract.FileCheck
import NullContract.FileTree
import NullContract.Flow.Exec
import NullContract.Flow.Meaning
import NullContract.Flow.Outcome
import NullContract.Guard.NullCheck
import NullContract.Guard.Site
import NullContract.Json.Basic
import NullContract.Json.Display
import NullContract.Json.Printer
import NullContract.Json.Reader
import NullContract.Loaded.Call
import NullContract.Loaded.Evaluation
import NullContract.Loaded.Function
import NullContract.Loaded.Importing
import NullContract.Loaded.Operator
import NullContract.Loaded.Placement.Expression
import NullContract.Loaded.Placement.Names
import NullContract.Loaded.Placement.Pattern
import NullContract.Loaded.Placement.Statement
import NullContract.Loaded.Running
import NullContract.Loaded.Session
import NullContract.Loaded.Value
import NullContract.Main
import NullContract.Nullness
import NullContract.Proofs.Addresses
import NullContract.Proofs.BranchSwap
import NullContract.Proofs.CheckReturns
import NullContract.Proofs.ClauseLanguage
import NullContract.Proofs.ClauseReading
import NullContract.Proofs.DeepChecking
import NullContract.Proofs.Entry
import NullContract.Proofs.ExprSoundness
import NullContract.Proofs.FlowInvariant
import NullContract.Proofs.GuardAgreement
import NullContract.Proofs.HintReading
import NullContract.Proofs.Invariant
import NullContract.Proofs.LiteralSize
import NullContract.Proofs.LoopHead
import NullContract.Proofs.Meanings
import NullContract.Proofs.MonotoneFlow
import NullContract.Proofs.MonotoneMeaning
import NullContract.Proofs.Names
import NullContract.Proofs.Nested
import NullContract.Proofs.NoneSource
import NullContract.Proofs.OutcomeOrder
import NullContract.Proofs.PathParts
import NullContract.Proofs.QuotedTexts
import NullContract.Proofs.Rearrangement
import NullContract.Proofs.ReportPlaces
import NullContract.Proofs.ReportTotals
import NullContract.Proofs.ReturnOwners
import NullContract.Proofs.ReturnSites
import NullContract.Proofs.Rounds
import NullContract.Proofs.RunStatus
import NullContract.Proofs.RunSteps
import NullContract.Proofs.Semantics
import NullContract.Proofs.Soundness
import NullContract.Proofs.SourceChecks
import NullContract.Proofs.StateOrder
import NullContract.Proofs.SyntaxInduction
import NullContract.Proofs.TextParts
import NullContract.Proofs.TreeGrowth
import NullContract.Proofs.ValidationAgreement
import NullContract.Proofs.Verdicts
import NullContract.Proofs.Visits
import NullContract.Proofs.Weakening
import NullContract.Report.Basic
import NullContract.Report.Digest
import NullContract.Service.Client
import NullContract.Service.Path
import NullContract.Service.Request
import NullContract.Service.Response
import NullContract.Settings
import NullContract.Source.Escape
import NullContract.Source.Formatted
import NullContract.Source.Grammar.Expression
import NullContract.Source.Grammar.Pattern
import NullContract.Source.Grammar.Rules
import NullContract.Source.Grammar.Statement
import NullContract.Source.Lines
import NullContract.Source.Number
import NullContract.Source.Parse
import NullContract.Source.Reading
import NullContract.Source.Token
import NullContract.Summary
import NullContract.Syntax.Expr
import NullContract.Syntax.Hint
import NullContract.Syntax.Names
import NullContract.Syntax.Pattern
import NullContract.Syntax.Signature
import NullContract.Syntax.Stmt
import NullContract.Text.Blank
import NullContract.Text.CharName
import NullContract.Text.CharName.Abugidas
import NullContract.Text.CharName.Aliases
import NullContract.Text.CharName.Alphabets
import NullContract.Text.CharName.AncientScripts
import NullContract.Text.CharName.BrahmicScripts
import NullContract.Text.CharName.Cuneiform
import NullContract.Text.CharName.EastAsian
import NullContract.Text.CharName.Hieroglyphs
import NullContract.Text.CharName.Mathematics
import NullContract.Text.CharName.Pictographs
import NullContract.Text.CharName.SiblingScripts
import NullContract.Text.CharName.Signs
import NullContract.Text.CodePoint
import NullContract.Text.Dedent
import NullContract.Text.Digit
import NullContract.Text.Identifier
import NullContract.Text.Normal.Combining
import NullContract.Text.Normal.Composition
import NullContract.Text.Normal.Decomposition
import NullContract.Text.Normal.Form
import NullContract.Text.Normal.Table
import NullContract.Text.Printable
import NullContract.Text.Quoted
import NullContract.Text.Ranges
import NullContract.Text.Split
import NullContract.Proofs.LoopRounds
import NullContract.Proofs.FrameFlow
import NullContract.Proofs.LeastHead
import NullContract.Proofs.TestReading
import NullContract.Proofs.HandlerEntry
import NullContract.Proofs.FinalEntry
import NullContract.Proofs.AssignmentEffects
import NullContract.Proofs.MatchCaptures
import NullContract.Proofs.ClauseSplitting
import NullContract.Proofs.ArityMismatch
import NullContract.Proofs.DiscoveryNesting
import NullContract.Proofs.ParameterPositions
import NullContract.Proofs.BooleanLaws
import NullContract.Proofs.PossibleValues
import NullContract.Proofs.HintQuoting
import NullContract.Proofs.StateJoins
