import CalcShell.Command
import CalcShell.CommandLine
import CalcShell.Expression.Basic
import CalcShell.Expression.Evaluate
import CalcShell.Expression.Literal
import CalcShell.Expression.Parens
import CalcShell.Expression.Split
import CalcShell.Fault
import CalcShell.Host.Arithmetic
import CalcShell.Host.Basic
import CalcShell.Host.Convert
import CalcShell.Host.Equality
import CalcShell.Host.Storage
import CalcShell.Host.Text
import CalcShell.Main
import CalcShell.Number.Arithmetic
import CalcShell.Number.Decimal
import CalcShell.Number.DecimalText
import CalcShell.Number.Double
import CalcShell.Number.Numeral
import CalcShell.Number.Power
import CalcShell.Number.Rounding
import CalcShell.Number.Wrap
import CalcShell.Outcome
import CalcShell.Program
import CalcShell.Registry
import CalcShell.Session.Interactive
import CalcShell.Session.Line
import CalcShell.Session.Meta
import CalcShell.Session.Script
import CalcShell.Statement
import CalcShell.Table.Store
import CalcShell.Table.SymbolTable
import CalcShell.Text.Blank
import CalcShell.Text.DecimalDigit
import CalcShell.Text.Lines
import CalcShell.Text.Printable
import CalcShell.Text.Quoted
import CalcShell.Text.Tabs
import CalcShell.Text.Utf8
import CalcShell.Value.Access
import CalcShell.Value.Arithmetic
import CalcShell.Value.Basic
import CalcShell.Proofs.Expression.Depth
import CalcShell.Proofs.Expression.Layers
import CalcShell.Proofs.Expression.Places
import CalcShell.Proofs.Text.Trim
import CalcShell.Proofs.Expression.Naming
import CalcShell.Proofs.Chain.Basic
import CalcShell.Proofs.Expression.Reading
import CalcShell.Proofs.Chain.Tree
import CalcShell.Proofs.Chain.Recognition
import CalcShell.Proofs.Chain.Evaluation
import CalcShell.Proofs.Number.Wrap
import CalcShell.Proofs.Chain.Integral
import CalcShell.Proofs.Chain.LeftToRight
import CalcShell.Proofs.Expression.Padding
import CalcShell.Proofs.Expression.Enclosed
import CalcShell.Proofs.Expression.Frame
import CalcShell.Proofs.Expression.Overlong
import CalcShell.Proofs.Expression.Pieces
import CalcShell.Proofs.Expression.ReadAs
import CalcShell.Proofs.Expression.ResultTag
import CalcShell.Proofs.Expression.Mantissa
import CalcShell.Proofs.Expression.IntegerText
import CalcShell.Proofs.Expression.Results
import CalcShell.Proofs.Expression.Substitution
import CalcShell.Proofs.Registry.Names
import CalcShell.Proofs.Value.Content
import CalcShell.Proofs.Value.Written
import CalcShell.Proofs.Command.Execute
import CalcShell.Proofs.Command.Reports
import CalcShell.Proofs.Session.Invariant
import CalcShell.Proofs.Expression.LiteralOperand
import CalcShell.Proofs.Session.Runs
import CalcShell.Proofs.Expression.Grammar
import CalcShell.Proofs.Expression.Acceptance
import CalcShell.Proofs.Number.Rounding
import CalcShell.Proofs.Value.Numeric
import CalcShell.Proofs.Value.Faults
import CalcShell.Proofs.Expression.Imbalance
import CalcShell.Proofs.Expression.Literal
import CalcShell.Proofs.Command.PrintedInteger
import CalcShell.Proofs.Expression.InternalErrors
import CalcShell.Proofs.Expression.Nesting
import CalcShell.Proofs.Expression.Calls
import CalcShell.Proofs.Expression.Halves
import CalcShell.Proofs.History.LastEffect
import CalcShell.Proofs.Value.WellFormed
import CalcShell.Proofs.Session.Traceless
import CalcShell.Table.Clients
import CalcShell.Proofs.Table.Linearization
import CalcShell.Proofs.Expression.Lookups
import CalcShell.Proofs.Expression.ErrorValues
import CalcShell.Proofs.Session.Conversation
import CalcShell.Proofs.Session.Recognition
import CalcShell.Proofs.Value.Modular
import CalcShell.Proofs.Value.Narrowing
import CalcShell.Proofs.Value.Obstacles
import CalcShell.Proofs.Command.Agreement
import CalcShell.Proofs.Table.Refusals
import CalcShell.Proofs.Table.History
import CalcShell.Proofs.Registry.History
import CalcShell.Proofs.Expression.OuterPairs
import CalcShell.Proofs.Expression.Matching
import CalcShell.Proofs.Number.ShortestSingle
import CalcShell.Proofs.Value.Equality
import CalcShell.Proofs.Number.SignedResidue
