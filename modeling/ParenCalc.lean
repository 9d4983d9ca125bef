import ParenCalc.Expr.Equality
import ParenCalc.Expr.Selection
import ParenCalc.Workspace
import ParenCalc.Main
import ParenCalc.Proofs.Token.Scan
import ParenCalc.Proofs.Token.Boundaries
import ParenCalc.Proofs.Reader.Cut
import ParenCalc.Proofs.Reader.Nesting
import ParenCalc.Proofs.Reader.Depth
import ParenCalc.Proofs.Session.WholeFile
import ParenCalc.Proofs.Reader.Grammar
import ParenCalc.Proofs.Reader.Descent
import ParenCalc.Proofs.Decimal.Double
import ParenCalc.Proofs.Decimal.Value
import ParenCalc.Proofs.Number.Layout
import ParenCalc.Proofs.Number.ReadBack
import ParenCalc.Proofs.Printer.ReadBack
import ParenCalc.Proofs.Evaluation.Arithmetic
import ParenCalc.Proofs.Evaluation.Faults
import ParenCalc.Proofs.Evaluation.Order
import ParenCalc.Proofs.Evaluation.Context
import ParenCalc.Proofs.Evaluation.Lookups
import ParenCalc.Proofs.Statement.Tidy
import ParenCalc.Proofs.Statement.Partition
import ParenCalc.Proofs.Report.Lines
import ParenCalc.Proofs.Report.Located
import ParenCalc.Proofs.Handler.Reported
import ParenCalc.Proofs.Handler.Actions
import ParenCalc.Proofs.Session.Queue
import ParenCalc.Proofs.Session.Calls
import ParenCalc.Proofs.Session.Unbound
import ParenCalc.Proofs.Program.File
import ParenCalc.Proofs.Shell.Execution
import ParenCalc.Proofs.Shell.Lines
import ParenCalc.Proofs.Shell.Grouping
import ParenCalc.Proofs.Shell.Invariant
import ParenCalc.Proofs.Shell.Memory
import ParenCalc.Proofs.Session.Flags
import ParenCalc.Proofs.Shell.Answers
import ParenCalc.Proofs.Shell.Unclosed
import ParenCalc.Proofs.Shell.Flags
import ParenCalc.Proofs.Program.Flags
import ParenCalc.Proofs.Decimal.Sums
import ParenCalc.Proofs.Decimal.Spelling
import ParenCalc.Proofs.Evaluation.Nested
import ParenCalc.Proofs.Reader.Atoms
import ParenCalc.Proofs.Report.Marks
import ParenCalc.Proofs.Report.Surplus
import ParenCalc.Proofs.Text.Quoting
import ParenCalc.Proofs.Printer.Tree
import ParenCalc.Proofs.Printer.Indentation
import ParenCalc.Proofs.Expr.Distinct
