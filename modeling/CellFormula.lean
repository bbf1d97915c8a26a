import CellFormula.Expr.Same
import CellFormula.Expr.Walk
import CellFormula.Parser.Progress
import CellFormula.Report
import CellFormula.Settings.Session
import CellFormula.Proofs.Parser.Derivation
import CellFormula.Proofs.Grammar.Written
import CellFormula.Proofs.Parser.Refusal
import CellFormula.Proofs.Parser.Soundness
import CellFormula.Proofs.Parser.Outcome
import CellFormula.Proofs.Grammar.Shape
import CellFormula.Proofs.Grammar.Precedence
import CellFormula.Proofs.Grammar.ReadBack
import CellFormula.Proofs.Parser.Blame
import CellFormula.Proofs.Parser.Diagnosis
import CellFormula.Proofs.Token.Partition
import CellFormula.Proofs.Token.Quotes
import CellFormula.Proofs.Token.Columns
import CellFormula.Proofs.Expr.Traversal
import CellFormula.Proofs.Grammar.References
import CellFormula.Proofs.Lookahead.Cursor
import CellFormula.Proofs.Parser.Recursion
import CellFormula.Proofs.Parser.Fixpoint
import CellFormula.Proofs.Parser.Whole
import CellFormula.Proofs.Grammar.Squares
import CellFormula.Proofs.Token.Locality
import CellFormula.Proofs.Token.Seams
import CellFormula.Proofs.Parser.Spacing
import CellFormula.Proofs.Grammar.Contexts
import CellFormula.Proofs.Parser.Demand
import CellFormula.Proofs.Parser.Granted
import CellFormula.Proofs.Parser.Kinds
import CellFormula.Proofs.Grammar.RightSides
import CellFormula.Proofs.Grammar.TextJoins
import CellFormula.Proofs.Grammar.Viable
import CellFormula.Proofs.Grammar.Brackets
import CellFormula.Proofs.Grammar.Margins
import CellFormula.Proofs.Grammar.Minus
import CellFormula.Proofs.Grammar.SheetNames
import CellFormula.Proofs.Grammar.Ranges
import CellFormula.Proofs.Decimal.Numerals
import CellFormula.Proofs.Token.Numbers
import CellFormula.Proofs.Token.Forms
import CellFormula.Proofs.Token.NumberText
import CellFormula.Proofs.Parser.Rereading
import CellFormula.Proofs.Expr.Places
import CellFormula.Proofs.Decimal.Value
import CellFormula.Proofs.Expr.Equality
import CellFormula.Proofs.Parser.Marks
import CellFormula.Proofs.Parser.Tracing
import CellFormula.Proofs.Settings.History
import CellFormula.Proofs.Settings.Winners
import CellFormula.Proofs.Parser.Advance
