import CellFormula.Token.Basic
import CellFormula.Token.Error

namespace CellFormula

inductive Need where
  | rightSide (operator : Token)
  | negation | textJoin | sheet | columns | range
  deriving DecidableEq

def Need.message : Need → String
  | rightSide operator => "missing the right hand side of '" ++ operator.text ++ "'"
  | negation => "nothing to negate after '-'"
  | textJoin => "nothing to join after '&'"
  | sheet => "nothing after '!'"
  | columns => "nothing after '['"
  | range => "no right hand side to ':'"

inductive ParseCause where
  | missing (need : Need) (after : Token)
  | misplaced (need : Need) (token : Token)
  | unclosed (opener : Token)
  | unclosedList (opener : Token)
  | unmatched (closer : Token)
  | strayInList (token opener : Token)
  | leftover (token : Token)
  deriving DecidableEq

namespace ParseCause

def fault : ParseCause → Fault
  | missing .. => .missingOperand
  | misplaced .. | strayInList .. | leftover _ => .unexpectedToken
  | unclosed _ | unclosedList _ | unmatched _ => .unbalancedBracket

def message : ParseCause → String
  | missing need _ => need.message
  | misplaced need token => need.message ++ ", found " ++ token.text
  | unclosed _ => "brackets not closed"
  | unclosedList opener => opener.text ++ " is never closed"
  | unmatched closer => "unmatched " ++ closer.text
  | strayInList token opener => "unexpected " ++ token.text ++ " in list opened by " ++ opener.text
  | leftover _ => "unexpected token after the end of the expression"

def blamed? : ParseCause → Option Token
  | missing .. => none
  | misplaced _ token | strayInList token _ | leftover token => some token
  | unclosed opener | unclosedList opener => some opener
  | unmatched closer => some closer

def span : ParseCause → Int × Int
  | missing _ after => (after.stop, after.stop + 1)
  | misplaced _ token | strayInList token _ | leftover token => (token.start, token.stop)
  | unclosed opener | unclosedList opener => (opener.start, opener.stop)
  | unmatched closer => (closer.start, closer.stop)

def ofStray (token : Token) (otherwise : ParseCause) : ParseCause :=
  if token.symbol?.any Symbol.isClose then unmatched token else otherwise

end ParseCause

inductive Failure where
  | lexical (e : LexicalError)
  | syntactic (cause : ParseCause)
  /-- No expression holds what stands in place of a number. -/
  | nonfinite (value : Decimal.Special)
  /-- The reader reached a state that its own checks exclude. -/
  | defect
  deriving DecidableEq

def Failure.diagnostic? (formula : Option String) : Failure → Option Diagnostic
  | lexical e => some e.diagnostic
  | syntactic cause =>
    some ⟨cause.fault, cause.message, cause.span.1, cause.span.2, formula⟩
  | nonfinite _ | defect => none

def Failure.fieldErrors : Failure → List (String × String)
  | nonfinite _ => [("value", "finite_number")]
  | lexical _ | syntactic _ | defect => []

end CellFormula
