import CellFormula.Expr.Basic
import CellFormula.Lookahead
import CellFormula.Parser.Error

namespace CellFormula

abbrev Parser (α : Type) := EStateM Failure (Lookahead Token LexicalError) α

namespace Parser

variable {α : Type}

def lift (action : Reading Token LexicalError α) : Parser α := fun b =>
  match action b with
  | .ok a b => .ok a b
  | .error e b => .error (.lexical e) b

def peek : Parser (Option Token) := lift Lookahead.peek

def peekSecond : Parser (Option Token) := lift Lookahead.peekSecond

def next : Parser (Option Token) := lift Lookahead.next

def skip : Parser Unit := discard next

def refuse (cause : ParseCause) : Parser α := throw (.syntactic cause)

def refuseSpecial (s : Decimal.Special) : Parser α := throw (.nonfinite s)

theorem refuse_apply (cause : ParseCause) (b : Lookahead Token LexicalError) :
    (refuse cause : Parser α) b = .error (.syntactic cause) b := rfl

theorem refuseSpecial_apply (s : Decimal.Special) (b : Lookahead Token LexicalError) :
    (refuseSpecial s : Parser α) b = .error (.nonfinite s) b := rfl

def expect (need : Need) (after : Token) : Option Expr → Parser Expr
  | some e => pure e
  | none => do
    match ← peek with
    | none => refuse (.missing need after)
    | some token => refuse (.misplaced need token)

end Parser

end CellFormula
