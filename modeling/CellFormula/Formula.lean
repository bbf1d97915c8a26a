import CellFormula.Parser.Rules
import CellFormula.Text.Blank
import CellFormula.Token.Scan

namespace CellFormula.Formula

def run (source : Source Token LexicalError) :
    EStateM.Result Failure (Lookahead Token LexicalError) (Option Expr) :=
  Parser.formula (.ofSource source)

def outcome {σ α ε : Type} : EStateM.Result ε σ α → Except ε α
  | .ok a _ => .ok a
  | .error e _ => .error e

def parseTokens (source : Source Token LexicalError) : Except Failure (Option Expr) :=
  outcome (run source)

def parse (text : String) : Except Failure (Option Expr) := parseTokens (Token.scan text)

def ofCell (content : String) : String :=
  match Text.trim content.toList with
  | '=' :: formula => String.ofList formula
  | formula => String.ofList formula

def parseRepeatedly : Nat → Lookahead Token LexicalError → List (Except Failure (Option Expr))
  | 0, _ => []
  | n + 1, b =>
    match Parser.formula b with
    | .ok e b => .ok e :: parseRepeatedly n b
    | .error e b => .error e :: parseRepeatedly n b

end CellFormula.Formula
