import CellFormula.Diagnostic
import CellFormula.Text.Quoted

namespace CellFormula

inductive LexicalCause where
  | stray (c : Char)
  | strayInSquare (c : Char)
  | badNumeral (written : String)
  | badErrorCode (written : String)
  | unclosedQuote (mark : Char)
  | loneEscape
  | unclosedColumn
  deriving DecidableEq

namespace LexicalCause

def fault : LexicalCause → Fault
  | stray _ | strayInSquare _ | badErrorCode _ => .unrecognizedCharacter
  | badNumeral _ => .invalidNumber
  | unclosedQuote _ | loneEscape | unclosedColumn => .unterminatedLiteral

def message : LexicalCause → String
  | stray c =>
    "could not identify first character of the token: " ++ Text.quoted (String.singleton c)
  | strayInSquare c =>
    "could not identify first character of the structured reference token: " ++
      Text.quoted (String.singleton c)
  | badNumeral written => "could not convert " ++ Text.quoted written ++ " into a number"
  | badErrorCode written => "could not convert " ++ Text.quoted written ++ " into an error code"
  | unclosedQuote mark => "literal opened with " ++ String.singleton mark ++ " is never closed"
  | loneEscape => "escape character at end of structured reference"
  | unclosedColumn => "structured reference column is never closed"

end LexicalCause

structure LexicalError where
  cause : LexicalCause
  start : Int
  stop : Int
  formula : String
  deriving DecidableEq

def LexicalError.diagnostic (e : LexicalError) : Diagnostic :=
  ⟨e.cause.fault, e.cause.message, e.start, e.stop, some e.formula⟩

end CellFormula
