import CellFormula.Decimal.Numeral
import CellFormula.ErrorCode
import CellFormula.Symbol

namespace CellFormula

inductive Lexeme where
  | literal (text : String)
  | string (text : String)
  | error (code : ErrorCode)
  | number (value : Decimal)
  /-- In place of a number. No text is scanned to one. -/
  | special (value : Decimal.Special)
  | symbol (s : Symbol)
  deriving DecidableEq

namespace Lexeme

def text : Lexeme → String
  | literal text => text
  | string text => text
  | error code => code.text
  | number value => value.text
  | special value => value.text
  | symbol s => s.text

def symbol? : Lexeme → Option Symbol
  | symbol s => some s
  | _ => none

def isNumber : Lexeme → Bool
  | number _ | special _ => true
  | _ => false

end Lexeme

structure Token where
  lexeme : Lexeme
  start : Int
  stop : Int
  deriving DecidableEq

namespace Token

def text (t : Token) : String := t.lexeme.text

def symbol? (t : Token) : Option Symbol := t.lexeme.symbol?

def isSymbol (t : Token) (s : Symbol) : Bool := t.symbol? == some s

def isNumber (t : Token) : Bool := t.lexeme.isNumber

end Token

end CellFormula
