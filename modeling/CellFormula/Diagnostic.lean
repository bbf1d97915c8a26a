namespace CellFormula

inductive Stage where
  | lexical | syntactic
  deriving DecidableEq

inductive Fault where
  | unrecognizedCharacter | invalidNumber | unterminatedLiteral
  | unbalancedBracket | missingOperand | unexpectedToken
  deriving DecidableEq

namespace Fault

def all : List Fault :=
  [unrecognizedCharacter, invalidNumber, unterminatedLiteral, unbalancedBracket, missingOperand,
    unexpectedToken]

def stage : Fault → Stage
  | unrecognizedCharacter | invalidNumber | unterminatedLiteral => .lexical
  | unbalancedBracket | missingOperand | unexpectedToken => .syntactic

def name : Fault → String
  | unrecognizedCharacter => "unrecognized_character"
  | invalidNumber => "invalid_number"
  | unterminatedLiteral => "unterminated_literal"
  | unbalancedBracket => "unbalanced_bracket"
  | missingOperand => "missing_operand"
  | unexpectedToken => "unexpected_token"

def ofName? (name : String) : Option Fault := all.find? (·.name == name)

end Fault

structure Diagnostic where
  fault : Fault
  message : String
  start : Int
  stop : Int
  formula : Option String
  deriving DecidableEq

namespace Diagnostic

def text (d : Diagnostic) : String := d.message ++ " (at offset " ++ toString d.start ++ ")"

end Diagnostic

end CellFormula
