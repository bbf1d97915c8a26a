namespace CellFormula

inductive Symbol where
  | add | subtract | multiply | divide | power
  | openBracket | closeBracket | openSquare | closeSquare
  | ampersand | comma | bang | colon | percent
  | equal | notEqual | less | greater | lessOrEqual | greaterOrEqual
  deriving DecidableEq

namespace Symbol

def all : List Symbol :=
  [add, subtract, multiply, divide, power, openBracket, closeBracket, openSquare, closeSquare,
    ampersand, comma, bang, colon, percent, equal, notEqual, less, greater, lessOrEqual,
    greaterOrEqual]

def chars : Symbol → List Char
  | add => ['+']
  | subtract => ['-']
  | multiply => ['*']
  | divide => ['/']
  | power => ['^']
  | openBracket => ['(']
  | closeBracket => [')']
  | openSquare => ['[']
  | closeSquare => [']']
  | ampersand => ['&']
  | comma => [',']
  | bang => ['!']
  | colon => [':']
  | percent => ['%']
  | equal => ['=']
  | notEqual => ['<', '>']
  | less => ['<']
  | greater => ['>']
  | lessOrEqual => ['<', '=']
  | greaterOrEqual => ['>', '=']

def text (s : Symbol) : String := String.ofList s.chars

def ofChars? (cs : List Char) : Option Symbol := all.find? (·.chars == cs)

def isMaths : Symbol → Bool
  | add | subtract | multiply | divide | power => true
  | _ => false

def isComparison : Symbol → Bool
  | equal | notEqual | less | greater | lessOrEqual | greaterOrEqual => true
  | _ => false

def isClose : Symbol → Bool
  | closeBracket | closeSquare => true
  | _ => false

def isBracket : Symbol → Bool
  | openBracket | closeBracket | openSquare | closeSquare => true
  | _ => false

def precedence : Symbol → Nat
  | bang => 2000
  | openBracket | closeBracket | openSquare | closeSquare => 1000
  | comma => 500
  | colon => 400
  | percent => 100
  | power => 30
  | multiply | divide => 20
  | add | subtract => 10
  | ampersand => 1
  | equal | notEqual | less | greater | lessOrEqual | greaterOrEqual => 0

def joinsAtOnce (s : Symbol) : Bool := s.isMaths || s.isComparison || s == colon || s == percent

def joins (s : Symbol) : Bool := s.joinsAtOnce || s == ampersand

theorem ofChars?_chars (s : Symbol) : ofChars? s.chars = some s := by cases s <;> decide

theorem chars_of_ofChars? {cs : List Char} {s : Symbol} (h : ofChars? cs = some s) :
    s.chars = cs := by
  simpa using List.find?_some h

end Symbol

end CellFormula
