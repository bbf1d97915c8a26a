namespace CellFormula

inductive ErrorCode where
  | reference | name | value | division | notAvailable | number
  deriving DecidableEq

namespace ErrorCode

def all : List ErrorCode := [reference, name, value, division, notAvailable, number]

def text : ErrorCode → String
  | reference => "#REF!"
  | name => "#NAME?"
  | value => "#VALUE!"
  | division => "#DIV/0!"
  | notAvailable => "#N/A"
  | number => "#NUM!"

def chars (code : ErrorCode) : List Char := code.text.toList

def ofText? (text : String) : Option ErrorCode := all.find? (·.text == text)

def leading? (cs : List Char) : Option ErrorCode := all.find? (·.chars.isPrefixOf cs)

def isCodeChar (c : Char) : Bool := all.any (·.chars.contains c)

theorem length_chars_pos (code : ErrorCode) : 0 < code.chars.length := by
  cases code <;> decide

theorem mem_all (code : ErrorCode) : code ∈ all := by cases code <;> decide

end ErrorCode

end CellFormula
