import CellFormula.Decimal.Basic
import CellFormula.ErrorCode
import CellFormula.Symbol

namespace CellFormula

inductive Step where
  | start | add | subtract | multiply | divide | power | percent
  deriving DecidableEq

namespace Step

def all : List Step := [start, add, subtract, multiply, divide, power, percent]

def name : Step → String
  | start => "start"
  | add => "add"
  | subtract => "subtract"
  | multiply => "multiply"
  | divide => "divide"
  | power => "power"
  | percent => "percent"

def ofName? (name : String) : Option Step := all.find? (·.name == name)

def ofSymbol? : Symbol → Option Step
  | .add => some add
  | .subtract => some subtract
  | .multiply => some multiply
  | .divide => some divide
  | .power => some power
  | _ => none

theorem isSome_ofSymbol? (s : Symbol) : (ofSymbol? s).isSome = s.isMaths := by
  cases s <;> rfl

end Step

inductive Comparator where
  | equal | notEqual | less | greater | lessOrEqual | greaterOrEqual
  deriving DecidableEq

namespace Comparator

def all : List Comparator := [equal, notEqual, less, greater, lessOrEqual, greaterOrEqual]

def symbol : Comparator → Symbol
  | equal => .equal
  | notEqual => .notEqual
  | less => .less
  | greater => .greater
  | lessOrEqual => .lessOrEqual
  | greaterOrEqual => .greaterOrEqual

def text (c : Comparator) : String := c.symbol.text

def ofText? (text : String) : Option Comparator := all.find? (·.text == text)

def ofSymbol? (s : Symbol) : Option Comparator := all.find? (·.symbol == s)

theorem isSome_ofSymbol? (s : Symbol) : (ofSymbol? s).isSome = s.isComparison := by
  cases s <;> rfl

theorem ofSymbol?_eq_some_iff {s : Symbol} {c : Comparator} :
    ofSymbol? s = some c ↔ c.symbol = s := by
  cases s <;> cases c <;> decide

end Comparator

inductive Expr where
  | empty
  | string (value : String)
  | error (code : ErrorCode)
  | number (value : Decimal)
  | boolean (value : Bool)
  | cell (name : String)
  | bracketed (inner : Expr)
  | call (name : String) (arguments : List Expr)
  | comparison (op : Comparator) (left right : Expr)
  | chain (operations : List (Step × Expr))
  | intersection (left right : Expr)
  | union (elements : List Expr)
  | textJoin (left right : Expr)
  | range (left right : Expr)
  | sheet (name ref : Expr)
  | structured (inner : Expr)
  | table (name : String) (columns : Expr)

namespace Expr

def children : Expr → List Expr
  | empty | string _ | error _ | number _ | boolean _ | cell _ => []
  | bracketed inner | structured inner => [inner]
  | call _ arguments => arguments
  | chain operations => operations.map Prod.snd
  | union elements => elements
  | comparison _ left right | intersection left right | textJoin left right | range left right =>
    [left, right]
  | sheet name ref => [name, ref]
  | table _ columns => [columns]

/-- The children that can hold references to cells: the name of a sheet only qualifies, and so do
the columns of a table. -/
def referenceChildren : Expr → List Expr
  | sheet _ ref => [ref]
  | structured _ => []
  | e => e.children

def cellName? : Expr → Option String
  | cell name => some name
  | _ => none

end Expr

end CellFormula
