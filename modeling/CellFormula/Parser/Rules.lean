import CellFormula.Parser.Basic

/-!
The rules of the grammar. An operand is read first; then everything that follows and can join it
is joined to it. Operators of one precedence make one flat chain, and an operator that binds more
tightly takes the operand on its left into a chain of its own.

Every rule takes a bound on the depth of its calls. `Parser.expression` computes one from the
number of tokens, so that no stream exhausts it.
-/

namespace CellFormula

namespace Token

def chainStep? (precedence : Nat) (t : Token) : Option Step :=
  t.symbol?.bind fun s => if s.precedence = precedence then Step.ofSymbol? s else none

def bindsTighter (precedence : Nat) (t : Token) : Bool :=
  t.symbol?.any fun s => s.joins && precedence < s.precedence

def joinsAtOnce (t : Token) : Bool := t.symbol?.any Symbol.joinsAtOnce

end Token

/-- The left side of a join whose right side is all that follows. -/
inductive Pending where
  | textJoin (left : Expr) (ampersand : Token)
  | intersection (left : Expr)

namespace Pending

def close (right : Expr) : Pending → Expr
  | textJoin left _ => .textJoin left right
  | intersection left => .intersection left right

def closeAll (pending : List Pending) (right : Expr) : Expr := pending.foldl close right

end Pending

/-- What stands before the next token of a list. A comma without an expression before it leaves an
empty one, and so does a bracket that closes the list behind a comma. -/
inductive Slot where
  | opening | vacant | filled
  deriving DecidableEq

namespace Slot

def beforeComma (rest : List Expr) : Slot → List Expr
  | filled => rest
  | opening | vacant => .empty :: rest

def beforeClose : Slot → List Expr
  | vacant => [.empty]
  | opening | filled => []

end Slot

def truthValue? (name : String) : Option Bool :=
  if name = "TRUE" then some true else if name = "FALSE" then some false else none

def Expr.ofName (name : String) : Expr := (truthValue? name).elim (.cell name) .boolean

def Expr.ofColumns : List Expr → Expr
  | [] => .structured .empty
  | [e] => .structured e
  | es => .structured (.union es)

namespace Parser

mutual

/-- Reads an expression up to a token that cannot extend it, and joins `pending` to it. The left
sides of text joins and of intersections wait, so that their right sides are joined first. -/
def compound : Nat → List Pending → Parser (Option Expr)
  | 0, _ => throw .defect
  | n + 1, pending => do
    match ← operand n with
    | none =>
      match pending with
      | [] => return none
      | .textJoin _ ampersand :: _ => some <$> expect .textJoin ampersand none
      | .intersection left :: pending => return some (Pending.closeAll pending left)
    | some e =>
      let e ← immediateJoins n e
      match ← peek with
      | none => return some (Pending.closeAll pending e)
      | some t =>
        if t.isSymbol .ampersand then do
          skip
          compound n (.textJoin e t :: pending)
        else compound n (.intersection e :: pending)

def operand : Nat → Parser (Option Expr)
  | 0 => throw .defect
  | n + 1 => do
    match ← value n with
    | some e => return some e
    | none =>
      match ← peek with
      | none => return none
      | some t =>
        if t.isSymbol .subtract then do
          skip
          let e ← expect .negation t (← operand n)
          return some (.chain [(.subtract, e)])
        else return none

def value : Nat → Parser (Option Expr)
  | 0 => throw .defect
  | n + 1 => do
    match ← peek with
    | none => return none
    | some t =>
      match t.lexeme with
      | .literal name => do
        skip
        some <$> named n name
      | .string text => do
        skip
        return some (.string text)
      | .error code => do
        skip
        return some (.error code)
      | .number d => do
        skip
        return some (.number d)
      | .special s => do
        skip
        refuseSpecial s
      | .symbol .subtract => do
        match (← peekSecond).map Token.lexeme with
        | some (.number d) => do
          skip
          skip
          return some (.number d.negate)
        | some (.special s) => do
          skip
          skip
          refuseSpecial s.negate
        | _ => return none
      | .symbol .openBracket => do
        skip
        let inner ← compound n []
        match ← next with
        | none => refuse (.unclosed t)
        | some close =>
          if close.isSymbol .closeBracket then return some (.bracketed (inner.getD .empty))
          else refuse (.unclosed t)
      | .symbol .openSquare => do
        skip
        return some (.ofColumns (← items n .closeSquare t .opening))
      | .symbol _ => return none

def named : Nat → String → Parser Expr
  | 0, _ => throw .defect
  | n + 1, name => do
    match ← peek with
    | none => return .ofName name
    | some t =>
      match t.symbol?, truthValue? name with
      | some .openBracket, _ => do
        skip
        return .call name (← items n .closeBracket t .opening)
      | _, some truth => return .boolean truth
      | some .bang, none => do
        skip
        return .sheet (.cell name) (← expect .sheet t (← value n))
      | some .openSquare, none => return .table name (← expect .columns t (← value n))
      | _, none => return .cell name

def items : Nat → Symbol → Token → Slot → Parser (List Expr)
  | 0, _, _, _ => throw .defect
  | n + 1, closer, opener, slot => do
    match ← peek with
    | none => refuse (.unclosedList opener)
    | some t =>
      if t.isSymbol .comma then do
        skip
        return slot.beforeComma (← items n closer opener .vacant)
      else if t.isSymbol closer then do
        skip
        return slot.beforeClose
      else
        match ← compound n [] with
        | none => refuse (.ofStray t (.strayInList t opener))
        | some e => return e :: (← items n closer opener .filled)

def immediateJoins : Nat → Expr → Parser Expr
  | 0, _ => throw .defect
  | n + 1, e => do
    match ← peek with
    | none => return e
    | some t => if t.joinsAtOnce then immediateJoins n (← join n t e) else return e

def tighterJoins : Nat → Nat → Expr → Parser Expr
  | 0, _, _ => throw .defect
  | n + 1, precedence, e => do
    match ← peek with
    | none => return e
    | some t =>
      if t.bindsTighter precedence then tighterJoins n precedence (← join n t e) else return e

def join : Nat → Token → Expr → Parser Expr
  | 0, _, _ => throw .defect
  | n + 1, t, left =>
    match t.symbol? with
    | some .colon => do
      skip
      return .range left (← expect .range t (← value n))
    | some .percent => do
      skip
      return .chain [(.percent, left)]
    | some .ampersand => do
      skip
      return .textJoin left (← expect .textJoin t (← compound n []))
    | some s =>
      match Step.ofSymbol? s, Comparator.ofSymbol? s with
      | some step, _ => do
        skip
        return .chain ((.start, left) :: (← chainSteps n s.precedence step t))
      | none, some op => do
        skip
        let right ← expect (.rightSide t) t (← operand n)
        return .comparison op left (← tighterJoins n s.precedence right)
      | none, none => throw .defect
    | none => throw .defect

def chainSteps : Nat → Nat → Step → Token → Parser (List (Step × Expr))
  | 0, _, _, _ => throw .defect
  | n + 1, precedence, step, t => do
    let right ← expect (.rightSide t) t (← operand n)
    let right ← tighterJoins n precedence right
    match ← peek with
    | none => return [(step, right)]
    | some t =>
      match t.chainStep? precedence with
      | none => return [(step, right)]
      | some next => do
        skip
        return (step, right) :: (← chainSteps n precedence next t)

end

def depth (unread : Nat) : Nat := 4 * (unread + 1)

def expression : Parser (Option Expr) := fun b => compound (depth b.unread) [] b

def formula : Parser (Option Expr) := do
  match ← peek with
  | none => return none
  | some _ =>
    let e ← expression
    match ← peek with
    | none => return e
    | some t => refuse (.ofStray t (.leftover t))

end Parser

end CellFormula
