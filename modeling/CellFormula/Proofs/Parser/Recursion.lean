import CellFormula.Proofs.Parser.Derivation

/-! The rules without left sides that wait: behind an operand with its joins stands the expression
that is the right side of a text join or of an intersection. One step of the rules is one step of
this recursion. -/

namespace CellFormula.Parser

variable {β : Type}

@[reducible]
def Call.Result : Call → Type
  | .compound | .operand | .value => Option Expr
  | .items .. => List Expr
  | .chainSteps .. => List (Step × Expr)
  | .named .. | .immediateJoins .. | .tighterJoins .. | .join .. => Expr

def Rules := (c : Call) → Parser c.Result

def Rules.step (r : Rules) : Rules
  | .compound => do
    match ← r .operand with
    | none => return none
    | some e =>
      let e ← r (.immediateJoins e)
      match ← peek with
      | none => return some e
      | some t =>
        if t.isSymbol .ampersand then do
          skip
          return some (.textJoin e (← expect .textJoin t (← r .compound)))
        else
          match ← r .compound with
          | none => return some e
          | some right => return some (.intersection e right)
  | .operand => do
    match ← r .value with
    | some e => return some e
    | none =>
      match ← peek with
      | none => return none
      | some t =>
        if t.isSymbol .subtract then do
          skip
          let e ← expect .negation t (← r .operand)
          return some (.chain [(.subtract, e)])
        else return none
  | .value => do
    match ← peek with
    | none => return none
    | some t =>
      match t.lexeme with
      | .literal name => do
        skip
        some <$> r (.named name)
      | .string text => do
        skip
        return some (.string text)
      | .error code => do
        skip
        return some (.error code)
      | .number d => do
        skip
        return some (.number d)
      | .special s => do
        skip
        refuseSpecial s
      | .symbol .subtract => do
        match (← peekSecond).map Token.lexeme with
        | some (.number d) => do
          skip
          skip
          return some (.number d.negate)
        | some (.special s) => do
          skip
          skip
          refuseSpecial s.negate
        | _ => return none
      | .symbol .openBracket => do
        skip
        let inner ← r .compound
        match ← next with
        | none => refuse (.unclosed t)
        | some close =>
          if close.isSymbol .closeBracket then return some (.bracketed (inner.getD .empty))
          else refuse (.unclosed t)
      | .symbol .openSquare => do
        skip
        return some (.ofColumns (← r (.items .closeSquare t .opening)))
      | .symbol _ => return none
  | .named name => do
    match ← peek with
    | none => return .ofName name
    | some t =>
      match t.symbol?, truthValue? name with
      | some .openBracket, _ => do
        skip
        return .call name (← r (.items .closeBracket t .opening))
      | _, some truth => return .boolean truth
      | some .bang, none => do
        skip
        return .sheet (.cell name) (← expect .sheet t (← r .value))
      | some .openSquare, none => return .table name (← expect .columns t (← r .value))
      | _, none => return .cell name
  | .items closer opener slot => do
    match ← peek with
    | none => refuse (.unclosedList opener)
    | some t =>
      if t.isSymbol .comma then do
        skip
        return slot.beforeComma (← r (.items closer opener .vacant))
      else if t.isSymbol closer then do
        skip
        return slot.beforeClose
      else
        match ← r .compound with
        | none => refuse (.ofStray t (.strayInList t opener))
        | some e => return e :: (← r (.items closer opener .filled))
  | .immediateJoins e => do
    match ← peek with
    | none => return e
    | some t => if t.joinsAtOnce then r (.immediateJoins (← r (.join t e))) else return e
  | .tighterJoins precedence e => do
    match ← peek with
    | none => return e
    | some t =>
      if t.bindsTighter precedence then r (.tighterJoins precedence (← r (.join t e)))
      else return e
  | .join t left =>
    match t.symbol? with
    | some .colon => do
      skip
      return .range left (← expect .range t (← r .value))
    | some .percent => do
      skip
      return .chain [(.percent, left)]
    | some .ampersand => do
      skip
      return .textJoin left (← expect .textJoin t (← r .compound))
    | some s =>
      match Step.ofSymbol? s, Comparator.ofSymbol? s with
      | some step, _ => do
        skip
        return .chain ((.start, left) :: (← r (.chainSteps s.precedence step t)))
      | none, some op => do
        skip
        let right ← expect (.rightSide t) t (← r .operand)
        return .comparison op left (← r (.tighterJoins s.precedence right))
      | none, none => throw .defect
    | none => throw .defect
  | .chainSteps precedence step t => do
    let right ← expect (.rightSide t) t (← r .operand)
    let right ← r (.tighterJoins precedence right)
    match ← peek with
    | none => return [(step, right)]
    | some t =>
      match t.chainStep? precedence with
      | none => return [(step, right)]
      | some next => do
        skip
        return (step, right) :: (← r (.chainSteps precedence next t))

def bounded (n : Nat) : Rules
  | .compound => compound n []
  | .operand => operand n
  | .value => value n
  | .named name => named n name
  | .items closer opener slot => items n closer opener slot
  | .immediateJoins e => immediateJoins n e
  | .tighterJoins precedence e => tighterJoins n precedence e
  | .join t e => join n t e
  | .chainSteps precedence step t => chainSteps n precedence step t

def finish (pending : List Pending) : Option Expr → Parser (Option Expr)
  | some e => return some (Pending.closeAll pending e)
  | none =>
    match pending with
    | [] => return none
    | .textJoin _ ampersand :: _ => some <$> expect .textJoin ampersand none
    | .intersection left :: pending => return some (Pending.closeAll pending left)

lemma expect_none_bind {need : Need} {t : Token} {f g : Expr → Parser β} :
    expect need t none >>= f = expect need t none >>= g := by
  simp only [expect, bind_assoc]
  refine bind_congr fun u => ?_
  cases u <;> rfl

lemma finish_cons (p : Pending) (pending : List Pending) (e : Option Expr) :
    finish (p :: pending) e = finish [p] e >>= finish pending := by
  cases e with
  | some e => rfl
  | none =>
    cases p with
    | intersection left => rfl
    | textJoin left ampersand =>
      simp only [finish, map_eq_pure_bind, bind_assoc]
      exact expect_none_bind

lemma compound_eq_bind (n : Nat) (pending : List Pending) :
    compound n pending = compound n [] >>= finish pending := by
  induction n generalizing pending with
  | zero => rfl
  | succ n ih =>
    -- What is put on top waits in front of all that waited before.
    have push p : compound n (p :: pending) = compound n [p] >>= finish pending := by
      rw [ih (p :: pending), ih [p], bind_assoc]
      exact bind_congr (finish_cons p pending)
    simp only [compound, bind_assoc]
    refine bind_congr fun e => ?_
    cases e with
    | none => rcases pending with _ | ⟨⟨left, ampersand⟩ | left, pending⟩ <;> rfl
    | some e =>
      simp only [bind_assoc]
      refine bind_congr fun e => bind_congr fun t => ?_
      cases t with
      | none => rfl
      | some t =>
        dsimp only
        split
        · rw [bind_assoc, push]
        · rw [push]

lemma finish_textJoin (left : Expr) (ampersand : Token) (e : Option Expr) :
    finish [.textJoin left ampersand] e =
      (some ∘ Expr.textJoin left) <$> expect .textJoin ampersand e := by
  cases e with
  | some e => rfl
  | none =>
    rw [finish, map_eq_pure_bind, map_eq_pure_bind]
    exact expect_none_bind

lemma compound_succ (n : Nat) : compound (n + 1) [] = (bounded n).step .compound := by
  simp only [compound, Rules.step, bounded]
  refine bind_congr fun e => ?_
  cases e with
  | none => rfl
  | some e =>
    refine bind_congr fun e => bind_congr fun t => ?_
    cases t with
    | none => rfl
    | some t =>
      dsimp only
      split
      · rw [compound_eq_bind]
        refine bind_congr fun _ => bind_congr fun r => ?_
        rw [finish_textJoin, map_eq_pure_bind]
        rfl
      · rw [compound_eq_bind]
        refine bind_congr fun r => ?_
        cases r <;> rfl

theorem bounded_succ (n : Nat) : bounded (n + 1) = (bounded n).step := by
  funext c
  cases c with
  | compound => exact compound_succ n
  | _ => rfl

end CellFormula.Parser
