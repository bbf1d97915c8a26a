import CellFormula.Proofs.Parser.Recursion
import CellFormula.Proofs.Parser.Query
import CellFormula.Proofs.Parser.Whole

/-! What the rules take for granted. Written down on its own, each rule takes operators and brackets
from a lookahead that may have ended, looks symbols up in tables that may not have them, and goes on
with joins that may have found no operator. Because of what the callers have seen, none of this
happens: with a defect wherever something is missing, the rules are the same. -/

namespace CellFormula

namespace Parser

variable {α β : Type} {b : State} {t : Token}

def granted : Option α → Parser α
  | some a => pure a
  | none => throw .defect

def taken : Parser Token := do granted (← next)

/-- A reader for every kind of phrase. None of them is told which token is next. -/
structure Readers where
  compound : Parser (Option Expr)
  operand : Parser (Option Expr)
  value : Parser (Option Expr)
  named (name : String) : Parser Expr
  items (closer : Symbol) (opener : Token) (slot : Slot) : Parser (List Expr)
  immediateJoins (left : Expr) : Parser Expr
  tighterJoins (precedence : Nat) (left : Expr) : Parser Expr
  join (left : Expr) : Parser (Option Expr)
  chainSteps (precedence : Nat) (operator : Token) : Parser (List (Step × Expr))

namespace Readers

def joinBy (r : Readers) (left : Expr) (s : Symbol) : Parser (Option Expr) :=
  if s = .colon then do
    let colon ← taken
    return some (.range left (← expect .range colon (← r.value)))
  else if s.isMaths then do
    let operator ← taken
    let precedence ← granted (operator.symbol?.map Symbol.precedence)
    return some (.chain ((.start, left) :: (← r.chainSteps precedence operator)))
  else if s = .ampersand then do
    let ampersand ← taken
    return some (.textJoin left (← expect .textJoin ampersand (← r.compound)))
  else if s = .percent then do
    skip
    return some (.chain [(.percent, left)])
  else if s.isComparison then do
    let operator ← taken
    let right ← expect (.rightSide operator) operator (← r.operand)
    let right ← r.tighterJoins (← granted (operator.symbol?.map Symbol.precedence)) right
    return some (.comparison (← granted (operator.symbol?.bind Comparator.ofSymbol?)) left right)
  else return none

def step (r : Readers) : Readers where
  compound := do
    match ← r.operand with
    | none => return none
    | some e =>
      let e ← r.immediateJoins e
      match ← peek with
      | none => return some e
      | some t =>
        if t.isSymbol .ampersand then do
          let ampersand ← taken
          return some (.textJoin e (← expect .textJoin ampersand (← r.compound)))
        else
          match ← r.compound with
          | none => return some e
          | some right => return some (.intersection e right)
  operand := do
    match ← r.value with
    | some e => return some e
    | none =>
      match ← peek with
      | none => return none
      | some t =>
        if t.isSymbol .subtract then do
          let minus ← taken
          let e ← expect .negation minus (← r.operand)
          return some (.chain [(.subtract, e)])
        else return none
  value := do
    match ← peek with
    | none => return none
    | some t =>
      match t.lexeme with
      | .literal name => do
        skip
        some <$> r.named name
      | .string text => do
        skip
        return some (.string text)
      | .error code => do
        skip
        return some (.error code)
      | .number d => do
        skip
        return some (.number d)
      | .special s => do
        skip
        refuseSpecial s
      | .symbol .subtract => do
        match (← peekSecond).map Token.lexeme with
        | some (.number d) => do
          skip
          skip
          return some (.number d.negate)
        | some (.special s) => do
          skip
          skip
          refuseSpecial s.negate
        | _ => return none
      | .symbol .openBracket => do
        let opener ← taken
        let inner ← r.compound
        match ← next with
        | none => refuse (.unclosed opener)
        | some close =>
          if close.isSymbol .closeBracket then return some (.bracketed (inner.getD .empty))
          else refuse (.unclosed opener)
      | .symbol .openSquare => do
        let opener ← taken
        return some (.ofColumns (← r.items .closeSquare opener .opening))
      | .symbol _ => return none
  named name := do
    match ← peek with
    | none => return .ofName name
    | some t =>
      match t.symbol?, truthValue? name with
      | some .openBracket, _ => do
        let opener ← taken
        return .call name (← r.items .closeBracket opener .opening)
      | _, some truth => return .boolean truth
      | some .bang, none => do
        let bang ← taken
        return .sheet (.cell name) (← expect .sheet bang (← r.value))
      | some .openSquare, none => do
        let opener ← granted (← peek)
        return .table name (← expect .columns opener (← r.value))
      | _, none => return .cell name
  items closer opener slot := do
    match ← peek with
    | none => refuse (.unclosedList opener)
    | some t =>
      if t.isSymbol .comma then do
        skip
        return slot.beforeComma (← r.items closer opener .vacant)
      else if t.isSymbol closer then do
        skip
        return slot.beforeClose
      else
        match ← r.compound with
        | none => refuse (.ofStray t (.strayInList t opener))
        | some e => return e :: (← r.items closer opener .filled)
  immediateJoins e := do
    match ← peek with
    | none => return e
    | some t => if t.joinsAtOnce then r.immediateJoins (← granted (← r.join e)) else return e
  tighterJoins precedence e := do
    match ← peek with
    | none => return e
    | some t =>
      if t.bindsTighter precedence then r.tighterJoins precedence (← granted (← r.join e))
      else return e
  join left := do
    match ← peek with
    | none => return none
    | some t =>
      match t.symbol? with
      | none => return none
      | some s => r.joinBy left s
  chainSteps precedence operator := do
    let right ← expect (.rightSide operator) operator (← r.operand)
    let right ← r.tighterJoins precedence right
    let step ← granted (operator.symbol?.bind Step.ofSymbol?)
    match ← peek with
    | none => return [(step, right)]
    | some t =>
      if t.symbol?.any fun s => s.isMaths && s.precedence == precedence then do
        let operator ← taken
        return (step, right) :: (← r.chainSteps precedence operator)
      else return [(step, right)]

def bounded : Nat → Readers
  | 0 => {
      compound := throw .defect
      operand := throw .defect
      value := throw .defect
      named := fun _ => throw .defect
      items := fun _ _ _ => throw .defect
      immediateJoins := fun _ => throw .defect
      tighterJoins := fun _ _ => throw .defect
      join := fun _ => throw .defect
      chainSteps := fun _ _ => throw .defect }
  | n + 1 => (bounded n).step

def formula : Parser (Option Expr) := do
  match ← peek with
  | none => return none
  | some _ =>
    let e ← fun b => (bounded (depth b.unread)).compound b
    match ← peek with
    | none => return e
    | some t => refuse (.ofStray t (.leftover t))

structure Follows (r : Readers) (s : Rules) : Prop where
  compound : r.compound = s .compound
  operand : r.operand = s .operand
  value : r.value = s .value
  named : ∀ name, r.named name = s (.named name)
  items : ∀ closer opener slot, r.items closer opener slot = s (.items closer opener slot)
  immediateJoins : ∀ e, r.immediateJoins e = s (.immediateJoins e)
  tighterJoins : ∀ precedence e, r.tighterJoins precedence e = s (.tighterJoins precedence e)
  join : ∀ {t : Token} {b : State}, b.ahead.head? = some t → t.symbol?.any Symbol.joins →
    ∀ e, r.join e b = (some <$> s (.join t e)) b
  chainSteps : ∀ {t : Token} {step : Step}, t.symbol?.bind Step.ofSymbol? = some step →
    ∀ precedence, r.chainSteps precedence t = s (.chainSteps precedence step t)

end Readers

section Taken

variable {f g : Option Token → Parser β}

lemma peek_of_head (h : b.ahead.head? = some t) : peek b = .ok (some t) b := by
  obtain ⟨ahead, hb⟩ := List.head?_eq_some_iff.mp h
  simp only [peek, lift, Lookahead.peek_apply]
  rw [Lookahead.fill_of_le (by simp [hb]), ← h]

lemma next_of_head (h : b.ahead.head? = some t) :
    next b = .ok (some t) { b with ahead := b.ahead.tail } := by
  obtain ⟨ahead, hb⟩ := List.head?_eq_some_iff.mp h
  simp only [next, lift, Lookahead.next_apply]
  rw [Lookahead.fill_of_le (by simp [hb]), ← h]

lemma head_of_peek {o : Option Token} {c : State} (h : peek b = .ok o c) : c.ahead.head? = o := by
  simp only [peek, lift, Lookahead.peek_apply] at h
  cases hf : Lookahead.fill 1 b <;> rw [hf] at h <;> cases h
  rfl

lemma peek_bind_congr (hn : f none = g none)
    (hs : ∀ t b, b.ahead.head? = some t → f (some t) b = g (some t) b) :
    peek >>= f = peek >>= g := by
  funext b
  refine bind_apply_eq rfl fun o c hc => ?_
  cases o with
  | none => rw [hn]
  | some t => exact hs t c (head_of_peek hc)

lemma peek_bind (h : b.ahead.head? = some t) : (peek >>= f) b = f (some t) b := by
  simp only [Bind.bind, EStateM.bind, peek_of_head h]

lemma taken_bind (h : b.ahead.head? = some t) (f : Token → Parser β) :
    (taken >>= f) b = (skip >>= fun _ => f t) b := by
  have hs : skip b = .ok () { b with ahead := b.ahead.tail } := by
    change ((fun _ => ()) <$> next) b = _
    simp only [Functor.map, EStateM.map, next_of_head h]
  simp only [taken, Bind.bind, EStateM.bind, next_of_head h, hs]
  rfl

lemma granted_bind {x : Parser (Option α)} {y : Parser α} (h : x b = (some <$> y) b)
    (f : α → Parser β) : (x >>= fun o => granted o >>= f) b = (y >>= f) b := by
  simp only [Bind.bind, EStateM.bind, h, Functor.map, EStateM.map]
  cases y b <;> rfl

end Taken

lemma any_isMaths_eq (t : Token) (precedence : Nat) :
    (t.symbol?.any fun s => s.isMaths && s.precedence == precedence) =
      (t.chainStep? precedence).isSome := by
  rw [Token.chainStep?]
  cases t.symbol? with
  | none => rfl
  | some s =>
    rw [Option.any_some, Option.bind_some, ← Step.isSome_ofSymbol?]
    by_cases hp : s.precedence = precedence <;> simp [hp]

namespace Readers

section Step

variable {r : Readers} {s : Rules} (h : r.Follows s)

include h

lemma compound_follows : r.step.compound = s.step .compound := by
  simp only [step, Rules.step, h.operand, h.immediateJoins, h.compound]
  refine bind_congr fun e => ?_
  cases e with
  | none => rfl
  | some e =>
    refine bind_congr fun e => peek_bind_congr rfl fun t b hb => ?_
    dsimp only
    split
    · exact taken_bind hb _
    · rfl

lemma operand_follows : r.step.operand = s.step .operand := by
  simp only [step, Rules.step, h.value, h.operand]
  refine bind_congr fun e => ?_
  cases e with
  | some e => rfl
  | none =>
    refine peek_bind_congr rfl fun t b hb => ?_
    dsimp only
    split
    · exact taken_bind hb _
    · rfl

lemma value_follows : r.step.value = s.step .value := by
  simp only [step, Rules.step, h.named, h.compound, h.items]
  refine peek_bind_congr rfl fun t b hb => ?_
  dsimp only
  cases t.lexeme with
  | symbol sy =>
    cases sy with
    | openBracket | openSquare => exact taken_bind hb _
    | _ => rfl
  | _ => rfl

lemma named_follows (name : String) : r.step.named name = s.step (.named name) := by
  simp only [step, Rules.step, h.items, h.value]
  refine peek_bind_congr rfl fun t b hb => ?_
  dsimp only
  cases t.symbol? with
  | none => cases truthValue? name <;> rfl
  | some sy =>
    cases sy with
    | openBracket => exact taken_bind hb _
    | bang =>
      cases truthValue? name with
      | none => exact taken_bind hb _
      | some truth => rfl
    | openSquare =>
      cases truthValue? name with
      | none => exact peek_bind hb
      | some truth => rfl
    | _ => cases truthValue? name <;> rfl

lemma items_follows (closer : Symbol) (opener : Token) (slot : Slot) :
    r.step.items closer opener slot = s.step (.items closer opener slot) := by
  simp only [step, Rules.step, h.items, h.compound]
  rfl

lemma joinBy_follows {sy : Symbol} (hb : b.ahead.head? = some t) (hs : t.symbol? = some sy)
    (hj : sy.joins) (e : Expr) : r.joinBy e sy b = (some <$> s.step (.join t e)) b := by
  have hop (hc : sy.isComparison) : ∃ op, Comparator.ofSymbol? sy = some op :=
    Option.isSome_iff_exists.mp ((Comparator.isSome_ofSymbol? sy).trans hc)
  simp only [Rules.step, hs, map_eq_pure_bind]
  -- In each branch the operator is the next token, and the tables are asked for its own symbol.
  cases sy with
  | colon =>
    simp only [bind_assoc, pure_bind, ← h.value]
    exact taken_bind hb _
  | percent =>
    simp only [bind_assoc, pure_bind]
    rfl
  | ampersand =>
    simp only [bind_assoc, pure_bind, ← h.compound]
    exact taken_bind hb _
  | add | subtract | multiply | divide | power =>
    have hc := h.chainSteps (t := t) (congrArg (Option.bind · Step.ofSymbol?) hs)
    simp only [bind_assoc, pure_bind, Step.ofSymbol?, ← hc]
    refine (taken_bind hb _).trans ?_
    simp only [hs]
    rfl
  | equal | notEqual | less | greater | lessOrEqual | greaterOrEqual =>
    obtain ⟨op, hop⟩ := hop rfl
    simp only [Step.ofSymbol?, hop, bind_assoc, pure_bind, ← h.operand, ← h.tighterJoins]
    refine (taken_bind hb _).trans ?_
    simp only [hs, Option.bind_some, hop]
    rfl
  | _ => cases hj

lemma immediateJoins_follows (e : Expr) :
    r.step.immediateJoins e = s.step (.immediateJoins e) := by
  simp only [step, Rules.step, h.immediateJoins]
  refine peek_bind_congr rfl fun t b hb => ?_
  dsimp only
  split
  · rename_i ht
    exact granted_bind (h.join hb (joins_of_joinsAtOnce ht) e) _
  · rfl

lemma tighterJoins_follows (precedence : Nat) (e : Expr) :
    r.step.tighterJoins precedence e = s.step (.tighterJoins precedence e) := by
  simp only [step, Rules.step, h.tighterJoins]
  refine peek_bind_congr rfl fun t b hb => ?_
  dsimp only
  split
  · rename_i ht
    exact granted_bind (h.join hb (joins_of_bindsTighter ht) e) _
  · rfl

lemma join_follows (hb : b.ahead.head? = some t) (ht : t.symbol?.any Symbol.joins) (e : Expr) :
    r.step.join e b = (some <$> s.step (.join t e)) b := by
  obtain ⟨sy, hs, hj⟩ := (Option.any_eq_true _ _).mp ht
  refine (peek_bind hb).trans ?_
  dsimp only
  rw [hs]
  exact joinBy_follows h hb hs hj e

lemma chainSteps_follows {stp : Step} (ht : t.symbol?.bind Step.ofSymbol? = some stp)
    (precedence : Nat) :
    r.step.chainSteps precedence t = s.step (.chainSteps precedence stp t) := by
  simp only [step, Rules.step, h.operand, h.tighterJoins, ht]
  refine bind_congr fun e => bind_congr fun e => bind_congr fun e => ?_
  refine peek_bind_congr rfl fun u b hb => ?_
  dsimp only
  rw [any_isMaths_eq]
  cases hu : u.chainStep? precedence with
  | none => rfl
  | some next =>
    obtain ⟨sy, hs, -, hnext⟩ := Token.chainStep?_eq_some_iff.mp hu
    have hc := h.chainSteps (t := u) (by rw [Token.symbol?_eq_some_iff.mpr hs]; exact hnext)
    rw [Option.isSome_some, if_pos rfl]
    exact (taken_bind hb _).trans (by rw [hc])

theorem follows_step : r.step.Follows s.step where
  compound := compound_follows h
  operand := operand_follows h
  value := value_follows h
  named := named_follows h
  items := items_follows h
  immediateJoins := immediateJoins_follows h
  tighterJoins := tighterJoins_follows h
  join := join_follows h
  chainSteps := chainSteps_follows h

end Step

theorem follows_bounded (n : Nat) : (bounded n).Follows (Parser.bounded n) := by
  induction n with
  | zero => constructor <;> intros <;> rfl
  | succ n ih =>
    rw [bounded_succ]
    exact follows_step ih

theorem formula_eq : formula = Parser.formula := by
  refine peek_bind_congr rfl fun t b _ => bind_apply_eq ?_ fun _ _ _ => rfl
  exact congrFun (follows_bounded (depth b.unread)).compound b

end Readers

end Parser

namespace Formula

open CellFormula.Parser

/-- Nothing that is taken for granted fails, and a stream is read or refused as is declared, or for
what stands in place of a number. -/
structure OnlyDeclared (source : Source Token LexicalError) : Prop where
  granted : Readers.formula (.ofSource source) = run source
  declared : ∀ f, parseTokens source = .error f → Refuses source f
  finite : (∀ t ∈ source.items, ∀ s, t.lexeme ≠ .special s) → ∀ f, parseTokens source = .error f →
    (∃ e, f = .lexical e ∧ source.failure = some e) ∨ ∃ cause, f = .syntactic cause

theorem onlyDeclared (source : Source Token LexicalError) : OnlyDeclared source where
  granted := congrFun Readers.formula_eq (.ofSource source)
  declared _ h := refuses_of_parseTokens h
  finite hn _ h := refusal_of_parseTokens hn h

theorem undeclared_nan :
    ¬ ∀ f, parseTokens (.ofList [⟨.special (.nan false false 0), 0, 1⟩]) = .error f →
      (∃ e, f = .lexical e) ∨ ∃ cause, f = .syntactic cause := by
  intro h
  obtain ⟨e, he⟩ | ⟨cause, hc⟩ := h (.nonfinite (.nan false false 0)) rfl
  · cases he
  · cases hc

end Formula

end CellFormula
