import CellFormula.Proofs.Parser.Derivation

namespace CellFormula

def ParseCause.lack (need : Need) (after : Token) : List Token → ParseCause
  | [] => .missing need after
  | t :: _ => .misplaced need t

inductive Lexeme.Spoils : Lexeme → Decimal.Special → Prop
  | plain {s} : Spoils (.special s) s
  | negated {s} : Spoils (.special s) s.negate

namespace Parser

def Call.looks : Call → Bool
  | .value | .named _ | .items .. | .immediateJoins _ | .tighterJoins .. => true
  | _ => false

/-- `Enters fin c ts d us`: with the tokens `ts` left, `c` gets as far as calling `d` with `us`
left. -/
inductive Enters (fin : Option LexicalError) : Call → List Token → Call → List Token → Prop
  | operand {ts} : Enters fin .compound ts .operand ts
  | joins {ts us e} : Reads fin .operand ts (.expr e) us →
      Enters fin .compound ts (.immediateJoins e) us
  | textJoin {ts us vs t e e'} : Reads fin .operand ts (.expr e) us →
      Reads fin (.immediateJoins e) us (.expr e') (t :: vs) → t.lexeme = .symbol .ampersand →
      Enters fin .compound ts .compound vs
  | intersection {ts us vs e e'} : Reads fin .operand ts (.expr e) us →
      Reads fin (.immediateJoins e) us (.expr e') vs → Enters fin .compound ts .compound vs
  | value {ts} : Enters fin .operand ts .value ts
  | negation {t ts} : t.lexeme = .symbol .subtract → Stops fin Token.isNumber ts →
      Enters fin .operand (t :: ts) .operand ts
  | literal {t ts name} : t.lexeme = .literal name → Enters fin .value (t :: ts) (.named name) ts
  | bracketed {t ts} : t.lexeme = .symbol .openBracket → Enters fin .value (t :: ts) .compound ts
  | columns {t ts} : t.lexeme = .symbol .openSquare →
      Enters fin .value (t :: ts) (.items .closeSquare t .opening) ts
  | call {name t ts} : t.lexeme = .symbol .openBracket →
      Enters fin (.named name) (t :: ts) (.items .closeBracket t .opening) ts
  | sheet {name t ts} : truthValue? name = none → t.lexeme = .symbol .bang →
      Enters fin (.named name) (t :: ts) .value ts
  | table {name t ts} : truthValue? name = none → t.lexeme = .symbol .openSquare →
      Enters fin (.named name) (t :: ts) .value (t :: ts)
  | comma {closer opener slot t ts} : t.lexeme = .symbol .comma →
      Enters fin (.items closer opener slot) (t :: ts) (.items closer opener .vacant) ts
  | item {closer opener slot t ts} : t.lexeme ≠ .symbol .comma → t.lexeme ≠ .symbol closer →
      Enters fin (.items closer opener slot) (t :: ts) .compound (t :: ts)
  | items {closer opener slot t ts us e} : t.lexeme ≠ .symbol .comma →
      t.lexeme ≠ .symbol closer → Reads fin .compound (t :: ts) (.expr e) us →
      Enters fin (.items closer opener slot) (t :: ts) (.items closer opener .filled) us
  | immediate {t ts left} : t.joinsAtOnce →
      Enters fin (.immediateJoins left) (t :: ts) (.join t left) (t :: ts)
  | immediateNext {t ts us left e} : t.joinsAtOnce →
      Reads fin (.join t left) (t :: ts) (.expr e) us →
      Enters fin (.immediateJoins left) (t :: ts) (.immediateJoins e) us
  | tighter {precedence t ts left} : t.bindsTighter precedence →
      Enters fin (.tighterJoins precedence left) (t :: ts) (.join t left) (t :: ts)
  | tighterNext {precedence t ts us left e} : t.bindsTighter precedence →
      Reads fin (.join t left) (t :: ts) (.expr e) us →
      Enters fin (.tighterJoins precedence left) (t :: ts) (.tighterJoins precedence e) us
  | range {t ts left} : t.lexeme = .symbol .colon → Enters fin (.join t left) (t :: ts) .value ts
  | text {t ts left} : t.lexeme = .symbol .ampersand →
      Enters fin (.join t left) (t :: ts) .compound ts
  | maths {s step t ts left} : t.lexeme = .symbol s → Step.ofSymbol? s = some step →
      Enters fin (.join t left) (t :: ts) (.chainSteps s.precedence step t) ts
  | comparison {op t ts left} : t.lexeme = .symbol (Comparator.symbol op) →
      Enters fin (.join t left) (t :: ts) .operand ts
  | comparisonJoins {op t ts us left r} : t.lexeme = .symbol (Comparator.symbol op) →
      Reads fin .operand ts (.expr r) us →
      Enters fin (.join t left) (t :: ts) (.tighterJoins op.symbol.precedence r) us
  | step {precedence step operator ts} :
      Enters fin (.chainSteps precedence step operator) ts .operand ts
  | stepJoins {precedence step operator ts us r} : Reads fin .operand ts (.expr r) us →
      Enters fin (.chainSteps precedence step operator) ts (.tighterJoins precedence r) us
  | nextStep {precedence step operator ts us t vs r r' step'} :
      Reads fin .operand ts (.expr r) us →
      Reads fin (.tighterJoins precedence r) us (.expr r') (t :: vs) →
      t.chainStep? precedence = some step' →
      Enters fin (.chainSteps precedence step operator) ts (.chainSteps precedence step' t) vs

section Enters

variable {fin : Option LexicalError} {c d : Call} {ts us : List Token}

lemma Enters.suffix (he : Enters fin c ts d us) : us <:+ ts := by
  cases he with
  | operand | value | table | item | immediate | tighter | step => exact List.suffix_rfl
  | joins h | items _ _ h | immediateNext _ h | tighterNext _ h | stepJoins h => exact h.suffix
  | textJoin h h' | nextStep h h' => exact (List.suffix_cons _ _).trans (h'.suffix.trans h.suffix)
  | intersection h h' => exact h'.suffix.trans h.suffix
  | comparisonJoins _ h => exact h.suffix.trans (List.suffix_cons _ _)
  | _ => exact List.suffix_cons _ _

lemma Call.Closes.enter (hc : c.Closes) (he : Enters fin c ts d us) : d.Closes := by
  cases he <;> trivial

end Enters

/-- `Raises fin c ts f rest`: with the tokens `ts` left, `c` fails by itself and leaves `rest`. -/
inductive Raises (fin : Option LexicalError) : Call → List Token → Failure → List Token → Prop
  | lexical {c e} : c.looks → fin = some e → Raises fin c [] (.lexical e) []
  | lexicalBehind {t e} : t.lexeme = .symbol .subtract → fin = some e →
      Raises fin .value [t] (.lexical e) [t]
  | special {t rest s} : t.lexeme = .special s → Raises fin .value (t :: rest) (.nonfinite s) rest
  | negativeSpecial {t u rest s} : t.lexeme = .symbol .subtract → u.lexeme = .special s →
      Raises fin .value (t :: u :: rest) (.nonfinite s.negate) rest
  | textJoin {ts us vs t e e'} : Reads fin .operand ts (.expr e) us →
      Reads fin (.immediateJoins e) us (.expr e') (t :: vs) → t.lexeme = .symbol .ampersand →
      Stops fin Token.startsOperand vs →
      Raises fin .compound ts (.syntactic (.lack .textJoin t vs)) vs
  | negation {t ts} : t.lexeme = .symbol .subtract → Stops fin Token.startsOperand ts →
      Raises fin .operand (t :: ts) (.syntactic (.lack .negation t ts)) ts
  | brackets {t ts} : t.lexeme = .symbol .openBracket → Stops fin Token.startsOperand ts →
      Stops fin (Token.isSymbol · .closeBracket) ts →
      Raises fin .value (t :: ts) (.syntactic (.unclosed t)) ts.tail
  | bracketed {t ts us e} : t.lexeme = .symbol .openBracket →
      Reads fin .compound ts (.expr e) us → Stops fin (Token.isSymbol · .closeBracket) us →
      Raises fin .value (t :: ts) (.syntactic (.unclosed t)) us.tail
  | sheet {name t ts} : truthValue? name = none → t.lexeme = .symbol .bang → LacksValue fin ts →
      Raises fin (.named name) (t :: ts) (.syntactic (.lack .sheet t ts)) ts
  | unclosedList {closer opener slot} : fin = none →
      Raises fin (.items closer opener slot) [] (.syntactic (.unclosedList opener)) []
  | strayInList {closer opener slot t ts} : t.lexeme ≠ .symbol .comma →
      t.lexeme ≠ .symbol closer → t.startsOperand = false →
      Raises fin (.items closer opener slot) (t :: ts)
        (.syntactic (.ofStray t (.strayInList t opener))) (t :: ts)
  | range {t ts left} : t.lexeme = .symbol .colon → LacksValue fin ts →
      Raises fin (.join t left) (t :: ts) (.syntactic (.lack .range t ts)) ts
  | text {t ts left} : t.lexeme = .symbol .ampersand → Stops fin Token.startsOperand ts →
      Raises fin (.join t left) (t :: ts) (.syntactic (.lack .textJoin t ts)) ts
  | comparison {op t ts left} : t.lexeme = .symbol (Comparator.symbol op) →
      Stops fin Token.startsOperand ts →
      Raises fin (.join t left) (t :: ts) (.syntactic (.lack (.rightSide t) t ts)) ts
  | step {precedence step operator ts} : Stops fin Token.startsOperand ts →
      Raises fin (.chainSteps precedence step operator) ts
        (.syntactic (.lack (.rightSide operator) operator ts)) ts

inductive Fails (fin : Option LexicalError) : Call → List Token → Failure → List Token → Prop
  | raise {c ts f rest} : Raises fin c ts f rest → Fails fin c ts f rest
  | enter {c ts d us f rest} : Enters fin c ts d us → Fails fin d us f rest → Fails fin c ts f rest

end Parser

end CellFormula
