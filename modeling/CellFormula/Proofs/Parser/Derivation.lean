import CellFormula.Proofs.Parser.Runs

/-! Derivations: which tokens a rule of the grammar takes, and with which answer. They know of no
bound on the depth of calls and of no lookahead: what a rule sees is the front of the tokens that
are left. -/

namespace CellFormula

namespace Token

lemma symbol?_eq_some_iff {t : Token} {s : Symbol} : t.symbol? = some s ↔ t.lexeme = .symbol s := by
  cases h : t.lexeme <;> simp [symbol?, Lexeme.symbol?, h]

lemma isSymbol_iff {t : Token} {s : Symbol} : t.isSymbol s ↔ t.lexeme = .symbol s := by
  rw [isSymbol, beq_iff_eq, symbol?_eq_some_iff]

lemma isSymbol_eq_false_iff {t : Token} {s : Symbol} :
    t.isSymbol s = false ↔ t.lexeme ≠ .symbol s := by
  rw [Bool.eq_false_iff, ne_eq, isSymbol_iff]

lemma chainStep?_eq_some_iff {t : Token} {precedence : Nat} {step : Step} :
    t.chainStep? precedence = some step ↔
      ∃ s, t.lexeme = .symbol s ∧ s.precedence = precedence ∧ Step.ofSymbol? s = some step := by
  simp [chainStep?, Option.bind_eq_some_iff, symbol?_eq_some_iff]

lemma isSymbol_of_symbol {t : Token} {s : Symbol} (h : t.lexeme = .symbol s) (s' : Symbol) :
    t.isSymbol s' = (s == s') := by
  rw [isSymbol, symbol?_eq_some_iff.mpr h]
  rfl

lemma bindsTighter_of_symbol {t : Token} {s : Symbol} (h : t.lexeme = .symbol s)
    (precedence : Nat) : t.bindsTighter precedence = (s.joins && precedence < s.precedence) := by
  rw [bindsTighter, symbol?_eq_some_iff.mpr h, Option.any_some]

lemma joinsAtOnce_of_symbol {t : Token} {s : Symbol} (h : t.lexeme = .symbol s) :
    t.joinsAtOnce = s.joinsAtOnce := by
  rw [joinsAtOnce, symbol?_eq_some_iff.mpr h, Option.any_some]

def startsOperand (t : Token) : Bool :=
  t.symbol?.all fun s => s == .subtract || s == .openBracket || s == .openSquare

lemma startsOperand_of_symbol {t : Token} {s : Symbol} (h : t.lexeme = .symbol s) :
    t.startsOperand = (s == .subtract || s == .openBracket || s == .openSquare) := by
  rw [startsOperand, symbol?_eq_some_iff.mpr h, Option.all_some]

lemma startsOperand_of_symbol?_eq_none {t : Token} (h : t.symbol? = none) : t.startsOperand := by
  rw [startsOperand, h, Option.all_none]

def continues (t : Token) : Bool := t.isSymbol .ampersand || t.startsOperand

def qualifies (t : Token) : Bool :=
  t.isSymbol .openBracket || t.isSymbol .bang || t.isSymbol .openSquare

lemma qualifies_of_symbol {t : Token} {s : Symbol} (h : t.lexeme = .symbol s) :
    t.qualifies = (s == .openBracket || s == .bang || s == .openSquare) := by
  simp only [qualifies, isSymbol_of_symbol h]

end Token

lemma truthValue?_eq_none_iff {name : String} :
    truthValue? name = none ↔ name ≠ "TRUE" ∧ name ≠ "FALSE" := by
  unfold truthValue?
  split
  · simp_all
  · split <;> simp_all

namespace Parser

/-- What is seen at the front of the tokens does not pass the test: another token, or the end of
the source. -/
def Stops (fin : Option LexicalError) (test : Token → Bool) : List Token → Prop
  | [] => fin = none
  | t :: _ => test t = false

lemma Stops.mono {fin : Option LexicalError} {test test' : Token → Bool} {ts : List Token}
    (h : Stops fin test ts) (ht : ∀ t, test t = false → test' t = false) : Stops fin test' ts := by
  cases ts with
  | nil => exact h
  | cons t ts => exact ht t h

lemma Stops.isSymbol {fin : Option LexicalError} {test : Token → Bool} {ts : List Token}
    {s : Symbol} (h : Stops fin test ts) (hs : ∀ t : Token, t.lexeme = .symbol s → test t) :
    Stops fin (Token.isSymbol · s) ts := by
  refine h.mono fun t ht => Token.isSymbol_eq_false_iff.mpr fun hl => ?_
  rw [hs t hl] at ht
  cases ht

def LacksValue (fin : Option LexicalError) : List Token → Prop
  | [] => fin = none
  | t :: ts => t.startsOperand = false ∨ t.lexeme = .symbol .subtract ∧ Stops fin Token.isNumber ts

inductive Call where
  | compound | operand | value
  | named (name : String)
  | items (closer : Symbol) (opener : Token) (slot : Slot)
  | immediateJoins (left : Expr)
  | tighterJoins (precedence : Nat) (left : Expr)
  | join (token : Token) (left : Expr)
  | chainSteps (precedence : Nat) (step : Step) (operator : Token)

def Call.takes : Call → Bool
  | compound | operand | value | join .. => true
  | _ => false

def Call.Closes : Call → Prop
  | items closer .. => closer.isClose
  | _ => True

inductive Answer where
  | expr (e : Expr)
  | list (es : List Expr)
  | steps (operations : List (Step × Expr))

/-- `Reads fin c ts a rest`: the call `c` takes the tokens of `ts` before `rest` and answers `a`,
where `fin` is what follows the last token. -/
inductive Reads (fin : Option LexicalError) : Call → List Token → Answer → List Token → Prop
  | last {ts us rest e e'} : Reads fin .operand ts (.expr e) us →
      Reads fin (.immediateJoins e) us (.expr e') rest → Stops fin Token.continues rest →
      Reads fin .compound ts (.expr e') rest
  | textJoin {ts us vs rest t e e' r} : Reads fin .operand ts (.expr e) us →
      Reads fin (.immediateJoins e) us (.expr e') (t :: vs) → t.lexeme = .symbol .ampersand →
      Reads fin .compound vs (.expr r) rest → Reads fin .compound ts (.expr (.textJoin e' r)) rest
  | intersection {ts us vs rest e e' r} : Reads fin .operand ts (.expr e) us →
      Reads fin (.immediateJoins e) us (.expr e') vs → Reads fin .compound vs (.expr r) rest →
      Reads fin .compound ts (.expr (.intersection e' r)) rest
  | plain {ts rest e} : Reads fin .value ts (.expr e) rest → Reads fin .operand ts (.expr e) rest
  | negation {t ts rest e} : t.lexeme = .symbol .subtract → Stops fin Token.isNumber ts →
      Reads fin .operand ts (.expr e) rest →
      Reads fin .operand (t :: ts) (.expr (.chain [(.subtract, e)])) rest
  | literal {t ts rest name e} : t.lexeme = .literal name →
      Reads fin (.named name) ts (.expr e) rest → Reads fin .value (t :: ts) (.expr e) rest
  | string {t rest text} : t.lexeme = .string text →
      Reads fin .value (t :: rest) (.expr (.string text)) rest
  | error {t rest code} : t.lexeme = .error code →
      Reads fin .value (t :: rest) (.expr (.error code)) rest
  | number {t rest d} : t.lexeme = .number d → Reads fin .value (t :: rest) (.expr (.number d)) rest
  | negative {t u rest d} : t.lexeme = .symbol .subtract → u.lexeme = .number d →
      Reads fin .value (t :: u :: rest) (.expr (.number d.negate)) rest
  | brackets {t c rest} : t.lexeme = .symbol .openBracket → c.lexeme = .symbol .closeBracket →
      Reads fin .value (t :: c :: rest) (.expr (.bracketed .empty)) rest
  | bracketed {t c ts rest e} : t.lexeme = .symbol .openBracket →
      Reads fin .compound ts (.expr e) (c :: rest) → c.lexeme = .symbol .closeBracket →
      Reads fin .value (t :: ts) (.expr (.bracketed e)) rest
  | columns {t ts rest es} : t.lexeme = .symbol .openSquare →
      Reads fin (.items .closeSquare t .opening) ts (.list es) rest →
      Reads fin .value (t :: ts) (.expr (.ofColumns es)) rest
  | call {name t ts rest es} : t.lexeme = .symbol .openBracket →
      Reads fin (.items .closeBracket t .opening) ts (.list es) rest →
      Reads fin (.named name) (t :: ts) (.expr (.call name es)) rest
  | truth {name rest b} : truthValue? name = some b →
      Stops fin (Token.isSymbol · .openBracket) rest →
      Reads fin (.named name) rest (.expr (.boolean b)) rest
  | sheet {name t ts rest e} : truthValue? name = none → t.lexeme = .symbol .bang →
      Reads fin .value ts (.expr e) rest →
      Reads fin (.named name) (t :: ts) (.expr (.sheet (.cell name) e)) rest
  | table {name t ts rest e} : truthValue? name = none → t.lexeme = .symbol .openSquare →
      Reads fin .value (t :: ts) (.expr e) rest →
      Reads fin (.named name) (t :: ts) (.expr (.table name e)) rest
  | cell {name rest} : truthValue? name = none → Stops fin Token.qualifies rest →
      Reads fin (.named name) rest (.expr (.cell name)) rest
  | comma {closer opener slot t ts rest es} : t.lexeme = .symbol .comma →
      Reads fin (.items closer opener .vacant) ts (.list es) rest →
      Reads fin (.items closer opener slot) (t :: ts) (.list (slot.beforeComma es)) rest
  | close {closer opener slot t rest} : t.lexeme = .symbol closer → closer ≠ .comma →
      Reads fin (.items closer opener slot) (t :: rest) (.list slot.beforeClose) rest
  | item {closer opener slot t ts us rest e es} : t.lexeme ≠ .symbol .comma →
      t.lexeme ≠ .symbol closer → Reads fin .compound (t :: ts) (.expr e) us →
      Reads fin (.items closer opener .filled) us (.list es) rest →
      Reads fin (.items closer opener slot) (t :: ts) (.list (e :: es)) rest
  | immediateStop {rest left} : Stops fin Token.joinsAtOnce rest →
      Reads fin (.immediateJoins left) rest (.expr left) rest
  | immediateStep {t ts us rest left e e'} : t.joinsAtOnce →
      Reads fin (.join t left) (t :: ts) (.expr e) us →
      Reads fin (.immediateJoins e) us (.expr e') rest →
      Reads fin (.immediateJoins left) (t :: ts) (.expr e') rest
  | tighterStop {precedence rest left} : Stops fin (Token.bindsTighter precedence) rest →
      Reads fin (.tighterJoins precedence left) rest (.expr left) rest
  | tighterStep {precedence t ts us rest left e e'} : t.bindsTighter precedence →
      Reads fin (.join t left) (t :: ts) (.expr e) us →
      Reads fin (.tighterJoins precedence e) us (.expr e') rest →
      Reads fin (.tighterJoins precedence left) (t :: ts) (.expr e') rest
  | range {t ts rest left r} : t.lexeme = .symbol .colon → Reads fin .value ts (.expr r) rest →
      Reads fin (.join t left) (t :: ts) (.expr (.range left r)) rest
  | percent {t rest left} : t.lexeme = .symbol .percent →
      Reads fin (.join t left) (t :: rest) (.expr (.chain [(.percent, left)])) rest
  | text {t ts rest left r} : t.lexeme = .symbol .ampersand →
      Reads fin .compound ts (.expr r) rest →
      Reads fin (.join t left) (t :: ts) (.expr (.textJoin left r)) rest
  | maths {s step t ts rest left operations} : t.lexeme = .symbol s →
      Step.ofSymbol? s = some step →
      Reads fin (.chainSteps s.precedence step t) ts (.steps operations) rest →
      Reads fin (.join t left) (t :: ts) (.expr (.chain ((.start, left) :: operations))) rest
  | comparison {t ts us rest op left r r'} : t.lexeme = .symbol op.symbol →
      Reads fin .operand ts (.expr r) us →
      Reads fin (.tighterJoins op.symbol.precedence r) us (.expr r') rest →
      Reads fin (.join t left) (t :: ts) (.expr (.comparison op left r')) rest
  | lastStep {precedence step operator ts us rest r r'} : Reads fin .operand ts (.expr r) us →
      Reads fin (.tighterJoins precedence r) us (.expr r') rest →
      Stops fin (fun t => (t.chainStep? precedence).isSome) rest →
      Reads fin (.chainSteps precedence step operator) ts (.steps [(step, r')]) rest
  | nextStep {precedence step operator ts us t vs rest r r' step' operations} :
      Reads fin .operand ts (.expr r) us →
      Reads fin (.tighterJoins precedence r) us (.expr r') (t :: vs) →
      t.chainStep? precedence = some step' →
      Reads fin (.chainSteps precedence step' t) vs (.steps operations) rest →
      Reads fin (.chainSteps precedence step operator) ts (.steps ((step, r') :: operations)) rest

namespace Reads

variable {fin : Option LexicalError} {ts rest : List Token} {a : Answer}

lemma stops_immediateJoins {left : Expr} (h : Reads fin (.immediateJoins left) ts a rest) :
    Stops fin Token.joinsAtOnce rest := by
  generalize hc : Call.immediateJoins left = c at h
  induction h generalizing left with
  | immediateStop hs => exact hs
  | immediateStep _ _ _ _ ih => exact ih rfl
  | _ => cases hc

lemma stops_tighterJoins {precedence : Nat} {left : Expr}
    (h : Reads fin (.tighterJoins precedence left) ts a rest) :
    Stops fin (Token.bindsTighter precedence) rest := by
  generalize hc : Call.tighterJoins precedence left = c at h
  induction h generalizing left with
  | tighterStop hs =>
    cases hc
    exact hs
  | tighterStep _ _ _ _ ih =>
    cases hc
    exact ih rfl
  | _ => cases hc

lemma stops_compound (h : Reads fin .compound ts a rest) :
    Stops fin Token.joinsAtOnce rest ∧ Stops fin Token.continues rest := by
  generalize hc : Call.compound = c at h
  induction h with
  | last _ he' hs => exact ⟨he'.stops_immediateJoins, hs⟩
  | textJoin _ _ _ _ _ _ ih => exact ih rfl
  | intersection _ _ _ _ _ ih => exact ih rfl
  | _ => cases hc

lemma stops_startsOperand (h : Reads fin .compound ts a rest) :
    Stops fin Token.startsOperand rest :=
  h.stops_compound.2.mono fun _ ht => (Bool.or_eq_false_iff.mp ht).2

lemma starts {c : Call} (h : Reads fin c ts a rest)
    (hc : c = .compound ∨ c = .operand ∨ c = .value) : ∃ t us, ts = t :: us ∧ t.startsOperand := by
  induction h with
  | last _ _ _ ih | textJoin _ _ _ _ ih | intersection _ _ _ ih => exact ih (.inr (.inl rfl))
  | plain _ ih => exact ih (.inr (.inr rfl))
  | negation ht | negative ht | brackets ht | bracketed ht | columns ht =>
    exact ⟨_, _, rfl, by rw [Token.startsOperand_of_symbol ht]; rfl⟩
  | literal ht | string ht | error ht | number ht =>
    refine ⟨_, _, rfl, Token.startsOperand_of_symbol?_eq_none ?_⟩
    rw [Token.symbol?, ht, Lexeme.symbol?]
    simp
  | _ => simp at hc

lemma suffix {c : Call} (h : Reads fin c ts a rest) : rest <:+ ts := by
  induction h with
  | last _ _ _ ih ih' => exact ih'.trans ih
  | textJoin _ _ _ _ ih ih' ih'' => exact (ih''.trans (List.suffix_cons _ _)).trans (ih'.trans ih)
  | intersection _ _ _ ih ih' ih'' => exact ih''.trans (ih'.trans ih)
  | plain _ ih => exact ih
  | negation _ _ _ ih | literal _ _ ih | columns _ _ ih | call _ _ ih | sheet _ _ _ ih
  | comma _ _ ih | range _ _ ih | text _ _ ih | maths _ _ _ ih =>
    exact ih.trans (List.suffix_cons _ _)
  | string | error | number | close | percent => exact List.suffix_cons _ _
  | negative | brackets => exact (List.suffix_cons _ _).trans (List.suffix_cons _ _)
  | bracketed _ _ _ ih =>
    exact ((List.suffix_cons _ _).trans ih).trans (List.suffix_cons _ _)
  | truth | cell | immediateStop | tighterStop => exact List.suffix_rfl
  | table _ _ _ ih => exact ih
  | item _ _ _ _ ih ih' | immediateStep _ _ _ ih ih' | tighterStep _ _ _ ih ih'
  | lastStep _ _ _ ih ih' => exact ih'.trans ih
  | comparison _ _ _ ih ih' => exact (ih'.trans ih).trans (List.suffix_cons _ _)
  | nextStep _ _ _ _ ih ih' ih'' =>
    exact (ih''.trans (List.suffix_cons _ _)).trans (ih'.trans ih)

lemma length_lt {c : Call} (h : Reads fin c ts a rest) (hc : c.takes) :
    rest.length < ts.length := by
  induction h with
  | last _ hj _ ih => exact Nat.lt_of_le_of_lt hj.suffix.length_le (ih rfl)
  | textJoin _ hj _ hr ih =>
    have hr := (hr.suffix.trans (List.suffix_cons _ _)).trans hj.suffix
    exact Nat.lt_of_le_of_lt hr.length_le (ih rfl)
  | intersection _ hj hr ih =>
    exact Nat.lt_of_le_of_lt (hr.suffix.trans hj.suffix).length_le (ih rfl)
  | plain _ ih => exact ih rfl
  | negation _ _ hr | literal _ hr | columns _ hr | range _ hr | text _ hr | maths _ _ hr =>
    exact Nat.lt_succ_of_le hr.suffix.length_le
  | bracketed _ hr =>
    exact Nat.lt_succ_of_le ((List.suffix_cons _ _).trans hr.suffix).length_le
  | comparison _ hr hj => exact Nat.lt_succ_of_le (hj.suffix.trans hr.suffix).length_le
  | string | error | number | percent => exact Nat.lt_succ_self _
  | negative | brackets => exact Nat.lt_succ_of_lt (Nat.lt_succ_self _)
  | _ => cases hc

lemma tail_suffix {c : Call} {t : Token} (h : Reads fin c (t :: ts) a rest) (hc : c.takes) :
    rest <:+ ts := by
  refine (List.suffix_cons_iff.mp h.suffix).resolve_left ?_
  rintro rfl
  exact Nat.lt_irrefl _ (h.length_lt hc)

end Reads

end Parser

end CellFormula
