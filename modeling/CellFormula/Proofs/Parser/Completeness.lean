import CellFormula.Proofs.Parser.Outcome

namespace CellFormula

namespace Parser

variable {α β : Type} {fin : Option LexicalError} {x : Parser α} {ts us rest : List Token}

def Exactly (a : α) (rest : List Token) (b : α) (us : List Token) : Prop := b = a ∧ us = rest

def Never (_ : Failure) (_ : List Token) : Prop := False

/-- Whatever the bound on the depth of its calls, the rule does not answer anything else. -/
def Gives (fin : Option LexicalError) (rule : Nat → Parser α) (ts : List Token) (a : α)
    (rest : List Token) : Prop :=
  ∀ n, Runs fin (rule n) ts (Exactly a rest) Never

lemma gives_of_succ {rule : Nat → Parser α} {a : α} (h0 : rule 0 = throw .defect)
    (h : ∀ n, Runs fin (rule (n + 1)) ts (Exactly a rest) Never) : Gives fin rule ts a rest := by
  intro n
  cases n with
  | zero =>
    rw [h0]
    exact runs_defect
  | succ n => exact h n

lemma Runs.done {a : α} {E : Failure → List Token → Prop} :
    Runs fin (Pure.pure a) ts (Exactly a ts) E := .pure ⟨rfl, rfl⟩

lemma Runs.exists_ok {a : α} {b : State} {Q : α → State → Prop}
    (h : Runs fin x ts (Exactly a rest) Never) (hb : b.rest = ts) (hf : b.source.failure = fin)
    (hx : Yields x b Q) : ∃ b', x b = .ok a b' := by
  have h := h b hb hf
  unfold Yields at hx
  cases hr : x b with
  | ok o b' =>
    rw [hr] at h
    exact ⟨b', by rw [h.2.1]⟩
  | error f b' =>
    rw [hr] at h hx
    exact (h.resolve_left hx).elim

section Steps

variable {f : α → Parser β} {g : Option Token → Parser β} {a : α}
  {Q : β → List Token → Prop} {E : Failure → List Token → Prop}

lemma Gives.bind {rule : Nat → Parser α} (hx : Gives fin rule ts a us) (n : Nat)
    (hf : Runs fin (f a) us Q Never) : Runs fin (rule n >>= f) ts Q Never := by
  refine (hx n).bind ?_
  rintro _ _ ⟨rfl, rfl⟩
  exact hf

lemma Runs.peek_stops {test : Token → Bool} (hs : Stops fin test ts)
    (hn : ts = [] → Runs fin (g none) ts Q E)
    (hc : ∀ t us, ts = t :: us → test t = false → Runs fin (g (some t)) ts Q E) :
    Runs fin (peek >>= g) ts Q E := by
  cases ts with
  | nil =>
    refine .peek_nil (fun e he => ?_) fun _ => hn rfl
    rw [hs.eq_none rfl] at he
    cases he
  | cons t ts => exact .peek_cons (hc t ts rfl hs)

end Steps

def Given (fin : Option LexicalError) : Call → List Token → Answer → List Token → Prop
  | .compound, ts, .expr e, rest =>
    ∀ pending, Gives fin (compound · pending) ts (some (Pending.closeAll pending e)) rest
  | .operand, ts, .expr e, rest => Gives fin operand ts (some e) rest
  | .value, ts, .expr e, rest => Gives fin value ts (some e) rest
  | .named name, ts, .expr e, rest => Gives fin (named · name) ts e rest
  | .items closer opener slot, ts, .list es, rest =>
    Gives fin (items · closer opener slot) ts es rest
  | .immediateJoins left, ts, .expr e, rest => Gives fin (immediateJoins · left) ts e rest
  | .tighterJoins precedence left, ts, .expr e, rest =>
    Gives fin (tighterJoins · precedence left) ts e rest
  | .join t left, ts, .expr e, rest => Gives fin (join · t left) ts e rest
  | .chainSteps precedence step operator, ts, .steps operations, rest =>
    Gives fin (chainSteps · precedence step operator) ts operations rest
  | _, _, _, _ => True

lemma symbol_of_startsOperand {t : Token} (h : t.startsOperand = false) :
    ∃ s, t.lexeme = .symbol s ∧ s ≠ .subtract ∧ s ≠ .openBracket ∧ s ≠ .openSquare := by
  obtain ⟨s, hs, hn⟩ := (Option.all_eq_false _ _).mp h
  simp only [Bool.or_eq_false_iff, beq_eq_false_iff_ne] at hn
  exact ⟨s, Token.symbol?_eq_some_iff.mp hs, hn.1.1, hn.1.2, hn.2⟩

lemma gives_value_none (hs : Stops fin Token.startsOperand ts) : Gives fin value ts none ts := by
  apply gives_of_succ rfl
  intro n
  simp only [value]
  refine .peek_stops hs (fun _ => .done) fun t us _ ht => ?_
  obtain ⟨s, ht, hminus, hround, hsquare⟩ := symbol_of_startsOperand ht
  dsimp only
  rw [ht]
  cases s <;> first | contradiction | exact .done

lemma gives_operand_none (hs : Stops fin Token.startsOperand ts) :
    Gives fin operand ts none ts := by
  apply gives_of_succ rfl
  intro n
  simp only [operand]
  refine (gives_value_none hs).bind n ?_
  refine .peek_stops hs (fun _ => .done) fun t us _ ht => ?_
  obtain ⟨s, ht, hminus, -⟩ := symbol_of_startsOperand ht
  dsimp only
  rw [if_neg (by simp [Token.isSymbol_of_symbol ht, hminus])]
  exact .done

lemma gives_value_of_minus {t : Token} (ht : t.lexeme = .symbol .subtract)
    (hs : Stops fin Token.isNumber ts) : Gives fin value (t :: ts) none (t :: ts) := by
  apply gives_of_succ rfl
  intro n
  simp only [value]
  apply Runs.peek_cons
  dsimp only
  rw [ht]
  dsimp only
  cases ts with
  | nil =>
    refine .peekSecond_last (fun e he => ?_) fun _ => .done
    rw [hs.eq_none rfl] at he
    cases he
  | cons u us =>
    apply Runs.peekSecond_cons
    rw [Option.map_some]
    cases hu : u.lexeme with
    | number | special => simp [Stops, Token.isNumber, Lexeme.isNumber, hu] at hs
    | _ => exact .done

section Compound

variable {e e' r : Expr}

lemma gives_compound_none (hs : Stops fin Token.startsOperand ts) (left : Expr)
    (pending : List Pending) : Gives fin (compound · (.intersection left :: pending)) ts
      (some (Pending.closeAll pending left)) ts := by
  apply gives_of_succ rfl
  intro n
  simp only [compound]
  exact (gives_operand_none hs).bind n .done

lemma gives_compound_absent (hs : Stops fin Token.startsOperand ts) :
    Gives fin (compound · []) ts none ts := by
  apply gives_of_succ rfl
  intro n
  simp only [compound]
  exact (gives_operand_none hs).bind n .done

lemma given_last (h : Given fin .operand ts (.expr e) us)
    (h' : Given fin (.immediateJoins e) us (.expr e') rest)
    (hs : Stops fin Token.continues rest) : Given fin .compound ts (.expr e') rest := by
  intro pending
  apply gives_of_succ rfl
  intro n
  simp only [compound]
  refine h.bind n (h'.bind n ?_)
  refine .peek_stops hs (fun _ => .done) fun t vs hr ht => ?_
  simp only [Token.continues, Bool.or_eq_false_iff] at ht
  dsimp only
  rw [if_neg (by simp [ht.1])]
  -- the parser tries an intersection, finds no right side and drops it again
  refine gives_compound_none ?_ e' pending n
  rw [hr]
  exact ht.2

lemma given_textJoin {t : Token} {vs : List Token} (h : Given fin .operand ts (.expr e) us)
    (h' : Given fin (.immediateJoins e) us (.expr e') (t :: vs))
    (ht : t.lexeme = .symbol .ampersand) (hr : Given fin .compound vs (.expr r) rest) :
    Given fin .compound ts (.expr (.textJoin e' r)) rest := by
  intro pending
  apply gives_of_succ rfl
  intro n
  simp only [compound]
  refine h.bind n (h'.bind n (.peek_cons ?_))
  dsimp only
  rw [if_pos (Token.isSymbol_iff.mpr ht)]
  exact .skip_cons (hr (.textJoin e' t :: pending) n)

lemma given_intersection {t : Token} {vs : List Token} (h : Given fin .operand ts (.expr e) us)
    (h' : Given fin (.immediateJoins e) us (.expr e') (t :: vs)) (ht : t.startsOperand)
    (hr : Given fin .compound (t :: vs) (.expr r) rest) :
    Given fin .compound ts (.expr (.intersection e' r)) rest := by
  intro pending
  apply gives_of_succ rfl
  intro n
  simp only [compound]
  refine h.bind n (h'.bind n (.peek_cons ?_))
  dsimp only
  have hn : t.isSymbol .ampersand = false := by
    rw [Bool.eq_false_iff]
    intro hn
    rw [Token.startsOperand_of_symbol (Token.isSymbol_iff.mp hn)] at ht
    cases ht
  rw [if_neg (by simp [hn])]
  exact hr (.intersection e' :: pending) n

end Compound

section Values

variable {t : Token} {e : Expr} {name : String}

lemma given_negation (ht : t.lexeme = .symbol .subtract) (hs : Stops fin Token.isNumber ts)
    (h : Given fin .operand ts (.expr e) rest) :
    Given fin .operand (t :: ts) (.expr (.chain [(.subtract, e)])) rest := by
  apply gives_of_succ rfl
  intro n
  simp only [operand]
  refine (gives_value_of_minus ht hs).bind n (.peek_cons ?_)
  dsimp only
  rw [if_pos (Token.isSymbol_iff.mpr ht)]
  exact .skip_cons (h.bind n (.expect_some .done))

lemma given_bracketed {c : Token} {inner : Option Expr} (ht : t.lexeme = .symbol .openBracket)
    (h : Gives fin (compound · []) ts inner (c :: rest)) (hc : c.lexeme = .symbol .closeBracket) :
    Given fin .value (t :: ts) (.expr (.bracketed (inner.getD .empty))) rest := by
  apply gives_of_succ rfl
  intro n
  simp only [value]
  apply Runs.peek_cons
  dsimp only
  rw [ht]
  refine .skip_cons (h.bind n (.next_cons ?_))
  dsimp only
  rw [if_pos (Token.isSymbol_iff.mpr hc)]
  exact .done

lemma given_plain (h : Given fin .value ts (.expr e) rest) :
    Given fin .operand ts (.expr e) rest := by
  apply gives_of_succ rfl
  intro n
  simp only [operand]
  exact h.bind n .done

lemma given_literal (ht : t.lexeme = .literal name)
    (h : Given fin (.named name) ts (.expr e) rest) :
    Given fin .value (t :: ts) (.expr e) rest := by
  apply gives_of_succ rfl
  intro n
  simp only [value]
  apply Runs.peek_cons
  dsimp only
  rw [ht]
  exact .skip_cons (.map ((h n).mono (fun _ _ h => ⟨congrArg some h.1, h.2⟩) fun _ _ h => h))

lemma given_string {text : String} (ht : t.lexeme = .string text) :
    Given fin .value (t :: rest) (.expr (.string text)) rest := by
  apply gives_of_succ rfl
  intro n
  simp only [value]
  apply Runs.peek_cons
  dsimp only
  rw [ht]
  exact .skip_cons .done

lemma given_error {code : ErrorCode} (ht : t.lexeme = .error code) :
    Given fin .value (t :: rest) (.expr (.error code)) rest := by
  apply gives_of_succ rfl
  intro n
  simp only [value]
  apply Runs.peek_cons
  dsimp only
  rw [ht]
  exact .skip_cons .done

lemma given_number {d : Decimal} (ht : t.lexeme = .number d) :
    Given fin .value (t :: rest) (.expr (.number d)) rest := by
  apply gives_of_succ rfl
  intro n
  simp only [value]
  apply Runs.peek_cons
  dsimp only
  rw [ht]
  exact .skip_cons .done

lemma given_columns {es : List Expr} (ht : t.lexeme = .symbol .openSquare)
    (h : Given fin (.items .closeSquare t .opening) ts (.list es) rest) :
    Given fin .value (t :: ts) (.expr (.ofColumns es)) rest := by
  apply gives_of_succ rfl
  intro n
  simp only [value]
  apply Runs.peek_cons
  dsimp only
  rw [ht]
  exact .skip_cons (h.bind n .done)

lemma given_negative {u : Token} {d : Decimal} (ht : t.lexeme = .symbol .subtract)
    (hu : u.lexeme = .number d) :
    Given fin .value (t :: u :: rest) (.expr (.number d.negate)) rest := by
  apply gives_of_succ rfl
  intro n
  simp only [value]
  apply Runs.peek_cons
  dsimp only
  rw [ht]
  refine .peekSecond_cons ?_
  rw [Option.map_some, hu]
  exact .skip_cons (.skip_cons .done)

lemma given_call {es : List Expr} (ht : t.lexeme = .symbol .openBracket)
    (h : Given fin (.items .closeBracket t .opening) ts (.list es) rest) :
    Given fin (.named name) (t :: ts) (.expr (.call name es)) rest := by
  apply gives_of_succ rfl
  intro n
  simp only [named]
  apply Runs.peek_cons
  dsimp only
  rw [Token.symbol?_eq_some_iff.mpr ht]
  exact .skip_cons (h.bind n .done)

lemma given_truth {b : Bool} (hn : truthValue? name = some b)
    (hs : Stops fin (Token.isSymbol · .openBracket) rest) :
    Given fin (.named name) rest (.expr (.boolean b)) rest := by
  apply gives_of_succ rfl
  intro n
  simp only [named]
  refine .peek_stops hs (fun _ => ?_) fun t us _ ht => ?_
  · rw [Expr.ofName, hn]
    exact .done
  · dsimp only
    rw [hn]
    split
    · rename_i hround
      simp [Token.isSymbol, hround] at ht
    · rename_i hb _
      cases hb
      exact .done
    all_goals contradiction

lemma given_sheet (hn : truthValue? name = none) (ht : t.lexeme = .symbol .bang)
    (h : Given fin .value ts (.expr e) rest) :
    Given fin (.named name) (t :: ts) (.expr (.sheet (.cell name) e)) rest := by
  apply gives_of_succ rfl
  intro n
  simp only [named]
  apply Runs.peek_cons
  dsimp only
  rw [Token.symbol?_eq_some_iff.mpr ht, hn]
  exact .skip_cons (h.bind n (.expect_some .done))

lemma given_table (hn : truthValue? name = none) (ht : t.lexeme = .symbol .openSquare)
    (h : Given fin .value (t :: ts) (.expr e) rest) :
    Given fin (.named name) (t :: ts) (.expr (.table name e)) rest := by
  apply gives_of_succ rfl
  intro n
  simp only [named]
  apply Runs.peek_cons
  dsimp only
  rw [Token.symbol?_eq_some_iff.mpr ht, hn]
  exact h.bind n (.expect_some .done)

lemma given_cell (hn : truthValue? name = none) (hs : Stops fin Token.qualifies rest) :
    Given fin (.named name) rest (.expr (.cell name)) rest := by
  apply gives_of_succ rfl
  intro n
  simp only [named]
  refine .peek_stops hs (fun _ => ?_) fun t us _ ht => ?_
  · rw [Expr.ofName, hn]
    exact .done
  · simp only [Token.qualifies, Token.isSymbol, Bool.or_eq_false_iff, beq_eq_false_iff_ne] at ht
    dsimp only
    rw [hn]
    split
    · exact absurd ‹_› ht.1.1
    · contradiction
    · exact absurd ‹_› ht.1.2
    · exact absurd ‹_› ht.2
    · exact .done

end Values

section Items

variable {closer : Symbol} {opener t : Token} {slot : Slot} {e : Expr} {es : List Expr}

lemma given_comma (ht : t.lexeme = .symbol .comma)
    (h : Given fin (.items closer opener .vacant) ts (.list es) rest) :
    Given fin (.items closer opener slot) (t :: ts) (.list (slot.beforeComma es)) rest := by
  apply gives_of_succ rfl
  intro n
  simp only [items]
  apply Runs.peek_cons
  dsimp only
  rw [if_pos (Token.isSymbol_iff.mpr ht)]
  exact .skip_cons (h.bind n .done)

lemma given_close (ht : t.lexeme = .symbol closer) (hc : closer ≠ .comma) :
    Given fin (.items closer opener slot) (t :: rest) (.list slot.beforeClose) rest := by
  apply gives_of_succ rfl
  intro n
  simp only [items]
  apply Runs.peek_cons
  dsimp only
  rw [if_neg (by simp [Token.isSymbol_of_symbol ht, hc]), if_pos (Token.isSymbol_iff.mpr ht)]
  exact .skip_cons .done

lemma given_item (hcomma : t.lexeme ≠ .symbol .comma) (hcloser : t.lexeme ≠ .symbol closer)
    (he : Given fin .compound (t :: ts) (.expr e) us)
    (h : Given fin (.items closer opener .filled) us (.list es) rest) :
    Given fin (.items closer opener slot) (t :: ts) (.list (e :: es)) rest := by
  apply gives_of_succ rfl
  intro n
  simp only [items]
  apply Runs.peek_cons
  dsimp only
  rw [if_neg (mt Token.isSymbol_iff.mp hcomma), if_neg (mt Token.isSymbol_iff.mp hcloser)]
  exact (he []).bind n (h.bind n .done)

end Items

section Joins

variable {t : Token} {s : Symbol} {left e e' r r' : Expr} {precedence : Nat} {step : Step}
  {operations : List (Step × Expr)}

lemma given_immediateStop (hs : Stops fin Token.joinsAtOnce rest) :
    Given fin (.immediateJoins left) rest (.expr left) rest := by
  apply gives_of_succ rfl
  intro n
  simp only [immediateJoins]
  refine .peek_stops hs (fun _ => .done) fun t us _ ht => ?_
  dsimp only
  rw [if_neg (by simp [ht])]
  exact .done

lemma given_immediateStep (ht : t.joinsAtOnce) (h : Given fin (.join t left) (t :: ts) (.expr e) us)
    (h' : Given fin (.immediateJoins e) us (.expr e') rest) :
    Given fin (.immediateJoins left) (t :: ts) (.expr e') rest := by
  apply gives_of_succ rfl
  intro n
  simp only [immediateJoins]
  apply Runs.peek_cons
  dsimp only
  rw [if_pos ht]
  exact h.bind n (h' n)

lemma given_tighterStop (hs : Stops fin (Token.bindsTighter precedence) rest) :
    Given fin (.tighterJoins precedence left) rest (.expr left) rest := by
  apply gives_of_succ rfl
  intro n
  simp only [tighterJoins]
  refine .peek_stops hs (fun _ => .done) fun t us _ ht => ?_
  dsimp only
  rw [if_neg (by simp [ht])]
  exact .done

lemma given_tighterStep (ht : t.bindsTighter precedence)
    (h : Given fin (.join t left) (t :: ts) (.expr e) us)
    (h' : Given fin (.tighterJoins precedence e) us (.expr e') rest) :
    Given fin (.tighterJoins precedence left) (t :: ts) (.expr e') rest := by
  apply gives_of_succ rfl
  intro n
  simp only [tighterJoins]
  apply Runs.peek_cons
  dsimp only
  rw [if_pos ht]
  exact h.bind n (h' n)

lemma given_range (ht : t.lexeme = .symbol .colon) (h : Given fin .value ts (.expr r) rest) :
    Given fin (.join t left) (t :: ts) (.expr (.range left r)) rest := by
  apply gives_of_succ rfl
  intro n
  simp only [join]
  rw [Token.symbol?_eq_some_iff.mpr ht]
  exact .skip_cons (h.bind n (.expect_some .done))

lemma given_percent (ht : t.lexeme = .symbol .percent) :
    Given fin (.join t left) (t :: rest) (.expr (.chain [(.percent, left)])) rest := by
  apply gives_of_succ rfl
  intro n
  simp only [join]
  rw [Token.symbol?_eq_some_iff.mpr ht]
  exact .skip_cons .done

lemma given_text (ht : t.lexeme = .symbol .ampersand)
    (h : Given fin .compound ts (.expr r) rest) :
    Given fin (.join t left) (t :: ts) (.expr (.textJoin left r)) rest := by
  apply gives_of_succ rfl
  intro n
  simp only [join]
  rw [Token.symbol?_eq_some_iff.mpr ht]
  exact .skip_cons ((h []).bind n (.expect_some .done))

lemma given_maths (ht : t.lexeme = .symbol s) (hs : Step.ofSymbol? s = some step)
    (h : Given fin (.chainSteps s.precedence step t) ts (.steps operations) rest) :
    Given fin (.join t left) (t :: ts) (.expr (.chain ((.start, left) :: operations))) rest := by
  apply gives_of_succ rfl
  intro n
  simp only [join]
  rw [Token.symbol?_eq_some_iff.mpr ht]
  cases s <;> cases hs <;> exact .skip_cons (h.bind n .done)

lemma given_comparison {op : Comparator} (ht : t.lexeme = .symbol op.symbol)
    (h : Given fin .operand ts (.expr r) us)
    (h' : Given fin (.tighterJoins op.symbol.precedence r) us (.expr r') rest) :
    Given fin (.join t left) (t :: ts) (.expr (.comparison op left r')) rest := by
  apply gives_of_succ rfl
  intro n
  simp only [join]
  rw [Token.symbol?_eq_some_iff.mpr ht]
  cases op <;> exact .skip_cons (h.bind n (.expect_some (h'.bind n .done)))

lemma given_lastStep {operator : Token} (h : Given fin .operand ts (.expr r) us)
    (h' : Given fin (.tighterJoins precedence r) us (.expr r') rest)
    (hs : Stops fin (fun t => (t.chainStep? precedence).isSome) rest) :
    Given fin (.chainSteps precedence step operator) ts (.steps [(step, r')]) rest := by
  apply gives_of_succ rfl
  intro n
  simp only [chainSteps]
  refine h.bind n (.expect_some (h'.bind n ?_))
  refine .peek_stops hs (fun _ => .done) fun t us _ ht => ?_
  dsimp only
  rw [Option.isSome_eq_false_iff, Option.isNone_iff_eq_none] at ht
  rw [ht]
  exact .done

lemma given_nextStep {operator : Token} {vs : List Token} {step' : Step}
    (h : Given fin .operand ts (.expr r) us)
    (h' : Given fin (.tighterJoins precedence r) us (.expr r') (t :: vs))
    (ht : t.chainStep? precedence = some step')
    (ho : Given fin (.chainSteps precedence step' t) vs (.steps operations) rest) :
    Given fin (.chainSteps precedence step operator) ts (.steps ((step, r') :: operations))
      rest := by
  apply gives_of_succ rfl
  intro n
  simp only [chainSteps]
  refine h.bind n (.expect_some (h'.bind n (.peek_cons ?_)))
  dsimp only
  rw [ht]
  exact .skip_cons (ho.bind n .done)

end Joins

theorem given_of_reads {c : Call} {a : Answer} (h : Reads fin c ts a rest) :
    Given fin c ts a rest := by
  induction h with
  | last _ _ hs ih ih' => exact given_last ih ih' hs
  | textJoin _ _ ht _ ih ih' ih'' => exact given_textJoin ih ih' ht ih''
  | intersection _ _ hr ih ih' ih'' =>
    obtain ⟨t, vs, rfl, ht⟩ := hr.starts (.inl rfl)
    exact given_intersection ih ih' ht ih''
  | plain _ ih => exact given_plain ih
  | negation ht hs _ ih => exact given_negation ht hs ih
  | literal ht _ ih => exact given_literal ht ih
  | string ht => exact given_string ht
  | error ht => exact given_error ht
  | number ht => exact given_number ht
  | negative ht hn => exact given_negative ht hn
  | brackets ht hc =>
    exact given_bracketed ht (gives_compound_absent (Token.startsOperand_of_symbol hc)) hc
  | bracketed ht _ hc ih => exact given_bracketed ht (ih []) hc
  | columns ht _ ih => exact given_columns ht ih
  | call ht _ ih => exact given_call ht ih
  | truth hn hs => exact given_truth hn hs
  | sheet hn ht _ ih => exact given_sheet hn ht ih
  | table hn ht _ ih => exact given_table hn ht ih
  | cell hn hs => exact given_cell hn hs
  | comma ht _ ih => exact given_comma ht ih
  | close ht hc => exact given_close ht hc
  | item hcomma hcloser _ _ ih ih' => exact given_item hcomma hcloser ih ih'
  | immediateStop hs => exact given_immediateStop hs
  | immediateStep ht _ _ ih ih' => exact given_immediateStep ht ih ih'
  | tighterStop hs => exact given_tighterStop hs
  | tighterStep ht _ _ ih ih' => exact given_tighterStep ht ih ih'
  | range ht _ ih => exact given_range ht ih
  | percent ht => exact given_percent ht
  | text ht _ ih => exact given_text ht ih
  | maths ht hs _ ih => exact given_maths ht hs ih
  | comparison ht _ _ ih ih' => exact given_comparison ht ih ih'
  | lastStep _ _ hs ih ih' => exact given_lastStep ih ih' hs
  | nextStep _ _ ht _ ih ih' ih'' => exact given_nextStep ih ih' ht ih''

end Parser

namespace Formula

open CellFormula.Parser

theorem parseTokens_eq_some_iff {ts : List Token} {e : Expr} :
    parseTokens (.ofList ts) = .ok (some e) ↔ Reads none .compound ts (.expr e) [] := by
  refine ⟨fun h => (reads_of_parseTokens h).2, fun h => ?_⟩
  obtain ⟨t, us, rfl, -⟩ := h.starts (.inl rfl)
  have hr : Runs none formula (t :: us) (Exactly (some e) []) Never := by
    simp only [formula]
    refine .peek_cons (Runs.bind (P := Exactly (some e) []) (E := Never) ?_ ?_)
    · exact fun b => given_of_reads h [] (depth b.unread) b
    · rintro _ _ ⟨rfl, rfl⟩
      refine .peek_nil (fun e he => ?_) fun _ => .done
      cases he
  obtain ⟨b, hb⟩ := hr.exists_ok (b := .ofSource (.ofList (t :: us))) rfl rfl (yields_formula _)
  simp only [parseTokens, run, hb, outcome]

end Formula

end CellFormula
