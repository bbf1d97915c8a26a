import CellFormula.Proofs.Parser.Copies

/-! Whether the brackets of a stream are nested and closed, and what is said of them when it is
refused. Reading goes through the brackets as a stack of the closing ones that are awaited. -/

namespace CellFormula

namespace Symbol

def closer? : Symbol → Option Symbol
  | openBracket => some closeBracket
  | openSquare => some closeSquare
  | _ => none

inductive Nested : List Symbol → Prop
  | nil : Nested []
  | enclose {opener closer inner rest} : opener.closer? = some closer → Nested inner →
      Nested rest → Nested (opener :: (inner ++ closer :: rest))

def meets : List Symbol → List Symbol → Bool
  | awaited, [] => awaited.isEmpty
  | awaited, s :: ss =>
    match s.closer? with
    | some closer => meets (closer :: awaited) ss
    | none => awaited.head? == some s && meets awaited.tail ss

variable {s s' : Symbol} {ss more awaited : List Symbol}

lemma meets_open (h : s.closer? = some s') :
    meets awaited (s :: ss) = meets (s' :: awaited) ss := by
  rw [meets, h]

lemma meets_close (h : s.isClose) :
    meets awaited (s :: ss) = (awaited.head? == some s && meets awaited.tail ss) := by
  have hs : s.closer? = none := by
    revert h
    cases s <;> decide
  rw [meets, hs]

lemma isClose_of_closer? (h : s.closer? = some s') : s'.isClose := by
  revert h
  cases s <;> rintro ⟨⟩ <;> rfl

lemma Nested.meets_append (h : Nested ss) : meets awaited (ss ++ more) = meets awaited more := by
  induction h generalizing awaited more with
  | nil => rfl
  | enclose hs _ _ ih ih' =>
    rw [List.cons_append, meets_open hs, List.append_assoc, ih, List.cons_append,
      meets_close (isClose_of_closer? hs), List.head?_cons, beq_self_eq_true, Bool.true_and,
      List.tail_cons, ih']

lemma Nested.meets (h : Nested ss) : Symbol.meets [] ss := by
  have hs : Symbol.meets [] (ss ++ []) = Symbol.meets [] [] := h.meets_append
  rw [← List.append_nil ss, hs]
  rfl

end Symbol

lemma isBracket_of_step {s : Symbol} {step : Step} (h : Step.ofSymbol? s = some step) :
    s.isBracket = false := by
  revert h
  cases s <;> simp [Step.ofSymbol?, Symbol.isBracket]

lemma isBracket_comparator (op : Comparator) : op.symbol.isBracket = false := by
  cases op <;> rfl

def Token.bracket? (t : Token) : Option Symbol := t.symbol?.filter Symbol.isBracket

namespace Parser

variable {fin : Option LexicalError} {all ts us rest : List Token} {c d : Call} {a : Answer}
  {t : Token} {s closer : Symbol} {awaited : List Symbol} {cause : ParseCause}

def brackets (ts : List Token) : List Symbol := ts.filterMap Token.bracket?

def Meets (awaited : List Symbol) (ts : List Token) : Prop := Symbol.meets awaited (brackets ts)

lemma bracket?_of_symbol (ht : t.lexeme = .symbol s) :
    t.bracket? = if s.isBracket then some s else none := by
  rw [Token.bracket?, Token.symbol?_eq_some_iff.mpr ht, Option.filter_some]

lemma meets_cons_of_none (ht : t.bracket? = none) :
    Meets awaited (t :: ts) ↔ Meets awaited ts := by
  rw [Meets, brackets, List.filterMap_cons_none ht, Meets, brackets]

lemma meets_cons_of_symbol (ht : t.lexeme = .symbol s) (hs : s.isBracket = false) :
    Meets awaited (t :: ts) ↔ Meets awaited ts :=
  meets_cons_of_none (by rw [bracket?_of_symbol ht, hs, if_neg Bool.false_ne_true])

lemma meets_cons_of_lexeme {l : Lexeme} (ht : t.lexeme = l) (hl : l.symbol? = none) :
    Meets awaited (t :: ts) ↔ Meets awaited ts :=
  meets_cons_of_none (by rw [Token.bracket?, Token.symbol?, ht, hl, Option.filter_none])

lemma meets_cons_open (ht : t.lexeme = .symbol s) (hs : s.closer? = some closer) :
    Meets awaited (t :: ts) ↔ Meets (closer :: awaited) ts := by
  have hb : t.bracket? = some s := by
    rw [bracket?_of_symbol ht, if_pos]
    revert hs
    cases s <;> simp [Symbol.closer?, Symbol.isBracket]
  rw [Meets, brackets, List.filterMap_cons_some hb, Symbol.meets_open hs, Meets, brackets]

lemma meets_cons_close (ht : t.lexeme = .symbol s) (hs : s.isClose) :
    Meets awaited (t :: ts) ↔ awaited.head? = some s ∧ Meets awaited.tail ts := by
  have hb : t.bracket? = some s := by
    rw [bracket?_of_symbol ht, if_pos]
    revert hs
    cases s <;> decide
  rw [Meets, brackets, List.filterMap_cons_some hb, Symbol.meets_close hs, Bool.and_eq_true,
    beq_iff_eq, Meets, brackets]

lemma meets_cons_awaited (ht : t.lexeme = .symbol s) (hs : s.isClose) :
    Meets (s :: awaited) (t :: ts) ↔ Meets awaited ts := by
  rw [meets_cons_close ht hs, List.head?_cons, List.tail_cons, eq_self, true_and]

lemma meets_cons_of_chainStep {precedence : Nat} {step : Step}
    (ht : t.chainStep? precedence = some step) : Meets awaited (t :: ts) ↔ Meets awaited ts := by
  obtain ⟨s, hs, -, hstep⟩ := Token.chainStep?_eq_some_iff.mp ht
  exact meets_cons_of_symbol hs (isBracket_of_step hstep)

def Call.awaits : Call → List Symbol
  | items closer .. => [closer]
  | _ => []

-- The induction is on the derivation. A call goes through nested brackets and leaves what is
-- awaited as it was.
theorem meets_of_reads (h : Reads fin c ts a rest) (hc : c.Closes) (awaited : List Symbol) :
    Meets (c.awaits ++ awaited) ts ↔ Meets awaited rest := by
  induction h generalizing awaited with
  | last _ _ _ ih ih' => exact (ih trivial awaited).trans (ih' trivial awaited)
  | textJoin _ _ ht _ ih ih' ih'' =>
    exact (ih trivial awaited).trans ((ih' trivial awaited).trans
      ((meets_cons_of_symbol ht rfl).trans (ih'' trivial awaited)))
  | intersection _ _ _ ih ih' ih'' =>
    exact (ih trivial awaited).trans ((ih' trivial awaited).trans (ih'' trivial awaited))
  | plain _ ih => exact ih trivial awaited
  | negation ht _ _ ih | sheet _ ht _ ih | range ht _ ih | text ht _ ih =>
    exact (meets_cons_of_symbol ht rfl).trans (ih trivial awaited)
  | literal ht _ ih => exact (meets_cons_of_lexeme ht rfl).trans (ih trivial awaited)
  | string ht | error ht | number ht => exact meets_cons_of_lexeme ht rfl
  | negative ht hu => exact (meets_cons_of_symbol ht rfl).trans (meets_cons_of_lexeme hu rfl)
  | brackets ht ht' => exact (meets_cons_open ht rfl).trans (meets_cons_awaited ht' rfl)
  | bracketed ht _ ht' ih =>
    exact (meets_cons_open ht rfl).trans ((ih trivial _).trans (meets_cons_awaited ht' rfl))
  | columns ht _ ih | call ht _ ih => exact (meets_cons_open ht rfl).trans (ih rfl awaited)
  | truth | cell | immediateStop | tighterStop => exact Iff.rfl
  | table _ _ _ ih => exact ih trivial awaited
  | comma ht _ ih => exact (meets_cons_of_symbol ht rfl).trans (ih hc awaited)
  | close ht => exact meets_cons_awaited ht hc
  | item _ _ _ _ ih ih' => exact (ih trivial _).trans (ih' hc awaited)
  | immediateStep _ _ _ ih ih' | tighterStep _ _ _ ih ih' | lastStep _ _ _ ih ih' =>
    exact (ih trivial awaited).trans (ih' trivial awaited)
  | percent ht => exact meets_cons_of_symbol ht rfl
  | maths ht hs _ ih =>
    exact (meets_cons_of_symbol ht (isBracket_of_step hs)).trans (ih trivial awaited)
  | @comparison _ _ _ _ op _ _ _ ht _ _ ih ih' =>
    exact (meets_cons_of_symbol ht (isBracket_comparator op)).trans
      ((ih trivial awaited).trans (ih' trivial awaited))
  | nextStep _ _ ht _ ih ih' ih'' =>
    exact (ih trivial awaited).trans ((ih' trivial awaited).trans
      ((meets_cons_of_chainStep ht).trans (ih'' trivial awaited)))

lemma meets_of_enters (he : Enters fin c ts d us) (hc : c.Closes)
    (h : Meets (c.awaits ++ awaited) ts) : ∃ awaited, Meets (d.awaits ++ awaited) us := by
  cases he with
  | operand | value | table | item | immediate | tighter | step => exact ⟨_, h⟩
  | joins hr | immediateNext _ hr | tighterNext _ hr | stepJoins hr =>
    exact ⟨awaited, (meets_of_reads hr trivial awaited).mp h⟩
  | textJoin hr hj ht =>
    have h := (meets_of_reads hj trivial awaited).mp ((meets_of_reads hr trivial awaited).mp h)
    exact ⟨awaited, (meets_cons_of_symbol ht rfl).mp h⟩
  | intersection hr hj =>
    exact ⟨awaited, (meets_of_reads hj trivial _).mp ((meets_of_reads hr trivial awaited).mp h)⟩
  | negation ht | sheet _ ht | comma ht | range ht | text ht =>
    exact ⟨awaited, (meets_cons_of_symbol ht rfl).mp h⟩
  | literal ht => exact ⟨awaited, (meets_cons_of_lexeme ht rfl).mp h⟩
  | bracketed ht => exact ⟨_, (meets_cons_open ht rfl).mp h⟩
  | columns ht | call ht => exact ⟨awaited, (meets_cons_open ht rfl).mp h⟩
  | items _ _ hr => exact ⟨awaited, (meets_of_reads hr trivial _).mp h⟩
  | maths ht hs => exact ⟨awaited, (meets_cons_of_symbol ht (isBracket_of_step hs)).mp h⟩
  | @comparison op _ _ _ ht =>
    exact ⟨awaited, (meets_cons_of_symbol ht (isBracket_comparator op)).mp h⟩
  | @comparisonJoins op _ _ _ _ _ ht hr =>
    have h := (meets_cons_of_symbol ht (isBracket_comparator op)).mp h
    exact ⟨awaited, (meets_of_reads hr trivial awaited).mp h⟩
  | nextStep hr hj ht =>
    have h := (meets_of_reads hj trivial awaited).mp ((meets_of_reads hr trivial awaited).mp h)
    exact ⟨awaited, (meets_cons_of_chainStep ht).mp h⟩

/-- A round bracket is said not to be closed: in it stands a formula, or nothing, and then a token
that is no bracket. -/
def Interrupted (all : List Token) (cause : ParseCause) : Prop :=
  ∃ before opener inner t after, all = before ++ opener :: (inner ++ t :: after) ∧
    cause = .unclosed opener ∧ opener.lexeme = .symbol .openBracket ∧
    (∃ o, Formula.parseTokens (.ofList inner) = .ok o) ∧ t.bracket? = none

lemma not_meets_or_exists (hs : Stops fin Token.startsOperand us)
    (hc : Stops fin (Token.isSymbol · .closeBracket) us) :
    (∀ awaited, ¬ Meets (.closeBracket :: awaited) us) ∨
      ∃ t after, us = t :: after ∧ t.bracket? = none := by
  cases us with
  | nil => exact .inl fun awaited h => by cases h
  | cons t after =>
    cases hb : t.bracket? with
    | none => exact .inr ⟨t, after, rfl, hb⟩
    | some s =>
      obtain ⟨ht, hb⟩ := Option.filter_eq_some_iff.mp hb
      have ht := Token.symbol?_eq_some_iff.mp ht
      have hs : t.startsOperand = false := hs
      have hc : t.isSymbol .closeBracket = false := hc
      rw [Token.startsOperand_of_symbol ht] at hs
      rw [Token.isSymbol_of_symbol ht] at hc
      obtain rfl : s = .closeSquare := by
        revert hs hc hb
        cases s <;> decide
      exact .inl fun awaited h => by cases ((meets_cons_close ht rfl).mp h).1

lemma fault_lack (need : Need) (t : Token) :
    (ParseCause.lack need t ts).fault ≠ .unbalancedBracket := by
  cases ts <;> simp [ParseCause.lack, ParseCause.fault]

lemma exists_isClose_of_ofStray (h : (ParseCause.ofStray t cause).fault = .unbalancedBracket)
    (hc : cause.fault ≠ .unbalancedBracket) : ∃ s, t.lexeme = .symbol s ∧ s.isClose := by
  rw [ParseCause.ofStray] at h
  split at h
  · rename_i ht
    obtain ⟨s, hs, hclose⟩ := (Option.any_eq_true _ _).mp ht
    exact ⟨s, Token.symbol?_eq_some_iff.mp hs, hclose⟩
  · exact (hc h).elim

lemma not_meets_of_raises (hr : Raises fin c ts (.syntactic cause) rest) (hc : c.Closes)
    (hf : cause.fault = .unbalancedBracket) (hs : ts <:+ all) :
    (∀ awaited, ¬ Meets (c.awaits ++ awaited) ts) ∨ Interrupted all cause := by
  cases hr with
  | textJoin | negation | sheet | range | text | comparison | step =>
    exact (fault_lack _ _ hf).elim
  | @brackets t _ ht hstarts hclose =>
    rcases not_meets_or_exists hstarts hclose with h | ⟨u, after, rfl, hu⟩
    · exact .inl fun awaited h' => h awaited ((meets_cons_open ht rfl).mp h')
    · obtain ⟨before, rfl⟩ := hs
      exact .inr ⟨before, t, [], u, after, rfl, rfl, ht, ⟨none, rfl⟩, hu⟩
  | @bracketed t _ _ e ht hr hclose =>
    rcases not_meets_or_exists hr.stops_startsOperand hclose with h | ⟨u, after, rfl, hu⟩
    · exact .inl fun awaited h' =>
        h awaited ((meets_of_reads hr trivial _).mp ((meets_cons_open ht rfl).mp h'))
    · obtain ⟨before, rfl⟩ := hs
      obtain ⟨inner, rfl⟩ := hr.suffix
      have hnil : Separated none [] := rfl
      have hi := reads_of_replaces (fun _ ht _ => hnil.stops ht) hr
      rw [List.append_nil] at hi
      exact .inr ⟨before, t, inner, u, after, rfl, rfl, ht,
        ⟨some e, Formula.parseTokens_eq_some_iff.mpr hi⟩, hu⟩
  | unclosedList => exact .inl fun awaited h => by cases h
  | strayInList _ hcloser =>
    obtain ⟨s, hs, hclose⟩ := exists_isClose_of_ofStray hf (by simp [ParseCause.fault])
    refine .inl fun awaited h => hcloser ?_
    rw [hs, Option.some.inj ((meets_cons_close hs hclose).mp h).1]

theorem not_meets_of_fails {f : Failure} (hr : Fails fin c ts f rest) (hc : c.Closes)
    (h : f = .syntactic cause) (hf : cause.fault = .unbalancedBracket) (hs : ts <:+ all) :
    (∀ awaited, ¬ Meets (c.awaits ++ awaited) ts) ∨ Interrupted all cause := by
  induction hr with
  | raise hr =>
    subst h
    exact not_meets_of_raises hr hc hf hs
  | enter he _ ih =>
    refine (ih (hc.enter he) h (he.suffix.trans hs)).imp_left fun hn awaited h' => ?_
    obtain ⟨awaited, h'⟩ := meets_of_enters he hc h'
    exact hn awaited h'

theorem not_meets_of_rejects (hr : Rejects fin ts (.syntactic cause) rest)
    (hf : cause.fault = .unbalancedBracket) : ¬ Meets [] ts ∨ Interrupted ts cause := by
  generalize h : Failure.syntactic cause = f at hr
  cases hr with
  | lexical => cases h
  | fails hr =>
    exact (not_meets_of_fails hr trivial h.symm hf List.suffix_rfl).imp_left fun hn => hn []
  | leftover hr =>
    cases h
    obtain ⟨s, hs, hclose⟩ := exists_isClose_of_ofStray hf (by simp [ParseCause.fault])
    refine .inl fun h => ?_
    cases ((meets_cons_close hs hclose).mp ((meets_of_reads hr trivial []).mp h)).1
  | stray =>
    cases h
    obtain ⟨s, hs, hclose⟩ := exists_isClose_of_ofStray hf (by simp [ParseCause.fault])
    exact .inl fun h => by cases ((meets_cons_close hs hclose).mp h).1

end Parser

namespace Formula

open CellFormula.Parser

variable {source : Source Token LexicalError} {cause : ParseCause}

theorem not_nested_or_interrupted (h : parseTokens source = .error (.syntactic cause))
    (hf : cause.fault = .unbalancedBracket) :
    ¬ Symbol.Nested (brackets source.items) ∨ Interrupted source.items cause := by
  obtain ⟨rest, hr⟩ := rejects_of_parseTokens h
  exact (not_meets_of_rejects hr hf).imp_left fun hn hb => hn hb.meets

-- `(A]`
theorem not_nested_mismatched : ∃ source cause, parseTokens source = .error (.syntactic cause) ∧
    cause.fault = .unbalancedBracket ∧ brackets source.items = [.openBracket, .closeSquare] ∧
    (¬ Symbol.Nested (brackets source.items) ∨ Interrupted source.items cause) := by
  refine ⟨.ofList [⟨.symbol .openBracket, 0, 1⟩, ⟨.literal "A", 1, 2⟩,
    ⟨.symbol .closeSquare, 2, 3⟩], _, rfl, rfl, rfl, ?_⟩
  exact not_nested_or_interrupted rfl rfl

theorem unbalanced_by_comma : ¬ ∀ source cause, parseTokens source = .error (.syntactic cause) →
    cause.fault = .unbalancedBracket → ¬ Symbol.Nested (brackets source.items) := by
  intro h
  -- `(A,B)`
  refine h (.ofList [⟨.symbol .openBracket, 0, 1⟩, ⟨.literal "A", 1, 2⟩, ⟨.symbol .comma, 2, 3⟩,
    ⟨.literal "B", 3, 4⟩, ⟨.symbol .closeBracket, 4, 5⟩]) _ rfl rfl ?_
  exact .enclose rfl .nil .nil

end Formula

end CellFormula
