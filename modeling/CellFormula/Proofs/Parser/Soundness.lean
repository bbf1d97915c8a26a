import CellFormula.Proofs.Parser.Refusal

namespace CellFormula.Parser

variable {α : Type} {fin : Option LexicalError} {n : Nat} {t : Token} {ts : List Token}

def Answers (fin : Option LexicalError) (c : Call) (ts : List Token) (Absent : Prop) :
    Option Expr → List Token → Prop
  | none, rest => rest = ts ∧ Absent
  | some e, rest => Reads fin c ts (.expr e) rest

def Closes (fin : Option LexicalError) (pending : List Pending) (ts : List Token) :
    Option Expr → List Token → Prop
  | none, rest => rest = ts ∧ pending = [] ∧ Stops fin Token.startsOperand ts
  | some r, rest =>
    (∃ e, Reads fin .compound ts (.expr e) rest ∧ r = Pending.closeAll pending e) ∨
      (rest = ts ∧ Stops fin Token.startsOperand ts ∧
        ∃ left waiting, pending = .intersection left :: waiting ∧ r = Pending.closeAll waiting left)

def Breaks (fin : Option LexicalError) (pending : List Pending) (ts : List Token) (f : Failure)
    (rest : List Token) : Prop :=
  Fails fin .compound ts f rest ∨
    (rest = ts ∧ Stops fin Token.startsOperand ts ∧ ∃ left ampersand waiting,
      pending = .textJoin left ampersand :: waiting ∧
        f = .syntactic (.lack .textJoin ampersand ts))

structure Derived (fin : Option LexicalError) (n : Nat) : Prop where
  compound : ∀ pending ts,
    Runs fin (compound n pending) ts (Closes fin pending ts) (Breaks fin pending ts)
  operand : ∀ ts, Runs fin (operand n) ts
    (Answers fin .operand ts (Stops fin Token.startsOperand ts)) (Fails fin .operand ts)
  value : ∀ ts, Runs fin (value n) ts
    (Answers fin .value ts (LacksValue fin ts)) (Fails fin .value ts)
  named : ∀ name ts, Runs fin (named n name) ts
    (fun e rest => Reads fin (.named name) ts (.expr e) rest) (Fails fin (.named name) ts)
  items : ∀ closer opener slot ts, Runs fin (items n closer opener slot) ts
    (fun es rest => Reads fin (.items closer opener slot) ts (.list es) rest)
    (Fails fin (.items closer opener slot) ts)
  immediateJoins : ∀ left ts, Runs fin (immediateJoins n left) ts
    (fun e rest => Reads fin (.immediateJoins left) ts (.expr e) rest)
    (Fails fin (.immediateJoins left) ts)
  tighterJoins : ∀ precedence left ts, Runs fin (tighterJoins n precedence left) ts
    (fun e rest => Reads fin (.tighterJoins precedence left) ts (.expr e) rest)
    (Fails fin (.tighterJoins precedence left) ts)
  join : ∀ t left ts, Runs fin (join n t left) (t :: ts)
    (fun e rest => Reads fin (.join t left) (t :: ts) (.expr e) rest)
    (Fails fin (.join t left) (t :: ts))
  chainSteps : ∀ precedence step operator ts, Runs fin (chainSteps n precedence step operator) ts
    (fun operations rest =>
      Reads fin (.chainSteps precedence step operator) ts (.steps operations) rest)
    (Fails fin (.chainSteps precedence step operator) ts)

lemma Stops.eq_none {test : Token → Bool} (h : Stops fin test ts) (hn : ts = []) : fin = none := by
  subst hn
  exact h

lemma LacksValue.eq_none (h : LacksValue fin ts) (hn : ts = []) : fin = none := by
  subst hn
  exact h

lemma fails_lexical {c : Call} (hc : c.looks) (e : LexicalError) (he : fin = some e) :
    Fails fin c [] (.lexical e) [] :=
  .raise (.lexical hc he)

lemma runs_expect_none {need : Need} {after : Token} {Q : Expr → List Token → Prop}
    {E : Failure → List Token → Prop} (hf : ts = [] → fin = none)
    (h : E (.syntactic (.lack need after ts)) ts) :
    Runs fin (expect need after none) ts Q E := by
  cases ts with
  | nil =>
    refine Runs.peek_nil (fun e he => ?_) fun _ => runs_refuse h
    rw [hf rfl] at he
    cases he
  | cons t ts => exact .peek_cons (runs_refuse h)

section Expect

variable {β : Type} {need : Need} {after : Token} {f : Expr → Parser β}
  {Q : β → List Token → Prop} {E : Failure → List Token → Prop}

lemma Runs.expect_none (hf : ts = [] → fin = none) (h : E (.syntactic (.lack need after ts)) ts) :
    Runs fin (expect need after none >>= f) ts Q E :=
  Runs.bind (P := fun _ _ => False) (runs_expect_none hf h) fun _ _ h => h.elim

lemma Runs.expect_some {e : Expr} (h : Runs fin (f e) ts Q E) :
    Runs fin (expect need after (some e) >>= f) ts Q E := by
  refine Runs.bind (P := fun a rest => a = e ∧ rest = ts) (.pure ⟨rfl, rfl⟩) ?_
  rintro _ _ ⟨rfl, rfl⟩
  exact h

end Expect

lemma compound_derived (ih : Derived fin n) (pending : List Pending) (ts : List Token) :
    Runs fin (compound (n + 1) pending) ts (Closes fin pending ts) (Breaks fin pending ts) := by
  simp only [compound]
  refine Runs.bind ((ih.operand ts).mono (fun _ _ h => h) fun _ _ h => .inl (.enter .operand h)) ?_
  rintro (_ | e) us he
  · obtain ⟨rfl, hs⟩ := he
    rcases pending with _ | ⟨⟨left, ampersand⟩ | left, waiting⟩
    · exact .pure ⟨rfl, rfl, hs⟩
    · exact .map (runs_expect_none hs.eq_none (.inr ⟨rfl, hs, left, ampersand, waiting, rfl, rfl⟩))
    · exact .pure (.inr ⟨rfl, hs, left, waiting, rfl, rfl⟩)
  · refine Runs.bind ((ih.immediateJoins e us).mono (fun _ _ h => h)
      fun _ _ h => .inl (.enter (.joins he) h)) ?_
    rintro e' (_ | ⟨t, vs⟩) he'
    · have hf := he'.stops_immediateJoins
      refine .peek_nil (fun f hf' => ?_) fun _ => .pure (.inl ⟨e', .last he he' hf, rfl⟩)
      rw [hf.eq_none rfl] at hf'
      cases hf'
    · apply Runs.peek_cons
      dsimp only
      split
      · rename_i ht
        rw [Token.isSymbol_iff] at ht
        refine .skip_cons ((ih.compound _ vs).mono ?_ ?_)
        · rintro (_ | r) rest hr
          · obtain ⟨-, h, -⟩ := hr
            cases h
          · rcases hr with ⟨r, hr, rfl⟩ | ⟨-, -, _, _, h, -⟩
            · exact .inl ⟨_, .textJoin he he' ht hr, rfl⟩
            · cases h
        · rintro f rest (hr | ⟨rfl, hs, _, _, _, h, rfl⟩)
          · exact .inl (.enter (.textJoin he he' ht) hr)
          · cases h
            exact .inl (.raise (.textJoin he he' ht hs))
      · rename_i ht
        refine (ih.compound _ (t :: vs)).mono ?_ ?_
        · rintro (_ | r) rest hr
          · obtain ⟨-, h, -⟩ := hr
            cases h
          · rcases hr with ⟨r, hr, rfl⟩ | ⟨rfl, hs, _, _, h, rfl⟩
            · exact .inl ⟨_, .intersection he he' hr, rfl⟩
            · cases h
              refine .inl ⟨_, .last he he' ?_, rfl⟩
              simp only [Stops, Token.continues, Bool.or_eq_false_iff] at hs ⊢
              exact ⟨by simpa using ht, hs⟩
        · rintro f rest (hr | ⟨-, -, _, _, _, h, -⟩)
          · exact .inl (.enter (.intersection he he') hr)
          · cases h

lemma stops_of_lacksValue (h : LacksValue fin ts)
    (hm : ∀ t ∈ ts.head?, t.isSymbol .subtract = false) : Stops fin Token.startsOperand ts := by
  cases ts with
  | nil => exact h
  | cons t ts =>
    rcases h with h | ⟨h, -⟩
    · exact h
    · have := hm t rfl
      rw [Token.isSymbol_iff.mpr h] at this
      cases this

lemma operand_derived (ih : Derived fin n) (ts : List Token) : Runs fin (operand (n + 1)) ts
    (Answers fin .operand ts (Stops fin Token.startsOperand ts)) (Fails fin .operand ts) := by
  simp only [operand]
  refine Runs.bind ((ih.value ts).mono (fun _ _ h => h) fun _ _ h => .enter .value h) ?_
  rintro (_ | e) us he
  · obtain ⟨rfl, hl⟩ := he
    cases us with
    | nil =>
      refine .peek_nil (fun f hf => ?_) fun _ => .pure ⟨rfl, hl⟩
      rw [hl.eq_none rfl] at hf
      cases hf
    | cons t us =>
      apply Runs.peek_cons
      dsimp only
      split
      · rename_i ht
        rw [Token.isSymbol_iff] at ht
        have hn : Stops fin Token.isNumber us := by
          rcases hl with hl | ⟨-, hl⟩
          · rw [Token.startsOperand_of_symbol ht] at hl
            cases hl
          · exact hl
        apply Runs.skip_cons
        refine Runs.bind ((ih.operand us).mono (fun _ _ h => h)
          fun _ _ h => .enter (.negation ht hn) h) ?_
        rintro (_ | e) vs he
        · obtain ⟨rfl, hs⟩ := he
          exact .expect_none hs.eq_none (.raise (.negation ht hs))
        · exact .expect_some (.pure (.negation ht hn he))
      · rename_i ht
        refine .pure ⟨rfl, stops_of_lacksValue hl ?_⟩
        rintro u ⟨⟩
        simpa using ht
  · exact .pure (.plain he)

lemma derived_whole (ih : Derived fin n) (ts : List Token) : Runs fin (compound n []) ts
    (Answers fin .compound ts (Stops fin Token.startsOperand ts)) (Fails fin .compound ts) := by
  refine (ih.compound [] ts).mono ?_ ?_
  · rintro (_ | e) rest he
    · exact ⟨he.1, he.2.2⟩
    · rcases he with ⟨e, he, rfl⟩ | ⟨-, -, _, _, h, -⟩
      · exact he
      · cases h
  · rintro f rest (h | ⟨-, -, _, _, _, h, -⟩)
    · exact h
    · cases h

section Brackets

variable {inner : Option Expr} {us : List Token}

lemma eq_none_of_answers
    (h : Answers fin .compound ts (Stops fin Token.startsOperand ts) inner []) : fin = none := by
  cases inner with
  | none =>
    obtain ⟨rfl, hs⟩ := h
    exact hs
  | some e => exact h.stops_compound.1

lemma fails_unclosed (ht : t.lexeme = .symbol .openBracket)
    (h : Answers fin .compound ts (Stops fin Token.startsOperand ts) inner us)
    (hs : Stops fin (Token.isSymbol · .closeBracket) us) :
    Fails fin .value (t :: ts) (.syntactic (.unclosed t)) us.tail := by
  cases inner with
  | none =>
    obtain ⟨rfl, hs'⟩ := h
    exact .raise (.brackets ht hs' hs)
  | some e => exact .raise (.bracketed ht h hs)

lemma reads_bracketed {c : Token} (ht : t.lexeme = .symbol .openBracket)
    (h : Answers fin .compound ts (Stops fin Token.startsOperand ts) inner (c :: us))
    (hc : c.lexeme = .symbol .closeBracket) :
    Reads fin .value (t :: ts) (.expr (.bracketed (inner.getD .empty))) us := by
  cases inner with
  | none =>
    obtain ⟨rfl, -⟩ := h
    exact .brackets ht hc
  | some e => exact .bracketed ht h hc

end Brackets

lemma value_derived (ih : Derived fin n) (ts : List Token) : Runs fin (value (n + 1)) ts
    (Answers fin .value ts (LacksValue fin ts)) (Fails fin .value ts) := by
  simp only [value]
  cases ts with
  | nil => exact .peek_nil (fails_lexical rfl) fun hf => .pure ⟨rfl, hf⟩
  | cons t ts =>
    apply Runs.peek_cons
    dsimp only
    split
    · rename_i name ht
      refine .skip_cons (.map ((ih.named name ts).mono (fun e rest h => ?_) fun f rest h => ?_))
      · exact .literal ht h
      · exact .enter (.literal ht) h
    · rename_i text ht
      exact .skip_cons (.pure (.string ht))
    · rename_i code ht
      exact .skip_cons (.pure (.error ht))
    · rename_i d ht
      exact .skip_cons (.pure (.number ht))
    · rename_i s ht
      exact .skip_cons (runs_refuseSpecial (.raise (.special ht)))
    · rename_i ht
      rcases ts with _ | ⟨u, us⟩
      · refine .peekSecond_last (fun e he => .raise (.lexicalBehind ht he)) fun hf => ?_
        exact .pure ⟨rfl, .inr ⟨ht, hf⟩⟩
      · apply Runs.peekSecond_cons
        rw [Option.map_some]
        split
        · rename_i d hd
          exact .skip_cons (.skip_cons (.pure (.negative ht (Option.some.inj hd))))
        · rename_i s hs
          have hs := Option.some.inj hs
          exact .skip_cons (.skip_cons (runs_refuseSpecial (.raise (.negativeSpecial ht hs))))
        · rename_i hd hs
          refine .pure ⟨rfl, .inr ⟨ht, ?_⟩⟩
          cases hu : u.lexeme with
          | number d => exact (hd d (congrArg some hu)).elim
          | special s => exact (hs s (congrArg some hu)).elim
          | _ => simp [Stops, Token.isNumber, Lexeme.isNumber, hu]
    · rename_i ht
      apply Runs.skip_cons
      refine Runs.bind ((derived_whole ih ts).mono (fun _ _ h => h)
        fun _ _ h => .enter (.bracketed ht) h) ?_
      rintro inner (_ | ⟨c, us⟩) h
      · have hf := eq_none_of_answers h
        refine .next_nil (fun e he => ?_) fun _ => runs_refuse (fails_unclosed ht h hf)
        rw [hf] at he
        cases he
      · apply Runs.next_cons
        dsimp only
        split
        · rename_i hc
          exact .pure (reads_bracketed ht h (Token.isSymbol_iff.mp hc))
        · rename_i hc
          have hs : Stops fin (Token.isSymbol · .closeBracket) (c :: us) := by
            simpa [Stops] using hc
          exact runs_refuse (fails_unclosed ht h hs)
    · rename_i ht
      apply Runs.skip_cons
      refine Runs.bind ((ih.items _ _ _ ts).mono (fun _ _ h => h)
        fun _ _ h => .enter (.columns ht) h) fun es rest h => ?_
      exact .pure (.columns ht h)
    · rename_i s hminus hround hsquare ht
      refine .pure ⟨rfl, .inl ?_⟩
      rw [Token.startsOperand_of_symbol ht]
      simp only [Bool.or_eq_false_iff, beq_eq_false_iff_ne]
      exact ⟨⟨hminus, hround⟩, hsquare⟩

lemma stops_qualifies
    (h : ∀ s, t.symbol? = some s → s ≠ .openBracket ∧ s ≠ .bang ∧ s ≠ .openSquare) :
    t.qualifies = false := by
  simp only [Token.qualifies, Token.isSymbol, Bool.or_eq_false_iff, beq_eq_false_iff_ne]
  exact ⟨⟨fun hs => (h _ hs).1 rfl, fun hs => (h _ hs).2.1 rfl⟩, fun hs => (h _ hs).2.2 rfl⟩

lemma named_derived (ih : Derived fin n) (name : String) (ts : List Token) :
    Runs fin (named (n + 1) name) ts (fun e rest => Reads fin (.named name) ts (.expr e) rest)
      (Fails fin (.named name) ts) := by
  simp only [named]
  cases ts with
  | nil =>
    refine .peek_nil (fails_lexical rfl) fun hf => .pure ?_
    cases hn : truthValue? name with
    | none =>
      rw [Expr.ofName, hn]
      exact .cell hn hf
    | some b =>
      rw [Expr.ofName, hn]
      exact .truth hn hf
  | cons t ts =>
    apply Runs.peek_cons
    dsimp only
    split
    · rename_i ht
      rw [Token.symbol?_eq_some_iff] at ht
      apply Runs.skip_cons
      refine Runs.bind ((ih.items _ _ _ ts).mono (fun _ _ h => h)
        fun _ _ h => .enter (.call ht) h) fun es rest h => ?_
      exact .pure (.call ht h)
    · rename_i b hn hround
      exact .pure (.truth hn (by simpa [Stops, Token.isSymbol] using hround))
    · rename_i ht hn
      rw [Token.symbol?_eq_some_iff] at ht
      apply Runs.skip_cons
      refine Runs.bind ((ih.value ts).mono (fun _ _ h => h)
        fun _ _ h => .enter (.sheet hn ht) h) ?_
      rintro (_ | e) us he
      · obtain ⟨rfl, hl⟩ := he
        exact .expect_none hl.eq_none (.raise (.sheet hn ht hl))
      · exact .expect_some (.pure (.sheet hn ht he))
    · rename_i ht hn
      rw [Token.symbol?_eq_some_iff] at ht
      refine Runs.bind ((ih.value (t :: ts)).mono (fun _ _ h => h)
        fun _ _ h => .enter (.table hn ht) h) ?_
      rintro (_ | e) us he
      · obtain ⟨rfl, hl | ⟨hl, -⟩⟩ := he
        · rw [Token.startsOperand_of_symbol ht] at hl
          cases hl
        · rw [ht] at hl
          cases hl
      · exact .expect_some (.pure (.table hn ht he))
    · rename_i hn hround hbang hsquare
      refine .pure (.cell hn (stops_qualifies fun s hs => ⟨?_, ?_, ?_⟩))
      · rintro rfl
        exact hround hs
      · rintro rfl
        exact hbang hs
      · rintro rfl
        exact hsquare hs

lemma items_derived (ih : Derived fin n) (closer : Symbol) (opener : Token) (slot : Slot)
    (ts : List Token) : Runs fin (items (n + 1) closer opener slot) ts
      (fun es rest => Reads fin (.items closer opener slot) ts (.list es) rest)
      (Fails fin (.items closer opener slot) ts) := by
  simp only [items]
  cases ts with
  | nil =>
    exact .peek_nil (fails_lexical rfl) fun hf => runs_refuse (.raise (.unclosedList hf))
  | cons t ts =>
    apply Runs.peek_cons
    dsimp only
    split
    · rename_i ht
      rw [Token.isSymbol_iff] at ht
      apply Runs.skip_cons
      refine Runs.bind ((ih.items closer opener .vacant ts).mono (fun _ _ h => h)
        fun _ _ h => .enter (.comma ht) h) fun es rest h => ?_
      exact .pure (.comma ht h)
    · rename_i hcomma
      rw [Token.isSymbol_iff] at hcomma
      split
      · rename_i ht
        rw [Token.isSymbol_iff] at ht
        refine .skip_cons (.pure (.close ht ?_))
        rintro rfl
        exact hcomma ht
      · rename_i hcloser
        rw [Token.isSymbol_iff] at hcloser
        refine Runs.bind ((derived_whole ih (t :: ts)).mono (fun _ _ h => h)
          fun _ _ h => .enter (.item hcomma hcloser) h) ?_
        rintro (_ | e) us he
        · obtain ⟨rfl, hs⟩ := he
          exact runs_refuse (.raise (.strayInList hcomma hcloser hs))
        · refine Runs.bind ((ih.items closer opener .filled us).mono (fun _ _ h => h)
            fun _ _ h => .enter (.items hcomma hcloser he) h) fun es rest h => ?_
          exact .pure (.item hcomma hcloser he h)

lemma immediateJoins_derived (ih : Derived fin n) (left : Expr) (ts : List Token) :
    Runs fin (immediateJoins (n + 1) left) ts
      (fun e rest => Reads fin (.immediateJoins left) ts (.expr e) rest)
      (Fails fin (.immediateJoins left) ts) := by
  simp only [immediateJoins]
  cases ts with
  | nil => exact .peek_nil (fails_lexical rfl) fun hf => .pure (.immediateStop hf)
  | cons t ts =>
    apply Runs.peek_cons
    dsimp only
    split
    · rename_i ht
      refine Runs.bind ((ih.join t left ts).mono (fun _ _ h => h)
        fun _ _ h => .enter (.immediate ht) h) fun e us he => ?_
      refine (ih.immediateJoins e us).mono (fun _ _ h => ?_) fun _ _ h => ?_
      · exact .immediateStep ht he h
      · exact .enter (.immediateNext ht he) h
    · rename_i ht
      exact .pure (.immediateStop (by simpa [Stops] using ht))

lemma tighterJoins_derived (ih : Derived fin n) (precedence : Nat) (left : Expr)
    (ts : List Token) : Runs fin (tighterJoins (n + 1) precedence left) ts
      (fun e rest => Reads fin (.tighterJoins precedence left) ts (.expr e) rest)
      (Fails fin (.tighterJoins precedence left) ts) := by
  simp only [tighterJoins]
  cases ts with
  | nil => exact .peek_nil (fails_lexical rfl) fun hf => .pure (.tighterStop hf)
  | cons t ts =>
    apply Runs.peek_cons
    dsimp only
    split
    · rename_i ht
      refine Runs.bind ((ih.join t left ts).mono (fun _ _ h => h)
        fun _ _ h => .enter (.tighter ht) h) fun e us he => ?_
      refine (ih.tighterJoins precedence e us).mono (fun _ _ h => ?_) fun _ _ h => ?_
      · exact .tighterStep ht he h
      · exact .enter (.tighterNext ht he) h
    · rename_i ht
      exact .pure (.tighterStop (by simpa [Stops] using ht))

lemma join_derived (ih : Derived fin n) (t : Token) (left : Expr) (ts : List Token) :
    Runs fin (join (n + 1) t left) (t :: ts)
      (fun e rest => Reads fin (.join t left) (t :: ts) (.expr e) rest)
      (Fails fin (.join t left) (t :: ts)) := by
  simp only [join]
  split
  · rename_i ht
    rw [Token.symbol?_eq_some_iff] at ht
    apply Runs.skip_cons
    refine Runs.bind ((ih.value ts).mono (fun _ _ h => h) fun _ _ h => .enter (.range ht) h) ?_
    rintro (_ | e) us he
    · obtain ⟨rfl, hl⟩ := he
      exact .expect_none hl.eq_none (.raise (.range ht hl))
    · exact .expect_some (.pure (.range ht he))
  · rename_i ht
    exact .skip_cons (.pure (.percent (Token.symbol?_eq_some_iff.mp ht)))
  · rename_i ht
    rw [Token.symbol?_eq_some_iff] at ht
    apply Runs.skip_cons
    refine Runs.bind ((derived_whole ih ts).mono (fun _ _ h => h)
      fun _ _ h => .enter (.text ht) h) ?_
    rintro (_ | e) us he
    · obtain ⟨rfl, hs⟩ := he
      exact .expect_none hs.eq_none (.raise (.text ht hs))
    · exact .expect_some (.pure (.text ht he))
  · rename_i s _ _ _ ht
    rw [Token.symbol?_eq_some_iff] at ht
    split
    · rename_i step hstep
      apply Runs.skip_cons
      refine Runs.bind ((ih.chainSteps s.precedence step t ts).mono (fun _ _ h => h)
        fun _ _ h => .enter (.maths ht hstep) h) fun operations rest h => ?_
      exact .pure (.maths ht hstep h)
    · rename_i op _ hop
      obtain rfl := Comparator.ofSymbol?_eq_some_iff.mp hop
      apply Runs.skip_cons
      refine Runs.bind ((ih.operand ts).mono (fun _ _ h => h)
        fun _ _ h => .enter (.comparison ht) h) ?_
      rintro (_ | e) us he
      · obtain ⟨rfl, hs⟩ := he
        exact .expect_none hs.eq_none (.raise (.comparison ht hs))
      · apply Runs.expect_some
        refine Runs.bind ((ih.tighterJoins _ e us).mono (fun _ _ h => h)
          fun _ _ h => .enter (.comparisonJoins ht he) h) fun e' rest h => ?_
        exact .pure (.comparison ht he h)
    · exact runs_defect
  · exact runs_defect

lemma chainSteps_derived (ih : Derived fin n) (precedence : Nat) (step : Step) (operator : Token)
    (ts : List Token) : Runs fin (chainSteps (n + 1) precedence step operator) ts
      (fun operations rest =>
        Reads fin (.chainSteps precedence step operator) ts (.steps operations) rest)
      (Fails fin (.chainSteps precedence step operator) ts) := by
  simp only [chainSteps]
  refine Runs.bind ((ih.operand ts).mono (fun _ _ h => h) fun _ _ h => .enter .step h) ?_
  rintro (_ | r) us hr
  · obtain ⟨rfl, hs⟩ := hr
    exact .expect_none hs.eq_none (.raise (.step hs))
  · apply Runs.expect_some
    refine Runs.bind ((ih.tighterJoins precedence r us).mono (fun _ _ h => h)
      fun _ _ h => .enter (.stepJoins hr) h) ?_
    rintro r' (_ | ⟨t, vs⟩) hr'
    · have hf := hr'.stops_tighterJoins
      refine .peek_nil (fun e he => ?_) fun _ => .pure (.lastStep hr hr' hf)
      rw [hf.eq_none rfl] at he
      cases he
    · apply Runs.peek_cons
      dsimp only
      split
      · rename_i ht
        exact .pure (.lastStep hr hr' (by simp [Stops, ht]))
      · rename_i next ht
        apply Runs.skip_cons
        refine Runs.bind ((ih.chainSteps precedence next t vs).mono (fun _ _ h => h)
          fun _ _ h => .enter (.nextStep hr hr' ht) h) fun operations rest h => ?_
        exact .pure (.nextStep hr hr' ht h)

theorem derived (fin : Option LexicalError) (n : Nat) : Derived fin n := by
  induction n with
  | zero => constructor <;> intros <;> exact runs_defect
  | succ n ih =>
    exact ⟨compound_derived ih, operand_derived ih, value_derived ih, named_derived ih,
      items_derived ih, immediateJoins_derived ih, tighterJoins_derived ih, join_derived ih,
      chainSteps_derived ih⟩

end CellFormula.Parser
