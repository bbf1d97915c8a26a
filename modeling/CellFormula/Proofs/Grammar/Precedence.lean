import CellFormula.Proofs.Grammar.Shape
import CellFormula.Proofs.Parser.Outcome

/-! Every tree that is read has the shape that the precedences of the operators give it. What
carries the proof is what may follow an expression that was joined so far: nothing that binds as
tightly as its own operators. -/

namespace CellFormula

namespace Token

def bindsFrom (precedence : Nat) (t : Token) : Bool :=
  t.symbol?.any fun s => s.joins && precedence ≤ s.precedence

lemma bindsFrom_of_symbol {t : Token} {s : Symbol} (h : t.lexeme = .symbol s) (precedence : Nat) :
    t.bindsFrom precedence = (s.joins && precedence ≤ s.precedence) := by
  rw [bindsFrom, symbol?_eq_some_iff.mpr h, Option.any_some]

lemma bindsFrom_eq_false_iff {precedence : Nat} {t : Token} : t.bindsFrom precedence = false ↔
    ∀ s, t.lexeme = .symbol s → s.joins → s.precedence < precedence := by
  simp only [bindsFrom, Option.any_eq_false, symbol?_eq_some_iff, Bool.and_eq_false_iff,
    decide_eq_false_iff_not, Nat.not_le]
  constructor
  · intro h s ht hs
    rcases h s ht with hj | hlt
    · rw [hs] at hj
      cases hj
    · exact hlt
  · intro h s ht
    by_cases hs : s.joins
    · exact .inr (h s ht hs)
    · exact .inl (Bool.eq_false_iff.mpr hs)

lemma precedence_lt {precedence : Nat} {t : Token} {s : Symbol} (ht : t.lexeme = .symbol s)
    (hs : s.joins) (h : t.bindsFrom precedence = false) : s.precedence < precedence :=
  bindsFrom_eq_false_iff.mp h s ht hs

end Token

namespace Tier

lemma exists_of_ofSymbol? {s : Symbol} {step : Step} (h : Step.ofSymbol? s = some step) :
    ∃ tier : Tier, step ∈ tier.steps := by
  cases s <;> cases h
  · exact ⟨.sum, by decide⟩
  · exact ⟨.sum, by decide⟩
  · exact ⟨.product, by decide⟩
  · exact ⟨.product, by decide⟩
  · exact ⟨.power, by decide⟩

lemma precedence_of_mem {s : Symbol} {step : Step} {tier : Tier} (h : Step.ofSymbol? s = some step)
    (ht : step ∈ tier.steps) : s.precedence = tier.precedence := by
  cases s <;> cases h <;> cases tier <;> revert ht <;> decide

lemma mem_of_precedence {s : Symbol} {step : Step} {tier : Tier} (h : Step.ofSymbol? s = some step)
    (hp : s.precedence = tier.precedence) : step ∈ tier.steps := by
  cases s <;> cases h <;> cases tier <;> revert hp <;> decide

lemma ten_le_precedence (tier : Tier) : 10 ≤ tier.precedence := by cases tier <;> decide

lemma precedence_le_thirty (tier : Tier) : tier.precedence ≤ 30 := by cases tier <;> decide

end Tier

namespace Symbol

lemma joins_cases {s : Symbol} (h : s.joins) : (s = .colon ∨ s = .percent) ∨
    (∃ (tier : Tier) (step : Step), Step.ofSymbol? s = some step ∧ step ∈ tier.steps) ∨
      s = .ampersand ∨ ∃ op : Comparator, op.symbol = s := by
  simp only [joins, joinsAtOnce, Bool.or_eq_true, beq_iff_eq, ← Step.isSome_ofSymbol?,
    ← Comparator.isSome_ofSymbol?, Option.isSome_iff_exists] at h
  rcases h with (((⟨step, hs⟩ | ⟨op, ho⟩) | h) | h) | h
  · obtain ⟨tier, ht⟩ := Tier.exists_of_ofSymbol? hs
    exact .inr (.inl ⟨tier, step, hs, ht⟩)
  · exact .inr (.inr (.inr ⟨op, Comparator.ofSymbol?_eq_some_iff.mp ho⟩))
  · exact .inl (.inl h)
  · exact .inl (.inr h)
  · exact .inr (.inr (.inl h))

lemma precedence_of_reaches {s : Symbol} (h : s = .colon ∨ s = .percent) : 30 < s.precedence := by
  rcases h with rfl | rfl <;> decide

end Symbol

lemma Comparator.precedence_symbol (op : Comparator) : op.symbol.precedence = 0 := by
  cases op <;> rfl

namespace Parser

def Over (fin : Option LexicalError) (rest : List Token) : Prop :=
  Stops fin (Token.bindsFrom 0) rest ∧ Stops fin Token.continues rest

inductive Ready (fin : Option LexicalError) : Expr → List Token → Prop
  | factor {e rest} : Shape .factor e → Ready fin e rest
  | chain {tier e rest} : Shape (.chain tier) e →
      Stops fin (Token.bindsFrom tier.precedence) rest → Ready fin e rest
  | comparison {e rest} : Shape .comparison e → Stops fin (Token.bindsFrom 1) rest →
      Ready fin e rest
  | compound {e rest} : Shape .compound e → Over fin rest → Ready fin e rest

inductive Held (fin : Option LexicalError) (precedence : Nat) : Expr → List Token → Prop
  | factor {e rest} : Shape .factor e → Held fin precedence e rest
  | chain {tier e rest} : Shape (.chain tier) e → precedence < tier.precedence →
      Stops fin (Token.bindsFrom tier.precedence) rest → Held fin precedence e rest
  | textJoin {a b rest} : precedence = 0 → Shape (.chain .sum) a → Shape .compound b →
      Over fin rest → Held fin precedence (.textJoin a b) rest

structure Extends (fin : Option LexicalError) (s : Symbol) (left e : Expr) (rest : List Token) :
    Prop where
  factor : s = .colon ∨ s = .percent → Shape .factor left → Shape .factor e
  chain : ∀ (tier : Tier) step, Step.ofSymbol? s = some step → step ∈ tier.steps →
    Shape tier.operands left →
      Shape (.chain tier) e ∧ Stops fin (Token.bindsFrom tier.precedence) rest
  text : s = .ampersand → Shape (.chain .sum) left →
    ∃ r, e = .textJoin left r ∧ Shape .compound r ∧ Over fin rest
  comparison : ∀ op : Comparator, op.symbol = s → Shape .comparison left →
    Shape .comparison e ∧ Stops fin (Token.bindsFrom 1) rest ∨ Shape .compound e ∧ Over fin rest

variable {fin : Option LexicalError} {c : Call} {ts rest : List Token} {a : Answer} {t : Token}
  {s : Symbol} {left e : Expr} {precedence : Nat}

lemma Reads.over (h : Reads fin .compound ts a rest) : Over fin rest := by
  obtain ⟨hj, hc⟩ := h.stops_compound
  refine ⟨?_, hc⟩
  cases rest with
  | nil => exact hj
  | cons t rest =>
    apply Token.bindsFrom_eq_false_iff.mpr
    intro s ht hs
    have hj : t.joinsAtOnce = false := hj
    have hc : t.continues = false := hc
    rw [Token.joinsAtOnce_of_symbol ht] at hj
    rw [Token.continues, Token.isSymbol_of_symbol ht, Bool.or_eq_false_iff] at hc
    rw [Symbol.joins, hj, hc.1] at hs
    cases hs

lemma Ready.left_cases (h : Ready fin left (t :: ts)) (ht : t.lexeme = .symbol s)
    (hs : s.joins) : Shape .factor left ∨
      (∃ tier : Tier, Shape (.chain tier) left ∧ s.precedence < tier.precedence) ∨
        Shape .comparison left ∧ s.precedence < 1 := by
  cases h with
  | factor h => exact .inl h
  | chain h hb => exact .inr (.inl ⟨_, h, Token.precedence_lt ht hs hb⟩)
  | comparison h hb => exact .inr (.inr ⟨h, Token.precedence_lt ht hs hb⟩)
  | compound h hb => exact absurd (Token.precedence_lt ht hs hb.1) (Nat.not_lt_zero _)

lemma Ready.join (h : Ready fin left (t :: ts)) (ht : t.lexeme = .symbol s)
    (hs : s.joinsAtOnce) (he : Extends fin s left e rest) : Ready fin e rest := by
  have hj : s.joins := by simp [Symbol.joins, hs]
  have hl := h.left_cases ht hj
  rcases Symbol.joins_cases hj with hr | ⟨tier, step, hstep, hmem⟩ | rfl | ⟨op, rfl⟩
  · have hp := Symbol.precedence_of_reaches hr
    rcases hl with hl | ⟨tier, -, hlt⟩ | ⟨-, hlt⟩
    · exact .factor (he.factor hr hl)
    · have := tier.precedence_le_thirty
      omega
    · omega
  · have hp := Tier.precedence_of_mem hstep hmem
    have hl' : Shape tier.operands left := by
      rcases hl with hl | ⟨tier', hl, hlt⟩ | ⟨-, hlt⟩
      · exact hl.operands_of_factor
      · exact hl.operands_of_lt (hp ▸ hlt)
      · have := tier.ten_le_precedence
        omega
    obtain ⟨he, hb⟩ := he.chain tier step hstep hmem hl'
    exact .chain he hb
  · cases hs
  · have hl' : Shape .comparison left := by
      rcases hl with hl | ⟨tier, hl, -⟩ | ⟨hl, -⟩
      · exact .sum (hl.of_factor .sum)
      · exact .sum hl.sum_of_chain
      · exact hl
    rcases he.comparison op rfl hl' with ⟨he, hb⟩ | ⟨he, hb⟩
    · exact .comparison he hb
    · exact .compound he hb

lemma Held.left_cases (h : Held fin precedence left (t :: ts)) (ht : t.lexeme = .symbol s)
    (hs : s.joins) : Shape .factor left ∨
      ∃ tier : Tier, Shape (.chain tier) left ∧ s.precedence < tier.precedence := by
  cases h with
  | factor h => exact .inl h
  | chain h _ hb => exact .inr ⟨_, h, Token.precedence_lt ht hs hb⟩
  | textJoin _ _ _ hb => exact absurd (Token.precedence_lt ht hs hb.1) (Nat.not_lt_zero _)

lemma Held.join (h : Held fin precedence left (t :: ts)) (ht : t.lexeme = .symbol s)
    (hs : s.joins) (hlt : precedence < s.precedence) (he : Extends fin s left e rest) :
    Held fin precedence e rest := by
  have hl := h.left_cases ht hs
  rcases Symbol.joins_cases hs with hr | ⟨tier, step, hstep, hmem⟩ | rfl | ⟨op, rfl⟩
  · have hp := Symbol.precedence_of_reaches hr
    rcases hl with hl | ⟨tier, -, hlt'⟩
    · exact .factor (he.factor hr hl)
    · have := tier.precedence_le_thirty
      omega
  · have hp := Tier.precedence_of_mem hstep hmem
    have hl' : Shape tier.operands left := by
      rcases hl with hl | ⟨tier', hl, hlt'⟩
      · exact hl.operands_of_factor
      · exact hl.operands_of_lt (hp ▸ hlt')
    obtain ⟨he, hb⟩ := he.chain tier step hstep hmem hl'
    exact .chain he (hp ▸ hlt) hb
  · have hl' : Shape (.chain .sum) left := by
      rcases hl with hl | ⟨tier, hl, -⟩
      · exact hl.of_factor .sum
      · exact hl.sum_of_chain
    obtain ⟨r, rfl, hr, hb⟩ := he.text rfl hl'
    exact .textJoin (Nat.lt_one_iff.mp hlt) hl' hr hb
  · rw [op.precedence_symbol] at hlt
    exact absurd hlt (Nat.not_lt_zero _)

def Fits (fin : Option LexicalError) : Call → List Token → Answer → List Token → Prop
  | .compound, _, .expr e, _ => Shape .compound e
  | .operand, _, .expr e, _ => Shape .operand e
  | .value, _, .expr e, _ | .named _, _, .expr e, _ => Shape .value e
  | .items _ _ slot, _, .list es, _ => (∀ e ∈ es, e ≠ .empty → Shape .compound e) ∧
      (slot = .vacant → es ≠ []) ∧ (slot = .opening → es ≠ [.empty])
  | .immediateJoins left, ts, .expr e, rest => Ready fin left ts → Ready fin e rest
  | .tighterJoins precedence left, ts, .expr e, rest =>
    Held fin precedence left ts → Held fin precedence e rest
  | .join t left, _, .expr e, rest => ∀ s, t.lexeme = .symbol s → Extends fin s left e rest
  | .chainSteps precedence step _, _, .steps operations, rest => ∀ tier : Tier,
    precedence = tier.precedence → step ∈ tier.steps → operations ≠ [] ∧
      (∀ o ∈ operations, o.1 ∈ tier.steps) ∧ (∀ o ∈ operations, Shape tier.operands o.2) ∧
        Stops fin (Token.bindsFrom tier.precedence) rest
  | _, _, _, _ => True

lemma shape_ofColumns {es : List Expr} (h : ∀ e ∈ es, e ≠ .empty → Shape .compound e)
    (hne : es ≠ [.empty]) : Shape .value (.ofColumns es) := by
  rcases es with _ | ⟨e, _ | ⟨e', es⟩⟩
  · exact .columns
  · refine .column (h e List.mem_cons_self ?_)
    rintro rfl
    exact hne rfl
  · exact .union (by simp) h

lemma structured_ofColumns (es : List Expr) :
    ∃ columns, Expr.ofColumns es = .structured columns := by
  rcases es with _ | ⟨e, _ | ⟨e', es⟩⟩ <;> exact ⟨_, rfl⟩

lemma fits_beforeComma {closer : Symbol} {opener : Token} {slot : Slot} {es : List Expr}
    (h : Fits fin (.items closer opener .vacant) ts (.list es) rest) :
    Fits fin (.items closer opener slot) (t :: ts) (.list (slot.beforeComma es)) rest := by
  obtain ⟨he, hv, -⟩ := h
  have he' : ∀ e ∈ Expr.empty :: es, e ≠ .empty → Shape .compound e := by
    rintro e (_ | ⟨_, hm⟩) hne
    · exact (hne rfl).elim
    · exact he e hm hne
  cases slot with
  | opening =>
    refine ⟨he', by simp, fun _ h => hv rfl ?_⟩
    exact (List.cons.inj h).2
  | vacant => exact ⟨he', fun _ => List.cons_ne_nil _ _, by simp⟩
  | filled => exact ⟨he, by simp, by simp⟩

lemma fits_beforeClose {closer : Symbol} {opener : Token} {slot : Slot} :
    Fits fin (.items closer opener slot) (t :: rest) (.list slot.beforeClose) rest := by
  cases slot <;> simp [Fits, Slot.beforeClose]

lemma Reads.structured (h : Reads fin .value (t :: ts) (.expr e) rest)
    (ht : t.lexeme = .symbol .openSquare) : ∃ columns, e = .structured columns := by
  cases h with
  | columns => exact structured_ofColumns _
  | literal h | string h | error h | number h | negative h | brackets h | bracketed h =>
    rw [ht] at h
    cases h

lemma stops_bindsFrom {tier : Tier} (h : Stops fin (Token.bindsTighter tier.precedence) rest)
    (hs : Stops fin (fun t => (t.chainStep? tier.precedence).isSome) rest) :
    Stops fin (Token.bindsFrom tier.precedence) rest := by
  cases rest with
  | nil => exact h
  | cons t rest =>
    simp only [Stops, Token.bindsTighter, Token.chainStep?, Token.bindsFrom] at h hs ⊢
    cases ht : t.symbol? with
    | none => rfl
    | some s =>
      rw [ht] at h hs
      cases s <;> cases tier <;> revert h hs <;> decide

lemma Held.operands {tier : Tier} (h : Held fin tier.precedence e rest) :
    Shape tier.operands e := by
  cases h with
  | factor h => exact h.operands_of_factor
  | chain h hlt => exact h.operands_of_lt hlt
  | textJoin h0 =>
    have := tier.ten_le_precedence
    omega

lemma extends_of_reaches (hs : s = .colon ∨ s = .percent)
    (h : Shape .factor left → Shape .factor e) : Extends fin s left e rest where
  factor _ := h
  chain tier step hstep := by rcases hs with rfl | rfl <;> cases hstep
  text ht := by rcases hs with rfl | rfl <;> cases ht
  comparison op ho := by rcases hs with rfl | rfl <;> cases op <;> cases ho

lemma extends_comparison {op : Comparator} (h : Held fin op.symbol.precedence e rest)
    (hs : Stops fin (Token.bindsTighter op.symbol.precedence) rest) :
    Extends fin op.symbol left (.comparison op left e) rest where
  factor h := by rcases h with h | h <;> cases op <;> cases h
  chain tier step h := by cases op <;> cases h
  text h := by cases op <;> cases h
  comparison op' ho hl := by
    rw [op.precedence_symbol] at h hs
    cases h with
    | factor h => exact .inl ⟨.comparison hl (h.of_factor .sum), hs⟩
    | chain h => exact .inl ⟨.comparison hl h.sum_of_chain, hs⟩
    | textJoin _ ha hb hr => exact .inr ⟨.comparedJoin hl ha hb, hr⟩

lemma Ready.compound_of_stops (h : Ready fin e rest) : Shape .compound e := by
  cases h with
  | factor h => exact h.compound_of_factor
  | chain h => exact .compared (.sum h.sum_of_chain)
  | comparison h => exact .compared h
  | compound h => exact h

lemma Ready.sum (h : Ready fin e (t :: rest)) (ht : t.lexeme = .symbol .ampersand) :
    Shape (.chain .sum) e := by
  rcases h.left_cases ht rfl with h | ⟨tier, h, -⟩ | ⟨-, h⟩
  · exact h.of_factor .sum
  · exact h.sum_of_chain
  · exact absurd h (by decide)

lemma Ready.comparison_of_starts (h : Ready fin e (t :: rest)) (ht : t.startsOperand) :
    Shape .comparison e := by
  cases h with
  | factor h => exact .sum (h.of_factor .sum)
  | chain h => exact .sum h.sum_of_chain
  | comparison h => exact h
  | compound _ hr =>
    have hc : t.continues = false := hr.2
    rw [Token.continues, ht, Bool.or_true] at hc
    cases hc

-- The induction is on the derivation. What the shape of an operand says of the tokens behind it is
-- carried through the joins by Ready and Held.
theorem fits_of_reads (h : Reads fin c ts a rest) : Fits fin c ts a rest := by
  induction h with
  | last _ _ _ ih ih' => exact (ih' (.factor (.operand ih))).compound_of_stops
  | textJoin _ _ ht _ ih ih' ih'' =>
    have he := ih' (.factor (.operand ih))
    exact .textJoin (he.sum ht) ih''
  | intersection _ _ hr ih ih' ih'' =>
    have he := ih' (.factor (.operand ih))
    obtain ⟨t, us, rfl, ht⟩ := hr.starts (.inl rfl)
    exact .intersection (he.comparison_of_starts ht) ih''
  | plain _ ih => exact .plain ih
  | negation _ _ _ ih => exact .negation ih
  | literal _ _ ih => exact ih
  | string => exact .string
  | error => exact .error
  | number | negative => exact .number
  | brackets => exact .brackets
  | bracketed _ _ _ ih => exact .bracketed ih
  | columns _ _ ih => exact shape_ofColumns ih.1 (ih.2.2 rfl)
  | call _ _ ih => exact .call (ih.2.2 rfl) ih.1
  | truth => exact .boolean
  | sheet _ _ _ ih => exact .sheet ih
  | table _ ht h ih =>
    obtain ⟨columns, rfl⟩ := h.structured ht
    exact .table ih
  | cell => exact .cell
  | comma _ _ ih => exact fits_beforeComma ih
  | close => exact fits_beforeClose
  | item _ _ _ _ ih ih' =>
    refine ⟨?_, fun _ => List.cons_ne_nil _ _, ?_⟩
    · rintro e (_ | ⟨_, hm⟩) hne
      · exact ih
      · exact ih'.1 e hm hne
    · intro _ h
      exact Shape.ne_empty ih (List.cons.inj h).1
  | immediateStop | tighterStop => exact id
  | immediateStep ht _ _ ih ih' =>
    intro h
    obtain ⟨s, hs, hj⟩ := (Option.any_eq_true _ _).mp ht
    have hs := Token.symbol?_eq_some_iff.mp hs
    exact ih' (h.join hs hj (ih s hs))
  | tighterStep ht _ _ ih ih' =>
    intro h
    obtain ⟨s, hs, hj⟩ := (Option.any_eq_true _ _).mp ht
    have hs := Token.symbol?_eq_some_iff.mp hs
    rw [Bool.and_eq_true, decide_eq_true_eq] at hj
    exact ih' (h.join hs hj.1 hj.2 (ih s hs))
  | range ht _ ih =>
    intro s hs
    obtain rfl : _ = s := Lexeme.symbol.inj (ht.symm.trans hs)
    exact extends_of_reaches (.inl rfl) fun hl => .range hl ih
  | percent ht =>
    intro s hs
    obtain rfl : _ = s := Lexeme.symbol.inj (ht.symm.trans hs)
    exact extends_of_reaches (.inr rfl) fun hl => .percent hl
  | text ht h ih =>
    intro s hs
    obtain rfl : _ = s := Lexeme.symbol.inj (ht.symm.trans hs)
    refine ⟨by simp, ?_, fun _ _ => ⟨_, rfl, ih, h.over⟩, ?_⟩
    · intro tier step hstep
      cases hstep
    · intro op ho
      cases op <;> cases ho
  | maths ht hs _ ih =>
    intro s' hs'
    obtain rfl : _ = s' := Lexeme.symbol.inj (ht.symm.trans hs')
    refine ⟨?_, ?_, ?_, ?_⟩
    · rintro (rfl | rfl) <;> cases hs
    · intro tier step' hs' hm hl
      obtain rfl := Option.some.inj (hs.symm.trans hs')
      obtain ⟨hne, hsteps, hoperands, hb⟩ := ih tier (Tier.precedence_of_mem hs hm) hm
      exact ⟨.chain hl hne hsteps hoperands, hb⟩
    · rintro rfl
      cases hs
    · rintro op rfl
      cases op <;> cases hs
  | comparison ht h h' ih ih' =>
    intro s hs
    obtain rfl : _ = s := Lexeme.symbol.inj (ht.symm.trans hs)
    exact extends_comparison (ih' (.factor (.operand ih))) h'.stops_tighterJoins
  | lastStep h h' hs ih ih' =>
    rintro tier rfl hm
    have he := ih' (.factor (.operand ih))
    refine ⟨List.cons_ne_nil _ _, ?_, ?_, stops_bindsFrom h'.stops_tighterJoins hs⟩
    · simpa using hm
    · simpa using he.operands
  | nextStep h h' ht _ ih ih' ih'' =>
    rintro tier rfl hm
    obtain ⟨s, -, hp, hs⟩ := Token.chainStep?_eq_some_iff.mp ht
    obtain ⟨-, hsteps, hoperands, hb⟩ := ih'' tier rfl (Tier.mem_of_precedence hs hp)
    have he := ih' (.factor (.operand ih))
    refine ⟨List.cons_ne_nil _ _, ?_, ?_, hb⟩
    · exact List.forall_mem_cons.mpr ⟨hm, hsteps⟩
    · exact List.forall_mem_cons.mpr ⟨he.operands, hoperands⟩

end Parser

namespace Formula

theorem shape_of_parseTokens {source : Source Token LexicalError} {e : Expr}
    (h : parseTokens source = .ok (some e)) :
    Shape .compound e ∧ ∀ s : Expr, s.Within e → Tidy s := by
  obtain ⟨-, hr⟩ := reads_of_parseTokens h
  have he : Shape .compound e := Parser.fits_of_reads hr
  exact ⟨he, fun s hs => ((Part.shaped he).within hs).tidy_and_parts.1⟩

-- `-A^2>B&[,C]`
def layered : Source Token LexicalError :=
  .ofList [⟨.symbol .subtract, 0, 1⟩, ⟨.literal "A", 1, 2⟩, ⟨.symbol .power, 2, 3⟩,
    ⟨.number ⟨false, 2, 0⟩, 3, 4⟩, ⟨.symbol .greater, 4, 5⟩, ⟨.literal "B", 5, 6⟩,
    ⟨.symbol .ampersand, 6, 7⟩, ⟨.symbol .openSquare, 7, 8⟩, ⟨.symbol .comma, 8, 9⟩,
    ⟨.literal "C", 9, 10⟩, ⟨.symbol .closeSquare, 10, 11⟩]

def layers : Expr :=
  .comparison .greater
    (.chain [(.start, .chain [(.subtract, .cell "A")]), (.power, .number ⟨false, 2, 0⟩)])
    (.textJoin (.cell "B") (.structured (.union [.empty, .cell "C"])))

theorem shape_layers : parseTokens layered = .ok (some layers) ∧ Shape .compound layers ∧
    ∀ s : Expr, s.Within layers → Tidy s := by
  have h : parseTokens layered = .ok (some layers) := rfl
  exact ⟨h, shape_of_parseTokens h⟩

end Formula

end CellFormula
