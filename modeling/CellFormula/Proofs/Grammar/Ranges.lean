import CellFormula.Proofs.Grammar.Minus
import CellFormula.Proofs.Grammar.ReadBack

/-! What a range takes on its left. Behind an operator the range is read first; but a minus sign in
front of a value is read with the value, and the negation is the left side of a range behind it. -/

namespace CellFormula

namespace Expr

variable {e a b : Expr}

def IsNegation (e : Expr) : Prop := ∃ x, e = chain [(.subtract, x)]

def RangesBindTighter (e : Expr) : Prop := ∀ a b, (range a b).Within e → ¬ a.IsNegation

def NegatesInRange (e : Expr) : Prop := ∃ a b, (range a b).Within e ∧ a.IsNegation

lemma rangesBindTighter_iff : e.RangesBindTighter ↔ ¬ e.NegatesInRange := by
  simp only [RangesBindTighter, NegatesInRange, not_exists, not_and]

lemma negatesInRange_of_children (h : ∀ a b, e ≠ range a b) :
    e.NegatesInRange ↔ ∃ c ∈ e.children, c.NegatesInRange := by
  constructor
  · rintro ⟨a, b, hw, ha⟩
    cases hw with
    | self => exact (h a b rfl).elim
    | child hc hw => exact ⟨_, hc, a, b, hw, ha⟩
  · rintro ⟨c, hc, a, b, hw, ha⟩
    exact ⟨a, b, .child hc hw, ha⟩

lemma negatesInRange_range :
    (range a b).NegatesInRange ↔ a.IsNegation ∨ a.NegatesInRange ∨ b.NegatesInRange := by
  constructor
  · rintro ⟨c, d, hw, hc⟩
    cases hw with
    | self => exact .inl hc
    | child hm hw =>
      rcases List.mem_cons.mp hm with rfl | hm
      · exact .inr (.inl ⟨c, d, hw, hc⟩)
      · obtain rfl := List.mem_singleton.mp hm
        exact .inr (.inr ⟨c, d, hw, hc⟩)
  · rintro (ha | ⟨c, d, hw, hc⟩ | ⟨c, d, hw, hc⟩)
    · exact ⟨a, b, .self, ha⟩
    · exact ⟨c, d, .child List.mem_cons_self hw, hc⟩
    · exact ⟨c, d, .child (List.mem_cons_of_mem _ List.mem_cons_self) hw, hc⟩

lemma not_negatesInRange (e : Expr) (hc : e.children = []) (h : ∀ a b, e ≠ range a b) :
    ¬ e.NegatesInRange := by
  rw [negatesInRange_of_children h, hc]
  simp

lemma negatesInRange_inner (e : Expr) (hc : e.children = [a]) (h : ∀ a b, e ≠ range a b) :
    e.NegatesInRange ↔ a.NegatesInRange := by
  rw [negatesInRange_of_children h, hc]
  simp

lemma negatesInRange_pair (e : Expr) (hc : e.children = [a, b]) (h : ∀ a b, e ≠ range a b) :
    e.NegatesInRange ↔ a.NegatesInRange ∨ b.NegatesInRange := by
  rw [negatesInRange_of_children h, hc]
  simp

lemma negatesInRange_chain (operations : List (Step × Expr)) :
    (chain operations).NegatesInRange ↔ ∃ o ∈ operations, o.2.NegatesInRange := by
  rw [negatesInRange_of_children (by simp)]
  constructor
  · rintro ⟨c, hc, h⟩
    obtain ⟨o, ho, rfl⟩ := List.mem_map.mp hc
    exact ⟨o, ho, h⟩
  · rintro ⟨o, ho, h⟩
    exact ⟨o.2, List.mem_map_of_mem ho, h⟩

lemma negatesInRange_ofColumns (es : List Expr) :
    (ofColumns es).NegatesInRange ↔ ∃ e ∈ es, e.NegatesInRange := by
  rcases es with _ | ⟨e, _ | ⟨e', es⟩⟩
  · simp [ofColumns, negatesInRange_of_children, children]
  · simp [ofColumns, negatesInRange_of_children, children]
  · simp [ofColumns, negatesInRange_of_children, children]

end Expr

lemma Shape.operand_of_negation {level : Level} {e x : Expr} (h : Shape level e)
    (he : e = .chain [(.subtract, x)]) : Shape .operand x := by
  induction h with
  | plain _ ih | operand _ ih | single _ ih | sum _ ih | compared _ ih => exact ih he
  | negation hx =>
    cases he
    exact hx
  | _ => cases he

lemma Shape.ne_range_of_operand {x : Expr} (h : Shape .operand x) (a b : Expr) :
    x ≠ .range a b := by
  rintro rfl
  cases h with
  | plain h => cases h

lemma Shape.not_isNegation {e : Expr} (h : Shape .value e) : ¬ e.IsNegation := by
  rintro ⟨x, rfl⟩
  cases h

namespace Parser

def colonFirst (ts : List Token) : Bool := ts.head?.any (Token.isSymbol · .colon)

def operandBeforeColon (ts : List Token) : Bool :=
  match operand (depth ts.length) (.ofSource (.ofList ts)) with
  | .ok (some _) b => colonFirst b.rest
  | _ => false

/-- A minus sign negates an operand that a colon stands behind, where `ended` says that the token
before the stream ends an operand. -/
def negatesBeforeColon (ended : Bool) : List Token → Bool
  | [] => false
  | t :: ts =>
    t.isSymbol .subtract && minusRole ended ts = .negation && operandBeforeColon ts ||
      negatesBeforeColon t.endsOperand ts

variable {c : Call} {ts us rest : List Token} {a : Answer} {t u : Token} {s : Symbol}
  {e left : Expr} {ended : Bool} {es : List Expr}

lemma operandBeforeColon_of_reads (h : Reads none .operand ts (.expr e) rest) :
    operandBeforeColon ts = colonFirst rest := by
  have hr : Runs none (operand (depth ts.length)) ts (Exactly (some e) rest) Never :=
    given_of_reads h _
  have hp := (progress (depth ts.length)).operand (.ofSource (.ofList ts)) (by
    simp only [depth, Lookahead.unread, Lookahead.ofSource, Source.ofList, List.length_nil]
    omega)
  obtain ⟨b, hb⟩ := hr.exists_ok rfl rfl hp
  have hr := hr (.ofSource (.ofList ts)) rfl rfl
  rw [hb] at hr
  rw [operandBeforeColon, hb]
  exact congrArg colonFirst hr.2.2

lemma negates_cons (h : t.isSymbol .subtract = false) :
    negatesBeforeColon ended (t :: ts) = negatesBeforeColon t.endsOperand ts := by
  rw [negatesBeforeColon, h]
  rfl

lemma negation_mem_of_negates (h : negatesBeforeColon ended ts) :
    .negation ∈ minusRoles ended ts := by
  induction ts generalizing ended with
  | nil => cases h
  | cons t ts ih =>
    rw [negatesBeforeColon, Bool.or_eq_true] at h
    rw [minusRoles]
    rcases h with h | h
    · obtain ⟨⟨ht, hr⟩, -⟩ : (t.isSymbol .subtract ∧ _) ∧ _ := by simpa using h
      rw [if_pos ht, hr]
      exact List.mem_cons_self
    · split
      · exact List.mem_cons_of_mem _ (ih h)
      · exact ih h

lemma negates_word {w : Lexeme} (ht : t.lexeme = w) (hw : w.symbol? = none) :
    negatesBeforeColon ended (t :: ts) = negatesBeforeColon true ts := by
  have hn : t.symbol? = none := by rw [Token.symbol?, ht, hw]
  rw [negates_cons, Token.endsOperand_of_symbol?_eq_none hn]
  rw [Token.isSymbol, hn]
  rfl

lemma negates_symbol (ht : t.lexeme = .symbol s) (hs : s ≠ .subtract) :
    negatesBeforeColon ended (t :: ts) = negatesBeforeColon s.endsOperand ts := by
  rw [negates_cons, Token.endsOperand_of_symbol ht]
  rw [Token.isSymbol_of_symbol ht, beq_eq_false_iff_ne]
  exact hs

lemma negates_subtract (ht : t.lexeme = .symbol .subtract)
    (h : minusRole ended ts ≠ .negation) :
    negatesBeforeColon ended (t :: ts) = negatesBeforeColon false ts := by
  rw [negatesBeforeColon, Token.endsOperand_of_symbol ht, decide_eq_false h, Bool.and_false]
  rfl

lemma negates_flag (h : Stops none (Token.isSymbol · .subtract) ts) :
    negatesBeforeColon true ts = negatesBeforeColon false ts := by
  cases ts with
  | nil => rfl
  | cons t ts => rw [negates_cons h, negates_cons h]

lemma negates_step {step : Step} (ht : t.lexeme = .symbol s) (hs : Step.ofSymbol? s = some step) :
    negatesBeforeColon true (t :: ts) = negatesBeforeColon false ts := by
  cases s <;> cases hs <;> first
    | exact negates_subtract ht (by simp [minusRole])
    | exact negates_symbol ht (by decide)

lemma negates_comparator {op : Comparator} (ht : t.lexeme = .symbol op.symbol) :
    negatesBeforeColon ended (t :: ts) = negatesBeforeColon false ts := by
  cases op <;> exact negates_symbol ht (by decide)

lemma negates_negation (ht : t.lexeme = .symbol .subtract) (hs : Stops none Token.isNumber ts)
    (h : Reads none .operand ts (.expr e) rest) :
    negatesBeforeColon false (t :: ts) = (colonFirst rest || negatesBeforeColon false ts) := by
  rw [negatesBeforeColon, Token.endsOperand_of_symbol ht, Token.isSymbol_of_symbol ht,
    decide_eq_true (minusRole_of_stops hs), operandBeforeColon_of_reads h]
  rfl

lemma colonFirst_eq_false (h : Stops none (Token.isSymbol · .colon) ts) :
    colonFirst ts = false := by
  cases ts with
  | nil => rfl
  | cons t ts => exact h

def Found (left : Expr) (ts : List Token) : Prop :=
  left.NegatesInRange ∨ left.IsNegation ∧ colonFirst ts ∨ negatesBeforeColon true ts

lemma found_of_not_isNegation (h : ¬ e.IsNegation) :
    Found e ts ↔ e.NegatesInRange ∨ negatesBeforeColon true ts := by
  simp [Found, h]

lemma found_of_stops (h : Stops none (Token.isSymbol · .colon) ts) :
    Found e ts ↔ e.NegatesInRange ∨ negatesBeforeColon true ts := by
  simp [Found, colonFirst_eq_false h]

def Finds : Call → List Token → Answer → List Token → Prop
  | .compound, ts, .expr e, rest | .value, ts, .expr e, rest =>
    negatesBeforeColon false ts ↔ e.NegatesInRange ∨ negatesBeforeColon true rest
  | .operand, ts, .expr e, rest => negatesBeforeColon false ts ↔ Found e rest
  | .named _, ts, .expr e, rest =>
    negatesBeforeColon true ts ↔ e.NegatesInRange ∨ negatesBeforeColon true rest
  | .items _ _ _, ts, .list es, rest =>
    ∀ ended : Bool, (ended → Stops none Token.startsOperand ts) →
      (negatesBeforeColon ended ts ↔ (∃ e ∈ es, e.NegatesInRange) ∨ negatesBeforeColon true rest)
  | .immediateJoins left, ts, .expr e, rest | .tighterJoins _ left, ts, .expr e, rest
  | .join _ left, ts, .expr e, rest => Found left ts ↔ Found e rest
  | .chainSteps precedence _ _, ts, .steps operations, rest =>
    precedence < Symbol.colon.precedence →
    (negatesBeforeColon false ts ↔
      (∃ o ∈ operations, o.2.NegatesInRange) ∨ negatesBeforeColon true rest)
  | _, _, _, _ => True

lemma stops_colon_of_joinsAtOnce (h : Stops none Token.joinsAtOnce ts) :
    Stops none (Token.isSymbol · .colon) ts :=
  h.isSymbol fun _ ht => Token.joinsAtOnce_of_symbol ht

lemma stops_colon_of_bindsTighter {precedence : Nat} (hp : precedence < Symbol.colon.precedence)
    (h : Stops none (Token.bindsTighter precedence) ts) :
    Stops none (Token.isSymbol · .colon) ts := by
  refine h.isSymbol fun t ht => ?_
  rw [Token.bindsTighter_of_symbol ht, decide_eq_true hp]
  rfl

lemma stops_colon (ht : t.lexeme = .symbol s) (hs : s ≠ .colon) :
    Stops none (Token.isSymbol · .colon) (t :: ts) := by
  refine Token.isSymbol_eq_false_iff.mpr ?_
  rw [ht]
  rintro ⟨rfl⟩
  exact hs rfl

lemma Finds.join {e' : Expr} (ht : t.lexeme = .symbol s) (hs : s ≠ .colon) (hn : ¬ e'.IsNegation)
    (h : e.NegatesInRange ∨ negatesBeforeColon true (t :: ts) ↔
      e'.NegatesInRange ∨ negatesBeforeColon true rest) :
    Finds (.join t e) (t :: ts) (.expr e') rest :=
  (found_of_stops (stops_colon ht hs)).trans (h.trans (found_of_not_isNegation hn).symm)

lemma finds_range {r : Expr} (ht : t.lexeme = .symbol .colon)
    (h : negatesBeforeColon false ts ↔ r.NegatesInRange ∨ negatesBeforeColon true rest) :
    Finds (.join t left) (t :: ts) (.expr (.range left r)) rest := by
  have hc : colonFirst (t :: ts) = true := Token.isSymbol_iff.mpr ht
  have hs : negatesBeforeColon true (t :: ts) = negatesBeforeColon false ts :=
    negates_symbol ht (by decide)
  have hn : ¬ (Expr.range left r).IsNegation := by simp [Expr.IsNegation]
  simp only [Finds]
  rw [found_of_not_isNegation hn, Expr.negatesInRange_range, Found, hc, hs, h]
  simp only [and_true, or_assoc]
  exact or_left_comm

lemma finds_negation (ht : t.lexeme = .symbol .subtract) (hs : Stops none Token.isNumber ts)
    (hr : Reads none .operand ts (.expr e) rest) (h : negatesBeforeColon false ts ↔ Found e rest) :
    Finds .operand (t :: ts) (.expr (.chain [(.subtract, e)])) rest := by
  have he : (Expr.chain [(.subtract, e)]).IsNegation := ⟨e, rfl⟩
  simp only [Finds]
  rw [negates_negation ht hs hr, Bool.or_eq_true, h, Found, Found, Expr.negatesInRange_chain]
  constructor
  · rintro (hc | he | ⟨-, hc⟩ | hr)
    · exact .inr (.inl ⟨he, hc⟩)
    · exact .inl ⟨_, List.mem_singleton_self _, he⟩
    · exact .inr (.inl ⟨‹_›, hc⟩)
    · exact .inr (.inr hr)
  · rintro (⟨o, ho, he⟩ | ⟨-, hc⟩ | hr)
    · obtain rfl := List.mem_singleton.mp ho
      exact .inr (.inl he)
    · exact .inl hc
    · exact .inr (.inr (.inr hr))

-- The induction is on the derivation. A negation waits in Found until it is known whether a colon
-- stands behind it.
theorem finds_of_reads (h : Reads none c ts a rest) (hc : c.Closes) : Finds c ts a rest := by
  induction h with
  | last _ h' _ ih ih' =>
    refine ((ih trivial).trans (ih' trivial)).trans (found_of_stops ?_)
    exact stops_colon_of_joinsAtOnce h'.stops_immediateJoins
  | textJoin _ _ ht _ ih ih' ih'' =>
    refine ((ih trivial).trans (ih' trivial)).trans ?_
    rw [found_of_stops (stops_colon ht (by decide)), negates_symbol ht (by decide),
      Expr.negatesInRange_pair (.textJoin _ _) rfl (by simp), or_assoc]
    exact or_congr_right (ih'' trivial)
  | intersection _ h' _ ih ih' ih'' =>
    refine ((ih trivial).trans (ih' trivial)).trans ?_
    have hs := h'.stops_immediateJoins
    rw [found_of_stops (stops_colon_of_joinsAtOnce hs), negates_flag (stops_subtract hs),
      Expr.negatesInRange_pair (.intersection _ _) rfl (by simp), or_assoc]
    exact or_congr_right (ih'' trivial)
  | plain h ih =>
    have hn : ¬ Expr.IsNegation _ := Shape.not_isNegation (fits_of_reads h)
    exact (ih trivial).trans (found_of_not_isNegation hn).symm
  | negation ht hs h ih => exact finds_negation ht hs h (ih trivial)
  | literal ht _ ih =>
    simp only [Finds]
    rw [negates_word ht rfl]
    exact ih trivial
  | string ht | error ht | number ht =>
    simp only [Finds]
    rw [negates_word ht rfl, or_iff_right (Expr.not_negatesInRange _ rfl (by simp))]
  | @negative t u rest d ht hn =>
    have hm : minusRole false (u :: rest) ≠ .negation := by
      simp [minusRole, Token.isNumber, Lexeme.isNumber, hn]
    simp only [Finds]
    rw [negates_subtract ht hm, negates_word hn rfl,
      or_iff_right (Expr.not_negatesInRange _ rfl (by simp))]
  | brackets ht ht' =>
    simp only [Finds]
    rw [negates_symbol ht (by decide), negates_symbol ht' (by decide),
      Expr.negatesInRange_inner (.bracketed _) rfl (by simp),
      or_iff_right (Expr.not_negatesInRange _ rfl (by simp))]
    rfl
  | bracketed ht _ ht' ih =>
    have ih := ih trivial
    simp only [Finds] at ih ⊢
    rw [negates_symbol ht (by decide), Expr.negatesInRange_inner (.bracketed _) rfl (by simp)]
    refine ih.trans ?_
    rw [negates_symbol ht' (by decide)]
    rfl
  | columns ht _ ih =>
    simp only [Finds]
    rw [negates_symbol ht (by decide), Expr.negatesInRange_ofColumns]
    exact ih rfl false (by simp)
  | call ht _ ih =>
    simp only [Finds]
    rw [negates_symbol ht (by decide), Expr.negatesInRange_of_children (by simp)]
    exact ih rfl false (by simp)
  | truth | cell =>
    simp only [Finds]
    rw [or_iff_right (Expr.not_negatesInRange _ rfl (by simp))]
  | sheet _ ht _ ih =>
    simp only [Finds]
    rw [negates_symbol ht (by decide), Expr.negatesInRange_pair (.sheet _ _) rfl (by simp),
      or_iff_right (Expr.not_negatesInRange _ rfl (by simp))]
    exact ih trivial
  | table _ ht _ ih =>
    simp only [Finds]
    rw [Expr.negatesInRange_inner (.table _ _) rfl (by simp), negates_symbol ht (by decide),
      ← negates_symbol ht (by decide)]
    exact ih trivial
  | @comma _ _ slot _ _ _ es ht _ ih =>
    intro ended _
    have he : (∃ e ∈ slot.beforeComma es, e.NegatesInRange) ↔ ∃ e ∈ es, e.NegatesInRange := by
      cases slot <;> simp [Slot.beforeComma, Expr.not_negatesInRange .empty rfl (by simp)]
    rw [negates_symbol ht (by decide), he]
    exact ih hc false (by simp)
  | @close closer _ slot _ _ ht =>
    intro ended _
    have he : ¬ ∃ e ∈ slot.beforeClose, e.NegatesInRange := by
      cases slot <;> simp [Slot.beforeClose, Expr.not_negatesInRange .empty rfl (by simp)]
    have hc : closer.isClose = true := hc
    have hn : closer.endsOperand = true := by rw [Symbol.endsOperand, hc, Bool.true_or]
    rw [negates_symbol ht (by rintro rfl; cases hc), or_iff_right he, hn]
  | item _ _ h _ ih ih' =>
    rintro (_ | _) hs
    · have ih' := ih' hc true fun _ => h.stops_startsOperand
      refine (ih trivial).trans ?_
      rw [ih']
      simp [or_assoc]
    · obtain ⟨t, us, he, ht⟩ := h.starts (.inl rfl)
      cases he
      exact absurd (hs rfl) (by simp [Stops, ht])
  | immediateStop | tighterStop => exact Iff.rfl
  | immediateStep _ _ _ ih ih' | tighterStep _ _ _ ih ih' => exact (ih trivial).trans (ih' trivial)
  | range ht _ ih => exact finds_range ht (ih trivial)
  | percent ht =>
    refine .join ht (by decide) (by simp [Expr.IsNegation]) ?_
    rw [negates_symbol ht (by decide), Expr.negatesInRange_chain]
    simp [Symbol.endsOperand]
  | text ht _ ih =>
    refine .join ht (by decide) (by simp [Expr.IsNegation]) ?_
    rw [negates_symbol ht (by decide), Expr.negatesInRange_pair (.textJoin _ _) rfl (by simp),
      or_assoc]
    exact or_congr_right (ih trivial)
  | @maths s step t ts rest left operations ht hs _ ih =>
    have hp : s.precedence < Symbol.colon.precedence := by cases s <;> cases hs <;> decide
    have ih := ih trivial hp
    refine .join ht (by rintro rfl; cases hs) (by simp [Expr.IsNegation]) ?_
    rw [negates_step ht hs, Expr.negatesInRange_chain, ih]
    simp [or_assoc]
  | @comparison _ _ _ _ op _ _ _ ht h h' ih ih' =>
    have hp : op.symbol.precedence < Symbol.colon.precedence := by rw [op.precedence_symbol]; decide
    refine .join ht (by cases op <;> decide) (by simp [Expr.IsNegation]) ?_
    rw [negates_comparator ht, Expr.negatesInRange_pair (.comparison _ _ _) rfl (by simp), or_assoc]
    refine or_congr_right (((ih trivial).trans (ih' trivial)).trans (found_of_stops ?_))
    exact stops_colon_of_bindsTighter hp h'.stops_tighterJoins
  | lastStep h h' _ ih ih' =>
    intro hp
    refine ((ih trivial).trans (ih' trivial)).trans ?_
    rw [found_of_stops (stops_colon_of_bindsTighter hp h'.stops_tighterJoins)]
    simp
  | nextStep h h' ht _ ih ih' ih'' =>
    intro hp
    obtain ⟨s, ht, -, hs⟩ := Token.chainStep?_eq_some_iff.mp ht
    refine ((ih trivial).trans (ih' trivial)).trans ?_
    rw [found_of_stops (stops_colon_of_bindsTighter hp h'.stops_tighterJoins), negates_step ht hs,
      ih'' trivial hp]
    simp [or_assoc]

end Parser

namespace Formula

variable {source : Source Token LexicalError} {ts : List Token} {e x y : Expr}

structure RangesBindTighterWhen (source : Source Token LexicalError) (e : Expr) : Prop where
  exactly : e.RangesBindTighter ↔ Parser.negatesBeforeColon false source.items = false
  unnegated : .negation ∉ minusRoles false source.items → e.RangesBindTighter
  operand : ∀ x, (Expr.chain [(.subtract, x)]).Within e → ∀ a b, x ≠ .range a b

theorem rangesBindTighter_of_parseTokens (h : parseTokens source = .ok (some e)) :
    RangesBindTighterWhen source e := by
  obtain ⟨-, hr⟩ := reads_of_parseTokens h
  have hf : Parser.negatesBeforeColon false source.items ↔
      e.NegatesInRange ∨ Parser.negatesBeforeColon true [] := Parser.finds_of_reads hr trivial
  have he : e.RangesBindTighter ↔ Parser.negatesBeforeColon false source.items = false := by
    rw [Expr.rangesBindTighter_iff, ← Bool.not_eq_true, hf]
    exact not_congr (or_iff_left Bool.false_ne_true).symm
  refine ⟨he, fun hn => he.mpr ?_, fun x hw => ?_⟩
  · exact Bool.eq_false_iff.mpr fun hs => hn (Parser.negation_mem_of_negates hs)
  · have hs : Shape .compound e := Parser.fits_of_reads hr
    cases (Part.shaped hs).within hw with
    | shaped h => exact (h.operand_of_negation rfl).ne_range_of_operand

-- `-A+B:C`
def negatedAndRange : Source Token LexicalError :=
  .ofList [⟨.symbol .subtract, 0, 1⟩, ⟨.literal "A", 1, 2⟩, ⟨.symbol .add, 2, 3⟩,
    ⟨.literal "B", 3, 4⟩, ⟨.symbol .colon, 4, 5⟩, ⟨.literal "C", 5, 6⟩]

theorem rangesBindTighter_negatedAndRange :
    let e : Expr := .chain [(.start, .chain [(.subtract, .cell "A")]),
      (.add, .range (.cell "B") (.cell "C"))]
    parseTokens negatedAndRange = .ok (some e) ∧ e.RangesBindTighter := by
  intro e
  have h : parseTokens negatedAndRange = .ok (some e) := rfl
  exact ⟨h, (rangesBindTighter_of_parseTokens h).exactly.mpr rfl⟩

theorem parseTokens_negated_range (hx : Shape .operand x) (hy : Shape .value y)
    (hlx : ∀ s : Expr, s.Within x → Legible s) (hly : ∀ s : Expr, s.Within y → Legible s)
    (hd : ∀ d, x = .number d → d.negative)
    (ht : ts.map Token.lexeme = .symbol .subtract :: (x.written ++ .symbol .colon :: y.written)) :
    parseTokens (.ofList ts) = .ok (some (.range (.chain [(.subtract, x)]) y)) := by
  have hn : Legible (.chain [(.subtract, x)]) := by
    refine ⟨by simp, by simp, fun d he => hd d ?_, by simp⟩
    simpa using he
  have hr : Legible (.range (.chain [(.subtract, x)]) y) := by constructor <;> simp
  refine parseTokens_of_written (.compound_of_factor (.range (.operand (.negation hx)) hy)) ?_ ?_
  · exact hr.within (forall_mem_pair (hn.within (List.forall_mem_singleton.mpr hlx)) hly)
  · rw [ht]
    simp [Expr.written, Expr.writtenSteps, Step.around]

-- `-A1:B1`
def negatedRange : Source Token LexicalError :=
  .ofList [⟨.symbol .subtract, 0, 1⟩, ⟨.literal "A1", 1, 3⟩, ⟨.symbol .colon, 3, 4⟩,
    ⟨.literal "B1", 4, 6⟩]

theorem range_of_negation :
    ¬ ∀ source e, parseTokens source = .ok (some e) → e.RangesBindTighter := by
  intro h
  have hp : parseTokens negatedRange =
      .ok (some (.range (.chain [(.subtract, .cell "A1")]) (.cell "B1"))) := rfl
  exact h _ _ hp _ _ .self ⟨_, rfl⟩

end Formula

end CellFormula
