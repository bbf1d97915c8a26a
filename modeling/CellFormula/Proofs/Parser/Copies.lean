import CellFormula.Proofs.Parser.Completeness

/-! A derivation looks at what the tokens say and not at where they stand, and behind its last
token at no more than that nothing joins there. So what it leaves may be replaced by anything else
at which it stops, and it may be moved before a separator. -/

namespace CellFormula

def Symbol.separates (s : Symbol) : Bool := s == .comma || s.isClose

namespace Parser

variable {fin fin' : Option LexicalError} {ts ts' us rest more old new : List Token}
  {t t' : Token} {s : Symbol} {c : Call} {a : Answer}

def Separated (fin : Option LexicalError) : List Token → Prop
  | [] => fin = none
  | t :: _ => ∃ s, t.lexeme = .symbol s ∧ s.separates

def Copies (more ts ts' : List Token) : Prop :=
  ∃ us, us.map Token.lexeme = ts.map Token.lexeme ∧ ts' = us ++ more

lemma copies_nil : Copies more [] more := ⟨[], rfl, rfl⟩

lemma copies_iff : Copies more [] ts' ↔ ts' = more := by
  constructor
  · rintro ⟨us, hu, rfl⟩
    obtain rfl := List.map_eq_nil_iff.mp hu
    rfl
  · rintro rfl
    exact copies_nil

lemma Copies.cons (h : Copies more (t :: ts) ts') :
    ∃ t' us, ts' = t' :: us ∧ t'.lexeme = t.lexeme ∧ Copies more ts us := by
  obtain ⟨us, hu, rfl⟩ := h
  obtain ⟨t', us, rfl, ht, hu⟩ := List.map_eq_cons_iff.mp hu
  exact ⟨t', us ++ more, rfl, ht, us, hu, rfl⟩

structure Blind (test : Token → Bool) : Prop where
  copy : ∀ {t t' : Token}, t'.lexeme = t.lexeme → test t' = test t
  separator : ∀ {t s}, t.lexeme = .symbol s → s.separates → test t = false

lemma Separated.stops {test : Token → Bool} (h : Separated fin more) (ht : Blind test) :
    Stops fin test more := by
  cases more with
  | nil => exact h
  | cons t ts =>
    obtain ⟨s, hs, hsep⟩ := h
    exact ht.separator hs hsep

def Replaces (fin : Option LexicalError) (old : List Token) (fin' : Option LexicalError)
    (new : List Token) : Prop :=
  ∀ test, Blind test → Stops fin test old → Stops fin' test new

def Swaps (old new ts ts' : List Token) : Prop := ∃ us, ts = us ++ old ∧ Copies new us ts'

lemma swaps_self_iff : Swaps old new old ts' ↔ ts' = new := by
  constructor
  · rintro ⟨us, hu, hc⟩
    obtain rfl := List.self_eq_append_left.mp hu
    exact copies_iff.mp hc
  · rintro rfl
    exact ⟨[], rfl, copies_nil⟩

lemma Swaps.cons (h : Swaps old new (t :: ts) ts') (ho : old <:+ ts) :
    ∃ t' us, ts' = t' :: us ∧ t'.lexeme = t.lexeme ∧ Swaps old new ts us := by
  obtain ⟨us, hu, hc⟩ := h
  cases us with
  | nil =>
    have hl := ho.length_le
    rw [← show t :: ts = old from hu, List.length_cons] at hl
    omega
  | cons u us =>
    obtain ⟨rfl, rfl⟩ := List.cons.inj hu
    obtain ⟨t', vs, rfl, ht, hc⟩ := hc.cons
    exact ⟨t', vs, rfl, ht, us, rfl, hc⟩

lemma Stops.swap {test : Token → Bool} (h : Stops fin test ts) (ht : Blind test)
    (hn : Replaces fin old fin' new) (hs : Swaps old new ts ts') : Stops fin' test ts' := by
  obtain ⟨us, rfl, hc⟩ := hs
  cases us with
  | nil => exact copies_iff.mp hc ▸ hn test ht h
  | cons u us =>
    obtain ⟨u', vs, rfl, hu, -⟩ := hc.cons
    exact (ht.copy hu).trans h

section Tests

lemma symbol?_copy (h : t'.lexeme = t.lexeme) : t'.symbol? = t.symbol? :=
  congrArg Lexeme.symbol? h

lemma chainStep?_copy (h : t'.lexeme = t.lexeme) (precedence : Nat) :
    t'.chainStep? precedence = t.chainStep? precedence := by
  rw [Token.chainStep?, symbol?_copy h, Token.chainStep?]

lemma isSymbol_copy (h : t'.lexeme = t.lexeme) (s : Symbol) : t'.isSymbol s = t.isSymbol s := by
  rw [Token.isSymbol, symbol?_copy h, Token.isSymbol]

lemma blind_isSymbol (hs : s.separates = false) : Blind (Token.isSymbol · s) where
  copy h := isSymbol_copy h s
  separator ht hsep := by
    rw [Token.isSymbol_of_symbol ht, beq_eq_false_iff_ne]
    rintro rfl
    rw [hsep] at hs
    cases hs

lemma blind_isNumber : Blind Token.isNumber where
  copy h := by rw [Token.isNumber, h, Token.isNumber]
  separator ht _ := congrArg Lexeme.isNumber ht

lemma blind_continues : Blind Token.continues where
  copy h := by
    simp only [Token.continues, Token.startsOperand, isSymbol_copy h, symbol?_copy h]
  separator {t s} ht hsep := by
    rw [Token.continues, Token.isSymbol_of_symbol ht, Token.startsOperand_of_symbol ht]
    revert hsep
    cases s <;> decide

lemma blind_qualifies : Blind Token.qualifies where
  copy h := by simp only [Token.qualifies, isSymbol_copy h]
  separator {t s} ht hsep := by
    rw [Token.qualifies_of_symbol ht]
    revert hsep
    cases s <;> decide

lemma blind_joinsAtOnce : Blind Token.joinsAtOnce where
  copy h := by rw [Token.joinsAtOnce, symbol?_copy h, Token.joinsAtOnce]
  separator {t s} ht hsep := by
    rw [Token.joinsAtOnce_of_symbol ht]
    revert hsep
    cases s <;> decide

lemma blind_bindsTighter {precedence : Nat} : Blind (Token.bindsTighter precedence) where
  copy h := by rw [Token.bindsTighter, symbol?_copy h, Token.bindsTighter]
  separator {t s} ht hsep := by
    have hj : s.joins = false := by
      revert hsep
      cases s <;> decide
    rw [Token.bindsTighter_of_symbol ht, hj, Bool.false_and]

lemma blind_chainStep {precedence : Nat} : Blind fun t => (t.chainStep? precedence).isSome where
  copy h := by rw [chainStep?_copy h]
  separator {t s} ht hsep := by
    have hs : Step.ofSymbol? s = none := by
      revert hsep
      cases s <;> decide
    rw [Option.isSome_eq_false_iff, Option.isNone_iff_eq_none, Option.eq_none_iff_forall_ne_some]
    intro step h
    obtain ⟨s', hs', -, hstep⟩ := Token.chainStep?_eq_some_iff.mp h
    obtain rfl := Lexeme.symbol.inj (ht.symm.trans hs')
    rw [hs] at hstep
    cases hstep

end Tests

/-- With other tokens behind what it takes, the call answers the same. The tokens that it was made
with may be copies. -/
def Survives (fin' : Option LexicalError) (old new : List Token) :
    Call → List Token → Answer → List Token → Prop
  | .items closer _ slot, ts, a, rest => old <:+ rest → ∀ opener ts', Swaps old new ts ts' →
    ∃ rest', Swaps old new rest rest' ∧ Reads fin' (.items closer opener slot) ts' a rest'
  | .join t left, ts, a, rest => old <:+ rest → ∀ t' ts', t'.lexeme = t.lexeme →
    Swaps old new ts (t' :: ts') →
    ∃ rest', Swaps old new rest rest' ∧ Reads fin' (.join t' left) (t' :: ts') a rest'
  | .chainSteps precedence step _, ts, a, rest => old <:+ rest → ∀ operator ts',
    Swaps old new ts ts' → ∃ rest', Swaps old new rest rest' ∧
      Reads fin' (.chainSteps precedence step operator) ts' a rest'
  | c, ts, a, rest => old <:+ rest → ∀ ts', Swaps old new ts ts' →
    ∃ rest', Swaps old new rest rest' ∧ Reads fin' c ts' a rest'

-- The induction is on the derivation. Each case takes the copies of the tokens that its rule takes
-- and moves the parts along; what is replaced stands behind each part.
theorem survives_of_reads (hn : Replaces fin old fin' new) (h : Reads fin c ts a rest) :
    Survives fin' old new c ts a rest := by
  induction h with
  | last _ hj hs ih ih' =>
    intro ho ts' hc
    obtain ⟨us, hu, h⟩ := ih (ho.trans hj.suffix) ts' hc
    obtain ⟨rest', hr, h'⟩ := ih' ho us hu
    exact ⟨rest', hr, .last h h' (hs.swap blind_continues hn hr)⟩
  | textJoin _ hj ht hr ih ih' ih'' =>
    intro ho ts' hc
    have hv := ho.trans hr.suffix
    obtain ⟨us, hu, h⟩ := ih ((hv.trans (List.suffix_cons _ _)).trans hj.suffix) ts' hc
    obtain ⟨vs, hvs, h'⟩ := ih' (hv.trans (List.suffix_cons _ _)) us hu
    obtain ⟨t', vs, rfl, ht', hvs⟩ := hvs.cons hv
    obtain ⟨rest', hr, h''⟩ := ih'' ho vs hvs
    exact ⟨rest', hr, .textJoin h h' (ht'.trans ht) h''⟩
  | intersection _ hj hr ih ih' ih'' =>
    intro ho ts' hc
    have hv := ho.trans hr.suffix
    obtain ⟨us, hu, h⟩ := ih (hv.trans hj.suffix) ts' hc
    obtain ⟨vs, hv, h'⟩ := ih' hv us hu
    obtain ⟨rest', hr, h''⟩ := ih'' ho vs hv
    exact ⟨rest', hr, .intersection h h' h''⟩
  | plain _ ih =>
    intro ho ts' hc
    obtain ⟨rest', hr, h⟩ := ih ho ts' hc
    exact ⟨rest', hr, .plain h⟩
  | negation ht hs hr ih =>
    intro ho ts' hc
    obtain ⟨t', us, rfl, ht', hu⟩ := hc.cons (ho.trans hr.suffix)
    obtain ⟨rest', hr, h⟩ := ih ho us hu
    exact ⟨rest', hr, .negation (ht'.trans ht) (hs.swap blind_isNumber hn hu) h⟩
  | literal ht hr ih =>
    intro ho ts' hc
    obtain ⟨t', us, rfl, ht', hu⟩ := hc.cons (ho.trans hr.suffix)
    obtain ⟨rest', hr, h⟩ := ih ho us hu
    exact ⟨rest', hr, .literal (ht'.trans ht) h⟩
  | string ht =>
    intro ho ts' hc
    obtain ⟨t', us, rfl, ht', hu⟩ := hc.cons ho
    exact ⟨us, hu, .string (ht'.trans ht)⟩
  | error ht =>
    intro ho ts' hc
    obtain ⟨t', us, rfl, ht', hu⟩ := hc.cons ho
    exact ⟨us, hu, .error (ht'.trans ht)⟩
  | number ht =>
    intro ho ts' hc
    obtain ⟨t', us, rfl, ht', hu⟩ := hc.cons ho
    exact ⟨us, hu, .number (ht'.trans ht)⟩
  | negative ht hd =>
    intro ho ts' hc
    obtain ⟨t', us, rfl, ht', hu⟩ := hc.cons (ho.trans (List.suffix_cons _ _))
    obtain ⟨u', us, rfl, hu', hu⟩ := hu.cons ho
    exact ⟨us, hu, .negative (ht'.trans ht) (hu'.trans hd)⟩
  | brackets ht hc =>
    intro ho ts' hs
    obtain ⟨t', us, rfl, ht', hu⟩ := hs.cons (ho.trans (List.suffix_cons _ _))
    obtain ⟨c', us, rfl, hc', hu⟩ := hu.cons ho
    exact ⟨us, hu, .brackets (ht'.trans ht) (hc'.trans hc)⟩
  | bracketed ht hr hc ih =>
    intro ho ts' hs
    obtain ⟨t', us, rfl, ht', hu⟩ := hs.cons ((ho.trans (List.suffix_cons _ _)).trans hr.suffix)
    obtain ⟨vs, hv, h⟩ := ih (ho.trans (List.suffix_cons _ _)) us hu
    obtain ⟨c', vs, rfl, hc', hv⟩ := hv.cons ho
    exact ⟨vs, hv, .bracketed (ht'.trans ht) h (hc'.trans hc)⟩
  | columns ht hr ih =>
    intro ho ts' hc
    obtain ⟨t', us, rfl, ht', hu⟩ := hc.cons (ho.trans hr.suffix)
    obtain ⟨rest', hr, h⟩ := ih ho t' us hu
    exact ⟨rest', hr, .columns (ht'.trans ht) h⟩
  | call ht hr ih =>
    intro ho ts' hc
    obtain ⟨t', us, rfl, ht', hu⟩ := hc.cons (ho.trans hr.suffix)
    obtain ⟨rest', hr, h⟩ := ih ho t' us hu
    exact ⟨rest', hr, .call (ht'.trans ht) h⟩
  | truth hb hs =>
    exact fun _ ts' hc => ⟨ts', hc, .truth hb (hs.swap (blind_isSymbol rfl) hn hc)⟩
  | sheet hb ht hr ih =>
    intro ho ts' hc
    obtain ⟨t', us, rfl, ht', hu⟩ := hc.cons (ho.trans hr.suffix)
    obtain ⟨rest', hr, h⟩ := ih ho us hu
    exact ⟨rest', hr, .sheet hb (ht'.trans ht) h⟩
  | table hb ht hr ih =>
    intro ho ts' hc
    obtain ⟨rest', hr', h⟩ := ih ho ts' hc
    obtain ⟨t', us, rfl, ht', -⟩ := hc.cons (ho.trans (hr.tail_suffix rfl))
    exact ⟨rest', hr', .table hb (ht'.trans ht) h⟩
  | cell hb hs => exact fun _ ts' hc => ⟨ts', hc, .cell hb (hs.swap blind_qualifies hn hc)⟩
  | comma ht hr ih =>
    intro ho opener ts' hc
    obtain ⟨t', us, rfl, ht', hu⟩ := hc.cons (ho.trans hr.suffix)
    obtain ⟨rest', hr, h⟩ := ih ho opener us hu
    exact ⟨rest', hr, .comma (ht'.trans ht) h⟩
  | close ht hne =>
    intro ho opener ts' hc
    obtain ⟨t', us, rfl, ht', hu⟩ := hc.cons ho
    exact ⟨us, hu, .close (ht'.trans ht) hne⟩
  | item hcomma hcloser he hr ih ih' =>
    intro ho opener ts' hc
    have hu := ho.trans hr.suffix
    obtain ⟨us, hu', h⟩ := ih hu ts' hc
    obtain ⟨rest', hr, h'⟩ := ih' ho opener us hu'
    obtain ⟨t', ts', rfl, ht', -⟩ := hc.cons (hu.trans (he.tail_suffix rfl))
    exact ⟨rest', hr, .item (ht' ▸ hcomma) (ht' ▸ hcloser) h h'⟩
  | immediateStop hs =>
    exact fun _ ts' hc => ⟨ts', hc, .immediateStop (hs.swap blind_joinsAtOnce hn hc)⟩
  | immediateStep ht hj hr ih ih' =>
    intro ho ts' hc
    have hu := ho.trans hr.suffix
    obtain ⟨t', us, rfl, ht', -⟩ := hc.cons (hu.trans (hj.tail_suffix rfl))
    obtain ⟨vs, hv, h⟩ := ih hu t' us ht' hc
    obtain ⟨rest', hr, h'⟩ := ih' ho vs hv
    exact ⟨rest', hr, .immediateStep ((blind_joinsAtOnce.copy ht').trans ht) h h'⟩
  | tighterStop hs =>
    exact fun _ ts' hc => ⟨ts', hc, .tighterStop (hs.swap blind_bindsTighter hn hc)⟩
  | tighterStep ht hj hr ih ih' =>
    intro ho ts' hc
    have hu := ho.trans hr.suffix
    obtain ⟨t', us, rfl, ht', -⟩ := hc.cons (hu.trans (hj.tail_suffix rfl))
    obtain ⟨vs, hv, h⟩ := ih hu t' us ht' hc
    obtain ⟨rest', hr, h'⟩ := ih' ho vs hv
    exact ⟨rest', hr, .tighterStep ((blind_bindsTighter.copy ht').trans ht) h h'⟩
  | range ht hr ih =>
    intro ho t' ts' ht' hc
    obtain ⟨_, us, ⟨rfl, rfl⟩, -, hu⟩ := hc.cons (ho.trans hr.suffix)
    obtain ⟨rest', hr, h⟩ := ih ho ts' hu
    exact ⟨rest', hr, .range (ht'.trans ht) h⟩
  | percent ht =>
    intro ho t' ts' ht' hc
    obtain ⟨_, us, ⟨rfl, rfl⟩, -, hu⟩ := hc.cons ho
    exact ⟨ts', hu, .percent (ht'.trans ht)⟩
  | text ht hr ih =>
    intro ho t' ts' ht' hc
    obtain ⟨_, us, ⟨rfl, rfl⟩, -, hu⟩ := hc.cons (ho.trans hr.suffix)
    obtain ⟨rest', hr, h⟩ := ih ho ts' hu
    exact ⟨rest', hr, .text (ht'.trans ht) h⟩
  | maths ht hs hr ih =>
    intro ho t' ts' ht' hc
    obtain ⟨_, us, ⟨rfl, rfl⟩, -, hu⟩ := hc.cons (ho.trans hr.suffix)
    obtain ⟨rest', hr, h⟩ := ih ho t' ts' hu
    exact ⟨rest', hr, .maths (ht'.trans ht) hs h⟩
  | comparison ht he hr ih ih' =>
    intro ho t' ts' ht' hc
    have hu := ho.trans hr.suffix
    obtain ⟨_, us, ⟨rfl, rfl⟩, -, hu'⟩ := hc.cons (hu.trans he.suffix)
    obtain ⟨vs, hv, h⟩ := ih hu ts' hu'
    obtain ⟨rest', hr, h'⟩ := ih' ho vs hv
    exact ⟨rest', hr, .comparison (ht'.trans ht) h h'⟩
  | lastStep _ hj hs ih ih' =>
    intro ho operator ts' hc
    obtain ⟨us, hu, h⟩ := ih (ho.trans hj.suffix) ts' hc
    obtain ⟨rest', hr, h'⟩ := ih' ho us hu
    exact ⟨rest', hr, .lastStep h h' (hs.swap blind_chainStep hn hr)⟩
  | nextStep _ hj ht hr ih ih' ih'' =>
    intro ho operator ts' hc
    have hv := ho.trans hr.suffix
    obtain ⟨us, hu, h⟩ := ih ((hv.trans (List.suffix_cons _ _)).trans hj.suffix) ts' hc
    obtain ⟨vs, hvs, h'⟩ := ih' (hv.trans (List.suffix_cons _ _)) us hu
    obtain ⟨t', vs, rfl, ht', hvs⟩ := hvs.cons hv
    obtain ⟨rest', hr, h''⟩ := ih'' ho t' vs hvs
    exact ⟨rest', hr, .nextStep h h' ((chainStep?_copy ht' _).trans ht) h''⟩

def Repeats (fin : Option LexicalError) (more : List Token) :
    Call → List Token → Answer → List Token → Prop
  | .items closer _ slot, ts, a, rest => ∀ opener ts', Copies more ts ts' →
    ∃ rest', Copies more rest rest' ∧ Reads fin (.items closer opener slot) ts' a rest'
  | .join t left, ts, a, rest => ∀ t' ts', t'.lexeme = t.lexeme → Copies more ts (t' :: ts') →
    ∃ rest', Copies more rest rest' ∧ Reads fin (.join t' left) (t' :: ts') a rest'
  | .chainSteps precedence step _, ts, a, rest => ∀ operator ts', Copies more ts ts' →
    ∃ rest', Copies more rest rest' ∧ Reads fin (.chainSteps precedence step operator) ts' a rest'
  | c, ts, a, rest => ∀ ts', Copies more ts ts' →
    ∃ rest', Copies more rest rest' ∧ Reads fin c ts' a rest'

lemma Reads.head?_join {left : Expr} (h : Reads fin (.join t left) ts a rest) :
    ts.head? = some t := by
  cases h <;> rfl

theorem reads_of_replaces (hn : Replaces fin old fin' new) (h : Reads fin c (us ++ old) a old) :
    Reads fin' c (us ++ new) a new := by
  have hs := survives_of_reads hn h
  have hsw : Swaps old new (us ++ old) (us ++ new) := ⟨us, rfl, us, rfl, rfl⟩
  have hr {c : Call} (h : ∃ rest, Swaps old new old rest ∧ Reads fin' c (us ++ new) a rest) :
      Reads fin' c (us ++ new) a new := by
    obtain ⟨rest, hrest, h⟩ := h
    exact swaps_self_iff.mp hrest ▸ h
  cases c with
  | items closer opener slot => exact hr (hs List.suffix_rfl opener _ hsw)
  | chainSteps precedence step operator => exact hr (hs List.suffix_rfl operator _ hsw)
  | join t left =>
    cases us with
    | nil => exact (Nat.lt_irrefl _ (h.length_lt rfl)).elim
    | cons u us =>
      obtain rfl := Option.some.inj h.head?_join
      exact hr (hs List.suffix_rfl u _ rfl hsw)
  | _ => exact hr (hs List.suffix_rfl _ hsw)

lemma swaps_nil_iff : Swaps [] more ts ts' ↔ Copies more ts ts' := by
  simp [Swaps]

theorem repeats_of_reads (hm : Separated fin more) (h : Reads none c ts a rest) :
    Repeats fin more c ts a rest := by
  have hs : Survives fin [] more c ts a rest :=
    survives_of_reads (fun _ ht _ => hm.stops ht) h
  cases c <;> simpa only [Survives, Repeats, swaps_nil_iff, List.nil_suffix, true_imp_iff] using hs

end Parser

namespace Formula

open CellFormula.Parser

variable {source source' : Source Token LexicalError}

lemma parseTokens_copy (hf : source'.failure = none)
    (hi : source'.items.map Token.lexeme = source.items.map Token.lexeme) {o : Option Expr}
    (h : parseTokens source = .ok o) : parseTokens source' = .ok o := by
  obtain ⟨items', _⟩ := source'
  obtain rfl := hf
  obtain ⟨-, -, hr⟩ := run_of_parseTokens h
  cases o with
  | none =>
    have hr : source.items = [] := hr
    rw [hr, List.map_nil] at hi
    obtain rfl := List.map_eq_nil_iff.mp hi
    rfl
  | some e =>
    have hc : Copies [] source.items items' := ⟨items', hi, (List.append_nil _).symm⟩
    have hm : Separated none [] := rfl
    obtain ⟨rest, hrest, hr⟩ := repeats_of_reads hm hr items' hc
    obtain rfl := copies_iff.mp hrest
    exact parseTokens_eq_some_iff.mpr hr

end Formula

end CellFormula
