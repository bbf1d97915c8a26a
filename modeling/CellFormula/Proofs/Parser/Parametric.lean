import CellFormula.Proofs.Parser.Fixpoint
import CellFormula.Proofs.Parser.Query
import CellFormula.Proofs.Parser.Refusal

/-! The rules treat alike what is alike. They tell tokens apart by their kinds, and what tokens say
goes into the tree unseen. So a relation between readers that the actions on the lookahead respect
is respected by every rule. -/

namespace CellFormula

inductive Kind where
  | literal (truth : Option Bool)
  | string | error | number
  | symbol (s : Symbol)
  deriving DecidableEq

def Kind.speaks : Kind → Bool
  | symbol _ => false
  | literal _ | string | error | number => true

def Token.kind (t : Token) : Kind :=
  match t.lexeme with
  | .literal name => .literal (truthValue? name)
  | .string _ => .string
  | .error _ => .error
  | .number _ | .special _ => .number
  | .symbol s => .symbol s

inductive Lexeme.Alike : Lexeme → Lexeme → Prop
  | literal {name name'} : truthValue? name = truthValue? name' →
      Alike (.literal name) (.literal name')
  | string {text text'} : Alike (.string text) (.string text')
  | error {code code'} : Alike (.error code) (.error code')
  | number {d d'} : Alike (.number d) (.number d')
  | special {s s'} : Alike (.special s) (.special s')
  | numberSpecial {d s} : Alike (.number d) (.special s)
  | specialNumber {s d} : Alike (.special s) (.number d)
  | symbol {s} : Alike (.symbol s) (.symbol s)

lemma Token.alike_of_kind {t t' : Token} (h : t.kind = t'.kind) : t.lexeme.Alike t'.lexeme := by
  unfold kind at h
  generalize t.lexeme = l, t'.lexeme = l' at h
  cases l <;> cases l' <;> simp only [reduceCtorEq, Kind.literal.injEq, Kind.symbol.injEq] at h
  · exact .literal h
  · exact .string
  · exact .error
  · exact .number
  · exact .numberSpecial
  · exact .specialNumber
  · exact .special
  · obtain rfl := h
    exact .symbol

/-- A place in a stream: the number of tokens before it, and of those that say something, which are
all but the symbols. -/
structure Mark where
  index : Nat
  said : Nat

namespace Mark

def start : Mark := ⟨0, 0⟩

def past (m : Mark) (t : Token) : Mark :=
  ⟨m.index + 1, if t.symbol?.isSome then m.said else m.said + 1⟩

lemma said_past_of_symbol {m : Mark} {t : Token} {s : Symbol} (h : t.symbol? = some s) :
    (m.past t).said = m.said := by
  rw [past, h, Option.isSome_some, if_pos rfl]

lemma said_past_of_none {m : Mark} {t : Token} (h : t.symbol? = none) :
    (m.past t).said = m.said + 1 := by
  rw [past, h, Option.isSome_none, if_neg Bool.false_ne_true]

end Mark

section Corresponds

variable (R : Nat → Token → Token → Prop)

def NamesCorrespond (n : Nat) (name name' : String) : Prop :=
  ∃ t t', R n t t' ∧ t.lexeme = .literal name ∧ t'.lexeme = .literal name'

mutual

/-- Trees of one shape whose values and names are, from left to right, what the related tokens with
the numbers from `n` up to `m` say. -/
inductive Expr.Corresponds : Nat → Nat → Expr → Expr → Prop
  | empty {n} : Expr.Corresponds n n .empty .empty
  | string {n t t' text text'} : R n t t' → t.lexeme = .string text → t'.lexeme = .string text' →
      Expr.Corresponds n (n + 1) (.string text) (.string text')
  | error {n t t' code code'} : R n t t' → t.lexeme = .error code → t'.lexeme = .error code' →
      Expr.Corresponds n (n + 1) (.error code) (.error code')
  | number {n t t' d d'} : R n t t' → t.lexeme = .number d → t'.lexeme = .number d' →
      Expr.Corresponds n (n + 1) (.number d) (.number d')
  | negative {n t t' d d'} : R n t t' → t.lexeme = .number d → t'.lexeme = .number d' →
      Expr.Corresponds n (n + 1) (.number d.negate) (.number d'.negate)
  | boolean {n name name' b} : NamesCorrespond R n name name' → truthValue? name = some b →
      truthValue? name' = some b → Expr.Corresponds n (n + 1) (.boolean b) (.boolean b)
  | cell {n name name'} : NamesCorrespond R n name name' →
      Expr.Corresponds n (n + 1) (.cell name) (.cell name')
  | bracketed {n m e e'} : Expr.Corresponds n m e e' →
      Expr.Corresponds n m (.bracketed e) (.bracketed e')
  | call {n m name name' es es'} : NamesCorrespond R n name name' →
      Expr.AllCorrespond (n + 1) m es es' → Expr.Corresponds n m (.call name es) (.call name' es')
  | comparison {n k m op l l' r r'} : Expr.Corresponds n k l l' → Expr.Corresponds k m r r' →
      Expr.Corresponds n m (.comparison op l r) (.comparison op l' r')
  | chain {n m os os'} : Expr.StepsCorrespond n m os os' →
      Expr.Corresponds n m (.chain os) (.chain os')
  | intersection {n k m l l' r r'} : Expr.Corresponds n k l l' → Expr.Corresponds k m r r' →
      Expr.Corresponds n m (.intersection l r) (.intersection l' r')
  | union {n m es es'} : Expr.AllCorrespond n m es es' →
      Expr.Corresponds n m (.union es) (.union es')
  | textJoin {n k m l l' r r'} : Expr.Corresponds n k l l' → Expr.Corresponds k m r r' →
      Expr.Corresponds n m (.textJoin l r) (.textJoin l' r')
  | range {n k m l l' r r'} : Expr.Corresponds n k l l' → Expr.Corresponds k m r r' →
      Expr.Corresponds n m (.range l r) (.range l' r')
  | sheet {n k m l l' r r'} : Expr.Corresponds n k l l' → Expr.Corresponds k m r r' →
      Expr.Corresponds n m (.sheet l r) (.sheet l' r')
  | structured {n m e e'} : Expr.Corresponds n m e e' →
      Expr.Corresponds n m (.structured e) (.structured e')
  | table {n m name name' e e'} : NamesCorrespond R n name name' →
      Expr.Corresponds (n + 1) m e e' → Expr.Corresponds n m (.table name e) (.table name' e')

inductive Expr.AllCorrespond : Nat → Nat → List Expr → List Expr → Prop
  | nil {n} : Expr.AllCorrespond n n [] []
  | cons {n k m e e' es es'} : Expr.Corresponds n k e e' → Expr.AllCorrespond k m es es' →
      Expr.AllCorrespond n m (e :: es) (e' :: es')

inductive Expr.StepsCorrespond : Nat → Nat → List (Step × Expr) → List (Step × Expr) → Prop
  | nil {n} : Expr.StepsCorrespond n n [] []
  | cons {n k m step e e' os os'} : Expr.Corresponds n k e e' → Expr.StepsCorrespond k m os os' →
      Expr.StepsCorrespond n m ((step, e) :: os) ((step, e') :: os')

end

inductive Expr.MayCorrespond (n m : Nat) : Option Expr → Option Expr → Prop
  | none : m = n → MayCorrespond n m none none
  | some {e e'} : e.Corresponds R n m e' → MayCorrespond n m (some e) (some e')

end Corresponds

section Causes

variable (R : Token → Token → Prop)

inductive Need.Corresponds : Need → Need → Prop
  | rightSide {t t'} : R t t' → Corresponds (.rightSide t) (.rightSide t')
  | refl {need} : Corresponds need need

inductive ParseCause.Corresponds : ParseCause → ParseCause → Prop
  | missing {need need' t t'} : Need.Corresponds R need need' → R t t' →
      Corresponds (.missing need t) (.missing need' t')
  | misplaced {need need' t t'} : Need.Corresponds R need need' → R t t' →
      Corresponds (.misplaced need t) (.misplaced need' t')
  | unclosed {t t'} : R t t' → Corresponds (.unclosed t) (.unclosed t')
  | unclosedList {t t'} : R t t' → Corresponds (.unclosedList t) (.unclosedList t')
  | unmatched {t t'} : R t t' → Corresponds (.unmatched t) (.unmatched t')
  | strayInList {t t' opener opener'} : R t t' → R opener opener' →
      Corresponds (.strayInList t opener) (.strayInList t' opener')
  | leftover {t t'} : R t t' → Corresponds (.leftover t) (.leftover t')

end Causes

section Builders

variable {R : Nat → Token → Token → Prop} {n m : Nat} {e e' : Expr} {es es' : List Expr}

lemma corresponds_getD {o o' : Option Expr} (h : Expr.MayCorrespond R n m o o') :
    (o.getD .empty).Corresponds R n m (o'.getD .empty) := by
  cases h with
  | some h => exact h
  | none h =>
    subst h
    exact .empty

lemma corresponds_ofName {name name' : String} (h : NamesCorrespond R n name name')
    (ht : truthValue? name = truthValue? name') :
    (Expr.ofName name).Corresponds R n (n + 1) (.ofName name') := by
  rw [Expr.ofName, Expr.ofName]
  cases hb : truthValue? name with
  | none =>
    rw [← ht, hb]
    exact .cell h
  | some b =>
    rw [← ht, hb]
    exact .boolean h hb (ht ▸ hb)

lemma corresponds_ofColumns (h : Expr.AllCorrespond R n m es es') :
    (Expr.ofColumns es).Corresponds R n m (.ofColumns es') := by
  cases h with
  | nil => exact .structured .empty
  | cons he h =>
    cases h with
    | nil => exact .structured he
    | cons he' h => exact .structured (.union (.cons he (.cons he' h)))

lemma corresponds_beforeComma (slot : Slot) (h : Expr.AllCorrespond R n m es es') :
    Expr.AllCorrespond R n m (slot.beforeComma es) (slot.beforeComma es') := by
  cases slot with
  | filled => exact h
  | opening | vacant => exact .cons .empty h

lemma corresponds_beforeClose (slot : Slot) :
    Expr.AllCorrespond R n n slot.beforeClose slot.beforeClose := by
  cases slot with
  | vacant => exact .cons .empty .nil
  | opening | filled => exact .nil

lemma corresponds_single {step : Step} (h : e.Corresponds R n m e') :
    (Expr.chain [(step, e)]).Corresponds R n m (.chain [(step, e')]) := .chain (.cons h .nil)

end Builders

namespace Parser

/-- Relations between tokens and between readers that respect what the rules are made of. The tokens
stand at a mark; the readers stand at one too, and leave their answers at another. -/
structure Congruence where
  token : Mark → Token → Token → Prop
  leaf : Nat → Token → Token → Prop
  reader {α : Type} : Mark → (Mark → α → α → Prop) → Parser α → Parser α → Prop
  kind {m t t'} : token m t t' → t.kind = t'.kind
  speaks {m t t'} : token m t t' → t.symbol? = none → leaf m.said t t'
  pure {α m} {Q : Mark → α → α → Prop} {a a'} : Q m a a' → reader m Q (pure a) (pure a')
  bind {α β m} {P : Mark → α → α → Prop} {Q : Mark → β → β → Prop} {x x' f f'} :
    reader m P x x' → (∀ n a a', P n a a' → reader n Q (f a) (f' a')) →
    reader m Q (x >>= f) (x' >>= f')
  peek {m} : reader m (fun n o o' => n = m ∧ Option.Rel (token m) o o') peek peek
  peekSecond {m t t'} : token m t t' →
    reader m (fun n o o' => n = m ∧ Option.Rel (token (m.past t)) o o') peekSecond peekSecond
  next {m} : reader m (fun n o o' => Option.Rel (token m) o o' ∧ ∀ t, o = some t → n = m.past t)
    next next
  skip {m t t'} : token m t t' → reader m (fun n _ _ => n = m.past t) skip skip
  refuse {α m} {Q : Mark → α → α → Prop} {c c'} :
    ParseCause.Corresponds (fun t t' => ∃ m, token m t t') c c' → reader m Q (refuse c) (refuse c')
  spoilt {α m n} {Q : Mark → α → α → Prop} {t t' s} {x' : Parser α} : token n t t' →
    t.lexeme.Spoils s → reader m Q (refuseSpecial s) x'
  spoilt' {α m n} {Q : Mark → α → α → Prop} {t t' d s} {x : Parser α} : token n t t' →
    t.lexeme = .number d → t'.lexeme.Spoils s → reader m Q x (refuseSpecial s)
  defect {α m} {Q : Mark → α → α → Prop} : reader m Q (throw .defect) (throw .defect)

namespace Congruence

variable {C : Congruence} {m n : Mark} {t t' : Token}

abbrev tree (C : Congruence) (n : Nat) (m : Mark) : Expr → Expr → Prop :=
  Expr.Corresponds C.leaf n m.said

abbrev mayTree (C : Congruence) (n : Nat) (m : Mark) : Option Expr → Option Expr → Prop :=
  Expr.MayCorrespond C.leaf n m.said

abbrev trees (C : Congruence) (n : Nat) (m : Mark) : List Expr → List Expr → Prop :=
  Expr.AllCorrespond C.leaf n m.said

abbrev steps (C : Congruence) (n : Nat) (m : Mark) :
    List (Step × Expr) → List (Step × Expr) → Prop :=
  Expr.StepsCorrespond C.leaf n m.said

abbrev abreast (C : Congruence) (t t' : Token) : Prop := ∃ m, C.token m t t'

lemma tree_of_said {n k : Nat} {e e' : Expr} (hk : m.said = k)
    (h : Expr.Corresponds C.leaf n k e e') : C.tree n m e e' := by
  subst hk
  exact h

lemma alike (h : C.token m t t') : t.lexeme.Alike t'.lexeme := Token.alike_of_kind (C.kind h)

lemma symbol?_eq (h : C.token m t t') : t'.symbol? = t.symbol? := by
  have ha := C.alike h
  rw [Token.symbol?, Token.symbol?]
  generalize t.lexeme = l, t'.lexeme = l' at ha
  cases ha <;> rfl

lemma isSymbol_eq (h : C.token m t t') (s : Symbol) : t'.isSymbol s = t.isSymbol s := by
  rw [Token.isSymbol, C.symbol?_eq h, Token.isSymbol]

lemma joinsAtOnce_eq (h : C.token m t t') : t'.joinsAtOnce = t.joinsAtOnce := by
  rw [Token.joinsAtOnce, C.symbol?_eq h, Token.joinsAtOnce]

lemma bindsTighter_eq (h : C.token m t t') (precedence : Nat) :
    t'.bindsTighter precedence = t.bindsTighter precedence := by
  rw [Token.bindsTighter, C.symbol?_eq h, Token.bindsTighter]

lemma chainStep?_eq (h : C.token m t t') (precedence : Nat) :
    t'.chainStep? precedence = t.chainStep? precedence := by
  rw [Token.chainStep?, C.symbol?_eq h, Token.chainStep?]

lemma skip_symbol {α : Type} {Q : Mark → α → α → Prop} {f f' : Unit → Parser α} {s : Symbol}
    (h : C.token m t t') (hs : t.symbol? = some s)
    (hf : ∀ n : Mark, n.said = m.said → C.reader n Q (f ()) (f' ())) :
    C.reader m Q (Parser.skip >>= f) (Parser.skip >>= f') := by
  refine C.bind (C.skip h) ?_
  rintro _ _ _ rfl
  exact hf _ (Mark.said_past_of_symbol hs)

lemma skip_leaf {α : Type} {Q : Mark → α → α → Prop} {f f' : Unit → Parser α}
    (h : C.token m t t') (hs : t.symbol? = none)
    (hf : ∀ n : Mark, n.said = m.said + 1 → C.leaf m.said t t' → C.reader n Q (f ()) (f' ())) :
    C.reader m Q (Parser.skip >>= f) (Parser.skip >>= f') := by
  refine C.bind (C.skip h) ?_
  rintro _ _ _ rfl
  exact hf _ (Mark.said_past_of_none hs) (C.speaks h hs)

lemma skip_negative {α : Type} {Q : Mark → α → α → Prop} {f f' : Unit → Parser α} {s : Symbol}
    {u u' : Token} (h : C.token m t t') (hs : t.symbol? = some s) (hu : C.token (m.past t) u u')
    (hn : u.symbol? = none)
    (hf : ∀ n : Mark, n.said = m.said + 1 → C.leaf m.said u u' → C.reader n Q (f ()) (f' ())) :
    C.reader m Q (Parser.skip >>= fun _ => Parser.skip >>= f)
      (Parser.skip >>= fun _ => Parser.skip >>= f') := by
  refine C.bind (C.skip h) ?_
  rintro _ _ _ rfl
  rw [← Mark.said_past_of_symbol hs (m := m)] at hf
  exact skip_leaf hu hn hf

lemma peek_bind {α : Type} {Q : Mark → α → α → Prop} {f f' : Option Token → Parser α}
    (hn : C.reader m Q (f none) (f' none))
    (hs : ∀ t t', C.token m t t' → C.reader m Q (f (some t)) (f' (some t'))) :
    C.reader m Q (Parser.peek >>= f) (Parser.peek >>= f') := by
  refine C.bind C.peek ?_
  rintro _ _ _ ⟨rfl, ht | _⟩
  · exact hs _ _ ht
  · exact hn

lemma peekSecond_bind {α : Type} {Q : Mark → α → α → Prop} {f f' : Option Token → Parser α}
    (h : C.token m t t') (hn : C.reader m Q (f none) (f' none))
    (hs : ∀ u u', C.token (m.past t) u u' → C.reader m Q (f (some u)) (f' (some u'))) :
    C.reader m Q (Parser.peekSecond >>= f) (Parser.peekSecond >>= f') := by
  refine C.bind (C.peekSecond h) ?_
  rintro _ _ _ ⟨rfl, hu | _⟩
  · exact hs _ _ hu
  · exact hn

lemma next_bind {α : Type} {Q : Mark → α → α → Prop} {f f' : Option Token → Parser α}
    (hn : ∀ n, C.reader n Q (f none) (f' none))
    (hs : ∀ t t', C.token m t t' → C.reader (m.past t) Q (f (some t)) (f' (some t'))) :
    C.reader m Q (Parser.next >>= f) (Parser.next >>= f') := by
  refine C.bind C.next ?_
  rintro n _ _ ⟨ht | _, hp⟩
  · obtain rfl := hp _ rfl
    exact hs _ _ ht
  · exact hn n

lemma corresponds_ofStray {c c' : ParseCause} (h : C.token m t t')
    (hc : ParseCause.Corresponds C.abreast c c') :
    ParseCause.Corresponds C.abreast (.ofStray t c) (.ofStray t' c') := by
  rw [ParseCause.ofStray, ParseCause.ofStray, C.symbol?_eq h]
  split
  · exact .unmatched ⟨m, h⟩
  · exact hc

lemma expect {n : Nat} {need need' : Need} {e e' : Option Expr}
    (hn : Need.Corresponds C.abreast need need') (ht : C.abreast t t')
    (he : C.mayTree n m e e') :
    C.reader m (C.tree n) (expect need t e) (expect need' t' e') := by
  cases he with
  | some he => exact C.pure he
  | none _ =>
    refine peek_bind (C.refuse (.missing hn ht)) fun u u' hu => ?_
    exact C.refuse (.misplaced hn ⟨m, hu⟩)

structure Relates (C : Congruence) (r : Rules) : Prop where
  compound {m : Mark} {n : Nat} : m.said = n → C.reader m (C.mayTree n) (r .compound) (r .compound)
  operand {m : Mark} {n : Nat} : m.said = n → C.reader m (C.mayTree n) (r .operand) (r .operand)
  value {m : Mark} {n : Nat} : m.said = n → C.reader m (C.mayTree n) (r .value) (r .value)
  named {m : Mark} {n : Nat} {name name' : String} : m.said = n + 1 →
    NamesCorrespond C.leaf n name name' → truthValue? name = truthValue? name' →
    C.reader m (C.tree n) (r (.named name)) (r (.named name'))
  items {m : Mark} {n : Nat} {opener opener' : Token} (closer : Symbol) (slot : Slot) :
    m.said = n → C.abreast opener opener' →
    C.reader m (C.trees n) (r (.items closer opener slot)) (r (.items closer opener' slot))
  immediateJoins {m : Mark} {n : Nat} {e e' : Expr} : C.tree n m e e' →
    C.reader m (C.tree n) (r (.immediateJoins e)) (r (.immediateJoins e'))
  tighterJoins {m : Mark} {n : Nat} {e e' : Expr} (precedence : Nat) : C.tree n m e e' →
    C.reader m (C.tree n) (r (.tighterJoins precedence e)) (r (.tighterJoins precedence e'))
  join {m : Mark} {t t' : Token} {n : Nat} {e e' : Expr} : C.token m t t' → C.tree n m e e' →
    C.reader m (C.tree n) (r (.join t e)) (r (.join t' e'))
  chainSteps {m : Mark} {n : Nat} {t t' : Token} (precedence : Nat) (step : Step) :
    m.said = n → C.abreast t t' → C.reader m (C.steps n) (r (.chainSteps precedence step t))
      (r (.chainSteps precedence step t'))

namespace Relates

section Step

variable {r : Rules} (h : C.Relates r) {n : Nat} (hm : m.said = n)

include h

lemma immediateJoins_step {e e' : Expr} (he : C.tree n m e e') :
    C.reader m (C.tree n) (r.step (.immediateJoins e)) (r.step (.immediateJoins e')) := by
  refine peek_bind (C.pure he) fun t t' ht => ?_
  dsimp only
  rw [C.joinsAtOnce_eq ht]
  split
  · exact C.bind (h.join ht he) fun _ _ _ he => h.immediateJoins he
  · exact C.pure he

lemma tighterJoins_step {e e' : Expr} (precedence : Nat) (he : C.tree n m e e') :
    C.reader m (C.tree n) (r.step (.tighterJoins precedence e))
      (r.step (.tighterJoins precedence e')) := by
  refine peek_bind (C.pure he) fun t t' ht => ?_
  dsimp only
  rw [C.bindsTighter_eq ht]
  split
  · exact C.bind (h.join ht he) fun _ _ _ he => h.tighterJoins precedence he
  · exact C.pure he

lemma join_step {e e' : Expr} (ht : C.token m t t') (he : C.tree n m e e') :
    C.reader m (C.tree n) (r.step (.join t e)) (r.step (.join t' e')) := by
  have hc : C.abreast t t' := ⟨m, ht⟩
  simp only [Rules.step]
  rw [C.symbol?_eq ht]
  split
  · rename_i hs
    refine skip_symbol ht hs fun _ hk => C.bind (h.value hk) fun _ _ _ hr => ?_
    exact C.bind (C.expect .refl hc hr) fun _ _ _ hr => C.pure (.range he hr)
  · rename_i hs
    exact skip_symbol ht hs fun _ hk => C.pure (tree_of_said hk (corresponds_single he))
  · rename_i hs
    refine skip_symbol ht hs fun _ hk => C.bind (h.compound hk) fun _ _ _ hr => ?_
    exact C.bind (C.expect .refl hc hr) fun _ _ _ hr => C.pure (.textJoin he hr)
  · rename_i hs
    split
    · refine skip_symbol ht hs fun _ hk => C.bind (h.chainSteps _ _ hk hc) fun _ _ _ hr => ?_
      exact C.pure (.chain (.cons he hr))
    · refine skip_symbol ht hs fun _ hk => C.bind (h.operand hk) fun _ _ _ hr => ?_
      refine C.bind (C.expect (.rightSide hc) hc hr) fun _ _ _ hr => ?_
      exact C.bind (h.tighterJoins _ hr) fun _ _ _ hr => C.pure (.comparison he hr)
    · exact C.defect
  · exact C.defect

include hm

lemma compound_step : C.reader m (C.mayTree n) (r.step .compound) (r.step .compound) := by
  refine C.bind (h.operand hm) ?_
  rintro k _ _ (hk | he)
  · exact C.pure (.none hk)
  · refine C.bind (h.immediateJoins he) fun k e e' he => peek_bind (C.pure (.some he)) ?_
    intro t t' ht
    dsimp only
    rw [C.isSymbol_eq ht]
    split
    · rename_i hs
      refine skip_symbol ht (beq_iff_eq.mp hs) fun _ hk => C.bind (h.compound hk) ?_
      intro _ _ _ hr
      exact C.bind (C.expect .refl ⟨k, ht⟩ hr) fun _ _ _ hr => C.pure (.some (.textJoin he hr))
    · refine C.bind (h.compound rfl) ?_
      rintro j _ _ (hj | hr)
      · exact C.pure (.some (hj ▸ he))
      · exact C.pure (.some (.intersection he hr))

lemma operand_step : C.reader m (C.mayTree n) (r.step .operand) (r.step .operand) := by
  refine C.bind (h.value hm) ?_
  rintro k _ _ (hk | he)
  · refine peek_bind (C.pure (.none hk)) fun t t' ht => ?_
    dsimp only
    rw [C.isSymbol_eq ht]
    split
    · rename_i hs
      refine skip_symbol ht (beq_iff_eq.mp hs) fun _ hj => C.bind (h.operand (hj.trans hk)) ?_
      intro _ _ _ he
      refine C.bind (C.expect .refl ⟨k, ht⟩ he) fun _ _ _ he => C.pure (.some ?_)
      exact corresponds_single he
    · exact C.pure (.none hk)
  · exact C.pure (.some he)

lemma value_step : C.reader m (C.mayTree n) (r.step .value) (r.step .value) := by
  refine peek_bind (C.pure (.none hm)) fun t t' ht => ?_
  have ha := C.alike ht
  subst hm
  dsimp only
  generalize hl : t.lexeme = l, hl' : t'.lexeme = l' at ha
  have hs : t.symbol? = l.symbol? := congrArg Lexeme.symbol? hl
  cases ha with
  | literal htruth =>
    refine skip_leaf ht hs fun _ hk hleaf => ?_
    rw [map_eq_pure_bind, map_eq_pure_bind]
    exact C.bind (h.named hk ⟨t, t', hleaf, hl, hl'⟩ htruth) fun _ _ _ he => C.pure (.some he)
  | string =>
    exact skip_leaf ht hs fun _ hk hleaf => C.pure (.some (hk ▸ .string hleaf hl hl'))
  | error =>
    exact skip_leaf ht hs fun _ hk hleaf => C.pure (.some (hk ▸ .error hleaf hl hl'))
  | number =>
    exact skip_leaf ht hs fun _ hk hleaf => C.pure (.some (hk ▸ .number hleaf hl hl'))
  | special | specialNumber =>
    exact skip_leaf ht hs fun _ _ _ => C.spoilt ht (hl ▸ .plain)
  | numberSpecial => exact skip_leaf ht hs fun _ _ _ => C.spoilt' ht hl (hl' ▸ .plain)
  | @symbol s =>
    cases s with
    | subtract =>
      refine peekSecond_bind ht (C.pure (.none rfl)) fun u u' hu => ?_
      have ha := C.alike hu
      rw [Option.map_some, Option.map_some]
      generalize hn : u.lexeme = l, hn' : u'.lexeme = l' at ha
      have hs' : u.symbol? = l.symbol? := congrArg Lexeme.symbol? hn
      cases ha with
      | number =>
        refine skip_negative ht hs hu hs' fun _ hk hleaf => ?_
        exact C.pure (.some (hk ▸ .negative hleaf hn hn'))
      | special | specialNumber =>
        exact skip_negative ht hs hu hs' fun _ _ _ => C.spoilt hu (hn ▸ .negated)
      | numberSpecial =>
        exact skip_negative ht hs hu hs' fun _ _ _ => C.spoilt' hu hn (hn' ▸ .negated)
      | _ => exact C.pure (.none rfl)
    | openBracket =>
      refine skip_symbol ht hs fun _ hk => C.bind (h.compound hk) fun k _ _ he => ?_
      refine next_bind (fun _ => C.refuse (.unclosed ⟨m, ht⟩)) fun c c' hc => ?_
      dsimp only
      rw [C.isSymbol_eq hc]
      split
      · rename_i hclose
        have hk := Mark.said_past_of_symbol (m := k) (beq_iff_eq.mp hclose)
        exact C.pure (.some (tree_of_said hk (.bracketed (corresponds_getD he))))
      · exact C.refuse (.unclosed ⟨m, ht⟩)
    | openSquare =>
      refine skip_symbol ht hs fun _ hk => C.bind (h.items _ _ hk ⟨m, ht⟩) fun _ _ _ he => ?_
      exact C.pure (.some (corresponds_ofColumns he))
    | _ => exact C.pure (.none rfl)

lemma items_step {opener opener' : Token} (closer : Symbol) (slot : Slot)
    (ho : C.abreast opener opener') : C.reader m (C.trees n)
      (r.step (.items closer opener slot)) (r.step (.items closer opener' slot)) := by
  refine peek_bind (C.refuse (.unclosedList ho)) fun t t' ht => ?_
  subst hm
  dsimp only
  simp only [C.isSymbol_eq ht]
  split
  · rename_i hs
    refine skip_symbol ht (beq_iff_eq.mp hs) fun _ hk => C.bind (h.items _ _ hk ho) ?_
    exact fun _ _ _ he => C.pure (corresponds_beforeComma slot he)
  · split
    · rename_i hs
      refine skip_symbol ht (beq_iff_eq.mp hs) fun _ hk => C.pure ?_
      exact hk ▸ corresponds_beforeClose slot
    · refine C.bind (h.compound rfl) ?_
      rintro k _ _ (_ | he)
      · exact C.refuse (C.corresponds_ofStray ht (.strayInList ⟨m, ht⟩ ho))
      · exact C.bind (h.items _ _ rfl ho) fun _ _ _ hes => C.pure (.cons he hes)

lemma chainSteps_step (precedence : Nat) (step : Step) (ht : C.abreast t t') :
    C.reader m (C.steps n)
      (r.step (.chainSteps precedence step t)) (r.step (.chainSteps precedence step t')) := by
  refine C.bind (h.operand hm) fun _ _ _ hr => ?_
  refine C.bind (C.expect (.rightSide ht) ht hr) fun _ _ _ hr => ?_
  refine C.bind (h.tighterJoins precedence hr) fun k _ _ hr => ?_
  refine peek_bind (C.pure (.cons hr .nil)) fun u u' hu => ?_
  dsimp only
  rw [C.chainStep?_eq hu]
  split
  · exact C.pure (.cons hr .nil)
  · rename_i hs
    obtain ⟨s, hs, -⟩ := Option.bind_eq_some_iff.mp hs
    refine skip_symbol hu hs fun _ hj => C.bind (h.chainSteps _ _ hj ⟨k, hu⟩) fun _ _ _ hs => ?_
    exact C.pure (.cons hr hs)

end Step

lemma named_step {r : Rules} (h : C.Relates r) {n : Nat} {name name' : String}
    (hm : m.said = n + 1) (hn : NamesCorrespond C.leaf n name name')
    (htruth : truthValue? name = truthValue? name') :
    C.reader m (C.tree n) (r.step (.named name)) (r.step (.named name')) := by
  refine peek_bind (C.pure (tree_of_said hm (corresponds_ofName hn htruth))) fun t t' ht => ?_
  dsimp only
  rw [C.symbol?_eq ht, ← htruth]
  split
  · rename_i hs
    refine skip_symbol ht hs fun _ hk => C.bind (h.items _ _ (hk.trans hm) ⟨m, ht⟩) ?_
    exact fun _ _ _ he => C.pure (.call hn he)
  · rename_i hb _
    exact C.pure (tree_of_said hm (.boolean hn hb (htruth ▸ hb)))
  · rename_i hs _
    refine skip_symbol ht hs fun _ hk => C.bind (h.value (hk.trans hm)) fun _ _ _ he => ?_
    exact C.bind (C.expect .refl ⟨m, ht⟩ he) fun _ _ _ he => C.pure (.sheet (.cell hn) he)
  · refine C.bind (h.value hm) fun _ _ _ he => C.bind (C.expect .refl ⟨m, ht⟩ he) ?_
    exact fun _ _ _ he => C.pure (.table hn he)
  · exact C.pure (tree_of_said hm (.cell hn))

theorem relates_step {r : Rules} (h : C.Relates r) : C.Relates r.step where
  compound := h.compound_step
  operand := h.operand_step
  value := h.value_step
  named := h.named_step
  items closer slot hm := h.items_step hm closer slot
  immediateJoins := h.immediateJoins_step
  tighterJoins := h.tighterJoins_step
  join := h.join_step
  chainSteps precedence step hm := h.chainSteps_step hm precedence step

end Relates

theorem relates_bounded (C : Congruence) (n : Nat) : C.Relates (bounded n) := by
  induction n with
  | zero => constructor <;> intros <;> exact C.defect
  | succ n ih =>
    rw [bounded_succ]
    exact ih.relates_step

end Congruence

def formulaWithin (n : Nat) : Parser (Option Expr) := do
  match ← peek with
  | none => return none
  | some _ =>
    let e ← bounded n .compound
    match ← peek with
    | none => return e
    | some t => refuse (.ofStray t (.leftover t))

lemma formula_eq_within {n : Nat} {b : State} (h : depth b.unread ≤ n) :
    formula b = formulaWithin n b := by
  refine bind_apply_eq rfl fun o c hc => ?_
  cases o with
  | none => rfl
  | some t =>
    refine bind_apply_eq ?_ fun _ _ _ => rfl
    have hp := yields_peek (b := b)
    rw [Yields, hc] at hp
    rw [← hp.1] at h
    have hs := (progress (depth c.unread)).compound [] c (by simp only [depth]; omega)
    exact ((bounded_below h .compound).eq_of_settles hs.settles).symm

theorem Congruence.relates_formula (C : Congruence) (n : Nat) :
    C.reader .start (C.mayTree 0) (formulaWithin n)
      (formulaWithin n) := by
  refine peek_bind (C.pure (.none rfl)) fun _ _ _ => ?_
  refine C.bind ((C.relates_bounded n).compound rfl) fun k _ _ he => ?_
  refine peek_bind (C.pure he) fun t t' ht => ?_
  exact C.refuse (C.corresponds_ofStray ht (.leftover ⟨k, ht⟩))

end Parser

end CellFormula
