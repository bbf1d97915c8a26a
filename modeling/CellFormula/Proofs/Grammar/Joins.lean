import CellFormula.Proofs.Grammar.Legible
import CellFormula.Proofs.Grammar.Precedence

namespace CellFormula

namespace Level

def bound : Level → Nat
  | chain tier => tier.precedence
  | comparison | compound => 0
  | value | operand | factor => 100

end Level

namespace Parser

variable {fin : Option LexicalError} {ts us rest : List Token} {t : Token} {s : Symbol}
  {e left : Expr} {ws vs : List Lexeme}

def Ends (fin : Option LexicalError) (rest : List Token) : Level → Prop
  | .chain tier => Stops fin (Token.bindsFrom tier.precedence) rest
  | .comparison => Stops fin (Token.bindsFrom 1) rest
  | .compound => Over fin rest
  | .value | .operand | .factor => True

def Accepts (level : Level) (test : Token → Bool) : Prop :=
  ∀ t s, t.lexeme = .symbol s → s.joinsAtOnce → level.bound ≤ s.precedence → test t

lemma Accepts.mono {level level' : Level} {test : Token → Bool} (h : Accepts level test)
    (hb : level.bound ≤ level'.bound) : Accepts level' test :=
  fun t s ht hs hp => h t s ht hs (Nat.le_trans hb hp)

lemma accepts_joinsAtOnce (level : Level) : Accepts level Token.joinsAtOnce := by
  intro t s ht hs _
  rw [Token.joinsAtOnce_of_symbol ht, hs]

lemma accepts_bindsTighter {level : Level} {precedence : Nat} (h : precedence < level.bound) :
    Accepts level (Token.bindsTighter precedence) := by
  intro t s ht hs hp
  have hj : s.joins := by simp [Symbol.joins, hs]
  rw [Token.bindsTighter_of_symbol ht, hj, Bool.true_and, decide_eq_true_eq]
  exact Nat.lt_of_lt_of_le h hp

inductive Joins (fin : Option LexicalError) (test : Token → Bool) (left : Expr) (ts : List Token) :
    Expr → List Token → Prop
  | refl : Joins fin test left ts left ts
  | tail {e e' t us rest} : Joins fin test left ts e (t :: us) → test t →
      Reads fin (.join t e) (t :: us) (.expr e') rest → Joins fin test left ts e' rest

lemma Joins.immediate {e' : Expr} (h : Joins fin Token.joinsAtOnce left ts e us)
    (hr : Reads fin (.immediateJoins e) us (.expr e') rest) :
    Reads fin (.immediateJoins left) ts (.expr e') rest := by
  induction h with
  | refl => exact hr
  | tail _ ht hj ih => exact ih (.immediateStep ht hj hr)

lemma Joins.tighter {precedence : Nat} {e' : Expr}
    (h : Joins fin (Token.bindsTighter precedence) left ts e us)
    (hr : Reads fin (.tighterJoins precedence e) us (.expr e') rest) :
    Reads fin (.tighterJoins precedence left) ts (.expr e') rest := by
  induction h with
  | refl => exact hr
  | tail _ ht hj ih => exact ih (.tighterStep ht hj hr)

def Led (fin : Option LexicalError) (test : Token → Bool) (ts : List Token) (e : Expr)
    (rest : List Token) : Prop :=
  ∃ o us, Reads fin .operand ts (.expr o) us ∧ Joins fin test o us e rest

lemma Led.join {test : Token → Bool} {e' : Expr} (h : Led fin test ts e (t :: us)) (ht : test t)
    (hr : Reads fin (.join t e) (t :: us) (.expr e') rest) : Led fin test ts e' rest := by
  obtain ⟨o, vs, ho, hj⟩ := h
  exact ⟨o, vs, ho, hj.tail ht hr⟩

lemma Led.immediate (h : Led fin Token.joinsAtOnce ts e rest)
    (hs : Stops fin Token.joinsAtOnce rest) : ∃ o us, Reads fin .operand ts (.expr o) us ∧
      Reads fin (.immediateJoins o) us (.expr e) rest := by
  obtain ⟨o, us, ho, hj⟩ := h
  exact ⟨o, us, ho, hj.immediate (.immediateStop hs)⟩

lemma Led.tighter {precedence : Nat} (h : Led fin (Token.bindsTighter precedence) ts e rest)
    (hs : Stops fin (Token.bindsTighter precedence) rest) : ∃ o us,
      Reads fin .operand ts (.expr o) us ∧
        Reads fin (.tighterJoins precedence o) us (.expr e) rest := by
  obtain ⟨o, us, ho, hj⟩ := h
  exact ⟨o, us, ho, hj.tighter (.tighterStop hs)⟩

def Taken (fin : Option LexicalError) (ts : List Token) (e : Expr) (rest : List Token) :
    Level → Prop
  | .value => Reads fin .value ts (.expr e) rest
  | .operand => Reads fin .operand ts (.expr e) rest
  | .compound => Reads fin .compound ts (.expr e) rest
  | level => ∀ test, Accepts level test → Led fin test ts e rest

def ReadsBack (fin : Option LexicalError) (level : Level) (e : Expr) : Prop :=
  ∀ ts rest, lexemes ts = e.written → Clear fin e.written rest → Ends fin rest level →
    Taken fin (ts ++ rest) e rest level

lemma stops_of_precedence_lt {precedence : Nat} (ht : t.lexeme = .symbol s)
    (h : s.precedence < precedence) : Stops fin (Token.bindsFrom precedence) (t :: rest) := by
  apply Token.bindsFrom_eq_false_iff.mpr
  intro s' ht' _
  obtain rfl : s = s' := Lexeme.symbol.inj (ht.symm.trans ht')
  exact h

lemma Stops.bindsFrom_mono {precedence precedence' : Nat} (hp : precedence ≤ precedence')
    (h : Stops fin (Token.bindsFrom precedence) ts) :
    Stops fin (Token.bindsFrom precedence') ts := by
  apply h.mono
  intro t ht
  apply Token.bindsFrom_eq_false_iff.mpr
  intro s hs hj
  exact Nat.lt_of_lt_of_le (Token.precedence_lt hs hj ht) hp

section Chains

variable {tier : Tier} {step : Step} {operations : List (Step × Expr)} {operator : Token}

lemma symbol_of_mem_steps (h : step ∈ tier.steps) :
    ∃ s : Symbol, Step.ofSymbol? s = some step ∧ s.precedence = tier.precedence := by
  cases tier with
  | power =>
    obtain rfl := List.mem_singleton.mp h
    exact ⟨.power, rfl, rfl⟩
  | product =>
    rcases List.mem_cons.mp h with rfl | h
    · exact ⟨.multiply, rfl, rfl⟩
    · obtain rfl := List.mem_singleton.mp h
      exact ⟨.divide, rfl, rfl⟩
  | sum =>
    rcases List.mem_cons.mp h with rfl | h
    · exact ⟨.add, rfl, rfl⟩
    · obtain rfl := List.mem_singleton.mp h
      exact ⟨.subtract, rfl, rfl⟩

lemma joinsAtOnce_of_step (h : Step.ofSymbol? s = some step) : s.joinsAtOnce := by
  cases s <;> cases h <;> rfl

lemma chainStep?_isSome_eq_false {precedence : Nat} (h : t.bindsFrom precedence = false) :
    (t.chainStep? precedence).isSome = false := by
  rw [Bool.eq_false_iff]
  intro hs
  obtain ⟨step, hs⟩ := Option.isSome_iff_exists.mp hs
  obtain ⟨s, ht, rfl, hstep⟩ := Token.chainStep?_eq_some_iff.mp hs
  have hj : s.joins := by simp [Symbol.joins, joinsAtOnce_of_step hstep]
  exact Nat.lt_irrefl _ (Token.precedence_lt ht hj h)

lemma clear_of_step (ht : t.lexeme = .symbol s) (hs : Step.ofSymbol? s = some step) :
    Clear fin ws (t :: rest) := by
  apply Clear.of_symbol ht
  cases s <;> cases hs <;> decide

lemma precedence_lt_bound (tier : Tier) : tier.precedence < tier.operands.bound := by
  cases tier <;> decide

lemma ends_operands (h : Stops fin (Token.bindsFrom tier.precedence) rest) :
    Ends fin rest tier.operands := by
  cases tier with
  | power => trivial
  | product | sum => exact h.bindsFrom_mono (by decide)

lemma ends_operands_of_precedence_le (ht : t.lexeme = .symbol s)
    (h : s.precedence ≤ tier.precedence) : Ends fin (t :: rest) tier.operands := by
  cases tier with
  | power => trivial
  | product =>
    have hp : s.precedence < 30 := Nat.lt_of_le_of_lt h (by decide)
    have hs : Stops fin (Token.bindsFrom 30) (t :: rest) := stops_of_precedence_lt ht hp
    exact hs
  | sum =>
    have hp : s.precedence < 20 := Nat.lt_of_le_of_lt h (by decide)
    have hs : Stops fin (Token.bindsFrom 20) (t :: rest) := stops_of_precedence_lt ht hp
    exact hs

lemma Taken.led {test : Token → Bool} (h : Taken fin ts e rest tier.operands)
    (ht : Accepts tier.operands test) : Led fin test ts e rest := by
  cases tier <;> exact h test ht

lemma Taken.tighter (h : Taken fin ts e rest tier.operands)
    (hs : Stops fin (Token.bindsTighter tier.precedence) rest) : ∃ o us,
      Reads fin .operand ts (.expr o) us ∧
        Reads fin (.tighterJoins tier.precedence o) us (.expr e) rest :=
  (h.led (accepts_bindsTighter (precedence_lt_bound tier))).tighter hs

lemma reads_chainSteps {r : Expr} (hts : lexemes ts = r.written ++ Expr.writtenSteps operations)
    (hr : ReadsBack fin tier.operands r) (hsteps : ∀ o ∈ operations, o.1 ∈ tier.steps)
    (ho : ∀ o ∈ operations, ReadsBack fin tier.operands o.2)
    (hc : Clear fin (r.written ++ Expr.writtenSteps operations) rest)
    (hs : Stops fin (Token.bindsFrom tier.precedence) rest) :
    Reads fin (.chainSteps tier.precedence step operator) (ts ++ rest)
      (.steps ((step, r) :: operations)) rest := by
  induction operations generalizing ts r step operator with
  | nil =>
    -- the last operand ends where nothing binds as tightly as the chain
    simp only [Expr.writtenSteps, List.append_nil] at hts hc
    have hj : Stops fin (Token.bindsTighter tier.precedence) rest :=
      hs.bindsFrom_mono (Nat.le_succ _)
    obtain ⟨o, us, ho, hj⟩ := (hr ts rest hts hc (ends_operands hs)).tighter hj
    exact .lastStep ho hj (hs.mono fun t ht => chainStep?_isSome_eq_false ht)
  | cons o operations ih =>
    obtain ⟨step', r'⟩ := o
    obtain ⟨hm, hsteps⟩ := List.forall_mem_cons.mp hsteps
    obtain ⟨hr', ho⟩ := List.forall_mem_cons.mp ho
    obtain ⟨s, hstep, hp⟩ := symbol_of_mem_steps hm
    rw [Expr.writtenSteps, Step.around_ofSymbol? hstep, List.cons_append] at hts hc
    obtain ⟨us, t, vs, rfl, hu, ht, hv⟩ := between_of_lexemes hts
    -- an operator of the same tier ends the operand before it, and goes on with the chain
    have hj : Stops fin (Token.bindsTighter tier.precedence) (t :: (vs ++ rest)) :=
      stops_of_precedence_lt ht (Nat.lt_succ_of_le (Nat.le_of_eq hp))
    obtain ⟨o, us', ho', hj⟩ := (hr us (t :: (vs ++ rest)) hu (clear_of_step ht hstep)
      (ends_operands_of_precedence_le ht (Nat.le_of_eq hp))).tighter hj
    rw [List.append_assoc, List.cons_append]
    have hn : t.chainStep? tier.precedence = some step' :=
      Token.chainStep?_eq_some_iff.mpr ⟨s, ht, hp, hstep⟩
    exact .nextStep ho' hj hn (ih hv hr' hsteps ho hc.right.tail)

end Chains

lemma readsBack_single {tier : Tier} (h : ReadsBack fin tier.operands e) :
    ReadsBack fin (.chain tier) e := by
  intro ts rest hts hc hs test htest
  have hle := Nat.le_of_lt (precedence_lt_bound tier)
  exact (h ts rest hts hc (ends_operands hs)).led (htest.mono hle)

lemma readsBack_chain {tier : Tier} {operations : List (Step × Expr)}
    (h : ReadsBack fin tier.operands e) (hne : operations ≠ [])
    (hsteps : ∀ o ∈ operations, o.1 ∈ tier.steps)
    (ho : ∀ o ∈ operations, ReadsBack fin tier.operands o.2) :
    ReadsBack fin (.chain tier) (.chain ((.start, e) :: operations)) := by
  intro ts rest hts hc hs test htest
  obtain ⟨⟨step, r⟩, operations, rfl⟩ := List.exists_cons_of_ne_nil hne
  obtain ⟨hm, hsteps⟩ := List.forall_mem_cons.mp hsteps
  obtain ⟨hr, ho⟩ := List.forall_mem_cons.mp ho
  obtain ⟨s, hstep, hp⟩ := symbol_of_mem_steps hm
  simp only [Expr.written, Expr.writtenSteps, Step.around_ofSymbol? hstep,
    List.cons_append] at hts hc
  obtain ⟨us, t, vs, rfl, hu, ht, hv⟩ := between_of_lexemes hts
  have he := h us (t :: (vs ++ rest)) hu (clear_of_step ht hstep)
    (ends_operands_of_precedence_le ht (Nat.le_of_eq hp))
  have hj := he.led (htest.mono (Nat.le_of_lt (precedence_lt_bound tier)))
  rw [List.append_assoc, List.cons_append]
  have htest := htest t s ht (joinsAtOnce_of_step hstep) (Nat.le_of_eq hp.symm)
  refine hj.join htest (.maths ht hstep ?_)
  rw [hp]
  exact reads_chainSteps hv hr hsteps ho hc.right.tail hs

lemma readsBack_sum (h : ReadsBack fin (.chain .sum) e) : ReadsBack fin .comparison e := by
  intro ts rest hts hc hs test htest
  exact h ts rest hts hc (Stops.bindsFrom_mono (by decide) hs) test (htest.mono (Nat.zero_le _))

lemma clear_of_comparator {op : Comparator} (ht : t.lexeme = .symbol op.symbol) :
    Clear fin ws (t :: rest) := by
  apply Clear.of_symbol ht
  cases op <;> decide

lemma joinsAtOnce_of_comparator (op : Comparator) : op.symbol.joinsAtOnce := by
  cases op <;> rfl

lemma led_left {op : Comparator} {a : Expr} {test : Token → Bool} (ha : ReadsBack fin .comparison a)
    (hts : lexemes ts = a.written) (ht : t.lexeme = .symbol op.symbol)
    (htest : Accepts .comparison test) (rest : List Token) :
    Led fin test (ts ++ t :: rest) a (t :: rest) ∧ test t := by
  have hp := op.precedence_symbol
  have hs : Stops fin (Token.bindsFrom 1) (t :: rest) :=
    stops_of_precedence_lt ht (hp ▸ Nat.one_pos)
  exact ⟨ha ts (t :: rest) hts (clear_of_comparator ht) hs test htest,
    htest t _ ht (joinsAtOnce_of_comparator op) (Nat.zero_le _)⟩

lemma readsBack_comparison {op : Comparator} {a b : Expr} (ha : ReadsBack fin .comparison a)
    (hb : ReadsBack fin (.chain .sum) b) : ReadsBack fin .comparison (.comparison op a b) := by
  intro ts rest hts hc hs test htest
  obtain ⟨us, t, vs, rfl, hu, ht, hv⟩ := between_of_lexemes hts
  rw [List.append_assoc, List.cons_append]
  obtain ⟨hj, hpass⟩ := led_left ha hu ht htest (vs ++ rest)
  refine hj.join hpass ?_
  have hb := hb vs rest hv hc.right.tail (Stops.bindsFrom_mono (by decide) hs)
    (Token.bindsTighter 0) (accepts_bindsTighter (by decide))
  obtain ⟨o, us', ho, hj⟩ := hb.tighter hs
  exact .comparison ht ho (op.precedence_symbol ▸ hj)

lemma stops_joinsAtOnce (h : Stops fin (Token.bindsFrom 0) rest) :
    Stops fin Token.joinsAtOnce rest := by
  apply h.mono
  intro t ht
  rw [Bool.eq_false_iff]
  intro hj
  obtain ⟨s, hs, hj⟩ := (Option.any_eq_true _ _).mp hj
  have hs := Token.symbol?_eq_some_iff.mp hs
  have hlt := Token.precedence_lt hs (by simp [Symbol.joins, hj]) ht
  exact Nat.not_lt_zero _ hlt

lemma Led.last (h : Led fin Token.joinsAtOnce ts e rest) (hs : Over fin rest) :
    Reads fin .compound ts (.expr e) rest := by
  obtain ⟨o, us, ho, hj⟩ := h.immediate (stops_joinsAtOnce hs.1)
  exact .last ho hj hs.2

lemma readsBack_compared (h : ReadsBack fin .comparison e) : ReadsBack fin .compound e := by
  intro ts rest hts hc hs
  have hl := h ts rest hts hc (hs.1.bindsFrom_mono (Nat.zero_le _)) _ (accepts_joinsAtOnce _)
  exact hl.last hs

lemma led_beforeAmpersand {a : Expr} {test : Token → Bool} (ha : ReadsBack fin (.chain .sum) a)
    (hts : lexemes ts = a.written) (ht : t.lexeme = .symbol .ampersand)
    (htest : Accepts (.chain .sum) test) (rest : List Token) :
    Led fin test (ts ++ t :: rest) a (t :: rest) := by
  have hs : Stops fin (Token.bindsFrom 10) (t :: rest) := stops_of_precedence_lt ht (by decide)
  exact ha ts (t :: rest) hts (.of_symbol ht (by decide)) hs test htest

lemma led_textJoin {a b : Expr} (ha : ReadsBack fin (.chain .sum) a)
    (hb : ReadsBack fin .compound b) (hts : lexemes ts = (Expr.textJoin a b).written)
    (hc : Clear fin (Expr.textJoin a b).written rest) (hs : Over fin rest) :
    Led fin (Token.bindsTighter 0) (ts ++ rest) (.textJoin a b) rest := by
  obtain ⟨us, t, vs, rfl, hu, ht, hv⟩ := between_of_lexemes hts
  rw [List.append_assoc, List.cons_append]
  have ha := led_beforeAmpersand ha hu ht (accepts_bindsTighter (by decide : 0 < 10)) (vs ++ rest)
  refine ha.join ?_ (.text ht (hb vs rest hv hc.right.tail hs))
  rw [Token.bindsTighter_of_symbol ht]
  rfl

lemma readsBack_comparedJoin {op : Comparator} {a b c : Expr} (ha : ReadsBack fin .comparison a)
    (hb : ReadsBack fin (.chain .sum) b) (hc : ReadsBack fin .compound c) :
    ReadsBack fin .compound (.comparison op a (.textJoin b c)) := by
  intro ts rest hts hclear hs
  obtain ⟨us, t, vs, rfl, hu, ht, hv⟩ := between_of_lexemes hts
  rw [List.append_assoc, List.cons_append]
  obtain ⟨hj, hpass⟩ := led_left ha hu ht (accepts_joinsAtOnce _) (vs ++ rest)
  have hr := led_textJoin hb hc hv hclear.right.tail hs
  obtain ⟨o, us', ho, hjr⟩ := hr.tighter (hs.1.bindsFrom_mono (Nat.zero_le _))
  have hl := hj.join hpass (.comparison ht ho (op.precedence_symbol ▸ hjr))
  exact hl.last hs

lemma readsBack_textJoin {a b : Expr} (ha : ReadsBack fin (.chain .sum) a)
    (hb : ReadsBack fin .compound b) : ReadsBack fin .compound (.textJoin a b) := by
  intro ts rest hts hc hs
  obtain ⟨us, t, vs, rfl, hu, ht, hv⟩ := between_of_lexemes hts
  rw [List.append_assoc, List.cons_append]
  have ha := led_beforeAmpersand ha hu ht (accepts_joinsAtOnce _) (vs ++ rest)
  obtain ⟨o, us', ho, hj⟩ := ha.immediate (Token.joinsAtOnce_of_symbol ht)
  exact .textJoin ho hj ht (hb vs rest hv hc.right.tail hs)

section Intersections

variable {a b : Expr}

lemma bindsFrom_eq_false_of_startsOperand (h : t.startsOperand)
    (hm : t.lexeme ≠ .symbol .subtract) : t.bindsFrom 0 = false := by
  apply Token.bindsFrom_eq_false_iff.mpr
  intro s ht hj
  rw [Token.startsOperand_of_symbol ht] at h
  rw [ht, ne_eq, Lexeme.symbol.injEq] at hm
  revert h hm hj
  cases s <;> decide

lemma readsBack_intersection (ha : ReadsBack fin .comparison a)
    (hb : ReadsBack fin .compound b) (hs : Seam a.written b.written) (hne : b.written ≠ []) :
    ReadsBack fin .compound (.intersection a b) := by
  intro ts rest hts hc ho
  obtain ⟨us, vs, rfl, hu, hv⟩ := List.map_eq_append_iff.mp hts
  have hr : Reads fin .compound (vs ++ rest) (.expr b) rest := hb vs rest hv hc.right ho
  obtain ⟨t, vs, rfl⟩ := List.exists_cons_of_ne_nil (ne_nil_of_lexemes hv hne)
  have hh : b.written.head? = some t.lexeme := by
    rw [← hv]
    rfl
  have ht : t.startsOperand := by
    obtain ⟨u, us, h, hu⟩ := hr.starts (.inl rfl)
    obtain ⟨rfl, -⟩ := List.cons.inj h
    exact hu
  have hm : t.lexeme ≠ .symbol .subtract := fun hm => hs.subtract (hm ▸ hh)
  have hends : Stops fin (Token.bindsFrom 0) (t :: (vs ++ rest)) :=
    bindsFrom_eq_false_of_startsOperand ht hm
  have hl := ha us (t :: (vs ++ rest)) hu (clear_of_seam hs hh ht)
    (hends.bindsFrom_mono (Nat.zero_le 1)) _ (accepts_joinsAtOnce _)
  obtain ⟨o, us', hop, hj⟩ := hl.immediate (stops_joinsAtOnce hends)
  rw [List.append_assoc]
  exact .intersection hop hj hr

end Intersections

end Parser

end CellFormula
