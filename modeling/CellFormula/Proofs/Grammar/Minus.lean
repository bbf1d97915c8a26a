import CellFormula.Proofs.Expr.Traversal
import CellFormula.Proofs.Grammar.Shape
import CellFormula.Proofs.Grammar.Written
import Mathlib.Algebra.BigOperators.Group.List.Basic
import Mathlib.Algebra.GroupWithZero.Nat

/-! The three meanings of a minus sign. Which one it has is decided by the tokens next to it: behind
an operand it subtracts, and anywhere else it is the sign of a number or it negates what follows. -/

namespace CellFormula

def Symbol.endsOperand (s : Symbol) : Bool := s.isClose || s == .percent

def Token.endsOperand (t : Token) : Bool := t.symbol?.all Symbol.endsOperand

namespace Token

variable {t : Token}

lemma endsOperand_of_symbol {s : Symbol} (ht : t.lexeme = .symbol s) :
    t.endsOperand = s.endsOperand := by
  rw [endsOperand, symbol?_eq_some_iff.mpr ht, Option.all_some]

lemma endsOperand_of_symbol?_eq_none (ht : t.symbol? = none) : t.endsOperand := by
  rw [endsOperand, ht, Option.all_none]

end Token

inductive MinusRole where
  | step | sign | negation
  deriving DecidableEq

/-- The role of a minus sign before the tokens `behind`, where `ended` says that the token before
the sign ends an operand. -/
def minusRole (ended : Bool) (behind : List Token) : MinusRole :=
  if ended then .step else if behind.head?.any Token.isNumber then .sign else .negation

def minusRoles (ended : Bool) : List Token → List MinusRole
  | [] => []
  | t :: ts =>
    if t.isSymbol .subtract then minusRole ended ts :: minusRoles t.endsOperand ts
    else minusRoles t.endsOperand ts

namespace Expr

def minuses : MinusRole → Expr → Nat
  | .step, chain ((.start, _) :: operations) => operations.countP (·.1 = .subtract)
  | .sign, number d => if d.negative then 1 else 0
  | .negation, chain [(.subtract, _)] => 1
  | _, _ => 0

variable {role : MinusRole} {e inner left right : Expr} {es : List Expr}

def allMinuses (role : MinusRole) (e : Expr) : Nat := (e.walk.map (minuses role)).sum

lemma allMinuses_eq (role : MinusRole) (e : Expr) :
    allMinuses role e = minuses role e + (e.children.map (allMinuses role)).sum := by
  rw [allMinuses, walk_eq, List.map_cons, List.sum_cons, List.map_flatMap, List.flatMap_def,
    List.sum_flatten, List.map_map]
  rfl

def signs : Expr → Bool
  | chain _ | number _ => true
  | _ => false

lemma minuses_eq_zero (h : e.signs = false) : minuses role e = 0 := by
  cases e with
  | chain | number => cases h
  | _ => cases role <;> rfl

lemma allMinuses_of_children (e : Expr) (h : e.signs = false) :
    allMinuses role e = (e.children.map (allMinuses role)).sum := by
  rw [allMinuses_eq, minuses_eq_zero h, Nat.zero_add]

lemma allMinuses_leaf (e : Expr) (h : e.signs = false) (hc : e.children = []) :
    allMinuses role e = 0 := by
  rw [allMinuses_of_children e h, hc]
  rfl

lemma allMinuses_inner (e : Expr) (h : e.signs = false) (hc : e.children = [inner]) :
    allMinuses role e = allMinuses role inner := by
  rw [allMinuses_of_children e h, hc, List.map_singleton, List.sum_singleton]

lemma allMinuses_pair (e : Expr) (h : e.signs = false) (hc : e.children = [left, right]) :
    allMinuses role e = allMinuses role left + allMinuses role right := by
  rw [allMinuses_of_children e h, hc, List.map_cons, List.sum_cons, List.map_singleton,
    List.sum_singleton]

lemma allMinuses_ofColumns (es : List Expr) :
    allMinuses role (ofColumns es) = (es.map (allMinuses role)).sum := by
  rcases es with _ | ⟨e, _ | ⟨e', es⟩⟩
  · exact (allMinuses_inner (structured _) rfl rfl).trans (allMinuses_leaf empty rfl rfl)
  · exact (allMinuses_inner (structured _) rfl rfl).trans List.sum_singleton.symm
  · exact (allMinuses_inner (structured _) rfl rfl).trans (allMinuses_of_children (union _) rfl)

lemma allMinuses_number (d : Decimal) :
    allMinuses role (number d) = if role = .sign ∧ d.negative then 1 else 0 := by
  rw [allMinuses_eq]
  cases role <;> simp [minuses, children]

lemma allMinuses_negation (e : Expr) : allMinuses role (chain [(.subtract, e)]) =
    (if role = .negation then 1 else 0) + allMinuses role e := by
  rw [allMinuses_eq]
  cases role <;> simp [minuses, children]

lemma allMinuses_percent (e : Expr) :
    allMinuses role (chain [(.percent, e)]) = allMinuses role e := by
  rw [allMinuses_eq]
  cases role <;> simp [minuses, children]

def stepMinuses (role : MinusRole) (operations : List (Step × Expr)) : Nat :=
  (operations.map fun o =>
    (if o.1 = .subtract ∧ role = .step then 1 else 0) + allMinuses role o.2).sum

lemma stepMinuses_nil : stepMinuses role [] = 0 := rfl

lemma stepMinuses_cons (step : Step) (e : Expr) (operations : List (Step × Expr)) :
    stepMinuses role ((step, e) :: operations) =
      (if step = .subtract ∧ role = .step then 1 else 0) + allMinuses role e +
        stepMinuses role operations := by
  rw [stepMinuses, List.map_cons, List.sum_cons]
  rfl

lemma stepMinuses_eq (operations : List (Step × Expr)) : stepMinuses role operations =
    (if role = .step then operations.countP (·.1 = .subtract) else 0) +
      (operations.map fun o => allMinuses role o.2).sum := by
  induction operations with
  | nil => simp [stepMinuses]
  | cons o operations ih =>
    rw [stepMinuses_cons, ih, List.map_cons, List.sum_cons, List.countP_cons]
    by_cases hr : role = .step <;> by_cases ho : o.1 = .subtract <;> simp [hr, ho] <;> omega

lemma allMinuses_chain (e : Expr) (operations : List (Step × Expr)) :
    allMinuses role (chain ((.start, e) :: operations)) =
      allMinuses role e + stepMinuses role operations := by
  have hc : minuses role (chain ((.start, e) :: operations)) =
      if role = .step then operations.countP (·.1 = .subtract) else 0 := by
    cases role <;> simp [minuses]
  rw [allMinuses_eq, hc, children, List.map_cons, List.map_cons, List.sum_cons, List.map_map,
    stepMinuses_eq, Nat.add_left_comm]
  rfl

end Expr

inductive Expr.Parted : Expr → Prop
  | node {e} : (∀ a b, e = .intersection a b → b.written.head? ≠ some (.symbol .subtract)) →
      (∀ c ∈ e.children, Parted c) → Parted e

namespace Expr.Parted

variable {s e a b : Expr} {es : List Expr}

lemma leaf (hc : e.children = []) (h : ∀ a b, e ≠ intersection a b) : Parted e :=
  .node (fun a b he => (h a b he).elim) (hc ▸ List.forall_mem_nil _)

lemma inner (hc : e.children = [a]) (h : ∀ a b, e ≠ intersection a b) (ha : Parted a) :
    Parted e :=
  .node (fun a b he => (h a b he).elim) (hc ▸ List.forall_mem_singleton.mpr ha)

lemma pair (hc : e.children = [a, b]) (h : ∀ a b, e ≠ intersection a b) (ha : Parted a)
    (hb : Parted b) : Parted e :=
  .node (fun a b he => (h a b he).elim) (by simpa [hc] using ⟨ha, hb⟩)

lemma chain {operations : List (Step × Expr)} (h : ∀ o ∈ operations, Parted o.2) :
    Parted (.chain operations) :=
  .node (by simp) (List.forall_mem_map.mpr h)

lemma ofColumns (h : ∀ e ∈ es, Parted e) : Parted (.ofColumns es) := by
  have hs {e : Expr} (he : Parted e) : Parted (.structured e) := .inner rfl (by simp) he
  rcases es with _ | ⟨e, _ | ⟨e', es⟩⟩
  · exact hs (.leaf rfl (by simp))
  · exact hs (h e List.mem_cons_self)
  · exact hs (.node (by simp) h)

lemma within (h : Parted e) (hs : s.Within e) : Parted s := by
  induction hs with
  | self => exact h
  | child hm _ ih =>
    obtain ⟨-, hc⟩ := h
    exact ih (hc _ hm)

end Expr.Parted

namespace Parser

variable {fin : Option LexicalError} {c : Call} {ts us rest : List Token} {a : Answer}
  {t u : Token} {s : Symbol} {e : Expr} {ended : Bool} {role : MinusRole}

def counted (role : MinusRole) (ended : Bool) (ts : List Token) : Nat :=
  (minusRoles ended ts).count role

lemma counted_word {w : Lexeme} (ht : t.lexeme = w) (hw : w.symbol? = none) :
    counted role ended (t :: ts) = counted role true ts := by
  have ht : t.symbol? = none := by rw [Token.symbol?, ht, hw]
  have hs : t.isSymbol .subtract = false := by rw [Token.isSymbol, ht]; rfl
  rw [counted, minusRoles, hs, Token.endsOperand_of_symbol?_eq_none ht]
  rfl

lemma counted_symbol (ht : t.lexeme = .symbol s) (hs : s ≠ .subtract) :
    counted role ended (t :: ts) = counted role s.endsOperand ts := by
  have hs : t.isSymbol .subtract = false := by
    rw [Token.isSymbol_of_symbol ht, beq_eq_false_iff_ne]
    exact hs
  rw [counted, minusRoles, hs, Token.endsOperand_of_symbol ht]
  rfl

lemma counted_subtract (ht : t.lexeme = .symbol .subtract) : counted role ended (t :: ts) =
    counted role false ts + if role = minusRole ended ts then 1 else 0 := by
  have he : t.endsOperand = false := Token.endsOperand_of_symbol ht
  rw [counted, minusRoles, Token.isSymbol_of_symbol ht, he, counted]
  simp only [beq_self_eq_true, if_true, List.count_cons, beq_iff_eq, @eq_comm _ role]

lemma counted_step {step : Step} (ht : t.lexeme = .symbol s) (hs : Step.ofSymbol? s = some step) :
    counted role true (t :: ts) =
      (if step = .subtract ∧ role = .step then 1 else 0) + counted role false ts := by
  cases s <;> cases hs <;> first
    | rw [counted_subtract ht, Nat.add_comm]; cases role <;> rfl
    | exact (counted_symbol ht (by decide)).trans (Nat.zero_add _).symm

lemma counted_flag (h : Stops fin (Token.isSymbol · .subtract) ts) :
    counted role true ts = counted role false ts := by
  cases ts with
  | nil => rfl
  | cons t ts =>
    have ht : t.isSymbol .subtract = false := h
    simp only [counted, minusRoles, ht]
    rfl

/-- The minus signs among the tokens that a call takes are those of its answer, together with those
of what was read for it before. -/
def Counts (fin : Option LexicalError) (role : MinusRole) :
    Call → List Token → Answer → List Token → Prop
  | .compound, ts, .expr e, rest | .operand, ts, .expr e, rest | .value, ts, .expr e, rest =>
    counted role false ts = e.allMinuses role + counted role true rest
  | .named _, ts, .expr e, rest => counted role true ts = e.allMinuses role + counted role true rest
  | .items _ _ .filled, ts, .list es, rest => Stops fin Token.startsOperand ts →
    counted role true ts = (es.map (Expr.allMinuses role)).sum + counted role true rest
  | .items _ _ _, ts, .list es, rest =>
    counted role false ts = (es.map (Expr.allMinuses role)).sum + counted role true rest
  | .immediateJoins left, ts, .expr e, rest | .tighterJoins _ left, ts, .expr e, rest
  | .join _ left, ts, .expr e, rest =>
    left.allMinuses role + counted role true ts = e.allMinuses role + counted role true rest
  | .chainSteps _ step _, ts, .steps operations, rest =>
    (if step = .subtract ∧ role = .step then 1 else 0) + counted role false ts =
      Expr.stepMinuses role operations + counted role true rest
  | _, _, _, _ => True

lemma minusRole_of_stops (h : Stops fin Token.isNumber ts) : minusRole false ts = .negation := by
  cases ts with
  | nil => rfl
  | cons t ts =>
    have ht : t.isNumber = false := h
    simp [minusRole, ht]

lemma counted_comparator {op : Comparator} (ht : t.lexeme = .symbol op.symbol) :
    counted role ended (t :: ts) = counted role false ts := by
  cases op <;> exact counted_symbol ht (by decide)

section Items

variable {closer : Symbol} {opener : Token} {slot : Slot} {es : List Expr}

lemma counts_beforeComma (ht : t.lexeme = .symbol .comma)
    (h : Counts fin role (.items closer opener .vacant) ts (.list es) rest) :
    Counts fin role (.items closer opener slot) (t :: ts) (.list (slot.beforeComma es)) rest := by
  have hc (ended : Bool) : counted role ended (t :: ts) =
      (es.map (Expr.allMinuses role)).sum + counted role true rest :=
    (counted_symbol ht (by decide)).trans h
  have hs : ((Expr.empty :: es).map (Expr.allMinuses role)).sum =
      (es.map (Expr.allMinuses role)).sum := by
    rw [List.map_cons, List.sum_cons, Expr.allMinuses_leaf .empty rfl rfl, Nat.zero_add]
  cases slot with
  | filled => exact fun _ => hc true
  | opening | vacant => exact (hc false).trans (congrArg (· + _) hs.symm)

lemma counts_beforeClose (ht : t.lexeme = .symbol closer) (hc : closer.isClose) :
    Counts fin role (.items closer opener slot) (t :: rest) (.list slot.beforeClose) rest := by
  have hr (ended : Bool) : counted role ended (t :: rest) = counted role true rest := by
    cases closer with
    | closeBracket | closeSquare => exact counted_symbol ht (by decide)
    | _ => cases hc
  have hs : ([Expr.empty].map (Expr.allMinuses role)).sum = 0 := by
    rw [List.map_singleton, List.sum_singleton, Expr.allMinuses_leaf .empty rfl rfl]
  cases slot with
  | filled => exact fun _ => (hr true).trans (Nat.zero_add _).symm
  | opening => exact (hr false).trans (Nat.zero_add _).symm
  | vacant =>
    refine (hr false).trans ?_
    rw [Slot.beforeClose, hs, Nat.zero_add]

lemma counts_item (hr : Reads fin .compound ts (.expr e) us)
    (he : counted role false ts = e.allMinuses role + counted role true us)
    (h : Counts fin role (.items closer opener .filled) us (.list es) rest) :
    Counts fin role (.items closer opener slot) ts (.list (e :: es)) rest := by
  have ht : counted role false ts =
      ((e :: es).map (Expr.allMinuses role)).sum + counted role true rest := by
    rw [he, h hr.stops_startsOperand, List.map_cons, List.sum_cons, Nat.add_assoc]
  cases slot with
  | opening | vacant => exact ht
  | filled =>
    intro hn
    obtain ⟨t, us, rfl, hstarts⟩ := hr.starts (.inl rfl)
    rw [show t.startsOperand = false from hn] at hstarts
    cases hstarts

end Items

lemma stops_subtract (h : Stops fin Token.joinsAtOnce ts) :
    Stops fin (Token.isSymbol · .subtract) ts :=
  h.isSymbol fun _ ht => Token.joinsAtOnce_of_symbol ht

theorem counts_of_reads (h : Reads fin c ts a rest) (hu : Unsigned ts) (hc : c.Closes) :
    Counts fin role c ts a rest := by
  induction h with
  | last h h' _ ih ih' => exact (ih hu trivial).trans (ih' (hu.suffix h.suffix) trivial)
  | textJoin h h' ht hr ih ih' ih'' =>
    have hu' := hu.suffix h.suffix
    have he := (ih hu trivial).trans (ih' hu' trivial)
    have hr := ih'' (hu'.suffix ((List.suffix_cons _ _).trans h'.suffix)) trivial
    refine he.trans ?_
    rw [counted_symbol ht (by decide), Expr.allMinuses_pair (.textJoin _ _) rfl rfl, Nat.add_assoc]
    exact congrArg _ hr
  | intersection h h' hr ih ih' ih'' =>
    have hu' := hu.suffix h.suffix
    have he := (ih hu trivial).trans (ih' hu' trivial)
    have hr := ih'' (hu'.suffix h'.suffix) trivial
    refine he.trans ?_
    rw [counted_flag (stops_subtract h'.stops_immediateJoins),
      Expr.allMinuses_pair (.intersection _ _) rfl rfl, Nat.add_assoc]
    exact congrArg _ hr
  | plain _ ih => exact ih hu trivial
  | @negation _ ts rest e ht hs _ ih =>
    have he : counted role false ts = e.allMinuses role + counted role true rest :=
      ih (hu.suffix (List.suffix_cons _ _)) trivial
    have hm : minusRole false ts = .negation := minusRole_of_stops hs
    refine (counted_subtract ht).trans ?_
    rw [he, hm, Expr.allMinuses_negation, eq_comm]
    omega
  | literal ht _ ih =>
    exact (counted_word ht rfl).trans (ih (hu.suffix (List.suffix_cons _ _)) trivial)
  | string ht | error ht =>
    refine (counted_word ht rfl).trans ?_
    rw [Expr.allMinuses_leaf _ rfl rfl, Nat.zero_add]
  | number ht =>
    have hd := hu _ List.mem_cons_self _ ht
    refine (counted_word ht rfl).trans ?_
    simp [Expr.allMinuses_number, hd]
  | @negative t u rest d ht hn =>
    have hd := hu _ (List.mem_cons_of_mem _ List.mem_cons_self) _ hn
    have hd' : d.negate.negative = true := by simp [Decimal.negate, hd]
    have hm : minusRole false (u :: rest) = .sign := by
      simp [minusRole, Token.isNumber, Lexeme.isNumber, hn]
    refine (counted_subtract ht).trans ?_
    rw [counted_word hn rfl, hm, Expr.allMinuses_number, hd', eq_comm]
    simp [Nat.add_comm]
  | brackets ht ht' =>
    refine (counted_symbol ht (by decide)).trans ((counted_symbol ht' (by decide)).trans ?_)
    rw [Expr.allMinuses_inner (.bracketed _) rfl rfl, Expr.allMinuses_leaf .empty rfl rfl,
      Nat.zero_add]
    rfl
  | bracketed ht _ ht' ih =>
    have he := ih (hu.suffix (List.suffix_cons _ _)) trivial
    refine (counted_symbol ht (by decide)).trans (he.trans ?_)
    rw [counted_symbol ht' (by decide), Expr.allMinuses_inner (.bracketed _) rfl rfl]
    rfl
  | columns ht _ ih =>
    refine (counted_symbol ht (by decide)).trans ?_
    rw [Expr.allMinuses_ofColumns]
    exact ih (hu.suffix (List.suffix_cons _ _)) rfl
  | call ht _ ih =>
    refine (counted_symbol ht (by decide)).trans ?_
    rw [Expr.allMinuses_of_children (.call _ _) rfl]
    exact ih (hu.suffix (List.suffix_cons _ _)) rfl
  | truth | cell =>
    simp only [Counts]
    rw [Expr.allMinuses_leaf _ rfl rfl, Nat.zero_add]
  | sheet _ ht _ ih =>
    refine (counted_symbol ht (by decide)).trans ?_
    rw [Expr.allMinuses_pair (.sheet _ _) rfl rfl, Expr.allMinuses_leaf (.cell _) rfl rfl,
      Nat.zero_add]
    exact ih (hu.suffix (List.suffix_cons _ _)) trivial
  | table _ ht _ ih =>
    refine (counted_symbol ht (by decide)).trans ?_
    rw [Expr.allMinuses_inner (.table _ _) rfl rfl, ← counted_symbol ht (by decide)]
    exact ih hu trivial
  | comma ht _ ih => exact counts_beforeComma ht (ih (hu.suffix (List.suffix_cons _ _)) hc)
  | close ht => exact counts_beforeClose ht hc
  | item _ _ h _ ih ih' => exact counts_item h (ih hu trivial) (ih' (hu.suffix h.suffix) hc)
  | immediateStop | tighterStop => rfl
  | immediateStep _ h _ ih ih' | tighterStep _ h _ ih ih' =>
    exact (ih hu trivial).trans (ih' (hu.suffix h.suffix) trivial)
  | range ht _ ih =>
    have he := ih (hu.suffix (List.suffix_cons _ _)) trivial
    simp only [Counts]
    rw [counted_symbol ht (by decide), Expr.allMinuses_pair (.range _ _) rfl rfl, Nat.add_assoc]
    exact congrArg _ he
  | percent ht =>
    simp only [Counts]
    rw [counted_symbol ht (by decide), Expr.allMinuses_percent]
    rfl
  | text ht _ ih =>
    have he := ih (hu.suffix (List.suffix_cons _ _)) trivial
    simp only [Counts]
    rw [counted_symbol ht (by decide), Expr.allMinuses_pair (.textJoin _ _) rfl rfl, Nat.add_assoc]
    exact congrArg _ he
  | maths ht hs _ ih =>
    have ho := ih (hu.suffix (List.suffix_cons _ _)) trivial
    simp only [Counts]
    rw [counted_step ht hs, Expr.allMinuses_chain, Nat.add_assoc]
    exact congrArg _ ho
  | @comparison _ _ _ _ op _ _ _ ht h _ ih ih' =>
    have hu' := hu.suffix (List.suffix_cons _ _)
    have he := (ih hu' trivial).trans (ih' (hu'.suffix h.suffix) trivial)
    simp only [Counts]
    rw [counted_comparator ht, Expr.allMinuses_pair (.comparison _ _ _) rfl rfl, Nat.add_assoc]
    exact congrArg _ he
  | lastStep h _ _ ih ih' =>
    have he := (ih hu trivial).trans (ih' (hu.suffix h.suffix) trivial)
    simp only [Counts]
    rw [he, Expr.stepMinuses_cons, Expr.stepMinuses_nil, Nat.add_zero, Nat.add_assoc]
  | nextStep h h' ht _ ih ih' ih'' =>
    have hu' := hu.suffix h.suffix
    have he := (ih hu trivial).trans (ih' hu' trivial)
    have ho := ih'' (hu'.suffix ((List.suffix_cons _ _).trans h'.suffix)) trivial
    obtain ⟨s, ht, -, hs⟩ := Token.chainStep?_eq_some_iff.mp ht
    rw [counted_step ht hs] at he
    simp only [Counts] at ho ⊢
    rw [he, ho, Expr.stepMinuses_cons]
    simp only [Nat.add_assoc]

def Parts : Call → Answer → Prop
  | .immediateJoins left, .expr e | .tighterJoins _ left, .expr e | .join _ left, .expr e =>
    left.Parted → e.Parted
  | _, .expr e => e.Parted
  | _, .list es => ∀ e ∈ es, e.Parted
  | _, .steps operations => ∀ o ∈ operations, o.2.Parted

-- The left side of an intersection ends where nothing is joined at once; so no minus sign follows,
-- and what follows is how the right side is written.
lemma head?_written_of_reads {left : Expr} (h : Reads fin (.immediateJoins left) us a ts)
    (hr : Reads fin .compound ts (.expr e) rest) (hu : Unsigned ts) :
    e.written.head? ≠ some (.symbol .subtract) := by
  have hw : lexemes ts = e.written ++ lexemes rest := spells_of_reads hr hu
  intro he
  obtain ⟨ws, hws⟩ := List.head?_eq_some_iff.mp he
  rw [hws] at hw
  obtain ⟨t, ts, rfl, ht, -⟩ := List.map_eq_cons_iff.mp hw
  have hj : t.joinsAtOnce = false := h.stops_immediateJoins
  rw [Token.joinsAtOnce_of_symbol ht] at hj
  cases hj

theorem parts_of_reads (h : Reads fin c ts a rest) (hu : Unsigned ts) : Parts c a := by
  induction h with
  | last h _ _ ih ih' => exact ih' (hu.suffix h.suffix) (ih hu)
  | textJoin h h' _ _ ih ih' ih'' =>
    have hu' := hu.suffix h.suffix
    have hr := ih'' (hu'.suffix ((List.suffix_cons _ _).trans h'.suffix))
    exact .pair rfl (by simp) (ih' hu' (ih hu)) hr
  | intersection h h' hr ih ih' ih'' =>
    have hu' := hu.suffix h.suffix
    have hu'' := hu'.suffix h'.suffix
    refine .node (fun _ _ he => ?_)
      (List.forall_mem_cons.mpr ⟨ih' hu' (ih hu), List.forall_mem_singleton.mpr (ih'' hu'')⟩)
    obtain ⟨rfl, rfl⟩ := Expr.intersection.inj he
    exact head?_written_of_reads h' hr hu''
  | plain _ ih => exact ih hu
  | negation _ _ _ ih =>
    exact .chain (List.forall_mem_singleton.mpr (ih (hu.suffix (List.suffix_cons _ _))))
  | literal _ _ ih => exact ih (hu.suffix (List.suffix_cons _ _))
  | string | error | number | negative | truth | cell => exact .leaf rfl (by simp)
  | brackets => exact .inner rfl (by simp) (.leaf rfl (by simp))
  | bracketed _ _ _ ih => exact .inner rfl (by simp) (ih (hu.suffix (List.suffix_cons _ _)))
  | columns _ _ ih => exact .ofColumns (ih (hu.suffix (List.suffix_cons _ _)))
  | call _ _ ih => exact .node (by simp) (ih (hu.suffix (List.suffix_cons _ _)))
  | sheet _ _ _ ih =>
    exact .pair rfl (by simp) (.leaf rfl (by simp)) (ih (hu.suffix (List.suffix_cons _ _)))
  | table _ _ _ ih => exact .inner rfl (by simp) (ih hu)
  | @comma _ _ slot _ _ _ _ _ _ ih =>
    have hes := ih (hu.suffix (List.suffix_cons _ _))
    cases slot with
    | filled => exact hes
    | opening | vacant => exact List.forall_mem_cons.mpr ⟨.leaf rfl (by simp), hes⟩
  | @close _ _ slot =>
    cases slot with
    | vacant => exact List.forall_mem_singleton.mpr (.leaf rfl (by simp))
    | opening | filled => exact List.forall_mem_nil _
  | item _ _ h _ ih ih' => exact List.forall_mem_cons.mpr ⟨ih hu, ih' (hu.suffix h.suffix)⟩
  | immediateStop | tighterStop => exact id
  | immediateStep _ h _ ih ih' | tighterStep _ h _ ih ih' =>
    exact fun hl => ih' (hu.suffix h.suffix) (ih hu hl)
  | range _ _ ih | text _ _ ih =>
    exact fun hl => .pair rfl (by simp) hl (ih (hu.suffix (List.suffix_cons _ _)))
  | percent => exact fun hl => .chain (List.forall_mem_singleton.mpr hl)
  | maths _ _ _ ih =>
    exact fun hl => .chain (List.forall_mem_cons.mpr ⟨hl, ih (hu.suffix (List.suffix_cons _ _))⟩)
  | comparison _ h _ ih ih' =>
    have hu' := hu.suffix (List.suffix_cons _ _)
    exact fun hl => .pair rfl (by simp) hl (ih' (hu'.suffix h.suffix) (ih hu'))
  | lastStep h _ _ ih ih' =>
    exact List.forall_mem_singleton.mpr (ih' (hu.suffix h.suffix) (ih hu))
  | nextStep h h' _ _ ih ih' ih'' =>
    have hu' := hu.suffix h.suffix
    have ho := ih'' (hu'.suffix ((List.suffix_cons _ _).trans h'.suffix))
    exact List.forall_mem_cons.mpr ⟨ih' hu' (ih hu), ho⟩

end Parser

namespace Formula

open CellFormula.Parser

structure SignsAgree (ts : List Token) (e : Expr) : Prop where
  roles : ∀ role, (minusRoles false ts).count role = (e.walk.map (Expr.minuses role)).sum
  intersections : ∀ a b, (Expr.intersection a b).Within e →
    b.written.head? ≠ some (.symbol .subtract)

theorem signsAgree_of_parseTokens {source : Source Token LexicalError} {e : Expr}
    (hu : ∀ t ∈ source.items, ∀ d, t.lexeme = .number d → d.negative = false)
    (h : parseTokens source = .ok (some e)) : SignsAgree source.items e where
  roles role := by
    obtain ⟨-, hr⟩ := reads_of_parseTokens h
    have hc : counted role false source.items = e.allMinuses role + counted role true [] :=
      counts_of_reads hr hu trivial
    exact hc
  intersections a b hw := by
    obtain ⟨-, hr⟩ := reads_of_parseTokens h
    have he : e.Parted := parts_of_reads hr hu
    obtain ⟨hi, -⟩ := he.within hw
    exact hi a b rfl

-- `-A--1`
def threefold : Source Token LexicalError :=
  .ofList [⟨.symbol .subtract, 0, 1⟩, ⟨.literal "A", 1, 2⟩, ⟨.symbol .subtract, 2, 3⟩,
    ⟨.symbol .subtract, 3, 4⟩, ⟨.number ⟨false, 1, 0⟩, 4, 5⟩]

theorem signsAgree_threefold : minusRoles false threefold.items = [.negation, .step, .sign] ∧
    SignsAgree threefold.items (.chain
      [(.start, .chain [(.subtract, .cell "A")]), (.subtract, .number ⟨true, 1, 0⟩)]) := by
  refine ⟨rfl, signsAgree_of_parseTokens ?_ rfl⟩
  simp [threefold, Source.ofList]

end Formula

end CellFormula
