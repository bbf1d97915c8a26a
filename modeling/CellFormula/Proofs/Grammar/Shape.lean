import CellFormula.Expr.Basic
import Mathlib.Tactic.Lemma

namespace CellFormula

inductive Tier where
  | power | product | sum

inductive Level where
  | value
  | operand
  | factor
  | chain (tier : Tier)
  | comparison
  | compound

namespace Tier

def precedence : Tier → Nat
  | power => 30
  | product => 20
  | sum => 10

def steps : Tier → List Step
  | power => [.power]
  | product => [.multiply, .divide]
  | sum => [.add, .subtract]

def operands : Tier → Level
  | power => .factor
  | product => .chain .power
  | sum => .chain .product

end Tier

inductive Shape : Level → Expr → Prop
  | string {text} : Shape .value (.string text)
  | error {code} : Shape .value (.error code)
  | number {d} : Shape .value (.number d)
  | boolean {b} : Shape .value (.boolean b)
  | cell {name} : Shape .value (.cell name)
  | brackets : Shape .value (.bracketed .empty)
  | bracketed {e} : Shape .compound e → Shape .value (.bracketed e)
  | call {name es} : es ≠ [.empty] → (∀ e ∈ es, e ≠ .empty → Shape .compound e) →
      Shape .value (.call name es)
  | sheet {name e} : Shape .value e → Shape .value (.sheet (.cell name) e)
  | columns : Shape .value (.structured .empty)
  | column {e} : Shape .compound e → Shape .value (.structured e)
  | union {es} : 2 ≤ es.length → (∀ e ∈ es, e ≠ .empty → Shape .compound e) →
      Shape .value (.structured (.union es))
  | table {name e} : Shape .value (.structured e) → Shape .value (.table name (.structured e))
  | plain {e} : Shape .value e → Shape .operand e
  | negation {e} : Shape .operand e → Shape .operand (.chain [(.subtract, e)])
  | operand {e} : Shape .operand e → Shape .factor e
  | range {a b} : Shape .factor a → Shape .value b → Shape .factor (.range a b)
  | percent {e} : Shape .factor e → Shape .factor (.chain [(.percent, e)])
  | single {tier e} : Shape tier.operands e → Shape (.chain tier) e
  | chain {tier e operations} : Shape tier.operands e → operations ≠ [] →
      (∀ o ∈ operations, o.1 ∈ tier.steps) → (∀ o ∈ operations, Shape tier.operands o.2) →
      Shape (.chain tier) (.chain ((.start, e) :: operations))
  | sum {e} : Shape (.chain .sum) e → Shape .comparison e
  | comparison {op a b} : Shape .comparison a → Shape (.chain .sum) b →
      Shape .comparison (.comparison op a b)
  | compared {e} : Shape .comparison e → Shape .compound e
  | comparedJoin {op a b c} : Shape .comparison a → Shape (.chain .sum) b → Shape .compound c →
      Shape .compound (.comparison op a (.textJoin b c))
  | textJoin {a b} : Shape (.chain .sum) a → Shape .compound b → Shape .compound (.textJoin a b)
  | intersection {a b} : Shape .comparison a → Shape .compound b →
      Shape .compound (.intersection a b)

def Item (e : Expr) : Prop := e = .empty ∨ Shape .compound e

inductive Expr.Within (s : Expr) : Expr → Prop
  | self : Within s s
  | child {c e} : c ∈ e.children → Within s c → Within s e

def Expr.holdsItems : Expr → Bool
  | bracketed _ | call _ _ | structured _ | union _ => true
  | _ => false

structure Tidy (s : Expr) : Prop where
  bracketed : ∀ e, s = .bracketed e → Item e
  call : ∀ name es, s = .call name es → es ≠ [.empty] ∧ ∀ e ∈ es, Item e
  structured : ∀ e, s = .structured e → Item e ∨ ∃ es, e = .union es
  union : ∀ es, s = .union es → 2 ≤ es.length ∧ ∀ e ∈ es, Item e
  empty : .empty ∈ s.children → s.holdsItems
  inColumns : ∀ es, .union es ∈ s.children → s = .structured (.union es)

namespace Shape

variable {level : Level} {e : Expr} {tier tier' : Tier}

lemma ne_empty (h : Shape level e) : e ≠ .empty := by
  induction h with
  | plain _ ih | operand _ ih | single _ ih | sum _ ih | compared _ ih => exact ih
  | _ => simp

lemma ne_union (h : Shape level e) (es : List Expr) : e ≠ .union es := by
  induction h with
  | plain _ ih | operand _ ih | single _ ih | sum _ ih | compared _ ih => exact ih
  | _ => simp

lemma of_factor (tier : Tier) (h : Shape .factor e) : Shape (.chain tier) e := by
  cases tier with
  | power => exact .single h
  | product => exact .single (.single h)
  | sum => exact .single (.single (.single h))

lemma operands_of_factor (h : Shape .factor e) : Shape tier.operands e := by
  cases tier with
  | power => exact h
  | product => exact h.of_factor .power
  | sum => exact h.of_factor .product

lemma operands_of_lt (ht : tier.precedence < tier'.precedence) (h : Shape (.chain tier') e) :
    Shape tier.operands e := by
  cases tier <;> cases tier' <;>
    first | exact h | exact .single h | exact absurd ht (by decide)

lemma sum_of_chain (h : Shape (.chain tier) e) : Shape (.chain .sum) e := by
  cases tier with
  | power => exact .single (.single h)
  | product => exact .single h
  | sum => exact h

lemma compound_of_factor (h : Shape .factor e) : Shape .compound e :=
  .compared (.sum (h.of_factor .sum))

end Shape

lemma Item.of_shape {e : Expr} (h : e ≠ .empty → Shape .compound e) : Item e := by
  by_cases he : e = .empty
  · exact .inl he
  · exact .inr (h he)

lemma Item.ne_union {e : Expr} (h : Item e) (es : List Expr) : e ≠ .union es := by
  rcases h with rfl | h
  · simp
  · exact h.ne_union es

namespace Tidy

variable {s e : Expr} {es : List Expr}

lemma of_children (hs : s.holdsItems = false) (hc : ∀ c ∈ s.children, ∃ level, Shape level c) :
    Tidy s := by
  refine ⟨?_, ?_, ?_, ?_, fun h => ?_, fun es h => ?_⟩
  · rintro _ rfl
    cases hs
  · rintro _ _ rfl
    cases hs
  · rintro _ rfl
    cases hs
  · rintro _ rfl
    cases hs
  · obtain ⟨level, h⟩ := hc _ h
    exact (h.ne_empty rfl).elim
  · obtain ⟨level, h⟩ := hc _ h
    exact (h.ne_union es rfl).elim

lemma of_bracketed (h : Item e) : Tidy (.bracketed e) := by
  refine ⟨?_, by simp, by simp, by simp, fun _ => rfl, fun es he => ?_⟩
  · rintro _ ⟨rfl⟩
    exact h
  · exact (h.ne_union es (List.mem_singleton.mp he).symm).elim

lemma of_call {name : String} (hn : es ≠ [.empty]) (h : ∀ e ∈ es, Item e) :
    Tidy (.call name es) := by
  refine ⟨by simp, ?_, by simp, by simp, fun _ => rfl, fun es he => ?_⟩
  · rintro _ _ ⟨rfl, rfl⟩
    exact ⟨hn, h⟩
  · exact ((h _ he).ne_union es rfl).elim

lemma of_structured (h : Item e) : Tidy (.structured e) := by
  refine ⟨by simp, by simp, ?_, by simp, fun _ => rfl, fun es he => ?_⟩
  · rintro _ ⟨rfl⟩
    exact .inl h
  · exact (h.ne_union es (List.mem_singleton.mp he).symm).elim

lemma of_columns : Tidy (.structured (.union es)) := by
  refine ⟨by simp, by simp, ?_, by simp, fun _ => rfl, fun es' he => ?_⟩
  · rintro _ ⟨rfl⟩
    exact .inr ⟨es, rfl⟩
  · rw [List.mem_singleton.mp he]

lemma of_union (hl : 2 ≤ es.length) (h : ∀ e ∈ es, Item e) : Tidy (.union es) := by
  refine ⟨by simp, by simp, by simp, ?_, fun _ => rfl, fun es' he => ?_⟩
  · rintro _ ⟨rfl⟩
    exact ⟨hl, h⟩
  · exact ((h _ he).ne_union es' rfl).elim

end Tidy

inductive Part : Expr → Prop
  | empty : Part .empty
  | shaped {level e} : Shape level e → Part e
  | union {es} : 2 ≤ es.length → (∀ e ∈ es, Item e) → Part (.union es)

lemma Item.part {e : Expr} (h : Item e) : Part e := by
  rcases h with rfl | h
  · exact .empty
  · exact .shaped h

lemma forall_mem_pair {p : Expr → Prop} {a b : Expr} (ha : p a) (hb : p b) : ∀ c ∈ [a, b], p c :=
  List.forall_mem_cons.mpr ⟨ha, List.forall_mem_singleton.mpr hb⟩

lemma tidy_and_parts_of_shapes {s : Expr} (hs : s.holdsItems = false)
    (h : ∀ c ∈ s.children, ∃ level, Shape level c) : Tidy s ∧ ∀ c ∈ s.children, Part c := by
  refine ⟨.of_children hs h, fun c hc => ?_⟩
  obtain ⟨level, hc⟩ := h c hc
  exact .shaped hc

lemma Shape.tidy_and_parts {level : Level} {e : Expr} (h : Shape level e) :
    Tidy e ∧ ∀ c ∈ e.children, Part c := by
  induction h with
  | plain _ ih | operand _ ih | single _ ih | sum _ ih | compared _ ih => exact ih
  | string | error | number | boolean | cell =>
    exact tidy_and_parts_of_shapes rfl (List.forall_mem_nil _)
  | brackets => exact ⟨.of_bracketed (.inl rfl), List.forall_mem_singleton.mpr .empty⟩
  | bracketed h => exact ⟨.of_bracketed (.inr h), List.forall_mem_singleton.mpr (.shaped h)⟩
  | columns => exact ⟨.of_structured (.inl rfl), List.forall_mem_singleton.mpr .empty⟩
  | column h => exact ⟨.of_structured (.inr h), List.forall_mem_singleton.mpr (.shaped h)⟩
  | union hl hi =>
    exact ⟨.of_columns, List.forall_mem_singleton.mpr (.union hl fun e he => .of_shape (hi e he))⟩
  | call hn hi =>
    have hi := fun e he => Item.of_shape (hi e he)
    exact ⟨.of_call hn hi, fun c hc => (hi c hc).part⟩
  | negation h | percent h | table h =>
    exact tidy_and_parts_of_shapes rfl (List.forall_mem_singleton.mpr ⟨_, h⟩)
  | sheet h =>
    exact tidy_and_parts_of_shapes rfl (forall_mem_pair ⟨_, .cell⟩ ⟨_, h⟩)
  | range h h' | comparison h h' | textJoin h h' | intersection h h' =>
    exact tidy_and_parts_of_shapes rfl (forall_mem_pair ⟨_, h⟩ ⟨_, h'⟩)
  | comparedJoin h h' h'' =>
    exact tidy_and_parts_of_shapes rfl (forall_mem_pair ⟨_, h⟩ ⟨_, .textJoin h' h''⟩)
  | chain h _ _ ho =>
    refine tidy_and_parts_of_shapes rfl (List.forall_mem_cons.mpr ⟨⟨_, h⟩, fun c hc => ?_⟩)
    obtain ⟨o, hm, rfl⟩ := List.mem_map.mp hc
    exact ⟨_, ho o hm⟩

namespace Part

variable {e s : Expr} {es : List Expr}

lemma tidy_and_parts (h : Part e) : Tidy e ∧ ∀ c ∈ e.children, Part c := by
  cases h with
  | empty => exact tidy_and_parts_of_shapes rfl (List.forall_mem_nil _)
  | shaped h => exact h.tidy_and_parts
  | union hl hi => exact ⟨.of_union hl hi, fun c hc => (hi c hc).part⟩

lemma within (h : Part e) (hs : s.Within e) : Part s := by
  induction hs with
  | self => exact h
  | child hc _ ih => exact ih (h.tidy_and_parts.2 _ hc)

end Part

end CellFormula
