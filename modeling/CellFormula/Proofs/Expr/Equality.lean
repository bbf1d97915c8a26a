import CellFormula.Expr.Same
import CellFormula.Proofs.Decimal.Value
import CellFormula.Proofs.Expr.Places
import Mathlib.Data.List.Forall2

/-! Trees are the same exactly when they bear the same labels at the same places. So what is built
from the labels alone is the same for both, and a part can be replaced by one that is the same. -/

namespace CellFormula.Expr

/-- The class of an expression, and all that it says apart from its children. A number says its
value. -/
inductive Label where
  | empty
  | string (value : String)
  | error (code : ErrorCode)
  | number (value : ℚ)
  | boolean (value : Bool)
  | cell (name : String)
  | bracketed
  | call (name : String) (arity : Nat)
  | comparison (op : Comparator)
  | chain (steps : List Step)
  | intersection
  | union (arity : Nat)
  | textJoin
  | range
  | sheet
  | structured
  | table (name : String)

namespace Label

def arity : Label → Nat
  | bracketed | structured | table _ => 1
  | comparison _ | intersection | textJoin | range | sheet => 2
  | call _ arity | union arity => arity
  | chain steps => steps.length
  | empty | string _ | error _ | number _ | boolean _ | cell _ => 0

def qualifiers : Label → Nat
  | sheet | structured => 1
  | _ => 0

def cellName? : Label → Option String
  | cell name => some name
  | _ => none

end Label

def label : Expr → Label
  | empty => .empty
  | string value => .string value
  | error code => .error code
  | number value => .number value.value
  | boolean value => .boolean value
  | cell name => .cell name
  | bracketed _ => .bracketed
  | call name arguments => .call name arguments.length
  | comparison op _ _ => .comparison op
  | chain operations => .chain (operations.map Prod.fst)
  | intersection _ _ => .intersection
  | union elements => .union elements.length
  | textJoin _ _ => .textJoin
  | range _ _ => .range
  | sheet _ _ => .sheet
  | structured _ => .structured
  | table name _ => .table name

def label? (e : Expr) (place : List Nat) : Option Label := (e.part? place).map label

abbrev Same (a b : Expr) : Prop := a.same b

lemma arity_label (e : Expr) : e.label.arity = e.children.length := by
  cases e with
  | chain operations => rw [label, Label.arity, children, List.length_map, List.length_map]
  | _ => rfl

lemma referenceChildren_eq_drop (e : Expr) :
    e.referenceChildren = e.children.drop e.label.qualifiers := by
  cases e <;> rfl

lemma cellName?_eq_label (e : Expr) : e.cellName? = e.label.cellName? := by
  cases e <;> rfl

lemma label?_cons (e : Expr) (i : Nat) (place : List Nat) :
    e.label? (i :: place) = (e.children.map label?)[i]?.bind fun f => f place := by
  rw [label?, part?, List.getElem?_map, Option.map_bind, Option.bind_map]
  rfl

section Same

variable {α : Type} {a b : Expr} {as bs : List Expr}

lemma sameAll_iff : sameAll as bs ↔ List.Forall₂ Same as bs := by
  induction as generalizing bs with
  | nil => cases bs <;> simp [sameAll]
  | cons a as ih => cases bs <;> simp [sameAll, ih]

lemma sameOperations_iff {as bs : List (Step × Expr)} : sameOperations as bs ↔
    as.map Prod.fst = bs.map Prod.fst ∧ List.Forall₂ Same (as.map Prod.snd) (bs.map Prod.snd) := by
  induction as generalizing bs with
  | nil => cases bs <;> simp [sameOperations]
  | cons a as ih =>
    cases bs with
    | nil => simp [sameOperations]
    | cons b bs => simp [sameOperations, ih, and_assoc, and_left_comm]

lemma same_iff : a.same b ↔ a.label = b.label ∧ List.Forall₂ Same a.children b.children := by
  cases a <;> cases b
  case call.call f as g bs =>
    rw [same, Bool.and_eq_true, beq_iff_eq, sameAll_iff, label, label, Label.call.injEq, and_assoc]
    exact and_congr_right fun _ => (and_iff_right_of_imp List.Forall₂.length_eq).symm
  case union.union as bs =>
    rw [same, sameAll_iff, label, label, Label.union.injEq]
    exact (and_iff_right_of_imp List.Forall₂.length_eq).symm
  case chain.chain as bs =>
    rw [same, sameOperations_iff, label, label, Label.chain.injEq]
    rfl
  all_goals first
    | exact iff_of_false Bool.false_ne_true fun h => Label.noConfusion h.1
    | simp [same, label, children, Decimal.same_iff_value, and_assoc]

lemma map_eq_of_forall₂ {f : Expr → α} (h : List.Forall₂ Same as bs)
    (hf : ∀ x ∈ as, ∀ y, x.same y → f x = f y) : as.map f = bs.map f := by
  induction h with
  | nil => rfl
  | cons hxy _ ih =>
    rw [List.map_cons, List.map_cons, hf _ List.mem_cons_self _ hxy,
      ih fun x hx => hf x (List.mem_cons_of_mem _ hx)]

lemma forall₂_same_iff (h : ∀ x ∈ as, ∀ y, x.same y ↔ x.label? = y.label?) :
    List.Forall₂ Same as bs ↔ as.map label? = bs.map label? := by
  refine ⟨fun hs => map_eq_of_forall₂ hs fun x hx y => (h x hx y).mp, fun hm => ?_⟩
  induction as generalizing bs with
  | nil =>
    rw [List.map_eq_nil_iff.mp hm.symm]
    exact .nil
  | cons x as ih =>
    obtain ⟨y, bs, rfl, hy, hbs⟩ := List.map_eq_cons_iff.mp hm.symm
    exact .cons ((h x List.mem_cons_self y).mpr hy.symm)
      (ih (fun z hz => h z (List.mem_cons_of_mem x hz)) hbs.symm)

lemma label?_eq_iff :
    a.label? = b.label? ↔ a.label = b.label ∧ a.children.map label? = b.children.map label? := by
  constructor
  · intro h
    have hl : a.label = b.label := Option.some.inj (congrFun h [])
    have hlen : a.children.length = b.children.length := by simp [← arity_label, hl]
    refine ⟨hl, List.ext_getElem (by simpa using hlen) fun i hi hi' => funext fun place => ?_⟩
    have := congrFun h (i :: place)
    rwa [label?_cons, label?_cons, List.getElem?_eq_getElem hi, List.getElem?_eq_getElem hi',
      Option.bind_some, Option.bind_some] at this
  · rintro ⟨hl, hc⟩
    funext place
    cases place with
    | nil => exact congrArg some hl
    | cons i place => rw [label?_cons, label?_cons, hc]

theorem same_iff_label? : a.same b ↔ a.label? = b.label? := by
  induction a using children_induction generalizing b with
  | step a ih => rw [same_iff, label?_eq_iff, forall₂_same_iff fun c hc d => ih c hc]

lemma map_label_preorder {next : Expr → List Expr} {shrinks : ∀ e, sizeAll (next e) < e.size}
    (hn : ∀ {a b}, Same a b → List.Forall₂ Same (next a) (next b)) (h : a.same b) :
    (preorder next shrinks a).map label = (preorder next shrinks b).map label := by
  induction a using preorder.induct next shrinks generalizing b with
  | case1 a ih =>
    have hm : (next a).map (fun c => (preorder next shrinks c).map label) =
        (next b).map fun c => (preorder next shrinks c).map label :=
      map_eq_of_forall₂ (hn h) fun x hx y hy => ih ⟨x, hx⟩ hy
    rw [preorder_eq, preorder_eq, List.map_cons, List.map_cons, List.map_flatMap, List.map_flatMap,
      (same_iff.mp h).1, List.flatMap_def, List.flatMap_def, hm]

lemma map_label_walk (h : a.same b) : a.walk.map label = b.walk.map label := by
  rw [walk_eq_preorder]
  exact map_label_preorder (fun h => (same_iff.mp h).2) h

lemma forall₂_referenceChildren (h : Same a b) :
    List.Forall₂ Same a.referenceChildren b.referenceChildren := by
  obtain ⟨hl, hc⟩ := same_iff.mp h
  rw [referenceChildren_eq_drop, referenceChildren_eq_drop, hl]
  exact List.forall₂_drop _ hc

lemma references_eq_of_same (h : a.same b) : a.references = b.references := by
  have hn : cellName? = Label.cellName? ∘ label := funext cellName?_eq_label
  rw [references_eq_preorder, references_eq_preorder, hn, ← List.filterMap_map,
    ← List.filterMap_map, map_label_preorder forall₂_referenceChildren h]

end Same

def withChildren : Expr → List Expr → Expr
  | bracketed _, [a] => bracketed a
  | call name _, as => call name as
  | comparison op _ _, [a, b] => comparison op a b
  | chain operations, as => chain ((operations.map Prod.fst).zip as)
  | intersection _ _, [a, b] => intersection a b
  | union _, as => union as
  | textJoin _ _, [a, b] => textJoin a b
  | range _ _, [a, b] => range a b
  | sheet _ _, [a, b] => sheet a b
  | structured _, [a] => structured a
  | table name _, [a] => table name a
  | e, _ => e

def replace : Expr → List Nat → Expr → Expr
  | _, [], b => b
  | e, i :: place, b => e.withChildren (e.children.modify i fun c => c.replace place b)

section Replace

variable {e s b : Expr} {as : List Expr} {i : Nat} {place q : List Nat}

lemma withChildren_spec (h : as.length = e.children.length) :
    (e.withChildren as).children = as ∧ (e.withChildren as).label = e.label := by
  cases e
  case call name es => exact ⟨rfl, congrArg (Label.call name) h⟩
  case union es => exact ⟨rfl, congrArg Label.union h⟩
  case chain operations =>
    have hn : (operations.map Prod.fst).length = as.length := by
      rw [h, children, List.length_map, List.length_map]
    exact ⟨List.map_snd_zip hn.ge, congrArg Label.chain (List.map_fst_zip hn.le)⟩
  all_goals
    rcases as with _ | ⟨a, _ | ⟨b, _ | _⟩⟩ <;> first
      | exact ⟨rfl, rfl⟩
      | simp [children] at h

lemma children_replace (e : Expr) (i : Nat) (place : List Nat) (b : Expr) :
    (e.replace (i :: place) b).children = e.children.modify i fun c => c.replace place b :=
  (withChildren_spec (List.length_modify ..)).1

lemma label_replace (e : Expr) (i : Nat) (place : List Nat) (b : Expr) :
    (e.replace (i :: place) b).label = e.label :=
  (withChildren_spec (List.length_modify ..)).2

lemma part?_replace (h : e.part? place = some s) (b : Expr) (q : List Nat) :
    (e.replace place b).part? (place ++ q) = b.part? q := by
  induction place generalizing e with
  | nil => rfl
  | cons i place ih =>
    obtain ⟨c, hc, hs⟩ := Option.bind_eq_some_iff.mp h
    rw [List.cons_append, part?, children_replace, List.getElem?_modify_eq, hc]
    exact ih hs

lemma label?_replace (h : ¬ place <+: q) : (e.replace place b).label? q = e.label? q := by
  induction place generalizing e q with
  | nil => exact absurd List.nil_prefix h
  | cons i place ih =>
    cases q with
    | nil => exact congrArg some (label_replace e i place b)
    | cons j q =>
      rw [label?_cons, label?_cons, children_replace, List.getElem?_map, List.getElem?_map,
        List.getElem?_modify]
      by_cases hij : i = j
      · subst hij
        have hq : ¬ place <+: q := fun hp => h (List.cons_prefix_cons.mpr ⟨rfl, hp⟩)
        cases e.children[i]? with
        | none => rfl
        | some c => simpa using ih hq
      · simp [hij]

lemma same_replace (h : e.part? place = some s) (hb : s.same b) : e.same (e.replace place b) := by
  rw [same_iff_label?] at hb ⊢
  funext q
  by_cases hq : place <+: q
  · obtain ⟨q, rfl⟩ := hq
    rw [label?, label?, part?_replace h, part?_append, h]
    exact congrFun hb q
  · exact (label?_replace hq).symm

end Replace

structure Compares (a : Expr) : Prop where
  refl : a.same a
  symm : ∀ b, a.same b → b.same a
  trans : ∀ b c, a.same b → b.same c → a.same c
  walk : ∀ b, a.same b → a.walk.map label = b.walk.map label
  references : ∀ b, a.same b → a.references = b.references
  replace : ∀ place s b, a.part? place = some s → s.same b → a.same (a.replace place b)
  replaced : ∀ place s b, a.part? place = some s → ∀ q,
    (a.replace place b).part? (place ++ q) = b.part? q
  kept : ∀ place b q, ¬ place <+: q →
    ((a.replace place b).part? q).map label = (a.part? q).map label
  separates : ∀ b place, (a.part? place).map label ≠ (b.part? place).map label → a.same b = false

theorem compares (a : Expr) : a.Compares where
  refl := same_iff_label?.mpr rfl
  symm _ h := same_iff_label?.mpr (same_iff_label?.mp h).symm
  trans _ _ h h' := same_iff_label?.mpr ((same_iff_label?.mp h).trans (same_iff_label?.mp h'))
  walk _ := map_label_walk
  references _ := references_eq_of_same
  replace _ _ _ := same_replace
  replaced _ _ b h := part?_replace h b
  kept _ _ _ := label?_replace
  separates _ place h :=
    Bool.eq_false_iff.mpr fun hs => h (congrFun (same_iff_label?.mp hs) place)

end CellFormula.Expr
