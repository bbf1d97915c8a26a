import CellFormula.Expr.Walk
import Mathlib.Tactic.Lemma

namespace CellFormula.Expr

section Preorder

def preorder (next : Expr → List Expr) (shrinks : ∀ e, sizeAll (next e) < e.size) (e : Expr) :
    List Expr :=
  e :: (next e).attach.flatMap fun c => preorder next shrinks c.1
termination_by e.size
decreasing_by exact Nat.lt_of_le_of_lt (size_le_of_mem c.2) (shrinks e)

variable {next : Expr → List Expr} {shrinks : ∀ e, sizeAll (next e) < e.size}

lemma preorder_eq (e : Expr) :
    preorder next shrinks e = e :: (next e).flatMap (preorder next shrinks) := by
  rw [preorder, List.flatMap_subtype fun _ _ => rfl, List.unattach_attach]

lemma depthFirst_eq_flatMap (stack : List Expr) :
    depthFirst next shrinks stack = stack.flatMap (preorder next shrinks) := by
  fun_induction depthFirst next shrinks stack with
  | case1 => rfl
  | case2 e stack ih =>
    rw [ih, List.flatMap_append, List.flatMap_cons, preorder_eq e, List.cons_append]

lemma depthFirst_singleton (e : Expr) : depthFirst next shrinks [e] = preorder next shrinks e := by
  rw [depthFirst_eq_flatMap, List.flatMap_singleton]

end Preorder

lemma walk_eq_preorder : walk = preorder children sizeAll_children_lt :=
  funext fun e => depthFirst_singleton e

lemma walk_eq (e : Expr) : e.walk = e :: e.children.flatMap walk := by
  rw [walk_eq_preorder]
  exact preorder_eq e

lemma references_eq_preorder (e : Expr) : e.references =
    (preorder referenceChildren sizeAll_referenceChildren_lt e).filterMap cellName? := by
  rw [references, depthFirst_singleton]

lemma references_eq (e : Expr) :
    e.references = e.cellName?.toList ++ e.referenceChildren.flatMap references := by
  rw [references_eq_preorder, preorder_eq, List.filterMap_cons, List.filterMap_flatMap]
  simp only [← references_eq_preorder]
  cases e.cellName? <;> rfl

lemma references_cell (name : String) : (cell name).references = [name] := by
  rw [references_eq]
  rfl

lemma references_of_children {e : Expr} (h : e.cellName? = none) :
    e.references = e.referenceChildren.flatMap references := by
  rw [references_eq, h]
  rfl

end CellFormula.Expr
