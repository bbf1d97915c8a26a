import CellFormula.Expr.Basic

namespace CellFormula.Expr

mutual

def size : Expr → Nat
  | bracketed e | structured e | table _ e => size e + 1
  | call _ es | union es => sizeAll es + 1
  | chain operations => sizeOperands operations + 1
  | comparison _ a b | intersection a b | textJoin a b | range a b | sheet a b =>
    size a + size b + 1
  | empty | string _ | error _ | number _ | boolean _ | cell _ => 1

def sizeAll : List Expr → Nat
  | [] => 0
  | e :: es => size e + sizeAll es

def sizeOperands : List (Step × Expr) → Nat
  | [] => 0
  | (_, e) :: operations => size e + sizeOperands operations

end

theorem sizeAll_append (as bs : List Expr) : sizeAll (as ++ bs) = sizeAll as + sizeAll bs := by
  induction as with
  | nil => simp [sizeAll]
  | cons e es ih => simp only [List.cons_append, sizeAll, ih]; omega

theorem sizeAll_operands (operations : List (Step × Expr)) :
    sizeAll (operations.map Prod.snd) = sizeOperands operations := by
  induction operations with
  | nil => rfl
  | cons operation operations ih => simp [sizeAll, sizeOperands, ih]

theorem sizeAll_children (e : Expr) : sizeAll e.children + 1 = e.size := by
  cases e <;> simp [children, size, sizeAll, sizeAll_operands]

theorem sizeAll_children_lt (e : Expr) : sizeAll e.children < e.size := by
  have := sizeAll_children e
  omega

theorem size_le_of_mem {c : Expr} {es : List Expr} (h : c ∈ es) : c.size ≤ sizeAll es := by
  obtain ⟨before, after, rfl⟩ := List.append_of_mem h
  rw [sizeAll_append, sizeAll]
  omega

theorem size_lt_of_mem_children {c e : Expr} (h : c ∈ e.children) : c.size < e.size :=
  Nat.lt_of_le_of_lt (size_le_of_mem h) (sizeAll_children_lt e)

@[elab_as_elim]
theorem children_induction {motive : Expr → Prop}
    (step : ∀ e, (∀ c ∈ e.children, motive c) → motive e) (e : Expr) : motive e := by
  induction hn : e.size using Nat.strongRecOn generalizing e with
  | ind n ih =>
    subst hn
    exact step e fun c hc => ih c.size (size_lt_of_mem_children hc) c rfl

theorem sizeAll_referenceChildren_lt (e : Expr) : sizeAll e.referenceChildren < e.size := by
  have := sizeAll_children_lt e
  unfold referenceChildren
  split
  · simp only [sizeAll, size]
    omega
  · simp only [sizeAll, size]
    omega
  · exact this

def depthFirst (next : Expr → List Expr) (shrinks : ∀ e, sizeAll (next e) < e.size) :
    List Expr → List Expr
  | [] => []
  | e :: stack => e :: depthFirst next shrinks (next e ++ stack)
termination_by stack => sizeAll stack
decreasing_by
  have := shrinks e
  simp only [sizeAll_append, sizeAll]
  omega

def walk (e : Expr) : List Expr := depthFirst children sizeAll_children_lt [e]

def references (e : Expr) : List String :=
  (depthFirst referenceChildren sizeAll_referenceChildren_lt [e]).filterMap cellName?

end CellFormula.Expr
