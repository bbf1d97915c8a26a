import CellFormula.Proofs.Expr.Traversal
import Mathlib.Data.List.Basic

namespace CellFormula.Expr

def part? : Expr → List Nat → Option Expr
  | e, [] => some e
  | e, i :: place => e.children[i]?.bind fun c => c.part? place

def places (e : Expr) : List (List Nat) :=
  [] :: e.children.attach.zipIdx.flatMap fun c => (places c.1.1).map (c.2 :: ·)
termination_by e.size
decreasing_by exact size_lt_of_mem_children c.1.2

def qualifies : Expr → Nat → Bool
  | sheet _ _, i => i == 0
  | structured _, _ => true
  | _, _ => false

def qualified : Expr → List Nat → Bool
  | _, [] => false
  | e, i :: place => e.qualifies i || e.children[i]?.any (qualified · place)

def reference? (e : Expr) (place : List Nat) : Option String :=
  if e.qualified place then none else (e.part? place).bind cellName?

lemma places_eq (e : Expr) : e.places =
    [] :: e.children.zipIdx.flatMap fun c => c.1.places.map (c.2 :: ·) := by
  rw [places]
  conv_rhs => rw [← List.attach_map_subtype_val e.children, List.zipIdx_map, List.flatMap_map]
  rfl

variable {e : Expr} {i : Nat} {place : List Nat}

lemma part?_append (e : Expr) (place q : List Nat) :
    e.part? (place ++ q) = (e.part? place).bind fun s => s.part? q := by
  induction place generalizing e with
  | nil => rfl
  | cons i place ih =>
    rw [List.cons_append, part?, part?, Option.bind_assoc]
    exact Option.bind_congr fun c _ => ih c

lemma nil_mem_places (e : Expr) : [] ∈ e.places := by
  rw [places_eq]
  exact List.mem_cons_self

lemma cons_mem_places :
    i :: place ∈ e.places ↔ ∃ c, e.children[i]? = some c ∧ place ∈ c.places := by
  rw [places_eq, List.mem_cons, or_iff_right (List.cons_ne_nil i place), List.mem_flatMap]
  constructor
  · rintro ⟨⟨c, j⟩, hc, hp⟩
    obtain ⟨_, hm, he⟩ := List.mem_map.mp hp
    obtain ⟨rfl, rfl⟩ := List.cons.inj he
    exact ⟨c, List.mem_zipIdx_iff_getElem?.mp hc, hm⟩
  · rintro ⟨c, hc, hp⟩
    exact ⟨(c, i), List.mem_zipIdx_iff_getElem?.mpr hc, List.mem_map_of_mem hp⟩

lemma mem_places_iff : place ∈ e.places ↔ ∃ s, e.part? place = some s := by
  induction place generalizing e with
  | nil => exact iff_of_true (nil_mem_places e) ⟨e, rfl⟩
  | cons i place ih =>
    simp only [cons_mem_places, part?, Option.bind_eq_some_iff, ih]
    constructor
    · rintro ⟨c, hc, s, hs⟩
      exact ⟨s, c, hc, hs⟩
    · rintro ⟨s, c, hc, hs⟩
      exact ⟨c, hc, s, hs⟩

lemma pairwise_places (e : Expr) : e.places.Pairwise (· < ·) := by
  induction e using children_induction with
  | step e ih =>
    rw [places_eq, List.pairwise_cons, List.pairwise_flatMap]
    refine ⟨?_, ?_, ?_⟩
    · intro place hp
      obtain ⟨c, -, hp⟩ := List.mem_flatMap.mp hp
      obtain ⟨_, -, rfl⟩ := List.mem_map.mp hp
      exact List.nil_lt_cons _ _
    · rintro ⟨c, i⟩ hc
      rw [List.pairwise_map]
      have hm := List.mem_of_getElem? (List.mem_zipIdx_iff_getElem?.mp hc)
      exact (ih c hm).imp fun h => List.cons_lt_cons_iff.mpr (.inr ⟨rfl, h⟩)
    · have hi : (e.children.zipIdx.map Prod.snd).Pairwise (· < ·) := by
        rw [List.zipIdx_map_snd]
        exact List.pairwise_lt_range'
      refine (List.pairwise_map.mp hi).imp fun hlt p hp q hq => ?_
      obtain ⟨_, -, rfl⟩ := List.mem_map.mp hp
      obtain ⟨_, -, rfl⟩ := List.mem_map.mp hq
      exact List.cons_lt_cons_iff.mpr (.inl hlt)

section Visits

variable {α : Type} {c : Expr}

lemma filterMap_places (f : List Nat → Option α) (e : Expr) :
    e.places.filterMap f = (f []).toList ++ e.children.zipIdx.flatMap fun c =>
      c.1.places.filterMap fun place => f (c.2 :: place) := by
  rw [places_eq, List.filterMap_cons, List.filterMap_flatMap]
  simp only [List.filterMap_map]
  cases f [] <;> rfl

lemma flatMap_zipIdx_fst (f : Expr → List α) (es : List Expr) :
    (es.zipIdx.flatMap fun c => f c.1) = es.flatMap f := by
  conv_rhs => rw [← List.zipIdx_map_fst 0 es, List.flatMap_map]

lemma flatMap_children_congr {f g : Expr × Nat → List α}
    (h : ∀ i c, e.children[i]? = some c → f (c, i) = g (c, i)) :
    e.children.zipIdx.flatMap f = e.children.zipIdx.flatMap g :=
  List.flatMap_congr fun c hc => h c.2 c.1 (List.mem_zipIdx_iff_getElem?.mp hc)

lemma part?_cons (h : e.children[i]? = some c) (place : List Nat) :
    e.part? (i :: place) = c.part? place := by
  rw [part?, h, Option.bind_some]

lemma walk_eq_filterMap (e : Expr) : e.walk = e.places.filterMap e.part? := by
  induction e using children_induction with
  | step e ih =>
    rw [walk_eq, filterMap_places, ← flatMap_zipIdx_fst]
    refine congrArg (e :: ·) (flatMap_children_congr fun i c hc => ?_)
    rw [ih c (List.mem_of_getElem? hc)]
    exact List.filterMap_congr fun place _ => (part?_cons hc place).symm

lemma reference?_cons (h : e.children[i]? = some c) (place : List Nat) :
    e.reference? (i :: place) = if e.qualifies i then none else c.reference? place := by
  rw [reference?, reference?, qualified, part?_cons h, h, Option.any_some]
  cases e.qualifies i <;> rfl

lemma referenceChildren_flatMap (f : Expr → List α) (e : Expr) : e.referenceChildren.flatMap f =
    e.children.zipIdx.flatMap fun c => if e.qualifies c.2 then [] else f c.1 := by
  cases e with
  | sheet | structured => simp [referenceChildren, children, qualifies, List.zipIdx_cons]
  | _ => exact (flatMap_zipIdx_fst f _).symm

lemma references_eq_filterMap (e : Expr) : e.references = e.places.filterMap e.reference? := by
  induction e using children_induction with
  | step e ih =>
    rw [references_eq, filterMap_places, referenceChildren_flatMap]
    refine congrArg (e.cellName?.toList ++ ·) (flatMap_children_congr fun i c hc => ?_)
    simp only [reference?_cons hc, ih c (List.mem_of_getElem? hc)]
    cases e.qualifies i with
    | false => rfl
    | true => exact (List.filterMap_eq_nil_iff.mpr fun _ _ => rfl).symm

lemma qualified_iff : e.qualified place ↔ ∃ before i after s, place = before ++ i :: after ∧
    e.part? before = some s ∧ s.qualifies i := by
  induction place generalizing e with
  | nil => simp [qualified]
  | cons j rest ih =>
    rw [qualified, Bool.or_eq_true, Option.any_eq_true]
    constructor
    · rintro (hq | ⟨c, hc, hq⟩)
      · exact ⟨[], j, rest, e, rfl, rfl, hq⟩
      · obtain ⟨before, i, after, s, rfl, hs, hq⟩ := ih.mp hq
        exact ⟨j :: before, i, after, s, rfl, (part?_cons hc before).trans hs, hq⟩
    · rintro ⟨before, i, after, s, he, hs, hq⟩
      cases before with
      | nil =>
        obtain ⟨rfl, rfl⟩ := List.cons.inj he
        cases hs
        exact .inl hq
      | cons _ before =>
        obtain ⟨rfl, rfl⟩ := List.cons.inj he
        obtain ⟨c, hc, hs⟩ := Option.bind_eq_some_iff.mp hs
        exact .inr ⟨c, hc, ih.mpr ⟨before, i, after, s, rfl, hs, hq⟩⟩

lemma qualifies_iff : e.qualifies i ↔
    (∃ name ref, e = sheet name ref ∧ i = 0) ∨ ∃ columns, e = structured columns := by
  cases e <;> simp [qualifies]

lemma references_eq_filter (e : Expr) :
    e.references = (e.places.filter fun place => !e.qualified place).filterMap fun place =>
      (e.part? place).bind cellName? := by
  rw [references_eq_filterMap, List.filterMap_filter]
  refine List.filterMap_congr fun place _ => ?_
  rw [reference?]
  cases e.qualified place <;> rfl

lemma qualified_iff_forms : e.qualified place ↔
    (∃ before after name ref, place = before ++ 0 :: after ∧
      e.part? before = some (sheet name ref)) ∨
    ∃ before i after columns, place = before ++ i :: after ∧
      e.part? before = some (structured columns) := by
  rw [qualified_iff]
  constructor
  · rintro ⟨before, i, after, s, hp, hs, hq⟩
    rcases qualifies_iff.mp hq with ⟨name, ref, rfl, rfl⟩ | ⟨columns, rfl⟩
    · exact .inl ⟨before, after, name, ref, hp, hs⟩
    · exact .inr ⟨before, i, after, columns, hp, hs⟩
  · rintro (⟨before, after, name, ref, hp, hs⟩ | ⟨before, i, after, columns, hp, hs⟩)
    · exact ⟨before, 0, after, _, hp, hs, rfl⟩
    · exact ⟨before, i, after, _, hp, hs, rfl⟩

end Visits

structure Traverses (e : Expr) : Prop where
  walk : e.walk = e :: e.children.flatMap Expr.walk
  references : e.references =
    (preorder referenceChildren sizeAll_referenceChildren_lt e).filterMap cellName?
  complete : ∀ place, place ∈ e.places ↔ ∃ s, e.part? place = some s
  ordered : e.places.Pairwise (· < ·)
  visits : e.walk = e.places.filterMap e.part?
  sublist : e.references.Sublist (e.walk.filterMap cellName?)
  omits : e.references = (e.places.filter fun place => !e.qualified place).filterMap fun place =>
    (e.part? place).bind cellName?
  qualified : ∀ place, e.qualified place ↔
    (∃ before after name ref, place = before ++ 0 :: after ∧
      e.part? before = some (sheet name ref)) ∨
    ∃ before i after columns, place = before ++ i :: after ∧
      e.part? before = some (structured columns)

theorem traverses (e : Expr) : e.Traverses where
  walk := walk_eq e
  references := references_eq_preorder e
  complete _ := mem_places_iff
  ordered := pairwise_places e
  visits := walk_eq_filterMap e
  sublist := by
    rw [references_eq_filter, walk_eq_filterMap, List.filterMap_filterMap]
    exact List.filter_sublist.filterMap _
  omits := references_eq_filter e
  qualified _ := qualified_iff_forms

end CellFormula.Expr
