import CellFormula.Lookahead
import Mathlib.Order.Bounds.Basic
import Mathlib.Tactic.Lemma

namespace CellFormula

namespace Lookahead

inductive Access where
  | peek | peekSecond | next | nextPresent

inductive Answer (α : Type) where
  | item (a : Option α)
  | stop

namespace Access

def reach : Access → Nat
  | peekSecond => 2
  | peek | next | nextPresent => 1

def takes : Access → Bool
  | next | nextPresent => true
  | peek | peekSecond => false

def answer {α : Type} : Access → Option α → Answer α
  | nextPresent, none => .stop
  | _, a => .item a

def read {α ε : Type} : Access → Reading (Option α) ε (Answer α)
  | peek => (fun a => .item a.join) <$> Lookahead.peek
  | peekSecond => (fun a => .item a.join) <$> Lookahead.peekSecond
  | next => (fun a => .item a.join) <$> Lookahead.next
  | nextPresent => (fun a => a.elim .stop fun a => .item (some a)) <$> Lookahead.nextPresent

end Access

end Lookahead

open Lookahead (Access Answer)

structure Cursor (ε : Type) where
  position : Nat
  failure : Option ε
  needs : List Nat

namespace Cursor

variable {α ε : Type}

def start (failure : Option ε) : Cursor ε := ⟨0, failure, []⟩

def step (items : List (Option α)) (access : Access) (c : Cursor ε) :
    Except ε (Answer α) × Cursor ε :=
  let need := c.position + access.reach
  match c.failure.filter fun _ => items.length < need with
  | some e => (.error e, ⟨c.position, none, need :: c.needs⟩)
  | none =>
    let position := if access.takes then min (c.position + 1) items.length else c.position
    (.ok (access.answer items[need - 1]?.join), ⟨position, c.failure, need :: c.needs⟩)

def run (items : List (Option α)) : List Access → Cursor ε →
    List (Except ε (Answer α)) × Cursor ε
  | [], c => ([], c)
  | access :: accesses, c =>
    let (answer, c) := step items access c
    let (answers, c) := run items accesses c
    (answer :: answers, c)

end Cursor

namespace Lookahead

variable {α ε : Type}

def step (access : Access) (b : Lookahead (Option α) ε) :
    Except ε (Answer α) × Lookahead (Option α) ε :=
  match access.read b with
  | .ok a b => (.ok a, b)
  | .error e b => (.error e, b)

def run : List Access → Lookahead (Option α) ε →
    List (Except ε (Answer α)) × Lookahead (Option α) ε
  | [], b => ([], b)
  | access :: accesses, b =>
    let (answer, b) := step access b
    let (answers, b) := run accesses b
    (answer :: answers, b)

/-- What is buffered for a cursor: the items from its position on, as few of them taken from the
source as the accesses so far had to see. -/
structure Follows (items : List (Option α)) (c : Cursor ε) (b : Lookahead (Option α) ε) :
    Prop where
  rest : b.ahead ++ b.source.items = items.drop c.position
  failure : b.source.failure = c.failure
  ahead : b.ahead.length ≤ 2
  pulled : IsLeast {n | ∀ need ∈ c.needs, min need items.length ≤ n}
    (items.length - b.source.items.length)
  bound : items.length - b.source.items.length ≤ c.position + 2

def view (items : List α) (position pulled : Nat) (failure : Option ε) : Lookahead α ε :=
  ⟨(items.take pulled).drop position, ⟨items.drop pulled, failure⟩⟩

section View

variable {items : List α} {position pulled count : Nat} {failure : Option ε}

lemma ahead_append_view (h : position ≤ pulled) (hl : pulled ≤ items.length) :
    (items.take pulled).drop position ++ items.drop pulled = items.drop position := by
  rw [← List.drop_append_of_le_length, List.take_append_drop]
  rwa [List.length_take, Nat.min_eq_left hl]

lemma fill_view_of_lt (failure : Option ε) (hp : position ≤ pulled) (hl : pulled ≤ items.length)
    (h : items.length < position + count) :
    fill count (view items position pulled failure) = match failure with
      | none => .ok () (view items position items.length none)
      | some e => .error e (view items position items.length none) := by
  have hv : view items position items.length none =
      (⟨(items.take pulled).drop position ++ items.drop pulled, .empty⟩ : Lookahead α ε) := by
    rw [ahead_append_view hp hl, view, List.take_length, List.drop_length]
    rfl
  rw [hv, fill, pull_of_lt]
  · rfl
  · simp only [view, List.length_drop, List.length_take]
    omega

lemma fill_view_of_le (hp : position ≤ pulled) (hl : pulled ≤ items.length)
    (h : position + count ≤ items.length) : fill count (view items position pulled failure) =
      .ok () (view items position (max pulled (position + count)) failure) := by
  have hk : max pulled (position + count) = pulled + (count - (pulled - position)) := by omega
  have ha : (view items position pulled failure).ahead.length = pulled - position := by
    rw [view, List.length_drop, List.length_take, Nat.min_eq_left hl]
  rw [fill, ha, pull_of_le, hk]
  · simp only [view]
    rw [List.take_add, List.drop_append_of_le_length, List.drop_drop]
    rwa [List.length_take, Nat.min_eq_left hl]
  · simp only [view, List.length_drop]
    omega

lemma getElem?_view {i : Nat} (h : min (position + i + 1) items.length ≤ pulled) :
    (view items position pulled failure).ahead[i]? = items[position + i]? := by
  rw [view, List.getElem?_drop, List.getElem?_take]
  split
  · rfl
  · rw [List.getElem?_eq_none]
    omega

end View

section Accesses

variable {access : Access} {b b' : Lookahead (Option α) ε}

def leave (access : Access) (b : Lookahead α ε) : Lookahead α ε :=
  if access.takes then { b with ahead := b.ahead.tail } else b

lemma step_of_fill_ok (h : fill access.reach b = .ok () b') : step access b =
    (.ok (access.answer b'.ahead[access.reach - 1]?.join), leave access b') := by
  cases access with
  | peek =>
    have h : fill 1 b = .ok () b' := h
    simp only [step, Access.read, Functor.map, EStateM.map, peek_apply, h, List.head?_eq_getElem?]
    rfl
  | peekSecond =>
    have h : fill 2 b = .ok () b' := h
    simp only [step, Access.read, Functor.map, EStateM.map, peekSecond_apply, h]
    rfl
  | next =>
    have h : fill 1 b = .ok () b' := h
    simp only [step, Access.read, Functor.map, EStateM.map, next_apply, h, List.head?_eq_getElem?]
    rfl
  | nextPresent =>
    have h : fill 1 b = .ok () b' := h
    simp only [step, Access.read, Functor.map, EStateM.map, nextPresent, Bind.bind, EStateM.bind,
      Pure.pure, EStateM.pure, next_apply, h, List.head?_eq_getElem?, Access.reach]
    cases b'.ahead[0]?.join <;> rfl

lemma step_of_fill_error {e : ε} (h : fill access.reach b = .error e b') :
    step access b = (.error e, b') := by
  cases access with
  | peek =>
    have h : fill 1 b = .error e b' := h
    simp only [step, Access.read, Functor.map, EStateM.map, peek_apply, h]
  | peekSecond =>
    have h : fill 2 b = .error e b' := h
    simp only [step, Access.read, Functor.map, EStateM.map, peekSecond_apply, h]
  | next =>
    have h : fill 1 b = .error e b' := h
    simp only [step, Access.read, Functor.map, EStateM.map, next_apply, h]
  | nextPresent =>
    have h : fill 1 b = .error e b' := h
    simp only [step, Access.read, Functor.map, EStateM.map, nextPresent, Bind.bind, EStateM.bind,
      next_apply, h]

end Accesses

section Steps

variable {items : List (Option α)} {c : Cursor ε} {access : Access} {pulled : Nat}

structure Stands (items : List (Option α)) (c : Cursor ε) (pulled : Nat) : Prop where
  position_le : c.position ≤ pulled
  pulled_le : pulled ≤ items.length
  bound : pulled ≤ c.position + 2
  least : IsLeast {n | ∀ need ∈ c.needs, min need items.length ≤ n} pulled

lemma isLeast_cons {needs : List Nat} {length need : Nat}
    (h : IsLeast {n | ∀ need ∈ needs, min need length ≤ n} pulled) :
    IsLeast {n | ∀ k ∈ need :: needs, min k length ≤ n} (max pulled (min need length)) := by
  refine ⟨List.forall_mem_cons.mpr ⟨le_max_right _ _, fun k hk => ?_⟩, fun n hn => ?_⟩
  · exact (h.1 k hk).trans (le_max_left _ _)
  · obtain ⟨hn, hs⟩ := List.forall_mem_cons.mp hn
    exact max_le (h.2 hs) hn

lemma Access.reach_pos (access : Access) : 0 < access.reach := by cases access <;> decide

lemma Access.reach_le_two (access : Access) : access.reach ≤ 2 := by cases access <;> decide

lemma Access.reach_of_takes (h : access.takes) : access.reach = 1 := by
  cases access with
  | peek | peekSecond => cases h
  | next | nextPresent => rfl

lemma leave_view {position : Nat} {failure : Option ε} (hp : position ≤ items.length) :
    leave access (view items position pulled failure) =
      view items (if access.takes then min (position + 1) items.length else position) pulled
        failure := by
  rw [leave]
  split
  · simp only [view, List.tail_drop]
    by_cases h : position < items.length
    · rw [Nat.min_eq_left h]
    · have hnil (n : Nat) (hn : items.length ≤ n) : (items.take pulled).drop n = [] :=
        List.drop_eq_nil_of_le ((List.length_take_le' _ _).trans hn)
      rw [Nat.min_eq_right (by omega), hnil items.length (Nat.le_refl _), hnil _ (by omega)]
  · rfl

lemma step_of_filled {position filled : Nat} {failure failure' : Option ε}
    (hp : position ≤ items.length) (hn : min (position + access.reach) items.length ≤ filled)
    (h : fill access.reach (view items position pulled failure) =
      .ok () (view items position filled failure')) :
    step access (view items position pulled failure) =
      (.ok (access.answer items[position + access.reach - 1]?.join),
        view items (if access.takes then min (position + 1) items.length else position) filled
          failure') := by
  have hr := access.reach_pos
  have he : position + access.reach - 1 = position + (access.reach - 1) := by omega
  rw [step_of_fill_ok h, leave_view hp, he, getElem?_view]
  rwa [Nat.add_assoc, Nat.sub_add_cancel hr]

lemma step_view (h : Stands items c pulled) :
    step access (view items c.position pulled c.failure) = ((c.step items access).1,
      view items (c.step items access).2.position
        (max pulled (min (c.position + access.reach) items.length))
        (c.step items access).2.failure) := by
  have hl := h.position_le.trans h.pulled_le
  by_cases hn : items.length < c.position + access.reach
  · have hm : max pulled (min (c.position + access.reach) items.length) = items.length := by
      have := h.pulled_le
      omega
    have hf := fill_view_of_lt c.failure h.position_le h.pulled_le hn
    cases hc : c.failure with
    | none =>
      rw [hc] at hf
      rw [step_of_filled hl (Nat.min_le_right _ _) hf]
      simp only [Cursor.step, hc, hm, Option.filter_none]
    | some e =>
      rw [hc] at hf
      rw [step_of_fill_error hf]
      simp only [Cursor.step, hc, hm, Option.filter_some, hn, decide_true, if_true]
  · rw [Nat.not_lt] at hn
    have hm : min (c.position + access.reach) items.length = c.position + access.reach :=
      Nat.min_eq_left hn
    rw [hm, step_of_filled hl _ (fill_view_of_le h.position_le h.pulled_le hn)]
    · cases hc : c.failure with
      | none => simp only [Cursor.step, hc, Option.filter_none]
      | some e =>
        simp only [Cursor.step, hc, Option.filter_some, Nat.not_lt.mpr hn, decide_false,
          Bool.false_eq_true, if_false]
    · rw [hm]
      exact le_max_right _ _

lemma needs_step : (c.step items access).2.needs = (c.position + access.reach) :: c.needs := by
  simp only [Cursor.step]
  split <;> rfl

lemma position_step : (c.step items access).2.position = c.position ∨
    access.takes ∧ (c.step items access).2.position = min (c.position + 1) items.length := by
  simp only [Cursor.step]
  split
  · exact .inl rfl
  · by_cases ht : access.takes
    · exact .inr ⟨ht, if_pos ht⟩
    · exact .inl (if_neg ht)

lemma Stands.step (h : Stands items c pulled) : Stands items (c.step items access).2
    (max pulled (min (c.position + access.reach) items.length)) := by
  obtain ⟨hp, hl, hb, hm⟩ := h
  have hr := access.reach_le_two
  refine ⟨?_, max_le hl (Nat.min_le_right _ _), ?_, needs_step ▸ isLeast_cons hm⟩
  · rcases position_step with h | ⟨ht, h⟩
    · rw [h]
      exact hp.trans (le_max_left _ _)
    · rw [h, Access.reach_of_takes ht]
      exact le_max_right _ _
  · rcases position_step with h | ⟨ht, h⟩
    · rw [h]
      omega
    · rw [h, Access.reach_of_takes ht]
      omega

theorem run_view (h : Stands items c pulled) (accesses : List Access) : ∃ pulled',
    run accesses (view items c.position pulled c.failure) = ((c.run items accesses).1,
      view items (c.run items accesses).2.position pulled' (c.run items accesses).2.failure) ∧
    Stands items (c.run items accesses).2 pulled' := by
  induction accesses generalizing c pulled with
  | nil => exact ⟨pulled, rfl, h⟩
  | cons access accesses ih =>
    obtain ⟨pulled', hr, hs⟩ := ih h.step
    refine ⟨pulled', ?_, hs⟩
    simp only [run, Cursor.run, step_view h, hr]

lemma Stands.follows (h : Stands items c pulled) :
    Follows items c (view items c.position pulled c.failure) := by
  have hp : items.length - (items.drop pulled).length = pulled := by
    rw [List.length_drop]
    exact Nat.sub_sub_self h.pulled_le
  refine ⟨ahead_append_view h.position_le h.pulled_le, rfl, ?_, ?_, ?_⟩
  · have := h.bound
    simp only [view, List.length_drop, List.length_take]
    omega
  · simp only [view, hp]
    exact h.least
  · simp only [view, hp]
    exact h.bound

end Steps

theorem follows_cursor (source : Source (Option α) ε) (accesses : List Access) :
    (run accesses (ofSource source)).1 =
        (Cursor.run source.items accesses (.start source.failure)).1 ∧
      Follows source.items (Cursor.run source.items accesses (.start source.failure)).2
        (run accesses (ofSource source)).2 := by
  have hs : Stands source.items (.start source.failure) 0 :=
    ⟨Nat.le_refl _, Nat.zero_le _, Nat.zero_le _, List.forall_mem_nil _, fun _ _ => Nat.zero_le _⟩
  obtain ⟨pulled, hr, hs⟩ := run_view hs accesses
  have hv : run accesses (ofSource source) = _ := hr
  rw [hv]
  exact ⟨rfl, hs.follows⟩

end Lookahead

end CellFormula
