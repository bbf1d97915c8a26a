import CellFormula.Source

/-!
Reading a source with up to two items of lookahead. An item is taken from the source only when a
reader has to see it; what was seen and not yet taken waits in a queue.
-/

namespace CellFormula

/-- The items that were seen and not yet taken, and the source of the rest. -/
structure Lookahead (α ε : Type) where
  ahead : List α
  source : Source α ε
  deriving DecidableEq

abbrev Reading (α ε β : Type) := EStateM ε (Lookahead α ε) β

namespace Lookahead

variable {α ε : Type}

def ofSource (source : Source α ε) : Lookahead α ε := ⟨[], source⟩

def unread (b : Lookahead α ε) : Nat := b.ahead.length + b.source.items.length

/-- Takes up to `n` items from the source into the queue. A failure is raised once and leaves
the queue as it is. -/
def pull : Nat → Reading α ε Unit
  | 0 => pure ()
  | n + 1 => fun b =>
    match b.source with
    | ⟨item :: items, failure⟩ => pull n ⟨b.ahead ++ [item], ⟨items, failure⟩⟩
    | ⟨[], some e⟩ => .error e ⟨b.ahead, .empty⟩
    | ⟨[], none⟩ => .ok () b

theorem pull_of_le {n : Nat} {b : Lookahead α ε} (h : n ≤ b.source.items.length) :
    pull n b = .ok () ⟨b.ahead ++ b.source.items.take n,
      ⟨b.source.items.drop n, b.source.failure⟩⟩ := by
  induction n generalizing b with
  | zero => simp [pull, pure, EStateM.pure]
  | succ n ih =>
    obtain ⟨ahead, ⟨items, failure⟩⟩ := b
    cases items with
    | nil => simp at h
    | cons item items =>
      simp only [List.length_cons, Nat.add_le_add_iff_right] at h
      simp [pull, ih, h]

theorem pull_of_lt {n : Nat} {b : Lookahead α ε} (h : b.source.items.length < n) :
    pull n b = match b.source.failure with
      | none => .ok () ⟨b.ahead ++ b.source.items, .empty⟩
      | some e => .error e ⟨b.ahead ++ b.source.items, .empty⟩ := by
  induction n generalizing b with
  | zero => simp at h
  | succ n ih =>
    obtain ⟨ahead, ⟨items, failure⟩⟩ := b
    cases items with
    | nil => cases failure <;> simp [pull, Source.empty, Source.ofList]
    | cons item items =>
      have hn := @ih ⟨ahead ++ [item], ⟨items, failure⟩⟩ (by simpa using h)
      simp [pull, hn]

def fill (count : Nat) : Reading α ε Unit := fun b => pull (count - b.ahead.length) b

def peek : Reading α ε (Option α) := do
  fill 1
  return (← get).ahead.head?

def peekSecond : Reading α ε (Option α) := do
  fill 2
  return (← get).ahead[1]?

def next : Reading α ε (Option α) := do
  fill 1
  modifyGet fun b => (b.ahead.head?, { b with ahead := b.ahead.tail })

theorem peek_apply (b : Lookahead α ε) : peek b = match fill 1 b with
    | .ok _ b => .ok b.ahead.head? b
    | .error e b => .error e b := by
  cases h : fill 1 b with
  | ok _ b =>
    simp only [peek, Bind.bind, EStateM.bind, h]
    rfl
  | error e b => simp only [peek, Bind.bind, EStateM.bind, h]

theorem peekSecond_apply (b : Lookahead α ε) : peekSecond b = match fill 2 b with
    | .ok _ b => .ok b.ahead[1]? b
    | .error e b => .error e b := by
  cases h : fill 2 b with
  | ok _ b =>
    simp only [peekSecond, Bind.bind, EStateM.bind, h]
    rfl
  | error e b => simp only [peekSecond, Bind.bind, EStateM.bind, h]

theorem next_apply (b : Lookahead α ε) : next b = match fill 1 b with
    | .ok _ b => .ok b.ahead.head? { b with ahead := b.ahead.tail }
    | .error e b => .error e b := by
  cases h : fill 1 b with
  | ok _ b =>
    simp only [next, Bind.bind, EStateM.bind, h]
    rfl
  | error e b => simp only [next, Bind.bind, EStateM.bind, h]

def nextPresent : Reading (Option α) ε (Option α) := return (← next).join

def nextPresents : Nat → Reading (Option α) ε (List α)
  | 0 => pure []
  | n + 1 => do
    match ← nextPresent with
    | none => pure []
    | some item => return item :: (← nextPresents n)

def drain : Reading (Option α) ε (List α) := fun b => nextPresents (b.unread + 1) b

end Lookahead

end CellFormula
