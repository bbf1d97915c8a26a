namespace CellFormula

/-- Gives `items` in order. When they are used up, a failure is raised once; after it, and where
there is none, the source has ended. -/
structure Source (α ε : Type) where
  items : List α
  failure : Option ε
  deriving DecidableEq

namespace Source

variable {α β ε : Type}

def ofList (items : List α) : Source α ε := ⟨items, none⟩

def empty : Source α ε := ofList []

def fail (e : ε) : Source α ε := ⟨[], some e⟩

def cons (a : α) (s : Source α ε) : Source α ε := { s with items := a :: s.items }

def map (f : α → β) (s : Source α ε) : Source β ε := ⟨s.items.map f, s.failure⟩

end Source

end CellFormula
