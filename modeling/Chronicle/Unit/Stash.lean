/-! Stashes: messages a unit cannot handle yet, up to an optional capacity. -/

namespace Chronicle

/-- Messages set aside in arrival order, with an optional capacity. -/
structure Stash (μ : Type) where
  items : List μ := []
  capacity : Option Nat := none

namespace Stash

variable {μ : Type}

def empty (capacity : Option Nat) : Stash μ := ⟨[], capacity⟩

def isFull (s : Stash μ) : Bool :=
  match s.capacity with
  | some c => s.items.length ≥ c
  | none => false

def push (s : Stash μ) (m : μ) : Except μ (Stash μ) :=
  if s.isFull then .error m else .ok { s with items := s.items ++ [m] }

def takeAll (s : Stash μ) : List μ × Stash μ := (s.items, { s with items := [] })

def size (s : Stash μ) : Nat := s.items.length

theorem push_items (s : Stash μ) (m : μ) (h : s.isFull = false) :
    s.push m = .ok { s with items := s.items ++ [m] } := by
  simp [push, h]

theorem takeAll_fst (s : Stash μ) : s.takeAll.1 = s.items := rfl

end Stash

end Chronicle
