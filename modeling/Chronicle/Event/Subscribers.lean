import Chronicle.Text.Uuid

/-! Subscriber sets: recipients in subscription order, at most one per address. -/

namespace Chronicle

/-- Recipients in subscription order, at most one per address. -/
structure SubscriberSet (ρ : Type) where
  members : List ρ := []
  deriving Inhabited

namespace SubscriberSet

variable {ρ α : Type} [DecidableEq α] (address : ρ → α)

def replaceFirst (r : ρ) : List ρ → Option (List ρ)
  | [] => none
  | x :: xs => if address x = address r then some (r :: xs) else (replaceFirst r xs).map (x :: ·)

def subscribe (s : SubscriberSet ρ) (r : ρ) : SubscriberSet ρ × Bool :=
  match replaceFirst address r s.members with
  | some ms => (⟨ms⟩, false)
  | none => (⟨s.members ++ [r]⟩, true)

def unsubscribe (s : SubscriberSet ρ) (a : α) : SubscriberSet ρ × Bool :=
  let kept := s.members.filter (fun x => address x ≠ a)
  (⟨kept⟩, kept.length ≠ s.members.length)

def publish {m : Type → Type} [Monad m] (deliver : ρ → m Bool) (s : SubscriberSet ρ) :
    m (SubscriberSet ρ) := do
  let kept ← s.members.filterM deliver
  pure ⟨kept⟩

def size (s : SubscriberSet ρ) : Nat := s.members.length

theorem length_replaceFirst {r : ρ} {xs ys : List ρ} (h : replaceFirst address r xs = some ys) :
    ys.length = xs.length := by
  induction xs generalizing ys with
  | nil => cases h
  | cons x xs ih =>
    unfold replaceFirst at h
    split at h
    · cases h
      rfl
    · cases hr : replaceFirst address r xs with
      | none => rw [hr] at h; cases h
      | some zs =>
        rw [hr] at h
        cases h
        simp [ih hr]

theorem subscribe_size_le (s : SubscriberSet ρ) (r : ρ) :
    (s.subscribe address r).1.size ≤ s.size + 1 := by
  unfold subscribe size
  split
  · next ms h => simp [length_replaceFirst address h]
  · simp

end SubscriberSet

end Chronicle
