import Chronicle.Core.Error
import Chronicle.Text.Timestamp

/-! Aggregates: records that decide on commands and evolve by the entries they log. -/

namespace Chronicle

/-- A record `α` that decides on commands `κ` and evolves by logged entries of the same type. -/
class Aggregate (α : Type) (κ : outParam Type) where
  empty : α
  handle : Instant → α → κ → Except DomainError κ
  apply : α → κ → α

namespace Aggregate

def rehydrate [Aggregate α κ] (start : α) (entries : List κ) : α :=
  entries.foldl apply start

@[simp] theorem rehydrate_nil [Aggregate α κ] (s : α) : rehydrate s ([] : List κ) = s := rfl

@[simp] theorem rehydrate_append [Aggregate α κ] (s : α) (xs ys : List κ) :
    rehydrate s (xs ++ ys) = rehydrate (rehydrate s xs) ys := by
  simp [rehydrate, List.foldl_append]

end Aggregate

/-- The version a writer expects a log to have: any, or exactly a sequence number. -/
inductive ExpectedVersion where
  | any
  | exact (n : Nat)
  deriving DecidableEq, Inhabited

namespace ExpectedVersion

def accepts : ExpectedVersion → Nat → Bool
  | .any, _ => true
  | .exact v, actual => v == actual

def describe : ExpectedVersion → String
  | .any => "Any"
  | .exact v => "Exact(" ++ toString v ++ ")"

def check (e : ExpectedVersion) (actual : Nat) : Except DomainError Unit :=
  if e.accepts actual then .ok ()
  else .error (.conflict ("optimistic concurrency check failed (expected: " ++ e.describe ++
    ", actual: " ++ toString actual ++ ")"))

end ExpectedVersion

end Chronicle
