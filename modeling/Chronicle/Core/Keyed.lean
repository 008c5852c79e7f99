/-! Keyed lists: entries sorted by strictly increasing key. -/

namespace Chronicle

namespace Keyed

variable {κ α : Type} [LT κ] [DecidableRel (fun a b : κ => a < b)] [DecidableEq κ]

def get? (xs : List (κ × α)) (k : κ) : Option α :=
  (xs.find? (·.1 = k)).map (·.2)

def contains (xs : List (κ × α)) (k : κ) : Bool :=
  xs.any (·.1 = k)

/-- Stores a value under a key, replacing an entry of the same key, keeping keys sorted. -/
def insert (k : κ) (v : α) : List (κ × α) → List (κ × α)
  | [] => [(k, v)]
  | (k2, v2) :: rest =>
    if k < k2 then (k, v) :: (k2, v2) :: rest
    else if k = k2 then (k, v) :: rest
    else (k2, v2) :: insert k v rest

def modify (k : κ) (f : α → α) (xs : List (κ × α)) : List (κ × α) :=
  xs.map (fun e => if e.1 = k then (e.1, f e.2) else e)

def erase (k : κ) (xs : List (κ × α)) : List (κ × α) :=
  xs.filter (·.1 ≠ k)

def ofList (xs : List (κ × α)) : List (κ × α) :=
  xs.foldl (fun acc e => insert e.1 e.2 acc) []

theorem get?_insert_self (k : κ) (v : α) (xs : List (κ × α)) :
    get? (insert k v xs) k = some v := by
  induction xs with
  | nil => simp [insert, get?]
  | cons e rest ih =>
    obtain ⟨k2, v2⟩ := e
    unfold insert
    by_cases h1 : k < k2
    · simp [h1, get?]
    · by_cases h2 : k = k2
      · subst h2; simp [h1, get?]
      · simp only [h1, h2, if_false]
        simp only [get?, List.find?_cons] at ih ⊢
        simp [Ne.symm h2, ih]

end Keyed

end Chronicle
