import Chronicle.Json.Value
import Chronicle.Text.Uuid
import Chronicle.Text.Timestamp

/-! Stable aliases for the identifiers made at run time. -/

namespace Chronicle

/-- The identifiers a session must keep, and those it has named by alias, in alias order. -/
structure Aliases where
  known : List Uuid := []
  named : List Uuid := []
  deriving Inhabited

namespace Aliases

def isHex (c : Char) : Bool := (Uuid.hexValue? c).isSome

/-- The identifier written hyphenated at the start of a text, if one is. -/
def hyphenatedAt (cs : List Char) : Option Uuid :=
  let w := cs.take 36
  if w.length = 36 ∧ (w.zipIdx.all (fun p =>
      if p.2 = 8 ∨ p.2 = 13 ∨ p.2 = 18 ∨ p.2 = 23 then p.1 = '-' else isHex p.1)) then
    match Uuid.parse (String.ofList w) with
    | .ok u => some u
    | .error _ => none
  else none

def bareAt (cs : List Char) : Option Uuid :=
  let w := cs.take 32
  if w.length = 32 ∧ w.all isHex then Uuid.ofDigits? w else none

/-- Every identifier written in a text, hyphenated or bare, in order. -/
def scan (cs : List Char) : List Uuid :=
  match cs with
  | [] => []
  | c :: rest =>
    match hyphenatedAt (c :: rest) with
    | some u => u :: scan (rest.drop 35)
    | none => match bareAt (c :: rest) with
      | some u => u :: scan (rest.drop 31)
      | none => scan rest
termination_by cs.length
decreasing_by
  all_goals
    simp only [List.length_drop, List.length_cons]
    omega

mutual

def idsIn : Json → List Uuid
  | .str s => scan s.toList
  | .arr xs => idsInItems xs
  | .obj ms => idsInMembers ms
  | _ => []

def idsInItems : List Json → List Uuid
  | [] => []
  | x :: xs => idsIn x ++ idsInItems xs

def idsInMembers : List (String × Json) → List Uuid
  | [] => []
  | (k, v) :: rest => scan k.toList ++ idsIn v ++ idsInMembers rest

end

def ofRequest (req : Json) : Aliases := ⟨idsIn req, []⟩

def aliasOf (a : Aliases) (u : Uuid) : String × Aliases :=
  match a.named.idxOf? u with
  | some i => ("~" ++ toString (i + 1), a)
  | none => ("~" ++ toString (a.named.length + 1), { a with named := a.named ++ [u] })

/-- A text with every generated identifier written hyphenated replaced by its alias. -/
def renameText (cs : List Char) (a : Aliases) : List Char × Aliases :=
  match cs with
  | [] => ([], a)
  | c :: rest =>
    match hyphenatedAt (c :: rest) with
    | some u =>
      if a.known.contains u then
        let (tail, a2) := renameText (rest.drop 35) a
        (c :: rest.take 35 ++ tail, a2)
      else
        let (name, a2) := a.aliasOf u
        let (tail, a3) := renameText (rest.drop 35) a2
        (name.toList ++ tail, a3)
    | none =>
      let (tail, a2) := renameText rest a
      (c :: tail, a2)
termination_by cs.length
decreasing_by
  all_goals
    simp only [List.length_drop, List.length_cons]
    omega

def renameString (s : String) (a : Aliases) : String × Aliases :=
  let (cs, a2) := renameText s.toList a
  (String.ofList cs, a2)

mutual

def rename : Json → Aliases → Json × Aliases
  | .str s, a => let (t, a2) := renameString s a; (.str t, a2)
  | .arr xs, a => let (ys, a2) := renameItems xs a; (.arr ys, a2)
  | .obj ms, a => let (ns, a2) := renameMembers ms a; (.obj ns, a2)
  | j, a => (j, a)

/-- Documents renamed in order. -/
def renameItems : List Json → Aliases → List Json × Aliases
  | [], a => ([], a)
  | x :: xs, a =>
    let (y, a2) := rename x a
    let (ys, a3) := renameItems xs a2
    (y :: ys, a3)

/-- Members renamed in key order, each key before its value. -/
def renameMembers : List (String × Json) → Aliases → List (String × Json) × Aliases
  | [], a => ([], a)
  | (k, v) :: rest, a =>
    let (k2, a2) := renameString k a
    let (v2, a3) := rename v a2
    let (rest2, a4) := renameMembers rest a3
    ((k2, v2) :: rest2, a4)

end

theorem length_dropWhile_le (l : List Char) (p : Char → Bool) :
    (l.dropWhile p).length ≤ l.length := by
  induction l with
  | nil => simp
  | cons c r ih =>
    simp only [List.dropWhile_cons]
    split
    · simp only [List.length_cons]
      omega
    · exact Nat.le_refl _

def named? (a : Aliases) (ds : List Char) : Option Uuid :=
  let n := ds.foldl (fun n c => n * 10 + (c.toNat - 48)) 0
  if ds.isEmpty ∨ ds.head? = some '0' then none else a.named[n - 1]?

/-- A text with every `~N` of a named identifier replaced by that identifier. -/
def resolveText (a : Aliases) (cs : List Char) : List Char :=
  match cs with
  | [] => []
  | c :: rest =>
    if c = '~' then
      match a.named? (rest.takeWhile Char.isDigit) with
      | some u => u.render.toList ++ resolveText a (rest.dropWhile Char.isDigit)
      | none => c :: resolveText a rest
    else c :: resolveText a rest
termination_by cs.length
decreasing_by
  all_goals simp_wf
  all_goals
    have hd := length_dropWhile_le rest Char.isDigit
    omega

mutual

def resolve (a : Aliases) : Json → Json
  | .str s => .str (String.ofList (resolveText a s.toList))
  | .arr xs => .arr (resolveItems a xs)
  | .obj ms => Json.mkObj (resolveMembers a ms)
  | j => j

def resolveItems (a : Aliases) : List Json → List Json
  | [] => []
  | x :: xs => resolve a x :: resolveItems a xs

def resolveMembers (a : Aliases) : List (String × Json) → List (String × Json)
  | [] => []
  | (k, v) :: rest => (k, resolve a v) :: resolveMembers a rest

end

end Aliases

end Chronicle
