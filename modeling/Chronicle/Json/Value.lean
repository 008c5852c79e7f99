import Chronicle.Binary64.Basic

/-! JSON documents, whose objects keep their members sorted by key. -/

namespace Chronicle

/-- A JSON document, which besides what a text can hold may hold the present reading of the
session's clock, written `<now>`. -/
inductive Json where
  | null
  | bool (b : Bool)
  | int (n : Int)
  | float (x : Binary64)
  | str (s : String)
  | arr (items : List Json)
  | obj (members : List (String × Json))
  | clock
  deriving Inhabited, BEq

namespace Json

/-- Puts a member into a key-sorted member list; a member of the same key is replaced. -/
def insertMember (k : String) (v : Json) : List (String × Json) → List (String × Json)
  | [] => [(k, v)]
  | (k2, v2) :: rest =>
    if k < k2 then (k, v) :: (k2, v2) :: rest
    else if k = k2 then (k, v) :: rest
    else (k2, v2) :: insertMember k v rest

def mkObj (members : List (String × Json)) : Json :=
  .obj (members.foldl (fun acc m => insertMember m.1 m.2 acc) [])

def field? (j : Json) (k : String) : Option Json :=
  match j with
  | .obj members => members.lookup k
  | _ => none

def str? : Json → Option String
  | .str s => some s
  | _ => none

def bool? : Json → Option Bool
  | .bool b => some b
  | _ => none

def int? : Json → Option Int
  | .int n => some n
  | _ => none

def nat? : Json → Option Nat
  | .int n => if 0 ≤ n then some n.toNat else none
  | _ => none

def arr? : Json → Option (List Json)
  | .arr xs => some xs
  | _ => none

def obj? : Json → Option (List (String × Json))
  | .obj ms => some ms
  | _ => none

def ofNat (n : Nat) : Json := .int n

def ofOption : Option Json → Json
  | some j => j
  | none => .null

def ofStr? : Option String → Json
  | some s => .str s
  | none => .null

end Json

end Chronicle
