import Chronicle.Codec.Read

/-! Permissions: roles in an area, refined per sub-area to any depth. -/

namespace Chronicle

/-- Roles granted in an area, with refinements per sub-area keyed by name. -/
structure Permission where
  area : String := ""
  subArea : Option String := none
  roles : List String := []
  subAreaPermissions : List (String × Permission) := []
  deriving Inhabited

namespace Permission

def wellKnown : List (String × String) :=
  [("administrator", "Administrator"), ("power_user", "PowerUser"), ("user", "User"),
   ("global_administrator", "GlobalAdministrator")]

def ofRoles (area : String) (roles : List String) : Permission :=
  { area := area, roles := roles }

def hasRole (p : Permission) (role : String) : Bool :=
  p.roles.contains role

/-- The document form. -/
def toJson : Permission → Json
  | ⟨area, sub, roles, subs⟩ =>
    Json.mkObj [("area", .str area), ("subArea", Json.ofStr? sub),
      ("roles", .arr (roles.map .str)),
      ("subAreaPermissions", .obj (subs.attach.map (fun ⟨(k, p), _⟩ => (k, toJson p))))]
termination_by p => sizeOf p
decreasing_by
  have := List.sizeOf_lt_of_mem ‹_›
  simp_all [Prod.mk.sizeOf_spec]
  omega

/-- How deep objects nest in a document; a bound on the levels of refinement it can hold. -/
def depth : Json → Nat
  | .arr items => 1 + (items.attach.map (fun ⟨j, _⟩ => depth j)).foldl max 0
  | .obj members => 1 + (members.attach.map (fun ⟨(_, j), _⟩ => depth j)).foldl max 0
  | _ => 0
termination_by j => sizeOf j
decreasing_by
  · have := List.sizeOf_lt_of_mem ‹_›
    simp_all
    omega
  · have := List.sizeOf_lt_of_mem ‹_›
    simp_all [Prod.mk.sizeOf_spec]
    omega

/-- Reads a permission, allowing `levels` levels of refinement below it; absent fields take
their defaults. -/
def readWithin (levels : Nat) (origin : Origin) (j : Json) : Decoded Permission :=
  readRecord "Permission"
    [Field.plain "area" .fallback Read.string (fun p v => { p with area := v }),
     Field.plain "subArea" .fallback (Read.option Read.string) (fun p v => { p with subArea := v }),
     Field.plain "roles" .fallback (Read.list Read.string) (fun p v => { p with roles := v }),
     ⟨"subAreaPermissions", fun o v p =>
       match levels with
       | 0 => .error (.custom "recursion limit exceeded")
       | n + 1 => (Read.map .ok (readWithin n o) v).map ({ p with subAreaPermissions := · }),
       .fallback⟩]
    {} origin j

def read (origin : Origin) (j : Json) : Decoded Permission :=
  readWithin (depth j) origin j

end Permission

end Chronicle
