import Chronicle.Codec.Failure
import Chronicle.Text.Uuid
import Chronicle.Text.Timestamp

/-! Readers of scalars, optional values, lists, maps, records and tagged variants. -/

namespace Chronicle

/-- Where a record being read comes from: a whole document, or the members of a tagged
record set aside while its tag was looked for. The two name a too-long array differently. -/
inductive Origin where
  | document
  | buffered
  deriving DecidableEq

def Instant.toJson : Instant → Json
  | .written t => .str t.render
  | .present => .clock

namespace Read

def string (j : Json) : Decoded String :=
  match j with
  | .str s => .ok s
  | other => .error (.invalidType other.unexpected "a string")

def bool (j : Json) : Decoded Bool :=
  match j with
  | .bool b => .ok b
  | other => .error (.invalidType other.unexpected "a boolean")

def intIn (name : String) (lo hi : Int) (j : Json) : Decoded Int :=
  match j with
  | .int n => if lo ≤ n ∧ n ≤ hi then .ok n else .error (.invalidValue (.int n) name)
  | other => .error (.invalidType other.unexpected name)

def u32 (j : Json) : Decoded Nat :=
  (intIn "u32" 0 4294967295 j).map Int.toNat

def u64 (j : Json) : Decoded Nat :=
  (intIn "u64" 0 18446744073709551615 j).map Int.toNat

def usize (j : Json) : Decoded Nat :=
  (intIn "usize" 0 18446744073709551615 j).map Int.toNat

def i32 (j : Json) : Decoded Int :=
  intIn "i32" (-2147483648) 2147483647 j

def option (r : Json → Decoded α) (j : Json) : Decoded (Option α) :=
  match j with
  | .null => .ok none
  | other => (r other).map some

def list (r : Json → Decoded α) (j : Json) : Decoded (List α) :=
  match j with
  | .arr items => items.mapM r
  | other => .error (.invalidType other.unexpected "a sequence")

def map (key : String → Decoded κ) (r : Json → Decoded α) (j : Json) : Decoded (List (κ × α)) :=
  match j with
  | .obj members => members.mapM (fun m => do pure (← key m.1, ← r m.2))
  | other => .error (.invalidType other.unexpected "a map")

def uuidText (s : String) : Decoded Uuid :=
  match Uuid.parse s with
  | .ok u => .ok u
  | .error e => .error (.custom ("UUID parsing failed: " ++ e.message))

def uuid (j : Json) : Decoded Uuid :=
  match j with
  | .str s => uuidText s
  | other => .error (.invalidType other.unexpected "a formatted UUID string")

/-- A timestamp. -/
def timestamp (j : Json) : Decoded Timestamp :=
  match j with
  | .str s =>
    match Timestamp.parse s with
    | .ok t => .ok t
    | .error e => .error (.custom e.message)
  | other => .error (.invalidType other.unexpected "an RFC 3339 formatted date and time string")

def instant (j : Json) : Decoded Instant :=
  match j with
  | .clock => .ok .present
  | other => (timestamp other).map .written

def variantName (known : List String) (j : Json) : Decoded String :=
  match j with
  | .str s => if known.contains s then .ok s else .error (.unknownVariant s known)
  | other => .error (.invalidType other.unexpected "variant identifier")

/-- A variant without data, written as its name, or as an object of one member whose value
is `null`. -/
def unitVariant (known : List String) (j : Json) : Decoded String :=
  match j with
  | .str s => variantName known (.str s)
  | .obj [(k, v)] => do
    let name ← variantName known (.str k)
    match v with
    | .null => pure name
    | other => throw (.invalidType other.unexpected "unit")
  | .obj _ => .error (.invalidValue .map "map with a single key")
  | other => .error (.invalidType other.unexpected "string or map")

end Read

/-- What an absent field of a record gives. -/
inductive Absent where
  | required
  | empty
  | fallback
  deriving DecidableEq

/-- One field of a record `β` being read: its name, how its value is read into the record,
and what its absence gives. -/
structure Field (β : Type) where
  name : String
  read : Origin → Json → β → Decoded β
  absent : Absent

namespace Field

def plain (name : String) (absent : Absent) (r : Json → Decoded α) (set : β → α → β) : Field β :=
  ⟨name, fun _ j b => (r j).map (set b), absent⟩

end Field

/-- Reads a record named `name` from an object, fields in key order, or from an array, fields
in declaration order, starting from `start`. -/
def readRecord (name : String) (fields : List (Field β)) (start : β) (origin : Origin)
    (j : Json) : Decoded β :=
  match j with
  | .obj members => do
    let b ← members.foldlM (fun b m =>
      match fields.find? (·.name == m.1) with
      | some f => f.read origin m.2 b
      | none => pure b) start
    match fields.find? (fun f => f.absent == .required && !(members.any (·.1 == f.name))) with
    | some f => throw (.missingField f.name)
    | none => pure b
  | .arr items => do
    let count := fields.length
    let described := "struct " ++ name ++ " with " ++ toString count ++
      (if count = 1 then " element" else " elements")
    let b ← (fields.zipIdx).foldlM (fun b fi =>
      match items[fi.2]? with
      | some v => fi.1.read origin v b
      | none => if fi.1.absent == .fallback then pure b
        else throw (.invalidLength fi.2 described)) start
    if items.length > count then
      match origin with
      | .document => throw (.invalidLength items.length "fewer elements in array")
      | .buffered => throw (.invalidLength items.length
          (toString count ++ (if count = 1 then " element in sequence" else " elements in sequence")))
    else pure b
  | other => .error (.invalidType other.unexpected ("struct " ++ name))

/-- Reads a record whose kind is named by the member `tag`. The tag is checked where it
falls in key order; the remaining members, or in an array the items after the first, are
read by `body` for the named kind. -/
def readTagged (enumName tag : String) (known : List String)
    (body : String → Json → Decoded α) (j : Json) : Decoded α :=
  match j with
  | .obj members => do
    let found ← members.foldlM (fun found m =>
      if m.1 = tag then (Read.variantName known m.2).map some else pure found) none
    match found with
    | none => throw (.missingField tag)
    | some kind => body kind (.obj (members.filter (·.1 ≠ tag)))
  | .arr [] => .error (.missingField tag)
  | .arr (t :: rest) => do
    let kind ← Read.variantName known t
    body kind (.arr rest)
  | other => .error (.invalidType other.unexpected ("internally tagged enum " ++ enumName))

end Chronicle
