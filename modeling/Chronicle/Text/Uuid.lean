/-! Universally unique identifiers, their written forms and how they are read. -/

namespace Chronicle

/-- A 128-bit identifier. Identifiers are ordered as numbers, which is the order of their
written forms. -/
structure Uuid where
  val : Nat
  isLt : val < Nat.pow 2 128
  deriving DecidableEq

namespace Uuid

def ofNat (n : Nat) : Uuid := ⟨n % Nat.pow 2 128, Nat.mod_lt _ (Nat.two_pow_pos 128)⟩

instance : Inhabited Uuid := ⟨ofNat 0⟩

instance : LT Uuid := ⟨fun a b => a.val < b.val⟩

instance (a b : Uuid) : Decidable (a < b) := inferInstanceAs (Decidable (a.val < b.val))

instance : LE Uuid := ⟨fun a b => a.val ≤ b.val⟩

instance (a b : Uuid) : Decidable (a ≤ b) := inferInstanceAs (Decidable (a.val ≤ b.val))

instance : Ord Uuid := ⟨fun a b => compare a.val b.val⟩

def hexValue? (c : Char) : Option Nat :=
  if '0' ≤ c ∧ c ≤ '9' then some (c.toNat - 48)
  else if 'a' ≤ c ∧ c ≤ 'f' then some (c.toNat - 87)
  else if 'A' ≤ c ∧ c ≤ 'F' then some (c.toNat - 55)
  else none

def digitChar (n : Nat) : Char :=
  if n < 10 then Char.ofNat (48 + n) else Char.ofNat (87 + n)

def hexNumber? (cs : List Char) : Option Nat :=
  cs.foldlM (fun acc c => (hexValue? c).map (acc * 16 + ·)) 0

def hexDigits (v : Nat) : Nat → List Char
  | 0 => []
  | n + 1 => hexDigits (v / 16) n ++ [digitChar (v % 16)]

def render (u : Uuid) : String :=
  let ds := hexDigits u.val 32
  String.ofList (ds.take 8 ++ '-' :: (ds.drop 8).take 4 ++ '-' :: (ds.drop 12).take 4 ++
    '-' :: (ds.drop 16).take 4 ++ '-' :: ds.drop 20)

/-- The 32 bare digits of the hyphenated form, if the characters are laid out as
8-4-4-4-12 hexadecimal digits. -/
def hyphenatedDigits? (cs : List Char) : Option (List Char) :=
  if cs.length = 36 ∧ cs[8]? = some '-' ∧ cs[13]? = some '-' ∧ cs[18]? = some '-' ∧
      cs[23]? = some '-' then
    some (cs.take 8 ++ (cs.drop 9).take 4 ++ (cs.drop 14).take 4 ++ (cs.drop 19).take 4 ++
      cs.drop 24)
  else none

def ofDigits? (ds : List Char) : Option Uuid :=
  if ds.length = 32 then (hexNumber? ds).map ofNat else none

/-- Why a text is not an identifier. Positions and lengths count bytes of the text. -/
inductive ParseError where
  | badChar (c : Char) (index : Nat)
  | badLength (len : Nat)
  | groupCount (count : Nat)
  | groupLength (group : Nat) (expected : Nat) (found : Nat)
  deriving DecidableEq

/-- The text of a refusal. -/
def ParseError.message : ParseError → String
  | .badChar c i => "invalid character: found `" ++ c.toString ++ "` at " ++ toString i
  | .badLength n => "invalid length: found " ++ toString n
  | .groupCount n => "invalid group count: expected 5, found " ++ toString n
  | .groupLength g e n =>
    "invalid group length in group " ++ toString g ++ ": expected " ++ toString e ++
      ", found " ++ toString n

def bytePositions (cs : List Char) (start : Nat) : List (Char × Nat) :=
  match cs with
  | [] => []
  | c :: rest => (c, start) :: bytePositions rest (start + c.utf8Size)

def groupSizes : List Nat := [8, 4, 4, 4, 12]

def groupStarts : List Nat := [0, 9, 14, 19, 24]

/-- The first group whose closing hyphen is misplaced, given the positions of the first four
hyphens, as a refusal. -/
def misplacedGroup? (hyphens : List Nat) : Option ParseError :=
  let rec go (g : Nat) : List Nat → Option ParseError
    | [] => none
    | h :: rest =>
      let start := groupStarts.getD g 0
      let size := groupSizes.getD g 0
      if h = start + size then go (g + 1) rest
      else some (.groupLength g size (h - start))
  go 0 hyphens

def hasUrnPrefix (cs : List Char) : Bool :=
  (cs.take 9).map Char.toLower = "urn:uuid:".toList

/-- The part of a text that one of the accepted forms reads, chosen by the text's length in
bytes, and whether that form is the bare one: 32 bytes are the bare form, 36 the hyphenated
one, 38 the hyphenated one in braces and 45 the hyphenated one after `urn:uuid:`. -/
def form? (s : String) : Option (List Char × Bool) :=
  let cs := s.toList
  match s.utf8ByteSize with
  | 32 => some (cs, true)
  | 36 => some (cs, false)
  | 38 => if cs.head? = some '{' ∧ cs.getLast? = some '}' then some ((cs.drop 1).dropLast, false)
    else none
  | 45 => if hasUrnPrefix cs then some (cs.drop 9, false) else none
  | _ => none

/-- The part of a text of no accepted length that an explanation looks at, with the byte
position it starts at: what stands between braces, what follows `urn:uuid:`, or else the whole
text, which could only have been bare. -/
def framed (s : String) : List Char × Bool × Nat :=
  let cs := s.toList
  if cs.head? = some '{' ∧ cs.getLast? = some '}' ∧ 2 ≤ cs.length then
    ((cs.drop 1).dropLast, false, 1)
  else if hasUrnPrefix cs then (cs.drop 9, false, 9)
  else (cs, true, 0)

/-- Why the part `body` of a text of `total` bytes does not read: the first bad character, then
the length, the groups and the hyphens. -/
def explain (body : List Char) (bare : Bool) (total shift : Nat) : ParseError :=
  let positions := bytePositions body 0
  match positions.find? (fun p => p.1 ≠ '-' ∧ (hexValue? p.1).isNone) with
  | some (c, i) => .badChar c (shift + i)
  | none =>
    let hyphens := (positions.filter (fun p => p.1 = '-')).map (·.2)
    if hyphens.isEmpty ∧ bare then .badLength total
    else if hyphens.length ≠ 4 then .groupCount (hyphens.length + 1)
    else match misplacedGroup? hyphens with
      | some e => e
      | none => .groupLength 4 12 (total - 24)

def maxLength : Nat := 45

/-- Reads an identifier in any accepted form, refusing a text with the first fault found. -/
def parse (s : String) : Except ParseError Uuid :=
  let total := s.utf8ByteSize
  let unframed : Except ParseError Uuid :=
    let (body, bare, shift) := framed s
    .error (explain body bare total shift)
  if maxLength < total then .error (.badLength total)
  else
    match form? s with
    | some (body, true) =>
      match ofDigits? body with
      | some u => .ok u
      | none => unframed
    | some (body, false) =>
      match (hyphenatedDigits? body).bind ofDigits? with
      | some u => .ok u
      | none => .error (explain body false total 0)
    | none => unframed

end Uuid

end Chronicle
