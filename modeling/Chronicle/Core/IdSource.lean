import Chronicle.Text.Uuid
import Chronicle.Text.Timestamp

/-! Time-ordered identifiers made at run time, passing over the ones known to be taken. -/

namespace Chronicle

/-- A source of fresh identifiers: the instant it stamps them with, the last counter it used,
and the identifiers in use elsewhere that it must not make, fixed when the source is made (a
session's are those its input names). The counter alone keeps it from repeating its own. -/
structure IdSource where
  millis : Nat
  issued : Nat := 0
  taken : List Uuid := []
  deriving Inhabited

namespace IdSource

def idAt (millis n : Nat) : Uuid :=
  Uuid.ofNat (millis % Nat.pow 2 48 * Nat.pow 2 80 + 0x7 * Nat.pow 2 76 + 0x2 * Nat.pow 2 62 +
    n % Nat.pow 2 62)

/-- The next fresh identifier, and the source after it. Of any `taken.length + 1` counters in
a row one gives an identifier that is not taken, so the search stops there. -/
def fresh (s : IdSource) : Uuid × IdSource :=
  let rec go : Nat → Nat → Uuid × IdSource
    | 0, n => (idAt s.millis n, { s with issued := n })
    | fuel + 1, n =>
      if s.taken.contains (idAt s.millis n) then go fuel (n + 1)
      else (idAt s.millis n, { s with issued := n })
  go s.taken.length (s.issued + 1)

end IdSource

def Timestamp.now : Timestamp :=
  ⟨Timestamp.daysOfCivil 2026 11 13, 12 * 3600, 123456789⟩

def Timestamp.unixMillis (t : Timestamp) : Nat :=
  (t.days * 86400000 + t.second * 1000 + t.nanos / 1000000).toNat

end Chronicle
