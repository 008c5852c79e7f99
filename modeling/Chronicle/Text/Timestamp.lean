import Chronicle.Text.Blank

/-! Instants in UTC to the nanosecond, written and read as RFC 3339 text. -/

namespace Chronicle

/-- Why a text is not a timestamp. -/
inductive TimeError where
  | outOfRange
  | impossible
  | notEnough
  | invalid
  | tooShort
  | tooLong
  deriving DecidableEq

/-- The text of a refusal. -/
def TimeError.message : TimeError → String
  | .outOfRange => "input is out of range"
  | .impossible => "no possible date and time matching input"
  | .notEnough => "input is not enough for unique date and time"
  | .invalid => "input contains invalid characters"
  | .tooShort => "premature end of input"
  | .tooLong => "trailing input"

/-- An instant: days since 1970-01-01, the second of that day, and nanoseconds. Nanoseconds
from one billion on mark the leap second that follows the second of the day. -/
structure Timestamp where
  days : Int
  second : Nat
  nanos : Nat
  deriving DecidableEq, Inhabited

namespace Timestamp

def isLeapYear (y : Int) : Bool :=
  (y % 4 = 0 ∧ y % 100 ≠ 0) ∨ y % 400 = 0

def monthLength (y : Int) (m : Nat) : Nat :=
  match m with
  | 2 => if isLeapYear y then 29 else 28
  | 4 | 6 | 9 | 11 => 30
  | _ => 31

/-- The days from 1970-01-01 to a date. Integer division here rounds down, as the divisors
are positive. -/
def daysOfCivil (y : Int) (m d : Nat) : Int :=
  let y := if m ≤ 2 then y - 1 else y
  let era := y / 400
  let yoe := y - era * 400
  let mp : Int := if m > 2 then m - 3 else m + 9
  let doy := (153 * mp + 2) / 5 + d - 1
  let doe := yoe * 365 + yoe / 4 - yoe / 100 + doy
  era * 146097 + doe - 719468

/-- The date, as year, month and day, that lies a number of days after 1970-01-01. -/
def civilOfDays (z : Int) : Int × Nat × Nat :=
  let z := z + 719468
  let era := z / 146097
  let doe := z - era * 146097
  let yoe := (doe - doe / 1460 + doe / 36524 - doe / 146096) / 365
  let y := yoe + era * 400
  let doy := doe - (365 * yoe + yoe / 4 - yoe / 100)
  let mp := (5 * doy + 2) / 153
  let d := doy - (153 * mp + 2) / 5 + 1
  let m := if mp < 10 then mp + 3 else mp - 9
  ((if m ≤ 2 then y + 1 else y), m.toNat, d.toNat)

def twoDigits (n : Nat) : String :=
  String.ofList [Char.ofNat (48 + n / 10 % 10), Char.ofNat (48 + n % 10)]

def padded (width n : Nat) : String :=
  let s := toString n
  String.ofList (List.replicate (width - s.length) '0') ++ s

def yearText (y : Int) : String :=
  if 0 ≤ y ∧ y ≤ 9999 then padded 4 y.toNat
  else (if y < 0 then "-" else "+") ++ padded 4 y.natAbs

def fractionText (n : Nat) : String :=
  if n = 0 then ""
  else if n % 1000000 = 0 then "." ++ padded 3 (n / 1000000)
  else if n % 1000 = 0 then "." ++ padded 6 (n / 1000)
  else "." ++ padded 9 n

/-- The RFC 3339 text of an instant, in UTC. -/
def render (t : Timestamp) : String :=
  let (y, m, d) := civilOfDays t.days
  let leap := if t.nanos ≥ 1000000000 then 1 else 0
  yearText y ++ "-" ++ twoDigits m ++ "-" ++ twoDigits d ++ "T" ++
    twoDigits (t.second / 3600) ++ ":" ++ twoDigits (t.second / 60 % 60) ++ ":" ++
    twoDigits (t.second % 60 + leap) ++ fractionText (t.nanos % 1000000000) ++ "Z"

def byteLength (cs : List Char) : Nat :=
  cs.foldl (fun n c => n + c.utf8Size) 0

def fieldMax : Nat := Nat.pow 2 63 - 1

/-- Reads between `lo` and `hi` decimal digits. A text of fewer bytes than `lo` is too
short; a non-digit before `lo` digits is invalid; a value past the largest 64-bit field is
out of range. -/
def scanNumber (cs : List Char) (lo hi : Nat) : Except TimeError (Nat × List Char) :=
  if byteLength cs < lo then .error .tooShort
  else
    let ds := (cs.take hi).takeWhile Char.isDigit
    if ds.length < lo then .error .invalid
    else
      let v := ds.foldl (fun acc c => acc * 10 + (c.toNat - 48)) 0
      if v > fieldMax then .error .outOfRange else .ok (v, cs.drop ds.length)

/-- Reads a number field after skipping blanks. A signed field takes any number of digits
after an explicit sign, else at most `width`. -/
def scanField (cs : List Char) (width : Nat) (signed : Bool) : Except TimeError (Int × List Char) :=
  let cs := cs.dropWhile Blank.isBlank
  match signed, cs with
  | true, '-' :: rest => do
    let (v, r) ← scanNumber rest 1 (byteLength rest)
    pure (-(v : Int), r)
  | true, '+' :: rest => do
    let (v, r) ← scanNumber rest 1 (byteLength rest)
    pure ((v : Int), r)
  | _, _ => do
    let (v, r) ← scanNumber cs 1 width
    pure ((v : Int), r)

def inRange (v lo hi : Int) : Except TimeError Unit :=
  if lo ≤ v ∧ v ≤ hi then .ok () else .error .outOfRange

def expectSep (cs : List Char) (sep : Char) : Except TimeError (List Char) :=
  match cs.dropWhile Blank.isBlank with
  | [] => .error .tooShort
  | c :: rest => if c = sep then .ok rest else .error .invalid

/-- Reads a fraction after a point: up to nine digits count, the rest are skipped. -/
def scanFraction (cs : List Char) : Except TimeError (Nat × List Char) :=
  match cs with
  | '.' :: rest => do
    let (v, r) ← scanNumber rest 1 9
    let used := rest.length - r.length
    pure (v * Nat.pow 10 (9 - used), r.dropWhile Char.isDigit)
  | _ => .ok (0, cs)

/-- Reads two hour digits of an offset. -/
def scanOffsetHours (cs : List Char) : Except TimeError (Nat × List Char) :=
  if byteLength cs < 2 then .error .tooShort
  else match cs with
    | a :: b :: r =>
      if a.isDigit ∧ b.isDigit then .ok ((a.toNat - 48) * 10 + (b.toNat - 48), r)
      else .error .invalid
    | _ => .error .invalid

/-- Reads two minute digits of an offset: a first digit past 5 is out of range. -/
def scanOffsetMinutes (cs : List Char) : Except TimeError (Nat × List Char) :=
  if byteLength cs < 2 then .error .tooShort
  else match cs with
    | a :: b :: r =>
      if '0' ≤ a ∧ a ≤ '5' ∧ b.isDigit then .ok ((a.toNat - 48) * 10 + (b.toNat - 48), r)
      else if '6' ≤ a ∧ a ≤ '9' ∧ b.isDigit then .error .outOfRange
      else .error .invalid
    | _ => .error .invalid

/-- Reads an offset from UTC in seconds: `Z` or `z`, or a sign (a hyphen or the minus sign
may stand for minus), two hour digits, colons or blanks, and two minute digits. -/
def scanOffset (cs : List Char) : Except TimeError (Int × List Char) :=
  match cs with
  | [] => .error .tooShort
  | c :: rest =>
    if c = 'Z' ∨ c = 'z' then .ok (0, rest)
    else if c = '+' ∨ c = '-' ∨ c = '−' then do
      let (h, rest) ← scanOffsetHours rest
      let rest := rest.dropWhile (fun c => c = ':' ∨ Blank.isBlank c)
      let (m, rest) ← scanOffsetMinutes rest
      let secs : Int := h * 3600 + m * 60
      pure (if c = '+' then secs else -secs, rest)
    else .error .invalid

def minYear : Int := -262143

def maxYear : Int := 262142

def startsWithUtc (cs : List Char) : Bool :=
  (cs.take 3).map Char.toUpper = ['U', 'T', 'C']

/-- Reads a timestamp, leniently (see the module text), and moves it to UTC. -/
def parse (s : String) : Except TimeError Timestamp := do
  let cs := s.toList
  let (y, cs) ← scanField cs 4 true
  inRange y (-2147483648) 2147483647
  let cs ← expectSep cs '-'
  let (mo, cs) ← scanField cs 2 false
  inRange mo 1 12
  let cs ← expectSep cs '-'
  let (d, cs) ← scanField cs 2 false
  inRange d 1 31
  let cs ← match cs with
    | c :: rest => if c = 'T' ∨ c = 't' ∨ c = ' ' then pure rest else throw .invalid
    | [] => throw .tooShort
  let (h, cs) ← scanField cs 2 false
  inRange h 0 23
  let cs ← expectSep cs ':'
  let (mi, cs) ← scanField cs 2 false
  inRange mi 0 59
  let cs ← expectSep cs ':'
  let (se, cs) ← scanField cs 2 false
  inRange se 0 60
  let (frac, cs) ← scanFraction cs
  let cs := cs.dropWhile Blank.isBlank
  let (off, cs) ← if startsWithUtc cs then pure (0, cs.drop 3) else scanOffset cs
  if !(cs.dropWhile Blank.isBlank).isEmpty then throw .tooLong
  let mo := mo.toNat
  let d := d.toNat
  if y < minYear ∨ y > maxYear ∨ d > monthLength y mo then throw .outOfRange
  if off ≤ -86400 ∨ off ≥ 86400 then throw .outOfRange
  let (sec, nanos) := if se = 60 then (59, frac + 1000000000) else (se.toNat, frac)
  let localSecs := daysOfCivil y mo d * 86400 + (h.toNat * 3600 + mi.toNat * 60 + sec)
  let utc := localSecs - off
  let days := utc / 86400
  let (year, _, _) := civilOfDays days
  if year < minYear ∨ year > maxYear then throw .impossible
  pure ⟨days, (utc % 86400).toNat, nanos⟩

def ofUnixNanos (n : Nat) : Timestamp :=
  ⟨(n / 86400000000000 : Nat), n / 1000000000 % 86400, n % 1000000000⟩

end Timestamp

/-- When something happened: an instant that a document wrote, or the present reading of the
session's clock. No document can name the present; it is written as `<now>`. -/
inductive Instant where
  | written (t : Timestamp)
  | present
  deriving DecidableEq, Inhabited

end Chronicle
