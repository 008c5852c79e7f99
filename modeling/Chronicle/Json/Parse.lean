import Chronicle.Json.Value

/-! Reading one JSON document from a text. -/

namespace Chronicle

namespace Json

/-- Why a text is not a JSON document. -/
inductive SyntaxError where
  | eofValue
  | eofList
  | eofObject
  | eofString
  | expectedColon
  | expectedListEnd
  | expectedObjectEnd
  | expectedIdent
  | expectedValue
  | invalidEscape
  | invalidNumber
  | numberOutOfRange
  | invalidCodePoint
  | controlCharacter
  | keyNotString
  | loneSurrogate
  | trailingComma
  | trailingCharacters
  | recursionLimit
  deriving DecidableEq

/-- The text of a syntax error. -/
def SyntaxError.text : SyntaxError → String
  | .eofValue => "EOF while parsing a value"
  | .eofList => "EOF while parsing a list"
  | .eofObject => "EOF while parsing an object"
  | .eofString => "EOF while parsing a string"
  | .expectedColon => "expected `:`"
  | .expectedListEnd => "expected `,` or `]`"
  | .expectedObjectEnd => "expected `,` or `\x7d`"
  | .expectedIdent => "expected ident"
  | .expectedValue => "expected value"
  | .invalidEscape => "invalid escape"
  | .invalidNumber => "invalid number"
  | .numberOutOfRange => "number out of range"
  | .invalidCodePoint => "invalid unicode code point"
  | .controlCharacter => "control character (\\u0000-\\u001F) found while parsing a string"
  | .keyNotString => "key must be a string"
  | .loneSurrogate => "lone leading surrogate in hex escape"
  | .trailingComma => "trailing comma"
  | .trailingCharacters => "trailing characters"
  | .recursionLimit => "recursion limit exceeded"

/-- A syntax error and the byte offset in the text where it is reported. -/
structure ParseFailure where
  error : SyntaxError
  offset : Nat

/-- What is left to read, and the byte offset where it starts. -/
structure Cursor where
  rest : List Char
  pos : Nat

/-- A reading step: its result and what is left, or a failure. -/
abbrev Parsed (α : Type) := Except ParseFailure (α × Cursor)

namespace Cursor

def next (c : Cursor) : Cursor :=
  match c.rest with
  | [] => c
  | x :: rest => ⟨rest, c.pos + x.utf8Size⟩

def skipBlank (c : Cursor) : Cursor :=
  let blank (x : Char) : Bool := x = ' ' ∨ x = '\n' ∨ x = '\t' ∨ x = '\r'
  let kept := c.rest.dropWhile blank
  ⟨kept, c.pos + ((c.rest.takeWhile blank).length)⟩

def peekOffset (c : Cursor) : Nat :=
  match c.rest with
  | [] => c.pos
  | x :: _ => c.pos + x.utf8Size

end Cursor

def failAt {α : Type} (e : SyntaxError) (offset : Nat) : Except ParseFailure α :=
  .error ⟨e, offset⟩

def hexValue? (c : Char) : Option Nat :=
  if '0' ≤ c ∧ c ≤ '9' then some (c.toNat - 48)
  else if 'a' ≤ c ∧ c ≤ 'f' then some (c.toNat - 87)
  else if 'A' ≤ c ∧ c ≤ 'F' then some (c.toNat - 55)
  else none

def hex4? (a b c d : Char) : Option Nat := do
  pure ((((← hexValue? a) * 16 + (← hexValue? b)) * 16 + (← hexValue? c)) * 16 + (← hexValue? d))

/-- Reads the rest of a string after its opening quote, up to and past the closing quote.
Escapes stand for the character they name; a pair of escaped surrogates stands for one
character. -/
def stringBody (pos : Nat) (acc : List Char) : List Char → Except ParseFailure (String × Cursor)
  | [] => failAt .eofString pos
  | '"' :: rest => .ok (String.ofList acc.reverse, ⟨rest, pos + 1⟩)
  | '\\' :: 'u' :: a :: b :: c :: d :: rest =>
    match hex4? a b c d with
    | none => failAt .invalidEscape (pos + 6)
    | some n =>
      if 0xDC00 ≤ n ∧ n ≤ 0xDFFF then failAt .loneSurrogate (pos + 6)
      else if 0xD800 ≤ n ∧ n ≤ 0xDBFF then
        match rest with
        | '\\' :: 'u' :: e :: f :: g :: h :: more =>
          match hex4? e f g h with
          | none => failAt .invalidEscape (pos + 12)
          | some m =>
            if m < 0xDC00 ∨ 0xDFFF < m then failAt .loneSurrogate (pos + 12)
            else
              stringBody (pos + 12) (Char.ofNat ((n - 0xD800) * 1024 + (m - 0xDC00) + 0x10000) :: acc)
                more
        | [] => failAt .eofString (pos + 6)
        | _ => failAt .loneSurrogate (pos + 7)
      else stringBody (pos + 6) (Char.ofNat n :: acc) rest
  | '\\' :: 'u' :: _ => failAt .eofString (pos + 2)
  | '\\' :: e :: rest =>
    let short : Option Char :=
      match e with
      | '"' => some '"'
      | '\\' => some '\\'
      | '/' => some '/'
      | 'b' => some (Char.ofNat 8)
      | 'f' => some (Char.ofNat 12)
      | 'n' => some '\n'
      | 'r' => some '\r'
      | 't' => some '\t'
      | _ => none
    match short with
    | some x => stringBody (pos + 2) (x :: acc) rest
    | none => failAt .invalidEscape (pos + 2)
  | ['\\'] => failAt .eofString (pos + 1)
  | x :: rest =>
    if x.toNat < 0x20 then failAt .controlCharacter (pos + 1)
    else stringBody (pos + x.utf8Size) (x :: acc) rest

def u64Max : Nat := Nat.pow 2 64 - 1

def i32Max : Int := Int.pow 2 31 - 1

/-- Folds digits into a significand while it stays within 64 bits: the significand, how many
digits were taken, and the rest. -/
def takeSignificand (sig : Nat) (taken : Nat) : List Char → Nat × Nat × List Char
  | [] => (sig, taken, [])
  | d :: rest =>
    if d.isDigit then
      let next := sig * 10 + (d.toNat - 48)
      if next > u64Max then (sig, taken, d :: rest) else takeSignificand next (taken + 1) rest
    else (sig, taken, d :: rest)

/-- The binary64 number a reader makes of `significand · 10 ^ exponent`, scaling the rounded
significand by the binary64 number nearest to the power of ten; `none` when it overflows. -/
def scaled (significand : Nat) (exponent : Int) : Option Binary64 :=
  let rec go : Nat → Binary64 → Int → Option Binary64
    | 0, f, _ => some f
    | fuel + 1, f, e =>
      if e.natAbs ≤ 308 then
        if 0 ≤ e then (Binary64.pow10 e.toNat).bind f.mul
        else (Binary64.pow10 e.natAbs).bind f.div
      else if f.isZero then some f
      else if 0 ≤ e then none
      else ((Binary64.pow10 308).bind f.div).bind (fun g => go fuel g (e + 308))
  (Binary64.ofNat significand).bind (fun f => go 4 f exponent)

def floatOf (positive : Bool) (significand : Nat) (exponent : Int) (c : Cursor) : Parsed Json :=
  match scaled significand exponent with
  | some f => .ok (.float (if positive then f else f.neg), c)
  | none => failAt .numberOutOfRange c.pos

/-- Reads the exponent of a number, at its `e`. An exponent beyond 32 bits is out of range for a
nonzero number with a positive exponent, and zero otherwise. -/
def exponentPart (positive : Bool) (significand : Nat) (start : Int) (c : Cursor) : Parsed Json :=
  let c := c.next
  let (positiveExp, c) := match c.rest with
    | '+' :: _ => (true, c.next)
    | '-' :: _ => (false, c.next)
    | _ => (true, c)
  let digits := c.rest.takeWhile Char.isDigit
  match digits with
  | [] => if c.rest.isEmpty then failAt .eofValue c.pos else failAt .invalidNumber (c.pos + 1)
  | _ =>
    let after : Cursor := ⟨c.rest.drop digits.length, c.pos + digits.length⟩
    -- the exponent, or the index of the digit that takes it beyond 32 bits
    let rec fold : Nat → Nat → List Char → Except Nat Nat
      | acc, _, [] => .ok acc
      | acc, i, d :: rest =>
        let next := acc * 10 + (d.toNat - 48)
        if (next : Int) > i32Max then .error i else fold next (i + 1) rest
    match fold 0 0 digits with
    | .error i =>
      if significand ≠ 0 ∧ positiveExp then failAt .numberOutOfRange (c.pos + i + 1)
      else .ok (.float (Binary64.zero (!positive)), after)
    | .ok e =>
      let final : Int := if positiveExp then start + e else start - e
      let final := max (min final i32Max) (-i32Max - 1)
      floatOf positive significand final after

/-- Reads the fraction of a number, at its point. Digits that no longer fit the significand are
dropped; at least one digit must follow the point. -/
def fractionPart (positive : Bool) (significand : Nat) (before : Int) (c : Cursor) : Parsed Json :=
  let c := c.next
  let digits := c.rest.takeWhile Char.isDigit
  let (sig, taken, _) := takeSignificand significand 0 digits
  if digits.isEmpty then
    if c.rest.isEmpty then failAt .eofValue c.pos else failAt .invalidNumber (c.pos + 1)
  else
    let after : Cursor := ⟨c.rest.drop digits.length, c.pos + digits.length⟩
    let exponent := before - taken
    match after.rest with
    | 'e' :: _ | 'E' :: _ => exponentPart positive sig exponent after
    | _ => floatOf positive sig exponent after

/-- Reads a number after its sign. -/
def number (positive : Bool) (c : Cursor) : Parsed Json :=
  let digits := c.rest.takeWhile Char.isDigit
  match digits with
  | [] => if c.rest.isEmpty then failAt .eofValue c.pos else failAt .invalidNumber (c.pos + 1)
  | '0' :: _ :: _ => failAt .invalidNumber (c.pos + 2)
  | _ =>
    let (sig, taken, _) := takeSignificand 0 0 digits
    let dropped := digits.length - taken
    let after : Cursor := ⟨c.rest.drop digits.length, c.pos + digits.length⟩
    match after.rest with
    | '.' :: _ => fractionPart positive sig dropped after
    | 'e' :: _ | 'E' :: _ => exponentPart positive sig dropped after
    | _ =>
      if dropped > 0 then floatOf positive sig dropped after
      else if positive then .ok (.int sig, after)
      else if sig = 0 then .ok (.float (Binary64.zero true), after)
      else if sig ≤ Nat.pow 2 63 then .ok (.int (-(sig : Int)), after)
      else floatOf false sig 0 after

/-- Reads one of the words `null`, `true` and `false`. -/
def word (w : String) (v : Json) (c : Cursor) : Parsed Json :=
  let ws := w.toList
  let got := c.rest.take ws.length
  let common := (got.zip ws).takeWhile (fun p => p.1 = p.2) |>.length
  if got = ws then .ok (v, ⟨c.rest.drop ws.length, c.pos + ws.length⟩)
  else if common = got.length then failAt .eofValue (c.pos + got.length)
  else failAt .expectedIdent (c.pos + common + 1)

def depthLimit : Nat := 128

mutual

/-- Reads a document; `depth` is how many more containers may be opened. -/
def value : Nat → Nat → Cursor → Parsed Json
  | 0, _, c => failAt .eofValue c.pos
  | fuel + 1, depth, c =>
    let c := c.skipBlank
    match c.rest with
    | [] => failAt .eofValue c.pos
    | 'n' :: _ => word "null" .null c
    | 't' :: _ => word "true" (.bool true) c
    | 'f' :: _ => word "false" (.bool false) c
    | '-' :: _ => number false c.next
    | '"' :: rest => (stringBody (c.pos + 1) [] rest).map (fun (s, c) => (.str s, c))
    | '[' :: _ =>
      if depth ≤ 1 then failAt .recursionLimit (c.pos + 1)
      else items fuel (depth - 1) c.next [] true
    | '\x7b' :: _ =>
      if depth ≤ 1 then failAt .recursionLimit (c.pos + 1)
      else members fuel (depth - 1) c.next [] true
    | x :: _ =>
      if x.isDigit then number true c else failAt .expectedValue c.peekOffset

/-- Reads the items of an array after its opening bracket or after an item. -/
def items : Nat → Nat → Cursor → List Json → Bool → Parsed Json
  | 0, _, c, _, _ => failAt .eofList c.pos
  | fuel + 1, depth, c, acc, first =>
    let c := c.skipBlank
    match c.rest with
    | [] => failAt .eofList c.pos
    | ']' :: _ => .ok (.arr acc.reverse, c.next)
    | x :: _ =>
      if first then
        match value fuel depth c with
        | .ok (v, c) => items fuel depth c (v :: acc) false
        | .error e => .error e
      else if x = ',' then
        let c := c.next.skipBlank
        match c.rest with
        | [] => failAt .eofValue c.pos
        | ']' :: _ => failAt .trailingComma c.peekOffset
        | _ =>
          match value fuel depth c with
          | .ok (v, c) => items fuel depth c (v :: acc) false
          | .error e => .error e
      else failAt .expectedListEnd c.peekOffset

/-- Reads the members of an object after its opening brace or after a member. -/
def members : Nat → Nat → Cursor → List (String × Json) → Bool → Parsed Json
  | 0, _, c, _, _ => failAt .eofObject c.pos
  | fuel + 1, depth, c, acc, first =>
    let c := c.skipBlank
    let member (c : Cursor) : Parsed Json :=
      match c.rest with
      | '"' :: rest =>
        match stringBody (c.pos + 1) [] rest with
        | .error e => .error e
        | .ok (k, c) =>
          let c := c.skipBlank
          match c.rest with
          | ':' :: _ =>
            match value fuel depth c.next with
            | .ok (v, c) => members fuel depth c (acc ++ [(k, v)]) false
            | .error e => .error e
          | [] => failAt .eofObject c.pos
          | _ => failAt .expectedColon c.peekOffset
      | [] => failAt .eofValue c.pos
      | _ => failAt .keyNotString c.peekOffset
    match c.rest with
    | [] => failAt .eofObject c.pos
    | '\x7d' :: _ => .ok (Json.mkObj acc, c.next)
    | x :: _ =>
      if first then member c
      else if x = ',' then
        let c := c.next.skipBlank
        match c.rest with
        | '\x7d' :: _ => failAt .trailingComma c.peekOffset
        | _ => member c
      else failAt .expectedObjectEnd c.peekOffset

end

/-- The line and column of a byte offset in a text: lines count from one, and the column is
the number of bytes between the last line break before the offset and the offset. -/
def lineColumn (text : List Char) (offset : Nat) : Nat × Nat :=
  let rec go : List Char → Nat → Nat → Nat → Nat × Nat
    | [], _, line, lineStart => (line, offset - lineStart)
    | x :: rest, pos, line, lineStart =>
      if pos ≥ offset then (line, offset - lineStart)
      else if x = '\n' then go rest (pos + 1) (line + 1) (pos + 1)
      else go rest (pos + x.utf8Size) line lineStart
  go text 0 1 0

/-- Reads a whole text as one document, or says why it is not one. -/
def parse (s : String) : Except String Json :=
  let cs := s.toList
  let fail (f : ParseFailure) : Except String Json :=
    let (line, column) := lineColumn cs f.offset
    .error (f.error.text ++ " at line " ++ toString line ++ " column " ++ toString column)
  match value (3 * (cs.length + 2)) depthLimit ⟨cs, 0⟩ with
  | .error f => fail f
  | .ok (v, c) =>
    let c := c.skipBlank
    if c.rest.isEmpty then .ok v else fail ⟨.trailingCharacters, c.peekOffset⟩

end Json

end Chronicle
