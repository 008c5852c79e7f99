import Chronicle.Json.Value
import Chronicle.Binary64.Text
import Chronicle.Text.Printable
import Chronicle.Text.GraphemeExtend

/-! Why a document does not read as a value, and how each cause is worded. -/

namespace Chronicle

/-- The kind of value a reader met where it wanted another. -/
inductive Unexpected where
  | null
  | bool (b : Bool)
  | int (n : Int)
  | float (x : Binary64)
  | str (s : String)
  | seq
  | map
  deriving DecidableEq

namespace Unexpected

def hexText (n : Nat) : String :=
  String.ofList (Nat.toDigits 16 n)

def isHidden (c : Char) : Bool :=
  GraphemeExtend.isExtending c || !Printable.isPrintable c

/-- One character of a text quoted for a diagnostic. -/
def quoteChar (c : Char) : String :=
  if c = '"' then "\\\""
  else if c = '\\' then "\\\\"
  else if c = '\n' then "\\n"
  else if c = '\r' then "\\r"
  else if c = '\t' then "\\t"
  else if c.toNat = 0 then "\\0"
  else if isHidden c then "\\u\x7b" ++ hexText c.toNat ++ "\x7d"
  else c.toString

def quoted (s : String) : String :=
  "\"" ++ String.join (s.toList.map quoteChar) ++ "\""

def floatStyle : Binary64.Style := ⟨-5, 16, true, 1⟩

/-- How a diagnostic names the value met. -/
def text : Unexpected → String
  | .null => "null"
  | .bool b => "boolean `" ++ (if b then "true" else "false") ++ "`"
  | .int n => "integer `" ++ toString n ++ "`"
  | .float x => "floating point `" ++ Binary64.write floatStyle x ++ "`"
  | .str s => "string " ++ quoted s
  | .seq => "sequence"
  | .map => "map"

end Unexpected

/-- The kind of a document, as a reader that wanted another names it. -/
def Json.unexpected : Json → Unexpected
  | .null => .null
  | .bool b => .bool b
  | .int n => .int n
  | .float x => .float x
  | .str s => .str s
  | .arr _ => .seq
  | .obj _ => .map
  | .clock => .str "<now>"

/-- Why a document does not read as the value asked for. -/
inductive DecodeFailure where
  | invalidType (got : Unexpected) (expected : String)
  | invalidValue (got : Unexpected) (expected : String)
  | missingField (name : String)
  | unknownVariant (name : String) (known : List String)
  | invalidLength (len : Nat) (expected : String)
  | custom (message : String)
  deriving DecidableEq

namespace DecodeFailure

def oneOf : List String → String
  | [] => "nothing"
  | [a] => "`" ++ a ++ "`"
  | [a, b] => "`" ++ a ++ "` or `" ++ b ++ "`"
  | names => "one of " ++ ", ".intercalate (names.map (fun n => "`" ++ n ++ "`"))

/-- The text of a failure. -/
def message : DecodeFailure → String
  | .invalidType got e => "invalid type: " ++ got.text ++ ", expected " ++ e
  | .invalidValue got e => "invalid value: " ++ got.text ++ ", expected " ++ e
  | .missingField n => "missing field `" ++ n ++ "`"
  | .unknownVariant n [] => "unknown variant `" ++ n ++ "`, there are no variants"
  | .unknownVariant n known => "unknown variant `" ++ n ++ "`, expected " ++ oneOf known
  | .invalidLength n e => "invalid length " ++ toString n ++ ", expected " ++ e
  | .custom m => m

end DecodeFailure

/-- A reader of typed values out of documents. -/
abbrev Decoded (α : Type) := Except DecodeFailure α

end Chronicle
