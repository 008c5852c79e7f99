import Chronicle.Codec.Read
import Chronicle.Core.Error
import Chronicle.Event.Envelope
import Chronicle.Journal.Entry

/-! Requests, and how a session refuses them. -/

namespace Chronicle

def refusal (kind message : String) : Json :=
  Json.mkObj [("error", .str kind), ("message", .str message)]

def badInput (message : String) : Json := refusal "BadInput" message

def DomainError.toJson (e : DomainError) : Json :=
  Json.mkObj [("error", .str e.kind), ("message", .str e.message), ("reason", .str e.reason)]

def EnvelopeError.toJson (e : EnvelopeError) : Json := refusal e.kind e.message

def EntryError.toJson (e : EntryError) : Json :=
  Json.mkObj [("error", .str e.kind), ("message", .str e.message), ("class", Json.ofStr? e.cls?)]

def JournalError.toJson (e : JournalError) : Json := refusal e.kind e.message

/-- A step of answering: a value, or the refusal document that answers instead. -/
abbrev Answered (α : Type) := Except Json α

namespace Request

def need (req : Json) (k : String) : Answered Json :=
  match req.field? k with
  | some v => .ok v
  | none => .error (badInput ("missing field '" ++ k ++ "'"))

def typed (kind : String) (r : Json → Decoded α) (j : Json) : Answered α :=
  match r j with
  | .ok v => .ok v
  | .error f => .error (refusal kind f.message)

def needAs (req : Json) (k : String) (r : Json → Decoded α) : Answered α := do
  typed "BadInput" r (← need req k)

def optAs (req : Json) (k : String) (r : Json → Decoded α) : Answered (Option α) :=
  match req.field? k with
  | none | some .null => .ok none
  | some v => (typed "BadInput" r v).map some

def presentAs (req : Json) (k : String) (r : Json → Decoded α) : Answered (Option α) :=
  match req.field? k with
  | none => .ok none
  | some v => (typed "BadInput" r v).map some

def flag (req : Json) (k : String) (d : Bool) : Bool :=
  ((req.field? k).bind Json.bool?).getD d

def text? (req : Json) (k : String) : Option String :=
  (req.field? k).bind Json.str?

def strOr (req : Json) (k : String) (d : String) : Answered String :=
  .ok ((text? req k).getD d)

def nat? (req : Json) (k : String) : Option Nat :=
  (req.field? k).bind Json.nat?

/-- A required member that must be an unsigned integer. -/
def needNat (req : Json) (k : String) : Answered Nat :=
  match req.field? k with
  | none => .error (badInput ("missing field '" ++ k ++ "'"))
  | some v =>
    match v.nat? with
    | some n => .ok n
    | none => .error (badInput ("field '" ++ k ++ "' must be an unsigned integer"))

/-- A member that, unless absent or `null`, must be an unsigned integer. -/
def optNat (req : Json) (k : String) : Answered (Option Nat) :=
  match req.field? k with
  | none | some .null => .ok none
  | some v =>
    match v.nat? with
    | some n => .ok (some n)
    | none => .error (badInput ("field '" ++ k ++ "' must be an unsigned integer"))

/-- A required member that must be a string. -/
def needText (req : Json) (k : String) : Answered String :=
  match req.field? k with
  | none => .error (badInput ("missing field '" ++ k ++ "'"))
  | some v =>
    match v.str? with
    | some s => .ok s
    | none => .error (badInput ("field '" ++ k ++ "' must be a string"))

def steps (req : Json) : Answered (List Json) :=
  match req.field? "steps" with
  | some (.arr xs) => .ok xs
  | _ => .error (badInput "steps must be a list")

def verb (step : Json) : Option (String × Json) :=
  match step with
  | .obj [(k, v)] => some (k, v)
  | .obj ((k, v) :: _) => some (k, v)
  | _ => none

def pick (verbs : List String) (step : Json) : Option (String × Json) :=
  verbs.findSome? (fun v => (step.field? v).map (fun a => (v, a)))

def leastMember (ms : List (String × Json)) : Option (String × Json) :=
  ms.foldl (fun acc m => match acc with
    | some a => if m.1 < a.1 then some m else some a
    | none => some m) none

/-- The verb of a step: the first of `verbs` that the step has, in their order, a verb in
`named` counting only when its value is a string; or else the step's least key other than
those in `aside`. The verb comes with its value. -/
def stepVerb (verbs named aside : List String) (step : Json) : Option (String × Json) :=
  let fixed := verbs.findSome? (fun v => (step.field? v).bind (fun a =>
    if named.contains v && a.str?.isNone then none else some (v, a)))
  match fixed with
  | some p => some p
  | none =>
    match step with
    | .obj ms => leastMember (ms.filter (fun m => !aside.contains m.1))
    | _ => none

def stepName (body : Json) : Answered String :=
  match body with
  | .str s => .ok s
  | .obj _ => needText body "unit"
  | _ => .error (badInput "step body must be a unit name or an object")

end Request

def Answered.merge : Answered Json → Json
  | .ok j => j
  | .error j => j

end Chronicle
