import Chronicle.Session.Shapes
import Chronicle.Client.State
import Chronicle.User.State
import Chronicle.Core.IdSource
import Chronicle.Journal.Entry

/-! Deciding and replaying by hand. -/

namespace Chronicle

namespace Decisions

/-- What the walk-through needs to know about one kind of aggregate. -/
structure Kind (α κ : Type) where
  readCommand : Json → Decoded κ
  commandJson : κ → Json
  describe : κ → Json
  stateJson : α → Json
  summary : α → Json
  readState : Json → Decoded α
  retarget : Option (Uuid → κ → κ)

def recordKind (σ : Type) [Record σ] : Kind σ (Command σ) :=
  ⟨Command.read, Command.toJson, Shapes.describe, Record.toJson, Shapes.summary,
   Record.read .document, some Command.withTarget⟩

def listingKind : Kind Listing ListCommand :=
  ⟨ListCommand.read, ListCommand.toJson, Shapes.describeListCommand, Listing.toJson,
   fun l => Json.mkObj [("count", .ofNat l.items.length)], Listing.read .document, none⟩

variable {α κ : Type} [Aggregate α κ]

def verbs : List String :=
  ["handle", "apply", "exec", "rehydrate", "describe", "with_target", "set_state"]

/-- One step: its answer (without the state) and the state after it. -/
def step (k : Kind α κ) (now : Instant) (s : α) (st : Json) : Answered (List (String × Json)) × α :=
  let cmd (j : Json) : Answered κ := Request.typed "BadCommand" k.readCommand j
  match Request.pick verbs st with
  | some ("handle", j) =>
    (do let c ← cmd j
        match Aggregate.handle now s c with
        | .ok e => pure [("entry", k.commandJson e)]
        | .error e => throw e.toJson, s)
  | some ("apply", j) =>
    match cmd j with
    | .ok c => (.ok [("applied", .bool true)], Aggregate.apply s c)
    | .error e => (.error e, s)
  | some ("exec", j) =>
    match cmd j with
    | .ok c =>
      match Aggregate.handle now s c with
      | .ok e => (.ok [("entry", k.commandJson e)], Aggregate.apply s e)
      | .error e => (.error e.toJson, s)
    | .error e => (.error e, s)
  | some ("rehydrate", j) =>
    match j with
    | .arr items =>
      match items.mapM cmd with
      | .ok cs => (.ok [("rehydrated", .ofNat cs.length)], Aggregate.rehydrate s cs)
      | .error e => (.error e, s)
    | _ => (.error (badInput "rehydrate takes a list"), s)
  | some ("describe", j) =>
    ((cmd j).map (fun c => match k.describe c with
      | .obj ms => ms
      | other => [("description", other)]), s)
  | some ("with_target", j) =>
    (do let c ← match j.field? "command" with
          | some v => cmd v
          | none => throw (badInput "with_target takes command and id")
        let id ← match j.field? "id" with
          | some v => Request.typed "BadInput" Read.uuid v
          | none => throw (badInput "with_target takes command and id")
        match k.retarget with
        | some retarget => pure [("command", k.commandJson (retarget id c))]
        | none => throw (badInput "with_target is not available for List"), s)
  | some ("set_state", j) =>
    match Request.typed "BadState" k.readState j with
    | .ok s2 => (.ok [("set", .bool true)], s2)
    | .error e => (.error e, s)
  | _ => (.error (badInput "unknown aggregate step"), s)

/-- The answer of a step with the state after it and its summary. -/
def withState (k : Kind α κ) (r : Answered (List (String × Json))) (s : α) : Json :=
  let extra := [("state", k.stateJson s), ("summary", k.summary s)]
  match r with
  | .ok ms => Json.mkObj (ms ++ extra)
  | .error (.obj ms) => Json.mkObj (ms ++ extra)
  | .error other => other

/-- Runs the steps of a walk-through from a starting state. -/
def run (k : Kind α κ) (now : Instant) (req : Json) : Answered Json := do
  let start ← match req.field? "state" with
    | none | some .null => pure (Aggregate.empty : α)
    | some j => Request.typed "BadState" k.readState j
  let steps ← Request.steps req
  let (answers, _) := steps.foldl (fun (acc : List Json × α) st =>
    let (r, s2) := step k now acc.2 st
    (acc.1 ++ [withState k r s2], s2)) ([], start)
  pure (Json.mkObj [("steps", .arr answers)])

/-- Answers a walk-through request for the named kind. -/
def answer (now : Instant) (req : Json) : Json :=
  Answered.merge (do
    let entity ← Request.needText req "entity"
    match entity with
    | "Client" => run (recordKind ClientState) now req
    | "User" => run (recordKind UserState) now req
    | "List" => run listingKind now req
    | other => throw (badInput ("unknown entity '" ++ other ++ "'")))

end Decisions

end Chronicle
