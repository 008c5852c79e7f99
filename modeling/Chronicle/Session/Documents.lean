import Chronicle.Session.Shapes
import Chronicle.Client.State
import Chronicle.User.State
import Chronicle.Journal.Entry

/-! Answers about documents as they arrive from outside. -/

namespace Chronicle

namespace Documents

/-- An envelope checked every way: its target, its addressee, and the command each record
kind reads from it. -/
def envelope (req : Json) : Answered Json := do
  let e ← Request.typed "BadEnvelope" Envelope.read (← Request.need req "envelope")
  let okOr {α : Type} (r : Except EnvelopeError α) (shown : α → Json) : Json :=
    match r with
    | .ok v => Json.mkObj [("ok", shown v)]
    | .error err => err.toJson
  pure (Json.mkObj [("require_id", okOr e.requireId (fun u => .str u.render)),
    ("expect_client", okOr (e.expectKind .client) (fun _ => .bool true)),
    ("expect_user", okOr (e.expectKind .user) (fun _ => .bool true)),
    ("client", Shapes.fromEnvelope ClientState e), ("user", Shapes.fromEnvelope UserState e)])

def readBack (κ : Type) [Logged κ] (entry : Json) : Json :=
  match decodeEntry κ entry with
  | .ok (.command c) => Json.mkObj [("command", Logged.toJson c), ("class", .str (Logged.cls c))]
  | .ok (.setting s) => Json.mkObj [("setting", s.toJson), ("class", .str s.cls)]
  | .error e => e.toJson

def decode (req : Json) : Answered Json := do
  let entry ← Request.need req "entry"
  pure (Json.mkObj [("client", readBack (Command ClientState) entry),
    ("user", readBack (Command UserState) entry), ("list", readBack ListCommand entry)])

/-- The listing command an event calls for. -/
def fromEvent (req : Json) : Answered Json := do
  let l ← match req.field? "list" with
    | none | some .null => pure ({} : Listing)
    | some j => Request.typed "BadInput" (Listing.read .document) j
  let e ← Shapes.readEvent (← Request.need req "event")
  pure (Json.mkObj [("command", Json.ofOption ((ListCommand.ofEvent e l).map ListCommand.toJson))])

/-- A version a writer expects: `null` for any, else a sequence number. -/
def readExpected (j : Json) : Answered ExpectedVersion :=
  match j with
  | .null => .ok .any
  | other => match Read.u64 other with
    | .ok n => .ok (.exact n)
    | .error _ => .error (badInput "expected must be null or u64")

/-- The document of what recovery reads of a log. -/
def recoveryJson (pid : String) (r : Recovery) : Json :=
  Json.mkObj [("snapshot", Json.ofOption (r.snapshot.map (fun s => Json.mkObj
      [("sequence_nr", .ofNat s.sequenceNr), ("state", s.state), ("persistence_id", .str pid)]))),
    ("entries", .arr (r.entries.map (fun e => Json.mkObj [("sequence_nr", .ofNat e.sequenceNr),
      ("class", .str e.cls), ("payload", e.payload), ("persistence_id", .str pid)]))),
    ("last_sequence_nr", .ofNat r.lastSequenceNr)]

def journalVerbs : List String := ["append", "read_all", "save_snapshot", "len", "persistence_ids"]

/-- One journal step and its answer. -/
def journalStep (j : Journal) (step : Json) : Json × Journal :=
  match Request.pick journalVerbs step with
  | some ("append", a) =>
    match (do
        let pid ← Request.needText a "pid"
        let expected ← readExpected ((a.field? "expected").getD .null)
        let entry ← Request.need a "entry"
        pure (pid, expected, entry) : Answered _) with
    | .error e => (e, j)
    | .ok (pid, expected, entry) =>
      let (r, j2) := j.append pid expected entry
      (match r with
        | .ok n => Json.mkObj [("sequence_nr", .ofNat n)]
        | .error e => e.toJson, j2)
  | some ("read_all", .str pid) => (recoveryJson pid (j.readAll pid), j)
  | some ("read_all", _) => (badInput "read_all takes a pid", j)
  | some ("save_snapshot", a) =>
    match (do
        let pid ← Request.needText a "pid"
        let seq ← Request.needAs a "sequence_nr" Read.u64
        let state ← Request.need a "state"
        pure (pid, seq, state) : Answered _) with
    | .error e => (e, j)
    | .ok (pid, seq, state) =>
      let (r, j2) := j.saveSnapshot pid seq state
      (match r with
        | .ok () => Json.mkObj [("ok", .bool true)]
        | .error e => e.toJson, j2)
  | some ("len", .str pid) => (Json.mkObj [("len", .ofNat (j.len pid))], j)
  | some ("len", _) => (badInput "len takes a pid", j)
  | some ("persistence_ids", _) =>
    (Json.mkObj [("persistence_ids", .arr (j.persistenceIds.map .str))], j)
  | _ => (badInput "unknown journal step", j)

/-- A journal driven step by step. -/
def journal (req : Json) : Answered Json := do
  let steps ← Request.steps req
  let (answers, _) := steps.foldl (fun (acc : List Json × Journal) st =>
    let (a, j) := journalStep acc.2 st
    (acc.1 ++ [a], j)) ([], {})
  pure (Json.mkObj [("steps", .arr answers)])

end Documents

end Chronicle
