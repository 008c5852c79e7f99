import Chronicle.Session.Shapes
import Chronicle.Client.State
import Chronicle.User.State
import Chronicle.Core.IdSource
import Chronicle.Unit.Config
import Chronicle.Unit.Stash
import Chronicle.Event.Subscribers

/-! Answers about single values. -/

namespace Chronicle

namespace Misc

/-- Reads a span written as `[seconds, nanoseconds]`, the seconds an unsigned integer and the
nanoseconds an unsigned integer below `10 ^ 9`. -/
def readDuration (j : Json) : Answered Duration :=
  match j with
  | .arr [s, n] => do
    let secs ← match s.nat? with
      | some v =>
        if v < Nat.pow 2 64 then pure v else throw (badInput "duration seconds must be u64")
      | none => throw (badInput "duration seconds must be u64")
    match n.nat? with
    | some nanos =>
      if nanos < 1000000000 then pure (Duration.ofParts secs nanos)
      else throw (badInput "duration nanos must be < 1e9")
    | none => throw (badInput "duration nanos must be < 1e9")
  | _ => .error (badInput "duration must be [secs, nanos]")

/-- An identifier read from text, as the domain refuses it. -/
def entityId (req : Json) : Answered Json := do
  let text ← Request.needText req "text"
  let conversions := Request.flag req "conversions" false
  match Uuid.parse text with
  | .error e => pure (DomainError.invalidId ("EntityId: " ++ e.message)).toJson
  | .ok u =>
    let shown := Json.str u.render
    pure (Json.mkObj ([("ok", shown), ("uuid", shown)] ++
      if conversions then [("from_uuid", shown), ("from", .bool true)] else []))

/-- Fresh identifiers, then as many fresh addresses. -/
def newIds (req : Json) (ids : IdSource) : Answered (Json × IdSource) := do
  let count := min (← Request.needNat req "count") 100
  let draw (n : Nat) (src : IdSource) : List Uuid × IdSource :=
    (List.range n).foldl (fun acc _ => let (u, s) := acc.2.fresh; (acc.1 ++ [u], s)) ([], src)
  let (made, ids) := draw count ids
  let (addrs, ids) := draw count ids
  let ascending (xs : List Uuid) : Bool := (xs.zip xs.tail).all (fun p => p.1 < p.2)
  pure (Json.mkObj [("ids", .arr (made.map (.str ·.render))), ("ids_sorted", .bool (ascending made)),
    ("addresses", .arr (addrs.map (.str ·.render))),
    ("addresses_sorted", .bool (ascending addrs))], ids)

/-- The five commands of each record kind built from a name, a target and an issuer. -/
def commands (req : Json) : Answered Json := do
  let name ← Request.needText req "name"
  let id ← Request.needAs req "id" Read.uuid
  let issuer ← Request.needAs req "meta" (CommandMeta.read .document)
  let five (σ : Type) [Record σ] (named : σ) : Json :=
    .arr ([Command.insert ⟨none, named, issuer⟩, .update ⟨some id, named, issuer⟩,
      .upsert ⟨some id, named, issuer⟩, .delete ⟨id, issuer⟩, .undelete ⟨id, issuer⟩].map
      Shapes.describe)
  pure (Json.mkObj [("client", five ClientState (ClientState.named name)),
    ("user", five UserState (UserState.named name))])

/-- An envelope built from its parts, and the command each record kind reads from it. -/
def envelopeBuilder (req : Json) : Answered Json := do
  let k ← Request.needAs req "entity_type" EntityType.read
  let t ← Request.needAs req "command_type" CommandType.read
  let issuer ← Request.needAs req "meta" (CommandMeta.read .document)
  let id ← Request.presentAs req "id" Read.uuid
  let payload := req.field? "payload"
  let e := Envelope.new k t issuer
  let e := match id with
    | some i => e.withId i
    | none => e
  let e := match payload with
    | some p => e.withPayload p
    | none => e
  pure (Json.mkObj [("envelope", e.toJson), ("client", Shapes.fromEnvelope ClientState e),
    ("user", Shapes.fromEnvelope UserState e)])

/-- A permission built from an area and roles, with role checks. -/
def permission (req : Json) : Answered Json := do
  let area ← Request.needText req "area"
  let roles ← Request.needAs req "roles" (Read.list Read.string)
  let probes := (← Request.presentAs req "probe" (Read.list Read.string)).getD []
  let p := Permission.ofRoles area roles
  pure (Json.mkObj [("permission", p.toJson),
    ("well_known", .arr (Permission.wellKnown.map (fun w =>
      Json.mkObj [("as_str", .str w.2), ("display", .str w.2)]))),
    ("has_well_known", .arr (Permission.wellKnown.map (fun w => .bool (p.hasRole w.2)))),
    ("has", .arr (probes.map (fun r => .bool (p.hasRole r))))])

/-- The logging configuration: the default, and one with a filter or a pretty format. -/
def observability (req : Json) : Answered Json := do
  let filter := Request.text? req "filter"
  let pretty := Request.flag req "pretty" false
  let shown (f : String) (json : Bool) : Json :=
    Json.mkObj [("default_filter", .str f), ("json", .bool json)]
  pure (Json.mkObj [("default", shown "info" true),
    ("config", shown (filter.getD "info") (!pretty)), ("installed", .bool false)])

def entityMessages : List String :=
  ["Execute", "GetState", "Subscribe", "Unsubscribe", "ForceSnapshot", "Configure", "Status", "Stop"]

/-- A domain refusal of the named cause. -/
def domainError (req : Json) : Answered Json := do
  let kind ← Request.needText req "kind"
  let text ← Request.needText req "text"
  let e ← match kind with
    | "validation" => pure (DomainError.validation text)
    | "conflict" => pure (.conflict text)
    | "invariant" => pure (.invariant text)
    | "invalid_id" => pure (.invalidId text)
    | "not_found" => pure (.notFound text)
    | other => throw (badInput ("unknown domain error kind '" ++ other ++ "'"))
  pure e.toJson

/-- A version check. -/
def expectedVersion (req : Json) : Answered Json := do
  let expected ← match req.field? "expected" with
    | none | some .null => pure ExpectedVersion.any
    | some v => match Read.u64 v with
      | .ok n => pure (.exact n)
      | .error _ => throw (badInput "expected must be null or u64")
  let actual ← Request.needAs req "actual" Read.u64
  pure (Json.mkObj [("matches", .bool (expected.accepts actual)),
    ("check", match expected.check actual with
      | .ok () => Json.mkObj [("ok", .bool true)]
      | .error e => e.toJson)])

/-- The waits of a backoff for a list of attempts. -/
def backoff (req : Json) : Answered Json := do
  let step ← readDuration (← Request.need req "step")
  let cap ← readDuration (← Request.need req "cap")
  let attempts ← Request.needAs req "attempts" (Read.list pure)
  let attempts ← attempts.mapM (fun a => match a.nat? with
    | some n => if n < Nat.pow 2 32 then .ok n else .error (badInput "attempt must be u32")
    | none => .error (badInput "attempt must be u32"))
  let b : Backoff := ⟨step, cap⟩
  pure (Json.mkObj [("delays", .arr (attempts.map (fun n => (b.delay n).toJson)))])

def persistenceId (req : Json) : Answered Json := do
  let k ← Request.needAs req "entity_type" EntityType.read
  let id ← Request.presentAs req "id" Read.uuid
  pure (Json.mkObj [("list", .str (k.stem ++ "-list")),
    ("entity", Json.ofOption (id.map (fun u => .str (k.stem ++ "-" ++ u.render))))])

def payloadAs (σ : Type) [Record σ] (p : Json) : Json :=
  match (Record.read .document p : Decoded σ) with
  | .ok s => Record.toJson s
  | .error f => refusal "Payload" f.message

/-- An event built from a description, with its payload read as each record kind. -/
def event (req : Json) : Answered Json := do
  let e ← Shapes.readEvent (← Request.need req "event")
  let occurred := Request.flag req "occurred_at" false
  pure (Json.mkObj ([("event", e.toJson), ("is_failure", .bool e.isFailure), ("version", .int 1),
    ("as_client", payloadAs ClientState e.payload), ("as_user", payloadAs UserState e.payload)] ++
    if occurred then [("occurred_at_is_field", .bool true)] else []))

def issuer (req : Json) : Answered Json := do
  let user ← Request.needText req "acting_user"
  let conn ← Request.needText req "connection_id"
  let hint := Request.text? req "field_hint"
  pure (Json.mkObj [("meta", (CommandMeta.toJson ⟨user, conn, hint⟩))])

/-- A record read and written back, with its summary. -/
def state (req : Json) : Answered Json := do
  let entity ← Request.needText req "entity"
  let doc ← Request.need req "state"
  let shown (σ : Type) [Record σ] : Answered Json := do
    let s : σ ← Request.typed "BadState" (Record.read .document) doc
    pure (Json.mkObj [("state", Record.toJson s), ("summary", Shapes.summary s)])
  match entity with
  | "Client" => shown ClientState
  | "User" => shown UserState
  | other => throw (badInput ("unknown entity '" ++ other ++ "'"))

def configVerbs : List String :=
  ["with_snapshot_trigger_count", "with_inactivity_flush", "with_stash_capacity",
    "with_strict_recovery", "setting"]

/-- One step of building a unit configuration: the configuration after it, or an answer for
the step that leaves the configuration as it was. -/
def configStep (c : UnitConfig) (step : Json) : Answered (Except Json UnitConfig) :=
  match Request.pick configVerbs step with
  | some ("with_snapshot_trigger_count", v) =>
    match v.nat? with
    | some n =>
      if n < Nat.pow 2 32 then .ok (.ok (c.withSnapshotTriggerCount n)) else .error (badInput "u32")
    | none => .error (badInput "u32")
  | some ("with_inactivity_flush", v) => do pure (.ok (c.withInactivityFlush (← readDuration v)))
  | some ("with_stash_capacity", v) =>
    match v.nat? with
    | some n => .ok (.ok (c.withStashCapacity n))
    | none => .error (badInput "usize")
  | some ("with_strict_recovery", v) =>
    match v.bool? with
    | some b => .ok (.ok (c.withStrictRecovery b))
    | none => .error (badInput "bool")
  | some (_, v) =>
    match (Request.typed "BadSetting" UnitSetting.read v : Answered UnitSetting) with
    | .ok s => .ok (.ok (c.apply s))
    | .error e => .ok (.error e)
  | none => .error (badInput "unknown unit_config step")

/-- Unit configurations built step by step; a step that does not read ends the walk with its
refusal, except a setting that does not read, which is answered in its place. -/
def unitConfig (req : Json) : Answered Json := do
  let steps ← Request.steps req
  let (answers, _) ← steps.foldlM (fun (acc : List Json × UnitConfig) step => do
    match ← configStep acc.2 step with
    | .ok c2 => pure (acc.1 ++ [c2.toJson], c2)
    | .error e => pure (acc.1 ++ [e], acc.2)) ([], {})
  pure (Json.mkObj [("steps", .arr answers)])

/-- A supervisor configuration read from environment variables. -/
def configEnv (req : Json) : Answered Json := do
  let env ← Request.needAs req "env" (Read.map .ok Read.string)
  let valid (e : String × String) : Bool :=
    !e.1.isEmpty && !e.1.contains '=' && !e.1.contains (Char.ofNat 0) && !e.2.contains (Char.ofNat 0)
  if !env.all valid then throw (badInput "invalid env entry")
  pure (Json.mkObj [("supervisor", (Setting.fromEnv (fun k => env.lookup k)).toJson)])

/-- A stash driven step by step; a step that is neither a push nor a take ends the walk. -/
def stash (req : Json) : Answered Json := do
  let capacity ← Request.optAs req "capacity" Read.usize
  let steps ← Request.steps req
  let (answers, _) ← steps.foldlM (fun (acc : List Json × Stash Json) step => do
    let s := acc.2
    match Request.pick ["push", "take_all"] step with
    | some ("push", v) =>
      match s.push v with
      | .ok s2 => pure (acc.1 ++ [Json.mkObj [("ok", .bool true), ("len", .ofNat s2.size)]], s2)
      | .error m => pure (acc.1 ++ [Json.mkObj [("refused", m), ("len", .ofNat s.size)]], s)
    | some _ =>
      let (taken, s2) := s.takeAll
      pure (acc.1 ++ [Json.mkObj [("taken", .arr taken), ("len", .ofNat s2.size),
        ("is_empty", .bool (s2.size = 0))]], s2)
    | none => throw (badInput "unknown stash step")) ([], Stash.empty capacity)
  pure (Json.mkObj [("steps", .arr answers)])

/-- A recipient of the subscriber walk-through: a name and the subscription that made it. -/
structure Tap where
  name : String
  generation : Nat

/-- The state of the subscriber walk-through: the set, the subscriptions made, and the
recipients that refuse deliveries. -/
structure Taps where
  set : SubscriberSet Tap := {}
  made : Nat := 0
  dead : List (String × Nat) := []

def group (name : String) : String :=
  (name.splitOn "#").headD name

def tapVerb (step : Json) : Option (String × Json) :=
  let named (v : String) : Option (String × Json) :=
    ((step.field? v).bind Json.str?).map (fun n => (v, .str n))
  (named "subscribe" <|> named "unsubscribe" <|> named "kill" <|>
    (step.field? "publish").map (fun v => ("publish", v)))

/-- One step of the subscriber walk-through and its answer. Killing a name makes every
recipient of its group refuse deliveries. -/
def tapStep (t : Taps) (step : Json) : Answered (Json × Taps) :=
  match tapVerb step with
  | some ("subscribe", .str n) =>
    let g := t.made + 1
    let (set, fresh) := t.set.subscribe Tap.name ⟨n, g⟩
    .ok (Json.mkObj [("new", .bool fresh), ("generation", .ofNat g), ("len", .ofNat set.size)],
      { t with set := set, made := g })
  | some ("unsubscribe", .str n) =>
    let (set, removed) := t.set.unsubscribe Tap.name n
    .ok (Json.mkObj [("removed", .bool removed), ("len", .ofNat set.size)], { t with set := set })
  | some ("kill", .str n) =>
    let killed := (t.set.members.filter (fun r => group r.name = n)).map
      (fun r => (r.name, r.generation))
    .ok (Json.mkObj [("killed", .str n)], { t with dead := t.dead ++ killed })
  | some ("publish", v) =>
    match v.nat? with
    | none => .error (badInput "publish takes u64")
    | some _ =>
      let deliver (r : Tap) : StateM (List Json) Bool := do
        if t.dead.contains (r.name, r.generation) then pure false
        else
          modify (· ++ [Json.arr [.str r.name, .ofNat r.generation, v]])
          pure true
      let (set, delivered) := (t.set.publish deliver).run []
      .ok (Json.mkObj [("accepted", .ofNat set.size), ("len", .ofNat set.size),
        ("is_empty", .bool (set.size = 0)), ("delivered", .arr delivered)], { t with set := set })
  | _ => .error (badInput "unknown subscribers step")

/-- A subscriber set driven step by step; a step that does not read ends the walk. -/
def subscribers (req : Json) : Answered Json := do
  let steps ← Request.steps req
  let (answers, _) ← steps.foldlM (fun (acc : List Json × Taps) step => do
    let (a, t) ← tapStep acc.2 step
    pure (acc.1 ++ [a], t)) ([], {})
  pure (Json.mkObj [("steps", .arr answers)])

/-- A reply sent through each kind of reply channel. -/
def reply (req : Json) : Answered Json := do
  let kind ← Request.needText req "kind"
  let value := Json.ofNat (← Request.needNat req "value")
  match kind with
  | "ignore" => pure (Json.mkObj [("sent", .bool true)])
  | "once" => pure (Json.mkObj [("sent", .bool true), ("received", value)])
  | "once_dropped" => pure (Json.mkObj [("sent", .bool false)])
  | "to" => pure (Json.mkObj [("sent", .bool true), ("received", .arr [value])])
  | "to_dead" => pure (Json.mkObj [("sent", .bool false), ("received", .arr [])])
  | other => throw (badInput ("unknown reply kind '" ++ other ++ "'"))

/-- Answers a request about single values. -/
def answer (req : Json) (ids : IdSource) : Json × IdSource :=
  let plain (r : Answered Json) : Json × IdSource := (r.merge, ids)
  match Request.needText req "what" with
  | .error e => (e, ids)
  | .ok what =>
    match what with
    | "entity_id" => plain (entityId req)
    | "new_ids" => match newIds req ids with
      | .ok r => r
      | .error e => (e, ids)
    | "recipient_debug" =>
      let (a, ids) := ids.fresh
      (Json.mkObj [("address", .str a.render),
        ("debug", .str ("Recipient \x7b address: Address(" ++ a.render ++ ") \x7d"))], ids)
    | "commands" => plain (commands req)
    | "envelope_builder" => plain (envelopeBuilder req)
    | "permission" => plain (permission req)
    | "observability" => plain (observability req)
    | "entity_message_debug" => plain (do
        let _ ← Request.needAs req "id" Read.uuid
        pure (Json.mkObj [("debug", .arr (entityMessages.map .str))]))
    | "entity_type" => plain (do
        let text ← Request.needText req "text"
        match EntityType.ofText text with
        | .ok k => pure (Json.mkObj [("ok", .str k.name), ("as_str", .str k.name),
            ("stem", .str k.stem), ("display", .str k.name)])
        | .error e => pure e.toJson)
    | "command_type" => plain (do
        let t ← Request.needAs req "command_type" CommandType.read
        pure (Json.mkObj [("outcome", .str t.outcome), ("verb", .str t.verb)]))
    | "expected_version" => plain (expectedVersion req)
    | "domain_error" => plain (domainError req)
    | "backoff" => plain (backoff req)
    | "persistence_id" => plain (persistenceId req)
    | "event" => plain (event req)
    | "meta" => plain (issuer req)
    | "state" => plain (state req)
    | "unit_config" => plain (unitConfig req)
    | "config_env" => plain (configEnv req)
    | "stash" => plain (stash req)
    | "subscribers" => plain (subscribers req)
    | "reply" => plain (reply req)
    | other => (badInput ("unknown misc '" ++ other ++ "'"), ids)

end Misc

end Chronicle
