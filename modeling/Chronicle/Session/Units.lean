import Chronicle.Session.Console
import Chronicle.Session.Shapes

/-! Sessions with single units. -/

namespace Chronicle

namespace Units

def target (arg : Json) : Answered String := Request.stepName arg

def held (d : Desk) (name : String) : Answered Held :=
  match d.named.lookup name with
  | some h => .ok h
  | none => .error (badInput ("no unit '" ++ name ++ "'"))

def eventView : Delivery → Json
  | .event e => e.toJson
  | _ => Json.null

def subscribedView : Delivery → Json
  | .subscribed s => s.toJson
  | _ => Json.null

def statusView : Delivery → Json
  | .status s => s.toJson
  | _ => Json.null

def configuredView : Delivery → Json
  | .configured (.ok ()) => Json.mkObj [("ok", .bool true)]
  | .configured (.error e) => Console.journalJson e
  | _ => Json.null

def sentJson (b : Bool) : Json := Json.mkObj [("sent", .bool b)]

/-- The sink a subscription step names: a probe, or a listing or accumulator unit. -/
def sink (d : Desk) (arg : Json) : Answered (Sink × Desk) := do
  match Request.text? arg "probe" with
  | some name =>
    let (p, d) := d.probe name
    pure (.probe name p.address, d)
  | none =>
    let reader ← Request.needText arg "reader"
    match ← held d reader with
    | .listing _ h => pure (.listing h.unit h.address, d)
    | .accumulator _ h => pure (.accumulator h.unit h.address, d)
    | .entity _ _ => throw (badInput ("unit '" ++ reader ++ "' does not read events"))

/-- Sends commands to an entity unit, all before any is handled, and waits for each answer in
turn; a command that does not read is refused in its place. -/
def executeAll (d : Desk) (k : EntityType) (u : UnitRef) (cmds : List Json) : List Json × Desk :=
  let (sent, d) := cmds.foldl (fun (acc : List (Answered Nat) × Desk) j =>
    match (Request.typed "BadCommand" Command.read j : Answered (Command k.Rec)) with
    | .error e => (acc.1 ++ [.error e], acc.2)
    | .ok c =>
      let (n, w) := acc.2.world.newSlot
      let (_, w) := w.post u (.entity k (.execute c (.slot n)))
      (acc.1 ++ [.ok n], { acc.2 with world := w })) ([], d)
  sent.foldl (fun (acc : List Json × Desk) s =>
    match s with
    | .error e => (acc.1 ++ [e], acc.2)
    | .ok n =>
      let (o, w) := Console.await acc.2.world n
      (acc.1 ++ [Console.shown o eventView], { acc.2 with world := w })) ([], d)

/-- Runs `execute`: one `command`, or a list of `commands` answered as a list; `commands`
that are not a list stand for the list of the one `command`. -/
def execute (d : Desk) (k : EntityType) (u : UnitRef) (arg : Json) : Answered (Json × Desk) :=
  match arg.field? "commands" with
  | some cmds => do
    let cmds ← match cmds with
      | .arr xs => pure xs
      | _ => do pure [← Request.need arg "command"]
    let (answers, d) := executeAll d k u cmds
    pure (.arr answers, d)
  | none => do
    let c : Command k.Rec ← Request.typed "BadCommand" Command.read (← Request.need arg "command")
    let (o, d) := d.ask u (fun r => .entity k (.execute c r))
    pure (Console.shown o eventView, d)

def entityDebug (c : ChildRef) (alive : Bool) : String :=
  "EntityHandle \x7b id: EntityId(" ++ c.id.render ++ "), address: Address(" ++ c.address.render ++
    "), alive: " ++ (if alive then "true" else "false") ++ " \x7d"

/-- Steps on an entity unit. -/
def entityStep (d : Desk) (k : EntityType) (c : ChildRef) (verb : String)
    (arg : Json) : Answered (Json × Desk) :=
  let u := c.unit
  let ask (letter : Reply → EntityMsg k) (view : Delivery → Json) : Json × Desk :=
    let (o, d) := d.ask u (fun r => .entity k (letter r))
    (Console.shown o view, d)
  let tell (m : EntityMsg k) : Json × Desk :=
    let (b, d) := d.tell u (.entity k m)
    (sentJson b, d)
  match verb with
  | "execute" => execute d k u arg
  | "state" => .ok (ask .getState (fun
      | .state _ _ doc => Json.mkObj [("state", doc.getD .null)]
      | _ => Json.null))
  | "status" => .ok (ask .status statusView)
  | "configure" => do
    let s ← Request.typed "BadInput" UnitSetting.read (← Request.need arg "setting")
    pure (ask (.configure s) configuredView)
  | "subscribe" => do
    let (s, d) ← sink d arg
    let (o, d) := d.ask u (fun r => .entity k (.subscribe s r))
    pure (Console.shown o subscribedView, d)
  | "unsubscribe" => do
    let (s, d) ← sink d arg
    let (b, d) := d.tell u (.entity k (.unsubscribe s.address))
    pure (sentJson b, d)
  | "force_snapshot" => .ok (tell .forceSnapshot)
  | "stop" => .ok (tell .stop)
  | "alive" => .ok (Json.mkObj [("alive", .bool (d.world.isOpen u))], d)
  | "id" => .ok (Json.mkObj [("id", .str c.id.render)], d)
  | "debug" =>
    .ok (Json.mkObj [("address", .str c.address.render),
      ("debug", .str (entityDebug c (d.world.isOpen u)))], d)
  | other => .error (badInput ("'" ++ other ++ "' is not an entity step"))

def eventSpecs (arg : Json) : Answered (List Json) :=
  match arg.field? "events" with
  | some (.arr xs) => .ok xs
  | _ => do pure [← Request.need arg "event"]

/-- Steps on a listing unit. -/
def listingStep (d : Desk) (h : Handle) (verb : String) (arg : Json) :
    Answered (Json × Desk) :=
  let u := h.unit
  let ask (letter : Reply → ListMsg) (view : Delivery → Json) : Json × Desk :=
    let (o, d) := d.ask u (fun r => .listing (letter r))
    (Console.shown o view, d)
  let tell (m : ListMsg) : Json × Desk :=
    let (b, d) := d.tell u (.listing m)
    (sentJson b, d)
  match verb with
  | "event" => do
    -- events are read and sent one by one; one that does not read ends the step, and those
    -- before it stay sent
    let specs ← eventSpecs arg
    let (sent, d, failed) := specs.foldl (fun (acc : List Json × Desk × Option Json) j =>
      match acc.2.2 with
      | some _ => acc
      | none =>
        match Shapes.readEvent j with
        | .error e => (acc.1, acc.2.1, some e)
        | .ok e =>
          let (b, d) := acc.2.1.tell u (.listing (.event e))
          (acc.1 ++ [.bool b], d, none)) ([], d, none)
    match failed with
    | some e => pure (e, d)
    | none => pure (Json.mkObj [("sent", .arr sent)], d)
  | "id_list" => .ok (ask .idList (fun
      | .items xs => .arr (xs.map ListItem.toJson)
      | _ => Json.null))
  | "status" => .ok (ask .status statusView)
  | "configure" => do
    let s ← Request.typed "BadInput" UnitSetting.read (← Request.need arg "setting")
    pure (ask (.configure s) configuredView)
  | "subscribe" => do
    let (s, d) ← sink d arg
    let (o, d) := d.ask u (fun r => .listing (.subscribe s r))
    pure (Console.shown o subscribedView, d)
  | "unsubscribe" => do
    let (s, d) ← sink d arg
    let (b, d) := d.tell u (.listing (.unsubscribe s.address))
    pure (sentJson b, d)
  | "force_snapshot" => .ok (tell .forceSnapshot)
  | "stop" => .ok (tell .stop)
  | "alive" => .ok (Json.mkObj [("alive", .bool (d.world.isOpen u))], d)
  | "address" => .ok (Json.mkObj [("address", .str h.address.render)], d)
  | other => .error (badInput ("'" ++ other ++ "' is not a list step"))

/-- Steps on an accumulator. -/
def accumulatorStep (d : Desk) (h : Handle) (verb : String) (arg : Json) :
    Answered (Json × Desk) :=
  let u := h.unit
  let ask (letter : Reply → AccMsg) (view : Delivery → Json) : Json × Desk :=
    let (o, d) := d.ask u (fun r => .accumulator (letter r))
    (Console.shown o view, d)
  match verb with
  | "event" => do
    let e ← Shapes.readEvent (← Request.need arg "event")
    let (b, d) := d.tell u (.accumulator (.event e))
    pure (sentJson b, d)
  | "get_list" => .ok (ask .getList (fun
      | .records xs => Json.mkObj [("list", .arr xs)]
      | _ => Json.null))
  | "acc_status" | "status" => .ok (ask .status (fun
      | .accStatus s => s.toJson
      | _ => Json.null))
  | "stop" =>
    let (b, d) := d.tell u (.accumulator .stop)
    .ok (sentJson b, d)
  | "alive" => .ok (Json.mkObj [("alive", .bool (d.world.isOpen u))], d)
  | "address" => .ok (Json.mkObj [("address", .str h.address.render)], d)
  | other => .error (badInput ("'" ++ other ++ "' is not an accumulator step"))

/-- The entity units of a kind named as an accumulator's children. -/
def children (d : Desk) (k : EntityType) (names : List String) : Answered (List ChildRef) :=
  names.mapM (fun n => do
    match d.named.lookup n with
    | some (.entity k2 c) => if k2 = k then pure c else throw (notEntity n)
    | _ => throw (notEntity n))
where
  notEntity (n : String) : Json := badInput ("'" ++ n ++ "' is not a " ++ k.name ++ " entity unit")

/-- Spawns a unit under a name; a unit held under that name before is let go. -/
def spawn (d : Desk) (arg : Json) : Answered (Json × Desk) := do
  let name ← Request.needText arg "name"
  let kind ← Request.needText arg "kind"
  let config ← match arg.field? "config" with
    | none | some .null => pure {}
    | some c => Console.readUnitConfig c
  let entity (k : EntityType) : Answered (Held × World) := do
    let id ← Request.needAs arg "id" Read.uuid
    let (c, w) := d.world.spawnEntity k id config
    pure (.entity k c, w)
  let accumulator (k : EntityType) : Answered (Held × World) := do
    let names := (← Request.presentAs arg "children" (Read.list Read.string)).getD []
    let cs ← children d k names
    let gone := Request.flag arg "parent_gone" false
    let twice := Request.flag arg "parent_twice" false
    let pullMs := (← Request.optNat arg "pull_timeout_ms").getD 10000
    let capacity ← Request.optAs arg "stash_capacity" Read.usize
    let parent := if gone then Parent.refusing else .fixed cs twice
    let (h, w) := d.world.spawnAccumulator k parent (Duration.ofMillis pullMs) capacity
    pure (.accumulator k h, w)
  let (h, w) ← match kind with
    | "Client" => entity .client
    | "User" => entity .user
    | "List" => do
      let k ← Request.needAs arg "entity_type" EntityType.read
      let (h, w) := d.world.spawnList k config
      pure (Held.listing k h, w)
    | "AccClient" => accumulator .client
    | "AccUser" => accumulator .user
    | other => throw (badInput ("unknown kind '" ++ other ++ "'"))
  pure (Json.mkObj [("spawned", .bool true)],
    { d with world := w, named := (d.named.filter (·.1 ≠ name)) ++ [(name, h)] })

/-- Lets go of the handle held under a name. -/
def drop (d : Desk) (arg : Json) : Answered (Json × Desk) := do
  let name ← match arg with
    | .str s => pure s
    | _ => throw (badInput "drop takes a unit name")
  let found := (d.named.lookup name).isSome
  pure (Json.mkObj [("dropped", .bool found)], { d with named := d.named.filter (·.1 ≠ name) })

def verbs : List String :=
  Desk.commonVerbs ++ ["spawn", "drop"]

/-- Runs one step. -/
def step (d : Desk) (verb : String) (arg : Json) : Answered (Json × Desk) :=
  match d.common verb arg with
  | some r => r
  | none =>
    match verb with
    | "spawn" => spawn d arg
    | "drop" => drop d arg
    | _ => do
      let name ← target arg
      match ← held d name with
      | .entity k c => entityStep d k c verb arg
      | .listing _ h => listingStep d h verb arg
      | .accumulator _ h => accumulatorStep d h verb arg

def answer (req : Json) (ids : IdSource) : Answered Json :=
  Console.runSteps req (Request.stepVerb verbs Desk.namingVerbs ["unit"])
    { world := { ids := ids } }
    (fun d verb arg => (step d verb arg).map (fun (a, d) => (a, d.settle)))

end Units

end Chronicle
