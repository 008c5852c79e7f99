import Chronicle.Session.Units

/-! Sessions with supervisors and registries. -/

namespace Chronicle

namespace System

def kindNamed (text : String) : Answered EntityType :=
  match EntityType.ofName? text with
  | some k => pure k
  | none => throw (badInput ("unknown entity type '" ++ text ++ "'"))

def kind (arg : Json) : Answered EntityType := do
  kindNamed (← match arg with
    | .str t => pure t
    | j => Request.needText j "type")

def supervisor (d : Desk) (k : EntityType) : Answered Handle :=
  match d.supervisors.lookup k with
  | some h => .ok h
  | none => .error (badInput ("no " ++ k.name ++ " supervisor"))

def registry (d : Desk) : Answered Directory :=
  match d.registry with
  | some r => .ok r
  | none => .error (badInput "no registry")

def install (d : Desk) (k : EntityType) (h : Handle) : Desk :=
  { d with supervisors := (d.supervisors.filter (·.1 ≠ k)) ++ [(k, h)] }

def isCurrent (d : Desk) (k : EntityType) (r : SupervisorRef) : Bool :=
  match d.supervisors.lookup k with
  | some h => h.address == r.inbound.address
  | none => false

def askRegistry (d : Desk) (dir : Directory) (m : Reply → RegistryMsg) : Outcome × Desk :=
  let (n, w) := d.world.newSlot
  let (_, w) := w.tellRegistry dir (m (.slot n))
  let (o, w) := Console.await w n
  (o, { d with world := w })

/-- Where waiting for readiness stands: asking for a report, or pausing before the next. -/
inductive Poll where
  | asking (n : Nat)
  | pausing (tag : Nat)

def askStatus (w : World) (u : UnitRef) (k : EntityType) : Poll × World :=
  let (n, w) := w.newSlot
  let (_, w) := w.post u (.supervisor k (.status (.slot n)))
  (.asking n, { w with watch := [n] })

/-- Looks at the report asked for: ready ends the wait, another phase pauses 10 ms, and a
report that never comes means the supervisor is gone. -/
def look (w : World) (n : Nat) : Option (Answered Unit) × Poll × World :=
  match w.slot n with
  | .waiting => (none, .asking n, w)
  | .filled (.supStatus s) =>
    if s.phase = .ready then (some (.ok ()), .asking n, w)
    else
      let (tag, w) := w.mainTimer (Duration.ofMillis 10)
      (none, .pausing tag, { w with watch := [] })
  | _ => (some (.error Console.goneJson), .asking n, w)

/-- Moves the wait on as far as it goes without running any unit; `some` once it is decided. -/
def advance (w : World) (u : UnitRef) (k : EntityType) : Poll → Option (Answered Unit) × Poll × World
  | .asking n => look w n
  | .pausing tag =>
    if w.mainRanOut tag then
      match askStatus (w.cancelMain tag) u k with
      | (.asking n, w) => look w n
      | (p, w) => (none, p, w)
    else (none, .pausing tag, w)

def release (w : World) : Poll → World
  | .asking n => { w.abandon n with watch := [] }
  | .pausing tag => w.cancelMain tag

/-- Waits for a supervisor to be ready for at most `limit`, inside the console's patience
whose timer is `outer`. -/
def waitReady (w : World) (u : UnitRef) (k : EntityType) (limit : Duration) (outer : Nat) :
    Answered Unit × World :=
  let (p, w) := askStatus w u k
  match advance w u k p with
  | (some r, p, w) => (r, release w p)
  | (none, p, w) =>
    let (lim, w) := w.mainTimer limit
    let close (p : Poll) (w : World) : World := release (w.cancelMain lim) p
    if w.mainRanOut lim then (.error Console.timeoutJson, close p w)
    else
      let rec loop : Nat → Poll → World → Answered Unit × World
        | 0, p, w => (.error Console.driverTimeout, close p w)
        | f + 1, p, w =>
          let (woken, w) := w.drive Console.fuel
          match advance w u k p with
          | (some r, p, w) => (r, close p w)
          | (none, p, w) =>
            if w.mainRanOut lim then (.error Console.timeoutJson, close p w)
            else if !woken || w.mainRanOut outer then (.error Console.driverTimeout, close p w)
            else loop f p w
      loop Console.rounds p w

def readyJson : Answered Unit → Json
  | .ok () => Json.mkObj [("ok", .bool true)]
  | .error e => e

def waitOne (d : Desk) (h : Handle) (k : EntityType) (limit : Duration) : Json × Desk :=
  let (outer, w) := d.world.mainTimer Console.patience
  let (r, w) := waitReady w h.unit k limit outer
  (readyJson r, { d with world := w.cancelMain outer })

/-- Waits for a booted system: its client supervisor, then its user supervisor. -/
def waitSystem (d : Desk) (clients users : Handle) (limit : Duration) : Answered Unit × Desk :=
  let (outer, w) := d.world.mainTimer Console.patience
  let (r, w) := match waitReady w clients.unit .client limit outer with
    | (.ok (), w) => waitReady w users.unit .user limit outer
    | failed => failed
  (r, { d with world := w.cancelMain outer })

/-- Reads a scripted registry's answer. A delay that does not read as a number of
milliseconds is zero, and a text that names no answer fails the delivery, as `gone` does. -/
def scriptAnswer (j : Json) : Answered (String × ScriptAnswer) := do
  let text ← Request.typed "BadInput" Read.string j
  let after (rest : String) : Nat := (Setting.unsigned 64 rest).getD 0
  match text with
  | "accept" => pure (text, .accept)
  | "refuse" => pure (text, .refuse)
  | "silent" => pure (text, .silent)
  | "gone" => pure (text, .gone)
  | _ =>
    if text.startsWith "accept_after:" then
      pure (text, .acceptAfter (after (text.drop 13).toString))
    else if text.startsWith "refuse_after:" then
      pure (text, .refuseAfter (after (text.drop 13).toString))
    else pure (text, .gone)

def eventView : Delivery → Json := Units.eventView

/-- Sends commands to a supervisor, all before any is handled, and waits for each answer in
turn; a command that does not read is refused in its place. -/
def executeAll (d : Desk) (k : EntityType) (u : UnitRef) (cmds : List Json) : List Json × Desk :=
  let (sent, d) := cmds.foldl (fun (acc : List (Answered Nat) × Desk) j =>
    match (Request.typed "BadCommand" Command.read j : Answered (Command k.Rec)) with
    | .error e => (acc.1 ++ [.error e], acc.2)
    | .ok c =>
      let (n, w) := acc.2.world.newSlot
      let (_, w) := w.post u (.supervisor k (.execute c (.slot n)))
      (acc.1 ++ [.ok n], { acc.2 with world := w })) ([], d)
  sent.foldl (fun (acc : List Json × Desk) s =>
    match s with
    | .error e => (acc.1 ++ [e], acc.2)
    | .ok n =>
      let (o, w) := Console.await acc.2.world n
      (acc.1 ++ [Console.shown o eventView], { acc.2 with world := w })) ([], d)

/-- Sends a command or an envelope to a supervisor; with a `defer` key the answer is kept
under it for `collect`, else the console waits for it. -/
def send (d : Desk) (arg : Json) (u : UnitRef) (letter : Reply → Letter) :
    Answered (Json × Desk) := do
  match Request.text? arg "defer" with
  | some key =>
    let (n, w) := d.world.newSlot
    let (sent, w) := w.post u (letter (.slot n))
    pure (Json.mkObj [("deferred", .bool sent)],
      { d with world := w, deferred := (d.deferred.filter (·.1 ≠ key)) ++ [(key, n)] })
  | none =>
    let (o, d) := d.ask u letter
    pure (Console.shown o eventView, d)

def supervisorDebug (k : EntityType) (h : Handle) : String :=
  "SupervisorHandle \x7b entity_type: " ++ k.name ++ ", address: Address(" ++ h.address.render ++
    ") \x7d"

/-- Steps on the current supervisor of a kind. -/
def supervisorStep (d : Desk) (verb : String) (arg : Json) : Answered (Json × Desk) := do
  let k ← kind arg
  let h ← supervisor d k
  let u := h.unit
  let ask (letter : Reply → SupMsg k) (view : Delivery → Json) : Json × Desk :=
    let (o, d) := d.ask u (fun r => .supervisor k (letter r))
    (Console.shown o view, d)
  -- only commands and envelopes can be kept for later, and then one that does not read is
  -- refused as bad input
  let deferred := (Request.text? arg "defer").isSome
  if deferred ∧ verb ≠ "execute" ∧ verb ≠ "submit" then
    throw (badInput ("'" ++ verb ++ "' cannot be deferred"))
  match verb with
  | "execute" =>
    let single : Answered (Json × Desk) := do
      let c : Command k.Rec ← Request.typed (if deferred then "BadInput" else "BadCommand")
        Command.read (← Request.need arg "command")
      send d arg u (fun r => .supervisor k (.execute c r))
    match arg.field? "commands", Request.text? arg "defer" with
    | some cmds, none =>
      let cmds ← match cmds with
        | .arr xs => pure xs
        | _ => do pure [← Request.need arg "command"]
      let (answers, d) := executeAll d k u cmds
      pure (.arr answers, d)
    | _, _ => single
  | "submit" =>
    let e ← Request.typed (if deferred then "BadInput" else "BadEnvelope") Envelope.read
      (← Request.need arg "envelope")
    send d arg u (fun r => .supervisor k (.submit e r))
  | "id_list" => pure (ask .idList (fun
      | .items xs => .arr (xs.map ListItem.toJson)
      | _ => Json.null))
  | "get_list" => pure (ask .getList (fun
      | .records xs => .arr xs
      | _ => Json.null))
  | "status" => pure (ask .status (fun
      | .supStatus s => s.toJson
      | _ => Json.null))
  | "subscribe_list" =>
    let name ← Request.needText arg "probe"
    let (p, d) := d.probe name
    let (o, d) := d.ask u (fun r => .supervisor k (.subscribeList (.probe name p.address) r))
    pure (Console.shown o Units.subscribedView, d)
  | "wait_ready" =>
    let ms ← Request.needAs arg "timeout_ms" Read.u64
    pure (waitOne d h k (Duration.ofMillis ms))
  | "stop" =>
    let (b, d) := d.tell u (.supervisor k .stop)
    pure (Units.sentJson b, d)
  | "alive" => pure (Json.mkObj [("alive", .bool (d.world.isOpen u))], d)
  | "debug" =>
    pure (Json.mkObj [("address", .str h.address.render), ("debug", .str (supervisorDebug k h))], d)
  | other => throw (badInput ("'" ++ other ++ "' is not a supervisor step"))

/-- Boots a system: a registry, a supervisor of each kind, and each supervisor told where the
registry is. The system's units become the current ones. -/
def bootWith (d : Desk) (config : SupervisorConfig) : Desk :=
  let (r, w) := d.world.spawnRegistry
  let (clients, w) := w.spawnSupervisor .client config
  let (users, w) := w.spawnSupervisor .user config
  let dir := Directory.unit r.unit r.address
  let (_, w) := w.post clients.unit (.supervisor .client (.registryReady dir))
  let (_, w) := w.post users.unit (.supervisor .user (.registryReady dir))
  let d := install (install { d with world := w } .client clients) .user users
  { d with registry := some dir, system := some (dir, clients, users) }

def boot (d : Desk) (arg : Json) : Answered (Json × Desk) := do
  let config ← match arg.field? "config" with
    | none | some .null => pure {}
    | some c => Console.readSupervisorConfig c
  pure (Json.mkObj [("booted", .bool true)], bootWith d config)

def entryJson (d : Desk) (k : EntityType) (r : SupervisorRef) : List (String × Json) :=
  [("ref_type", r.entityType.toJson), ("is_current", .bool (isCurrent d k r))]

/-- Registers a stand-in supervisor reference with the current registry: one that forwards to
the current supervisor of a kind, or one that refuses every command. -/
def registerForwarder (d : Desk) (arg : Json) : Answered (Json × Desk) := do
  let dir ← registry d
  let k ← Request.needAs arg "as" EntityType.read
  let target ← match Request.text? arg "forward_to" with
    | none => pure none
    | some t => do
      let t ← kind (.str t)
      pure (some (← supervisor d t))
  let (address, w) := d.world.alloc
  let inbound := match target with
    | some h => Inbound.forward h.unit address
    | none => .refuse address
  let (o, d) := askRegistry { d with world := w } dir (.register k ⟨k, inbound⟩)
  let result := Console.shown o (fun
    | .accepted b => Json.mkObj [("registered", .bool b)]
    | _ => Json.null)
  pure (Json.mkObj [("registry_address", .str dir.address.render), ("result", result)], d)

/-- Looks a kind up in the current registry and hands an envelope to what it finds. -/
def submitViaRegistry (d : Desk) (arg : Json) : Answered (Json × Desk) := do
  let e ← Request.typed "BadEnvelope" Envelope.read (← Request.need arg "envelope")
  let k ← Request.needAs arg "lookup" EntityType.read
  let dir ← registry d
  match askRegistry d dir (.lookup k) with
  | (.answer (.found (some r)), d) =>
    let (n, w) := d.world.newSlot
    let (_, w) := w.submitVia r.inbound e (.slot n)
    let (o, w) := Console.await w n
    pure (Console.shown o eventView, { d with world := w })
  | (.answer _, d) =>
    pure (refusal "NotRegistered" "no supervisor for this type", d)
  | (o, d) => pure (Console.shown o (fun _ => Json.null), d)

/-- Runs one step. -/
def step (d : Desk) (verb : String) (arg : Json) : Answered (Json × Desk) :=
  match d.common verb arg with
  | some r => r
  | none =>
    match verb with
    | "boot" => boot d arg
    | "system_wait_ready" => do
      let ms ← Request.typed "BadInput" Read.u64 arg
      match d.system with
      | some (_, clients, users) =>
        let (r, d) := waitSystem d clients users (Duration.ofMillis ms)
        pure (readyJson r, d)
      | none => throw (badInput "not booted")
    | "shutdown" =>
      match d.system with
      | some (dir, clients, users) =>
        let (_, w) := d.world.post clients.unit (.supervisor .client .stop)
        let (_, w) := w.post users.unit (.supervisor .user .stop)
        let (_, w) := w.tellRegistry dir .stop
        .ok (Json.mkObj [("ok", .bool true)], { d with world := w })
      | none => .error (badInput "not booted")
    | "spawn_supervisor" => do
      let k ← kindNamed (← Request.needText arg "type")
      let config ← match arg.field? "config" with
        | none | some .null => pure {}
        | some c => Console.readSupervisorConfig c
      let (h, w) := d.world.spawnSupervisor k config
      pure (Json.mkObj [("spawned", .bool true)], install { d with world := w } k h)
    | "spawn_registry" =>
      let (r, w) := d.world.spawnRegistry
      .ok (Json.mkObj [("spawned", .bool true)],
        { d with world := w, registry := some (.unit r.unit r.address) })
    | "scripted_registry" => do
      let answers ← match arg with
        | .arr xs => xs.mapM scriptAnswer
        | _ => throw (badInput "scripted_registry takes a list of answers")
      let (address, w) := d.world.alloc
      let i := w.scripts.size
      let w := { w with scripts := w.scripts.push { address := address, answers := answers } }
      pure (Json.mkObj [("spawned", .bool true)],
        { d with world := w, registry := some (.scripted i address), script := some i })
    | "registry_ready" => do
      let dir ← registry d
      let k ← match arg with
        | .str t => kindNamed t
        | _ => throw (badInput "registry_ready takes a type")
      let h ← supervisor d k
      let (b, d) := d.tell h.unit (.supervisor k (.registryReady dir))
      pure (Units.sentJson b, d)
    | "attempts" =>
      match d.script.bind (d.world.scripts[·]?) with
      | some s =>
        .ok (Json.mkObj [("attempts", .arr (s.attempts.map (fun a =>
          Json.mkObj [("answer", .str a.answer), ("at_ms", .ofNat a.atMs),
            ("entity_type", a.entityType.toJson)])))], d)
      | none => .error (badInput "no scripted registry")
    | "registry_list" => do
      let dir ← registry d
      let (o, d) := askRegistry d dir .getList
      pure (Console.shown o (fun
        | .directory xs => .arr (xs.map (fun (k, r) =>
            Json.mkObj ([("entity_type", k.toJson)] ++ entryJson d k r)))
        | _ => Json.null), d)
    | "lookup" => do
      let dir ← registry d
      let k ← Request.typed "BadInput" EntityType.read arg
      let (o, d) := askRegistry d dir (.lookup k)
      pure (Console.shown o (fun
        | .found (some r) => Json.mkObj ([("found", .bool true)] ++ entryJson d k r)
        | _ => Json.mkObj [("found", .bool false)]), d)
    | "registry_stop" => do
      let dir ← registry d
      let (b, w) := d.world.tellRegistry dir .stop
      pure (Units.sentJson b, { d with world := w })
    | "register_forwarder" => registerForwarder d arg
    | "submit_via_registry" => submitViaRegistry d arg
    | _ => supervisorStep d verb arg

def verbs : List String :=
  Desk.commonVerbs ++ ["boot", "system_wait_ready", "shutdown", "spawn_supervisor",
    "spawn_registry", "scripted_registry", "registry_ready", "attempts", "registry_list",
    "registry_stop", "lookup", "register_forwarder", "submit_via_registry"]

def answer (req : Json) (ids : IdSource) : Answered Json :=
  Console.runSteps req (Request.stepVerb verbs Desk.namingVerbs []) { world := { ids := ids } }
    (fun d verb arg => (step d verb arg).map (fun (a, d) => (a, d.settle)))

end System

end Chronicle
