import Chronicle.World.Keeper

/-! Entity units: each keeps one record. -/

namespace Chronicle

namespace World

def entity? (w : World) (u : UnitRef) (k : EntityType) :
    Option (Uuid × Keeper k.Rec (EntityMsg k)) :=
  match w.cell? u with
  | some (.entity k2 id kp) => if h : k2 = k then some (id, h ▸ kp) else none
  | _ => none

/-- Starts an entity unit for a record and gives the handle to it. -/
def spawnEntity (w : World) (k : EntityType) (id : Uuid) (config : UnitConfig) :
    ChildRef × World :=
  let (address, w) := w.alloc
  let kp : Keeper k.Rec (EntityMsg k) :=
    { address := address, core := Core.new (k.stem ++ "-" ++ id.render) config,
      stash := Stash.empty config.stashCapacity }
  let (u, w) := w.addCell (.entity k id kp)
  (⟨u, id, address⟩, w)

end World

namespace EntityUnit

def unitType (k : EntityType) : String := k.stem ++ "-entity"

def failed (k : EntityType) (id : Uuid) (s : k.Rec) (t : CommandType) (m : CommandMeta)
    (reason : String) (payload : Json) : Event :=
  ((Event.failed k t m reason).emittedBy (unitType k)).forEntity (some id) (Record.displayName s)
    |>.withPayload payload

section

variable (u : UnitRef) (k : EntityType) (id : Uuid)

def put (w : World) (kp : Keeper k.Rec (EntityMsg k)) : World := w.setCell u (.entity k id kp)

/-- Runs a command: aims it, decides, logs, applies, publishes and answers. -/
def execute (c : Command k.Rec) (reply : Reply) (w : World) : World :=
  match w.entity? u k with
  | none => w
  | some (_, kp) =>
    let t := c.commandType
    let refuse (reason : String) : World :=
      (w.deliver reply (.event (failed k id kp.core.state t c.issuer reason c.payload))).2
    let aimed := match c.target with
      | none => c.withTarget id
      | some _ => c
    match aimed.target with
    | some target =>
      if target ≠ id then
        refuse (k.stem ++ " " ++ target.render ++ " is not handled by unit " ++ id.render)
      else
        match Aggregate.handle Instant.present kp.core.state aimed with
        | .error e => refuse e.reason
        | .ok entry =>
          match kp.core.persist w.store entry with
          | (.error e, core, store) =>
            let w := put u k id { w with store := store } { kp with core := core }
            (w.deliver reply (.event (failed k id core.state t c.issuer
              ("persistence failure: " ++ e.message) c.payload))).2
          | (.ok _, core, store) =>
            let event := ((Event.succeeded k t entry.issuer).emittedBy (unitType k)).forEntity
              (some id) (Record.displayName core.state) |>.withPayload (Record.toJson core.state)
            let w := put u k id { w with store := store } { kp with core := core }
            let (subs, w) := w.publish kp.subscribers event
            let w := match w.entity? u k with
              | some (_, kp2) => put u k id w { kp2 with subscribers := subs }
              | none => w
            (w.deliver reply (.event event)).2
    | none => refuse "missing target"

/-- Handles one message while serving. -/
def handle (m : EntityMsg k) (w : World) : Flow × World :=
  match w.entity? u k with
  | none => (.continue, w)
  | some (_, kp) =>
    match m with
    | .execute c r => (.continue, execute u k id c r w)
    | .getState r =>
      let s := kp.core.state
      let doc := if (Record.id s).isSome then some (Record.toJson s) else none
      (.continue, (w.deliver r (.state kp.address id doc)).2)
    | .subscribe s r =>
      let (subs, _) := kp.subscribers.subscribe Sink.address s
      let w := put u k id w { kp with subscribers := subs }
      (.continue, (w.deliver r (.subscribed ⟨unitType k, kp.core.persistenceId⟩)).2)
    | .unsubscribe a =>
      (.continue, put u k id w { kp with subscribers := (kp.subscribers.unsubscribe Sink.address a).1 })
    | .forceSnapshot =>
      let (core, store) := kp.core.saveSnapshot w.store
      (.continue, put u k id { w with store := store } { kp with core := core })
    | .configure st r =>
      let (res, core, store) := kp.core.persistSetting w.store st
      let w := put u k id { w with store := store } { kp with core := core }
      (.continue, (w.deliver r (.configured res)).2)
    | .status r =>
      (.continue, (w.deliver r (.status (kp.core.status kp.subscribers.size 0))).2)
    | .stop => (.stop, w)

/-- Answers a message the stash had no room for: a command is refused as busy, anything else
is dropped. -/
def refuse (m : EntityMsg k) (w : World) : World :=
  match m, w.entity? u k with
  | .execute c r, some (_, kp) =>
    (w.deliver r (.event (failed k id kp.core.state c.commandType c.issuer "unit busy"
      c.payload))).2
  | m, _ => w.dropReplies m.replies

/-- Saves a snapshot before stopping, if the log moved past the last one. -/
def passivate (w : World) : World :=
  match w.entity? u k with
  | some (_, kp) =>
    if kp.core.isDirty then
      let (core, store) := kp.core.saveSnapshot w.store
      put u k id { w with store := store } { kp with core := core }
    else w
  | none => w

/-- How the entity unit at a place behaves. -/
def behaviour : Behaviour k.Rec (EntityMsg k) where
  unit := u
  get w := (w.entity? u k).map (·.2)
  put w kp := put u k id w kp
  handle := handle u k id
  refuse := refuse u k id
  replies := EntityMsg.replies
  idleStops := true
  passivate := passivate u k id

def poll (w : World) : World := (behaviour u k id).poll (κ := Command k.Rec) w

end

end EntityUnit

end Chronicle
