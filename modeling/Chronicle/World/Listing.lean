import Chronicle.World.Keeper

/-! Listing units: each keeps the index of the records of one kind. -/

namespace Chronicle

namespace World

def listing? (w : World) (u : UnitRef) : Option (EntityType × Keeper Listing ListMsg) :=
  match w.cell? u with
  | some (.listing k kp) => some (k, kp)
  | _ => none

/-- Starts the listing unit of a kind and gives the handle to it. -/
def spawnList (w : World) (k : EntityType) (config : UnitConfig) : Handle × World :=
  let (address, w) := w.alloc
  let kp : Keeper Listing ListMsg :=
    { address := address, core := Core.new (k.stem ++ "-list") config,
      stash := Stash.empty config.stashCapacity }
  let (u, w) := w.addCell (.listing k kp)
  (⟨u, address⟩, w)

end World

namespace ListUnit

def unitType (k : EntityType) : String := k.stem ++ "-list"

section

variable (u : UnitRef) (k : EntityType)

def put (w : World) (kp : Keeper Listing ListMsg) : World := w.setCell u (.listing k kp)

/-- Folds an event into the listing and announces what was logged. -/
def index (e : Event) (w : World) : World :=
  match w.listing? u with
  | none => w
  | some (_, kp) =>
    match kp.core.state.entryFor? e with
    | none => w
    | some entry =>
      match kp.core.persist w.store entry with
      | (.error _, core, store) => put u k { w with store := store } { kp with core := core }
      | (.ok _, core, store) =>
        let item := Keyed.get? core.state.items entry.id
        let notice := ((Event.succeeded k entry.commandType ⟨e.actingUser, e.connectionId, none⟩
          ).emittedBy (unitType k)).forEntity (some entry.id)
            ((item.map (·.displayName)).getD "") |>.withPayload
            ((item.map ListItem.toJson).getD .null)
        let w := put u k { w with store := store } { kp with core := core }
        let (subs, w) := w.publish kp.subscribers notice
        match w.listing? u with
        | some (_, kp2) => put u k w { kp2 with subscribers := subs }
        | none => w

/-- Handles one message while serving. -/
def handle (m : ListMsg) (w : World) : Flow × World :=
  match w.listing? u with
  | none => (.continue, w)
  | some (_, kp) =>
    match m with
    | .event e => (.continue, index u k e w)
    | .idList r => (.continue, (w.deliver r (.items kp.core.state.toList)).2)
    | .subscribe s r =>
      let (subs, _) := kp.subscribers.subscribe Sink.address s
      let w := put u k w { kp with subscribers := subs }
      (.continue, (w.deliver r (.subscribed ⟨unitType k, kp.core.persistenceId⟩)).2)
    | .unsubscribe a =>
      (.continue, put u k w { kp with subscribers := (kp.subscribers.unsubscribe Sink.address a).1 })
    | .forceSnapshot =>
      let (core, store) := kp.core.saveSnapshot w.store
      (.continue, put u k { w with store := store } { kp with core := core })
    | .configure st r =>
      let (res, core, store) := kp.core.persistSetting w.store st
      let w := put u k { w with store := store } { kp with core := core }
      (.continue, (w.deliver r (.configured res)).2)
    | .status r =>
      (.continue, (w.deliver r (.status (kp.core.status kp.subscribers.size 0))).2)
    | .stop => (.stop, w)

/-- How the listing unit at a place behaves. -/
def behaviour : Behaviour Listing ListMsg where
  unit := u
  get w := (w.listing? u).map (·.2)
  put w kp := put u k w kp
  handle := handle u k
  refuse m w := w.dropReplies m.replies
  replies := ListMsg.replies
  idleStops := false
  passivate w := w

def poll (w : World) : World := (behaviour u k).poll (κ := ListCommand) w

end

end ListUnit

end Chronicle
