import Chronicle.Event.Meta
import Chronicle.Event.Kind

/-! Events: what a unit announces for every command it decides on. -/

namespace Chronicle

/-- An announcement of the outcome of a command. -/
structure Event where
  id : Option Uuid := none
  displayName : String := ""
  success : Bool := true
  emittingUnit : String := ""
  entityType : EntityType
  commandType : CommandType
  message : String := ""
  payload : Json := .null
  actingUser : String
  connectionId : String
  deriving Inhabited

namespace Event

def succeeded (k : EntityType) (t : CommandType) (m : CommandMeta) : Event :=
  { entityType := k, commandType := t, actingUser := m.actingUser, connectionId := m.connectionId }

def failed (k : EntityType) (t : CommandType) (m : CommandMeta) (reason : String) : Event :=
  { succeeded k t m with success := false, message := reason }

def emittedBy (e : Event) (unit : String) : Event := { e with emittingUnit := unit }

def forEntity (e : Event) (id : Option Uuid) (name : String) : Event :=
  { e with id := id, displayName := name }

def withPayload (e : Event) (p : Json) : Event := { e with payload := p }

def isFailure (e : Event) : Bool := !e.success

def eventType (e : Event) : String :=
  let stem := e.entityType.stem
  stem ++ "s." ++ stem ++ "." ++
    (if e.success then e.commandType.outcome else e.commandType.verb ++ "_failed")

/-- The document form. -/
def toJson (e : Event) : Json :=
  Json.mkObj [("id", Json.ofOption (e.id.map (.str ·.render))), ("displayName", .str e.displayName),
    ("success", .bool e.success), ("emittingUnit", .str e.emittingUnit),
    ("entityType", e.entityType.toJson), ("commandType", e.commandType.toJson),
    ("message", .str e.message), ("payload", e.payload), ("actingUser", .str e.actingUser),
    ("connectionId", .str e.connectionId), ("eventType", .str e.eventType)]

end Event

end Chronicle
