import Chronicle.Unit.Core
import Chronicle.Client.State
import Chronicle.User.State
import Chronicle.Record.Envelope

/-! Messages between units, and the replies that carry answers. -/

namespace Chronicle

def EntityType.Rec : EntityType → Type
  | .client => ClientState
  | .user => UserState

instance EntityType.instRecordRec (k : EntityType) : Record k.Rec :=
  match k with
  | .client => inferInstanceAs (Record ClientState)
  | .user => inferInstanceAs (Record UserState)

/-- A unit's place in the world. -/
abbrev UnitRef := Nat

/-- An entity unit as others hold it: where it runs, the record it keeps, its address. -/
structure ChildRef where
  unit : UnitRef
  id : Uuid
  address : Uuid

/-- A recipient of events: a listing's or an accumulator's inbox, or a named probe. -/
inductive Sink where
  | listing (u : UnitRef) (address : Uuid)
  | accumulator (u : UnitRef) (address : Uuid)
  | probe (name : String) (address : Uuid)

namespace Sink

def address : Sink → Uuid
  | .listing _ a | .accumulator _ a | .probe _ a => a

def holds : Sink → List UnitRef
  | .listing u _ | .accumulator u _ => [u]
  | .probe .. => []

end Sink

/-- How a supervisor reaches a registry: a registry unit, or a scripted stand-in. -/
inductive Directory where
  | unit (u : UnitRef) (address : Uuid)
  | scripted (script : Nat) (address : Uuid)

namespace Directory

def address : Directory → Uuid
  | .unit _ a | .scripted _ a => a

def holds : Directory → List UnitRef
  | .unit u _ => [u]
  | .scripted .. => []

end Directory

/-- Where a registry hands commands for a kind: a supervisor's own inbox (which does not keep
it open), a forwarder to a supervisor (which does), or a recipient that refuses all. -/
inductive Inbound where
  | supervisor (u : UnitRef) (address : Uuid)
  | forward (u : UnitRef) (address : Uuid)
  | refuse (address : Uuid)

namespace Inbound

def address : Inbound → Uuid
  | .supervisor _ a | .forward _ a | .refuse a => a

def holds : Inbound → List UnitRef
  | .forward u _ => [u]
  | .supervisor .. | .refuse _ => []

end Inbound

/-- A registry's entry: the kind it is for and where its commands go. -/
structure SupervisorRef where
  entityType : EntityType
  inbound : Inbound

/-- The one an accumulator asks for its children: its supervisor (through the supervisor's own
inbox), a fixed list of children given once or twice, or one that refuses. -/
inductive Parent where
  | supervisor (u : UnitRef)
  | fixed (children : List ChildRef) (twice : Bool)
  | refusing

def Parent.holds : Parent → List UnitRef
  | .fixed cs _ => cs.map (·.unit)
  | .supervisor _ | .refusing => []

/-- Where an answer goes. -/
inductive Reply where
  | ignore
  | slot (n : Nat)
  | pulled (acc : UnitRef)
  | handed (acc : UnitRef)
  | listed (sup : UnitRef) (poll : Nat)
  | answered (sup : UnitRef) (correlation : Uuid)

/-- The phase of an accumulator. -/
inductive AccPhase where
  | initializing
  | ready
  deriving DecidableEq

/-- What an accumulator reports about itself. -/
structure AccStatus where
  phase : AccPhase
  children : Nat
  pending : Nat
  stashed : Nat

def AccStatus.toJson (s : AccStatus) : Json :=
  Json.mkObj [("phase", .str (match s.phase with
      | .initializing => "Initializing"
      | .ready => "Ready")),
    ("children", .ofNat s.children), ("pending", .ofNat s.pending), ("stashed", .ofNat s.stashed)]

/-- The phase of a supervisor. -/
inductive SupPhase where
  | registering
  | initializing
  | ready
  deriving DecidableEq

/-- What a supervisor reports about itself. -/
structure SupStatus where
  entityType : EntityType
  phase : SupPhase
  attempts : Nat
  children : List Uuid
  stashed : Nat

/-- The document form of a supervisor's report. -/
def SupStatus.toJson (s : SupStatus) : Json :=
  Json.mkObj [("entity_type", s.entityType.toJson),
    ("phase", .str (match s.phase with
      | .registering => "Registering"
      | .initializing => "Initializing"
      | .ready => "Ready")),
    ("registration_attempts", .ofNat s.attempts),
    ("children", .arr (s.children.map (fun i => .str i.render))), ("stashed", .ofNat s.stashed)]

/-- The acknowledgement of a subscription: the kind of unit and its persistence id. -/
structure Subscribed where
  unitType : String
  persistenceId : String

def Subscribed.toJson (s : Subscribed) : Json :=
  Json.mkObj [("unit_type", .str s.unitType), ("persistence_id", .str s.persistenceId)]

/-- An answer, of any of the kinds units give. -/
inductive Delivery where
  | event (e : Event)
  | state (source : Uuid) (id : Uuid) (doc : Option Json)
  | subscribed (s : Subscribed)
  | configured (r : Except JournalError Unit)
  | status (s : UnitStatus)
  | items (xs : List ListItem)
  | records (xs : List Json)
  | children (xs : List ChildRef)
  | accStatus (s : AccStatus)
  | supStatus (s : SupStatus)
  | accepted (b : Bool)
  | directory (xs : List (EntityType × SupervisorRef))
  | found (r : Option SupervisorRef)

/-- A message to an entity unit of kind `k`. -/
inductive EntityMsg (k : EntityType) where
  | execute (c : Command k.Rec) (reply : Reply)
  | getState (reply : Reply)
  | subscribe (s : Sink) (reply : Reply)
  | unsubscribe (address : Uuid)
  | forceSnapshot
  | configure (s : UnitSetting) (reply : Reply)
  | status (reply : Reply)
  | stop

namespace EntityMsg

def replies {k : EntityType} : EntityMsg k → List Reply
  | .execute _ r | .getState r | .subscribe _ r | .configure _ r | .status r => [r]
  | .unsubscribe _ | .forceSnapshot | .stop => []

def holds {k : EntityType} : EntityMsg k → List UnitRef
  | .subscribe s _ => s.holds
  | _ => []

end EntityMsg

/-- A message to a listing unit. -/
inductive ListMsg where
  | event (e : Event)
  | idList (reply : Reply)
  | subscribe (s : Sink) (reply : Reply)
  | unsubscribe (address : Uuid)
  | forceSnapshot
  | configure (s : UnitSetting) (reply : Reply)
  | status (reply : Reply)
  | stop

namespace ListMsg

def replies : ListMsg → List Reply
  | .idList r | .subscribe _ r | .configure _ r | .status r => [r]
  | .event _ | .unsubscribe _ | .forceSnapshot | .stop => []

def holds : ListMsg → List UnitRef
  | .subscribe s _ => s.holds
  | _ => []

end ListMsg

/-- A message to an accumulator. -/
inductive AccMsg where
  | children (xs : List ChildRef)
  | state (source : Uuid) (id : Uuid) (doc : Option Json)
  | pullTimeout
  | event (e : Event)
  | getList (reply : Reply)
  | status (reply : Reply)
  | stop

namespace AccMsg

def replies : AccMsg → List Reply
  | .getList r | .status r => [r]
  | _ => []

def holds : AccMsg → List UnitRef
  | .children xs => xs.map (·.unit)
  | _ => []

end AccMsg

/-- What a supervisor's own timers deliver to it. -/
inductive SupSignal where
  | registrationTimeout (correlation : Uuid)
  | retryRegistration
  | pollList

/-- A message to a supervisor of kind `k`. -/
inductive SupMsg (k : EntityType) where
  | registryReady (d : Directory)
  | registered (correlation : Uuid) (accepted : Bool)
  | signal (s : SupSignal)
  | listSnapshot (poll : Nat) (items : List ListItem)
  | execute (c : Command k.Rec) (reply : Reply)
  | submit (e : Envelope) (reply : Reply)
  | idList (reply : Reply)
  | getList (reply : Reply)
  | childRefs (reply : Reply)
  | subscribeList (s : Sink) (reply : Reply)
  | status (reply : Reply)
  | stop

namespace SupMsg

def replies {k : EntityType} : SupMsg k → List Reply
  | .execute _ r | .submit _ r | .idList r | .getList r | .childRefs r | .subscribeList _ r
  | .status r => [r]
  | _ => []

def holds {k : EntityType} : SupMsg k → List UnitRef
  | .registryReady d => d.holds
  | .subscribeList s _ => s.holds
  | _ => []

end SupMsg

/-- A message to a registry. -/
inductive RegistryMsg where
  | register (k : EntityType) (r : SupervisorRef) (reply : Reply)
  | getList (reply : Reply)
  | lookup (k : EntityType) (reply : Reply)
  | stop

namespace RegistryMsg

def replies : RegistryMsg → List Reply
  | .register _ _ r | .getList r | .lookup _ r => [r]
  | .stop => []

def holds : RegistryMsg → List UnitRef
  | .register _ r _ => r.inbound.holds
  | _ => []

end RegistryMsg

end Chronicle
