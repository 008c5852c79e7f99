import Chronicle.Journal.Entry
import Chronicle.Record.Rules

/-! The persistence core of a unit: recovery, logging and snapshots. -/

namespace Chronicle

/-- One step of recovery, in the order the journal hands them out. -/
inductive ReplayItem where
  | snapshot (s : Snapshot)
  | entry (e : LogEntry)
  | completed

/-- Where a persistent unit is in its life. -/
inductive UnitPhase where
  | recovering
  | commandProcessing
  deriving DecidableEq

def UnitPhase.name : UnitPhase → String
  | .recovering => "Recovering"
  | .commandProcessing => "CommandProcessing"

/-- A logged entry recovery could not read back, with the class it named. -/
structure SkippedEntry where
  sequenceNr : Nat
  cls : Option String
  reason : String

/-- What a persistent unit reports about itself. -/
structure UnitStatus where
  persistenceId : String
  phase : UnitPhase
  sequenceNr : Nat
  lastSnapshotNr : Nat
  snapshotTriggerCount : Nat
  subscribers : Nat
  stashed : Nat
  skipped : List SkippedEntry

/-- The document form of a status. -/
def UnitStatus.toJson (s : UnitStatus) : Json :=
  Json.mkObj [("persistence_id", .str s.persistenceId), ("phase", .str s.phase.name),
    ("sequence_nr", .ofNat s.sequenceNr), ("last_snapshot_nr", .ofNat s.lastSnapshotNr),
    ("snapshot_trigger_count", .ofNat s.snapshotTriggerCount),
    ("subscribers", .ofNat s.subscribers), ("stashed", .ofNat s.stashed),
    ("skipped", .arr (s.skipped.map (fun e => Json.mkObj [("sequence_nr", .ofNat e.sequenceNr),
      ("class", Json.ofStr? e.cls), ("reason", .str e.reason)])))]

/-- A state that snapshots keep: its document, and the state a document reads back as. -/
class Stored (α : Type) where
  toJson : α → Json
  read? : Json → Option α

instance {σ : Type} [Record σ] : Stored σ where
  toJson := Record.toJson
  read? j := (Record.read .document j : Decoded σ).toOption

instance : Stored Listing where
  toJson := Listing.toJson
  read? j := (Listing.read .document j).toOption

/-- Recovery met an entry that a strict unit may not pass over. -/
structure RecoveryAborted where
  persistenceId : String
  sequenceNr : Nat
  reason : String

/-- Whether recovery goes on after a step. -/
inductive RecoveryStep where
  | continue
  | completed
  deriving DecidableEq

/-- The state of a persistent unit and its place in its log. -/
structure Core (α : Type) where
  persistenceId : String
  state : α
  config : UnitConfig
  phase : UnitPhase := .recovering
  sequenceNr : Nat := 0
  snapshotNr : Nat := 0
  activity : Nat := 0
  skipped : List SkippedEntry := []

namespace Core

variable {α κ : Type} [Aggregate α κ] [Logged κ] [Stored α]

def new (pid : String) (config : UnitConfig) : Core α :=
  { persistenceId := pid, state := Aggregate.empty, config := config }

def isDirty (c : Core α) : Bool := c.snapshotNr < c.sequenceNr

/-- Everything recovery goes through: the snapshot, the entries, and the end. A failed read
gives only the end, so the unit starts empty. -/
def load (c : Core α) (s : Store) : List ReplayItem :=
  match s.readAll c.persistenceId with
  | .ok r =>
    (match r.snapshot with
      | some sn => [ReplayItem.snapshot sn]
      | none => []) ++ r.entries.map .entry ++ [.completed]
  | .error _ => [.completed]

def installSnapshot (c : Core α) (sn : Snapshot) : Core α :=
  match (Stored.read? sn.state : Option α) with
  | some st => { c with state := st, sequenceNr := sn.sequenceNr, snapshotNr := sn.sequenceNr }
  | none => c

def skip (c : Core α) (e : LogEntry) (err : EntryError) : Except RecoveryAborted (Core α) :=
  if c.config.strictRecovery then .error ⟨c.persistenceId, e.sequenceNr, err.message⟩
  else .ok { c with skipped := c.skipped ++ [⟨e.sequenceNr, err.cls?, err.message⟩] }

/-- Replays one logged entry. An entry at or below the current position is covered by the
snapshot and passed over unless it is a setting; a covered setting does not move the
position. -/
def replay (c : Core α) (e : LogEntry) : Except RecoveryAborted (Core α) :=
  let covered := decide (e.sequenceNr ≤ c.sequenceNr)
  if covered && !UnitSetting.classes.contains e.cls then .ok c
  else
    let applied : Except RecoveryAborted (Core α) :=
      match decodeEntry κ e.payload with
      | .ok (.command k) => .ok { c with state := Aggregate.apply c.state k }
      | .ok (.setting st) => .ok { c with config := c.config.apply st }
      | .error err => c.skip e err
    applied.map (fun c' => if covered then c' else { c' with sequenceNr := e.sequenceNr })

def recover (c : Core α) : ReplayItem → Except RecoveryAborted (RecoveryStep × Core α)
  | .snapshot sn => .ok (.continue, c.installSnapshot sn)
  | .entry e => (replay (κ := κ) c e).map (fun c' => (.continue, c'))
  | .completed => .ok (.completed, { c with phase := .commandProcessing })

/-- Saves a snapshot at the current position; nothing is saved at position zero, and a
refused snapshot leaves the unit as it was. -/
def saveSnapshot (c : Core α) (s : Store) : Core α × Store :=
  if c.sequenceNr = 0 then (c, s)
  else
    match s.saveSnapshot c.persistenceId c.sequenceNr (Stored.toJson c.state) with
    | (.ok (), s') => ({ c with snapshotNr := c.sequenceNr }, s')
    | (.error _, s') => (c, s')

/-- Logs an entry and applies it; a refused append leaves the state as it was. A snapshot
follows an entry that calls for one, and every `trigger`-th entry of this run. -/
def persist (c : Core α) (s : Store) (entry : κ) : Except JournalError Nat × Core α × Store :=
  match s.append c.persistenceId (.exact c.sequenceNr) (Logged.toJson entry) with
  | (.error e, s') => (.error e, c, s')
  | (.ok n, s') =>
    let c1 := { c with sequenceNr := n, state := Aggregate.apply c.state entry,
                       activity := c.activity + 1 }
    if Logged.forcesSnapshot entry || c1.activity % (max c1.config.snapshotTriggerCount 1) == 0 then
      let (c2, s2) := c1.saveSnapshot s'
      (.ok n, c2, s2)
    else (.ok n, c1, s')

def persistSetting (c : Core α) (s : Store) (st : UnitSetting) :
    Except JournalError Unit × Core α × Store :=
  match s.append c.persistenceId (.exact c.sequenceNr) st.toJson with
  | (.error e, s') => (.error e, c, s')
  | (.ok n, s') => (.ok (), { c with sequenceNr := n, config := c.config.apply st }, s')

def status (c : Core α) (subscribers stashed : Nat) : UnitStatus :=
  { persistenceId := c.persistenceId, phase := c.phase, sequenceNr := c.sequenceNr,
    lastSnapshotNr := c.snapshotNr, snapshotTriggerCount := c.config.snapshotTriggerCount,
    subscribers := subscribers, stashed := stashed, skipped := c.skipped }

end Core

end Chronicle
