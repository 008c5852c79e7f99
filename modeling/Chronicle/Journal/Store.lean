import Chronicle.Core.Aggregate
import Chronicle.Json.Value

/-! Journals: one numbered log per persistence id, with at most one snapshot each. -/

namespace Chronicle

/-- An entry of a log. -/
structure LogEntry where
  sequenceNr : Nat
  cls : String
  payload : Json
  deriving Inhabited

/-- A snapshot of a state at a sequence number. -/
structure Snapshot where
  sequenceNr : Nat
  state : Json
  deriving Inhabited

/-- One log: its entries in order and its snapshot. -/
structure Log where
  entries : List LogEntry := []
  snapshot : Option Snapshot := none
  deriving Inhabited

namespace Log

def lastSequenceNr (l : Log) : Nat :=
  match l.entries.getLast? with
  | some e => e.sequenceNr
  | none => 0

end Log

/-- Why a journal refuses an operation. -/
inductive JournalError where
  | concurrency (detail : String)
  | invalidEntry (detail : String)
  | serialization (detail : String)
  | unavailable (detail : String)
  deriving DecidableEq, Inhabited

namespace JournalError

def kind : JournalError → String
  | .concurrency _ => "Concurrency"
  | .invalidEntry _ => "InvalidEntry"
  | .serialization _ => "Serialization"
  | .unavailable _ => "Unavailable"

def message : JournalError → String
  | .concurrency d => "optimistic concurrency check failed: " ++ d
  | .invalidEntry d => "invalid entry: " ++ d
  | .serialization d => "serialization failed: " ++ d
  | .unavailable d => "journal unavailable: " ++ d

end JournalError

/-- What recovery reads of a log: the snapshot and all entries. -/
structure Recovery where
  snapshot : Option Snapshot := none
  entries : List LogEntry := []
  deriving Inhabited

namespace Recovery

def lastSequenceNr (r : Recovery) : Nat :=
  match r.entries.getLast? with
  | some e => e.sequenceNr
  | none => 0

end Recovery

def classOf (entry : Json) : Option String :=
  (entry.field? "CommandClass").bind Json.str?

/-- Logs by persistence id, sorted by id. -/
structure Journal where
  logs : List (String × Log) := []
  deriving Inhabited

namespace Journal

def log (j : Journal) (pid : String) : Log :=
  (j.logs.lookup pid).getD {}

/-- The journal with a log stored under a persistence id, ids kept sorted. -/
def setLog (j : Journal) (pid : String) (l : Log) : Journal :=
  let rec ins : List (String × Log) → List (String × Log)
    | [] => [(pid, l)]
    | (p, x) :: rest =>
      if pid < p then (pid, l) :: (p, x) :: rest
      else if pid = p then (pid, l) :: rest
      else (p, x) :: ins rest
  ⟨ins j.logs⟩

/-- Appends an entry: refused without a class, or when the log is not at the expected
version (the log is created all the same). Gives the new entry's sequence number. -/
def append (j : Journal) (pid : String) (expected : ExpectedVersion) (entry : Json) :
    Except JournalError Nat × Journal :=
  match classOf entry with
  | none =>
    (.error (.invalidEntry ("entry for '" ++ pid ++ "' has no CommandClass discriminator")), j)
  | some cls =>
    let l := j.log pid
    let current := l.lastSequenceNr
    if expected.accepts current then
      let n := current + 1
      (.ok n, j.setLog pid { l with entries := l.entries ++ [⟨n, cls, entry⟩] })
    else
      (.error (.concurrency ("'" ++ pid ++ "' expected " ++ expected.describe ++ ", found " ++
        toString current)), j.setLog pid l)

def readAll (j : Journal) (pid : String) : Recovery :=
  let l := j.log pid
  ⟨l.snapshot, l.entries⟩

/-- Saves a snapshot: refused when ahead of the log; kept out when older than the stored
one. The log is created in any case. -/
def saveSnapshot (j : Journal) (pid : String) (seq : Nat) (state : Json) :
    Except JournalError Unit × Journal :=
  let l := j.log pid
  if seq > l.lastSequenceNr then
    (.error (.invalidEntry ("snapshot for '" ++ pid ++ "' at " ++ toString seq ++
      " is ahead of the log (" ++ toString l.lastSequenceNr ++ ")")), j.setLog pid l)
  else
    match l.snapshot with
    | some s => if s.sequenceNr > seq then (.ok (), j.setLog pid l)
      else (.ok (), j.setLog pid { l with snapshot := some ⟨seq, state⟩ })
    | none => (.ok (), j.setLog pid { l with snapshot := some ⟨seq, state⟩ })

def len (j : Journal) (pid : String) : Nat := (j.log pid).entries.length

def persistenceIds (j : Journal) : List String := j.logs.map (·.1)

end Journal

/-- Which journal operations are made to fail. -/
structure Faults where
  appends : Bool := false
  snapshots : Bool := false
  reads : Bool := false
  deriving DecidableEq, Inhabited

/-- A journal with operations that may be made to fail. A failing operation is refused as
unavailable before it touches the journal. -/
structure Store where
  journal : Journal := {}
  faults : Faults := {}
  deriving Inhabited

namespace Store

/-- Appends an entry, unless appends fail. -/
def append (s : Store) (pid : String) (expected : ExpectedVersion) (entry : Json) :
    Except JournalError Nat × Store :=
  if s.faults.appends then (.error (.unavailable "disk full"), s)
  else
    let (r, j) := s.journal.append pid expected entry
    (r, { s with journal := j })

def readAll (s : Store) (pid : String) : Except JournalError Recovery :=
  if s.faults.reads then .error (.unavailable "store offline") else .ok (s.journal.readAll pid)

/-- Saves a snapshot, unless snapshots fail. -/
def saveSnapshot (s : Store) (pid : String) (seq : Nat) (state : Json) :
    Except JournalError Unit × Store :=
  if s.faults.snapshots then (.error (.unavailable "snapshot store offline"), s)
  else
    let (r, j) := s.journal.saveSnapshot pid seq state
    (r, { s with journal := j })

end Store

end Chronicle
