import Chronicle.Core.Duration
import Chronicle.Codec.Read
import Chronicle.Text.Blank

/-! Unit settings, and reading them from the environment. -/

namespace Chronicle

/-- How a persistent unit behaves. -/
structure UnitConfig where
  snapshotTriggerCount : Nat := 5
  inactivityFlush : Duration := Duration.ofSecs (30 * 24 * 60 * 60)
  stashCapacity : Option Nat := none
  strictRecovery : Bool := false
  deriving DecidableEq, Inhabited

/-- A change of a unit's behaviour that is logged like a command. -/
inductive UnitSetting where
  | snapshotTriggerCount (value : Nat)
  | inactivityFlushSecs (value : Nat)
  deriving DecidableEq

namespace UnitSetting

def classes : List String := ["SetSnapshotTriggerCount", "SetInactivityFlushSec"]

def cls : UnitSetting → String
  | .snapshotTriggerCount _ => "SetSnapshotTriggerCount"
  | .inactivityFlushSecs _ => "SetInactivityFlushSec"

def toJson (s : UnitSetting) : Json :=
  match s with
  | .snapshotTriggerCount v | .inactivityFlushSecs v =>
    Json.mkObj [("CommandClass", .str s.cls), ("value", .ofNat v)]

/-- Reads a logged setting. -/
def read (j : Json) : Decoded UnitSetting :=
  readTagged "UnitSetting" "CommandClass" classes (fun name body =>
    if name = "SetSnapshotTriggerCount" then
      readRecord "variant UnitSetting::SetSnapshotTriggerCount"
        [Field.plain "value" .required Read.u32 (fun _ v => .snapshotTriggerCount v)]
        (.snapshotTriggerCount 0) .buffered body
    else
      readRecord "variant UnitSetting::SetInactivityFlushSec"
        [Field.plain "value" .required Read.u64 (fun _ v => .inactivityFlushSecs v)]
        (.inactivityFlushSecs 0) .buffered body) j

end UnitSetting

namespace UnitConfig

def withSnapshotTriggerCount (c : UnitConfig) (n : Nat) : UnitConfig :=
  { c with snapshotTriggerCount := max n 1 }

def withInactivityFlush (c : UnitConfig) (d : Duration) : UnitConfig :=
  { c with inactivityFlush := d }

def withStashCapacity (c : UnitConfig) (n : Nat) : UnitConfig :=
  { c with stashCapacity := some n }

def withStrictRecovery (c : UnitConfig) (b : Bool) : UnitConfig :=
  { c with strictRecovery := b }

def apply (c : UnitConfig) : UnitSetting → UnitConfig
  | .snapshotTriggerCount v => { c with snapshotTriggerCount := max v 1 }
  | .inactivityFlushSecs v => { c with inactivityFlush := Duration.ofSecs v }

def toJson (c : UnitConfig) : Json :=
  Json.mkObj [("snapshot_trigger_count", .ofNat c.snapshotTriggerCount),
    ("inactivity_flush", c.inactivityFlush.toJson),
    ("stash_capacity", Json.ofOption (c.stashCapacity.map Json.ofNat)),
    ("strict_recovery", .bool c.strictRecovery)]

end UnitConfig

/-- How a supervisor registers, discovers its records and hands them to its read models. -/
structure SupervisorConfig where
  registrationTimeout : Duration := Duration.ofSecs 5
  registrationRetries : UInt32 := 5
  registrationBackoff : Backoff := ⟨Duration.ofSecs 5, Duration.ofSecs 60⟩
  listPollInterval : Duration := Duration.ofSecs 5
  accumulatorPullTimeout : Duration := Duration.ofSecs 10
  unit : UnitConfig := {}
  deriving DecidableEq, Inhabited

namespace SupervisorConfig

/-- The document form. -/
def toJson (c : SupervisorConfig) : Json :=
  Json.mkObj [("registration_timeout", c.registrationTimeout.toJson),
    ("registration_retries", .ofNat c.registrationRetries.toNat),
    ("registration_backoff", Json.mkObj [("step", c.registrationBackoff.step.toJson),
      ("cap", c.registrationBackoff.cap.toJson)]),
    ("list_poll_interval", c.listPollInterval.toJson),
    ("accumulator_pull_timeout", c.accumulatorPullTimeout.toJson),
    ("unit", c.unit.toJson)]

end SupervisorConfig

namespace Setting

/-- Reads an unsigned decimal below `2 ^ bits`: an optional plus sign, then one or more
ASCII digits. -/
def unsigned (bits : Nat) (s : String) : Option Nat :=
  let ds := match s.toList with
    | '+' :: rest => rest
    | cs => cs
  if ds.isEmpty ∨ !ds.all Char.isDigit then none
  else
    let v := ds.foldl (fun acc c => acc * 10 + (c.toNat - 48)) 0
    if v < Nat.pow 2 bits then some v else none

def boolean (s : String) : Option Bool :=
  if s = "true" then some true else if s = "false" then some false else none

def lookup (env : String → Option String) (key : String) (r : String → Option α) : Option α :=
  (env key).bind (fun raw => r (Blank.trim raw))

/-- The configuration from environment variables; a variable that is unset or does not read
keeps the default, and a snapshot trigger of zero counts as one. -/
def fromEnv (env : String → Option String) : SupervisorConfig :=
  let d : SupervisorConfig := {}
  let u := d.unit
  let u := match lookup env "STEWARD_SNAPSHOT_TRIGGER_COUNT" (unsigned 32) with
    | some n => { u with snapshotTriggerCount := max n 1 }
    | none => u
  let u := match lookup env "STEWARD_INACTIVITY_FLUSH_SECS" (unsigned 64) with
    | some n => { u with inactivityFlush := Duration.ofSecs n }
    | none => u
  let u := match lookup env "STEWARD_STASH_CAPACITY" (unsigned 64) with
    | some n => { u with stashCapacity := some n }
    | none => u
  let u := match lookup env "STEWARD_STRICT_RECOVERY" boolean with
    | some b => { u with strictRecovery := b }
    | none => u
  let c := { d with unit := u }
  let c := match lookup env "STEWARD_REGISTRATION_TIMEOUT_SECS" (unsigned 64) with
    | some n => { c with registrationTimeout := Duration.ofSecs n }
    | none => c
  let c := match lookup env "STEWARD_REGISTRATION_RETRIES" (unsigned 32) with
    | some n => { c with registrationRetries := UInt32.ofNat n }
    | none => c
  let c := match lookup env "STEWARD_LIST_POLL_INTERVAL_SECS" (unsigned 64) with
    | some n => { c with listPollInterval := Duration.ofSecs n }
    | none => c
  match lookup env "STEWARD_ACCUMULATOR_PULL_TIMEOUT_SECS" (unsigned 64) with
    | some n => { c with accumulatorPullTimeout := Duration.ofSecs n }
    | none => c

end Setting

end Chronicle
