import Chronicle.Session.System

/-! Starting a node and waiting, for a bounded time, for both supervisors. -/

namespace Chronicle

namespace Node

def readyCeiling : Duration := Duration.ofSecs 3600

def countLimit : Nat := Nat.pow 2 32 - 1

def saturatingAdd (a b : Duration) : Duration :=
  if a.nanos + b.nanos > Duration.maxNanos then ⟨Duration.maxNanos⟩ else ⟨a.nanos + b.nanos⟩

/-- How long a node waits for its supervisors under a configuration. -/
def readyWithin (c : SupervisorConfig) : Duration :=
  let retries := c.registrationRetries.toNat
  let rounds := min (retries + 1) countLimit
  let registering := saturatingAdd (c.registrationTimeout.saturatingMul rounds)
    (c.registrationBackoff.cap.saturatingMul retries)
  let discovering := (saturatingAdd c.listPollInterval c.registrationBackoff.cap).saturatingMul rounds
  (saturatingAdd (saturatingAdd registering discovering) (Duration.ofSecs 1)).min readyCeiling

def settingKeys : List String :=
  ["STEWARD_SNAPSHOT_TRIGGER_COUNT", "STEWARD_INACTIVITY_FLUSH_SECS", "STEWARD_STASH_CAPACITY",
   "STEWARD_STRICT_RECOVERY", "STEWARD_REGISTRATION_TIMEOUT_SECS",
   "STEWARD_REGISTRATION_RETRIES", "STEWARD_LIST_POLL_INTERVAL_SECS",
   "STEWARD_ACCUMULATOR_PULL_TIMEOUT_SECS"]

/-- Boots a system on a fresh world with the configuration an environment gives, and waits
for it: `true` when both supervisors became ready in time. -/
def start (env : String → Option String) : Bool × Desk :=
  let config := Setting.fromEnv env
  let d := System.bootWith { world := { ids := { millis := Timestamp.now.unixMillis } } } config
  match d.system with
  | some (_, clients, users) =>
    match System.waitSystem d clients users (readyWithin config) with
    | (.ok (), d) => (true, d)
    | (.error _, d) => (false, d)
  | none => (false, d)

end Node

end Chronicle
