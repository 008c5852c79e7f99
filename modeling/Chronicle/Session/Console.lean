import Chronicle.World.Schedule
import Chronicle.Session.Documents
import Chronicle.Session.Alias

/-! The console of a running session, and the steps both kinds of session share. -/

namespace Chronicle

/-- A unit the console keeps a handle to. -/
inductive Held where
  | entity (k : EntityType) (c : ChildRef)
  | listing (k : EntityType) (h : Handle)
  | accumulator (k : EntityType) (h : Handle)

namespace Held

def unit : Held → UnitRef
  | .entity _ c => c.unit
  | .listing _ h | .accumulator _ h => h.unit

def address : Held → Uuid
  | .entity _ c => c.address
  | .listing _ h | .accumulator _ h => h.address

end Held

/-- What the console keeps: the world, its handles and its deferred answers. -/
structure Desk where
  world : World
  named : List (String × Held) := []
  registry : Option Directory := none
  script : Option Nat := none
  supervisors : List (EntityType × Handle) := []
  system : Option (Directory × Handle × Handle) := none
  deferred : List (String × Nat) := []

/-- How a wait ended. -/
inductive Outcome where
  | answer (d : Delivery)
  | gone
  | timedOut

namespace Console

def patience : Duration := Duration.ofSecs 864000

def fuel : Nat := 100000

def rounds : Nat := 1000000

def goneJson : Json := refusal "Gone" "unit is gone"

def timeoutJson : Json := refusal "Timeout" "timed out waiting for the unit"

def driverTimeout : Json := refusal "DriverTimeout" "no answer"

def journalJson (e : JournalError) : Json :=
  Json.mkObj [("error", .str "Journal"), ("journal_error", .str e.kind), ("message", .str e.message)]

def shown (o : Outcome) (view : Delivery → Json) : Json :=
  match o with
  | .answer d => view d
  | .gone => goneJson
  | .timedOut => driverTimeout

/-- Waits on a slot until it is filled or dropped, or the console's patience runs out. -/
def await (w : World) (n : Nat) : Outcome × World :=
  match w.slot n with
  | .filled d => (.answer d, w)
  | .gone | .abandoned => (.gone, w)
  | .waiting =>
    let (tag, w) := w.mainTimer patience
    let finish (w : World) : World := { w.cancelMain tag with watch := [] }
    let rec loop : Nat → World → Outcome × World
      | 0, w => (.timedOut, (finish w).abandon n)
      | k + 1, w =>
        let (woken, w) := w.drive fuel
        match w.slot n with
        | .filled d => (.answer d, finish w)
        | .gone | .abandoned => (.gone, finish w)
        | .waiting =>
          if !woken || w.mainRanOut tag then (.timedOut, (finish w).abandon n) else loop k w
    loop rounds { w with watch := [n] }

/-- Sleeps for a span of virtual time, letting every task run and every timer due before its
end fire; `false` if the scheduler's budget ran out first. -/
def sleep (w : World) (d : Duration) : Bool × World :=
  let (tag, w) := w.mainTimer d
  if w.mainRanOut tag then (true, w.cancelMain tag)
  else
    let rec loop : Nat → World → Bool × World
      | 0, w => (false, w.cancelMain tag)
      | k + 1, w =>
        let (_, w) := w.drive fuel
        if w.mainRanOut tag then (true, w.cancelMain tag) else loop k w
    loop rounds w

end Console

namespace Desk

/-- The units the console keeps open. -/
def roots (d : Desk) : List UnitRef :=
  d.named.map (·.2.unit) ++ (d.registry.map Directory.holds).getD [] ++
    d.supervisors.map (·.2.unit) ++
    (match d.system with
      | some (r, c, u) => r.holds ++ [c.unit, u.unit]
      | none => [])

def settle (d : Desk) : Desk := { d with world := { d.world with roots := d.roots }.sweep }

def ask (d : Desk) (u : UnitRef) (letter : Reply → Letter) : Outcome × Desk :=
  let (n, w) := d.world.newSlot
  let (_, w) := w.post u (letter (.slot n))
  let (o, w) := Console.await w n
  (o, { d with world := w })

def tell (d : Desk) (u : UnitRef) (l : Letter) : Bool × Desk :=
  let (sent, w) := d.world.post u l
  (sent, { d with world := w })

def probe (d : Desk) (name : String) : Probe × Desk :=
  let (p, w) := d.world.probe name
  (p, { d with world := w })

/-- Switches the journal's failures on or off, as a step gives them. -/
def fail (d : Desk) (arg : Json) : Answered (Json × Desk) := do
  let f := d.world.store.faults
  let appends := Request.flag arg "appends" f.appends
  let snapshots := Request.flag arg "snapshots" f.snapshots
  let reads := Request.flag arg "reads" f.reads
  let store := { d.world.store with faults := ⟨appends, snapshots, reads⟩ }
  pure (Json.mkObj [("ok", .bool true)], { d with world := { d.world with store := store } })

def probeEvents (d : Desk) (name : String) : Json × Desk :=
  let (p, d) := d.probe name
  let w := { d.world with probes := d.world.probes.map (fun e =>
    if e.1 = name then (e.1, { e.2 with events := [] }) else e) }
  (Json.mkObj [("events", .arr (p.events.map Event.toJson))], { d with world := w })

def probeKill (d : Desk) (name : String) : Json × Desk :=
  let (_, d) := d.probe name
  let w := { d.world with probes := d.world.probes.map (fun e =>
    if e.1 = name then (e.1, { e.2 with killed := true }) else e) }
  (Json.mkObj [("ok", .bool true)], { d with world := w })

/-- Waits for an answer deferred under a key. -/
def collect (d : Desk) (key : String) : Answered (Json × Desk) :=
  match d.deferred.lookup key with
  | none => .error (badInput ("nothing deferred as '" ++ key ++ "'"))
  | some n =>
    let (o, w) := Console.await d.world n
    let d := { d with world := w, deferred := d.deferred.filter (·.1 ≠ key) }
    .ok (Console.shown o (fun
      | .event e => e.toJson
      | _ => Json.null), d)

def commonVerbs : List String :=
  ["sleep_ms", "fail", "journal", "probe_events", "collect", "probe_kill"]

def namingVerbs : List String := ["probe_events", "collect", "probe_kill"]

/-- The steps every session with running units has: `sleep_ms`, `fail`, `journal`, and, when
their value is a name, `probe_events`, `collect` and `probe_kill`. -/
def common (d : Desk) (verb : String) (arg : Json) : Option (Answered (Json × Desk)) :=
  match verb with
  | "fail" => some (d.fail arg)
  | "journal" =>
    let (a, j) := Documents.journalStep d.world.store.journal arg
    some (.ok (a, { d with world := { d.world with store := { d.world.store with journal := j } } }))
  | "probe_events" => arg.str?.map (fun name => .ok (d.probeEvents name))
  | "probe_kill" => arg.str?.map (fun name => .ok (d.probeKill name))
  | "collect" => arg.str?.map d.collect
  | "sleep_ms" => some (do
      let ms ← match Read.u64 arg with
        | .ok ms => pure ms
        | .error _ => throw (badInput "sleep_ms takes u64")
      let (_, w) := Console.sleep d.world (Duration.ofMillis ms)
      pure (Json.mkObj [("slept", .ofNat ms)], { d with world := w }))
  | _ => none

end Desk

namespace Console

/-- A setting that, when present, must be an unsigned integer below `2 ^ 32`; its refusal
names the key. -/
def u32Setting (j : Json) (key : String) : Answered (Option Nat) :=
  match j.field? key with
  | none => .ok none
  | some v =>
    match v.nat? with
    | some n => if n < Nat.pow 2 32 then .ok (some n) else .error (badInput (key ++ " must be u32"))
    | none => .error (badInput (key ++ " must be u32"))

def millisSetting (j : Json) (key : String) : Answered (Option Duration) :=
  (Request.optNat j key).map (·.map Duration.ofMillis)

/-- Reads a unit's settings: each key given is applied through its builder, and a strict
recovery that is not a boolean is passed over. -/
def readUnitConfig (j : Json) : Answered UnitConfig := do
  let c : UnitConfig := {}
  let c := match ← u32Setting j "snapshot_trigger_count" with
    | some n => c.withSnapshotTriggerCount n
    | none => c
  let c := match ← millisSetting j "inactivity_flush_ms" with
    | some d => c.withInactivityFlush d
    | none => c
  let c := match ← Request.optNat j "stash_capacity" with
    | some n => c.withStashCapacity n
    | none => c
  match (j.field? "strict_recovery").bind Json.bool? with
    | some b => pure (c.withStrictRecovery b)
    | none => pure c

/-- Reads a supervisor's settings; keys not given keep their defaults. -/
def readSupervisorConfig (j : Json) : Answered SupervisorConfig := do
  let c : SupervisorConfig := {}
  let c := match ← millisSetting j "registration_timeout_ms" with
    | some d => { c with registrationTimeout := d }
    | none => c
  let c ← match ← Request.optNat j "registration_retries" with
    | some n =>
      if n < Nat.pow 2 32 then pure { c with registrationRetries := UInt32.ofNat n }
      else throw (badInput "registration_retries must be u32")
    | none => pure c
  let c := match ← millisSetting j "backoff_step_ms" with
    | some d => { c with registrationBackoff := { c.registrationBackoff with step := d } }
    | none => c
  let c := match ← millisSetting j "backoff_cap_ms" with
    | some d => { c with registrationBackoff := { c.registrationBackoff with cap := d } }
    | none => c
  let c := match ← millisSetting j "list_poll_interval_ms" with
    | some d => { c with listPollInterval := d }
    | none => c
  let c := match ← millisSetting j "accumulator_pull_timeout_ms" with
    | some d => { c with accumulatorPullTimeout := d }
    | none => c
  match j.field? "unit" with
  | none | some .null => pure c
  | some u => pure { c with unit := ← readUnitConfig u }

/-- Runs the steps of a session one by one: each step has its `~N` resolved first, is read as
the verb `choose` finds in it, and its answer gets aliases and marks after it. -/
def runSteps (req : Json) (choose : Json → Option (String × Json)) (start : Desk)
    (step : Desk → String → Json → Answered (Json × Desk)) : Answered Json := do
  let steps ← Request.steps req
  let (answers, _, _) := steps.foldl (fun (acc : List Json × Desk × Aliases) st =>
    let (done, d, names) := acc
    let resolved := names.resolve st
    let (a, d) := match choose resolved with
      | some (verb, arg) =>
        match step d verb arg with
        | .ok (a, d) => (a, d)
        | .error e => (e, d)
      | none => (badInput "empty step", d)
    let (shown, names) := Aliases.rename a names
    (done ++ [shown], d, names)) ([], start, Aliases.ofRequest req)
  pure (Json.mkObj [("steps", .arr answers)])

end Console

end Chronicle
