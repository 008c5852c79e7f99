import Chronicle.World.Supervisor

/-! Scheduling on one thread with a virtual clock. -/

namespace Chronicle

namespace World

def idleRanOut (w : World) (u : UnitRef) : World :=
  match w.cell? u with
  | some (.entity k id kp) => w.setCell u (.entity k id { kp with idleDue := true, run := .serving none })
  | some (.listing k kp) => w.setCell u (.listing k { kp with idleDue := true, run := .serving none })
  | _ => w

/-- Wakes the owner of a timer entry that ran out. -/
def fire (w : World) : Owner → World
  | .unit u => (w.idleRanOut u).wake u
  | .timer t =>
    match w.timers[t]? with
    | some tt =>
      ({ w with timers := w.timers.setIfInBounds t { tt with phase := .fired } }).wakeTimer t
    | none => w
  | .main tag => { w with mainFired := w.mainFired ++ [tag], mainWoken := true }

def fireDue (w : World) : World :=
  let due := (w.wheel.filter (·.deadline ≤ w.now)).mergeSort (fun a b =>
    a.deadline < b.deadline || (a.deadline == b.deadline && a.seq ≤ b.seq))
  let w := { w with wheel := w.wheel.filter (fun e => w.now < e.deadline) }
  due.foldl (fun w e => w.fire e.owner) w

/-- Requeues the tasks that yielded, the last one first. -/
def wakeDeferred (w : World) : World :=
  let w := w.deferred.reverse.foldl (fun w u =>
    match w.cell? u with
    | some c => { (w.setCell u (c.withSched .queued)) with queue := w.queue ++ [.unit u] }
    | none => w) w
  { w with deferred := [] }

def parkYield (w : World) : World := w.fireDue.wakeDeferred

/-- Parks: unless the console is woken, the clock first moves to the earliest timer. -/
def park (w : World) : World :=
  let w := if w.mainWoken then w
    else
      match w.wheel.map (·.deadline) |>.min? with
      | some d => { w with now := max w.now d }
      | none => w
  w.parkYield

def ring (w : World) : Alarm → World
  | .pullTimeout acc => (w.postWeak acc (.accumulator .pullTimeout)).2
  | .signal sup s => (w.postSupWeak sup (fun _ => .signal s)).2
  | .answer r b => (w.deliver r (.accepted b)).2

/-- One turn of a timer task. -/
def pollTimer (w : World) (t : Nat) : World :=
  match w.timers[t]? with
  | none => w
  | some tt =>
    let ended : TimerTask := { tt with phase := .ended, sched := .done }
    if tt.cancelled then { w with timers := w.timers.setIfInBounds t ended }
    else
      match tt.phase with
      | .fresh =>
        let deadline := w.deadlineAfter tt.delay
        if deadline ≤ w.now then { w with timers := w.timers.setIfInBounds t ended }.ring tt.alarm
        else
          let (seq, w) := w.register (.timer t) deadline
          { w with timers := w.timers.setIfInBounds t { tt with phase := .sleeping seq,
                                                                 sched := .blocked } }
      | .fired => { w with timers := w.timers.setIfInBounds t ended }.ring tt.alarm
      | .sleeping _ => { w with timers := w.timers.setIfInBounds t { tt with sched := .blocked } }
      | .ended => { w with timers := w.timers.setIfInBounds t ended }

/-- One turn of a task. -/
def pollTask (w : World) : Task → World
  | .unit u =>
    match w.cell? u with
    | none => w
    | some c =>
      if c.sched = .done then w
      else
        let w := w.setCell u (c.withSched .running)
        match c with
        | .entity k id _ => EntityUnit.poll u k id w
        | .listing k _ => ListUnit.poll u k w
        | .accumulator _ => AccUnit.poll u w
        | .supervisor k _ => Supervision.poll u k w
        | .registry _ => RegistryUnit.poll u w
  | .timer t => w.pollTimer t

/-- Wakes the units that wait on an empty inbox nobody holds a handle to. -/
def sweep (w : World) : World :=
  let held := w.holders
  (List.range w.cells.size).foldl (fun w u =>
    match w.cell? u with
    | some c =>
      if c.sched = .blocked && !c.hasMail && !held.contains u then w.wake u else w
    | none => w) w

def batchSize : Nat := 61

/-- Runs queued tasks, at most `n` of them, then parks. -/
def runBatch : Nat → World → World
  | 0, w => w.parkYield
  | n + 1, w =>
    match w.queue with
    | [] => if w.deferred.isEmpty then w.park else w.parkYield
    | t :: rest => runBatch n ({ w with queue := rest }.pollTask t).sweep

/-- Runs the scheduler until the console is woken (`true`), or until nothing can happen any
more or the fuel runs out (`false`). -/
def drive : Nat → World → Bool × World
  | 0, w => (false, w)
  | fuel + 1, w =>
    if w.mainWoken then (true, { w with mainWoken := false })
    else if w.queue.isEmpty && w.deferred.isEmpty && w.wheel.isEmpty then (false, w)
    else drive fuel (runBatch batchSize w)

def mainTimer (w : World) (d : Duration) : Nat × World :=
  let deadline := w.deadlineAfter d
  if deadline ≤ w.now then
    (w.nextSeq, { w with nextSeq := w.nextSeq + 1, mainFired := w.mainFired ++ [w.nextSeq] })
  else w.register (.main w.nextSeq) deadline

def mainRanOut (w : World) (tag : Nat) : Bool := w.mainFired.contains tag

def cancelMain (w : World) (tag : Nat) : World :=
  { w with wheel := w.wheel.filter (fun e => match e.owner with
             | .main t => t ≠ tag
             | _ => true),
           mainFired := w.mainFired.filter (· ≠ tag) }

end World

end Chronicle
