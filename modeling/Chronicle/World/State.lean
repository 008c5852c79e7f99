import Chronicle.World.Message
import Chronicle.Unit.Stash
import Chronicle.Event.Subscribers
import Chronicle.Core.IdSource

/-! The world of running units. -/

namespace Chronicle

/-- Where a task stands with the scheduler. -/
inductive Sched where
  | queued
  | deferred
  | blocked
  | running
  | done
  deriving DecidableEq

/-- Where a persistent unit's run is: not started, recovering with the items still to go,
serving (with the timer entry of this round's idle wait once it is registered), or over. -/
inductive Run where
  | fresh
  | recovering (rest : List ReplayItem)
  | serving (idle : Option Nat)
  | ended

/-- A persistent unit: an entity or a listing. -/
structure Keeper (α μ : Type) where
  address : Uuid
  core : Core α
  subscribers : SubscriberSet Sink := {}
  inbox : List μ := []
  isOpen : Bool := true
  stash : Stash μ
  run : Run := .fresh
  idleDue : Bool := false
  sched : Sched := .queued

/-- A unit as the console or another unit holds it: where it runs and its address. -/
structure Handle where
  unit : UnitRef
  address : Uuid

/-- An accumulator: the full state of every child of one kind, kept in memory. -/
structure AccUnit where
  kind : EntityType
  address : Uuid
  parent : Parent
  pullTimeout : Duration
  phase : AccPhase := .initializing
  entries : List (Uuid × Option Json) := []
  pending : List (Uuid × Uuid) := []
  pullTimer : Option Nat := none
  stash : Stash AccMsg
  inbox : List AccMsg := []
  isOpen : Bool := true
  started : Bool := false
  sched : Sched := .queued

/-- A supervisor of the entity units of kind `k`. -/
structure SupUnit (k : EntityType) where
  address : Uuid
  config : SupervisorConfig
  phase : SupPhase := .registering
  registry : Option Directory := none
  attempts : UInt32 := 0
  correlation : Option Uuid := none
  registrationTimer : Option Nat := none
  retryTimer : Option Nat := none
  poll : Nat := 0
  pollTimer : Option Nat := none
  discoveryFailures : UInt32 := 0
  list : Option Handle := none
  accumulator : Option Handle := none
  children : List (Uuid × ChildRef) := []
  stash : Stash (SupMsg k)
  inbox : List (SupMsg k) := []
  isOpen : Bool := true
  sched : Sched := .queued

/-- A registry: the supervisor entry of each kind. -/
structure RegistryUnit where
  address : Uuid
  entries : List (EntityType × SupervisorRef) := []
  inbox : List RegistryMsg := []
  isOpen : Bool := true
  sched : Sched := .queued

/-- A unit of any kind. -/
inductive Cell where
  | entity (k : EntityType) (id : Uuid) (kp : Keeper k.Rec (EntityMsg k))
  | listing (k : EntityType) (kp : Keeper Listing ListMsg)
  | accumulator (a : AccUnit)
  | supervisor (k : EntityType) (s : SupUnit k)
  | registry (r : RegistryUnit)

/-- A message to a unit of any kind. -/
inductive Letter where
  | entity (k : EntityType) (m : EntityMsg k)
  | listing (m : ListMsg)
  | accumulator (m : AccMsg)
  | supervisor (k : EntityType) (m : SupMsg k)
  | registry (m : RegistryMsg)

namespace Letter

/-- The replies a letter carries. -/
def replies : Letter → List Reply
  | .entity _ m => m.replies
  | .listing m => m.replies
  | .accumulator m => m.replies
  | .supervisor _ m => m.replies
  | .registry m => m.replies

end Letter

namespace Cell

/-- Where the unit's task stands. -/
def sched : Cell → Sched
  | .entity _ _ kp => kp.sched
  | .listing _ kp => kp.sched
  | .accumulator a => a.sched
  | .supervisor _ s => s.sched
  | .registry r => r.sched

/-- The unit with its task's standing changed. -/
def withSched (c : Cell) (s : Sched) : Cell :=
  match c with
  | .entity k i kp => .entity k i { kp with sched := s }
  | .listing k kp => .listing k { kp with sched := s }
  | .accumulator a => .accumulator { a with sched := s }
  | .supervisor k x => .supervisor k { x with sched := s }
  | .registry r => .registry { r with sched := s }

/-- Whether the unit's inbox still takes messages. -/
def isOpen : Cell → Bool
  | .entity _ _ kp => kp.isOpen
  | .listing _ kp => kp.isOpen
  | .accumulator a => a.isOpen
  | .supervisor _ s => s.isOpen
  | .registry r => r.isOpen

/-- Whether the inbox holds a message. -/
def hasMail : Cell → Bool
  | .entity _ _ kp => !kp.inbox.isEmpty
  | .listing _ kp => !kp.inbox.isEmpty
  | .accumulator a => !a.inbox.isEmpty
  | .supervisor _ s => !s.inbox.isEmpty
  | .registry r => !r.inbox.isEmpty

/-- The unit's address. -/
def address : Cell → Uuid
  | .entity _ _ kp => kp.address
  | .listing _ kp => kp.address
  | .accumulator a => a.address
  | .supervisor _ s => s.address
  | .registry r => r.address

/-- The units this unit keeps open: through its fields, its inbox and its stash. -/
def holds : Cell → List UnitRef
  | .entity _ _ kp =>
    kp.subscribers.members.flatMap Sink.holds ++ kp.inbox.flatMap EntityMsg.holds ++
      kp.stash.items.flatMap EntityMsg.holds
  | .listing _ kp =>
    kp.subscribers.members.flatMap Sink.holds ++ kp.inbox.flatMap ListMsg.holds ++
      kp.stash.items.flatMap ListMsg.holds
  | .accumulator a =>
    a.parent.holds ++ a.inbox.flatMap AccMsg.holds ++ a.stash.items.flatMap AccMsg.holds
  | .supervisor _ s =>
    (s.registry.map Directory.holds).getD [] ++ (s.list.map (·.unit)).toList ++
      (s.accumulator.map (·.unit)).toList ++ s.children.map (·.2.unit) ++
      s.inbox.flatMap SupMsg.holds ++ s.stash.items.flatMap SupMsg.holds
  | .registry r => r.entries.flatMap (·.2.inbound.holds) ++ r.inbox.flatMap RegistryMsg.holds

/-- The unit with a letter put at the back of its inbox, if the letter is for its kind. -/
def accept (c : Cell) (l : Letter) : Option Cell :=
  match c, l with
  | .entity k i kp, .entity k2 m =>
    if h : k2 = k then some (.entity k i { kp with inbox := kp.inbox ++ [h ▸ m] }) else none
  | .listing k kp, .listing m => some (.listing k { kp with inbox := kp.inbox ++ [m] })
  | .accumulator a, .accumulator m => some (.accumulator { a with inbox := a.inbox ++ [m] })
  | .supervisor k s, .supervisor k2 m =>
    if h : k2 = k then some (.supervisor k { s with inbox := s.inbox ++ [h ▸ m] }) else none
  | .registry r, .registry m => some (.registry { r with inbox := r.inbox ++ [m] })
  | _, _ => none

end Cell

/-- What a timer task delivers when it runs out: a pull timeout to an accumulator, a signal
to a supervisor, or a scripted registry's late answer. -/
inductive Alarm where
  | pullTimeout (acc : UnitRef)
  | signal (sup : UnitRef) (s : SupSignal)
  | answer (reply : Reply) (accepted : Bool)

/-- Where a timer task is: not started, sleeping on its timer entry, run out, or over. -/
inductive TimerPhase where
  | fresh
  | sleeping (entry : Nat)
  | fired
  | ended

/-- A task that sleeps for a span and then delivers its alarm. -/
structure TimerTask where
  delay : Duration
  alarm : Alarm
  phase : TimerPhase := .fresh
  cancelled : Bool := false
  sched : Sched := .queued

/-- Who a timer entry wakes: a unit waiting with an idle limit, a timer task, or the
console's own wait with the given tag. -/
inductive Owner where
  | unit (u : UnitRef)
  | timer (t : Nat)
  | main (tag : Nat)

/-- A registered timer: its registration number, its deadline in milliseconds, its owner. -/
structure WheelEntry where
  seq : Nat
  deadline : Nat
  owner : Owner

/-- A task the scheduler runs: a unit's or a timer's. -/
inductive Task where
  | unit (u : UnitRef)
  | timer (t : Nat)

/-- A one-shot slot: still waiting, filled with an answer, dropped by its sender without an
answer, or given up by the console. -/
inductive SlotState where
  | waiting
  | filled (d : Delivery)
  | gone
  | abandoned

/-- A probe: a recipient of events the console reads. -/
structure Probe where
  address : Uuid
  events : List Event := []
  killed : Bool := false

/-- How a scripted registry answers a registration. -/
inductive ScriptAnswer where
  | accept
  | refuse
  | silent
  | gone
  | acceptAfter (ms : Nat)
  | refuseAfter (ms : Nat)

/-- A registration a scripted registry saw: when, for which kind, and the answer's text. -/
structure Attempt where
  atMs : Nat
  entityType : EntityType
  answer : String

/-- A scripted registry: its answers in order (the last one repeats) and what it saw. -/
structure Script where
  address : Uuid
  answers : List (String × ScriptAnswer)
  attempts : List Attempt := []

/-- The world of a session. -/
structure World where
  now : Nat := 0
  store : Store := {}
  ids : IdSource
  cells : Array Cell := #[]
  timers : Array TimerTask := #[]
  wheel : List WheelEntry := []
  nextSeq : Nat := 0
  queue : List Task := []
  deferred : List UnitRef := []
  slots : Array SlotState := #[]
  watch : List Nat := []
  mainWoken : Bool := false
  mainFired : List Nat := []
  roots : List UnitRef := []
  probes : List (String × Probe) := []
  scripts : Array Script := #[]

namespace World

def alloc (w : World) : Uuid × World :=
  let (u, ids) := w.ids.fresh
  (u, { w with ids := ids })

def cell? (w : World) (u : UnitRef) : Option Cell := w.cells[u]?

def setCell (w : World) (u : UnitRef) (c : Cell) : World :=
  { w with cells := w.cells.setIfInBounds u c }

def addCell (w : World) (c : Cell) : UnitRef × World :=
  (w.cells.size, { w with cells := w.cells.push c, queue := w.queue ++ [.unit w.cells.size] })

def holders (w : World) : List UnitRef :=
  w.roots ++ w.cells.toList.flatMap Cell.holds

def hasSenders (w : World) (u : UnitRef) : Bool := w.holders.contains u

def isOpen (w : World) (u : UnitRef) : Bool :=
  match w.cell? u with
  | some c => c.isOpen
  | none => false

/-- Queues a unit that waits on its inbox or a timer; others are left alone. -/
def wake (w : World) (u : UnitRef) : World :=
  match w.cell? u with
  | some c =>
    if c.sched = .blocked then
      { (w.setCell u (c.withSched .queued)) with queue := w.queue ++ [.unit u] }
    else w
  | none => w

/-- Queues a timer task that sleeps. -/
def wakeTimer (w : World) (t : Nat) : World :=
  match w.timers[t]? with
  | some tt =>
    if tt.sched = .blocked then
      { w with timers := w.timers.setIfInBounds t { tt with sched := .queued },
               queue := w.queue ++ [.timer t] }
    else w
  | none => w

/-- Marks a slot's answer as never coming, waking the console if it waits on it. -/
def dropSlot (w : World) (n : Nat) : World :=
  match w.slots[n]? with
  | some .waiting =>
    { w with slots := w.slots.setIfInBounds n .gone,
             mainWoken := w.mainWoken || w.watch.contains n }
  | _ => w

def dropReplies (w : World) (rs : List Reply) : World :=
  rs.foldl (fun w r => match r with
    | .slot n => w.dropSlot n
    | _ => w) w

def tryPost (w : World) (u : UnitRef) (l : Letter) : Option World :=
  match w.cell? u with
  | some c => if c.isOpen then (c.accept l).map (fun c2 => (w.setCell u c2).wake u) else none
  | none => none

def post (w : World) (u : UnitRef) (l : Letter) : Bool × World :=
  match w.tryPost u l with
  | some w2 => (true, w2)
  | none => (false, w.dropReplies l.replies)

def postWeak (w : World) (u : UnitRef) (l : Letter) : Bool × World :=
  if w.hasSenders u then w.post u l else (false, w.dropReplies l.replies)

def supKind? (w : World) (u : UnitRef) : Option EntityType :=
  match w.cell? u with
  | some (.supervisor k _) => some k
  | _ => none

def entityKind? (w : World) (u : UnitRef) : Option EntityType :=
  match w.cell? u with
  | some (.entity k _ _) => some k
  | _ => none

def postSupWeak (w : World) (u : UnitRef) (m : (k : EntityType) → SupMsg k) : Bool × World :=
  match w.supKind? u with
  | some k => w.postWeak u (.supervisor k (m k))
  | none => (false, w)

/-- Fills a one-shot slot, waking the console if it waits on it. -/
def fillSlot (w : World) (n : Nat) (d : Delivery) : Bool × World :=
  match w.slots[n]? with
  | some .waiting =>
    (true, { w with slots := w.slots.setIfInBounds n (.filled d),
                    mainWoken := w.mainWoken || w.watch.contains n })
  | _ => (false, w)

/-- Sends an answer where a reply says. -/
def deliver (w : World) (r : Reply) (d : Delivery) : Bool × World :=
  match r, d with
  | .ignore, _ => (true, w)
  | .slot n, d => w.fillSlot n d
  | .pulled acc, .state src id doc => w.postWeak acc (.accumulator (.state src id doc))
  | .handed acc, .children xs => w.postWeak acc (.accumulator (.children xs))
  | .listed sup poll, .items xs => w.postSupWeak sup (fun _ => .listSnapshot poll xs)
  | .answered sup corr, .accepted b => w.postSupWeak sup (fun _ => .registered corr b)
  | _, _ => (false, w)

/-- Offers an event to a sink: a listing's or accumulator's inbox, or a probe that has not
been killed. -/
def offer (w : World) (s : Sink) (e : Event) : Bool × World :=
  match s with
  | .listing u _ => w.post u (.listing (.event e))
  | .accumulator u _ => w.post u (.accumulator (.event e))
  | .probe name _ =>
    match w.probes.lookup name with
    | some p =>
      if p.killed then (false, w)
      else (true, { w with probes := w.probes.map (fun e2 =>
        if e2.1 = name then (e2.1, { p with events := p.events ++ [e] }) else e2) })
    | none => (false, w)

def publish (w : World) (subs : SubscriberSet Sink) (e : Event) : SubscriberSet Sink × World :=
  let (kept, w) := subs.members.foldl (fun (acc : List Sink × World) s =>
    let (ok, w2) := acc.2.offer s e
    (if ok then acc.1 ++ [s] else acc.1, w2)) ([], w)
  (⟨kept⟩, w)

def farthest : Nat := 30 * 365 * 86400 * 1000

def deadlineAfter (w : World) (d : Duration) : Nat := w.now + min d.ceilMillis farthest

theorem deadlineAfter_le_farthest (w : World) (d : Duration) :
    w.deadlineAfter d ≤ w.now + farthest := by
  unfold deadlineAfter; omega

def register (w : World) (owner : Owner) (deadline : Nat) : Nat × World :=
  (w.nextSeq, { w with wheel := w.wheel ++ [⟨w.nextSeq, deadline, owner⟩],
                       nextSeq := w.nextSeq + 1 })

def deregister (w : World) (seq : Nat) : World :=
  { w with wheel := w.wheel.filter (·.seq ≠ seq) }

def schedule (w : World) (delay : Duration) (alarm : Alarm) : Nat × World :=
  (w.timers.size, { w with timers := w.timers.push { delay := delay, alarm := alarm },
                           queue := w.queue ++ [.timer w.timers.size] })

/-- Cancels a timer task: one asleep is queued once more to wind up; one queued winds up when
it runs; one that is over is left alone. -/
def abortTimer (w : World) (t : Nat) : World :=
  match w.timers[t]? with
  | some tt =>
    if tt.cancelled || tt.sched = .done then w
    else
      let w := match tt.phase with
        | .sleeping seq => w.deregister seq
        | _ => w
      if tt.sched = .blocked then
        { w with timers := w.timers.setIfInBounds t { tt with cancelled := true, sched := .queued },
                 queue := w.queue ++ [.timer t] }
      else { w with timers := w.timers.setIfInBounds t { tt with cancelled := true } }
  | none => w

def newSlot (w : World) : Nat × World :=
  (w.slots.size, { w with slots := w.slots.push .waiting })

def slot (w : World) (n : Nat) : SlotState := w.slots[n]?.getD .abandoned

def abandon (w : World) (n : Nat) : World :=
  match w.slots[n]? with
  | some .waiting => { w with slots := w.slots.setIfInBounds n .abandoned }
  | _ => w

/-- The probe of a name, made with a fresh address on first use. -/
def probe (w : World) (name : String) : Probe × World :=
  match w.probes.lookup name with
  | some p => (p, w)
  | none =>
    let (a, w) := w.alloc
    let p : Probe := { address := a }
    (p, { w with probes := w.probes ++ [(name, p)] })

end World

end Chronicle
