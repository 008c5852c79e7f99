import Chronicle.World.Entity
import Chronicle.World.Listing
import Chronicle.World.Accumulator
import Chronicle.World.Registry

/-! Supervisors: registering, initializing, then routing commands to entity units. -/

namespace Chronicle

namespace World

def sup? (w : World) (u : UnitRef) (k : EntityType) : Option (SupUnit k) :=
  match w.cell? u with
  | some (.supervisor k2 s) => if h : k2 = k then some (h ▸ s) else none
  | _ => none

/-- Starts a supervisor of a kind and gives the handle to it. -/
def spawnSupervisor (w : World) (k : EntityType) (config : SupervisorConfig) : Handle × World :=
  let (address, w) := w.alloc
  let s : SupUnit k := { address := address, config := config,
                         stash := Stash.empty config.unit.stashCapacity }
  let (u, w) := w.addCell (.supervisor k s)
  (⟨u, address⟩, w)

end World

namespace Supervision

def unitType (k : EntityType) : String := k.stem ++ "-supervisor"

def failed (k : EntityType) (t : CommandType) (id : Option Uuid) (m : CommandMeta)
    (reason : String) (payload : Json) : Event :=
  ((Event.failed k t m reason).emittedBy (unitType k)).forEntity id "" |>.withPayload payload

section

variable (u : UnitRef) (k : EntityType)

def put (w : World) (s : SupUnit k) : World := w.setCell u (.supervisor k s)

def modify (w : World) (f : SupUnit k → SupUnit k) : World :=
  match w.sup? u k with
  | some s => put u k w (f s)
  | none => w

def supervisorRef (s : SupUnit k) : SupervisorRef := ⟨k, .supervisor u s.address⟩

/-- Answers a command that is not handled: a command or a submission is refused with the
reason, anything else is dropped. -/
def refuseMsg (m : SupMsg k) (reason : String) (w : World) : World :=
  match m with
  | .execute c r =>
    (w.deliver r (.event (failed k c.commandType c.target c.issuer reason c.payload))).2
  | .submit e r =>
    (w.deliver r (.event (failed k e.commandType e.id e.issuer reason (e.payload.getD .null)))).2
  | m => w.dropReplies m.replies

/-- Sets a message aside until the supervisor is ready, refusing it when there is no room. -/
def park (m : SupMsg k) (w : World) : World :=
  match w.sup? u k with
  | some s =>
    match s.stash.push m with
    | .ok st => put u k w { s with stash := st }
    | .error m => refuseMsg k m "unit busy" w
  | none => w

/-- Cancels the registration timeout and the retry timer. -/
def cancelRegistrationTimers (w : World) : World :=
  match w.sup? u k with
  | some s =>
    let w := [s.registrationTimer, s.retryTimer].foldl (fun w t =>
      match t with
      | some t => w.abortTimer t
      | none => w) w
    modify u k w (fun s => { s with registrationTimer := none, retryTimer := none })
  | none => w

/-- Cancels every timer of the supervisor. -/
def cancelTimers (w : World) : World :=
  let w := cancelRegistrationTimers u k w
  match w.sup? u k with
  | some s =>
    match s.pollTimer with
    | some t => modify u k (w.abortTimer t) (fun s => { s with pollTimer := none })
    | none => w
  | none => w

/-- Stops: timers are cancelled, what was set aside is refused, and every owned unit is told
to stop. -/
def shutdown (w : World) : World :=
  let w := cancelTimers u k w
  match w.sup? u k with
  | none => w
  | some s =>
    let (stashed, stash) := s.stash.takeAll
    let w := put u k w { s with stash := stash }
    let w := stashed.foldl (fun w m => refuseMsg k m "supervisor stopped" w) w
    let w := s.children.foldl (fun w c => (w.post c.2.unit (.entity k .stop)).2) w
    let w := match s.list with
      | some l => (w.post l.unit (.listing .stop)).2
      | none => w
    match s.accumulator with
    | some a => (w.post a.unit (.accumulator .stop)).2
    | none => w

/-- A failed registration attempt: retried after the backoff, or the end once the retries
are used up. -/
def registrationFailed (w : World) : Flow × World :=
  let w := cancelRegistrationTimers u k w
  let w := modify u k w (fun s => { s with correlation := none })
  match w.sup? u k with
  | none => (.continue, w)
  | some s =>
    -- the retries used, with a subtraction that stops at nought
    if s.attempts.toNat - 1 ≥ s.config.registrationRetries.toNat then (.stop, shutdown u k w)
    else
      let (t, w) := w.schedule (s.config.registrationBackoff.delay s.attempts.toNat)
        (.signal u .retryRegistration)
      (.continue, modify u k w (fun s => { s with retryTimer := some t }))

/-- Registers with the known registry under a fresh correlation and starts the timeout. -/
def register (w : World) : Flow × World :=
  match w.sup? u k with
  | none => (.continue, w)
  | some s =>
    match s.registry with
    | none => (.continue, w)
    | some d =>
      let (corr, w) := w.alloc
      let w := put u k w { s with attempts := s.attempts + 1, correlation := some corr }
      let (sent, w) := w.tellRegistry d (.register k (supervisorRef u k s) (.answered u corr))
      if !sent then registrationFailed u k w
      else
        let (t, w) := w.schedule s.config.registrationTimeout
          (.signal u (.registrationTimeout corr))
        (.continue, modify u k w (fun s => { s with registrationTimer := some t }))

def isCurrent (s : SupUnit k) (corr : Uuid) : Bool :=
  s.phase == .registering && s.correlation == some corr

/-- Handles a failed poll of the listing: a new listing is started after the backoff, or the
supervisor stops once the retries are used up. -/
def discoveryFailed (w : World) : Flow × World :=
  match w.sup? u k with
  | none => (.continue, w)
  | some s =>
    let failures := s.discoveryFailures + 1
    let w := put u k w { s with discoveryFailures := failures }
    if failures > s.config.registrationRetries then (.stop, shutdown u k w)
    else
      let (l, w) := w.spawnList k s.config.unit
      let (t, w) := w.schedule (s.config.registrationBackoff.delay failures.toNat)
        (.signal u .pollList)
      (.continue, modify u k w (fun s => { s with list := some l, pollTimer := some t }))

/-- Asks the listing for the known records and starts the next poll's timer. -/
def pollList (w : World) : Flow × World :=
  match w.sup? u k with
  | none => (.continue, w)
  | some s =>
    match s.list with
    | none => (.continue, w)
    | some l =>
      let w := match s.pollTimer with
        | some t => w.abortTimer t
        | none => w
      let poll := s.poll + 1
      let w := modify u k w (fun s => { s with pollTimer := none, poll := poll })
      if !w.isOpen l.unit then discoveryFailed u k w
      else
        match w.post l.unit (.listing (.idList (.listed u poll))) with
        | (false, w) => discoveryFailed u k w
        | (true, w) =>
          let (t, w) := w.schedule s.config.listPollInterval (.signal u .pollList)
          (.continue, modify u k w (fun s => { s with pollTimer := some t }))

/-- Enters initializing: starts the listing and the accumulator and polls the listing. -/
def startInitializing (w : World) : Flow × World :=
  match w.sup? u k with
  | none => (.continue, w)
  | some s =>
    let w := put u k w { s with phase := .initializing }
    let (l, w) := w.spawnList k s.config.unit
    let (a, w) := w.spawnAccumulator k (.supervisor u) s.config.accumulatorPullTimeout
      s.config.unit.stashCapacity
    pollList u k (modify u k w (fun s => { s with list := some l, accumulator := some a }))

/-- Handles a registration answer. -/
def registered (corr : Uuid) (accepted : Bool) (w : World) : Flow × World :=
  match w.sup? u k with
  | none => (.continue, w)
  | some s =>
    if !isCurrent k s corr then (.continue, w)
    else if !accepted then registrationFailed u k w
    else
      let w := cancelRegistrationTimers u k w
      startInitializing u k (modify u k w (fun s => { s with correlation := none }))

/-- Learns of a registry: registration starts over while registering, and a supervisor past
that only renews its entry, without waiting for an answer. -/
def registryReady (d : Directory) (w : World) : Flow × World :=
  match w.sup? u k with
  | none => (.continue, w)
  | some s =>
    let w := put u k w { s with registry := some d }
    if s.phase = .registering then
      let w := cancelRegistrationTimers u k w
      register u k (modify u k w (fun s => { s with attempts := 0 }))
    else (.continue, (w.tellRegistry d (.register k (supervisorRef u k s) .ignore)).2)

/-- Starts the entity unit of a record and subscribes the read models to it; it replaces any
unit kept for that record. -/
def materialize (s : SupUnit k) (id : Uuid) (w : World) : ChildRef × World :=
  let (child, w) := w.spawnEntity k id s.config.unit
  let w := match s.list with
    | some l => (w.post child.unit (.entity k (.subscribe (.listing l.unit l.address) .ignore))).2
    | none => w
  let w := match s.accumulator with
    | some a =>
      (w.post child.unit (.entity k (.subscribe (.accumulator a.unit a.address) .ignore))).2
    | none => w
  (child, modify u k w (fun s => { s with children := Keyed.insert id child s.children }))

/-- The unit of a record: the one kept if it is alive, a new one if it passivated, none if
the record is unknown. -/
def liveChild (id : Uuid) (w : World) : Option ChildRef × World :=
  match w.sup? u k with
  | none => (none, w)
  | some s =>
    match Keyed.get? s.children id with
    | some c =>
      if w.isOpen c.unit then (some c, w)
      else
        let (c, w) := materialize u k s id w
        (some c, w)
    | none => (none, w)

/-- Hands a command to a unit; if the unit closed meanwhile a new one gets it, and if that
one refuses too the command is refused as unavailable. -/
def forward (child : ChildRef) (c : Command k.Rec) (reply : Reply) (w : World) : World :=
  match w.tryPost child.unit (.entity k (.execute c reply)) with
  | some w => w
  | none =>
    match w.sup? u k with
    | none => w.dropReplies [reply]
    | some s =>
      let (again, w) := materialize u k s child.id w
      match w.tryPost again.unit (.entity k (.execute c reply)) with
      | some w => w
      | none =>
        (w.deliver reply (.event (failed k c.commandType c.target c.issuer "unit unavailable"
          c.payload))).2

/-- Routes a command by its target. -/
def route (c : Command k.Rec) (reply : Reply) (w : World) : World :=
  let t := c.commandType
  match c.target with
  | none =>
    if t = .insert then
      let (id, w) := w.alloc
      match w.sup? u k with
      | some s =>
        let (child, w) := materialize u k s id w
        forward u k child (c.withTarget id) reply w
      | none => w.dropReplies [reply]
    else
      (w.deliver reply (.event (failed k t none c.issuer (k.stem ++ " id cannot be empty")
        c.payload))).2
  | some id =>
    match liveChild u k id w with
    | (some child, w) => forward u k child c reply w
    | (none, w) =>
      if t = .insert || t = .upsert then
        match w.sup? u k with
        | some s =>
          let (child, w) := materialize u k s id w
          forward u k child c reply w
        | none => w.dropReplies [reply]
      else
        (w.deliver reply (.event (failed k t (some id) c.issuer
          (k.stem ++ " " ++ id.render ++ " not found") c.payload))).2

def submit (e : Envelope) (reply : Reply) (w : World) : World :=
  match (Command.ofEnvelope e : Except EnvelopeError (Command k.Rec)) with
  | .ok c => route u k c reply w
  | .error err =>
    (w.deliver reply (.event (failed k e.commandType e.id e.issuer err.message .null))).2

/-- Handles a command or a read once ready. -/
def handleReady (m : SupMsg k) (w : World) : World :=
  match w.sup? u k with
  | none => w.dropReplies m.replies
  | some s =>
    match m with
    | .execute c r => route u k c r w
    | .submit e r => submit u k e r w
    | .idList r =>
      match s.list with
      | some l => (w.post l.unit (.listing (.idList r))).2
      | none => w.dropReplies [r]
    | .getList r =>
      match s.accumulator with
      | some a => (w.post a.unit (.accumulator (.getList r))).2
      | none => w.dropReplies [r]
    | .childRefs r =>
      (w.deliver r (.children ((s.children.map (·.2)).filter (fun c => w.isOpen c.unit)))).2
    | .subscribeList sk r =>
      match s.list with
      | some l => (w.post l.unit (.listing (.subscribe sk r))).2
      | none => w.dropReplies [r]
    | _ => w

/-- Takes the listing's answer while initializing: one unit per record, then ready, then
what was set aside. -/
def listSnapshot (items : List ListItem) (w : World) : World :=
  match w.sup? u k with
  | none => w
  | some s =>
    if s.phase ≠ .initializing then w
    else
      let w := match s.pollTimer with
        | some t => modify u k (w.abortTimer t) (fun s => { s with pollTimer := none })
        | none => w
      let w := items.foldl (fun w it =>
        match w.sup? u k with
        | some s => (materialize u k s it.id w).2
        | none => w) w
      match w.sup? u k with
      | none => w
      | some s =>
        let (stashed, stash) := s.stash.takeAll
        let w := put u k w { s with phase := .ready, stash := stash }
        stashed.foldl (fun w m => handleReady u k m w) w

/-- Handles one message. -/
def handle (m : SupMsg k) (w : World) : Flow × World :=
  match w.sup? u k with
  | none => (.continue, w)
  | some s =>
    match m with
    | .registryReady d => registryReady u k d w
    | .registered corr b => registered u k corr b w
    | .signal (.registrationTimeout corr) =>
      if isCurrent k s corr then registrationFailed u k w else (.continue, w)
    | .signal .retryRegistration =>
      if s.phase = .registering then register u k w else (.continue, w)
    | .listSnapshot _ items => (.continue, listSnapshot u k items w)
    | .signal .pollList =>
      if s.phase = .initializing then pollList u k w else (.continue, w)
    | .status r =>
      (.continue, (w.deliver r (.supStatus ⟨k, s.phase, s.attempts.toNat, s.children.map (·.1),
        s.stash.size⟩)).2)
    | .stop => (.stop, shutdown u k w)
    | m => if s.phase ≠ .ready then (.continue, park u k m w) else (.continue, handleReady u k m w)

/-- Ends the task: timers are cancelled, the inbox closes, what is in it or set aside is
dropped, and the handles it kept are let go. -/
def finish (w : World) : World :=
  let w := cancelTimers u k w
  match w.sup? u k with
  | none => w
  | some s =>
    let dropped := s.inbox ++ s.stash.items
    let emptied : Stash (SupMsg k) := { s.stash with items := [] }
    let w := put u k w { s with inbox := [], stash := emptied, isOpen := false, sched := .done,
                                registry := none, list := none, accumulator := none,
                                children := [] }
    w.dropReplies (dropped.flatMap SupMsg.replies)

/-- Serves the inbox for at most `budget` more messages in this turn; a task that uses up its
budget yields until the next park. -/
def serve : Nat → World → World
  | 0, w =>
    match w.sup? u k with
    | some s => { (put u k w { s with sched := .deferred }) with deferred := w.deferred ++ [u] }
    | none => w
  | n + 1, w =>
    match w.sup? u k with
    | none => w
    | some s =>
      match s.inbox with
      | m :: rest =>
        match handle u k m (put u k w { s with inbox := rest }) with
        | (.stop, w) => finish u k w
        | (.continue, w) => serve n w
      | [] =>
        if w.hasSenders u then put u k w { s with sched := .blocked } else finish u k w

def poll (w : World) : World := serve u k turnBudget w

end

end Supervision

end Chronicle
