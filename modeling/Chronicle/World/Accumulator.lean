import Chronicle.World.Keeper

/-! Accumulators: the full state of every child of one kind. -/

namespace Chronicle

namespace World

def acc? (w : World) (u : UnitRef) : Option AccUnit :=
  match w.cell? u with
  | some (.accumulator a) => some a
  | _ => none

def putAcc (w : World) (u : UnitRef) (a : AccUnit) : World := w.setCell u (.accumulator a)

/-- Starts an accumulator of a kind and gives the handle to it. -/
def spawnAccumulator (w : World) (k : EntityType) (parent : Parent) (pullTimeout : Duration)
    (stashCapacity : Option Nat) : Handle × World :=
  let (address, w) := w.alloc
  let a : AccUnit := { kind := k, address := address, parent := parent,
                       pullTimeout := pullTimeout, stash := Stash.empty stashCapacity }
  let (u, w) := w.addCell (.accumulator a)
  (⟨u, address⟩, w)

end World

namespace AccUnit

section

variable (u : UnitRef)

/-- Ends the task: the pull timer is cancelled, the inbox closes, and the messages in it or
set aside are dropped with their replies. -/
def finish (w : World) : World :=
  match w.acc? u with
  | none => w
  | some a =>
    let w := match a.pullTimer with
      | some t => w.abortTimer t
      | none => w
    let dropped := a.inbox ++ a.stash.items
    let emptied : Stash AccMsg := { a.stash with items := [] }
    let w := w.putAcc u { a with inbox := [], stash := emptied, isOpen := false,
                                 sched := .done, parent := .refusing, pullTimer := none }
    w.dropReplies (dropped.flatMap AccMsg.replies)

/-- Keeps a child's state from a successful event of the accumulator's kind whose payload
reads as a record. -/
def upsert (e : Event) (w : World) : World :=
  match w.acc? u, e.id with
  | some a, some id =>
    if e.success && e.entityType == a.kind then
      match (Record.read .document e.payload : Decoded a.kind.Rec) with
      | .ok s => w.putAcc u { a with entries := Keyed.insert id (some (Record.toJson s)) a.entries }
      | .error _ => w
    else w
  | _, _ => w

/-- Handles an event or a read once ready. -/
def handleReady (m : AccMsg) (w : World) : World :=
  match m with
  | .event e => upsert u e w
  | .getList r =>
    match w.acc? u with
    | some a => (w.deliver r (.records (a.entries.filterMap (·.2)))).2
    | none => w.dropReplies [r]
  | _ => w

/-- Becomes ready: the pull timer is cancelled and what was set aside is handled in order. -/
def becomeReady (w : World) : World :=
  match w.acc? u with
  | none => w
  | some a =>
    let w := match a.pullTimer with
      | some t => w.abortTimer t
      | none => w
    let (stashed, stash) := a.stash.takeAll
    let w := w.putAcc u { a with pullTimer := none, phase := .ready, stash := stash }
    stashed.foldl (fun w m => handleReady u m w) w

/-- Asks each child for its state; with nobody to wait for it is ready at once, else the pull
timer starts. A child list after the accumulator is ready is ignored. -/
def pull (children : List ChildRef) (w : World) : World :=
  match w.acc? u with
  | none => w
  | some a =>
    if a.phase = .ready then w
    else
      let w := children.foldl (fun w c =>
        match w.entityKind? c.unit with
        | some k =>
          match w.post c.unit (.entity k (.getState (.pulled u))) with
          | (true, w) =>
            match w.acc? u with
            | some a => w.putAcc u { a with pending :=
                (a.pending.filter (·.1 ≠ c.address)) ++ [(c.address, c.id)] }
            | none => w
          | (false, w) => w
        | none => w) w
      match w.acc? u with
      | none => w
      | some a =>
        if a.pending.isEmpty then becomeReady u w
        else
          let (t, w) := w.schedule a.pullTimeout (.pullTimeout u)
          match w.acc? u with
          | some a => w.putAcc u { a with pullTimer := some t }
          | none => w

/-- Keeps a child's answer, if the child was asked; with nobody left to wait for, it is ready. -/
def record (source id : Uuid) (doc : Option Json) (w : World) : World :=
  match w.acc? u with
  | none => w
  | some a =>
    if a.pending.any (·.1 = source) then
      let a := { a with pending := a.pending.filter (·.1 ≠ source),
                        entries := Keyed.insert id doc a.entries }
      let w := w.putAcc u a
      if a.phase = .initializing && a.pending.isEmpty then becomeReady u w else w
    else w

/-- Handles one message. -/
def handle (m : AccMsg) (w : World) : Flow × World :=
  match w.acc? u with
  | none => (.continue, w)
  | some a =>
    match m with
    | .children xs => (.continue, pull u xs w)
    | .state source id doc => (.continue, record u source id doc w)
    | .pullTimeout =>
      if a.phase = .initializing then
        (.continue, becomeReady u (w.putAcc u { a with pending := [] }))
      else (.continue, w)
    | .status r =>
      (.continue, (w.deliver r (.accStatus ⟨a.phase, a.entries.length, a.pending.length,
        a.stash.size⟩)).2)
    | .stop => (.stop, w)
    | m =>
      if a.phase = .initializing then
        match a.stash.push m with
        | .ok s => (.continue, w.putAcc u { a with stash := s })
        | .error m => (.continue, w.dropReplies m.replies)
      else (.continue, handleReady u m w)

/-- Serves the inbox for at most `budget` more messages in this turn; a task that uses up its
budget yields until the next park. -/
def serve : Nat → World → World
  | 0, w =>
    match w.acc? u with
    | some a => { (w.putAcc u { a with sched := .deferred }) with deferred := w.deferred ++ [u] }
    | none => w
  | n + 1, w =>
    match w.acc? u with
    | none => w
    | some a =>
      match a.inbox with
      | m :: rest =>
        match handle u m (w.putAcc u { a with inbox := rest }) with
        | (.stop, w) => finish u w
        | (.continue, w) => serve n w
      | [] =>
        if w.hasSenders u then w.putAcc u { a with sched := .blocked } else finish u w

/-- Asks the parent for the children; a parent that refuses ends the task. -/
def start (w : World) : Bool × World :=
  match w.acc? u with
  | none => (false, w)
  | some a =>
    match a.parent with
    | .supervisor s => w.postSupWeak s (fun _ => .childRefs (.handed u))
    | .fixed cs twice =>
      let w := (w.deliver (.handed u) (.children cs)).2
      (true, if twice then (w.deliver (.handed u) (.children cs)).2 else w)
    | .refusing => (false, w)

/-- One turn of the accumulator's task. -/
def poll (w : World) : World :=
  match w.acc? u with
  | none => w
  | some a =>
    if a.started then serve u turnBudget w
    else
      match start u (w.putAcc u { a with started := true }) with
      | (true, w) => serve u turnBudget w
      | (false, w) => finish u w

end

end AccUnit

end Chronicle
