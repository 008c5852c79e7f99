import Chronicle.World.Keeper

/-! Registries, and the scripted registry that stands in for one. -/

namespace Chronicle

def Script.answerAt (s : Script) (n : Nat) : String × ScriptAnswer :=
  match s.answers[n]? with
  | some a => a
  | none => s.answers.getLast?.getD ("accept", .accept)

namespace World

def registry? (w : World) (u : UnitRef) : Option RegistryUnit :=
  match w.cell? u with
  | some (.registry r) => some r
  | _ => none

def putRegistry (w : World) (u : UnitRef) (r : RegistryUnit) : World := w.setCell u (.registry r)

def spawnRegistry (w : World) : Handle × World :=
  let (address, w) := w.alloc
  let (u, w) := w.addCell (.registry { address := address })
  (⟨u, address⟩, w)

/-- Hands a message to the scripted registry numbered `i`. -/
def consult (w : World) (i : Nat) (m : RegistryMsg) : Bool × World :=
  match w.scripts[i]?, m with
  | some s, .register k _ reply =>
    let (text, answer) := s.answerAt s.attempts.length
    let seen : Script := { s with attempts := s.attempts ++ [⟨w.now, k, text⟩] }
    let w := { w with scripts := w.scripts.setIfInBounds i seen }
    match answer with
    | .accept => (true, (w.deliver reply (.accepted true)).2)
    | .refuse => (true, (w.deliver reply (.accepted false)).2)
    | .silent => (true, w.dropReplies [reply])
    | .gone => (false, w.dropReplies [reply])
    | .acceptAfter ms => (true, (w.schedule (Duration.ofMillis ms) (.answer reply true)).2)
    | .refuseAfter ms => (true, (w.schedule (Duration.ofMillis ms) (.answer reply false)).2)
  | _, m => (true, w.dropReplies m.replies)

/-- Hands an envelope to where a registry entry sends commands: a supervisor's own inbox takes
it only while someone holds the supervisor, a forwarder puts it into its supervisor's inbox,
and a refusing recipient takes nothing. -/
def submitVia (w : World) (i : Inbound) (e : Envelope) (reply : Reply) : Bool × World :=
  match i with
  | .supervisor u _ => w.postSupWeak u (fun _ => .submit e reply)
  | .forward u _ =>
    match w.supKind? u with
    | some k => w.post u (.supervisor k (.submit e reply))
    | none => (false, w.dropReplies [reply])
  | .refuse _ => (false, w.dropReplies [reply])

def tellRegistry (w : World) (d : Directory) (m : RegistryMsg) : Bool × World :=
  match d with
  | .unit u _ => w.post u (.registry m)
  | .scripted i _ => w.consult i m

end World

namespace RegistryUnit

section

variable (u : UnitRef)

/-- Ends the task: the inbox closes and its messages are dropped with their replies. -/
def finish (w : World) : World :=
  match w.registry? u with
  | none => w
  | some r =>
    let w := w.putRegistry u { r with inbox := [], entries := [], isOpen := false, sched := .done }
    w.dropReplies (r.inbox.flatMap RegistryMsg.replies)

def sorted (entries : List (EntityType × SupervisorRef)) : List (EntityType × SupervisorRef) :=
  EntityType.all.filterMap (fun k => (entries.lookup k).map (fun r => (k, r)))

/-- Handles one message. -/
def handle (m : RegistryMsg) (w : World) : Flow × World :=
  match w.registry? u with
  | none => (.continue, w)
  | some r =>
    match m with
    | .register k ref reply =>
      let w := w.putRegistry u { r with entries := (r.entries.filter (·.1 ≠ k)) ++ [(k, ref)] }
      (.continue, (w.deliver reply (.accepted true)).2)
    | .getList reply => (.continue, (w.deliver reply (.directory (sorted r.entries))).2)
    | .lookup k reply => (.continue, (w.deliver reply (.found (r.entries.lookup k))).2)
    | .stop => (.stop, w)

/-- Serves the inbox for at most `budget` more messages in this turn; a task that uses up its
budget yields until the next park. -/
def serve : Nat → World → World
  | 0, w =>
    match w.registry? u with
    | some r =>
      { (w.putRegistry u { r with sched := .deferred }) with deferred := w.deferred ++ [u] }
    | none => w
  | n + 1, w =>
    match w.registry? u with
    | none => w
    | some r =>
      match r.inbox with
      | m :: rest =>
        match handle u m (w.putRegistry u { r with inbox := rest }) with
        | (.stop, w) => finish u w
        | (.continue, w) => serve n w
      | [] =>
        if w.hasSenders u then w.putRegistry u { r with sched := .blocked } else finish u w

def poll (w : World) : World := serve u turnBudget w

end

end RegistryUnit

end Chronicle
