import Chronicle.World.State

/-! The run of a persistent unit: recovery, then serving its inbox. -/

namespace Chronicle

/-- Whether a unit goes on after a message. -/
inductive Flow where
  | continue
  | stop
  deriving DecidableEq

def turnBudget : Nat := 128

/-- How one persistent unit behaves and where it lives in the world. -/
structure Behaviour (α μ : Type) where
  unit : UnitRef
  get : World → Option (Keeper α μ)
  put : World → Keeper α μ → World
  handle : μ → World → Flow × World
  refuse : μ → World → World
  replies : μ → List Reply
  idleStops : Bool
  passivate : World → World

namespace Behaviour

variable {α κ μ : Type} [Aggregate α κ] [Logged κ] [Stored α] (b : Behaviour α μ)

def modify (w : World) (f : Keeper α μ → Keeper α μ) : World :=
  match b.get w with
  | some kp => b.put w (f kp)
  | none => w

/-- Moves everything in the inbox to the stash, refusing what does not fit. -/
def parkIncoming (w : World) : World :=
  match b.get w with
  | none => w
  | some kp =>
    let (stash, refused) := kp.inbox.foldl (fun (acc : Stash μ × List μ) m =>
      match acc.1.push m with
      | .ok s => (s, acc.2)
      | .error m => (acc.1, acc.2 ++ [m])) (kp.stash, [])
    let w := b.put w { kp with inbox := [], stash := stash }
    refused.foldl (fun w m => b.refuse m w) w

/-- Ends the unit's task: its inbox closes, and the messages still in it or set aside are
dropped with their replies. -/
def finish (w : World) : World :=
  match b.get w with
  | none => w
  | some kp =>
    let dropped := kp.inbox ++ kp.stash.items
    let w := match kp.run with
      | .serving (some seq) => w.deregister seq
      | _ => w
    let emptied : Stash μ := { kp.stash with items := [] }
    let w := b.put w { kp with inbox := [], stash := emptied, subscribers := {}, isOpen := false,
                               run := .ended, sched := .done }
    w.dropReplies (dropped.flatMap b.replies)

/-- Handles messages in order until one stops the unit; the rest are then dropped. -/
def handleAll : List μ → World → Flow × World
  | [], w => (.continue, w)
  | m :: rest, w =>
    match b.handle m w with
    | (.stop, w) => (.stop, w.dropReplies (rest.flatMap b.replies))
    | (.continue, w) => handleAll rest w

/-- Serves the inbox for at most `budget` more messages in this turn; a task that uses up its
budget yields until the next park. -/
def serve : Nat → World → World
  | 0, w =>
    { (b.modify w (fun kp => { kp with sched := .deferred })) with
      deferred := w.deferred ++ [b.unit] }
  | n + 1, w =>
    match b.get w with
    | none => w
    | some kp =>
      match kp.inbox with
      | m :: rest =>
        let w := match kp.run with
          | .serving (some seq) => w.deregister seq
          | _ => w
        let w := b.put w { kp with inbox := rest, idleDue := false, run := .serving none }
        match b.handle m w with
        | (.stop, w) => b.finish w
        | (.continue, w) => serve n w
      | [] =>
        if !w.hasSenders b.unit then b.finish w
        else if kp.idleDue then
          let w := b.put w { kp with idleDue := false, run := .serving none }
          if b.idleStops then
            let w := b.modify w (fun kp => { kp with isOpen := false })
            b.finish (b.passivate w)
          else serve n w
        else
          match kp.run with
          | .serving (some _) => b.put w { kp with sched := .blocked }
          | _ =>
            let deadline := w.deadlineAfter kp.core.config.inactivityFlush
            if deadline ≤ w.now then serve n (b.put w { kp with idleDue := true })
            else
              let (seq, w) := w.register (.unit b.unit) deadline
              b.put w { kp with run := .serving (some seq), sched := .blocked }

/-- After the last item of recovery: handles what was set aside, then serves. -/
def recovered (w : World) : World :=
  let w := b.parkIncoming w
  match b.get w with
  | none => w
  | some kp =>
    let (stashed, stash) := kp.stash.takeAll
    let w := b.put w { kp with stash := stash, run := .serving none }
    match b.handleAll stashed w with
    | (.stop, w) => b.finish w
    | (.continue, w) => b.serve turnBudget w

/-- Goes through the next item of recovery: after a snapshot or an entry the unit yields,
after the last item it serves, and a strict unit that meets an unreadable entry stops. -/
def recoverNext (items : List ReplayItem) (w : World) : World :=
  match items with
  | [] => b.recovered w
  | item :: rest =>
    let w := b.parkIncoming w
    match b.get w with
    | none => w
    | some kp =>
      match Core.recover (κ := κ) kp.core item with
      | .error _ => b.finish w
      | .ok (.continue, c) =>
        { (b.put w { kp with core := c, run := .recovering rest, sched := .deferred }) with
          deferred := w.deferred ++ [b.unit] }
      | .ok (.completed, c) => b.recovered (b.put w { kp with core := c })

/-- One turn of the unit's task. -/
def poll (w : World) : World :=
  match b.get w with
  | none => w
  | some kp =>
    match kp.run with
    | .fresh => b.recoverNext (κ := κ) (kp.core.load w.store) w
    | .recovering rest => b.recoverNext (κ := κ) rest w
    | .serving _ => b.serve turnBudget w
    | .ended => w

end Behaviour

end Chronicle
