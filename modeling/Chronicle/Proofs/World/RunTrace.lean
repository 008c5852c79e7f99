import Chronicle.Proofs.World.Parking

/-! The run of a persistent unit told as a history of what befell its messages. -/
namespace Chronicle

namespace Behaviour

/-- What befalls a unit's messages and its recovery, in the order it happens. -/
inductive Happening (μ : Type) where
  | setAside (m : μ)
  | refused (m : μ)
  | completed
  | aborted
  | handled (m : μ)
  | stopped

variable {α μ : Type} (b : Behaviour α μ)

def offer (acc : Stash μ × List (Happening μ)) (m : μ) : Stash μ × List (Happening μ) :=
  match acc.1.push m with
  | .ok s => (s, acc.2 ++ [.setAside m])
  | .error m => (acc.1, acc.2 ++ [.refused m])

def parkedBy (w : World) : List (Happening μ) :=
  match b.get w with
  | none => []
  | some kp => (kp.inbox.foldl offer (kp.stash, [])).2

/-- `handleAll`, telling the messages it hands to the handler. -/
def handleAllTraced : List μ → World → Flow × World × List (Happening μ)
  | [], w => (.continue, w, [])
  | m :: rest, w =>
    match b.handle m w with
    | (.stop, w) => (.stop, w.dropReplies (rest.flatMap b.replies), [.handled m, .stopped])
    | (.continue, w) =>
      let r := handleAllTraced rest w
      (r.1, r.2.1, .handled m :: r.2.2)

def withoutIdle (r : Run) (w : World) : World :=
  match r with
  | .serving (some seq) => w.deregister seq
  | _ => w

/-- `serve`, telling the messages it hands to the handler. -/
def serveTraced : Nat → World → World × List (Happening μ)
  | 0, w => (b.serve 0 w, [])
  | n + 1, w =>
    match b.get w with
    | none => (w, [])
    | some kp =>
      match kp.inbox with
      | m :: rest =>
        let w := b.put (withoutIdle kp.run w)
          { kp with inbox := rest, idleDue := false, run := .serving none }
        match b.handle m w with
        | (.stop, w) => (b.finish w, [.handled m, .stopped])
        | (.continue, w) =>
          let r := serveTraced n w
          (r.1, .handled m :: r.2)
      | [] =>
        if !w.hasSenders b.unit then (b.finish w, [])
        else if kp.idleDue then
          let w := b.put w { kp with idleDue := false, run := .serving none }
          if b.idleStops then
            let w := b.modify w (fun kp => { kp with isOpen := false })
            (b.finish (b.passivate w), [])
          else serveTraced n w
        else
          match kp.run with
          | .serving (some _) => (b.put w { kp with sched := .blocked }, [])
          | _ =>
            let deadline := w.deadlineAfter kp.core.config.inactivityFlush
            if deadline ≤ w.now then serveTraced n (b.put w { kp with idleDue := true })
            else
              let (seq, w) := w.register (.unit b.unit) deadline
              (b.put w { kp with run := .serving (some seq), sched := .blocked }, [])

/-- `recovered`, telling what parking did and what the handler was handed. -/
def recoveredTraced (w : World) : World × List (Happening μ) :=
  let parked := b.parkedBy w
  let w := b.parkIncoming w
  match b.get w with
  | none => (w, parked)
  | some kp =>
    let (stashed, stash) := kp.stash.takeAll
    let w := b.put w { kp with stash := stash, run := .serving none }
    match b.handleAllTraced stashed w with
    | (.stop, w, h) => (b.finish w, parked ++ h)
    | (.continue, w, h) =>
      let r := b.serveTraced turnBudget w
      (r.1, parked ++ h ++ r.2)

theorem handleAllTraced_fst (l : List μ) (w : World) :
    ((b.handleAllTraced l w).1, (b.handleAllTraced l w).2.1) = b.handleAll l w := by
  induction l generalizing w with
  | nil => rfl
  | cons m rest ih =>
    simp only [handleAllTraced, handleAll]
    rcases b.handle m w with ⟨_ | _, w'⟩
    · exact ih w'
    · rfl

theorem serveTraced_fst (n : Nat) (w : World) : (b.serveTraced n w).1 = b.serve n w := by
  induction n generalizing w with
  | zero => rfl
  | succ n ih =>
    simp only [serveTraced, serve]
    rcases hg : b.get w with _ | kp
    · rfl
    -- the two definitions match on the same values, each through its own matcher
    rcases hi : kp.inbox with _ | ⟨m, rest⟩
    · rcases hr : kp.run with _ | rest | ⟨_ | seq⟩ | _ <;> simp only [hi, hr] <;>
        split_ifs <;> simp only [ih]
    · rcases hr : kp.run with _ | rest | ⟨_ | seq⟩ | _ <;> simp only [hi, hr, withoutIdle] <;>
        split <;> simp_all only

theorem recoveredTraced_fst (w : World) : (b.recoveredTraced w).1 = b.recovered w := by
  simp only [recoveredTraced, recovered]
  rcases b.get (b.parkIncoming w) with _ | kp
  · rfl
  · simp only [Stash.takeAll, ← b.handleAllTraced_fst]
    rcases b.handleAllTraced kp.stash.items _ with ⟨_ | _, w', h⟩
    · simp only [serveTraced_fst]
    · rfl

section Recovery

variable {κ : Type} [Aggregate α κ] [Logged κ] [Stored α]

/-- `recoverNext`, telling what befell the messages and the recovery. -/
def recoverNextTraced (items : List ReplayItem) (w : World) : World × List (Happening μ) :=
  match items with
  | [] => b.recoveredTraced w
  | item :: rest =>
    let parked := b.parkedBy w
    let w := b.parkIncoming w
    match b.get w with
    | none => (w, parked)
    | some kp =>
      match Core.recover (κ := κ) kp.core item with
      | .error _ => (b.finish w, parked ++ [.aborted])
      | .ok (.continue, c) =>
        ({ (b.put w { kp with core := c, run := .recovering rest, sched := .deferred }) with
          deferred := w.deferred ++ [b.unit] }, parked)
      | .ok (.completed, c) =>
        let r := b.recoveredTraced (b.put w { kp with core := c })
        (r.1, parked ++ .completed :: r.2)

/-- `poll`, telling what befell the messages and the recovery in this turn. -/
def pollTraced (w : World) : World × List (Happening μ) :=
  match b.get w with
  | none => (w, [])
  | some kp =>
    match kp.run with
    | .fresh => b.recoverNextTraced (κ := κ) (kp.core.load w.store) w
    | .recovering rest => b.recoverNextTraced (κ := κ) rest w
    | .serving _ => b.serveTraced turnBudget w
    | .ended => (w, [])

theorem recoverNextTraced_fst (items : List ReplayItem) (w : World) :
    (b.recoverNextTraced (κ := κ) items w).1 = b.recoverNext (κ := κ) items w := by
  cases items with
  | nil => exact b.recoveredTraced_fst w
  | cons item rest =>
    simp only [recoverNextTraced, recoverNext]
    rcases b.get (b.parkIncoming w) with _ | kp
    · rfl
    · dsimp only
      rcases Core.recover (κ := κ) kp.core item with _ | ⟨_ | _, c⟩
      · rfl
      · rfl
      · exact b.recoveredTraced_fst _

theorem pollTraced_fst (w : World) : (b.pollTraced (κ := κ) w).1 = b.poll (κ := κ) w := by
  simp only [pollTraced, poll]
  rcases b.get w with _ | kp
  · rfl
  · dsimp only
    rcases kp.run with _ | rest | idle | _
    · exact b.recoverNextTraced_fst _ _
    · exact b.recoverNextTraced_fst _ _
    · exact b.serveTraced_fst _ _
    · rfl

end Recovery

namespace Happening

variable {μ : Type}

def stopAfter (pre : List μ) (m : μ) : List (Happening μ) :=
  pre.map .handled ++ [.handled m, .stopped]

def parkings (X T : List μ) : List (Happening μ) := X.map .setAside ++ T.map .refused

theorem parkings_append {X T A D : List μ} (h : T = [] ∨ A = []) :
    parkings X T ++ parkings A D = parkings (X ++ A) (T ++ D) := by
  rcases h with rfl | rfl <;> simp [parkings]

end Happening

end Behaviour

def Run.stage : Run → Run
  | .serving _ => .serving none
  | r => r

theorem Run.eq_serving_of_stage {r : Run} (h : r.stage = .serving none) :
    ∃ idle, r = .serving idle := by
  cases r <;> simp_all [Run.stage]

namespace Keeper

variable {α μ : Type}

/-- Two states of a unit with the same queue: the same inbox, stash and open inbox, and the
same stage of its run. -/
structure Agrees (kp kp' : Keeper α μ) : Prop where
  inbox : kp'.inbox = kp.inbox
  stash : kp'.stash = kp.stash
  isOpen : kp'.isOpen = kp.isOpen
  stage : kp'.run.stage = kp.run.stage

theorem Agrees.refl (kp : Keeper α μ) : kp.Agrees kp := ⟨rfl, rfl, rfl, rfl⟩

theorem Agrees.trans {kp₁ kp₂ kp₃ : Keeper α μ} (h₁ : kp₁.Agrees kp₂) (h₂ : kp₂.Agrees kp₃) :
    kp₁.Agrees kp₃ :=
  ⟨h₂.inbox.trans h₁.inbox, h₂.stash.trans h₁.stash, h₂.isOpen.trans h₁.isOpen,
    h₂.stage.trans h₁.stage⟩

theorem Agrees.capacity {kp kp' : Keeper α μ} (h : kp.Agrees kp') :
    kp'.stash.capacity = kp.stash.capacity := by
  rw [h.stash]

def admitted (kp : Keeper α μ) : List μ := kp.inbox.take (kp.stash.room kp.inbox)

def parked (kp : Keeper α μ) : List μ := kp.stash.items ++ kp.admitted

def turnedAway (kp : Keeper α μ) : List μ := kp.inbox.drop (kp.stash.room kp.inbox)

def parkings (kp : Keeper α μ) : List (Behaviour.Happening μ) :=
  Behaviour.Happening.parkings kp.admitted kp.turnedAway

end Keeper

namespace Behaviour

variable {α μ : Type} {b : Behaviour α μ}

/-- A unit that lives at its place in the cells of the world, and whose own acts keep its
queue: the handler, the answer to a refused message and the last act before an idle stop leave
its inbox, stash, open inbox and stage as they were. -/
structure Lawful (b : Behaviour α μ) : Prop where
  get_of_cells : ∀ {w w' : World}, w.cells = w'.cells → b.get w = b.get w'
  get_put : ∀ {w : World} {kp : Keeper α μ} (kp' : Keeper α μ), b.get w = some kp →
    b.get (b.put w kp') = some kp'
  handle : ∀ {w : World} {kp : Keeper α μ} (m : μ), b.get w = some kp →
    ∃ kp', b.get (b.handle m w).2 = some kp' ∧ kp.Agrees kp'
  refuse : ∀ (m : μ) (w : World), b.get (b.refuse m w) = b.get w
  passivate : ∀ {w : World} {kp : Keeper α μ}, b.get w = some kp →
    ∃ kp', b.get (b.passivate w) = some kp' ∧ kp.Agrees kp'

/-- Offering a list to the stash sets aside its longest prefix that fits, in order, and refuses
the rest: once the stash is full it stays full. -/
theorem foldl_offer (ms : List μ) (s : Stash μ) (h : List (Happening μ)) :
    ms.foldl offer (s, h) = ({ s with items := s.items ++ ms.take (s.room ms) },
      h ++ Happening.parkings (ms.take (s.room ms)) (ms.drop (s.room ms))) := by
  induction ms generalizing s h with
  | nil => simp [Happening.parkings]
  | cons m ms ih =>
    rw [List.foldl_cons]
    cases hfull : s.isFull with
    | true =>
      simp only [offer, Stash.push, hfull, if_true, ih, Stash.room_of_isFull hfull, List.take_zero,
        List.drop_zero]
      simp [Happening.parkings]
    | false =>
      simp only [offer, Stash.push, hfull, ih, Stash.room_push s m ms hfull]
      simp [Happening.parkings]

theorem parkedBy_eq {w : World} {kp : Keeper α μ} (h : b.get w = some kp) :
    b.parkedBy w = kp.parkings := by
  simp [parkedBy, h, foldl_offer, Keeper.parkings, Keeper.admitted, Keeper.turnedAway]

/-- A turn of serving an inbox `q` left the unit serving the rest of `q`, or ended after
handling all of it or up to a message that stopped it. -/
def Served (q : List μ) (tr : List (Happening μ)) (kp : Keeper α μ) : Prop :=
  kp.stash.items = [] ∧
    ((∃ pre, q = pre ++ kp.inbox ∧ tr = pre.map .handled ∧ kp.run.stage = .serving none) ∨
      (kp.run = .ended ∧ kp.isOpen = false ∧
        (tr = q.map .handled ∨ ∃ pre m post, q = pre ++ m :: post ∧ tr = Happening.stopAfter pre m)))

theorem Served.waiting {kp : Keeper α μ} (he : kp.stash.items = [])
    (hs : kp.run.stage = .serving none) : Served kp.inbox [] kp :=
  ⟨he, .inl ⟨[], rfl, rfl, hs⟩⟩

theorem Served.cons {q : List μ} {tr : List (Happening μ)} {kp : Keeper α μ} (m : μ)
    (h : Served q tr kp) : Served (m :: q) (.handled m :: tr) kp := by
  obtain ⟨he, ⟨pre, hq, ht, hs⟩ | ⟨hr, ho, ht | ⟨pre, m', post, hq, ht⟩⟩⟩ := h
  · exact ⟨he, .inl ⟨m :: pre, by simp [hq], by simp [ht], hs⟩⟩
  · exact ⟨he, .inr ⟨hr, ho, .inl (by simp [ht])⟩⟩
  · exact ⟨he, .inr ⟨hr, ho, .inr ⟨m :: pre, m', post, by simp [hq], by
      simp [ht, Happening.stopAfter]⟩⟩⟩

theorem Served.prepend {q : List μ} {tr : List (Happening μ)} {kp : Keeper α μ} (pre : List μ)
    (h : Served q tr kp) : Served (pre ++ q) (pre.map .handled ++ tr) kp := by
  induction pre with
  | nil => exact h
  | cons m pre ih => exact ih.cons m

namespace Lawful

variable (hb : b.Lawful) {w : World} {kp : Keeper α μ}
include hb

theorem get_deregister (s : Nat) : b.get (w.deregister s) = b.get w := hb.get_of_cells rfl

theorem get_register (o : Owner) (d : Nat) : b.get (w.register o d).2 = b.get w :=
  hb.get_of_cells rfl

theorem get_withDeferred (d : List UnitRef) : b.get { w with deferred := d } = b.get w :=
  hb.get_of_cells rfl

theorem get_dropReplies (rs : List Reply) : b.get (w.dropReplies rs) = b.get w :=
  hb.get_of_cells (World.dropReplies_frame rs).1

theorem get_modify (h : b.get w = some kp) (f : Keeper α μ → Keeper α μ) :
    b.get (b.modify w f) = some (f kp) := by
  unfold modify
  rw [h]
  exact hb.get_put _ h

theorem get_refuseAll (ms : List μ) (w : World) :
    b.get (ms.foldl (fun w m => b.refuse m w) w) = b.get w := by
  induction ms generalizing w with
  | nil => rfl
  | cons m ms ih => rw [List.foldl_cons, ih, hb.refuse]

theorem get_parkIncoming (h : b.get w = some kp) :
    b.get (b.parkIncoming w) =
      some { kp with inbox := [], stash := { kp.stash with items := kp.parked } } := by
  rw [b.parkIncoming_eq h, hb.get_refuseAll]
  exact hb.get_put _ h

theorem get_finish (h : b.get w = some kp) :
    b.get (b.finish w) = some { kp with
      inbox := [], stash := { kp.stash with items := [] }, subscribers := {}, isOpen := false,
      run := .ended, sched := .done } := by
  unfold finish
  rw [h]
  dsimp only
  rw [hb.get_dropReplies]
  refine hb.get_put _ (show b.get _ = some kp from ?_)
  split <;> simp only [hb.get_deregister, h]

theorem served_finish (q : List μ) {tr : List (Happening μ)}
    (htr : tr = q.map .handled ∨ ∃ pre m post, q = pre ++ m :: post ∧ tr = Happening.stopAfter pre m)
    (h : b.get w = some kp) :
    ∃ kp', b.get (b.finish w) = some kp' ∧ kp'.stash.capacity = kp.stash.capacity ∧
      Served q tr kp' :=
  ⟨_, hb.get_finish h, rfl, rfl, .inr ⟨rfl, rfl, htr⟩⟩

/-- Handling a list of messages hands them to the handler in order, up to the first that asks
to stop, and keeps the unit's queue. -/
theorem handleAllTraced_spec (l : List μ) (h : b.get w = some kp) :
    (∃ kp', b.get (b.handleAllTraced l w).2.1 = some kp' ∧ kp.Agrees kp') ∧
      (((b.handleAllTraced l w).1 = .continue ∧ (b.handleAllTraced l w).2.2 = l.map .handled) ∨
        ((b.handleAllTraced l w).1 = .stop ∧ ∃ pre m post, l = pre ++ m :: post ∧
          (b.handleAllTraced l w).2.2 = Happening.stopAfter pre m)) := by
  induction l generalizing w kp with
  | nil => exact ⟨⟨kp, h, .refl kp⟩, .inl ⟨rfl, rfl⟩⟩
  | cons m rest ih =>
    obtain ⟨kp₁, h₁, hag₁⟩ := hb.handle m h
    simp only [handleAllTraced]
    rcases hm : b.handle m w with ⟨_ | _, w₁⟩ <;> rw [hm] at h₁
    · obtain ⟨⟨kp', h', hag'⟩, hr⟩ := ih h₁
      refine ⟨⟨kp', h', hag₁.trans hag'⟩, ?_⟩
      rcases hr with ⟨hf, ht⟩ | ⟨hf, pre, m', post, hl, ht⟩
      · exact .inl ⟨hf, by simp [ht]⟩
      · exact .inr ⟨hf, m :: pre, m', post, by simp [hl], by simp [ht, Happening.stopAfter]⟩
    · exact ⟨⟨kp₁, by rw [hb.get_dropReplies]; exact h₁, hag₁⟩,
        .inr ⟨rfl, [], m, rest, rfl, rfl⟩⟩

theorem get_withoutIdle (r : Run) (h : b.get w = some kp) :
    b.get (withoutIdle r w) = some kp := by
  unfold withoutIdle
  split <;> simp only [hb.get_deregister, h]

/-- A turn of serving hands the waiting messages to the handler in order, until the budget
runs out, the unit waits, or it ends: at the first message that asks it to stop, or with
nothing left to handle. -/
theorem serveTraced_spec (n : Nat) (h : b.get w = some kp)
    (hs : kp.run.stage = .serving none) (he : kp.stash.items = []) :
    ∃ kp', b.get (b.serveTraced n w).1 = some kp' ∧ kp'.stash.capacity = kp.stash.capacity ∧
      Served kp.inbox (b.serveTraced n w).2 kp' := by
  induction n generalizing w kp with
  | zero =>
    -- out of budget: the unit yields with its queue as it was
    refine ⟨{ kp with sched := .deferred }, ?_, rfl, .waiting he hs⟩
    simp only [serveTraced, serve, hb.get_withDeferred, hb.get_modify h]
  | succ n ih =>
    obtain ⟨idle, hr⟩ := Run.eq_serving_of_stage hs
    rcases hi : kp.inbox with _ | ⟨m, rest⟩
    · -- nothing waits: the unit ends, waits, or looks at its inbox once more
      have hfinish : ∃ kp', b.get (b.finish w) = some kp' ∧
          kp'.stash.capacity = kp.stash.capacity ∧ Served [] [] kp' :=
        hb.served_finish [] (.inl rfl) h
      have hpassivate : ∃ kp', b.get (b.finish (b.passivate (b.modify (b.put w
          { kp with inbox := [], idleDue := false, run := .serving none })
          (fun kp => { kp with isOpen := false })))) = some kp' ∧
          kp'.stash.capacity = kp.stash.capacity ∧ Served [] [] kp' := by
        obtain ⟨kp₁, h₁, hag⟩ := hb.passivate (hb.get_modify (hb.get_put _ h) _)
        obtain ⟨kp', h', hc, hsv⟩ := hb.served_finish [] (.inl rfl) h₁
        exact ⟨kp', h', hc.trans hag.capacity, hsv⟩
      have hagain := ih (hb.get_put { kp with inbox := [], idleDue := false,
                                               run := .serving none } h) rfl he
      rcases idle with _ | seq <;> simp only [serveTraced, h, hi, hr]
      · split_ifs
        · exact hfinish
        · exact hpassivate
        · exact hagain
        · exact ih (hb.get_put { kp with inbox := [], run := .serving none, idleDue := true } h)
            rfl he
        · exact ⟨_, hb.get_put _ (by rw [hb.get_register]; exact h), rfl, .waiting he rfl⟩
      · split_ifs
        · exact hfinish
        · exact hpassivate
        · exact hagain
        · exact ⟨_, hb.get_put _ h, rfl, .waiting he rfl⟩
    · -- the first waiting message goes to the handler, the unit written back without it
      simp only [serveTraced, h, hi]
      have h₁ := hb.get_put { kp with inbox := rest, idleDue := false, run := .serving none }
        (hb.get_withoutIdle kp.run h)
      obtain ⟨kp₂, h₂, hag⟩ := hb.handle m h₁
      rcases hm : b.handle m (b.put (withoutIdle kp.run w)
        { kp with inbox := rest, idleDue := false, run := .serving none }) with
        ⟨_ | _, w₂⟩ <;> rw [hm] at h₂ <;> dsimp only
      · obtain ⟨kp', h', hc, hsv⟩ := ih h₂ hag.stage (by rw [hag.stash]; exact he)
        rw [hag.inbox] at hsv
        exact ⟨kp', h', hc.trans hag.capacity, hsv.cons m⟩
      · obtain ⟨kp', h', hc, hsv⟩ :=
          hb.served_finish (m :: rest) (.inr ⟨[], m, rest, rfl, rfl⟩) h₂
        exact ⟨kp', h', hc.trans hag.capacity, hsv⟩

/-- After the last item of recovery the unit parks once more, and hands what it set aside to
the handler, in order, before it serves its inbox: it refuses what does not fit, and then the
messages it set aside are served as a turn of serving serves an inbox. -/
theorem recoveredTraced_spec (h : b.get w = some kp) :
    ∃ kp' tr, b.get (b.recoveredTraced w).1 = some kp' ∧
      kp'.stash.capacity = kp.stash.capacity ∧
      (b.recoveredTraced w).2 = kp.parkings ++ tr ∧ Served kp.parked tr kp' := by
  simp only [recoveredTraced, parkedBy_eq h, hb.get_parkIncoming h, Stash.takeAll]
  have h₂ := hb.get_put { kp with inbox := [], stash := { kp.stash with items := [] },
                                  run := .serving none } (hb.get_parkIncoming h)
  obtain ⟨⟨kp₃, h₃, hag⟩, hr⟩ :=
    hb.handleAllTraced_spec kp.parked h₂
  rcases hres : b.handleAllTraced _ _ with ⟨f, w₃, l⟩
  simp only [hres] at h₃ hr
  rcases hr with ⟨rfl, rfl⟩ | ⟨rfl, pre, m, post, hl, rfl⟩ <;> dsimp only
  · -- everything set aside was handled: the unit serves its inbox, empty as parking left it
    obtain ⟨kp', h', hc, hsv⟩ := hb.serveTraced_spec turnBudget h₃ hag.stage
      (by rw [hag.stash])
    rw [hag.inbox] at hsv
    exact ⟨kp', _, h', hc.trans hag.capacity, by simp, (List.append_nil _) ▸ hsv.prepend _⟩
  · -- the handler asked to stop: the unit ends
    obtain ⟨kp', h', hc, hsv⟩ := hb.served_finish _ (.inr ⟨pre, m, post, hl, rfl⟩) h₃
    exact ⟨kp', _, h', hc.trans hag.capacity, rfl, hsv⟩

section Recovery

variable {κ : Type} [Aggregate α κ] [Logged κ] [Stored α]

/-- One item of recovery, after parking: a step that goes on leaves the unit recovering the
rest with what it set aside; an abort ends it; the last item ends recovery, and the unit
serves what it set aside. -/
theorem recoverNextTraced_spec (h : b.get w = some kp) (item : ReplayItem)
    (rest : List ReplayItem) :
    (∃ c, Core.recover (κ := κ) kp.core item = .ok (.continue, c) ∧
      (b.recoverNextTraced (κ := κ) (item :: rest) w).2 = kp.parkings ∧
      b.get (b.recoverNextTraced (κ := κ) (item :: rest) w).1 = some { kp with
        inbox := [], stash := { kp.stash with items := kp.parked }, core := c,
        run := .recovering rest, sched := .deferred }) ∨
    ((b.recoverNextTraced (κ := κ) (item :: rest) w).2 = kp.parkings ++ [.aborted] ∧
      ∃ kp', b.get (b.recoverNextTraced (κ := κ) (item :: rest) w).1 = some kp' ∧
        kp'.stash.capacity = kp.stash.capacity ∧ kp'.stash.items = [] ∧ kp'.run = .ended ∧
        kp'.isOpen = false) ∨
    (∃ kp' tr, b.get (b.recoverNextTraced (κ := κ) (item :: rest) w).1 = some kp' ∧
      kp'.stash.capacity = kp.stash.capacity ∧
      (b.recoverNextTraced (κ := κ) (item :: rest) w).2 =
        kp.parkings ++ .completed :: tr ∧ Served kp.parked tr kp') := by
  have h₁ := hb.get_parkIncoming h
  simp only [recoverNextTraced, parkedBy_eq h, h₁]
  rcases hrec : Core.recover (κ := κ) kp.core item with e | ⟨_ | _, c⟩ <;> dsimp only
  · exact .inr (.inl ⟨rfl, _, hb.get_finish h₁, rfl, rfl, rfl, rfl⟩)
  · refine .inl ⟨c, rfl, rfl, ?_⟩
    rw [hb.get_withDeferred]
    exact hb.get_put _ h₁
  · -- the parked unit parks nothing more: its inbox is empty
    let kp₂ : Keeper α μ :=
      { kp with inbox := [], stash := { kp.stash with items := kp.parked }, core := c }
    have hp : kp₂.parked = kp.parked := by simp [kp₂, Keeper.parked, Keeper.admitted]
    have ht : kp₂.parkings = [] := by
      simp [kp₂, Keeper.parkings, Keeper.admitted, Keeper.turnedAway, Happening.parkings]
    obtain ⟨kp', tr, h', hc, htr, hsv⟩ := hb.recoveredTraced_spec (hb.get_put kp₂ h₁)
    rw [ht, List.nil_append] at htr
    rw [hp] at hsv
    exact .inr (.inr ⟨kp', tr, h', hc, by rw [htr], hsv⟩)

end Recovery

end Lawful

end Behaviour

end Chronicle
