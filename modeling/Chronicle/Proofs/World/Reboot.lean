import Chronicle.Proofs.World.Routing

/-! After a reboot two entity units can run for one record. -/
namespace Chronicle

namespace World

variable {w w' : World} {u v x : UnitRef} {j k : EntityType} {id : Uuid} {c : Core j.Rec}

def UnitAt (w : World) (v : UnitRef) (j : EntityType) (id : Uuid) (c : Core j.Rec) : Prop :=
  ∃ kp : Keeper j.Rec (EntityMsg j), w.cell? v = some (.entity j id kp) ∧ kp.isOpen = true ∧
    kp.core = c

theorem UnitAt.of_cell?_eq (h : w.UnitAt v j id c) (he : w'.cell? v = w.cell? v) :
    w'.UnitAt v j id c := by
  obtain ⟨kp, hc, ho, hcore⟩ := h
  exact ⟨kp, he.trans hc, ho, hcore⟩

theorem UnitAt.lt_size (h : w.UnitAt v j id c) : v < w.cells.size := by
  obtain ⟨kp, hc, -, -⟩ := h
  exact lt_size_of_cell? hc

theorem UnitAt.isOpen (h : w.UnitAt v j id c) : w.isOpen v = true := by
  obtain ⟨kp, hc, ho, -⟩ := h
  simp [World.isOpen, hc, Cell.isOpen, ho]

theorem UnitAt.ne_sup {s : SupUnit k} (h : w.UnitAt v j id c) (hs : w.sup? u k = some s) :
    v ≠ u := by
  rintro rfl
  obtain ⟨kp, hc, -, -⟩ := h
  rw [sup?_eq_some.mp hs] at hc
  cases hc

theorem UnitAt.alloc (h : w.UnitAt v j id c) : w.alloc.2.UnitAt v j id c := h.of_cell?_eq rfl

theorem UnitAt.schedule (h : w.UnitAt v j id c) (d : Duration) (a : Alarm) :
    (w.schedule d a).2.UnitAt v j id c :=
  h.of_cell?_eq rfl

theorem UnitAt.abortTimer (h : w.UnitAt v j id c) (t : Nat) : (w.abortTimer t).UnitAt v j id c :=
  h.of_cell?_eq (cell?_abortTimer t)

theorem UnitAt.dropReplies (h : w.UnitAt v j id c) (rs : List Reply) :
    (w.dropReplies rs).UnitAt v j id c :=
  h.of_cell?_eq (congrArg (·[v]?) (dropReplies_frame rs).1)

theorem UnitAt.fillSlot (h : w.UnitAt v j id c) (n : Nat) (d : Delivery) :
    (w.fillSlot n d).2.UnitAt v j id c := by
  refine h.of_cell?_eq ?_
  unfold World.fillSlot
  split <;> rfl

theorem UnitAt.setCell_ne (h : w.UnitAt v j id c) (hx : x ≠ v) (c' : Cell) :
    (w.setCell x c').UnitAt v j id c :=
  h.of_cell?_eq (cell?_setCell_ne hx c')

theorem UnitAt.addCell (h : w.UnitAt v j id c) (c' : Cell) : (w.addCell c').2.UnitAt v j id c := by
  refine h.of_cell?_eq ?_
  simp [World.addCell, cell?, Array.getElem?_push, Nat.ne_of_lt h.lt_size]

theorem UnitAt.wake (h : w.UnitAt v j id c) (x : UnitRef) : (w.wake x).UnitAt v j id c := by
  by_cases hx : x = v
  · subst hx
    obtain ⟨kp, hc, ho, hcore⟩ := h
    simp only [World.wake, hc]
    split
    · refine ⟨{ kp with sched := .queued }, ?_, ho, hcore⟩
      simp [cell?, setCell, Cell.withSched, lt_size_of_cell? hc]
    · exact ⟨kp, hc, ho, hcore⟩
  · exact h.of_cell?_eq (cell?_wake_ne hx)

theorem accept_entity {kp : Keeper j.Rec (EntityMsg j)} {l : Letter} {c' : Cell}
    (h : (Cell.entity j id kp).accept l = some c') :
    ∃ kp' : Keeper j.Rec (EntityMsg j), c' = .entity j id kp' ∧ kp'.isOpen = kp.isOpen ∧
      kp'.core = kp.core := by
  cases l with
  | entity j₂ m =>
    simp only [Cell.accept] at h
    split at h
    · cases h
      exact ⟨_, rfl, rfl, rfl⟩
    · cases h
  | _ => simp [Cell.accept] at h

theorem UnitAt.tryPost (h : w.UnitAt v j id c) {l : Letter} (hp : w.tryPost x l = some w') :
    w'.UnitAt v j id c := by
  unfold World.tryPost at hp
  split at hp
  · rename_i c₁ hc₁
    split at hp
    · obtain ⟨c₂, hacc, rfl⟩ := Option.map_eq_some_iff.mp hp
      by_cases hx : x = v
      · subst hx
        obtain ⟨kp, hc, ho, hcore⟩ := h
        rw [hc] at hc₁
        cases hc₁
        -- a letter for the unit itself lengthens its inbox and nothing else
        obtain ⟨kp', rfl, ho', hcore'⟩ := accept_entity hacc
        have hw : (w.setCell x (.entity j id kp')).UnitAt x j id c :=
          ⟨kp', cell?_setCell_self (lt_size_of_cell? hc) _, ho'.trans ho, hcore'.trans hcore⟩
        exact hw.wake x
      · exact (h.setCell_ne hx c₂).wake x
    · cases hp
  · cases hp

theorem UnitAt.post (h : w.UnitAt v j id c) (x : UnitRef) (l : Letter) :
    (w.post x l).2.UnitAt v j id c := by
  unfold World.post
  cases hp : w.tryPost x l with
  | none => exact h.dropReplies l.replies
  | some w₂ => exact h.tryPost hp

theorem UnitAt.postWeak (h : w.UnitAt v j id c) (x : UnitRef) (l : Letter) :
    (w.postWeak x l).2.UnitAt v j id c := by
  unfold World.postWeak
  split
  · exact h.post x l
  · exact h.dropReplies l.replies

theorem UnitAt.postSupWeak (h : w.UnitAt v j id c) (x : UnitRef)
    (m : (k : EntityType) → SupMsg k) : (w.postSupWeak x m).2.UnitAt v j id c := by
  unfold World.postSupWeak
  split
  · exact h.postWeak x _
  · exact h

theorem UnitAt.deliver (h : w.UnitAt v j id c) (r : Reply) (d : Delivery) :
    (w.deliver r d).2.UnitAt v j id c := by
  unfold World.deliver
  split
  · exact h
  · exact h.fillSlot _ _
  · exact h.postWeak _ _
  · exact h.postWeak _ _
  · exact h.postSupWeak _ _
  · exact h.postSupWeak _ _
  · exact h

theorem UnitAt.consult (h : w.UnitAt v j id c) (i : Nat) (m : RegistryMsg) :
    (w.consult i m).2.UnitAt v j id c := by
  unfold World.consult
  split
  · have hs : ∀ scripts, UnitAt { w with scripts } v j id c := fun _ => h.of_cell?_eq rfl
    dsimp only
    split
    · exact (hs _).deliver _ _
    · exact (hs _).deliver _ _
    · exact (hs _).dropReplies _
    · exact (hs _).dropReplies _
    · exact (hs _).schedule _ _
    · exact (hs _).schedule _ _
  · exact h.dropReplies _

theorem UnitAt.tellRegistry (h : w.UnitAt v j id c) (d : Directory) (m : RegistryMsg) :
    (w.tellRegistry d m).2.UnitAt v j id c := by
  unfold World.tellRegistry
  split
  · exact h.post _ _
  · exact h.consult _ _

theorem UnitAt.spawnEntity (h : w.UnitAt v j id c) (k : EntityType) (id' : Uuid)
    (config : UnitConfig) : (w.spawnEntity k id' config).2.UnitAt v j id c :=
  h.alloc.addCell _

theorem UnitAt.spawnList (h : w.UnitAt v j id c) (k : EntityType) (config : UnitConfig) :
    (w.spawnList k config).2.UnitAt v j id c :=
  h.alloc.addCell _

theorem UnitAt.spawnAccumulator (h : w.UnitAt v j id c) (k : EntityType) (parent : Parent)
    (timeout : Duration) (capacity : Option Nat) :
    (w.spawnAccumulator k parent timeout capacity).2.UnitAt v j id c :=
  h.alloc.addCell _

theorem UnitAt.foldl {α : Type} (h : w.UnitAt v j id c) (l : List α) (f : World → α → World)
    (hf : ∀ w a, w.UnitAt v j id c → (f w a).UnitAt v j id c) : (l.foldl f w).UnitAt v j id c := by
  induction l generalizing w with
  | nil => exact h
  | cons a l ih => exact ih (hf w a h)

/-! A supervisor goes past every entity unit at another place. -/

theorem UnitAt.put (h : w.UnitAt v j id c) (hv : v ≠ u) (t : SupUnit k) :
    (Supervision.put u k w t).UnitAt v j id c :=
  h.setCell_ne (Ne.symm hv) _

theorem UnitAt.modify (h : w.UnitAt v j id c) (hv : v ≠ u) (f : SupUnit k → SupUnit k) :
    (Supervision.modify u k w f).UnitAt v j id c := by
  unfold Supervision.modify
  split
  · exact h.put hv _
  · exact h

theorem UnitAt.refuseMsg (h : w.UnitAt v j id c) (m : SupMsg k) (reason : String) :
    (Supervision.refuseMsg k m reason w).UnitAt v j id c := by
  unfold Supervision.refuseMsg
  split
  · exact h.deliver _ _
  · exact h.deliver _ _
  · exact h.dropReplies _

theorem UnitAt.park (h : w.UnitAt v j id c) (hv : v ≠ u) (m : SupMsg k) :
    (Supervision.park u k m w).UnitAt v j id c := by
  unfold Supervision.park
  split
  · split
    · exact h.put hv _
    · exact h.refuseMsg _ _
  · exact h

theorem UnitAt.cancelRegistrationTimers (h : w.UnitAt v j id c) (hv : v ≠ u) :
    (Supervision.cancelRegistrationTimers u k w).UnitAt v j id c := by
  unfold Supervision.cancelRegistrationTimers
  split
  · refine (h.foldl _ _ fun w' t hw' => ?_).modify hv _
    split
    · exact hw'.abortTimer _
    · exact hw'
  · exact h

theorem UnitAt.cancelTimers (h : w.UnitAt v j id c) (hv : v ≠ u) :
    (Supervision.cancelTimers u k w).UnitAt v j id c := by
  have h₁ := h.cancelRegistrationTimers (k := k) hv
  unfold Supervision.cancelTimers
  dsimp only
  split
  · split
    · exact (h₁.abortTimer _).modify hv _
    · exact h₁
  · exact h₁

/-- Stopping a supervisor only tells its units to stop: each goes on until it takes the stop. -/
theorem UnitAt.shutdown (h : w.UnitAt v j id c) (hv : v ≠ u) :
    (Supervision.shutdown u k w).UnitAt v j id c := by
  have h₁ := h.cancelTimers (k := k) hv
  unfold Supervision.shutdown
  dsimp only
  split
  · exact h₁
  · rename_i s _
    simp only [Stash.takeAll]
    have hstopped := ((h₁.put hv { s with stash := { s.stash with items := [] } }).foldl
      s.stash.items (fun w m => Supervision.refuseMsg k m "supervisor stopped" w)
      fun _ m hw' => hw'.refuseMsg m _).foldl
      s.children (fun w ch => (w.post ch.2.unit (.entity k .stop)).2) fun _ _ hw' => hw'.post _ _
    split <;> split
    · exact (hstopped.post _ _).post _ _
    · exact hstopped.post _ _
    · exact hstopped.post _ _
    · exact hstopped

theorem UnitAt.finish (h : w.UnitAt v j id c) (hv : v ≠ u) :
    (Supervision.finish u k w).UnitAt v j id c := by
  have h₁ := h.cancelTimers (k := k) hv
  unfold Supervision.finish
  dsimp only
  split
  · exact h₁
  · exact (h₁.put hv _).dropReplies _

theorem UnitAt.registrationFailed (h : w.UnitAt v j id c) (hv : v ≠ u) :
    (Supervision.registrationFailed u k w).2.UnitAt v j id c := by
  have h₁ := (h.cancelRegistrationTimers (k := k) hv).modify hv
    (fun s : SupUnit k => { s with correlation := none })
  unfold Supervision.registrationFailed
  dsimp only
  split
  · exact h₁
  · -- the pair's world is read off before the lemmas are applied to it
    split <;> dsimp only
    · exact h₁.shutdown hv
    · exact (h₁.schedule _ _).modify hv _

theorem UnitAt.register (h : w.UnitAt v j id c) (hv : v ≠ u) :
    (Supervision.register u k w).2.UnitAt v j id c := by
  unfold Supervision.register
  split
  · exact h
  rename_i s _
  split
  · exact h
  rename_i d _
  -- a fresh correlation, the supervisor written back, and the registry told
  have h₂ := (h.alloc.put hv
    { s with attempts := s.attempts + 1, correlation := some w.alloc.1 }).tellRegistry
    d (.register k (Supervision.supervisorRef u k s) (.answered u w.alloc.1))
  dsimp only
  split
  · exact h₂.registrationFailed hv
  · exact (h₂.schedule _ _).modify hv _

theorem UnitAt.discoveryFailed (h : w.UnitAt v j id c) (hv : v ≠ u) :
    (Supervision.discoveryFailed u k w).2.UnitAt v j id c := by
  unfold Supervision.discoveryFailed
  split
  · exact h
  rename_i s _
  have h₁ := h.put hv { s with discoveryFailures := s.discoveryFailures + 1 }
  dsimp only
  split <;> dsimp only
  · exact h₁.shutdown hv
  · exact (((h₁.spawnList k s.config.unit).schedule _ _).modify hv _)

/-- Asking the listing for its records, once the poll is counted. -/
private theorem UnitAt.ask (h : w.UnitAt v j id c) (hv : v ≠ u) (l : Handle) (p : Nat)
    (d : Duration) :
    (if !w.isOpen l.unit then Supervision.discoveryFailed u k w
      else match w.post l.unit (.listing (.idList (.listed u p))) with
        | (false, w) => Supervision.discoveryFailed u k w
        | (true, w) =>
          let (n, w) := w.schedule d (.signal u .pollList)
          (.continue, Supervision.modify u k w (fun s => { s with pollTimer := some n }))).2.UnitAt
      v j id c := by
  split
  · exact h.discoveryFailed hv
  have hw := h.post l.unit (.listing (.idList (.listed u p)))
  split
  · rename_i w₂ hp
    rw [hp] at hw
    exact hw.discoveryFailed hv
  · rename_i w₂ hp
    rw [hp] at hw
    exact (hw.schedule _ _).modify hv _

theorem UnitAt.pollList (h : w.UnitAt v j id c) (hv : v ≠ u) :
    (Supervision.pollList u k w).2.UnitAt v j id c := by
  unfold Supervision.pollList
  split
  · exact h
  split
  · exact h
  rename_i s _ l _
  split
  · exact ((h.abortTimer _).modify hv _).ask hv l _ _
  · exact (h.modify hv _).ask hv l _ _

theorem UnitAt.startInitializing (h : w.UnitAt v j id c) (hv : v ≠ u) :
    (Supervision.startInitializing u k w).2.UnitAt v j id c := by
  unfold Supervision.startInitializing
  split
  · exact h
  rename_i s _
  have h₁ := h.put hv { s with phase := .initializing }
  dsimp only
  exact (((h₁.spawnList k s.config.unit).spawnAccumulator k (.supervisor u)
    s.config.accumulatorPullTimeout s.config.unit.stashCapacity).modify hv _).pollList hv

theorem UnitAt.registered (h : w.UnitAt v j id c) (hv : v ≠ u) (corr : Uuid) (b : Bool) :
    (Supervision.registered u k corr b w).2.UnitAt v j id c := by
  unfold Supervision.registered
  split
  · exact h
  split
  · exact h
  split
  · exact h.registrationFailed hv
  · exact ((h.cancelRegistrationTimers hv).modify hv _).startInitializing hv

theorem UnitAt.registryReady (h : w.UnitAt v j id c) (hv : v ≠ u) (d : Directory) :
    (Supervision.registryReady u k d w).2.UnitAt v j id c := by
  unfold Supervision.registryReady
  split
  · exact h
  rename_i s _
  have h₁ := h.put hv { s with registry := some d }
  dsimp only
  split
  · exact ((h₁.cancelRegistrationTimers hv).modify hv _).register hv
  · exact h₁.tellRegistry _ _

theorem UnitAt.materialize (h : w.UnitAt v j id c) (hv : v ≠ u) (s : SupUnit k) (id' : Uuid) :
    (Supervision.materialize u k s id' w).2.UnitAt v j id c := by
  have h₁ := h.spawnEntity k id' s.config.unit
  unfold Supervision.materialize
  dsimp only
  refine UnitAt.modify ?_ hv _
  cases s.list <;> cases s.accumulator <;> dsimp only
  · exact h₁
  · exact h₁.post _ _
  · exact h₁.post _ _
  · exact (h₁.post _ _).post _ _

theorem UnitAt.liveChild (h : w.UnitAt v j id c) (hv : v ≠ u) (id' : Uuid) :
    (Supervision.liveChild u k id' w).2.UnitAt v j id c := by
  unfold Supervision.liveChild
  split
  · exact h
  rename_i s _
  split
  · split
    · exact h
    · exact h.materialize hv s id'
  · exact h

theorem UnitAt.forward (h : w.UnitAt v j id c) (hv : v ≠ u) (child : ChildRef)
    (cmd : Command k.Rec) (reply : Reply) :
    (Supervision.forward u k child cmd reply w).UnitAt v j id c := by
  unfold Supervision.forward
  split
  · rename_i w₁ hp
    exact h.tryPost hp
  split
  · exact h.dropReplies _
  rename_i s _
  have hm := h.materialize hv s child.id
  dsimp only
  split
  · rename_i w₂ hp
    exact hm.tryPost hp
  · exact hm.deliver _ _

theorem UnitAt.route (h : w.UnitAt v j id c) (hv : v ≠ u) (cmd : Command k.Rec) (reply : Reply) :
    (Supervision.route u k cmd reply w).UnitAt v j id c := by
  -- a unit started for a record and handed the command
  have hstart : ∀ {w' : World} (s : SupUnit k) (id' : Uuid) (cmd' : Command k.Rec),
      w'.UnitAt v j id c → (Supervision.forward u k (Supervision.materialize u k s id' w').1 cmd'
        reply (Supervision.materialize u k s id' w').2).UnitAt v j id c :=
    fun s id' cmd' hw' => (hw'.materialize hv s id').forward hv _ cmd' reply
  unfold Supervision.route
  dsimp only
  split
  · split
    · split
      · exact hstart _ _ _ h.alloc
      · exact h.alloc.dropReplies _
    · exact h.deliver _ _
  rename_i id' _
  have hl := h.liveChild (k := k) hv id'
  split
  · rename_i child w₁ hlc
    rw [hlc] at hl
    exact hl.forward hv child cmd reply
  · rename_i w₁ hlc
    rw [hlc] at hl
    split
    · split
      · exact hstart _ _ _ hl
      · exact hl.dropReplies _
    · exact hl.deliver _ _

theorem UnitAt.submit (h : w.UnitAt v j id c) (hv : v ≠ u) (e : Envelope) (reply : Reply) :
    (Supervision.submit u k e reply w).UnitAt v j id c := by
  unfold Supervision.submit
  split
  · exact h.route hv _ _
  · exact h.deliver _ _

theorem UnitAt.handleReady (h : w.UnitAt v j id c) (hv : v ≠ u) (m : SupMsg k) :
    (Supervision.handleReady u k m w).UnitAt v j id c := by
  unfold Supervision.handleReady
  split
  · exact h.dropReplies _
  cases m with
  | execute cmd r => exact h.route hv cmd r
  | submit e r => exact h.submit hv e r
  | idList r | getList r | subscribeList _ r =>
    -- a read goes to the read model that serves it, or is dropped without one
    dsimp only
    split
    · exact h.post _ _
    · exact h.dropReplies _
  | childRefs r => exact h.deliver _ _
  | _ => exact h

theorem UnitAt.listSnapshot (h : w.UnitAt v j id c) (hv : v ≠ u) (items : List ListItem) :
    (Supervision.listSnapshot u k items w).UnitAt v j id c := by
  unfold Supervision.listSnapshot
  split
  · exact h
  split
  · exact h
  dsimp only
  -- the poll timer is cancelled and a unit started for each record listed
  generalize hw₂ : List.foldl _ _ items = w₂
  have h₂ : w₂.UnitAt v j id c := by
    split at hw₂ <;> subst hw₂
    case' h_1 => refine UnitAt.foldl ((h.abortTimer _).modify hv _) items _ ?_
    case' h_2 => refine UnitAt.foldl h items _ ?_
    all_goals
      intro w' it hw'
      split
      · exact hw'.materialize hv _ _
      · exact hw'
  -- then the supervisor is ready and serves what it set aside
  split
  · exact h₂
  · exact (h₂.put hv _).foldl _ _ fun w' m hw' => hw'.handleReady hv m

theorem UnitAt.handle (h : w.UnitAt v j id c) (hv : v ≠ u) (m : SupMsg k) :
    (Supervision.handle u k m w).2.UnitAt v j id c := by
  unfold Supervision.handle
  split
  · exact h
  split
  · exact h.registryReady hv _
  · exact h.registered hv _ _
  · split
    · exact h.registrationFailed hv
    · exact h
  · split
    · exact h.register hv
    · exact h
  · exact h.listSnapshot hv _
  · split
    · exact h.pollList hv
    · exact h
  · exact h.deliver _ _
  · exact h.shutdown hv
  · split
    · exact h.park hv _
    · exact h.handleReady hv _

theorem UnitAt.serve (h : w.UnitAt v j id c) (hv : v ≠ u) (n : Nat) :
    (Supervision.serve u k n w).UnitAt v j id c := by
  induction n generalizing w with
  | zero =>
    rw [Supervision.serve]
    split
    · exact (h.put hv _).of_cell?_eq rfl
    · exact h
  | succ n ih =>
    rw [Supervision.serve]
    split
    · exact h
    rename_i s _
    split
    · rename_i m rest _
      -- the first message is taken out and handled; a stop ends the task
      have h₁ := (h.put hv { s with inbox := rest }).handle hv m
      split
      · rename_i w₁ he
        rw [he] at h₁
        exact h₁.finish hv
      · rename_i w₁ he
        rw [he] at h₁
        exact ih h₁
    · split
      · exact h.put hv _
      · exact h.finish hv

end World

namespace Supervision

open World

variable {w : World} {u v : UnitRef} {j k : EntityType} {id : Uuid} {c : Core j.Rec}
  {s : SupUnit k}

theorem finish_isOpen (h : w.HoldsSup u k s) : (finish u k w).isOpen u = false := by
  obtain ⟨t, ht, -⟩ := cancelTimers_sup h
  have hu := lt_size_of_cell? (sup?_eq_some.mp ht)
  unfold finish
  simp only [ht]
  -- closed at its own place, and dropping replies leaves every place
  unfold World.isOpen
  rw [show ∀ (w' : World) (rs : List Reply), (w'.dropReplies rs).cell? u = w'.cell? u from
    fun w' rs => congrArg (·[u]?) (dropReplies_frame rs).1, put, cell?_setCell_self hu]
  rfl

theorem poll_stop_closes (hs : w.sup? u k = some s) {rest : List (SupMsg k)}
    (hin : s.inbox = .stop :: rest) : (poll u k w).isOpen u = false := by
  have hput : (put u k w { s with inbox := rest }).sup? u k = some { s with inbox := rest } :=
    sup?_put (HoldsSup.of_sup? hs).lt_size _
  have hstop : handle u k .stop (put u k w { s with inbox := rest }) =
      (.stop, shutdown u k (put u k w { s with inbox := rest })) := by
    simp only [handle, hput]
  simp only [poll, turnBudget, serve, hs, hin, hstop]
  exact finish_isOpen (shutdown_sup (.of_sup? hput))

theorem poll_keeps_unit (h : w.UnitAt v j id c) (u : UnitRef) (k : EntityType) :
    (poll u k w).UnitAt v j id c := by
  cases hs : w.sup? u k with
  | none =>
    -- no supervisor stands at `u`, and its turn changes nothing
    have hpoll : poll u k w = w := by simp only [poll, turnBudget, serve, hs]
    rw [hpoll]
    exact h
  | some s => exact h.serve (h.ne_sup hs) _

/-- A unit started for a record runs on a fresh core of the record's log. -/
theorem materialize_unitAt (h : w.HoldsSup u k s) (s' : SupUnit k) (id : Uuid) :
    (materialize u k s' id w).2.UnitAt (materialize u k s' id w).1.unit k id
      (Core.new (k.stem ++ "-" ++ id.render) s'.config.unit) := by
  have hnew : (w.spawnEntity k id s'.config.unit).2.UnitAt (w.spawnEntity k id s'.config.unit).1.unit
      k id (Core.new (k.stem ++ "-" ++ id.render) s'.config.unit) := by
    simp [UnitAt, World.spawnEntity, World.alloc, World.addCell, cell?]
  have hne : (w.spawnEntity k id s'.config.unit).1.unit ≠ u := Nat.ne_of_gt h.lt_size
  unfold materialize
  dsimp only
  refine UnitAt.modify ?_ hne _
  cases s'.list <;> cases s'.accumulator <;> dsimp only
  · exact hnew
  · exact hnew.post _ _
  · exact hnew.post _ _
  · exact (hnew.post _ _).post _ _

end Supervision

open Supervision in
/-- After a reboot two units can run for one record: a stopping supervisor leaves its entity
units running, and a new one starts a unit for a record it keeps none for. -/
theorem reboot_runs_two_units :
    (∀ {w : World} {u : UnitRef} {k : EntityType} {s : SupUnit k} {rest : List (SupMsg k)},
      w.sup? u k = some s → s.inbox = .stop :: rest → (poll u k w).isOpen u = false) ∧
    (∀ {w : World} {v : UnitRef} {j : EntityType} {id : Uuid} {c : Core j.Rec} (u : UnitRef)
      (k : EntityType), w.UnitAt v j id c → (poll u k w).UnitAt v j id c) ∧
    (∀ {w : World} {u v : UnitRef} {k : EntityType} {s : SupUnit k} {l a : Handle} {id : Uuid}
      {c : Core k.Rec} (cmd : Command k.Rec) (r : Reply),
      w.UnitAt v k id c → w.sup? u k = some s → s.phase = .ready → s.list = some l →
      s.accumulator = some a → cmd.target = some id → Keyed.get? s.children id = none →
      (cmd.commandType = .insert ∨ cmd.commandType = .upsert) →
      (handle u k (.execute cmd r) w).2.UnitAt v k id c ∧
      ∃ v', v' ≠ v ∧ (handle u k (.execute cmd r) w).2.UnitAt v' k id
          (Core.new (k.stem ++ "-" ++ id.render) s.config.unit) ∧
        (handle u k (.execute cmd r) w).2.InboxAt v' k id (readModels k l a ++ [.execute cmd r])) := by
  refine ⟨fun hs hin => poll_stop_closes hs hin, fun u k h => poll_keeps_unit h u k, ?_⟩
  intro w u v k s l a id c cmd r hv hs hready hl ha ht hget hkind
  rw [handle_execute_ready hs hready]
  have hvu := hv.ne_sup hs
  obtain ⟨-, -, -, hin⟩ := route_unknown_creates hs hl ha ht hget hkind r
  -- the new unit stands past every place the world had, and is handed the command there
  have hfresh : (materialize u k s id w).1.unit = w.cells.size := rfl
  have hnew := materialize_unitAt (.of_sup? hs) s id
  refine ⟨hv.route hvu cmd r, _, hfresh ▸ Nat.ne_of_gt hv.lt_size, ?_, hin⟩
  rw [route_unknown_eq hs ht hget hkind r]
  exact hnew.forward (hfresh ▸ Nat.ne_of_gt (World.HoldsSup.of_sup? hs).lt_size) _ cmd r

end Chronicle
