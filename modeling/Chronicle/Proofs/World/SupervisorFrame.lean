import Chronicle.Proofs.World.Frame

/-! What the world leaves of a supervisor. -/
namespace Chronicle

namespace SupUnit

variable {k : EntityType} {s t v : SupUnit k}

def blank (s : SupUnit k) : SupUnit k := { s with inbox := [], sched := .queued }

def Resembles (s t : SupUnit k) : Prop := s.blank = t.blank

@[refl] theorem Resembles.refl (s : SupUnit k) : s.Resembles s := rfl

theorem Resembles.symm (h : s.Resembles t) : t.Resembles s := Eq.symm h

theorem Resembles.trans (h₁ : s.Resembles t) (h₂ : t.Resembles v) : s.Resembles v := Eq.trans h₁ h₂

theorem Resembles.eq (h : s.Resembles t) : s.blank = t.blank := h

theorem resembles_with (s : SupUnit k) (i : List (SupMsg k)) (c : Sched) :
    s.Resembles { s with inbox := i, sched := c } := rfl

theorem Resembles.eq_with (h : s.Resembles t) : t = { s with inbox := t.inbox, sched := t.sched } := by
  cases s
  cases t
  simp only [Resembles, blank, mk.injEq, and_true, true_and] at h
  obtain ⟨rfl, rfl, rfl, rfl, rfl, rfl, rfl, rfl, rfl, rfl, rfl, rfl, rfl, rfl, rfl, rfl⟩ := h
  rfl

theorem Resembles.phase (h : s.Resembles t) : t.phase = s.phase := (congrArg SupUnit.phase h.eq).symm

theorem Resembles.attempts (h : s.Resembles t) : t.attempts = s.attempts :=
  (congrArg SupUnit.attempts h.eq).symm

theorem Resembles.correlation (h : s.Resembles t) : t.correlation = s.correlation :=
  (congrArg SupUnit.correlation h.eq).symm

theorem Resembles.registry (h : s.Resembles t) : t.registry = s.registry :=
  (congrArg SupUnit.registry h.eq).symm

theorem Resembles.config (h : s.Resembles t) : t.config = s.config := (congrArg SupUnit.config h.eq).symm

theorem Resembles.stash (h : s.Resembles t) : t.stash = s.stash := (congrArg SupUnit.stash h.eq).symm

theorem Resembles.children (h : s.Resembles t) : t.children = s.children :=
  (congrArg SupUnit.children h.eq).symm

theorem Resembles.list (h : s.Resembles t) : t.list = s.list := (congrArg SupUnit.list h.eq).symm

theorem Resembles.accumulator (h : s.Resembles t) : t.accumulator = s.accumulator :=
  (congrArg SupUnit.accumulator h.eq).symm

end SupUnit

namespace World

variable {w w' : World} {u v : UnitRef} {k : EntityType} {s : SupUnit k}

theorem sup?_eq_some : w.sup? u k = some s ↔ w.cell? u = some (.supervisor k s) := by
  unfold sup?
  split
  · rename_i k₂ s₂ hc
    rw [hc]
    split
    · rename_i hk
      subst hk
      simp
    · rename_i hk
      simp only [reduceCtorEq, Option.some.injEq, Cell.supervisor.injEq, false_iff, not_and]
      exact fun h => absurd h hk
  · rename_i hc
    simp only [reduceCtorEq, false_iff]
    exact hc _ _

def HoldsSup (w : World) (u : UnitRef) (k : EntityType) (s : SupUnit k) : Prop :=
  ∃ t, w.sup? u k = some t ∧ s.Resembles t

theorem HoldsSup.of_sup? (h : w.sup? u k = some s) : w.HoldsSup u k s := ⟨s, h, rfl⟩

theorem HoldsSup.of_cell?_eq (h : w.HoldsSup u k s) (he : w'.cell? u = w.cell? u) :
    w'.HoldsSup u k s := by
  obtain ⟨t, ht, hst⟩ := h
  exact ⟨t, sup?_eq_some.mpr (he.trans (sup?_eq_some.mp ht)), hst⟩

theorem HoldsSup.lt_size (h : w.HoldsSup u k s) : u < w.cells.size := by
  obtain ⟨t, ht, -⟩ := h
  exact lt_size_of_cell? (sup?_eq_some.mp ht)

theorem HoldsSup.alloc (h : w.HoldsSup u k s) : w.alloc.2.HoldsSup u k s := h.of_cell?_eq rfl

theorem HoldsSup.schedule (h : w.HoldsSup u k s) (d : Duration) (a : Alarm) :
    (w.schedule d a).2.HoldsSup u k s :=
  h.of_cell?_eq rfl

@[simp] theorem cell?_abortTimer (t : Nat) : (w.abortTimer t).cell? u = w.cell? u := by
  unfold abortTimer
  split
  · split
    · rfl
    · dsimp only
      split <;> split <;> rfl
  · rfl

theorem HoldsSup.abortTimer (h : w.HoldsSup u k s) (t : Nat) : (w.abortTimer t).HoldsSup u k s :=
  h.of_cell?_eq (cell?_abortTimer t)

theorem HoldsSup.dropReplies (h : w.HoldsSup u k s) (rs : List Reply) :
    (w.dropReplies rs).HoldsSup u k s :=
  h.of_cell?_eq (congrArg (·[u]?) (dropReplies_frame rs).1)

theorem HoldsSup.fillSlot (h : w.HoldsSup u k s) (n : Nat) (d : Delivery) :
    (w.fillSlot n d).2.HoldsSup u k s := by
  refine h.of_cell?_eq ?_
  unfold World.fillSlot
  split <;> rfl

theorem HoldsSup.setCell_ne (h : w.HoldsSup u k s) (hv : v ≠ u) (c : Cell) :
    (w.setCell v c).HoldsSup u k s :=
  h.of_cell?_eq (cell?_setCell_ne hv c)

theorem HoldsSup.addCell (h : w.HoldsSup u k s) (c : Cell) : (w.addCell c).2.HoldsSup u k s := by
  refine h.of_cell?_eq ?_
  simp [World.addCell, cell?, Array.getElem?_push, Nat.ne_of_lt h.lt_size]

theorem HoldsSup.wake (h : w.HoldsSup u k s) (v : UnitRef) : (w.wake v).HoldsSup u k s := by
  by_cases hv : v = u
  · subst hv
    obtain ⟨t, ht, hst⟩ := h
    have hc := sup?_eq_some.mp ht
    simp only [World.wake, hc]
    split
    · refine ⟨{ t with sched := .queued }, sup?_eq_some.mpr ?_, hst.trans (SupUnit.resembles_with t _ _)⟩
      simp [cell?, setCell, Cell.withSched, lt_size_of_cell? hc]
    · exact ⟨t, ht, hst⟩
  · exact h.of_cell?_eq (cell?_wake_ne hv)

theorem accept_supervisor {t : SupUnit k} {l : Letter} {c : Cell}
    (h : (Cell.supervisor k t).accept l = some c) : ∃ t', c = .supervisor k t' ∧ t.Resembles t' := by
  cases l with
  | supervisor k₂ m =>
    simp only [Cell.accept] at h
    split at h
    · cases h
      exact ⟨_, rfl, rfl⟩
    · cases h
  | _ => simp [Cell.accept] at h

theorem HoldsSup.tryPost (h : w.HoldsSup u k s) {l : Letter} (hp : w.tryPost v l = some w') :
    w'.HoldsSup u k s := by
  unfold World.tryPost at hp
  split at hp
  · rename_i c hc
    split at hp
    · obtain ⟨c₂, hacc, rfl⟩ := Option.map_eq_some_iff.mp hp
      by_cases hv : v = u
      · subst hv
        obtain ⟨t, ht, hst⟩ := h
        rw [sup?_eq_some.mp ht] at hc
        cases hc
        obtain ⟨t', rfl, htt⟩ := accept_supervisor hacc
        have hw : (w.setCell v (.supervisor k t')).HoldsSup v k s :=
          ⟨t', sup?_eq_some.mpr (cell?_setCell_self (lt_size_of_cell? (sup?_eq_some.mp ht)) _),
            hst.trans htt⟩
        exact hw.wake v
      · exact (h.setCell_ne hv c₂).wake v
    · cases hp
  · cases hp

theorem HoldsSup.post (h : w.HoldsSup u k s) (v : UnitRef) (l : Letter) :
    (w.post v l).2.HoldsSup u k s := by
  unfold World.post
  cases hp : w.tryPost v l with
  | none => exact h.dropReplies l.replies
  | some w₂ => exact h.tryPost hp

theorem HoldsSup.postWeak (h : w.HoldsSup u k s) (v : UnitRef) (l : Letter) :
    (w.postWeak v l).2.HoldsSup u k s := by
  unfold World.postWeak
  split
  · exact h.post v l
  · exact h.dropReplies l.replies

theorem HoldsSup.postSupWeak (h : w.HoldsSup u k s) (v : UnitRef) (m : (k : EntityType) → SupMsg k) :
    (w.postSupWeak v m).2.HoldsSup u k s := by
  unfold World.postSupWeak
  split
  · exact h.postWeak v _
  · exact h

theorem HoldsSup.deliver (h : w.HoldsSup u k s) (r : Reply) (d : Delivery) :
    (w.deliver r d).2.HoldsSup u k s := by
  unfold World.deliver
  split
  · exact h
  · exact h.fillSlot _ _
  · exact h.postWeak _ _
  · exact h.postWeak _ _
  · exact h.postSupWeak _ _
  · exact h.postSupWeak _ _
  · exact h

theorem HoldsSup.consult (h : w.HoldsSup u k s) (i : Nat) (m : RegistryMsg) :
    (w.consult i m).2.HoldsSup u k s := by
  unfold World.consult
  split
  · have hs : ∀ scripts, HoldsSup { w with scripts } u k s := fun _ => h.of_cell?_eq rfl
    dsimp only
    split
    · exact (hs _).deliver _ _
    · exact (hs _).deliver _ _
    · exact (hs _).dropReplies _
    · exact (hs _).dropReplies _
    · exact (hs _).schedule _ _
    · exact (hs _).schedule _ _
  · exact h.dropReplies _

theorem HoldsSup.tellRegistry (h : w.HoldsSup u k s) (d : Directory) (m : RegistryMsg) :
    (w.tellRegistry d m).2.HoldsSup u k s := by
  unfold World.tellRegistry
  split
  · exact h.post _ _
  · exact h.consult _ _

theorem HoldsSup.spawnEntity (h : w.HoldsSup u k s) (k₂ : EntityType) (id : Uuid)
    (config : UnitConfig) : (w.spawnEntity k₂ id config).2.HoldsSup u k s :=
  h.alloc.addCell _

theorem HoldsSup.spawnList (h : w.HoldsSup u k s) (k₂ : EntityType) (config : UnitConfig) :
    (w.spawnList k₂ config).2.HoldsSup u k s :=
  h.alloc.addCell _

theorem HoldsSup.spawnAccumulator (h : w.HoldsSup u k s) (k₂ : EntityType) (parent : Parent)
    (timeout : Duration) (capacity : Option Nat) :
    (w.spawnAccumulator k₂ parent timeout capacity).2.HoldsSup u k s :=
  h.alloc.addCell _

theorem HoldsSup.foldl {α : Type} (h : w.HoldsSup u k s) (l : List α) (f : World → α → World)
    (hf : ∀ w a, w.HoldsSup u k s → (f w a).HoldsSup u k s) : (l.foldl f w).HoldsSup u k s := by
  induction l generalizing w with
  | nil => exact h
  | cons a l ih => exact ih (hf w a h)

theorem HoldsSup.of_resembles {t : SupUnit k} (h : w.HoldsSup u k t) (hr : s.Resembles t) :
    w.HoldsSup u k s := by
  obtain ⟨v, hv, htv⟩ := h
  exact ⟨v, hv, hr.trans htv⟩

theorem HoldsSup.refuseMsg (h : w.HoldsSup u k s) (m : SupMsg k) (reason : String) :
    (Supervision.refuseMsg k m reason w).HoldsSup u k s := by
  unfold Supervision.refuseMsg
  split
  · exact h.deliver _ _
  · exact h.deliver _ _
  · exact h.dropReplies _

end World

namespace Supervision

open World

variable {w : World} {u : UnitRef} {k : EntityType} {s : SupUnit k}

theorem sup?_put (h : u < w.cells.size) (s : SupUnit k) : (put u k w s).sup? u k = some s :=
  sup?_eq_some.mpr (cell?_setCell_self h _)

theorem holdsSup_put (h : w.HoldsSup u k s) (t : SupUnit k) : (put u k w t).HoldsSup u k t :=
  .of_sup? (sup?_put h.lt_size t)

theorem sup?_modify (h : w.sup? u k = some s) (f : SupUnit k → SupUnit k) :
    (modify u k w f).sup? u k = some (f s) := by
  simp only [modify, h]
  exact sup?_put (lt_size_of_cell? (sup?_eq_some.mp h)) _

theorem holdsSup_modify (h : w.HoldsSup u k s) (f : SupUnit k → SupUnit k)
    (hf : ∀ i c, (f s).Resembles (f { s with inbox := i, sched := c })) :
    (modify u k w f).HoldsSup u k (f s) := by
  obtain ⟨t, ht, hst⟩ := h
  refine ⟨f t, sup?_modify ht f, ?_⟩
  rw [hst.eq_with]
  exact hf _ _

@[simp] theorem timers_modify (f : SupUnit k → SupUnit k) : (modify u k w f).timers = w.timers := by
  unfold modify
  split <;> rfl

theorem park_sup (h : w.sup? u k = some s) (m : SupMsg k) :
    ∃ st, (park u k m w).HoldsSup u k { s with stash := st } := by
  simp only [park, h]
  split
  · exact ⟨_, holdsSup_put (.of_sup? h) _⟩
  · exact ⟨s.stash, (HoldsSup.of_sup? h).refuseMsg _ _⟩

theorem sup?_cancelRegistrationTimers (h : w.sup? u k = some s) :
    (cancelRegistrationTimers u k w).sup? u k =
      some { s with registrationTimer := none, retryTimer := none } := by
  unfold cancelRegistrationTimers
  simp only [h]
  refine sup?_modify (sup?_eq_some.mpr (Eq.trans ?_ (sup?_eq_some.mp h))) _
  -- aborting timers leaves every unit where it was
  simp only [List.foldl_cons, List.foldl_nil]
  split <;> split <;> simp only [cell?_abortTimer]

theorem cancelRegistrationTimers_sup (h : w.HoldsSup u k s) :
    (cancelRegistrationTimers u k w).HoldsSup u k
      { s with registrationTimer := none, retryTimer := none } := by
  obtain ⟨t, ht, hst⟩ := h
  refine ⟨_, sup?_cancelRegistrationTimers ht, ?_⟩
  rw [hst.eq_with]
  rfl

theorem cancelTimers_sup (h : w.HoldsSup u k s) :
    (cancelTimers u k w).HoldsSup u k
      { s with registrationTimer := none, retryTimer := none, pollTimer := none } := by
  obtain ⟨t, ht, hst⟩ := cancelRegistrationTimers_sup h
  unfold cancelTimers
  simp only [ht]
  split
  · refine ⟨_, sup?_modify (sup?_eq_some.mpr ((cell?_abortTimer _).trans (sup?_eq_some.mp ht))) _, ?_⟩
    rw [hst.eq_with]
    rfl
  · rename_i hpoll
    refine ⟨t, ht, ?_⟩
    rw [hst.eq_with] at hpoll ⊢
    simp only at hpoll
    rw [← hpoll]
    rfl

/-- Stopping cancels the supervisor's timers and empties its stash; the rest of it stays. -/
theorem shutdown_sup (h : w.HoldsSup u k s) :
    (shutdown u k w).HoldsSup u k
      { s with registrationTimer := none, retryTimer := none, pollTimer := none,
               stash := { s.stash with items := [] } } := by
  obtain ⟨t, ht, hst⟩ := cancelTimers_sup h
  have hS : SupUnit.Resembles
      { s with registrationTimer := none, retryTimer := none, pollTimer := none,
               stash := { s.stash with items := [] } }
      { t with stash := { t.stash with items := [] } } := by
    rw [hst.eq_with]
    rfl
  refine HoldsSup.of_resembles ?_ hS
  unfold shutdown
  simp only [ht, Stash.takeAll]
  -- refusing the stash and telling the units to stop only write to other units and slots
  have hstopped := ((holdsSup_put (.of_sup? ht) { t with stash := { t.stash with items := [] } }).foldl
    t.stash.items (fun w m => refuseMsg k m "supervisor stopped" w)
    (fun w m hw => hw.refuseMsg m "supervisor stopped")).foldl
    t.children (fun w c => (w.post c.2.unit (.entity k .stop)).2)
    (fun w c hw => hw.post c.2.unit (.entity k .stop))
  split <;> split
  · exact (hstopped.post _ _).post _ _
  · exact hstopped.post _ _
  · exact hstopped.post _ _
  · exact hstopped

/-! Stopping answers what was set aside. -/

section Slots

variable {n : Nat}

@[simp] theorem slots_put (t : SupUnit k) : (put u k w t).slots = w.slots := rfl

@[simp] theorem slots_modify (f : SupUnit k → SupUnit k) : (modify u k w f).slots = w.slots := by
  unfold modify
  split <;> rfl

@[simp] theorem slots_cancelTimers : (cancelTimers u k w).slots = w.slots := by
  -- cancelling timers touches the timers and the units only
  have hreg : (cancelRegistrationTimers u k w).slots = w.slots := by
    unfold cancelRegistrationTimers
    split
    · rw [slots_modify, List.foldl_cons, List.foldl_cons, List.foldl_nil]
      split <;> split <;> simp only [slots_abortTimer]
    · rfl
  simp only [cancelTimers]
  split
  · split
    · rw [slots_modify, slots_abortTimer, hreg]
    · exact hreg
  · exact hreg

theorem refuseMsg_slot (m : SupMsg k) (reason : String)
    (h : Reply.slot n ∉ m.replies ∨ w.slots[n]? ≠ some .waiting) :
    (refuseMsg k m reason w).slots[n]? = w.slots[n]? := by
  -- a refused command is answered through its one reply
  have hone : ∀ r : Reply, Reply.slot n ∉ [r] ∨ w.slots[n]? ≠ some .waiting →
      r ≠ .slot n ∨ w.slots[n]? ≠ some .waiting :=
    fun r h' => h'.imp (fun hn hr => hn (by rw [hr]; exact List.mem_singleton_self _)) id
  unfold refuseMsg
  split
  · exact deliver_slot _ _ (hone _ h)
  · exact deliver_slot _ _ (hone _ h)
  · exact dropReplies_slot _ h

theorem refuseMsg_execute_slot (c : Command k.Rec) (reason : String)
    (hw : w.slots[n]? = some .waiting) :
    (refuseMsg k (.execute c (.slot n)) reason w).slots[n]? =
      some (.filled (.event (failed k c.commandType c.target c.issuer reason c.payload))) := by
  have hn : n < w.slots.size := (Array.getElem?_eq_some_iff.mp hw).1
  simp only [refuseMsg, deliver, fillSlot, hw]
  exact Array.getElem?_setIfInBounds_self_of_lt hn

theorem refuseMsg_submit_slot (e : Envelope) (reason : String) (hw : w.slots[n]? = some .waiting) :
    (refuseMsg k (.submit e (.slot n)) reason w).slots[n]? =
      some (.filled (.event (failed k e.commandType e.id e.issuer reason (e.payload.getD .null)))) := by
  have hn : n < w.slots.size := (Array.getElem?_eq_some_iff.mp hw).1
  simp only [refuseMsg, deliver, fillSlot, hw]
  exact Array.getElem?_setIfInBounds_self_of_lt hn

/-- Stopping refuses a message set aside as it refuses it anywhere its slot waits: the
messages set aside before it await other slots, and those after it and the stop letters leave
an answered slot alone. -/
theorem shutdown_slot (hs : w.sup? u k = some s)
    (hnodup : (s.stash.items.flatMap SupMsg.replies).Nodup) {m : SupMsg k}
    (hmem : m ∈ s.stash.items) (hn : Reply.slot n ∈ m.replies) (hw : w.slots[n]? = some .waiting)
    {x : SlotState} (hx : x ≠ .waiting)
    (hm : ∀ w' : World, w'.slots[n]? = some .waiting →
      (refuseMsg k m "supervisor stopped" w').slots[n]? = some x) :
    (shutdown u k w).slots[n]? = some x := by
  obtain ⟨t, ht, hst⟩ := cancelTimers_sup (.of_sup? hs)
  have hstash : t.stash = s.stash := hst.stash
  obtain ⟨pre, post, hsplit⟩ := List.append_of_mem hmem
  -- the messages set aside before `m` await other slots
  have hpre : ∀ m' ∈ pre, Reply.slot n ∉ m'.replies := by
    rw [hsplit, List.flatMap_append, List.flatMap_cons, List.nodup_append] at hnodup
    exact fun m' hm' hn' => hnodup.2.2 _ (List.mem_flatMap.mpr ⟨m', hm', hn'⟩) _
      (List.mem_append_left _ hn) rfl
  have hrefused : (t.stash.items.foldl (fun w m => refuseMsg k m "supervisor stopped" w)
      (put u k (cancelTimers u k w) { t with stash := { t.stash with items := [] } })).slots[n]? =
      some x := by
    rw [hstash, hsplit, List.foldl_append, List.foldl_cons]
    refine foldl_slot post _ (fun w' m' _ hx' => ?_) (hm _ ?_)
    · rw [refuseMsg_slot m' _ (.inr (by rw [hx']; exact fun h => hx (Option.some.inj h))), hx']
    · refine foldl_slot pre _ (fun w' m' hm' hw' => ?_) (by rw [slots_put, slots_cancelTimers]; exact hw)
      rw [refuseMsg_slot m' _ (.inl (hpre m' hm')), hw']
  -- the stop letters carry no reply
  have hpost : ∀ (W : World) (v : UnitRef) (l : Letter), l.replies = [] →
      W.slots[n]? = some x → (W.post v l).2.slots[n]? = some x :=
    fun W v l hl hW => (post_slot v l (.inl (by rw [hl]; exact List.not_mem_nil))).trans hW
  have hstopped := foldl_slot t.children (fun w c => (w.post c.2.unit (.entity k .stop)).2)
    (fun W c _ hW => hpost W _ _ rfl hW) hrefused
  unfold shutdown
  simp only [ht, Stash.takeAll]
  split <;> split
  · exact hpost _ _ _ rfl (hpost _ _ _ rfl hstopped)
  · exact hpost _ _ _ rfl hstopped
  · exact hpost _ _ _ rfl hstopped
  · exact hstopped

theorem shutdown_refuses_execute (hs : w.sup? u k = some s)
    (hnodup : (s.stash.items.flatMap SupMsg.replies).Nodup) {c : Command k.Rec}
    (hmem : .execute c (.slot n) ∈ s.stash.items) (hw : w.slots[n]? = some .waiting) :
    (shutdown u k w).slots[n]? = some (.filled (.event (failed k c.commandType c.target c.issuer
      "supervisor stopped" c.payload))) :=
  shutdown_slot hs hnodup hmem List.mem_cons_self hw nofun
    (fun _ hw' => refuseMsg_execute_slot c _ hw')

theorem shutdown_refuses_submit (hs : w.sup? u k = some s)
    (hnodup : (s.stash.items.flatMap SupMsg.replies).Nodup) {e : Envelope}
    (hmem : .submit e (.slot n) ∈ s.stash.items) (hw : w.slots[n]? = some .waiting) :
    (shutdown u k w).slots[n]? = some (.filled (.event (failed k e.commandType e.id e.issuer
      "supervisor stopped" (e.payload.getD .null)))) :=
  shutdown_slot hs hnodup hmem List.mem_cons_self hw nofun
    (fun _ hw' => refuseMsg_submit_slot e _ hw')

end Slots

end Supervision

end Chronicle
