import Chronicle.Proofs.World.RunTrace

/-! An entity unit keeps its queue, so it is a lawful unit. -/
namespace Chronicle

namespace World

variable {w : World} {u : UnitRef} {c : Cell}

theorem cell?_postWeak_of_accept (h : w.cell? u = some c) (v : UnitRef) {l : Letter}
    (hacc : c.accept l = none) : (w.postWeak v l).2.cell? u = some c := by
  unfold postWeak
  split
  · exact cell?_post h (fun _ => hacc)
  · exact (congrArg (·[u]?) (dropReplies_frame _).1).trans h

/-- An answer never changes a unit that takes neither accumulator nor supervisor letters, the
letters answers are. -/
theorem cell?_deliver_of_accept (h : w.cell? u = some c)
    (hacc : ∀ m, c.accept (.accumulator m) = none)
    (hsup : ∀ k m, c.accept (.supervisor k m) = none) (r : Reply) (d : Delivery) :
    (w.deliver r d).2.cell? u = some c := by
  unfold deliver
  split
  · exact h
  · unfold fillSlot
    split <;> exact h
  · exact cell?_postWeak_of_accept h _ (hacc _)
  · exact cell?_postWeak_of_accept h _ (hacc _)
  · unfold postSupWeak
    split
    · exact cell?_postWeak_of_accept h _ (hsup _ _)
    · exact h
  · unfold postSupWeak
    split
    · exact cell?_postWeak_of_accept h _ (hsup _ _)
    · exact h
  · exact h

theorem cell?_deliver_entity {k : EntityType} {i : Uuid} {kp : Keeper k.Rec (EntityMsg k)}
    (h : w.cell? u = some (.entity k i kp)) (r : Reply) (d : Delivery) :
    (w.deliver r d).2.cell? u = some (.entity k i kp) :=
  cell?_deliver_of_accept h (fun _ => rfl) (fun _ _ => rfl) r d

end World

namespace EntityUnit

variable {u : UnitRef} {k : EntityType} {id i : Uuid} {w : World}
  {kp : Keeper k.Rec (EntityMsg k)}

theorem get_behaviour (w : World) : (behaviour u k id).get w = (w.entity? u k).map (·.2) := rfl

theorem get_of_cell? (h : w.cell? u = some (.entity k i kp)) :
    (behaviour u k id).get w = some kp := by
  simp [get_behaviour, World.entity?_of_cell? h]

theorem cell?_put (hu : u < w.cells.size) (kp' : Keeper k.Rec (EntityMsg k)) :
    (put u k id w kp').cell? u = some (.entity k id kp') :=
  World.cell?_setCell_self hu _

/-- Running a command changes the unit's record, position and subscribers, and nothing of its
queue. -/
theorem execute_keeps_queue (hcell : w.cell? u = some (.entity k i kp)) (c : Command k.Rec)
    (reply : Reply) :
    ∃ i' kp', (execute u k id c reply w).cell? u = some (.entity k i' kp') ∧ kp.Agrees kp' := by
  have hu := World.lt_size_of_cell? hcell
  unfold execute
  rw [World.entity?_of_cell? hcell]
  dsimp only
  split
  · split
    · exact ⟨i, kp, World.cell?_deliver_entity hcell _ _, .refl kp⟩
    · split
      · exact ⟨i, kp, World.cell?_deliver_entity hcell _ _, .refl kp⟩
      · split
        · -- the append failed: the unit takes the core the failure left
          rename_i _ _ core store _
          refine ⟨id, _, World.cell?_deliver_entity
            (cell?_put (w := { w with store := store }) hu { kp with core }) _ _, ?_⟩
          exact ⟨rfl, rfl, rfl, rfl⟩
        · -- the unit is written back, the event published, and the unit written back again
          rename_i _ _ core store _
          have hw₁ := @cell?_put u k id { w with store := store } hu { kp with core }
          rw [World.entity?_of_cell? (World.publish_frame hw₁ _ _).1]
          dsimp only
          refine ⟨id, _, World.cell?_deliver_entity
            (cell?_put (World.lt_size_of_cell? (World.publish_frame hw₁ _ _).1) _) _ _, ?_⟩
          exact ⟨rfl, rfl, rfl, rfl⟩
  · exact ⟨i, kp, World.cell?_deliver_entity hcell _ _, .refl kp⟩

/-- Every message the unit handles leaves its queue as it was. -/
theorem handle_keeps_queue (hcell : w.cell? u = some (.entity k i kp)) (m : EntityMsg k) :
    ∃ i' kp', (handle u k id m w).2.cell? u = some (.entity k i' kp') ∧ kp.Agrees kp' := by
  have hu := World.lt_size_of_cell? hcell
  unfold handle
  rw [World.entity?_of_cell? hcell]
  dsimp only
  cases m with
  | execute c r => exact execute_keeps_queue hcell c r
  | getState r => exact ⟨i, kp, World.cell?_deliver_entity hcell _ _, .refl kp⟩
  | subscribe s r =>
    refine ⟨id, _, World.cell?_deliver_entity (cell?_put hu _) _ _, ?_⟩
    exact ⟨rfl, rfl, rfl, rfl⟩
  | unsubscribe a =>
    refine ⟨id, _, cell?_put hu _, ?_⟩
    exact ⟨rfl, rfl, rfl, rfl⟩
  | forceSnapshot =>
    refine ⟨id, _, cell?_put (w := { w with store := (kp.core.saveSnapshot w.store).2 }) hu _, ?_⟩
    exact ⟨rfl, rfl, rfl, rfl⟩
  | configure st r =>
    refine ⟨id, _, World.cell?_deliver_entity (cell?_put
      (w := { w with store := (kp.core.persistSetting w.store st).2.2 }) hu _) _ _, ?_⟩
    exact ⟨rfl, rfl, rfl, rfl⟩
  | status r => exact ⟨i, kp, World.cell?_deliver_entity hcell _ _, .refl kp⟩
  | stop => exact ⟨i, kp, hcell, .refl kp⟩

theorem cell?_of_get (h : (behaviour u k id).get w = some kp) :
    ∃ i, w.cell? u = some (.entity k i kp) := by
  simp only [get_behaviour, World.entity?] at h
  split at h
  · rename_i k₂ i kp₂ hc
    split at h
    · rename_i hk
      subst hk
      simp only [Option.map_some, Option.some.injEq] at h
      exact ⟨i, h ▸ hc⟩
    · simp at h
  · simp at h

/-- The entity unit of every record is a lawful unit: it lives at its place in the cells, and
handling a message, refusing one and passivating keep its queue. -/
theorem lawful (u : UnitRef) (k : EntityType) (id : Uuid) : (behaviour u k id).Lawful where
  get_of_cells h := by simp only [get_behaviour, World.entity?, World.cell?, h]
  get_put kp' h := by
    obtain ⟨i, hcell⟩ := cell?_of_get h
    exact get_of_cell? (cell?_put (World.lt_size_of_cell? hcell) kp')
  handle m h := by
    obtain ⟨i, hcell⟩ := cell?_of_get h
    obtain ⟨i', kp', hc', hag⟩ := handle_keeps_queue hcell m
    exact ⟨kp', get_of_cell? hc', hag⟩
  refuse m w := by
    simp only [get_behaviour, World.entity?, World.cell?]
    rw [show (behaviour u k id).refuse m w = refuse u k id m w from rfl, refuse_cells]
  passivate {w} {kp} h := by
    obtain ⟨i, hcell⟩ := cell?_of_get h
    show ∃ kp', (behaviour u k id).get (passivate u k id _) = some kp' ∧ _
    unfold passivate
    rw [World.entity?_of_cell? hcell]
    dsimp only
    split
    · refine ⟨_, get_of_cell? (cell?_put (w := { w with store := _ })
        (World.lt_size_of_cell? hcell) _), ?_⟩
      exact ⟨rfl, rfl, rfl, rfl⟩
    · exact ⟨_, h, .refl _⟩

end EntityUnit

end Chronicle
