import Chronicle.Proofs.World.EntityQueue
import Chronicle.Proofs.World.Pipeline

/-! A listing unit keeps its queue unless it is among its own subscribers. -/
namespace Chronicle

namespace World

variable {w : World} {v : UnitRef} {k : EntityType} {kp : Keeper Listing ListMsg}

theorem listing?_of_cell? (h : w.cell? v = some (.listing k kp)) :
    w.listing? v = some (k, kp) := by
  simp [listing?, h]

theorem cell?_deliver_listing (h : w.cell? v = some (.listing k kp)) (r : Reply) (d : Delivery) :
    (w.deliver r d).2.cell? v = some (.listing k kp) :=
  cell?_deliver_of_accept h (fun _ => rfl) (fun _ _ => rfl) r d

theorem cell?_offer_listing (h : w.cell? v = some (.listing k kp)) {s : Sink}
    (hs : ∀ a, s ≠ .listing v a) (e : Event) :
    (w.offer s e).2.cell? v = some (.listing k kp) := by
  unfold offer
  cases s with
  | listing u a => exact cell?_post h (fun huv => (hs a (by rw [huv])).elim)
  | accumulator u a => exact cell?_post h (fun _ => rfl)
  | probe name a =>
    simp only
    split
    · split
      · exact h
      · exact h
    · exact h

private theorem publish_fold_listing (e : Event) (ms : List Sink) (acc : List Sink × World)
    (hs : ∀ a, Sink.listing v a ∉ ms) (h : acc.2.cell? v = some (.listing k kp)) :
    (ms.foldl (fun (acc : List Sink × World) s =>
      let (ok, w2) := acc.2.offer s e
      (if ok then acc.1 ++ [s] else acc.1, w2)) acc).2.cell? v = some (.listing k kp) := by
  induction ms generalizing acc with
  | nil => exact h
  | cons s ms ih =>
    have hoffer : ∀ a, s ≠ .listing v a :=
      fun a hsa => hs a (by rw [← hsa]; exact List.mem_cons_self)
    exact ih (_, (acc.2.offer s e).2) (fun a ha => hs a (List.mem_cons_of_mem _ ha))
      (cell?_offer_listing h hoffer e)

theorem cell?_publish_listing (h : w.cell? v = some (.listing k kp)) {subs : SubscriberSet Sink}
    (hs : ∀ a, Sink.listing v a ∉ subs.members) (e : Event) :
    (w.publish subs e).2.cell? v = some (.listing k kp) :=
  publish_fold_listing e subs.members ([], w) hs h

end World

namespace ListUnit

variable {u : UnitRef} {k k' : EntityType} {w : World} {kp : Keeper Listing ListMsg}

theorem get_behaviour (w : World) : (behaviour u k).get w = (w.listing? u).map (·.2) := rfl

theorem get_of_cell? (h : w.cell? u = some (.listing k' kp)) :
    (behaviour u k).get w = some kp := by
  simp [get_behaviour, World.listing?_of_cell? h]

theorem cell?_of_get (h : (behaviour u k).get w = some kp) :
    ∃ k', w.cell? u = some (.listing k' kp) := by
  simp only [get_behaviour, World.listing?] at h
  split at h
  · rename_i k₂ kp₂ hc
    simp only [Option.map_some, Option.some.injEq] at h
    exact ⟨k₂, h ▸ hc⟩
  · simp at h

theorem cell?_put (hu : u < w.cells.size) (kp' : Keeper Listing ListMsg) :
    (put u k w kp').cell? u = some (.listing k kp') :=
  World.cell?_setCell_self hu _

/-- Indexing an event changes the listing, its position and its subscribers, and nothing of its
queue, when the unit is not among its own subscribers. -/
theorem index_keeps_queue (hcell : w.cell? u = some (.listing k' kp))
    (hself : ∀ a, Sink.listing u a ∉ kp.subscribers.members) (e : Event) :
    ∃ k'' kp', (index u k e w).cell? u = some (.listing k'' kp') ∧ kp.Agrees kp' := by
  have hu := World.lt_size_of_cell? hcell
  unfold index
  rw [World.listing?_of_cell? hcell]
  dsimp only
  split
  · exact ⟨k', kp, hcell, .refl kp⟩
  · split
    · exact ⟨k, _, cell?_put (w := { w with store := _ }) hu _, ⟨rfl, rfl, rfl, rfl⟩⟩
    · -- the unit is written back, the notice goes to the others, and the unit is written again
      rename_i _ _ core store _
      have hw₁ := @cell?_put u k { w with store := store } hu { kp with core }
      rw [World.listing?_of_cell? (World.cell?_publish_listing hw₁ hself _)]
      dsimp only
      exact ⟨k, _, cell?_put (World.lt_size_of_cell? (World.cell?_publish_listing hw₁ hself _)) _,
        ⟨rfl, rfl, rfl, rfl⟩⟩

/-- Every message the unit handles leaves its queue as it was, when the unit is not among its
own subscribers. -/
theorem handle_keeps_queue (hcell : w.cell? u = some (.listing k' kp))
    (hself : ∀ a, Sink.listing u a ∉ kp.subscribers.members) (m : ListMsg) :
    ∃ k'' kp', (handle u k m w).2.cell? u = some (.listing k'' kp') ∧ kp.Agrees kp' := by
  have hu := World.lt_size_of_cell? hcell
  unfold handle
  rw [World.listing?_of_cell? hcell]
  dsimp only
  cases m with
  | event e => exact index_keeps_queue hcell hself e
  | idList r => exact ⟨k', kp, World.cell?_deliver_listing hcell _ _, .refl kp⟩
  | subscribe s r =>
    exact ⟨k, _, World.cell?_deliver_listing (cell?_put hu _) _ _, ⟨rfl, rfl, rfl, rfl⟩⟩
  | unsubscribe a => exact ⟨k, _, cell?_put hu _, ⟨rfl, rfl, rfl, rfl⟩⟩
  | forceSnapshot =>
    exact ⟨k, _, cell?_put (w := { w with store := (kp.core.saveSnapshot w.store).2 }) hu _,
      ⟨rfl, rfl, rfl, rfl⟩⟩
  | configure st r =>
    exact ⟨k, _, World.cell?_deliver_listing (cell?_put
      (w := { w with store := (kp.core.persistSetting w.store st).2.2 }) hu _) _ _,
      ⟨rfl, rfl, rfl, rfl⟩⟩
  | status r => exact ⟨k', kp, World.cell?_deliver_listing hcell _ _, .refl kp⟩
  | stop => exact ⟨k', kp, hcell, .refl kp⟩

/-- The laws of a lawful unit that the listing unit keeps: it lives at its place in the cells,
refusing a message and its last act before an idle stop leave it, and handling a message keeps
its queue as long as it is not among its own subscribers. -/
theorem behaviour_laws (u : UnitRef) (k : EntityType) :
    (∀ {w w' : World}, w.cells = w'.cells → (behaviour u k).get w = (behaviour u k).get w') ∧
    (∀ {w : World} {kp : Keeper Listing ListMsg} (kp' : Keeper Listing ListMsg),
      (behaviour u k).get w = some kp → (behaviour u k).get ((behaviour u k).put w kp') = some kp') ∧
    (∀ (m : ListMsg) (w : World),
      (behaviour u k).get ((behaviour u k).refuse m w) = (behaviour u k).get w) ∧
    (∀ {w : World} {kp : Keeper Listing ListMsg}, (behaviour u k).get w = some kp →
      ∃ kp', (behaviour u k).get ((behaviour u k).passivate w) = some kp' ∧ kp.Agrees kp') ∧
    (∀ {w : World} {kp : Keeper Listing ListMsg} (m : ListMsg), (behaviour u k).get w = some kp →
      (∀ a, Sink.listing u a ∉ kp.subscribers.members) →
      ∃ kp', (behaviour u k).get ((behaviour u k).handle m w).2 = some kp' ∧ kp.Agrees kp') := by
  have hcells : ∀ {w w' : World}, w.cells = w'.cells →
      (behaviour u k).get w = (behaviour u k).get w' := by
    intro w w' h
    simp only [get_behaviour, World.listing?, World.cell?, h]
  refine ⟨hcells, fun kp' h => ?_, fun m w => hcells (World.dropReplies_frame _).1,
    fun h => ⟨_, h, .refl _⟩, fun m h hself => ?_⟩
  · obtain ⟨k', hcell⟩ := cell?_of_get h
    exact get_of_cell? (cell?_put (World.lt_size_of_cell? hcell) kp')
  · obtain ⟨k', hcell⟩ := cell?_of_get h
    obtain ⟨k'', kp', hc', hag⟩ := handle_keeps_queue (k := k) hcell hself m
    exact ⟨kp', get_of_cell? hc', hag⟩

/-- A listing unit subscribed to itself is not lawful: the notice it publishes for an event it
indexes goes to the back of its own inbox. -/
theorem list_unit_not_lawful : ¬ (behaviour 0 .client).Lawful := by
  intro hb
  -- a client listing at place 0 whose one subscriber is itself
  let kp : Keeper Listing ListMsg :=
    { address := Uuid.ofNat 2, core := Core.new "client-list" {}, stash := Stash.empty none,
      subscribers := ⟨[.listing 0 (Uuid.ofNat 2)]⟩ }
  let w : World := { ids := { millis := 0 }, cells := #[.listing .client kp] }
  let m : ListMsg := .event (EntityUnit.applied .client (Uuid.ofNat 1)
    (Record.inserted (Uuid.ofNat 1) .present (ClientState.named "Acme")) .insert
    ⟨"ann", "c1", none⟩)
  obtain ⟨kp', hg', hag⟩ := hb.handle m (show (behaviour 0 .client).get w = some kp from rfl)
  -- the client's insert is indexed, and its notice is the one letter of the inbox
  have hlen : ((behaviour 0 .client).get ((behaviour 0 .client).handle m w).2).map
      (·.inbox.length) = some 1 := by
    decide
  -- but the unit agrees with the one before, whose inbox was empty
  simp [hg', hag.inbox] at hlen

end ListUnit

end Chronicle
