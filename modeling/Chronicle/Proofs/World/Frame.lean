import Chronicle.World.Supervisor

/-! What the operations of the world leave alone. -/
namespace Chronicle

namespace World

variable {w : World} {u v : UnitRef} {c : Cell}

theorem lt_size_of_cell? (h : w.cell? u = some c) : u < w.cells.size :=
  (Array.getElem?_eq_some_iff.mp h).1

@[simp] theorem cell?_setCell_self (h : u < w.cells.size) (c' : Cell) :
    (w.setCell u c').cell? u = some c' := by
  simp [cell?, setCell, h]

@[simp] theorem cell?_setCell_ne (h : u ≠ v) (c' : Cell) : (w.setCell u c').cell? v = w.cell? v := by
  simp [cell?, setCell, h]

@[simp] theorem size_setCell (u : UnitRef) (c' : Cell) :
    (w.setCell u c').cells.size = w.cells.size := by
  simp [setCell]

theorem setCell_of_cell? (h : w.cell? u = some c) : w.setCell u c = w := by
  have hu := lt_size_of_cell? h
  have hc : w.cells[u] = c := by simpa [cell?, hu] using h
  simp only [setCell]
  rw [Array.setIfInBounds_def, dif_pos hu, ← hc, Array.set_getElem_self]

@[simp] theorem store_setCell (u : UnitRef) (c' : Cell) : (w.setCell u c').store = w.store := rfl

theorem cell?_wake_ne (h : u ≠ v) : (w.wake u).cell? v = w.cell? v := by
  unfold wake
  split
  · split
    · exact cell?_setCell_ne h _
    · rfl
  · rfl

@[simp] theorem store_wake (u : UnitRef) : (w.wake u).store = w.store := by
  unfold wake
  split
  · split <;> rfl
  · rfl

/-- Dropping replies changes the slots only. -/
theorem dropReplies_frame (rs : List Reply) :
    (w.dropReplies rs).cells = w.cells ∧ (w.dropReplies rs).store = w.store ∧
      (w.dropReplies rs).probes = w.probes := by
  induction rs generalizing w with
  | nil => exact ⟨rfl, rfl, rfl⟩
  | cons r rs ih =>
    have hsplit : w.dropReplies (r :: rs) = (w.dropReplies [r]).dropReplies rs := rfl
    have hone : (w.dropReplies [r]).cells = w.cells ∧ (w.dropReplies [r]).store = w.store ∧
        (w.dropReplies [r]).probes = w.probes := by
      cases r with
      | slot n =>
        simp only [dropReplies, List.foldl_cons, List.foldl_nil]
        unfold dropSlot
        split <;> exact ⟨rfl, rfl, rfl⟩
      | _ => exact ⟨rfl, rfl, rfl⟩
    obtain ⟨h1, h2, h3⟩ := @ih (w.dropReplies [r])
    rw [hsplit]
    exact ⟨h1.trans hone.1, h2.trans hone.2.1, h3.trans hone.2.2⟩

theorem tryPost_cell?_ne {l : Letter} {w' : World} (h : w.tryPost u l = some w') (hne : u ≠ v) :
    w'.cell? v = w.cell? v := by
  unfold tryPost at h
  split at h
  · split at h
    · obtain ⟨c2, -, rfl⟩ := Option.map_eq_some_iff.mp h
      rw [cell?_wake_ne hne, cell?_setCell_ne hne]
    · cases h
  · cases h

theorem store_tryPost {l : Letter} {w' : World} (h : w.tryPost u l = some w') :
    w'.store = w.store := by
  unfold tryPost at h
  split at h
  · split at h
    · obtain ⟨c2, -, rfl⟩ := Option.map_eq_some_iff.mp h
      simp
    · cases h
  · cases h

theorem tryPost_of_accept_none {l : Letter} (h : w.cell? u = some c) (hacc : c.accept l = none) :
    w.tryPost u l = none := by
  simp [tryPost, h, hacc]

theorem cell?_post {l : Letter} (h : w.cell? v = some c) (hacc : u = v → c.accept l = none) :
    (w.post u l).2.cell? v = some c := by
  unfold post
  cases htp : w.tryPost u l with
  | none =>
    rw [← h]
    exact congrArg (·[v]?) (dropReplies_frame l.replies).1
  | some w2 =>
    by_cases huv : u = v
    · subst huv
      rw [tryPost_of_accept_none h (hacc rfl)] at htp
      cases htp
    · rw [tryPost_cell?_ne htp huv, h]

@[simp] theorem store_post (u : UnitRef) (l : Letter) : (w.post u l).2.store = w.store := by
  unfold post
  cases htp : w.tryPost u l with
  | none => exact (dropReplies_frame l.replies).2.1
  | some w2 => exact store_tryPost htp

@[simp] theorem store_offer (s : Sink) (e : Event) : (w.offer s e).2.store = w.store := by
  unfold offer
  cases s with
  | listing u a => exact store_post u _
  | accumulator u a => exact store_post u _
  | probe name a =>
    simp only
    split
    · split <;> rfl
    · rfl

theorem cell?_offer_entity {k : EntityType} {i : Uuid} {kp : Keeper k.Rec (EntityMsg k)}
    (h : w.cell? v = some (.entity k i kp)) (s : Sink) (e : Event) :
    (w.offer s e).2.cell? v = some (.entity k i kp) := by
  unfold offer
  cases s with
  | listing u a => exact cell?_post h (fun _ => rfl)
  | accumulator u a => exact cell?_post h (fun _ => rfl)
  | probe name a =>
    simp only
    split
    · split
      · exact h
      · exact h
    · exact h

private theorem publish_fold_frame {k : EntityType} {i : Uuid} {kp : Keeper k.Rec (EntityMsg k)}
    (e : Event) (ms : List Sink) (acc : List Sink × World)
    (h : acc.2.cell? v = some (.entity k i kp)) :
    let r := ms.foldl (fun (acc : List Sink × World) s =>
      let (ok, w2) := acc.2.offer s e
      (if ok then acc.1 ++ [s] else acc.1, w2)) acc
    r.2.cell? v = some (.entity k i kp) ∧ r.2.store = acc.2.store := by
  induction ms generalizing acc with
  | nil => exact ⟨h, rfl⟩
  | cons s ms ih =>
    obtain ⟨h1, h2⟩ := ih (_, (acc.2.offer s e).2) (cell?_offer_entity h s e)
    exact ⟨h1, h2.trans (store_offer s e)⟩

theorem publish_frame {k : EntityType} {i : Uuid} {kp : Keeper k.Rec (EntityMsg k)}
    (h : w.cell? v = some (.entity k i kp)) (subs : SubscriberSet Sink) (e : Event) :
    (w.publish subs e).2.cell? v = some (.entity k i kp) ∧ (w.publish subs e).2.store = w.store :=
  publish_fold_frame e subs.members ([], w) h

theorem deliver_event_frame (r : Reply) (e : Event) :
    (w.deliver r (.event e)).2.cells = w.cells ∧ (w.deliver r (.event e)).2.store = w.store := by
  cases r with
  | slot n =>
    simp only [deliver, fillSlot]
    split <;> exact ⟨rfl, rfl⟩
  | _ => exact ⟨rfl, rfl⟩

@[simp] theorem cell?_deliver_event (r : Reply) (e : Event) :
    (w.deliver r (.event e)).2.cell? v = w.cell? v :=
  congrArg (·[v]?) (deliver_event_frame r e).1

@[simp] theorem store_deliver_event (r : Reply) (e : Event) :
    (w.deliver r (.event e)).2.store = w.store :=
  (deliver_event_frame r e).2

theorem entity?_of_cell? {k : EntityType} {i : Uuid} {kp : Keeper k.Rec (EntityMsg k)}
    (h : w.cell? u = some (.entity k i kp)) : w.entity? u k = some (i, kp) := by
  simp [entity?, h]

/-! A slot is answered once. -/

@[simp] theorem slots_setCell (u : UnitRef) (c' : Cell) : (w.setCell u c').slots = w.slots := rfl

@[simp] theorem slots_wake (u : UnitRef) : (w.wake u).slots = w.slots := by
  unfold wake
  split
  · split <;> rfl
  · rfl

theorem slots_tryPost {l : Letter} {w' : World} (h : w.tryPost u l = some w') :
    w'.slots = w.slots := by
  unfold tryPost at h
  split at h
  · split at h
    · obtain ⟨c2, -, rfl⟩ := Option.map_eq_some_iff.mp h
      simp
    · cases h
  · cases h

@[simp] theorem slots_abortTimer (t : Nat) : (w.abortTimer t).slots = w.slots := by
  unfold abortTimer
  split
  · split
    · rfl
    · split <;> split <;> rfl
  · rfl

variable {m n : Nat}

theorem fillSlot_slot (d : Delivery) (h : m ≠ n ∨ w.slots[n]? ≠ some .waiting) :
    (w.fillSlot m d).2.slots[n]? = w.slots[n]? := by
  unfold fillSlot
  split
  · rename_i hm
    have hne : m ≠ n := by
      rcases h with hne | hn
      · exact hne
      · rintro rfl
        exact hn hm
    exact Array.getElem?_setIfInBounds_ne hne
  · rfl

theorem dropSlot_slot (h : m ≠ n ∨ w.slots[n]? ≠ some .waiting) :
    (w.dropSlot m).slots[n]? = w.slots[n]? := by
  unfold dropSlot
  split
  · rename_i hm
    have hne : m ≠ n := by
      rcases h with hne | hn
      · exact hne
      · rintro rfl
        exact hn hm
    exact Array.getElem?_setIfInBounds_ne hne
  · rfl

theorem dropReplies_slot (rs : List Reply) (h : Reply.slot n ∉ rs ∨ w.slots[n]? ≠ some .waiting) :
    (w.dropReplies rs).slots[n]? = w.slots[n]? := by
  induction rs generalizing w with
  | nil => rfl
  | cons r rs ih =>
    have hsplit : w.dropReplies (r :: rs) = (w.dropReplies [r]).dropReplies rs := rfl
    have hone : (w.dropReplies [r]).slots[n]? = w.slots[n]? := by
      cases r with
      | slot m =>
        simp only [dropReplies, List.foldl_cons, List.foldl_nil]
        refine dropSlot_slot (h.imp (fun hn hmn => hn ?_) id)
        rw [hmn]
        exact List.mem_cons_self
      | _ => rfl
    have htail : Reply.slot n ∉ rs ∨ (w.dropReplies [r]).slots[n]? ≠ some .waiting := by
      rw [hone]
      exact h.imp (fun hn hmem => hn (List.mem_cons_of_mem _ hmem)) id
    rw [hsplit, ih htail, hone]

theorem post_slot (u : UnitRef) (l : Letter) (h : Reply.slot n ∉ l.replies ∨ w.slots[n]? ≠ some .waiting) :
    (w.post u l).2.slots[n]? = w.slots[n]? := by
  unfold post
  cases htp : w.tryPost u l with
  | none => exact dropReplies_slot l.replies h
  | some w2 => exact congrArg (·[n]?) (slots_tryPost htp)

theorem postWeak_slot (u : UnitRef) (l : Letter)
    (h : Reply.slot n ∉ l.replies ∨ w.slots[n]? ≠ some .waiting) :
    (w.postWeak u l).2.slots[n]? = w.slots[n]? := by
  unfold postWeak
  split
  · exact post_slot u l h
  · exact dropReplies_slot l.replies h

theorem postSupWeak_slot (u : UnitRef) (m : (k : EntityType) → SupMsg k)
    (hm : ∀ k, (m k).replies = []) : (w.postSupWeak u m).2.slots[n]? = w.slots[n]? := by
  unfold postSupWeak
  split
  · rename_i k _
    exact postWeak_slot _ _ (.inl (by simp only [Letter.replies, hm k, List.not_mem_nil,
      not_false_eq_true]))
  · rfl

theorem deliver_slot (r : Reply) (d : Delivery) (h : r ≠ .slot n ∨ w.slots[n]? ≠ some .waiting) :
    (w.deliver r d).2.slots[n]? = w.slots[n]? := by
  unfold deliver
  split
  · rfl
  · exact fillSlot_slot _ (h.imp (fun hr hmn => hr (by rw [hmn])) id)
  · exact postWeak_slot _ _ (.inl List.not_mem_nil)
  · exact postWeak_slot _ _ (.inl List.not_mem_nil)
  · exact postSupWeak_slot _ _ (fun _ => rfl)
  · exact postSupWeak_slot _ _ (fun _ => rfl)
  · rfl

theorem foldl_slot {α : Type} {x : Option SlotState} (l : List α) (f : World → α → World)
    (hf : ∀ w a, a ∈ l → w.slots[n]? = x → (f w a).slots[n]? = x) (h : w.slots[n]? = x) :
    (l.foldl f w).slots[n]? = x := by
  induction l generalizing w with
  | nil => exact h
  | cons a l ih =>
    exact ih (fun w' b hb => hf w' b (List.mem_cons_of_mem _ hb))
      (hf w a List.mem_cons_self h)

end World

end Chronicle
