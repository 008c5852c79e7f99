import Chronicle.Proofs.World.SupervisorSteps
import Chronicle.Proofs.World.Pipeline
import Chronicle.Proofs.Core.FreshIds
import Chronicle.Proofs.World.SharedLog

/-! Routing by a ready supervisor. -/
namespace Chronicle

namespace Keyed

theorem Sorted.keys_nodup {α : Type} {xs : List (Uuid × α)} (h : Sorted xs) :
    (xs.map Prod.fst).Nodup := by
  refine List.pairwise_map.mpr (List.Pairwise.imp (fun {a b} hab heq => ?_) h)
  rw [heq] at hab
  exact Nat.lt_irrefl _ hab

theorem Sorted.count_key {α : Type} {xs : List (Uuid × α)} (h : Sorted xs) {k : Uuid}
    (hk : k ∈ xs.map Prod.fst) : (xs.map Prod.fst).count k = 1 :=
  List.count_eq_one_of_mem h.keys_nodup hk

variable {α : Type} {xs : List (Uuid × α)} {k : Uuid}

theorem mem_keys_of_get? {v : α} (h : get? xs k = some v) : k ∈ xs.map Prod.fst := by
  obtain ⟨e, he, -⟩ := Option.map_eq_some_iff.mp h
  exact List.mem_map.mpr ⟨e, List.mem_of_find?_eq_some he, by simpa using List.find?_some he⟩

theorem mem_keys_insert (v : α) (xs : List (Uuid × α)) : k ∈ (insert k v xs).map Prod.fst :=
  mem_keys_of_get? (get?_insert_self k v xs)

theorem length_insert (h : get? xs k = none) (v : α) : (insert k v xs).length = xs.length + 1 := by
  induction xs with
  | nil => rfl
  | cons x xs ih =>
    obtain ⟨k₂, v₂⟩ := x
    have hne : k₂ ≠ k := by
      rintro rfl
      simp [get?] at h
    have h' : get? xs k = none := by simpa [get?, hne] using h
    unfold insert
    split_ifs with hlt heq
    · rfl
    · exact absurd heq.symm hne
    · simp [ih h']

end Keyed

namespace World

variable {w w' : World} {u v : UnitRef} {k : EntityType} {id : Uuid} {ms : List (EntityMsg k)}

def InboxAt (w : World) (v : UnitRef) (k : EntityType) (id : Uuid) (ms : List (EntityMsg k)) :
    Prop :=
  ∃ kp : Keeper k.Rec (EntityMsg k), w.cell? v = some (.entity k id kp) ∧ kp.isOpen = true ∧
    kp.inbox = ms

theorem InboxAt.of_cell?_eq (h : w.InboxAt v k id ms) (he : w'.cell? v = w.cell? v) :
    w'.InboxAt v k id ms := by
  obtain ⟨kp, hc, hopen, hin⟩ := h
  exact ⟨kp, he.trans hc, hopen, hin⟩

theorem InboxAt.isOpen (h : w.InboxAt v k id ms) : w.isOpen v = true := by
  obtain ⟨kp, hc, hopen, -⟩ := h
  simp [World.isOpen, hc, Cell.isOpen, hopen]

theorem InboxAt.ne_sup {k' : EntityType} {s : SupUnit k'} (h : w.InboxAt v k id ms)
    (hs : w.sup? u k' = some s) : u ≠ v := by
  rintro rfl
  obtain ⟨kp, hc, -, -⟩ := h
  rw [sup?_eq_some.mp hs] at hc
  cases hc

theorem InboxAt.tryPost (h : w.InboxAt v k id ms) (m : EntityMsg k) :
    ∃ w', w.tryPost v (.entity k m) = some w' ∧ w'.InboxAt v k id (ms ++ [m]) ∧
      ∀ x, x ≠ v → w'.cell? x = w.cell? x := by
  obtain ⟨kp, hc, hopen, hin⟩ := h
  have hv := lt_size_of_cell? hc
  refine ⟨(w.setCell v (.entity k id { kp with inbox := kp.inbox ++ [m] })).wake v, ?_, ?_,
    fun x hx => by rw [cell?_wake_ne (Ne.symm hx), cell?_setCell_ne (Ne.symm hx)]⟩
  · simp [World.tryPost, hc, Cell.isOpen, hopen, Cell.accept]
  · -- waking changes the task's standing only
    simp only [World.wake, cell?_setCell_self hv]
    split
    · refine ⟨{ kp with inbox := kp.inbox ++ [m], sched := .queued }, ?_, hopen, by rw [hin]⟩
      simp [cell?, setCell, Cell.withSched, hv]
    · exact ⟨_, cell?_setCell_self hv _, hopen, by rw [hin]⟩

theorem spawnEntity_inbox (k : EntityType) (id : Uuid) (cfg : UnitConfig) :
    (w.spawnEntity k id cfg).1.id = id ∧ (w.spawnEntity k id cfg).1.unit = w.cells.size ∧
      (w.spawnEntity k id cfg).2.InboxAt (w.spawnEntity k id cfg).1.unit k id [] := by
  refine ⟨rfl, rfl, ?_⟩
  simp [InboxAt, World.spawnEntity, World.alloc, World.addCell, cell?]

end World

namespace Supervision

open World

variable {w : World} {u : UnitRef} {k : EntityType} {s : SupUnit k}

theorem cell?_modify_ne {x : UnitRef} (hx : x ≠ u) (f : SupUnit k → SupUnit k) :
    (modify u k w f).cell? x = w.cell? x := by
  unfold modify
  split
  · exact cell?_setCell_ne (Ne.symm hx) _
  · rfl

def readModels (k : EntityType) (l a : Handle) : List (EntityMsg k) :=
  [.subscribe (.listing l.unit l.address) .ignore, .subscribe (.accumulator a.unit a.address) .ignore]

/-- A unit started for a record stands at a new place, and is told to report to both read
models before anything else. -/
theorem materialize_inbox (h : w.HoldsSup u k s) {s' : SupUnit k} {l a : Handle}
    (hl : s'.list = some l) (ha : s'.accumulator = some a) (id : Uuid) :
    (materialize u k s' id w).1.id = id ∧
      (materialize u k s' id w).2.InboxAt (materialize u k s' id w).1.unit k id (readModels k l a) := by
  have hu := h.lt_size
  obtain ⟨hid, hunit, hin⟩ := spawnEntity_inbox (w := w) k id s'.config.unit
  unfold materialize
  rcases hsp : w.spawnEntity k id s'.config.unit with ⟨child, w₁⟩
  rw [hsp] at hid hunit hin
  simp only [hl, ha]
  refine ⟨hid, ?_⟩
  -- the two subscriptions, in order; then the supervisor writes its children at its own place
  obtain ⟨w₂, htp₂, hin₂, -⟩ := hin.tryPost (.subscribe (.listing l.unit l.address) .ignore)
  obtain ⟨w₃, htp₃, hin₃, -⟩ := hin₂.tryPost (.subscribe (.accumulator a.unit a.address) .ignore)
  have hne : child.unit ≠ u := by
    rw [hunit]
    exact Nat.ne_of_gt hu
  simp only [World.post, htp₂, htp₃]
  exact hin₃.of_cell?_eq (cell?_modify_ne hne _)

theorem forward_inbox {child : ChildRef} {id : Uuid} {ms : List (EntityMsg k)}
    (h : w.InboxAt child.unit k id ms) (c : Command k.Rec) (r : Reply) :
    (forward u k child c r w).InboxAt child.unit k id (ms ++ [.execute c r]) ∧
      ∀ x, x ≠ child.unit → (forward u k child c r w).cell? x = w.cell? x := by
  obtain ⟨w', htp, hin, hframe⟩ := h.tryPost (.execute c r)
  simp only [forward, htp]
  exact ⟨hin, hframe⟩

theorem materialize_forward (hs : w.sup? u k = some s) {l a : Handle} (hl : s.list = some l)
    (ha : s.accumulator = some a) (id : Uuid) (c : Command k.Rec) (r : Reply) :
    (materialize u k s id w).1.id = id ∧
      (forward u k (materialize u k s id w).1 c r (materialize u k s id w).2).HoldsSup u k
        { s with children := Keyed.insert id (materialize u k s id w).1 s.children } ∧
      (forward u k (materialize u k s id w).1 c r (materialize u k s id w).2).InboxAt
        (materialize u k s id w).1.unit k id (readModels k l a ++ [.execute c r]) := by
  obtain ⟨hid, hin⟩ := materialize_inbox (.of_sup? hs) hl ha id
  have hsup := materialize_sup (.of_sup? hs) s id
  obtain ⟨hin', hframe⟩ := forward_inbox (u := u) hin c r
  obtain ⟨t, ht, hst⟩ := hsup
  exact ⟨hid, HoldsSup.of_cell?_eq ⟨t, ht, hst⟩ (hframe u (hin.ne_sup ht)), hin'⟩

section Route

variable {c : Command k.Rec} {l a : Handle}

/-- An insert without a target is aimed at a fresh identifier; a unit is started for it, told to
report to both read models, and then handed the insert. -/
theorem route_insert_untargeted (hs : w.sup? u k = some s) (hl : s.list = some l)
    (ha : s.accumulator = some a) (ht : c.target = none) (hins : c.commandType = .insert)
    (r : Reply) :
    (materialize u k s w.alloc.1 w.alloc.2).1.id = w.alloc.1 ∧
      (route u k c r w).HoldsSup u k
        { s with children := Keyed.insert w.alloc.1 (materialize u k s w.alloc.1 w.alloc.2).1
                   s.children } ∧
      (route u k c r w).InboxAt (materialize u k s w.alloc.1 w.alloc.2).1.unit k w.alloc.1
        (readModels k l a ++ [.execute (c.withTarget w.alloc.1) r]) := by
  -- a fresh identifier leaves every unit where it was
  have hs₁ : w.alloc.2.sup? u k = some s := hs
  have hroute : route u k c r w = forward u k (materialize u k s w.alloc.1 w.alloc.2).1
      (c.withTarget w.alloc.1) r (materialize u k s w.alloc.1 w.alloc.2).2 := by
    simp only [route, ht, hins, if_true, hs₁]
  rw [hroute]
  exact materialize_forward hs₁ hl ha _ _ _

theorem route_live_child (hs : w.sup? u k = some s) {id : Uuid} (ht : c.target = some id)
    {child : ChildRef} (hget : Keyed.get? s.children id = some child) {ms : List (EntityMsg k)}
    (hin : w.InboxAt child.unit k child.id ms) (r : Reply) :
    (route u k c r w).HoldsSup u k s ∧
      (route u k c r w).InboxAt child.unit k child.id (ms ++ [.execute c r]) := by
  have hlive : liveChild u k id w = (some child, w) := by
    simp [liveChild, hs, hget, hin.isOpen]
  have hroute : route u k c r w = forward u k child c r w := by
    simp only [route, ht, hlive]
  rw [hroute]
  obtain ⟨hin', hframe⟩ := forward_inbox (u := u) hin c r
  exact ⟨(HoldsSup.of_sup? hs).of_cell?_eq (hframe u (hin.ne_sup hs)), hin'⟩

/-- A command for a record whose unit stopped goes to a new unit, started and told to report to
both read models first; the record keeps one unit, the new one. -/
theorem route_respawn (hs : w.sup? u k = some s) (hl : s.list = some l)
    (ha : s.accumulator = some a) {id : Uuid} (ht : c.target = some id) {child : ChildRef}
    (hget : Keyed.get? s.children id = some child) (hclosed : w.isOpen child.unit = false)
    (r : Reply) :
    (materialize u k s id w).1.id = id ∧
      (route u k c r w).HoldsSup u k
        { s with children := Keyed.insert id (materialize u k s id w).1 s.children } ∧
      (route u k c r w).InboxAt (materialize u k s id w).1.unit k id
        (readModels k l a ++ [.execute c r]) := by
  have hlive : liveChild u k id w =
      (some (materialize u k s id w).1, (materialize u k s id w).2) := by
    simp [liveChild, hs, hget, hclosed]
  have hroute : route u k c r w =
      forward u k (materialize u k s id w).1 c r (materialize u k s id w).2 := by
    simp only [route, ht, hlive]
  rw [hroute]
  exact materialize_forward hs hl ha _ _ _

theorem route_unknown_eq (hs : w.sup? u k = some s) {id : Uuid} (ht : c.target = some id)
    (hget : Keyed.get? s.children id = none)
    (hkind : c.commandType = .insert ∨ c.commandType = .upsert) (r : Reply) :
    route u k c r w = forward u k (materialize u k s id w).1 c r (materialize u k s id w).2 := by
  have hlive : liveChild u k id w = (none, w) := by
    simp [liveChild, hs, hget]
  have hkind' : (decide (c.commandType = .insert) || decide (c.commandType = .upsert)) = true := by
    rcases hkind with h | h <;> simp [h]
  simp only [route, ht, hlive]
  rw [if_pos hkind']
  simp only [hs]

theorem route_unknown_creates (hs : w.sup? u k = some s) (hl : s.list = some l)
    (ha : s.accumulator = some a) {id : Uuid} (ht : c.target = some id)
    (hget : Keyed.get? s.children id = none)
    (hkind : c.commandType = .insert ∨ c.commandType = .upsert) (r : Reply) :
    (materialize u k s id w).1.id = id ∧
      (route u k c r w).HoldsSup u k
        { s with children := Keyed.insert id (materialize u k s id w).1 s.children } ∧
      (Keyed.insert id (materialize u k s id w).1 s.children).length = s.children.length + 1 ∧
      (route u k c r w).InboxAt (materialize u k s id w).1.unit k id
        (readModels k l a ++ [.execute c r]) := by
  rw [route_unknown_eq hs ht hget hkind r]
  obtain ⟨hid, hsup, hin⟩ := materialize_forward hs hl ha id c r
  exact ⟨hid, hsup, Keyed.length_insert hget _, hin⟩

theorem route_untargeted_refused (ht : c.target = none) (hins : c.commandType ≠ .insert)
    (r : Reply) :
    route u k c r w = (w.deliver r (.event (failed k c.commandType none c.issuer
      (k.stem ++ " id cannot be empty") c.payload))).2 := by
  simp [route, ht, hins]

theorem route_unknown_refused (hs : w.sup? u k = some s) {id : Uuid} (ht : c.target = some id)
    (hget : Keyed.get? s.children id = none)
    (hkind : c.commandType ≠ .insert ∧ c.commandType ≠ .upsert) (r : Reply) :
    route u k c r w = (w.deliver r (.event (failed k c.commandType (some id) c.issuer
      (k.stem ++ " " ++ id.render ++ " not found") c.payload))).2 := by
  have hlive : liveChild u k id w = (none, w) := by
    simp [liveChild, hs, hget]
  simp [route, ht, hlive, hkind.1, hkind.2]

theorem route_insert_keeps_record (hs : w.sup? u k = some s) {id : Uuid} (ht : c.target = some id)
    (hins : c.commandType = .insert) (r : Reply) :
    ∃ t, (route u k c r w).sup? u k = some t ∧ ChildrenGrow s.children t.children ∧
      id ∈ childIds t.children := by
  cases hget : Keyed.get? s.children id with
  | some child =>
    obtain ⟨t, ht', -, hgrow, -⟩ := (route_grows (.of_sup? hs) c r).phase
    exact ⟨t, ht', hgrow, hgrow.1 (Keyed.mem_keys_of_get? hget)⟩
  | none =>
    -- the unit started for the record stays among the children through the forwarding
    rw [route_unknown_eq hs ht hget (.inl hins)]
    obtain ⟨t, ht', -, hgrow, -⟩ := ((GrowsChildren.of_holdsSup
      (materialize_sup (.of_sup? hs) s id)).trans fun _ h' => forward_grows h' _ c r).phase
    exact ⟨t, ht', (ChildrenGrow.insert _ _ _).trans hgrow, hgrow.1 (Keyed.mem_keys_insert _ _)⟩

end Route

theorem handle_execute_ready (hs : w.sup? u k = some s) (hready : s.phase = .ready)
    (c : Command k.Rec) (r : Reply) :
    handle u k (.execute c r) w = (.continue, route u k c r w) := by
  simp [handle, hs, hready, handleReady]

theorem handle_submit_ready (hs : w.sup? u k = some s) (hready : s.phase = .ready) {e : Envelope}
    {c : Command k.Rec} (hc : (Command.ofEnvelope e : Except EnvelopeError (Command k.Rec)) = .ok c)
    (r : Reply) :
    handle u k (.submit e r) w = (.continue, route u k c r w) := by
  simp [handle, hs, hready, handleReady, submit, hc]

theorem SupRun.one_unit_per_record {ok : SupUnit k → SupMsg k → Prop} {w₀ : World}
    {s₀ : SupUnit k} (hrun : SupRun u k ok w₀ w) (h₀ : w₀.sup? u k = some s₀)
    (hsorted : Keyed.Sorted s₀.children) :
    ∃ s, w.sup? u k = some s ∧ childIds s₀.children ⊆ childIds s.children ∧
      ∀ id ∈ childIds s.children, (childIds s.children).count id = 1 := by
  obtain ⟨s, hs, hsub, hsorted'⟩ := hrun.children_grow h₀
  exact ⟨s, hs, hsub, fun id hid => (hsorted' hsorted).count_key hid⟩

theorem route_insert_one_unit (hs : w.sup? u k = some s) (hsorted : Keyed.Sorted s.children)
    {c : Command k.Rec} {id : Uuid} (ht : c.target = some id) (hins : c.commandType = .insert)
    (r : Reply) {ok : SupUnit k → SupMsg k → Prop} {w' : World}
    (hrun : SupRun u k ok (route u k c r w) w') :
    ∃ t, w'.sup? u k = some t ∧ (childIds t.children).count id = 1 := by
  obtain ⟨t₁, ht₁, hgrow₁, hmem⟩ := route_insert_keeps_record hs ht hins r
  obtain ⟨t, ht, hgrow⟩ := hrun.children_grow ht₁
  exact ⟨t, ht, ((hgrow₁.trans hgrow).2 hsorted).count_key (hgrow.1 hmem)⟩

theorem alloc_not_child (hknown : ∀ id ∈ childIds s.children, w.ids.Known id)
    (hfit : w.ids.issued + 1 + w.ids.taken.length < Nat.pow 2 62) :
    w.alloc.1 ∉ childIds s.children ∧
      ∀ id ∈ w.alloc.1 :: childIds s.children, w.alloc.2.ids.Known id := by
  obtain ⟨hnew, hold⟩ := IdSource.known_fresh w.ids
  refine ⟨fun hmem => IdSource.fresh_not_known hfit (hknown _ hmem), fun id hid => ?_⟩
  rcases List.mem_cons.mp hid with rfl | hmem
  · exact hnew
  · exact hold id (hknown id hmem)

/-- Routing by the ready supervisors of kind `k`: every command reaches the one unit of its
record, or is refused with one failure and nothing else changed, and a record takes one insert. -/
structure ReadyRouting (k : EntityType) : Prop where
  execute : ∀ {w : World} {u : UnitRef} {s : SupUnit k} (c : Command k.Rec) (r : Reply),
    w.sup? u k = some s → s.phase = .ready →
    handle u k (.execute c r) w = (.continue, route u k c r w)
  submit : ∀ {w : World} {u : UnitRef} {s : SupUnit k} {e : Envelope} {c : Command k.Rec}
    (r : Reply), w.sup? u k = some s → s.phase = .ready →
    (Command.ofEnvelope e : Except EnvelopeError (Command k.Rec)) = .ok c →
    handle u k (.submit e r) w = (.continue, route u k c r w)
  read_models : ∀ {ok : SupUnit k → SupMsg k → Prop} {u : UnitRef} {w₀ w : World}
    {s₀ : SupUnit k}, SupRun u k ok w₀ w → w₀.sup? u k = some s₀ → s₀.phase = .registering →
    ∃ s, w.sup? u k = some s ∧ (s.phase ≠ .registering → s.list.isSome ∧ s.accumulator.isSome)
  insert_untargeted : ∀ {w : World} {u : UnitRef} {s : SupUnit k} {c : Command k.Rec}
    {l a : Handle} (r : Reply), w.sup? u k = some s → s.list = some l →
    s.accumulator = some a → c.target = none → c.commandType = .insert →
    (materialize u k s w.alloc.1 w.alloc.2).1.id = w.alloc.1 ∧
      (route u k c r w).HoldsSup u k
        { s with children := Keyed.insert w.alloc.1 (materialize u k s w.alloc.1 w.alloc.2).1
                   s.children } ∧
      (route u k c r w).InboxAt (materialize u k s w.alloc.1 w.alloc.2).1.unit k w.alloc.1
        (readModels k l a ++ [.execute (c.withTarget w.alloc.1) r])
  insert_fresh : ∀ {w : World} {u : UnitRef} {s : SupUnit k}, w.sup? u k = some s →
    (∀ id ∈ childIds s.children, w.ids.Known id) →
    w.ids.issued + 1 + w.ids.taken.length < Nat.pow 2 62 →
    w.alloc.1 ∉ childIds s.children ∧
      ∀ id ∈ w.alloc.1 :: childIds s.children, w.alloc.2.ids.Known id
  live_child : ∀ {w : World} {u : UnitRef} {s : SupUnit k} {c : Command k.Rec} {id : Uuid}
    {child : ChildRef} {ms : List (EntityMsg k)} (r : Reply), w.sup? u k = some s →
    c.target = some id → Keyed.get? s.children id = some child →
    w.InboxAt child.unit k child.id ms →
    (route u k c r w).HoldsSup u k s ∧
      (route u k c r w).InboxAt child.unit k child.id (ms ++ [.execute c r])
  respawn : ∀ {w : World} {u : UnitRef} {s : SupUnit k} {c : Command k.Rec} {l a : Handle}
    {id : Uuid} {child : ChildRef} (r : Reply), w.sup? u k = some s → s.list = some l →
    s.accumulator = some a → c.target = some id → Keyed.get? s.children id = some child →
    w.isOpen child.unit = false →
    (materialize u k s id w).1.id = id ∧
      (route u k c r w).HoldsSup u k
        { s with children := Keyed.insert id (materialize u k s id w).1 s.children } ∧
      (route u k c r w).InboxAt (materialize u k s id w).1.unit k id
        (readModels k l a ++ [.execute c r])
  unknown_creates : ∀ {w : World} {u : UnitRef} {s : SupUnit k} {c : Command k.Rec}
    {l a : Handle} {id : Uuid} (r : Reply), w.sup? u k = some s → s.list = some l →
    s.accumulator = some a → c.target = some id → Keyed.get? s.children id = none →
    (c.commandType = .insert ∨ c.commandType = .upsert) →
    (materialize u k s id w).1.id = id ∧
      (route u k c r w).HoldsSup u k
        { s with children := Keyed.insert id (materialize u k s id w).1 s.children } ∧
      (Keyed.insert id (materialize u k s id w).1 s.children).length = s.children.length + 1 ∧
      (route u k c r w).InboxAt (materialize u k s id w).1.unit k id
        (readModels k l a ++ [.execute c r])
  untargeted_refused : ∀ {w : World} {u : UnitRef} {s : SupUnit k} {c : Command k.Rec}
    (r : Reply), w.sup? u k = some s → c.target = none → c.commandType ≠ .insert →
    route u k c r w = (w.deliver r (.event (failed k c.commandType none c.issuer
      (k.stem ++ " id cannot be empty") c.payload))).2 ∧ (route u k c r w).HoldsSup u k s
  unknown_refused : ∀ {w : World} {u : UnitRef} {s : SupUnit k} {c : Command k.Rec} {id : Uuid}
    (r : Reply), w.sup? u k = some s → c.target = some id → Keyed.get? s.children id = none →
    c.commandType ≠ .insert ∧ c.commandType ≠ .upsert →
    route u k c r w = (w.deliver r (.event (failed k c.commandType (some id) c.issuer
      (k.stem ++ " " ++ id.render ++ " not found") c.payload))).2 ∧
      (route u k c r w).HoldsSup u k s
  children : ∀ {ok : SupUnit k → SupMsg k → Prop} {u : UnitRef} {w₀ w : World}
    {s₀ : SupUnit k}, SupRun u k ok w₀ w → w₀.sup? u k = some s₀ → Keyed.Sorted s₀.children →
    ∃ s, w.sup? u k = some s ∧ childIds s₀.children ⊆ childIds s.children ∧
      ∀ id ∈ childIds s.children, (childIds s.children).count id = 1
  insert_one_unit : ∀ {ok : SupUnit k → SupMsg k → Prop} {u : UnitRef} {w w' : World}
    {s : SupUnit k} {c : Command k.Rec} {id : Uuid} (r : Reply), w.sup? u k = some s →
    Keyed.Sorted s.children → c.target = some id → c.commandType = .insert →
    SupRun u k ok (route u k c r w) w' →
    ∃ t, w'.sup? u k = some t ∧ (childIds t.children).count id = 1
  one_insert_taken : ∀ {s t : k.Rec} {cs : List (Command k.Rec)}, Record.Takes s cs t →
    (cs.filter (·.commandType = .insert)).length ≤ 1
  one_insert_logged : ∀ {pid : String} {cfg : UnitConfig} {s : Store}
    {steps : List (Nat × LifeStep (Command k.Rec))} (n : Nat), s.journal.log pid = {} →
    s.faults.reads = false → (∀ p ∈ steps, p.2.Fits k.durable.entryFits) →
    Core.Decides cfg (List.replicate n (Core.new pid cfg), s) steps →
    ∃ us s', Core.liveAll cfg (List.replicate n (Core.new pid cfg : Core k.Rec), s) steps =
        .ok (us, s') ∧
      (((s'.journal.log pid).entries.filterMap (LogEntry.command? (Command k.Rec))).filter
        (·.commandType = .insert)).length ≤ 1
  insert_refused : ∀ {w : World} {v : UnitRef} {id : Uuid} {kp : Keeper k.Rec (EntityMsg k)}
    {c : Command k.Rec} (reply : Reply), w.cell? v = some (.entity k id kp) →
    Record.id kp.core.state ≠ none → c.commandType = .insert →
    ∃ reason store, store.faults = w.store.faults ∧
      (∀ p, store.journal.log p = w.store.journal.log p) ∧
      EntityUnit.execute v k id c reply w = ({ w with store := store }.deliver reply
        (.event (EntityUnit.failed k id kp.core.state c.commandType c.issuer reason c.payload))).2

theorem ready_routing (k : EntityType) : ReadyRouting k where
  execute c r hs hready := handle_execute_ready hs hready c r
  submit r hs hready hc := handle_submit_ready hs hready hc r
  read_models hrun h₀ hreg :=
    hrun.readModels_started ⟨_, h₀, fun hne => absurd hreg hne⟩
  insert_untargeted r hs hl ha ht hins := route_insert_untargeted hs hl ha ht hins r
  insert_fresh _ hknown hfit := alloc_not_child hknown hfit
  live_child r hs ht hget hin := route_live_child hs ht hget hin r
  respawn r hs hl ha ht hget hclosed := route_respawn hs hl ha ht hget hclosed r
  unknown_creates r hs hl ha ht hget hkind := route_unknown_creates hs hl ha ht hget hkind r
  untargeted_refused r hs ht hins := by
    rw [route_untargeted_refused ht hins r]
    exact ⟨rfl, (HoldsSup.of_sup? hs).deliver _ _⟩
  unknown_refused r hs ht hget hkind := by
    rw [route_unknown_refused hs ht hget hkind r]
    exact ⟨rfl, (HoldsSup.of_sup? hs).deliver _ _⟩
  children hrun h₀ hsorted := hrun.one_unit_per_record h₀ hsorted
  insert_one_unit r hs hsorted ht hins hrun := route_insert_one_unit hs hsorted ht hins r hrun
  one_insert_taken h := h.inserts_le_one
  one_insert_logged n hlog hreads hfits hdec :=
    shared_log_one_insert k.durable n hlog hreads hfits hdec
  insert_refused reply hcell hid hins := EntityUnit.execute_insert_of_exists hcell _ reply hid hins

end Supervision

end Chronicle
