import Chronicle.Proofs.World.SupervisorFrame
import Chronicle.Proofs.Unit.Kinds

/-! What each step of an accumulator does, to itself and to the slots. -/
namespace Chronicle

def AccMsg.slots : AccMsg → List Nat
  | .getList (.slot n) | .status (.slot n) => [n]
  | _ => []

def slotsOf (ms : List AccMsg) : List Nat := ms.flatMap AccMsg.slots

namespace AccMsg

def waits : AccMsg → Bool
  | .event _ | .getList _ => true
  | _ => false

/-- The record a message reports on and the state document it carries, to an accumulator of
kind `k`: a state reply always, and an event that succeeded, is of kind `k`, names its record
and whose payload reads as one. -/
def report? (k : EntityType) : AccMsg → Option (Uuid × Option Json)
  | .state _ id doc => some (id, doc)
  | .event e =>
    match e.id with
    | some id =>
      if e.success && e.entityType == k then
        match (Record.read .document e.payload : Decoded k.Rec) with
        | .ok s => some (id, some (Record.toJson s))
        | .error _ => none
      else none
    | none => none
  | _ => none

def news? (k : EntityType) : AccMsg → Option (Uuid × Option Json)
  | .event e => report? k (.event e)
  | _ => none

end AccMsg

namespace AccUnit

/-- What handling a message once ready does to the entries of an accumulator of kind `k`: the
state an event reports is stored, and nothing else changes them. -/
def absorb (k : EntityType) (E : List (Uuid × Option Json)) (m : AccMsg) :
    List (Uuid × Option Json) :=
  match m.news? k with
  | some (id, d) => Keyed.insert id d E
  | none => E

end AccUnit

namespace World

variable {w w' : World} {u v : UnitRef} {a : AccUnit}

theorem acc?_eq_some : w.acc? u = some a ↔ w.cell? u = some (.accumulator a) := by
  unfold acc?
  split <;> simp_all

theorem acc?_of_cell?_eq (h : w'.cell? u = w.cell? u) : w'.acc? u = w.acc? u := by
  unfold acc?
  rw [h]

@[simp] theorem acc?_putAcc (h : w.acc? u = some a) (a' : AccUnit) :
    (w.putAcc u a').acc? u = some a' :=
  acc?_eq_some.mpr (cell?_setCell_self (lt_size_of_cell? (acc?_eq_some.mp h)) _)

@[simp] theorem slots_putAcc (a' : AccUnit) : (w.putAcc u a').slots = w.slots := rfl

@[simp] theorem acc?_abortTimer (t : Nat) : (w.abortTimer t).acc? u = w.acc? u :=
  acc?_of_cell?_eq (cell?_abortTimer t)

@[simp] theorem acc?_schedule (d : Duration) (al : Alarm) : (w.schedule d al).2.acc? u = w.acc? u :=
  rfl

@[simp] theorem slots_schedule (d : Duration) (al : Alarm) : (w.schedule d al).2.slots = w.slots :=
  rfl

theorem cells_deliver_records (r : Reply) (xs : List Json) :
    (w.deliver r (.records xs)).2.cells = w.cells := by
  unfold deliver
  split
  · rfl
  · unfold fillSlot
    split <;> rfl
  all_goals first | rfl | cases ‹Delivery.records xs = _›

theorem cells_deliver_accStatus (r : Reply) (s : AccStatus) :
    (w.deliver r (.accStatus s)).2.cells = w.cells := by
  unfold deliver
  split
  · rfl
  · unfold fillSlot
    split <;> rfl
  all_goals first | rfl | cases ‹Delivery.accStatus s = _›

theorem acc?_post_entity {k : EntityType} (hk : w.entityKind? v = some k) (ha : w.acc? u = some a)
    (l : Letter) : (w.post v l).2.acc? u = some a := by
  have hne : v ≠ u := by
    rintro rfl
    simp [entityKind?, acc?_eq_some.mp ha] at hk
  exact acc?_eq_some.mpr (cell?_post (acc?_eq_some.mp ha) (fun h => absurd h hne))

end World

namespace AccUnit

open World

variable {w : World} {u : UnitRef} {a : AccUnit} {n : Nat}

/-! ### What each step of an accumulator does to it and to the slots -/

theorem acc?_upsert (ha : w.acc? u = some a) (e : Event) :
    (upsert u e w).acc? u = some { a with entries := absorb a.kind a.entries (.event e) } := by
  unfold upsert absorb AccMsg.news? AccMsg.report?
  rw [ha]
  cases he : e.id with
  | none =>
    simp only [he]
    exact ha
  | some id =>
    simp only [he]
    by_cases hk : (e.success && e.entityType == a.kind) = true
    · cases hr : (Record.read .document e.payload : Decoded a.kind.Rec) with
      | ok st =>
        simp only [hk, if_true]
        exact acc?_putAcc ha _
      | error f =>
        simp only [hk, if_true]
        exact ha
    · simp only [hk, Bool.false_eq_true, if_false]
      exact ha

@[simp] theorem slots_upsert (e : Event) : (upsert u e w).slots = w.slots := by
  unfold upsert
  split
  · split
    · split <;> rfl
    · rfl
  · rfl

theorem acc?_handleReady (ha : w.acc? u = some a) (m : AccMsg) :
    (handleReady u m w).acc? u = some { a with entries := absorb a.kind a.entries m } := by
  cases m with
  | event e => exact acc?_upsert ha e
  | getList r =>
    simp only [handleReady, ha, absorb, AccMsg.news?]
    rw [acc?_of_cell?_eq (congrArg (·[u]?) (cells_deliver_records r _)), ha]
  | _ => exact ha

theorem handleReady_slot (m : AccMsg) (hn : n ∉ m.slots) :
    (handleReady u m w).slots[n]? = w.slots[n]? := by
  cases m with
  | event e => simp [handleReady]
  | getList r =>
    have hr : r ≠ .slot n := by
      rintro rfl
      simp [AccMsg.slots] at hn
    simp only [handleReady]
    split
    · exact deliver_slot r _ (.inl hr)
    · exact dropReplies_slot [r] (.inl (by simpa using hr.symm))
  | _ => rfl

theorem handleReady_getList_slot (ha : w.acc? u = some a) (hw : w.slots[n]? = some .waiting) :
    (handleReady u (.getList (.slot n)) w).slots[n]? =
      some (.filled (.records (a.entries.filterMap (·.2)))) := by
  have hlt : n < w.slots.size := (Array.getElem?_eq_some_iff.mp hw).1
  simp only [handleReady, ha, deliver, fillSlot, hw]
  simp [hlt]

variable (u) in
def handleAllReady (ms : List AccMsg) (w : World) : World :=
  ms.foldl (fun w m => handleReady u m w) w

theorem acc?_handleAllReady (ms : List AccMsg) (ha : w.acc? u = some a) :
    (handleAllReady u ms w).acc? u =
      some { a with entries := ms.foldl (absorb a.kind) a.entries } := by
  induction ms generalizing w a with
  | nil => exact ha
  | cons m ms ih => exact ih (acc?_handleReady ha m)

theorem handleAllReady_slot (ms : List AccMsg) (hn : n ∉ slotsOf ms) :
    (handleAllReady u ms w).slots[n]? = w.slots[n]? := by
  induction ms generalizing w with
  | nil => rfl
  | cons m ms ih =>
    simp only [slotsOf, List.flatMap_cons, List.mem_append, not_or] at hn
    exact (ih (w := handleReady u m w) hn.2).trans (handleReady_slot m hn.1)

/-- Handling messages once ready answers each read with the entries after the events before
it, provided the slots the messages name are distinct and waiting. -/
theorem handleAllReady_answers (ha : w.acc? u = some a) {pre post : List AccMsg}
    (hnodup : (slotsOf (pre ++ .getList (.slot n) :: post)).Nodup)
    (hwait : ∀ n' ∈ slotsOf (pre ++ .getList (.slot n) :: post), w.slots[n']? = some .waiting) :
    (handleAllReady u (pre ++ .getList (.slot n) :: post) w).slots[n]? =
      some (.filled (.records ((pre.foldl (absorb a.kind) a.entries).filterMap (·.2)))) := by
  induction pre generalizing w a with
  | nil =>
    -- the read comes first: it is answered, and no later message names its slot
    simp only [slotsOf, List.nil_append, List.flatMap_cons, AccMsg.slots, List.singleton_append,
      List.nodup_cons] at hnodup
    have hn : w.slots[n]? = some .waiting := hwait n (by simp [slotsOf, AccMsg.slots])
    simp only [List.nil_append, handleAllReady, List.foldl_cons, List.foldl_nil]
    rw [← handleAllReady, handleAllReady_slot post hnodup.1, handleReady_getList_slot ha hn]
  | cons m pre ih =>
    simp only [slotsOf, List.cons_append, List.flatMap_cons, List.nodup_append] at hnodup
    have hrest : ∀ n' ∈ slotsOf (pre ++ .getList (.slot n) :: post),
        (handleReady u m w).slots[n']? = some .waiting := by
      intro n' hn'
      rw [handleReady_slot m (fun hm => hnodup.2.2 _ hm _ hn' rfl)]
      exact hwait n' (by simp only [slotsOf, List.cons_append, List.flatMap_cons,
        List.mem_append]; exact .inr hn')
    exact ih (acc?_handleReady ha m) hnodup.2.1 hrest

/-- Becoming ready cancels the pull timer and hands what was set aside, in order, to the
handling of a ready accumulator. -/
theorem becomeReady_eq (ha : w.acc? u = some a) :
    ∃ w₁, w₁.acc? u = some { a with
        pullTimer := none, phase := .ready, stash := { a.stash with items := [] } } ∧
      w₁.slots = w.slots ∧ becomeReady u w = handleAllReady u a.stash.items w₁ := by
  unfold becomeReady
  rw [ha]
  dsimp only
  cases ht : a.pullTimer with
  | none =>
    refine ⟨_, acc?_putAcc ha _, rfl, ?_⟩
    simp only [Stash.takeAll]
    rfl
  | some t =>
    refine ⟨_, acc?_putAcc ((acc?_abortTimer t).trans ha) _, by simp, ?_⟩
    simp only [Stash.takeAll]
    rfl

theorem acc?_becomeReady (ha : w.acc? u = some a) :
    (becomeReady u w).acc? u = some { a with
      pullTimer := none, phase := .ready, stash := { a.stash with items := [] },
      entries := a.stash.items.foldl (absorb a.kind) a.entries } := by
  obtain ⟨w₁, h₁, -, heq⟩ := becomeReady_eq ha
  rw [heq, acc?_handleAllReady _ h₁]

/-- Asking the children for their states changes only whom the accumulator waits for, and no
slot; with nobody to wait for it becomes ready, else it starts its pull timer. -/
theorem pull_eq (ha : w.acc? u = some a) (hinit : a.phase ≠ .ready) (xs : List ChildRef) :
    ∃ w₁ p, w₁.acc? u = some { a with pending := p } ∧ (∀ n : Nat, w₁.slots[n]? = w.slots[n]?) ∧
      pull u xs w = if p.isEmpty then becomeReady u w₁ else
        (w₁.schedule a.pullTimeout (.pullTimeout u)).2.putAcc u
          { a with pending := p,
                   pullTimer := some (w₁.schedule a.pullTimeout (.pullTimeout u)).1 } := by
  unfold pull
  rw [ha]
  simp only [hinit, ↓reduceIte]
  generalize hW : List.foldl _ w xs = W
  -- each child asked changes whom the accumulator waits for, and nothing else it or a slot has
  obtain ⟨p, hp, hs⟩ : ∃ p, W.acc? u = some { a with pending := p } ∧
      ∀ n : Nat, W.slots[n]? = w.slots[n]? := by
    subst hW
    refine List.foldlRecOn
      (motive := fun (w' : World) => ∃ p, w'.acc? u = some { a with pending := p } ∧
        ∀ n : Nat, w'.slots[n]? = w.slots[n]?) xs _ ⟨a.pending, ha, fun _ => rfl⟩ ?_
    rintro w' ⟨p, hp, hs⟩ c -
    split
    · rename_i k hk
      have hslot : ∀ n : Nat, (w'.post c.unit (.entity k (.getState (.pulled u)))).2.slots[n]? =
          w.slots[n]? := fun n =>
        (post_slot _ _ (.inl (by simp [Letter.replies, EntityMsg.replies]))).trans (hs n)
      have hacc := acc?_post_entity hk hp (.entity k (.getState (.pulled u)))
      split
      · rename_i w'' hpost
        rw [hpost] at hslot hacc
        rw [hacc]
        exact ⟨_, acc?_putAcc hacc _, hslot⟩
      · rename_i w'' hpost
        rw [hpost] at hslot hacc
        exact ⟨p, hacc, hslot⟩
    · exact ⟨p, hp, hs⟩
  refine ⟨W, p, hp, hs, ?_⟩
  rw [hp]
  dsimp only
  split
  · rfl
  · rw [acc?_schedule, hp]

theorem pull_of_ready (ha : w.acc? u = some a) (hready : a.phase = .ready) (xs : List ChildRef) :
    pull u xs w = w := by
  simp [pull, ha, hready]

theorem record_of_not_asked (ha : w.acc? u = some a) {src id : Uuid} {doc : Option Json}
    (h : a.pending.any (·.1 = src) = false) : record u src id doc w = w := by
  simp [record, ha, h]

theorem record_of_asked (ha : w.acc? u = some a) {src id : Uuid} {doc : Option Json}
    (h : a.pending.any (·.1 = src) = true) :
    record u src id doc w =
      if a.phase = .initializing ∧ (a.pending.filter (·.1 ≠ src)).isEmpty then
        becomeReady u (w.putAcc u { a with
          pending := a.pending.filter (·.1 ≠ src), entries := Keyed.insert id doc a.entries })
      else w.putAcc u { a with
          pending := a.pending.filter (·.1 ≠ src), entries := Keyed.insert id doc a.entries } := by
  simp only [record, ha, h, ↓reduceIte, Bool.and_eq_true, decide_eq_true_eq]

theorem handle_children (ha : w.acc? u = some a) (xs : List ChildRef) :
    (handle u (.children xs) w).2 = pull u xs w := by
  simp [handle, ha]

theorem handle_state (ha : w.acc? u = some a) (src id : Uuid) (doc : Option Json) :
    (handle u (.state src id doc) w).2 = record u src id doc w := by
  simp [handle, ha]

theorem handle_pullTimeout (ha : w.acc? u = some a) :
    (handle u .pullTimeout w).2 = if a.phase = .initializing then
      becomeReady u (w.putAcc u { a with pending := [] }) else w := by
  simp only [handle, ha]
  split <;> rfl

theorem handle_status (ha : w.acc? u = some a) (r : Reply) :
    (handle u (.status r) w).2 = (w.deliver r (.accStatus ⟨a.phase, a.entries.length,
      a.pending.length, a.stash.size⟩)).2 := by
  simp [handle, ha]

theorem handle_waits (ha : w.acc? u = some a) (hcap : a.stash.capacity = none) {m : AccMsg}
    (hm : m.waits = true) :
    (handle u m w).2 = if a.phase = .initializing then
      w.putAcc u { a with stash := { a.stash with items := a.stash.items ++ [m] } }
      else handleReady u m w := by
  have hpush : a.stash.push m = .ok { a.stash with items := a.stash.items ++ [m] } :=
    Stash.push_items _ _ (by simp [Stash.isFull, hcap])
  cases m with
  | event e => simp only [handle, ha, hpush]; split <;> rfl
  | getList r => simp only [handle, ha, hpush]; split <;> rfl
  | _ => simp [AccMsg.waits] at hm

end AccUnit

end Chronicle
