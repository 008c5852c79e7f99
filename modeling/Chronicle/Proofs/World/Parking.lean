import Mathlib.Data.List.Infix
import Chronicle.Proofs.World.Routing

/-! Parking a unit's inbox in its stash, and what comes of the messages refused. -/
namespace Chronicle

namespace Stash

variable {μ : Type}

def room (s : Stash μ) (ms : List μ) : Nat :=
  match s.capacity with
  | some c => c - s.items.length
  | none => ms.length

def setAside (acc : Stash μ × List μ) (m : μ) : Stash μ × List μ :=
  match acc.1.push m with
  | .ok s => (s, acc.2)
  | .error m => (acc.1, acc.2 ++ [m])

theorem room_of_isFull {s : Stash μ} (h : s.isFull = true) (ms : List μ) : s.room ms = 0 := by
  unfold isFull at h
  unfold room
  cases hc : s.capacity <;> simp_all

theorem room_push (s : Stash μ) (m : μ) (ms : List μ) (h : s.isFull = false) :
    s.room (m :: ms) = ({ s with items := s.items ++ [m] } : Stash μ).room ms + 1 := by
  unfold isFull at h
  unfold room
  cases hc : s.capacity <;> simp_all
  omega

/-- Parking a list keeps its longest prefix that fits, in order, and refuses the rest: once the
stash is full it stays full. -/
theorem foldl_setAside (ms : List μ) (s : Stash μ) (refused : List μ) :
    ms.foldl setAside (s, refused) =
      ({ s with items := s.items ++ ms.take (s.room ms) }, refused ++ ms.drop (s.room ms)) := by
  induction ms generalizing s refused with
  | nil => simp
  | cons m ms ih =>
    rw [List.foldl_cons]
    cases hfull : s.isFull with
    | true =>
      simp only [setAside, push, hfull, if_true, ih, room_of_isFull hfull, List.take_zero,
        List.drop_zero]
      simp
    | false =>
      simp only [setAside, push, hfull, ih, room_push s m ms hfull]
      simp

theorem prefix_take_room_iff {s : Stash μ} (h : s.items = []) (xs rest : List μ) :
    xs <+: (xs ++ rest).take (s.room (xs ++ rest)) ↔ ∀ n ∈ s.capacity, xs.length ≤ n := by
  unfold room
  cases s.capacity with
  | none =>
    rw [List.take_length]
    simp
  | some c =>
    rw [h, List.prefix_take_iff]
    simp

end Stash

namespace Behaviour

variable {α μ : Type} (b : Behaviour α μ)

theorem parkIncoming_eq {w : World} {kp : Keeper α μ} (h : b.get w = some kp) :
    b.parkIncoming w =
      (kp.inbox.drop (kp.stash.room kp.inbox)).foldl (fun w m => b.refuse m w)
        (b.put w { kp with inbox := [], stash := { kp.stash with
          items := kp.stash.items ++ kp.inbox.take (kp.stash.room kp.inbox) } }) := by
  unfold parkIncoming
  simp only [h]
  -- the fold of the definition is `Stash.setAside` written out
  erw [Stash.foldl_setAside kp.inbox kp.stash []]
  rfl

end Behaviour

namespace EntityUnit

variable (u : UnitRef) (k : EntityType) (id : Uuid)

theorem refuse_cells (m : EntityMsg k) (w : World) : (refuse u k id m w).cells = w.cells := by
  unfold refuse
  split
  · exact (World.deliver_event_frame _ _).1
  · exact (World.dropReplies_frame _).1

theorem foldl_refuse_cells (ms : List (EntityMsg k)) (w : World) :
    (ms.foldl (fun w m => (behaviour u k id).refuse m w) w).cells = w.cells := by
  induction ms generalizing w with
  | nil => rfl
  | cons m ms ih => exact (ih _).trans (refuse_cells u k id m w)

theorem parkIncoming_cell? {w : World} {kp : Keeper k.Rec (EntityMsg k)}
    (h : w.cell? u = some (.entity k id kp)) :
    ((behaviour u k id).parkIncoming w).cell? u = some (.entity k id
      { kp with inbox := [], stash := { kp.stash with
          items := kp.stash.items ++ kp.inbox.take (kp.stash.room kp.inbox) } }) := by
  have hget : (behaviour u k id).get w = some kp := by
    simp [behaviour, World.entity?_of_cell? h]
  have hu : u < w.cells.size := World.lt_size_of_cell? h
  rw [(behaviour u k id).parkIncoming_eq hget]
  simp only [World.cell?, foldl_refuse_cells]
  exact World.cell?_setCell_self hu _

end EntityUnit

namespace Supervision

theorem park_childRefs_of_isFull {w : World} {u : UnitRef} {k : EntityType} {s : SupUnit k}
    (hs : w.sup? u k = some s) (hfull : s.stash.isFull = true) (acc : UnitRef) :
    park u k (.childRefs (.handed acc)) w = w := by
  simp [park, hs, Stash.push, hfull, refuseMsg, World.dropReplies, SupMsg.replies]

end Supervision

/-- Both subscriptions of a new unit reach its stash ahead of every command exactly when it
has room for two, and a full supervisor drops an accumulator's request for its children. -/
theorem wiring_parked_only_with_room (k : EntityType) (w : World) :
    (∀ (u : UnitRef) (id : Uuid) (kp : Keeper k.Rec (EntityMsg k)) (l a : Handle)
        (rest : List (EntityMsg k)),
      w.cell? u = some (.entity k id kp) → kp.inbox = Supervision.readModels k l a ++ rest →
      kp.stash.items = [] →
      ∃ kp', ((EntityUnit.behaviour u k id).parkIncoming w).cell? u = some (.entity k id kp') ∧
        kp'.inbox = [] ∧ kp'.stash.items = kp.inbox.take (kp.stash.room kp.inbox) ∧
        (Supervision.readModels k l a <+: kp'.stash.items ↔ ∀ n ∈ kp.stash.capacity, 2 ≤ n)) ∧
    ∀ (u : UnitRef) (s : SupUnit k) (acc : UnitRef), w.sup? u k = some s →
      s.stash.isFull = true → Supervision.park u k (.childRefs (.handed acc)) w = w := by
  refine ⟨fun u id kp l a rest hcell hinbox hempty => ?_,
    fun u s acc hs hfull => Supervision.park_childRefs_of_isFull hs hfull acc⟩
  refine ⟨_, EntityUnit.parkIncoming_cell? u k id hcell, rfl,
    by simp only [hempty, List.nil_append], ?_⟩
  have hkept := Stash.prefix_take_room_iff hempty (Supervision.readModels k l a) rest
  rw [← hinbox] at hkept
  simp only [hempty, List.nil_append, hkept]
  rfl

end Chronicle
