import Chronicle.Proofs.World.EntityQueue

/-! Arrival order through recovery, against any schedule. -/
namespace Chronicle

namespace Core

variable {α : Type}

theorem load_ends (c : Core α) (s : Store) : ∃ pre, c.load s = pre ++ [.completed] := by
  unfold load
  split
  · exact ⟨_, rfl⟩
  · exact ⟨[], rfl⟩

theorem rest_ends {pre rest : List ReplayItem} {item : ReplayItem}
    (h : pre ++ [.completed] = item :: rest) (hne : item ≠ .completed) :
    ∃ pre', rest = pre' ++ [.completed] := by
  cases pre with
  | nil => exact absurd (List.cons.inj h).1.symm hne
  | cons p pre' => exact ⟨pre', (List.cons.inj h).2.symm⟩

variable {κ : Type} [Aggregate α κ] [Logged κ] [Stored α]

theorem ne_completed_of_recover {c c' : Core α} {item : ReplayItem}
    (h : c.recover (κ := κ) item = .ok (.continue, c')) : item ≠ .completed := by
  rintro rfl
  simp [recover] at h

end Core

namespace Stash

variable {μ : Type}

def Admits (cap : Option Nat) (X T : List μ) : Prop :=
  match cap with
  | none => T = []
  | some n => X.length ≤ n ∧ (T = [] ∨ X.length = n)

theorem admits_nil (cap : Option Nat) : Admits cap ([] : List μ) [] := by
  cases cap <;> simp [Admits]

/-- Parking a stash that admitted its items and refused `T` admits the longest prefix of the
inbox that fits and refuses the rest; the refused messages stay one block, between what was
admitted and what comes later. -/
theorem admits_park {s : Stash μ} {T : List μ} (h : Admits s.capacity s.items T) (Y : List μ) :
    Admits s.capacity (s.items ++ Y.take (s.room Y)) (T ++ Y.drop (s.room Y)) ∧
      s.items ++ T ++ Y = s.items ++ Y.take (s.room Y) ++ (T ++ Y.drop (s.room Y)) := by
  unfold room
  unfold Admits at h ⊢
  cases hc : s.capacity with
  | none =>
    rw [hc] at h
    subst h
    simp
  | some n =>
    rw [hc] at h
    obtain ⟨hle, hT | hfull⟩ := h
    · -- nothing refused yet: the inbox splits where the stash fills
      subst hT
      refine ⟨⟨?_, ?_⟩, by simp⟩
      · simp only [List.length_append, List.length_take]
        omega
      · by_cases hY : Y.length ≤ n - s.items.length
        · exact .inl (by simp [List.drop_eq_nil_of_le hY])
        · exact .inr (by simp only [List.length_append, List.length_take]; omega)
    · -- the stash is full: it admits nothing more
      simp [hfull]

theorem admits_fresh_or_full {s : Stash μ} {T : List μ} (h : Admits s.capacity s.items T)
    (Y : List μ) : T = [] ∨ Y.take (s.room Y) = [] := by
  unfold room
  unfold Admits at h
  cases hc : s.capacity with
  | none =>
    rw [hc] at h
    exact .inl h
  | some n =>
    rw [hc] at h
    obtain ⟨-, hT | hfull⟩ := h
    · exact .inl hT
    · exact .inr (by simp [hfull])

theorem Admits.take_drop {cap : Option Nat} {n : Nat} {X T : List μ} (h : Admits cap X T)
    (hc : cap = some n) : X = (X ++ T).take n ∧ T = (X ++ T).drop n := by
  subst hc
  obtain ⟨hle, rfl | hfull⟩ := h
  · simp [List.take_of_length_le hle, List.drop_eq_nil_of_le hle]
  · subst hfull
    simp

end Stash

namespace Behaviour

namespace Happening

variable {μ : Type}

def setAside? : Happening μ → Option μ
  | .setAside m => some m
  | _ => none

def refused? : Happening μ → Option μ
  | .refused m => some m
  | _ => none

def parked? : Happening μ → Option μ
  | .setAside m => some m
  | .refused m => some m
  | _ => none

def handled? : Happening μ → Option μ
  | .handled m => some m
  | _ => none

end Happening

variable {μ : Type}

def setAsideIn (tr : List (Happening μ)) : List μ := tr.filterMap Happening.setAside?

def refusedIn (tr : List (Happening μ)) : List μ := tr.filterMap Happening.refused?

def parkedIn (tr : List (Happening μ)) : List μ := tr.filterMap Happening.parked?

def handledIn (tr : List (Happening μ)) : List μ := tr.filterMap Happening.handled?

section Projections

section Map

variable {f : Happening μ → Option μ} {c : μ → Happening μ}

theorem filterMap_map_of_none (h : ∀ m, f (c m) = none) (xs : List μ) :
    (xs.map c).filterMap f = [] := by
  induction xs with
  | nil => rfl
  | cons m xs ih => rw [List.map_cons, List.filterMap_cons_none (h m), ih]

theorem filterMap_map_of_some (h : ∀ m, f (c m) = some m) (xs : List μ) :
    (xs.map c).filterMap f = xs := by
  induction xs with
  | nil => rfl
  | cons m xs ih => rw [List.map_cons, List.filterMap_cons_some (h m), ih]

end Map

variable (tr tr' : List (Happening μ)) (X T H pre : List μ) (m : μ)

@[simp] theorem setAsideIn_nil : setAsideIn ([] : List (Happening μ)) = [] := rfl
@[simp] theorem refusedIn_nil : refusedIn ([] : List (Happening μ)) = [] := rfl
@[simp] theorem parkedIn_nil : parkedIn ([] : List (Happening μ)) = [] := rfl
@[simp] theorem handledIn_nil : handledIn ([] : List (Happening μ)) = [] := rfl

@[simp] theorem setAsideIn_append : setAsideIn (tr ++ tr') = setAsideIn tr ++ setAsideIn tr' :=
  List.filterMap_append
@[simp] theorem refusedIn_append : refusedIn (tr ++ tr') = refusedIn tr ++ refusedIn tr' :=
  List.filterMap_append
@[simp] theorem parkedIn_append : parkedIn (tr ++ tr') = parkedIn tr ++ parkedIn tr' :=
  List.filterMap_append
@[simp] theorem handledIn_append : handledIn (tr ++ tr') = handledIn tr ++ handledIn tr' :=
  List.filterMap_append

@[simp] theorem setAsideIn_cons_completed : setAsideIn (.completed :: tr) = setAsideIn tr := rfl
@[simp] theorem refusedIn_cons_completed : refusedIn (.completed :: tr) = refusedIn tr := rfl
@[simp] theorem parkedIn_cons_completed : parkedIn (.completed :: tr) = parkedIn tr := rfl
@[simp] theorem handledIn_cons_completed : handledIn (.completed :: tr) = handledIn tr := rfl
@[simp] theorem setAsideIn_cons_aborted : setAsideIn (.aborted :: tr) = setAsideIn tr := rfl
@[simp] theorem refusedIn_cons_aborted : refusedIn (.aborted :: tr) = refusedIn tr := rfl
@[simp] theorem parkedIn_cons_aborted : parkedIn (.aborted :: tr) = parkedIn tr := rfl
@[simp] theorem handledIn_cons_aborted : handledIn (.aborted :: tr) = handledIn tr := rfl

@[simp] theorem setAsideIn_map_setAside : setAsideIn (X.map .setAside) = X :=
  filterMap_map_of_some (fun _ => rfl) X
@[simp] theorem refusedIn_map_setAside : refusedIn (X.map .setAside) = [] :=
  filterMap_map_of_none (fun _ => rfl) X
@[simp] theorem parkedIn_map_setAside : parkedIn (X.map .setAside) = X :=
  filterMap_map_of_some (fun _ => rfl) X
@[simp] theorem handledIn_map_setAside : handledIn (X.map .setAside) = [] :=
  filterMap_map_of_none (fun _ => rfl) X

@[simp] theorem setAsideIn_map_refused : setAsideIn (T.map .refused) = [] :=
  filterMap_map_of_none (fun _ => rfl) T
@[simp] theorem refusedIn_map_refused : refusedIn (T.map .refused) = T :=
  filterMap_map_of_some (fun _ => rfl) T
@[simp] theorem parkedIn_map_refused : parkedIn (T.map .refused) = T :=
  filterMap_map_of_some (fun _ => rfl) T
@[simp] theorem handledIn_map_refused : handledIn (T.map .refused) = [] :=
  filterMap_map_of_none (fun _ => rfl) T

@[simp] theorem setAsideIn_map_handled : setAsideIn (H.map .handled) = [] :=
  filterMap_map_of_none (fun _ => rfl) H
@[simp] theorem refusedIn_map_handled : refusedIn (H.map .handled) = [] :=
  filterMap_map_of_none (fun _ => rfl) H
@[simp] theorem parkedIn_map_handled : parkedIn (H.map .handled) = [] :=
  filterMap_map_of_none (fun _ => rfl) H
@[simp] theorem handledIn_map_handled : handledIn (H.map .handled) = H :=
  filterMap_map_of_some (fun _ => rfl) H

@[simp] theorem setAsideIn_stopAfter : setAsideIn (Happening.stopAfter pre m) = [] := by
  simp only [Happening.stopAfter, setAsideIn_append, setAsideIn_map_handled]
  rfl
@[simp] theorem refusedIn_stopAfter : refusedIn (Happening.stopAfter pre m) = [] := by
  simp only [Happening.stopAfter, refusedIn_append, refusedIn_map_handled]
  rfl
@[simp] theorem parkedIn_stopAfter : parkedIn (Happening.stopAfter pre m) = [] := by
  simp only [Happening.stopAfter, parkedIn_append, parkedIn_map_handled]
  rfl
@[simp] theorem handledIn_stopAfter :
    handledIn (Happening.stopAfter pre m) = pre ++ [m] := by
  simp only [Happening.stopAfter, handledIn_append, handledIn_map_handled]
  rfl

@[simp] theorem setAsideIn_parkings : setAsideIn (Happening.parkings X T) = X := by
  simp [Happening.parkings]
@[simp] theorem refusedIn_parkings : refusedIn (Happening.parkings X T) = T := by
  simp [Happening.parkings]
@[simp] theorem parkedIn_parkings : parkedIn (Happening.parkings X T) = X ++ T := by
  simp [Happening.parkings]
@[simp] theorem handledIn_parkings : handledIn (Happening.parkings X T) = [] := by
  simp [Happening.parkings]

end Projections

variable {α : Type}

def Recovering (r : Run) : Prop := r = .fresh ∨ ∃ pre, r = .recovering (pre ++ [.completed])

theorem Recovering.eq_of_stage {r r' : Run} (h : Recovering r) (hs : r'.stage = r.stage) :
    r' = r := by
  rcases h with rfl | ⟨pre, rfl⟩ <;> cases r' <;> simp_all [Run.stage]

theorem Run.ne_of_early {r : Run} (h : r = .fresh ∨ ∃ rest, r = .recovering rest)
    (idle : Option Nat) : r ≠ .serving idle ∧ r ≠ .ended := by
  rcases h with rfl | ⟨rest, rfl⟩ <;> simp

theorem Recovering.early {r : Run} (h : Recovering r) :
    r = .fresh ∨ ∃ rest, r = .recovering rest :=
  h.imp_right fun ⟨_, hr⟩ => ⟨_, hr⟩

theorem Run.eq_ended_of_stage {r r' : Run} (hr : r = .ended) (hs : r'.stage = r.stage) :
    r' = .ended := by
  subst hr
  cases r' <;> simp_all [Run.stage]

theorem Served.of_agrees {q : List μ} {tr : List (Happening μ)} {kp kp' : Keeper α μ}
    (h : Served q tr kp) (hag : kp.Agrees kp') : Served q tr kp' := by
  obtain ⟨he, ⟨pre, hq, ht, hs⟩ | ⟨hr, ho, htr⟩⟩ := h
  · exact ⟨hag.stash ▸ he, .inl ⟨pre, hag.inbox ▸ hq, ht, hag.stage ▸ hs⟩⟩
  · exact ⟨hag.stash ▸ he, .inr ⟨Run.eq_ended_of_stage hr hag.stage, hag.isOpen ▸ ho, htr⟩⟩

theorem Served.arrive {q : List μ} {tr : List (Happening μ)} {kp kp' : Keeper α μ} {m : μ}
    (h : Served q tr kp) (ho : kp.isOpen = true)
    (hag : ({ kp with inbox := kp.inbox ++ [m] } : Keeper α μ).Agrees kp') :
    Served (q ++ [m]) tr kp' := by
  obtain ⟨he, ⟨pre, hq, ht, hs⟩ | ⟨-, hc, -⟩⟩ := h
  · refine ⟨hag.stash ▸ he, .inl ⟨pre, ?_, ht, hag.stage ▸ hs⟩⟩
    rw [hag.inbox, hq, List.append_assoc]
  · simp [hc] at ho

/-- The arrivals `as` are what the stash admitted, then what it refused, then what came after,
and the unit `kp` holds or has served them as its history `tr` says. -/
def Accounted (as : List μ) (tr : List (Happening μ)) (kp : Keeper α μ) : Prop :=
  ∃ X T Y, as = X ++ T ++ Y ∧ Stash.Admits kp.stash.capacity X T ∧
    ((Recovering kp.run ∧ tr = Happening.parkings X T ∧ kp.stash.items = X ∧ kp.inbox = Y) ∨
      (kp.run = .ended ∧ kp.isOpen = false ∧ tr = Happening.parkings X T ++ [.aborted]) ∨
      (∃ tr', tr = Happening.parkings X T ++ .completed :: tr' ∧ Served (X ++ Y) tr' kp))

theorem accounted_start {kp : Keeper α μ} (hr : kp.run = .fresh) (hi : kp.inbox = [])
    (he : kp.stash.items = []) : Accounted [] [] kp :=
  ⟨[], [], [], rfl, Stash.admits_nil _, .inl ⟨.inl hr, rfl, he, hi⟩⟩

theorem Accounted.aside {as : List μ} {tr : List (Happening μ)} {kp kp' : Keeper α μ}
    (h : Accounted as tr kp) (hag : kp.Agrees kp') : Accounted as tr kp' := by
  obtain ⟨X, T, Y, has, had, ⟨hrec, htr, hs, hi⟩ | ⟨hr, ho, htr⟩ | ⟨tr', htr, hsv⟩⟩ := h
  all_goals refine ⟨X, T, Y, has, hag.stash ▸ had, ?_⟩
  · exact .inl ⟨hrec.eq_of_stage hag.stage ▸ hrec, htr, hag.stash ▸ hs, hag.inbox ▸ hi⟩
  · exact .inr (.inl ⟨Run.eq_ended_of_stage hr hag.stage, hag.isOpen ▸ ho, htr⟩)
  · exact .inr (.inr ⟨tr', htr, hsv.of_agrees hag⟩)

theorem Accounted.arrive {as : List μ} {tr : List (Happening μ)} {kp kp' : Keeper α μ} {m : μ}
    (h : Accounted as tr kp) (ho : kp.isOpen = true)
    (hag : ({ kp with inbox := kp.inbox ++ [m] } : Keeper α μ).Agrees kp') :
    Accounted (as ++ [m]) tr kp' := by
  obtain ⟨X, T, Y, rfl, had, ⟨hrec, htr, hs, hi⟩ | ⟨hr, hc, htr⟩ | ⟨tr', htr, hsv⟩⟩ := h
  · refine ⟨X, T, Y ++ [m], by simp, hag.stash ▸ had, .inl ⟨?_, htr, hag.stash ▸ hs, ?_⟩⟩
    · exact hrec.eq_of_stage hag.stage ▸ hrec
    · rw [hag.inbox, hi]
  · simp [hc] at ho
  · refine ⟨X, T, Y ++ [m], by simp, hag.stash ▸ had, .inr (.inr ⟨tr', htr, ?_⟩)⟩
    rw [← List.append_assoc]
    exact hsv.arrive ho hag

/-- What the history `tr` of the unit `kp` says of the order of the messages `as` that arrived
to it. -/
structure OrderedHistory (as : List μ) (tr : List (Happening μ)) (kp : Keeper α μ)
    (Y : List μ) : Prop where
  /-- Every message that arrived was parked, or came after the parked ones. -/
  split : as = parkedIn tr ++ Y
  /-- Parking set aside a leading part of what it took and refused the rest. -/
  parked : parkedIn tr = setAsideIn tr ++ refusedIn tr
  /-- An unbounded stash refused nothing. -/
  unbounded : kp.stash.capacity = none → refusedIn tr = []
  /-- A stash for `n` messages set aside the first `n` parked and refused every later one: a
  message is refused exactly when it is parked while `n` are set aside. -/
  bounded : ∀ n, kp.stash.capacity = some n →
    setAsideIn tr = (parkedIn tr).take n ∧ refusedIn tr = (parkedIn tr).drop n
  /-- Parking; then an abort, or the end of recovery followed by the handled messages, the last
  of them perhaps one that stopped the unit. -/
  shape : tr = Happening.parkings (setAsideIn tr) (refusedIn tr) ∨
    tr = Happening.parkings (setAsideIn tr) (refusedIn tr) ++ [.aborted] ∨
    tr = Happening.parkings (setAsideIn tr) (refusedIn tr) ++
      .completed :: (handledIn tr).map .handled ∨
    ∃ pre m, tr = Happening.parkings (setAsideIn tr) (refusedIn tr) ++
      .completed :: Happening.stopAfter pre m
  /-- The handler was handed what was set aside and what came later, in order, from the
  first. -/
  handed : handledIn tr <+: setAsideIn tr ++ Y
  /-- While the unit recovers nothing but parking happened: its stash holds what was set aside,
  and its inbox what came later. -/
  recovering : (kp.run = .fresh ∨ ∃ rest, kp.run = .recovering rest) →
    tr = Happening.parkings (setAsideIn tr) (refusedIn tr) ∧ kp.stash.items = setAsideIn tr ∧
      kp.inbox = Y
  /-- While the unit serves, what was not handed over yet waits in its inbox. -/
  serving : ∀ idle, kp.run = .serving idle → handledIn tr ++ kp.inbox = setAsideIn tr ++ Y
  /-- Once the unit ended, everything was handed over, unless a message stopped it or its
  recovery aborted. -/
  ended : kp.run = .ended → handledIn tr = setAsideIn tr ++ Y ∨ .stopped ∈ tr ∨ .aborted ∈ tr

/-- An ordered history from a history that parked `X` and `T` first: what parking alone
decides follows from the stash's admissions. -/
theorem OrderedHistory.of_parkings {as : List μ} {tr : List (Happening μ)} {kp : Keeper α μ}
    {X T Y : List μ} (has : as = X ++ T ++ Y) (had : Stash.Admits kp.stash.capacity X T)
    (hX : setAsideIn tr = X) (hT : refusedIn tr = T) (hP : parkedIn tr = X ++ T)
    (shape : tr = Happening.parkings X T ∨ tr = Happening.parkings X T ++ [.aborted] ∨
      tr = Happening.parkings X T ++ .completed :: (handledIn tr).map .handled ∨
      ∃ pre m, tr = Happening.parkings X T ++ .completed :: Happening.stopAfter pre m)
    (handed : handledIn tr <+: X ++ Y)
    (recovering : (kp.run = .fresh ∨ ∃ rest, kp.run = .recovering rest) →
      tr = Happening.parkings X T ∧ kp.stash.items = X ∧ kp.inbox = Y)
    (serving : ∀ idle, kp.run = .serving idle → handledIn tr ++ kp.inbox = X ++ Y)
    (ended : kp.run = .ended → handledIn tr = X ++ Y ∨ .stopped ∈ tr ∨ .aborted ∈ tr) :
    OrderedHistory as tr kp Y := by
  subst hX hT
  refine ⟨by rw [has, hP], hP, fun hc => ?_, fun n hc => hP ▸ had.take_drop hc, shape, handed,
    recovering, serving, ended⟩
  rw [hc] at had
  exact had

/-- An accounted history is ordered. -/
theorem Accounted.spec {as : List μ} {tr : List (Happening μ)} {kp : Keeper α μ}
    (h : Accounted as tr kp) : ∃ Y, OrderedHistory as tr kp Y := by
  obtain ⟨X, T, Y, has, had, ⟨hrec, rfl, hs, hi⟩ | ⟨hr, -, rfl⟩ | ⟨tr', rfl, hsv⟩⟩ := h
  · -- still recovering: parking only
    have hne := Run.ne_of_early hrec.early
    exact ⟨Y, .of_parkings has had (by simp) (by simp) (by simp) (.inl rfl) (by simp)
      (fun _ => ⟨rfl, hs, hi⟩) (fun idle hs => absurd hs (hne idle).1)
      (fun he => absurd he (hne none).2)⟩
  · -- recovery aborted: parking, then the abort
    exact ⟨Y, .of_parkings has had (by simp) (by simp) (by simp) (.inr (.inl rfl)) (by simp)
      (fun hf => absurd hr (Run.ne_of_early hf none).2) (fun idle hs => by simp [hr] at hs)
      (fun _ => .inr (.inr (by simp)))⟩
  · obtain ⟨-, ⟨pre, hq, rfl, hs⟩ | ⟨hr, -, rfl | ⟨pre, m, post, hq, rfl⟩⟩⟩ := hsv
    · -- serving: what was handed over, then what waits
      obtain ⟨idle, hr⟩ := Run.eq_serving_of_stage hs
      exact ⟨Y, .of_parkings has had (by simp) (by simp) (by simp) (.inr (.inr (.inl (by simp))))
        (by simp [hq]) (fun hf => absurd hr (Run.ne_of_early hf idle).1)
        (fun _ _ => by simp [hq]) (fun he => by simp [hr] at he)⟩
    · -- ended with everything handed over
      exact ⟨Y, .of_parkings has had (by simp) (by simp) (by simp) (.inr (.inr (.inl (by simp))))
        (by simp) (fun hf => absurd hr (Run.ne_of_early hf none).2)
        (fun idle hs => by simp [hr] at hs) (fun _ => .inl (by simp))⟩
    · -- ended by a message that asked to stop
      exact ⟨Y, .of_parkings has had (by simp) (by simp) (by simp)
        (.inr (.inr (.inr ⟨pre, m, rfl⟩))) (by simp [hq])
        (fun hf => absurd hr (Run.ne_of_early hf none).2) (fun idle hs => by simp [hr] at hs)
        (fun _ => .inr (.inl (by simp [Happening.stopAfter])))⟩

section Turn

variable {κ : Type} [Aggregate α κ] [Logged κ] [Stored α] {b : Behaviour α μ} (hb : b.Lawful)
include hb

/-- A turn of a recovering unit, which set aside `X`, refused `T` and has `Y` waiting: it parks,
and goes on recovering, aborts, or goes through the last item and serves. -/
theorem accounted_recoverNext {w : World} {kp : Keeper α μ} (hg : b.get w = some kp)
    {items : List ReplayItem} (hitems : ∃ pre, items = pre ++ [.completed])
    {as : List μ} {X T Y : List μ} (has : as = X ++ T ++ Y)
    (had : Stash.Admits kp.stash.capacity X T) (hs : kp.stash.items = X) (hi : kp.inbox = Y) :
    ∃ kp', b.get (b.recoverNextTraced (κ := κ) items w).1 = some kp' ∧
      Accounted as (Happening.parkings X T ++ (b.recoverNextTraced (κ := κ) items w).2) kp' := by
  obtain ⟨pre, rfl⟩ := hitems
  obtain ⟨item, rest, hir⟩ : ∃ item rest, pre ++ [ReplayItem.completed] = item :: rest := by
    cases pre with
    | nil => exact ⟨_, _, rfl⟩
    | cons p pre => exact ⟨_, _, rfl⟩
  subst hs hi
  -- parking admits a prefix of what waits and refuses the rest, after what was refused before
  obtain ⟨hadm, hsplit⟩ := Stash.admits_park had kp.inbox
  have has' : as = kp.parked ++ (T ++ kp.turnedAway) ++ [] := by
    rw [has, hsplit, List.append_nil]
    rfl
  -- a stash that refused before is full, so this parking sets nothing more aside
  have hT : Happening.parkings kp.stash.items T ++ kp.parkings =
      Happening.parkings kp.parked (T ++ kp.turnedAway) :=
    Happening.parkings_append (Stash.admits_fresh_or_full had kp.inbox)
  rw [hir]
  rcases hb.recoverNextTraced_spec hg item rest with
    ⟨c, hrec, htr, hg'⟩ | ⟨htr, kp', hg', hc, -, hr, ho⟩ | ⟨kp', tr', hg', hc, htr, hsv⟩
  · -- recovery goes on with the rest of the items
    obtain ⟨pre', hrest⟩ := Core.rest_ends hir (Core.ne_completed_of_recover hrec)
    refine ⟨_, hg', _, _, _, has', hadm, .inl ⟨.inr ⟨pre', by rw [hrest]⟩, ?_, rfl, rfl⟩⟩
    rw [htr, hT]
  · -- recovery aborts: the unit ends
    refine ⟨kp', hg', _, _, _, has', hc ▸ hadm, .inr (.inl ⟨hr, ho, ?_⟩)⟩
    rw [htr, ← List.append_assoc, hT]
  · -- the last item went through: what was set aside is served
    refine ⟨kp', hg', _, _, _, has', hc ▸ hadm, .inr (.inr ⟨tr', ?_, ?_⟩)⟩
    · rw [htr, ← List.append_assoc, hT]
    · rw [List.append_nil]
      exact hsv

/-- A turn of the unit keeps its history accounted for. -/
theorem Accounted.turn {w : World} {kp : Keeper α μ} (hg : b.get w = some kp) {as : List μ}
    {tr : List (Happening μ)} (h : Accounted as tr kp) :
    ∃ kp', b.get (b.pollTraced (κ := κ) w).1 = some kp' ∧
      Accounted as (tr ++ (b.pollTraced (κ := κ) w).2) kp' := by
  obtain ⟨X, T, Y, has, had, ⟨hrec, rfl, hs, hi⟩ | ⟨hr, ho, htr⟩ | ⟨tr', htr, hsv⟩⟩ := h
  · -- recovering: the turn goes through the next item
    rcases hrec with hr | ⟨pre, hr⟩ <;> simp only [pollTraced, hg, hr]
    · exact accounted_recoverNext hb hg (Core.load_ends _ _) has had hs hi
    · exact accounted_recoverNext hb hg ⟨pre, rfl⟩ has had hs hi
  · -- aborted: an ended unit does nothing
    simp only [pollTraced, hg, hr, List.append_nil]
    exact ⟨kp, rfl, X, T, Y, has, had, .inr (.inl ⟨hr, ho, htr⟩)⟩
  · obtain ⟨he, ⟨pre, hq, ht, hs⟩ | ⟨hr, ho, hend⟩⟩ := hsv
    · -- serving: a turn of serving goes on from what was handed over before
      obtain ⟨idle, hr⟩ := Run.eq_serving_of_stage hs
      simp only [pollTraced, hg, hr]
      obtain ⟨kp', hg', hc, hsv'⟩ := hb.serveTraced_spec turnBudget hg hs he
      refine ⟨kp', hg', X, T, Y, has, hc ▸ had, .inr (.inr ⟨_, ?_, hq ▸ hsv'.prepend pre⟩)⟩
      rw [htr, ht, List.append_assoc, List.cons_append]
    · -- ended: nothing more happens
      simp only [pollTraced, hg, hr, List.append_nil]
      exact ⟨kp, rfl, X, T, Y, has, had, .inr (.inr ⟨tr', htr, he, .inr ⟨hr, ho, hend⟩⟩)⟩

end Turn

section Life

variable {κ : Type} [Aggregate α κ] [Logged κ] [Stored α]

/-- `b.Plays w as tr`: from a fresh unit, the messages `as` arrived, the rest of the world left
the unit's queue alone, and the unit's turns made the history `tr`, leaving it in `w`. -/
inductive Plays (b : Behaviour α μ) : World → List μ → List (Happening μ) → Prop
  | start {w : World} {kp : Keeper α μ} : b.get w = some kp → kp.run = .fresh →
      kp.inbox = [] → kp.stash.items = [] → Plays b w [] []
  | arrive {w w' : World} {as : List μ} {tr : List (Happening μ)} {kp kp' : Keeper α μ}
      (m : μ) : Plays b w as tr → b.get w = some kp → kp.isOpen = true → b.get w' = some kp' →
      ({ kp with inbox := kp.inbox ++ [m] } : Keeper α μ).Agrees kp' → Plays b w' (as ++ [m]) tr
  | aside {w w' : World} {as : List μ} {tr : List (Happening μ)} {kp kp' : Keeper α μ} :
      Plays b w as tr → b.get w = some kp → b.get w' = some kp' → kp.Agrees kp' →
      Plays b w' as tr
  | turn {w : World} {as : List μ} {tr : List (Happening μ)} :
      Plays b w as tr → Plays b (b.poll (κ := κ) w) as (tr ++ (b.pollTraced (κ := κ) w).2)

/-- Every life of a lawful unit keeps its history accounted for: the invariant holds at the
start, and every arrival, every move of the rest of the world and every turn keeps it. -/
theorem Plays.accounted {b : Behaviour α μ} (hb : b.Lawful) {w : World} {as : List μ}
    {tr : List (Happening μ)} (h : b.Plays w as tr) :
    ∃ kp, b.get w = some kp ∧ Accounted as tr kp := by
  induction h with
  | start hg hr hi he => exact ⟨_, hg, accounted_start hr hi he⟩
  | arrive m _ hg ho hg' hag ih =>
    obtain ⟨kp₀, hg₀, hacc⟩ := ih
    cases hg.symm.trans hg₀
    exact ⟨_, hg', hacc.arrive ho hag⟩
  | aside _ hg hg' hag ih =>
    obtain ⟨kp₀, hg₀, hacc⟩ := ih
    cases hg.symm.trans hg₀
    exact ⟨_, hg', hacc.aside hag⟩
  | @turn w as tr _ ih =>
    obtain ⟨kp, hg, hacc⟩ := ih
    obtain ⟨kp', hg', hacc'⟩ := hacc.turn hb hg
    exact ⟨kp', b.pollTraced_fst w ▸ hg', hacc'⟩

/-- Setting messages aside during recovery keeps their arrival order: in every life of a lawful
unit, the handler is handed what the stash did not refuse, in order, once recovery is through. -/
theorem stash_keeps_arrival_order {b : Behaviour α μ} (hb : b.Lawful) {w : World} {as : List μ}
    {tr : List (Happening μ)} (h : b.Plays w as tr) :
    ∃ kp Y, b.get w = some kp ∧ OrderedHistory as tr kp Y := by
  obtain ⟨kp, hg, hacc⟩ := h.accounted hb
  obtain ⟨Y, hord⟩ := hacc.spec
  exact ⟨kp, Y, hg, hord⟩

/-- A client unit with room to set one message aside is asked to stop before it starts, and
takes its first turn. -/
theorem client_stop_before_recovery :
    let b := EntityUnit.behaviour 0 .client (Uuid.ofNat 1)
    let kp : Keeper EntityType.client.Rec (EntityMsg .client) :=
      { address := Uuid.ofNat 2, core := Core.new "client-1" {}, stash := Stash.empty (some 1) }
    let w : World := { ids := { millis := 0 }, cells := #[.entity .client (Uuid.ofNat 1) kp] }
    let w₁ := b.put w { kp with inbox := [.stop] }
    b.Lawful ∧ b.Plays (b.poll w₁) [.stop] ([] ++ (b.pollTraced w₁).2) ∧
      ∃ kp Y, b.get (b.poll w₁) = some kp ∧
        OrderedHistory [.stop] ([] ++ (b.pollTraced w₁).2) kp Y := by
  intro b kp w w₁
  have hb : b.Lawful := EntityUnit.lawful 0 .client (Uuid.ofNat 1)
  have hg : b.get w = some kp := rfl
  have hp : b.Plays (b.poll w₁) [.stop] ([] ++ (b.pollTraced w₁).2) :=
    .turn (.arrive EntityMsg.stop (.start hg rfl rfl rfl) hg rfl
      (hb.get_put { kp with inbox := [.stop] } hg) ⟨rfl, rfl, rfl, rfl⟩)
  exact ⟨hb, hp, stash_keeps_arrival_order hb hp⟩

end Life

end Behaviour

end Chronicle
