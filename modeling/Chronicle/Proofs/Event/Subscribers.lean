import Mathlib.Data.List.Nodup
import Chronicle.World.State

/-! Subscriber sets keep one recipient per address through every call. -/
namespace Chronicle

namespace SubscriberSet

variable {ρ α : Type} (address : ρ → α)

def accepted : List ρ → List Bool → List ρ
  | r :: rs, b :: bs => if b then r :: accepted rs bs else accepted rs bs
  | _, _ => []

def Distinct (s : SubscriberSet ρ) : Prop := (s.members.map address).Nodup

theorem accepted_sublist (rs : List ρ) (bs : List Bool) : (accepted rs bs).Sublist rs := by
  induction rs generalizing bs with
  | nil => simp [accepted]
  | cons r rs ih =>
    cases bs with
    | nil => simp [accepted]
    | cons b bs =>
      cases b
      · exact (ih bs).cons r
      · exact (ih bs).cons_cons r

theorem accepted_map (rs : List ρ) (ok : ρ → Bool) : accepted rs (rs.map ok) = rs.filter ok := by
  induction rs with
  | nil => rfl
  | cons r rs ih => cases h : ok r <;> simp [accepted, h, ih]

theorem distinct_empty : Distinct address ({} : SubscriberSet ρ) := List.nodup_nil

theorem Distinct.of_sublist {address : ρ → α} {s t : SubscriberSet ρ} (hd : Distinct address s)
    (h : t.members.Sublist s.members) : Distinct address t :=
  hd.sublist (h.map address)

section Publish

variable {m : Type → Type} [Monad m] [LawfulMonad m]

theorem filterAuxM_eq (f : ρ → m Bool) (l acc : List ρ) :
    List.filterAuxM f l acc = (fun bs => (accepted l bs).reverse ++ acc) <$> l.mapM f := by
  induction l generalizing acc with
  | nil => simp [List.filterAuxM, accepted]
  | cons r rs ih =>
    simp only [List.filterAuxM, List.mapM_cons, ih, map_bind, bind_pure_comp, Functor.map_map]
    congr 1
    funext b
    cases b <;> simp [accepted]

theorem publish_eq (deliver : ρ → m Bool) (s : SubscriberSet ρ) :
    s.publish deliver = (fun bs => ⟨accepted s.members bs⟩) <$> s.members.mapM deliver := by
  simp [publish, List.filterM, filterAuxM_eq]

end Publish

theorem publish_pure (ok : ρ → Bool) (s : SubscriberSet ρ) :
    Id.run (s.publish (fun r => pure (ok r))) = ⟨s.members.filter ok⟩ := by
  rw [publish_eq, List.mapM_pure]
  simp [accepted_map]

variable [DecidableEq α]

/-- A call on a subscriber set: a subscription, an unsubscription, or a publication whose
recipients answer as `ok` says. -/
inductive Call (ρ α : Type) where
  | subscribe (r : ρ)
  | unsubscribe (a : α)
  | publish (ok : ρ → Bool)

def Call.apply : Call ρ α → SubscriberSet ρ → SubscriberSet ρ
  | .subscribe r, s => (s.subscribe address r).1
  | .unsubscribe a, s => (s.unsubscribe address a).1
  | .publish ok, s => Id.run (s.publish (fun r => pure (ok r)))

def Call.run (calls : List (Call ρ α)) (s : SubscriberSet ρ) : SubscriberSet ρ :=
  calls.foldl (fun s c => c.apply address s) s

section Laws

variable {address} {s : SubscriberSet ρ} {r : ρ}

theorem replaceFirst_eq_none_iff {xs : List ρ} :
    replaceFirst address r xs = none ↔ address r ∉ xs.map address := by
  induction xs with
  | nil => simp [replaceFirst]
  | cons x xs ih =>
    unfold replaceFirst
    split
    · next hx => simp [hx]
    · next hx =>
      rw [Option.map_eq_none_iff, ih, List.map_cons, List.mem_cons, not_or]
      exact ⟨fun h => ⟨fun he => hx he.symm, h⟩, fun h => h.2⟩

theorem replaceFirst_of_first {pre post : List ρ} {x : ρ}
    (hpre : ∀ y ∈ pre, address y ≠ address r) (hx : address x = address r) :
    replaceFirst address r (pre ++ x :: post) = some (pre ++ r :: post) := by
  induction pre with
  | nil => simp [replaceFirst, hx]
  | cons y pre ih =>
    rw [List.cons_append, replaceFirst, if_neg (hpre y List.mem_cons_self),
      ih fun z hz => hpre z (List.mem_cons_of_mem _ hz)]
    rfl

theorem subscribe_snd : (s.subscribe address r).2 = true ↔ address r ∉ s.members.map address := by
  rw [← replaceFirst_eq_none_iff]
  unfold subscribe
  split <;> simp_all

theorem subscribe_of_not_mem (h : address r ∉ s.members.map address) :
    (s.subscribe address r).1 = ⟨s.members ++ [r]⟩ := by
  unfold subscribe
  rw [replaceFirst_eq_none_iff.mpr h]

theorem subscribe_of_first {pre post : List ρ} {x : ρ} (hs : s.members = pre ++ x :: post)
    (hpre : ∀ y ∈ pre, address y ≠ address r) (hx : address x = address r) :
    (s.subscribe address r).1 = ⟨pre ++ r :: post⟩ := by
  unfold subscribe
  rw [hs, replaceFirst_of_first hpre hx]

theorem subscribe_of_eq {pre post : List ρ} {x : ρ} (hd : Distinct address s)
    (hs : s.members = pre ++ x :: post) (hx : address x = address r) :
    (s.subscribe address r).1 = ⟨pre ++ r :: post⟩ := by
  unfold Distinct at hd
  rw [hs, List.map_append, List.map_cons, List.nodup_middle, List.nodup_cons] at hd
  -- the members before it have other addresses
  have hpre : ∀ y ∈ pre, address y ≠ address r := fun y hy he =>
    hd.1 (List.mem_append_left _ (hx ▸ he ▸ List.mem_map_of_mem hy))
  exact subscribe_of_first hs hpre hx

theorem unsubscribe_snd {a : α} :
    (s.unsubscribe address a).2 = true ↔ a ∈ s.members.map address := by
  unfold unsubscribe
  simp only [ne_eq, decide_eq_true_eq, List.mem_map]
  rw [← not_iff_not, not_not, not_exists]
  constructor
  · intro h x ⟨hx, hxa⟩
    have := List.length_filter_eq_length_iff.mp h x hx
    simp_all
  · intro h
    exact List.length_filter_eq_length_iff.mpr fun x hx => by simpa using fun hxa => h x ⟨hx, hxa⟩

/-- Unsubscribing an address takes its recipient out and leaves the others in order. -/
theorem unsubscribe_of_eq {pre post : List ρ} {x : ρ} (hd : Distinct address s)
    (hs : s.members = pre ++ x :: post) :
    (s.unsubscribe address (address x)).1 = ⟨pre ++ post⟩ := by
  unfold Distinct at hd
  rw [hs, List.map_append, List.map_cons, List.nodup_middle, List.nodup_cons] at hd
  have hkeep : ∀ l : List ρ, (∀ y ∈ l, address y ∈ (pre ++ post).map address) →
      l.filter (fun y => address y ≠ address x) = l := fun l hl =>
    List.filter_eq_self.mpr fun y hy => by
      simp only [ne_eq, decide_eq_true_eq]
      intro he
      exact hd.1 (by rw [← List.map_append]; exact he ▸ hl y hy)
  unfold unsubscribe
  rw [hs, List.filter_append, List.filter_cons_of_neg (by simp), hkeep pre, hkeep post]
  · intro y hy; exact List.mem_map_of_mem (List.mem_append_right _ hy)
  · intro y hy; exact List.mem_map_of_mem (List.mem_append_left _ hy)

theorem unsubscribe_of_not_mem {a : α} (h : a ∉ s.members.map address) :
    (s.unsubscribe address a).1 = s := by
  unfold unsubscribe
  rw [List.filter_eq_self.mpr fun y hy => by
    simp only [ne_eq, decide_eq_true_eq]
    intro he
    exact h (he ▸ List.mem_map_of_mem hy)]

end Laws

section Distinct

variable {address} {s : SubscriberSet ρ}

/-- Every call keeps the addresses apart. -/
theorem Distinct.apply (hd : Distinct address s) (c : Call ρ α) :
    Distinct address (c.apply address s) := by
  cases c with
  | subscribe r =>
    by_cases h : address r ∈ s.members.map address
    · -- the new recipient takes the place of the one at its address
      obtain ⟨x, hx, hxr⟩ := List.mem_map.mp h
      obtain ⟨pre, post, hs⟩ := List.append_of_mem hx
      have heq := subscribe_of_eq hd hs hxr
      unfold Distinct at hd ⊢
      simp only [Call.apply, heq]
      rw [hs] at hd
      simpa [hxr] using hd
    · simp only [Call.apply, subscribe_of_not_mem h, Distinct, List.map_append, List.map_cons,
        List.map_nil]
      refine List.nodup_append.mpr ⟨hd, List.nodup_singleton _, ?_⟩
      intro y hy z hz hyz
      rw [List.mem_singleton.mp hz] at hyz
      exact h (hyz ▸ hy)
  | unsubscribe a =>
    exact hd.of_sublist List.filter_sublist
  | publish ok =>
    simp only [Call.apply, publish_pure]
    exact hd.of_sublist List.filter_sublist

theorem Distinct.run (calls : List (Call ρ α)) (hd : Distinct address s) :
    Distinct address (Call.run address calls s) := by
  induction calls generalizing s with
  | nil => exact hd
  | cons c calls ih => exact ih (hd.apply c)

end Distinct

end SubscriberSet

namespace World

def offerTo (e : Event) (s : Sink) : StateM World Bool := fun w => w.offer s e

theorem run_mapM_offerTo_cons (e : Event) (r : Sink) (rs : List Sink) (w : World) :
    ((r :: rs).mapM (offerTo e)).run w =
      ((w.offer r e).1 :: ((rs.mapM (offerTo e)).run (w.offer r e).2).1,
        ((rs.mapM (offerTo e)).run (w.offer r e).2).2) := by
  rw [List.mapM_cons]
  rfl

/-- The fold behind publishing offers the event to each sink in turn and keeps, after those
kept before, the sinks that took it. -/
theorem foldl_offer (e : Event) (l kept : List Sink) (w : World) :
    l.foldl (fun (acc : List Sink × World) s =>
      let (ok, w2) := acc.2.offer s e
      (if ok then acc.1 ++ [s] else acc.1, w2)) (kept, w) =
      (kept ++ SubscriberSet.accepted l ((l.mapM (offerTo e)).run w).1,
        ((l.mapM (offerTo e)).run w).2) := by
  induction l generalizing kept w with
  | nil =>
    simp only [List.foldl_nil, List.mapM_nil, SubscriberSet.accepted, List.append_nil]
    rfl
  | cons r rs ih =>
    simp only [List.foldl_cons, run_mapM_offerTo_cons]
    cases h : w.offer r e with
    | mk ok w1 =>
      simp only [ih]
      cases ok <;> simp [SubscriberSet.accepted]

theorem publish_eq_publish (w : World) (subs : SubscriberSet Sink) (e : Event) :
    w.publish subs e = (subs.publish (offerTo e)).run w := by
  rw [SubscriberSet.publish_eq]
  simp only [World.publish, foldl_offer, List.nil_append]
  rfl

end World

/-- The laws of subscriber sets: no call puts two recipients at one address, and subscribing,
unsubscribing and publishing answer and keep the members as the world relies on. -/
theorem subscriber_set_laws {ρ α : Type} [DecidableEq α] (address : ρ → α) :
    (∀ calls : List (SubscriberSet.Call ρ α),
      SubscriberSet.Distinct address (SubscriberSet.Call.run address calls {})) ∧
    (∀ (s : SubscriberSet ρ) r, SubscriberSet.Distinct address s →
      ((s.subscribe address r).2 = true ↔ address r ∉ s.members.map address) ∧
      (address r ∉ s.members.map address → (s.subscribe address r).1 = ⟨s.members ++ [r]⟩) ∧
      ∀ pre x post, s.members = pre ++ x :: post → address x = address r →
        (s.subscribe address r).1 = ⟨pre ++ r :: post⟩) ∧
    (∀ (s : SubscriberSet ρ) a, SubscriberSet.Distinct address s →
      ((s.unsubscribe address a).2 = true ↔ a ∈ s.members.map address) ∧
      (a ∉ s.members.map address → (s.unsubscribe address a).1 = s) ∧
      ∀ pre x post, s.members = pre ++ x :: post → address x = a →
        (s.unsubscribe address a).1 = ⟨pre ++ post⟩) ∧
    (∀ (m : Type → Type) [Monad m] [LawfulMonad m] (deliver : ρ → m Bool) (s : SubscriberSet ρ),
      s.publish deliver =
        (fun bs => ⟨SubscriberSet.accepted s.members bs⟩) <$> s.members.mapM deliver) ∧
    (∀ (w : World) (subs : SubscriberSet Sink) (e : Event),
      w.publish subs e = (subs.publish (World.offerTo e)).run w) := by
  refine ⟨fun calls => SubscriberSet.distinct_empty address |>.run calls,
    fun s r hd => ⟨SubscriberSet.subscribe_snd, SubscriberSet.subscribe_of_not_mem,
      fun _ _ _ hs hx => SubscriberSet.subscribe_of_eq hd hs hx⟩,
    fun s a hd => ⟨SubscriberSet.unsubscribe_snd, SubscriberSet.unsubscribe_of_not_mem, ?_⟩,
    fun _ _ _ deliver s => SubscriberSet.publish_eq deliver s, World.publish_eq_publish⟩
  rintro pre x post hs rfl
  exact SubscriberSet.unsubscribe_of_eq hd hs

/-- A second subscription at the address `a` puts the new recipient in the place of the first,
ahead of `b`. -/
theorem resubscribe_in_place :
    let s : SubscriberSet (String × Nat) := ⟨[("a", 1), ("b", 2)]⟩
    SubscriberSet.Distinct Prod.fst s ∧ s.members = [] ++ ("a", 1) :: [("b", 2)] ∧
      (s.subscribe Prod.fst ("a", 3)).1 = ⟨[] ++ ("a", 3) :: [("b", 2)]⟩ := by
  intro s
  have hd : SubscriberSet.Distinct Prod.fst s := by
    unfold SubscriberSet.Distinct
    decide
  exact ⟨hd, rfl,
    ((subscriber_set_laws Prod.fst).2.1 s ("a", 3) hd).2.2 [] ("a", 1) [("b", 2)] rfl rfl⟩

end Chronicle
