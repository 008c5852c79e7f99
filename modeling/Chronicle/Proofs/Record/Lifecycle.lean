import Mathlib.Data.List.TakeWhile
import Mathlib.Logic.Relation
import Chronicle.Client.State
import Chronicle.User.State

/-! The life of a record, as a chain of five kinds of moves. -/
namespace Chronicle

/-- Trimming leaves nothing exactly when every character is blank. -/
theorem Blank.trim_eq_empty_iff (s : String) : Blank.trim s = "" ↔ Blank.isBlankText s = true := by
  -- trimming the end cannot empty what trimming the start left: its first character is not blank
  have hstart : ∀ l : List Char, (∀ x ∈ l.dropWhile isBlank, isBlank x) →
      l.dropWhile isBlank = [] := by
    intro l h
    cases hd : l.dropWhile isBlank with
    | nil => rfl
    | cons a r =>
      have ha := List.head_dropWhile_not isBlank (l := l) (by simp [hd])
      simp only [hd, List.head_cons] at ha
      simp [hd, ha] at h
  simp only [Blank.trim, Blank.isBlankText, String.ofList_eq_empty_iff, List.reverse_eq_nil_iff,
    List.dropWhile_eq_nil_iff, List.mem_reverse, List.all_eq_true]
  exact ⟨fun h => List.dropWhile_eq_nil_iff.mp (hstart _ h),
    fun h x hx => h x (List.dropWhile_subset _ hx)⟩

theorem Except.bind_eq_ok {ε α β : Type} {x : Except ε α} {f : α → Except ε β} {b : β} :
    x >>= f = .ok b ↔ ∃ a, x = .ok a ∧ f a = .ok b := by
  cases x <;> simp [bind, Except.bind]

theorem Except.map_eq_ok {ε α β : Type} {x : Except ε α} {f : α → β} {b : β} :
    f <$> x = .ok b ↔ ∃ a, x = .ok a ∧ f a = b := by
  cases x <;> simp [Functor.map, Except.map]

@[simp] theorem Except.throw_ne_ok {ε α : Type} (e : ε) (b : α) :
    (throw e : Except ε α) ≠ .ok b := by
  simp [throw, throwThe, MonadExceptOf.throw]

@[simp] theorem Except.pure_eq_ok {ε α : Type} (a b : α) :
    (pure a : Except ε α) = .ok b ↔ a = b := by
  simp [pure, Except.pure]

namespace Record

variable {σ : Type} [Record σ]

theorem ensureName_ok {p : σ} {u : Unit} :
    ensureName p = .ok u ↔ Blank.isBlankText (Record.displayName p) = false := by
  unfold ensureName; split <;> simp_all

theorem requireTarget_ok {c : Change σ} {i : Uuid} : requireTarget c = .ok i ↔ c.id = some i := by
  unfold requireTarget; split <;> simp_all

theorem ensureExists_ok {s : σ} {t : Uuid} {u : Unit} :
    ensureExists s t = .ok u ↔ Record.id s = some t := by
  unfold ensureExists
  split
  · simp_all
  · split <;> simp_all

theorem checkNameAndTarget_ok {c : Change σ} {i : Uuid} :
    checkNameAndTarget c = .ok i ↔
      c.id = some i ∧ Blank.isBlankText (Record.displayName c.state) = false := by
  unfold checkNameAndTarget
  split
  · simp [Except.bind_eq_ok, ensureName_ok, requireTarget_ok, and_comm]
  · simp only [Except.bind_eq_ok, ensureName_ok, requireTarget_ok, Except.pure_eq_ok]
    constructor
    · rintro ⟨a, ha, -, hn, rfl⟩
      exact ⟨ha, hn⟩
    · rintro ⟨ha, hn⟩
      exact ⟨i, ha, (), hn, rfl⟩

/-- How an accepted command moves a record, indexed by the command's kind and target. -/
inductive Moves : CommandType → Option Uuid → σ → σ → Prop
  /-- An insert, or an upsert of a record without an identity, creates it under the target from
  a named payload. -/
  | create {t : CommandType} {s : σ} (i : Uuid) (now : Instant) (p : σ) :
      t = .insert ∨ t = .upsert → Record.id s = none →
      Blank.isBlankText (Record.displayName p) = false →
      Moves t (some i) s (Record.inserted i now p)
  /-- An update of the active record under the target takes the fields a caller may change
  from a named payload. -/
  | update {s : σ} (i : Uuid) (p : σ) : Record.id s = some i → Record.isActive s = true →
      Blank.isBlankText (Record.displayName p) = false →
      Moves .update (some i) s (Record.updateFrom s p)
  /-- An upsert of the record under the target, once it exists, is an update that does not
  reactivate it. -/
  | upsert {s : σ} (i : Uuid) (p : σ) : Record.id s = some i →
      (Record.isActive s = true ∨ Record.isActive p = false) →
      Blank.isBlankText (Record.displayName p) = false →
      Moves .upsert (some i) s (Record.updateFrom s p)
  /-- A delete deactivates the active record under the target. -/
  | delete {s : σ} (i : Uuid) : Record.id s = some i → Record.isActive s = true →
      Moves .delete (some i) s (Record.setActive s false)
  /-- An undelete activates the inactive record under the target. -/
  | undelete {s : σ} (i : Uuid) : Record.id s = some i → Record.isActive s = false →
      Moves .undelete (some i) s (Record.setActive s true)

/-- Every entry a record accepts moves it in one of the five ways. -/
theorem decide_moves {now : Instant} {s : σ} {c e : Command σ} (h : decide now s c = .ok e) :
    Moves c.commandType c.target s (evolve s e) := by
  cases c with
  | insert ch =>
    cases hs : Record.id s with
    | some x => simp [decide, hs, Except.bind_eq_ok] at h
    | none =>
      simp only [decide, hs, Except.bind_eq_ok, checkNameAndTarget_ok, Except.pure_eq_ok] at h
      obtain ⟨i, ⟨hid, hname⟩, rfl⟩ := h
      show Moves .insert ch.id s _
      rw [hid]
      exact .create i now ch.state (.inl rfl) hs hname
  | update ch =>
    cases ha : Record.isActive s <;>
      simp [decide, ha, Except.bind_eq_ok, Except.map_eq_ok, requireTarget_ok, ensureExists_ok,
        ensureName_ok] at h
    obtain ⟨i, hid, hs, hname, rfl⟩ := h
    show Moves .update ch.id s _
    rw [hid]
    exact .update i ch.state hs ha hname
  | upsert ch =>
    simp only [decide, Except.bind_eq_ok, checkNameAndTarget_ok] at h
    obtain ⟨i, ⟨hid, hname⟩, h⟩ := h
    show Moves .upsert ch.id s _
    rw [hid]
    cases hs : Record.id s with
    | none =>
      simp only [hs, Except.pure_eq_ok] at h
      subst h
      simp only [evolve, hs, Option.isNone_none, if_true]
      exact .create i now ch.state (.inr rfl) hs hname
    | some x =>
      -- only reactivating a deleted record through the upsert is refused
      cases ha : Record.isActive s <;> cases hp : Record.isActive ch.state <;>
        simp [hs, ha, hp, Except.bind_eq_ok, Except.map_eq_ok, ensureExists_ok] at h
      all_goals
        obtain ⟨rfl, rfl⟩ := h
        simp only [evolve, hs, Option.isNone_some, Bool.false_eq_true, if_false]
        exact .upsert x ch.state hs (by simp [ha, hp]) hname
  | delete l =>
    cases ha : Record.isActive s <;>
      simp [decide, ha, Except.bind_eq_ok, Except.map_eq_ok, ensureExists_ok] at h
    obtain ⟨hs, rfl⟩ := h
    exact .delete l.id hs ha
  | undelete l =>
    cases ha : Record.isActive s <;>
      simp [decide, ha, Except.bind_eq_ok, Except.map_eq_ok, ensureExists_ok] at h
    obtain ⟨hs, rfl⟩ := h
    exact .undelete l.id hs ha

def Step (s : σ) (c : Command σ) (t : σ) : Prop :=
  ∃ now e, decide now s c = .ok e ∧ evolve s e = t

def Leads : σ → σ → Prop := Relation.ReflTransGen (fun s t => ∃ c, Step s c t)

def Reachable (s : σ) : Prop := Leads Record.empty s

/-- The record `s` takes the commands `cs` one after another and ends as `r`: each is accepted
by the record the ones before it left. -/
inductive Takes : σ → List (Command σ) → σ → Prop
  | nil (s : σ) : Takes s [] s
  | cons {s t r : σ} {c : Command σ} {cs : List (Command σ)} :
      Step s c t → Takes t cs r → Takes s (c :: cs) r

def Revises (s t : σ) : Prop := ∃ p b, t = Record.setActive (Record.updateFrom s p) b

theorem Step.moves {s t : σ} {c : Command σ} (h : Step s c t) :
    Moves c.commandType c.target s t := by
  obtain ⟨now, e, he, rfl⟩ := h
  exact decide_moves he

theorem Moves.eq_inserted {k : CommandType} {i : Option Uuid} {s t : σ} (h : Moves k i s t)
    (hnone : Record.id s = none) : ∃ i now p, t = Record.inserted i now p := by
  cases h with
  | create i now p _ _ _ => exact ⟨i, now, p, rfl⟩
  | update _ _ hid _ _ | upsert _ _ hid _ _ | delete _ hid _ | undelete _ hid _ =>
    simp [hid] at hnone

/-- The entry a command is decided to is of the command's kind. -/
theorem commandType_of_decide {now : Instant} {s : σ} {c e : Command σ}
    (h : decide now s c = .ok e) : e.commandType = c.commandType := by
  cases c with
  | insert ch =>
    cases hs : Record.id s with
    | some x => simp [decide, hs, Except.bind_eq_ok] at h
    | none =>
      simp only [decide, hs, Except.bind_eq_ok, Except.pure_eq_ok] at h
      obtain ⟨i, -, rfl⟩ := h
      rfl
  | update ch =>
    cases ha : Record.isActive s <;>
      simp [decide, ha, Except.bind_eq_ok, Except.map_eq_ok] at h
    obtain ⟨-, -, -, -, rfl⟩ := h
    rfl
  | upsert ch =>
    simp only [decide, Except.bind_eq_ok, checkNameAndTarget_ok] at h
    obtain ⟨i, -, h⟩ := h
    cases hs : Record.id s with
    | none =>
      simp only [hs, Except.pure_eq_ok] at h
      subst h
      rfl
    | some x =>
      -- an upsert of a record that exists is logged as it came
      cases ha : Record.isActive s <;> cases hp : Record.isActive ch.state <;>
        simp [hs, ha, hp, Except.bind_eq_ok, Except.map_eq_ok] at h
      all_goals
        obtain ⟨-, rfl⟩ := h
        rfl
  | delete l | undelete l =>
    cases ha : Record.isActive s <;>
      simp [decide, ha, Except.bind_eq_ok, Except.map_eq_ok] at h
    obtain ⟨-, rfl⟩ := h
    rfl

theorem Takes.snoc {s t r : σ} {cs : List (Command σ)} {c : Command σ} (h : Takes s cs t)
    (hstep : Step t c r) : Takes s (cs ++ [c]) r := by
  induction h with
  | nil => exact .cons hstep (.nil r)
  | cons hst _ ih => exact .cons hst (ih hstep)

/-- What the rules of a record's life need of a record kind: the identity, the active flag and
the name change only as the operations that set them say, a later update or flag overrides an
earlier one, and an update or a flag with a record's own values changes nothing. -/
class Lawful (σ : Type) [Record σ] : Prop where
  id_empty : Record.id (Record.empty : σ) = none
  id_inserted (i : Uuid) (now : Instant) (p : σ) : Record.id (Record.inserted i now p) = some i
  isActive_inserted (i : Uuid) (now : Instant) (p : σ) :
    Record.isActive (Record.inserted i now p) = true
  displayName_inserted (i : Uuid) (now : Instant) (p : σ) :
    Record.displayName (Record.inserted i now p) = Record.displayName p
  id_updateFrom (s p : σ) : Record.id (Record.updateFrom s p) = Record.id s
  isActive_updateFrom (s p : σ) : Record.isActive (Record.updateFrom s p) = Record.isActive s
  displayName_updateFrom (s p : σ) :
    Record.displayName (Record.updateFrom s p) = Record.displayName p
  id_setActive (s : σ) (b : Bool) : Record.id (Record.setActive s b) = Record.id s
  isActive_setActive (s : σ) (b : Bool) : Record.isActive (Record.setActive s b) = b
  displayName_setActive (s : σ) (b : Bool) :
    Record.displayName (Record.setActive s b) = Record.displayName s
  updateFrom_updateFrom (s p q : σ) :
    Record.updateFrom (Record.updateFrom s p) q = Record.updateFrom s q
  updateFrom_setActive (s p : σ) (b : Bool) :
    Record.updateFrom (Record.setActive s b) p = Record.setActive (Record.updateFrom s p) b
  setActive_setActive (s : σ) (b c : Bool) :
    Record.setActive (Record.setActive s b) c = Record.setActive s c
  updateFrom_self (s : σ) : Record.updateFrom s s = s
  setActive_isActive (s : σ) : Record.setActive s (Record.isActive s) = s

attribute [simp] Lawful.id_empty Lawful.id_inserted Lawful.isActive_inserted
  Lawful.displayName_inserted Lawful.id_updateFrom Lawful.isActive_updateFrom
  Lawful.displayName_updateFrom Lawful.id_setActive Lawful.isActive_setActive
  Lawful.displayName_setActive

/-- What holds of every reachable record: one without an identity is the empty record, and one
with an identity has a name. -/
structure Sound (s : σ) : Prop where
  eq_empty : Record.id s = none → s = Record.empty
  named : Record.id s ≠ none → Blank.isBlankText (Record.displayName s) = false

section Lawful

variable [Lawful σ] {k : CommandType} {i : Option Uuid} {r s t : σ} {x : Uuid}

theorem sound_empty : Sound (Record.empty : σ) :=
  ⟨fun _ => rfl, fun h => absurd Lawful.id_empty h⟩

theorem Moves.sound (hs : Sound s) (h : Moves k i s t) : Sound t := by
  cases h with
  | create i now p _ _ hp => exact ⟨fun h => by simp at h, fun _ => by simpa using hp⟩
  | update _ p hid _ hp | upsert _ p hid _ hp =>
    exact ⟨fun h => by simp [hid] at h, fun _ => by simpa using hp⟩
  | delete _ hid _ | undelete _ hid _ =>
    exact ⟨fun h => by simp [hid] at h, fun _ => by simpa using hs.named (by simp [hid])⟩

theorem Moves.id_eq (h : Moves k i s t) : Record.id t = i := by
  cases h with
  | create _ _ _ _ _ _ => simp
  | update _ _ hid _ _ | upsert _ _ hid _ _ | delete _ hid _ | undelete _ hid _ => simp [hid]

theorem id_evolve_of_decide {now : Instant} {c e : Command σ} (h : decide now s c = .ok e) :
    Record.id (evolve s e) = c.target :=
  (decide_moves h).id_eq

theorem Reachable.sound (h : Reachable s) : Sound s := by
  induction h with
  | refl => exact sound_empty
  | tail _ hstep ih =>
    obtain ⟨c, hc⟩ := hstep
    exact hc.moves.sound ih

theorem Revises.refl (s : σ) : Revises s s :=
  ⟨s, Record.isActive s, by rw [Lawful.updateFrom_self, Lawful.setActive_isActive]⟩

theorem Revises.trans (hrs : Revises r s) (hst : Revises s t) : Revises r t := by
  obtain ⟨p, b, rfl⟩ := hrs
  obtain ⟨q, c, rfl⟩ := hst
  exact ⟨q, c, by
    rw [Lawful.updateFrom_setActive, Lawful.updateFrom_updateFrom, Lawful.setActive_setActive]⟩

theorem Revises.id_eq (h : Revises s t) : Record.id t = Record.id s := by
  obtain ⟨p, b, rfl⟩ := h
  simp

theorem Moves.revises (h : Moves k i s t) (hid : Record.id s ≠ none) : Revises s t := by
  cases h with
  | create _ _ _ _ hnone _ => exact absurd hnone hid
  | update _ p _ _ _ | upsert _ p _ _ _ =>
    exact ⟨p, Record.isActive s, by rw [← Lawful.isActive_updateFrom s p, Lawful.setActive_isActive]⟩
  | delete _ _ _ => exact ⟨s, false, by rw [Lawful.updateFrom_self]⟩
  | undelete _ _ _ => exact ⟨s, true, by rw [Lawful.updateFrom_self]⟩

theorem Leads.revises (hid : Record.id s ≠ none) (h : Leads s t) : Revises s t := by
  induction h with
  | refl => exact Revises.refl s
  | tail _ hstep ih =>
    obtain ⟨c, hc⟩ := hstep
    exact ih.trans (hc.moves.revises (by rw [ih.id_eq]; exact hid))

/-- A reachable record with an identity revises the record an insert made under that
identity. -/
theorem Reachable.revises_inserted (h : Reachable t) (hid : Record.id t = some x) :
    ∃ now p, Revises (Record.inserted x now p) t := by
  induction h generalizing x with
  | refl => simp at hid
  | @tail u t _ hstep ih =>
    obtain ⟨c, hc⟩ := hstep
    cases hu : Record.id u with
    | none =>
      -- the last command created the record
      obtain ⟨i, now, p, rfl⟩ := hc.moves.eq_inserted hu
      obtain rfl : i = x := by simpa using hid
      exact ⟨now, p, .refl _⟩
    | some y =>
      have hrev := hc.moves.revises (by simp [hu])
      obtain ⟨now, p, hp⟩ := ih (x := x) (by rw [← hrev.id_eq, hid])
      exact ⟨now, p, hp.trans hrev⟩

theorem Moves.activated (h : Moves k i s t) (hs : Record.isActive s = false)
    (ht : Record.isActive t = true) :
    ((k = .insert ∨ k = .upsert) ∧ Record.id s = none) ∨ k = .undelete := by
  cases h with
  | create _ _ _ hk hnone _ => exact .inl ⟨hk, hnone⟩
  | update _ _ _ _ _ | upsert _ _ _ _ _ => simp_all
  | delete _ _ _ => simp at ht
  | undelete _ _ _ => exact .inr rfl

theorem Moves.deactivated (h : Moves k i s t) (hs : Record.isActive s = true)
    (ht : Record.isActive t = false) : k = .delete := by
  cases h with
  | create _ _ _ _ _ _ | undelete _ _ _ => simp at ht
  | update _ _ _ _ _ | upsert _ _ _ _ _ => simp_all
  | delete _ _ _ => rfl

theorem Moves.isActive_kept (h : Moves k i s t)
    (hk : k = .update ∨ (k = .upsert ∧ Record.id s ≠ none)) :
    Record.isActive t = Record.isActive s := by
  cases h with
  | create _ _ _ hk' hnone _ =>
    rcases hk with rfl | ⟨rfl, hid⟩
    · simp at hk'
    · exact absurd hnone hid
  | update _ _ _ _ _ | upsert _ _ _ _ _ => simp
  | delete _ _ _ | undelete _ _ _ => simp at hk

theorem Moves.insert_creates (h : Moves .insert i s t) : Record.id s = none ∧ Record.id t ≠ none := by
  cases h with
  | create i now p _ hnone _ => exact ⟨hnone, by simp⟩

theorem Takes.no_insert {cs : List (Command σ)} (h : Takes s cs t) :
    Record.id s ≠ none → ∀ c ∈ cs, c.commandType ≠ .insert := by
  induction h with
  | nil => exact fun _ c hc => absurd hc List.not_mem_nil
  | @cons s t r c cs hstep _ ih =>
    intro hid c' hc' hins
    rcases List.mem_cons.mp hc' with rfl | hc'
    · -- the record would have had no identity
      have hmove := hstep.moves
      rw [hins] at hmove
      exact hid hmove.insert_creates.1
    · -- the record keeps its identity through the step
      have hid' : Record.id t ≠ none := by rw [(hstep.moves.revises hid).id_eq]; exact hid
      exact ih hid' c' hc' hins

theorem Takes.inserts_le_one {cs : List (Command σ)} (h : Takes s cs t) :
    (cs.filter (·.commandType = .insert)).length ≤ 1 := by
  induction h with
  | nil => simp
  | @cons s t r c cs hstep hrest ih =>
    by_cases hins : c.commandType = .insert
    · have hmove := hstep.moves
      rw [hins] at hmove
      -- after the insert the record exists, and takes no other
      have hnone : cs.filter (·.commandType = .insert) = [] :=
        List.filter_eq_nil_iff.mpr fun c' hc' => by
          simpa using hrest.no_insert hmove.insert_creates.2 c' hc'
      simp [hins, hnone]
    · simp [hins, ih]

end Lawful

/-- The rules of a record's life. -/
structure Lifecycle (σ : Type) [Record σ] : Prop where
  /-- A reachable record without an identity is the empty record. -/
  eq_empty : ∀ s : σ, Reachable s → Record.id s = none → s = Record.empty
  /-- Once a record has an identity it keeps it, and every record it leads to agrees with it
  but in the fields an update copies and the active flag. -/
  keeps : ∀ (s t : σ) x, Record.id s = some x → Leads s t → Record.id t = some x ∧ Revises s t
  /-- A reachable record with an identity has a name that trimming leaves. -/
  named : ∀ s : σ, Reachable s → Record.id s ≠ none → Blank.trim (Record.displayName s) ≠ ""
  /-- Only the command that creates the record, or an undelete of an inactive record, turns
  the active flag on. -/
  activated : ∀ (s t : σ) c, Step s c t → Record.isActive s = false → Record.isActive t = true →
    ((c.commandType = .insert ∨ c.commandType = .upsert) ∧ Record.id s = none) ∨
      c.commandType = .undelete
  /-- Only a delete of an active record turns the active flag off. -/
  deactivated : ∀ (s t : σ) c, Step s c t → Record.isActive s = true →
    Record.isActive t = false → c.commandType = .delete
  /-- An update, and an upsert of a record that exists, keep the active flag. -/
  isActive_kept : ∀ (s t : σ) c, Step s c t →
    (c.commandType = .update ∨ (c.commandType = .upsert ∧ Record.id s ≠ none)) →
    Record.isActive t = Record.isActive s

theorem lifecycle [Lawful σ] : Lifecycle σ where
  eq_empty _ hs := hs.sound.eq_empty
  keeps _ _ _ hid hst :=
    have hrev := hst.revises (by simp [hid])
    ⟨hrev.id_eq.trans hid, hrev⟩
  named _ hs hid := by
    rw [Ne, Blank.trim_eq_empty_iff, hs.sound.named hid]
    simp
  activated _ _ _ hst := hst.moves.activated
  deactivated _ _ _ hst := hst.moves.deactivated
  isActive_kept _ _ _ hst := hst.moves.isActive_kept

end Record

instance : Record.Lawful ClientState where
  id_empty := rfl
  id_inserted _ _ _ := rfl
  isActive_inserted _ _ _ := rfl
  displayName_inserted _ _ _ := rfl
  id_updateFrom _ _ := rfl
  isActive_updateFrom _ _ := rfl
  displayName_updateFrom _ _ := rfl
  id_setActive _ _ := rfl
  isActive_setActive _ _ := rfl
  displayName_setActive _ _ := rfl
  updateFrom_updateFrom _ _ _ := rfl
  updateFrom_setActive _ _ _ := rfl
  setActive_setActive _ _ _ := rfl
  updateFrom_self _ := rfl
  setActive_isActive _ := rfl

instance : Record.Lawful UserState where
  id_empty := rfl
  id_inserted _ _ _ := rfl
  isActive_inserted _ _ _ := rfl
  displayName_inserted _ _ _ := rfl
  id_updateFrom _ _ := rfl
  isActive_updateFrom _ _ := rfl
  displayName_updateFrom _ _ := rfl
  id_setActive _ _ := rfl
  isActive_setActive _ _ := rfl
  displayName_setActive _ _ := rfl
  updateFrom_updateFrom _ _ _ := rfl
  updateFrom_setActive _ _ _ := rfl
  setActive_setActive _ _ _ := rfl
  updateFrom_self _ := rfl
  setActive_isActive _ := rfl

theorem ClientState.addedOn_isSome {s : ClientState} (h : Record.Reachable s) (hid : s.id ≠ none) :
    s.addedOn.isSome := by
  obtain ⟨x, hx⟩ := Option.ne_none_iff_exists'.mp hid
  obtain ⟨now, p, q, b, rfl⟩ := h.revises_inserted hx
  rfl

theorem UserState.addedOn_isSome {s : UserState} (h : Record.Reachable s) (hid : s.id ≠ none) :
    s.addedOn.isSome := by
  obtain ⟨x, hx⟩ := Option.ne_none_iff_exists'.mp hid
  obtain ⟨now, p, q, b, rfl⟩ := h.revises_inserted hx
  rfl

/-- Client and user records keep the rules of a record's life, and one with an identity has
the date it was added. -/
theorem records_keep_lifecycle :
    Record.Lifecycle ClientState ∧ Record.Lifecycle UserState ∧
    (∀ s : ClientState, Record.Reachable s → s.id ≠ none → s.addedOn.isSome) ∧
    (∀ s : UserState, Record.Reachable s → s.id ≠ none → s.addedOn.isSome) :=
  ⟨Record.lifecycle, Record.lifecycle, fun _ h hid => ClientState.addedOn_isSome h hid,
    fun _ h hid => UserState.addedOn_isSome h hid⟩

end Chronicle
