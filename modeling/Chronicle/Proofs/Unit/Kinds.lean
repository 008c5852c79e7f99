import Mathlib
import Chronicle.Proofs.Unit.Replay

/-! Client records, user records and listings are durable. -/
namespace Chronicle

theorem Uuid.lt_of_not_lt_of_ne {a b : Uuid} (hlt : ¬ a < b) (hne : a ≠ b) : b < a := by
  obtain ⟨av, ha⟩ := a
  obtain ⟨bv, hb⟩ := b
  have hv : av ≠ bv := fun h => hne (by subst h; rfl)
  change ¬ av < bv at hlt
  change bv < av
  omega

namespace Keyed

variable {α : Type}

/-- An entry of a keyed list after a store is the stored one or was there before. -/
theorem mem_insert {k : Uuid} {v : α} {xs : List (Uuid × α)} {e : Uuid × α}
    (h : e ∈ insert k v xs) : e = (k, v) ∨ e ∈ xs := by
  induction xs with
  | nil => simpa [insert] using h
  | cons x xs ih =>
    obtain ⟨k2, v2⟩ := x
    unfold insert at h
    split_ifs at h
    · rcases List.mem_cons.mp h with rfl | h
      · exact Or.inl rfl
      · exact Or.inr h
    · rcases List.mem_cons.mp h with rfl | h
      · exact Or.inl rfl
      · exact Or.inr (List.mem_cons_of_mem _ h)
    · rcases List.mem_cons.mp h with rfl | h
      · exact Or.inr List.mem_cons_self
      · exact (ih h).imp_right (List.mem_cons_of_mem _)

/-- Storing a value keeps a keyed list in key order. -/
theorem sorted_insert {k : Uuid} {v : α} {xs : List (Uuid × α)} (h : Sorted xs) :
    Sorted (insert k v xs) := by
  induction xs with
  | nil => simp [insert, Sorted]
  | cons x xs ih =>
    obtain ⟨k2, v2⟩ := x
    unfold Sorted at h ih ⊢
    obtain ⟨hhead, htail⟩ := List.pairwise_cons.mp h
    unfold insert
    by_cases hlt : k < k2
    · -- the new key goes in front of a larger key, so it is below every key of the list
      rw [if_pos hlt]
      refine List.pairwise_cons.mpr ⟨fun e he => ?_, h⟩
      rcases List.mem_cons.mp he with rfl | he
      · exact hlt
      · have h2 : k2 < e.1 := hhead e he
        change k.val < e.1.val
        change k.val < k2.val at hlt
        change k2.val < e.1.val at h2
        omega
    · by_cases heq : k = k2
      · rw [if_neg hlt, if_pos heq]
        subst heq
        exact List.pairwise_cons.mpr ⟨hhead, htail⟩
      · rw [if_neg hlt, if_neg heq]
        have hgt : k2 < k := Uuid.lt_of_not_lt_of_ne hlt heq
        refine List.pairwise_cons.mpr ⟨fun e he => ?_, ih htail⟩
        rcases mem_insert he with rfl | he
        · exact hgt
        · exact hhead e he

theorem get?_insert_ne {xs : List (Uuid × α)} {k x : Uuid} (v : α) (h : x ≠ k) :
    get? (insert k v xs) x = get? xs x := by
  induction xs with
  | nil => simp [insert, get?, Ne.symm h]
  | cons e rest ih =>
    obtain ⟨k₂, v₂⟩ := e
    unfold insert
    split_ifs with hlt heq
    · simp [get?, List.find?_cons, Ne.symm h]
    · subst heq
      simp [get?, Ne.symm h]
    · by_cases hx : k₂ = x
      · simp [get?, hx]
      · simpa [get?, List.find?_cons, hx] using ih

theorem sorted_modify {k : Uuid} {f : α → α} {xs : List (Uuid × α)} (h : Sorted xs) :
    Sorted (modify k f xs) := by
  have hfst : ∀ e : Uuid × α, (if e.1 = k then (e.1, f e.2) else e).1 = e.1 := fun e => by
    split_ifs <;> rfl
  unfold Sorted at h ⊢
  unfold modify
  rw [List.pairwise_map]
  simpa only [hfst] using h

end Keyed

namespace Record

variable {σ : Type} [Record σ]

theorem fits_evolve {fits : σ → Prop}
    (hupdate : ∀ {s p : σ}, fits s → fits p → fits (Record.updateFrom s p))
    (hactive : ∀ {s : σ} (b : Bool), fits s → fits (Record.setActive s b))
    {s : σ} {k : Command σ} (hs : fits s) (hk : k.Fits fits) : fits (evolve s k) := by
  cases k with
  | insert c => exact hk
  | update c => exact hupdate hs hk
  | upsert c =>
    show fits (if (Record.id s).isNone then c.state else Record.updateFrom s c.state)
    split
    · exact hk
    · exact hupdate hs hk
  | delete l => exact hactive false hs
  | undelete l => exact hactive true hs

/-- A record kind is durable over the records that fit, when the empty record fits, updates
and flips of the active flag keep records fitting, and records that fit read back. -/
def durable (fits : σ → Prop) (hempty : fits Record.empty)
    (hupdate : ∀ {s p : σ}, fits s → fits p → fits (Record.updateFrom s p))
    (hactive : ∀ {s : σ} (b : Bool), fits s → fits (Record.setActive s b))
    (hread : ∀ {s : σ} (o : Origin), fits s → Record.read o (Record.toJson s) = .ok s) :
    Durable σ (Command σ) where
  fits := fits
  entryFits := Command.Fits fits
  fits_empty := hempty
  fits_apply hs hk := fits_evolve hupdate hactive hs hk
  read_toJson hs := by
    change (Record.read .document (Record.toJson _)).toOption = _
    rw [hread .document hs]
    rfl
  classOf_toJson k := k.classOf_toJson
  cls_not_mem_settings k := k.cls_not_mem_settings
  decodeEntry_toJson hk := (Command.decodeEntry_toJson (fun _ hs => hread .buffered hs) hk).1

end Record

namespace ClientState

theorem fits_updateFrom {s p : ClientState} (hs : s.Fits) (hp : p.Fits) : (s.updateFrom p).Fits :=
  ⟨hs.addedOn, hs.fiscalYear, hs.projectCount, hp.engagements⟩

theorem fits_setActive {s : ClientState} (b : Bool) (hs : s.Fits) :
    ({ s with isActive := b } : ClientState).Fits :=
  ⟨hs.addedOn, hs.fiscalYear, hs.projectCount, hs.engagements⟩

def durable : Durable ClientState (Command ClientState) :=
  Record.durable Fits ⟨by simp [Record.empty], by simp [Record.empty], by simp [Record.empty],
    by simp [Record.empty]⟩ fits_updateFrom fits_setActive (fun o hs => read_record hs o)

end ClientState

namespace UserState

theorem fits_updateFrom {s p : UserState} (hs : s.Fits) (hp : p.Fits) : (s.updateFrom p).Fits :=
  ⟨hs.addedOn, hp.lastLoggedOn, hp.projectCount⟩

theorem fits_setActive {s : UserState} (b : Bool) (hs : s.Fits) :
    ({ s with isActive := b } : UserState).Fits :=
  ⟨hs.addedOn, hs.lastLoggedOn, hs.projectCount⟩

def durable : Durable UserState (Command UserState) :=
  Record.durable Fits ⟨by simp [Record.empty], by simp [Record.empty], by simp [Record.empty]⟩
    fits_updateFrom fits_setActive (fun o hs => read_record hs o)

end UserState

namespace Listing

theorem fits_evolve {l : Listing} (hl : l.Fits) (k : ListCommand) : (l.evolve k).Fits := by
  cases k with
  | insert i | update i => exact Keyed.sorted_insert hl
  | delete id | undelete id =>
    simp only [evolve, Fits]
    exact Keyed.sorted_modify hl

/-- Listings are durable over those in record order, under every listing command. -/
def durable : Durable Listing ListCommand where
  fits := Fits
  entryFits _ := True
  fits_empty := List.Pairwise.nil
  fits_apply hl _ := fits_evolve hl _
  read_toJson hl := by
    change (Listing.read .document (Listing.toJson _)).toOption = _
    rw [read_toJson hl]
    rfl
  classOf_toJson k := k.classOf_toJson
  cls_not_mem_settings k := k.cls_not_mem_settings
  decodeEntry_toJson {k} _ :=
    decodeEntry_command k.classOf_toJson k.cls_mem_classes k.cls_not_mem_settings k.read_toJson

end Listing

end Chronicle
