import Chronicle.Core.IdSource

/-! A fresh identifier is neither one the source was told is taken nor one it made before. -/
namespace Chronicle

namespace IdSource

variable {s : IdSource} {id : Uuid}

theorem idAt_val_mod (millis n : Nat) :
    (idAt millis n).val % Nat.pow 2 62 = n % Nat.pow 2 62 := by
  simp only [idAt, Uuid.ofNat, Nat.pow_eq]
  omega

theorem idAt_inj {millis m n : Nat} (hm : m < Nat.pow 2 62) (hn : n < Nat.pow 2 62)
    (h : idAt millis m = idAt millis n) : m = n := by
  have hmod := idAt_val_mod millis m
  rw [h, idAt_val_mod, Nat.mod_eq_of_lt hm, Nat.mod_eq_of_lt hn] at hmod
  exact hmod.symm

/-- The search from the counter `n`, with `fuel` counters more that it may try, stops at the
first counter whose identifier is not taken, or at the last it may try. -/
theorem go_spec (s : IdSource) (fuel n : Nat) :
    ∃ m, n ≤ m ∧ m ≤ n + fuel ∧ fresh.go s fuel n = (idAt s.millis m, { s with issued := m }) ∧
      (∀ i, n ≤ i → i < m → idAt s.millis i ∈ s.taken) ∧
      (m < n + fuel → idAt s.millis m ∉ s.taken) := by
  induction fuel generalizing n with
  | zero =>
    exact ⟨n, Nat.le_refl n, Nat.le_refl n, rfl, fun i hi hin => absurd hin (by omega),
      fun hlt => absurd hlt (by omega)⟩
  | succ fuel ih =>
    by_cases ht : idAt s.millis n ∈ s.taken
    · -- a taken identifier is passed over
      obtain ⟨m, hnm, hmle, heq, hbefore, hlast⟩ := ih (n + 1)
      refine ⟨m, by omega, by omega, ?_, fun i hi him => ?_, fun hlt => hlast (by omega)⟩
      · simp only [fresh.go, List.contains_iff_mem, ht, if_true, heq]
      · rcases Nat.eq_or_lt_of_le hi with rfl | hlt
        · exact ht
        · exact hbefore i hlt him
    · refine ⟨n, Nat.le_refl n, by omega, ?_, fun i hi hin => absurd hin (by omega), fun _ => ht⟩
      simp only [fresh.go, List.contains_iff_mem, ht, if_false]

theorem fresh_spec (s : IdSource) :
    ∃ m, s.issued < m ∧ m ≤ s.issued + 1 + s.taken.length ∧
      s.fresh = (idAt s.millis m, { s with issued := m }) ∧
      (∀ i, s.issued < i → i < m → idAt s.millis i ∈ s.taken) ∧
      (m < s.issued + 1 + s.taken.length → idAt s.millis m ∉ s.taken) := by
  obtain ⟨m, hnm, hmle, heq, hbefore, hlast⟩ := go_spec s s.taken.length (s.issued + 1)
  exact ⟨m, hnm, hmle, heq, fun i hi him => hbefore i hi him, hlast⟩

theorem nodup_idAt_range' (millis : Nat) {start len : Nat} (h : start + len ≤ Nat.pow 2 62) :
    ((List.range' start len).map (idAt millis)).Nodup := by
  refine List.pairwise_map.mpr ((List.pairwise_lt_range' (s := start) (n := len)).imp_of_mem ?_)
  intro a b ha hb hab heq
  rw [List.mem_range'_1] at ha hb
  exact Nat.ne_of_lt hab (idAt_inj (by omega) (by omega) heq)

/-- Of `taken.length + 1` counters in a row one gives an identifier that is not taken, so the
identifier made is never one the source was told is taken. -/
theorem fresh_not_mem_taken (hfit : s.issued + 1 + s.taken.length < Nat.pow 2 62) :
    s.fresh.1 ∉ s.taken := by
  obtain ⟨m, hnm, hmle, heq, hbefore, hlast⟩ := fresh_spec s
  rw [heq]
  intro hm
  -- the search used up its counters: each of them gives a taken identifier
  have hend : m = s.issued + 1 + s.taken.length :=
    Nat.le_antisymm hmle (Nat.not_lt.mp fun hlt => hlast hlt hm)
  have hsub : (List.range' (s.issued + 1) (s.taken.length + 1)).map (idAt s.millis) ⊆ s.taken := by
    intro x hx
    obtain ⟨i, hi, rfl⟩ := List.mem_map.mp hx
    rw [List.mem_range'_1] at hi
    rcases Nat.lt_or_ge i m with him | hmi
    · exact hbefore i (by omega) him
    · rw [show i = m by omega]
      exact hm
  have hlen := (nodup_idAt_range' s.millis (by omega)).length_le_of_subset hsub
  simp only [List.length_map, List.length_range'] at hlen
  omega

def Known (s : IdSource) (id : Uuid) : Prop :=
  id ∈ s.taken ∨ ∃ n, 0 < n ∧ n ≤ s.issued ∧ id = idAt s.millis n

theorem fresh_not_known (hfit : s.issued + 1 + s.taken.length < Nat.pow 2 62) :
    ¬ s.Known s.fresh.1 := by
  rintro (htaken | ⟨n, hn, hle, hid⟩)
  · exact fresh_not_mem_taken hfit htaken
  · obtain ⟨m, hnm, hmle, heq, -, -⟩ := fresh_spec s
    rw [heq] at hid
    have := idAt_inj (by omega) (by omega) hid
    omega

theorem known_fresh (s : IdSource) :
    s.fresh.2.Known s.fresh.1 ∧ ∀ id, s.Known id → s.fresh.2.Known id := by
  obtain ⟨m, hnm, -, heq, -, -⟩ := fresh_spec s
  rw [heq]
  refine ⟨.inr ⟨m, by omega, Nat.le_refl m, rfl⟩, ?_⟩
  rintro id (htaken | ⟨n, hn, hle, rfl⟩)
  · exact .inl htaken
  · exact .inr ⟨n, hn, by dsimp only; omega, rfl⟩

end IdSource

end Chronicle
