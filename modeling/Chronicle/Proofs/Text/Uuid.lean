import Mathlib
import Chronicle.Text.Uuid

/-! Identifiers read back from their hyphenated lowercase form. -/
namespace Chronicle.Uuid

theorem utf8ByteSize_ofList (cs : List Char) :
    (String.ofList cs).utf8ByteSize = (cs.map Char.utf8Size).sum := by
  induction cs with
  | nil => rfl
  | cons c cs ih =>
    rw [String.ofList_cons, String.utf8ByteSize_append, String.utf8ByteSize_singleton, ih]
    simp

theorem sum_map_utf8Size_of_ascii {cs : List Char} (h : ∀ c ∈ cs, c.utf8Size = 1) :
    (cs.map Char.utf8Size).sum = cs.length := by
  induction cs with
  | nil => rfl
  | cons c cs ih =>
    simp only [List.mem_cons, forall_eq_or_imp] at h
    simp [h.1, ih h.2, Nat.add_comm]

theorem hexValue?_digitChar : ∀ n, n < 16 → hexValue? (digitChar n) = some n
  | 0, _ | 1, _ | 2, _ | 3, _ | 4, _ | 5, _ | 6, _ | 7, _ | 8, _ | 9, _ | 10, _ | 11, _ | 12, _
  | 13, _ | 14, _ | 15, _ => by decide
  | _ + 16, h => absurd h (by omega)

theorem utf8Size_digitChar : ∀ n, n < 16 → (digitChar n).utf8Size = 1
  | 0, _ | 1, _ | 2, _ | 3, _ | 4, _ | 5, _ | 6, _ | 7, _ | 8, _ | 9, _ | 10, _ | 11, _ | 12, _
  | 13, _ | 14, _ | 15, _ => by decide
  | _ + 16, h => absurd h (by omega)

@[simp] theorem length_hexDigits (v n : Nat) : (hexDigits v n).length = n := by
  induction n generalizing v with
  | zero => rfl
  | succ n ih => simp [hexDigits, ih]

theorem utf8Size_of_mem_hexDigits {v n : Nat} {c : Char} (h : c ∈ hexDigits v n) :
    c.utf8Size = 1 := by
  induction n generalizing v with
  | zero => simp [hexDigits] at h
  | succ n ih =>
    simp only [hexDigits, List.mem_append, List.mem_singleton] at h
    rcases h with h | rfl
    · exact ih h
    · exact utf8Size_digitChar _ (Nat.mod_lt _ (by decide))

theorem hexNumber?_hexDigits (v n : Nat) : hexNumber? (hexDigits v n) = some (v % 16 ^ n) := by
  induction n generalizing v with
  | zero => simp [hexDigits, hexNumber?, Nat.mod_one]
  | succ n ih =>
    have hd := hexValue?_digitChar (v % 16) (Nat.mod_lt _ (by decide))
    have ih' := ih (v / 16)
    unfold hexNumber? at ih' ⊢
    rw [hexDigits, List.foldlM_append, ih']
    simp [hd, Nat.pow_succ', Nat.mod_mul]
    omega

private theorem take_drop_append_drop {α : Type} (n k : Nat) {m : Nat} (h : n + k = m := by rfl)
    (l : List α) : (l.drop n).take k ++ l.drop m = l.drop n := by
  rw [← h, ← List.drop_drop, List.take_append_drop]

theorem hyphenatedDigits?_layout {a b c d e : List Char} (ha : a.length = 8) (hb : b.length = 4)
    (hc : c.length = 4) (hd : d.length = 4) (he : e.length = 12) :
    hyphenatedDigits? (a ++ '-' :: (b ++ '-' :: (c ++ '-' :: (d ++ '-' :: e)))) =
      some (a ++ b ++ c ++ d ++ e) := by
  unfold hyphenatedDigits?
  have hlen : (a ++ '-' :: (b ++ '-' :: (c ++ '-' :: (d ++ '-' :: e)))).length = 36 := by
    simp; omega
  rw [if_pos]
  · simp (disch := omega) [List.drop_append, List.drop_eq_nil_of_le, ha, hb, hc, hd]
  · refine ⟨hlen, ?_, ?_, ?_, ?_⟩ <;> simp [List.getElem?_append, ha, hb, hc, hd]

theorem ofNat_val (u : Uuid) : ofNat u.val = u := by
  obtain ⟨v, hv⟩ := u
  simp only [ofNat, Nat.mod_eq_of_lt hv]

/-- Every identifier reads back from its hyphenated form. -/
theorem parse_render (u : Uuid) : parse u.render = .ok u := by
  have hlen := length_hexDigits u.val 32
  have hnum : ofDigits? (hexDigits u.val 32) = some u := by
    have hlt : u.val < 16 ^ 32 := lt_of_lt_of_eq u.isLt (by norm_num)
    rw [ofDigits?, if_pos hlen, hexNumber?_hexDigits, Nat.mod_eq_of_lt hlt, Option.map_some,
      ofNat_val]
  have hascii : ∀ c ∈ hexDigits u.val 32, c.utf8Size = 1 :=
    fun _ h => utf8Size_of_mem_hexDigits h
  have hchars : u.render.toList =
      (hexDigits u.val 32).take 8 ++ '-' :: (((hexDigits u.val 32).drop 8).take 4 ++ '-' ::
        (((hexDigits u.val 32).drop 12).take 4 ++ '-' :: (((hexDigits u.val 32).drop 16).take 4 ++
          '-' :: (hexDigits u.val 32).drop 20))) := by
    simp [render, String.toList_ofList]
  generalize hexDigits u.val 32 = ds at hlen hnum hascii hchars
  -- the text is 36 one-byte characters, so it is read as the hyphenated form
  have hsize : u.render.utf8ByteSize = 36 := by
    rw [← String.ofList_toList (s := u.render), utf8ByteSize_ofList, hchars,
      sum_map_utf8Size_of_ascii]
    · simp; omega
    · intro c hc
      simp only [List.mem_append, List.mem_cons] at hc
      rcases hc with h | rfl | h | rfl | h | rfl | h | rfl | h
      all_goals first
        | rfl
        | exact hascii c (List.mem_of_mem_take h)
        | exact hascii c (List.mem_of_mem_drop (List.mem_of_mem_take h))
        | exact hascii c (List.mem_of_mem_drop h)
  have hdigits : hyphenatedDigits? u.render.toList = some ds := by
    rw [hchars, hyphenatedDigits?_layout] <;> simp [hlen]
    rw [take_drop_append_drop 16 4, take_drop_append_drop 12 4, take_drop_append_drop 8 4,
      List.take_append_drop]
  simp [parse, form?, hsize, maxLength, hdigits, hnum]

end Chronicle.Uuid
