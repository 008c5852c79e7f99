import Mathlib
import Chronicle.Text.Timestamp
import Chronicle.Proofs.Text.Calendar

/-! Timestamps read back from the text they are written as. -/
namespace Chronicle.Timestamp

theorem foldl_digits (ds : List Char) (k : Nat) :
    ds.foldl (fun acc c => acc * 10 + (c.toNat - 48)) k = Nat.ofDigitChars 10 ds k := by
  induction ds generalizing k with
  | nil => rfl
  | cons c ds ih => rw [List.foldl_cons, ih, Nat.ofDigitChars_cons, Nat.mul_comm]; rfl

private theorem foldl_utf8Size (cs : List Char) (k : Nat) :
    cs.foldl (fun n c => n + c.utf8Size) k = k + byteLength cs := by
  induction cs generalizing k with
  | nil => rfl
  | cons c cs ih =>
    simp only [byteLength, List.foldl_cons] at ih ⊢
    rw [ih, ih (0 + c.utf8Size)]
    omega

@[simp] theorem byteLength_nil : byteLength [] = 0 := rfl

@[simp] theorem byteLength_cons (c : Char) (cs : List Char) :
    byteLength (c :: cs) = c.utf8Size + byteLength cs := by
  simp only [byteLength, List.foldl_cons]
  rw [foldl_utf8Size]
  simp [byteLength]

theorem length_le_byteLength (cs : List Char) : cs.length ≤ byteLength cs := by
  induction cs with
  | nil => simp
  | cons c cs ih => have := c.utf8Size_pos; simp; omega

private theorem takeWhile_take_of_not_digit {rest : List Char}
    (hr : ∀ c ∈ rest.head?, c.isDigit = false)
    (k : Nat) : (rest.take k).takeWhile Char.isDigit = [] := by
  cases rest with
  | nil => simp
  | cons c rest =>
    cases k with
    | zero => simp
    | succ k => simp_all

theorem scanNumber_digits {ds rest : List Char} (lo hi : Nat) (hd : ∀ c ∈ ds, c.isDigit = true)
    (hr : ∀ c ∈ rest.head?, c.isDigit = false) (hlo : lo ≤ ds.length) (hhi : ds.length ≤ hi)
    (hv : Nat.ofDigitChars 10 ds 0 ≤ fieldMax) :
    scanNumber (ds ++ rest) lo hi = .ok (Nat.ofDigitChars 10 ds 0, rest) := by
  have hbytes := length_le_byteLength (ds ++ rest)
  rw [List.length_append] at hbytes
  have htake : ((ds ++ rest).take hi).takeWhile Char.isDigit = ds := by
    rw [List.take_append, List.take_of_length_le hhi, List.takeWhile_append_of_pos hd,
      takeWhile_take_of_not_digit hr, List.append_nil]
  unfold scanNumber
  simp only [htake, foldl_digits]
  rw [if_neg (by simp at hbytes ⊢; omega), if_neg (by omega), if_neg (by omega)]
  simp


theorem digit_spec : ∀ k, k < 10 →
    (Char.ofNat (48 + k)).isDigit = true ∧ (Char.ofNat (48 + k)).toNat - 48 = k ∧
      Blank.isBlank (Char.ofNat (48 + k)) = false
  | 0, _ | 1, _ | 2, _ | 3, _ | 4, _ | 5, _ | 6, _ | 7, _ | 8, _ | 9, _ => by decide
  | _ + 10, h => absurd h (by omega)

theorem isBlank_of_isDigit {c : Char} (h : c.isDigit = true) : Blank.isBlank c = false := by
  simp only [Char.isDigit, Bool.and_eq_true, decide_eq_true_eq] at h
  simp only [Blank.isBlank, Blank.ranges, List.any_cons, List.any_nil, Bool.or_false,
    Bool.or_eq_false_iff, decide_eq_false_iff_not, not_and, Nat.not_le]
  have h1 : 48 ≤ c.toNat := UInt32.le_iff_toNat_le.mp h.1
  have h2 : c.toNat ≤ 57 := UInt32.le_iff_toNat_le.mp h.2
  omega

theorem twoDigits_spec {n : Nat} (h : n < 100) :
    (∀ c ∈ (twoDigits n).toList, c.isDigit = true) ∧ (twoDigits n).toList.length = 2 ∧
      Nat.ofDigitChars 10 (twoDigits n).toList 0 = n := by
  obtain ⟨h1, h2, -⟩ := digit_spec (n / 10 % 10) (Nat.mod_lt _ (by decide))
  obtain ⟨h3, h4, -⟩ := digit_spec (n % 10) (Nat.mod_lt _ (by decide))
  simp only [twoDigits, String.toList_ofList, List.mem_cons, List.not_mem_nil, or_false,
    forall_eq_or_imp, forall_eq, List.length_cons, List.length_nil, Nat.ofDigitChars_cons,
    Nat.ofDigitChars_nil]
  refine ⟨⟨h1, h3⟩, trivial, ?_⟩
  have : '0'.toNat = 48 := rfl
  rw [this, h2, h4]
  omega


/-- A number written with at least `w` digits, exactly `w` when it is below `10 ^ w`. -/
theorem padded_spec {w : Nat} (hw : 0 < w) (n : Nat) :
    (∀ c ∈ (padded w n).toList, c.isDigit = true) ∧
      Nat.ofDigitChars 10 (padded w n).toList 0 = n ∧ w ≤ (padded w n).toList.length ∧
      (n < 10 ^ w → (padded w n).toList.length = w) := by
  have hlen : (Nat.toDigits 10 n).length ≤ w ↔ n < 10 ^ w :=
    Nat.length_toDigits_le_iff (by decide) hw
  have hrepr : n.repr.length = (Nat.toDigits 10 n).length := by
    rw [← String.length_toList, Nat.toList_repr]
  simp only [padded, String.toList_append, String.toList_ofList, Nat.toString_eq_repr,
    Nat.toList_repr]
  refine ⟨?_, ?_, ?_, ?_⟩
  · intro c hc
    rcases List.mem_append.mp hc with h | h
    · rw [List.eq_of_mem_replicate h]; rfl
    · exact Nat.isDigit_of_mem_toDigits (by decide) (by decide) h
  · rw [Nat.ofDigitChars_append, Nat.ofDigitChars_replicate_zero, Nat.mul_zero,
      Nat.ofDigitChars_ten_toDigits]
  · simp [hrepr]; omega
  · intro h; simp [hrepr]; omega

/-- An unsigned field: its first digit is neither sign nor blank. -/
theorem scanField_digits {ds rest : List Char} {width : Nat} (signed : Bool)
    (hd : ∀ c ∈ ds, c.isDigit = true) (hne : ds ≠ [])
    (hr : ∀ c ∈ rest.head?, c.isDigit = false)
    (hw : ds.length ≤ width) (hv : Nat.ofDigitChars 10 ds 0 ≤ fieldMax) :
    scanField (ds ++ rest) width signed = .ok (Nat.ofDigitChars 10 ds 0, rest) := by
  obtain ⟨d, tl, rfl⟩ := List.exists_cons_of_ne_nil hne
  have hdig : d.isDigit = true := hd d (List.mem_cons_self ..)
  have hminus : d ≠ '-' := fun h => by subst h; simp at hdig
  have hplus : d ≠ '+' := fun h => by subst h; simp at hdig
  have hscan := scanNumber_digits 1 width hd hr (by simp) hw hv
  unfold scanField
  simp only [List.cons_append, List.dropWhile_cons, isBlank_of_isDigit hdig, Bool.false_eq_true,
    if_false] at hscan ⊢
  split
  · rename_i h; simp only [List.cons.injEq] at h; exact absurd h.1 hminus
  · rename_i h; simp only [List.cons.injEq] at h; exact absurd h.1 hplus
  · rw [hscan]; rfl

theorem scanField_minus {ds rest : List Char} {width : Nat} (hd : ∀ c ∈ ds, c.isDigit = true)
    (hne : ds ≠ []) (hr : ∀ c ∈ rest.head?, c.isDigit = false)
    (hv : Nat.ofDigitChars 10 ds 0 ≤ fieldMax) :
    scanField ('-' :: (ds ++ rest)) width true = .ok (-(Nat.ofDigitChars 10 ds 0 : Int), rest) := by
  have hb := length_le_byteLength (ds ++ rest)
  have hscan := scanNumber_digits 1 (byteLength (ds ++ rest)) hd hr
    (List.length_pos_iff.mpr hne) (by simp at hb; omega) hv
  simp only [scanField, List.dropWhile_cons, show Blank.isBlank '-' = false by decide,
    Bool.false_eq_true, if_false, hscan]
  rfl

theorem scanField_plus {ds rest : List Char} {width : Nat} (hd : ∀ c ∈ ds, c.isDigit = true)
    (hne : ds ≠ []) (hr : ∀ c ∈ rest.head?, c.isDigit = false)
    (hv : Nat.ofDigitChars 10 ds 0 ≤ fieldMax) :
    scanField ('+' :: (ds ++ rest)) width true = .ok ((Nat.ofDigitChars 10 ds 0 : Int), rest) := by
  have hb := length_le_byteLength (ds ++ rest)
  have hscan := scanNumber_digits 1 (byteLength (ds ++ rest)) hd hr
    (List.length_pos_iff.mpr hne) (by simp at hb; omega) hv
  simp only [scanField, List.dropWhile_cons, show Blank.isBlank '+' = false by decide,
    Bool.false_eq_true, if_false, hscan]
  rfl

theorem padded_ne_nil {w : Nat} (hw : 0 < w) (n : Nat) : (padded w n).toList ≠ [] := by
  have := (padded_spec hw n).2.2.1
  intro h; rw [h] at this; simp at this; omega

/-- The year of a supported date reads back from its text. -/
theorem scanField_yearText {y : Int} (hy0 : minYear ≤ y) (hy1 : y ≤ maxYear) {rest : List Char}
    (hr : ∀ c ∈ rest.head?, c.isDigit = false) :
    scanField ((yearText y).toList ++ rest) 4 true = .ok (y, rest) := by
  have hmax : (262143 : Nat) ≤ fieldMax := by decide
  unfold minYear maxYear at *
  unfold yearText
  split
  · rename_i hrange
    obtain ⟨hd, hv, -, hlen⟩ := padded_spec (w := 4) (by decide) y.toNat
    rw [scanField_digits true hd (padded_ne_nil (by decide) _) hr
      (Nat.le_of_eq (hlen (by omega))) (by rw [hv]; omega), hv, Int.toNat_of_nonneg hrange.1]
  · obtain ⟨hd, hv, -, -⟩ := padded_spec (w := 4) (by decide) y.natAbs
    split
    · rename_i hneg
      simp only [String.toList_append, show "-".toList = ['-'] from rfl, List.cons_append,
        List.nil_append]
      rw [scanField_minus hd (padded_ne_nil (by decide) _) hr (by rw [hv]; omega), hv,
        show -(y.natAbs : Int) = y by omega]
    · rename_i hpos
      simp only [String.toList_append, show "+".toList = ['+'] from rfl, List.cons_append,
        List.nil_append]
      rw [scanField_plus hd (padded_ne_nil (by decide) _) hr (by rw [hv]; omega), hv,
        show (y.natAbs : Int) = y by omega]

theorem head_not_digit {c : Char} (hc : c.isDigit = false) (cs : List Char) :
    ∀ x ∈ (c :: cs).head?, x.isDigit = false := by
  simpa using hc

theorem scanField_twoDigits {n : Nat} (h : n < 100) {rest : List Char}
    (hr : ∀ c ∈ rest.head?, c.isDigit = false) :
    scanField ((twoDigits n).toList ++ rest) 2 false = .ok (n, rest) := by
  obtain ⟨hd, hlen, hv⟩ := twoDigits_spec h
  have hne : (twoDigits n).toList ≠ [] := by intro h; simp [h] at hlen
  rw [scanField_digits false hd hne hr (Nat.le_of_eq hlen)
    (by rw [hv]; unfold fieldMax; rw [Nat.pow_eq]; omega), hv]

theorem scanField_twoDigits_cons {n : Nat} (h : n < 100) {c : Char} (hc : c.isDigit = false)
    (rest : List Char) :
    scanField ((twoDigits n).toList ++ c :: rest) 2 false = .ok (n, c :: rest) :=
  scanField_twoDigits h (head_not_digit hc rest)

theorem expectSep_cons {c : Char} (hc : Blank.isBlank c = false) (rest : List Char) :
    expectSep (c :: rest) c = .ok rest := by
  simp [expectSep, hc]

theorem scanFraction_digits {ds : List Char} (hd : ∀ c ∈ ds, c.isDigit = true) (hne : ds ≠ [])
    (hlen : ds.length ≤ 9) (hv : Nat.ofDigitChars 10 ds 0 ≤ fieldMax) :
    scanFraction ('.' :: (ds ++ ['Z'])) =
      .ok (Nat.ofDigitChars 10 ds 0 * 10 ^ (9 - ds.length), ['Z']) := by
  have hscan := scanNumber_digits 1 9 hd (head_not_digit (c := 'Z') rfl [])
    (List.length_pos_iff.mpr hne) hlen hv
  simp only [scanFraction, hscan, bind, Except.bind, pure, Except.pure, List.length_append,
    List.length_singleton, Nat.add_sub_cancel]
  rfl

theorem scanFraction_padded {w n : Nat} (hw : 0 < w) (hw9 : w ≤ 9) (hn : n < 10 ^ w) :
    scanFraction (("." ++ padded w n).toList ++ ['Z']) = .ok (n * 10 ^ (9 - w), ['Z']) := by
  obtain ⟨hd, hv, -, hlen⟩ := padded_spec hw n
  have hbound : 10 ^ w ≤ fieldMax := calc
    10 ^ w ≤ 10 ^ 9 := Nat.pow_le_pow_right (by decide) hw9
    _ ≤ fieldMax := by decide
  simp only [String.toList_append, show ".".toList = ['.'] from rfl, List.cons_append,
    List.nil_append]
  rw [scanFraction_digits hd (padded_ne_nil hw _) (by rw [hlen hn]; exact hw9)
    (by rw [hv]; omega), hv, hlen hn]

/-- The fraction of a second reads back from its text. -/
theorem scanFraction_fractionText {n : Nat} (h : n < 1000000000) :
    scanFraction ((fractionText n).toList ++ ['Z']) = .ok (n, ['Z']) := by
  unfold fractionText
  split
  · rename_i h0; subst h0; rfl
  split
  · rename_i _ hms
    rw [scanFraction_padded (by decide) (by decide) (by show n / 1000000 < 1000; omega)]
    rw [show (10 : Nat) ^ (9 - 3) = 1000000 from rfl,
      Nat.div_mul_cancel (Nat.dvd_of_mod_eq_zero hms)]
  split
  · rename_i _ _ hus
    rw [scanFraction_padded (by decide) (by decide) (by show n / 1000 < 1000000; omega)]
    rw [show (10 : Nat) ^ (9 - 6) = 1000 from rfl,
      Nat.div_mul_cancel (Nat.dvd_of_mod_eq_zero hus)]
  · rw [scanFraction_padded (by decide) (by decide) h, Nat.sub_self, Nat.pow_zero, Nat.mul_one]

theorem fractionText_head (n : Nat) :
    ∀ x ∈ ((fractionText n).toList ++ ['Z']).head?, x.isDigit = false := by
  unfold fractionText
  repeat' split
  all_goals simp [String.toList_append, show ".".toList = ['.'] from rfl]

def Valid (t : Timestamp) : Prop :=
  minYear ≤ (civilOfDays t.days).1 ∧ (civilOfDays t.days).1 ≤ maxYear ∧ t.second < 86400 ∧
    t.nanos < 2000000000 ∧ (1000000000 ≤ t.nanos → t.second % 60 = 59)

instance : DecidablePred Valid := fun t => by unfold Valid; infer_instance

theorem render_toList (t : Timestamp) : t.render.toList =
    (yearText (civilOfDays t.days).1).toList ++ '-' ::
      ((twoDigits (civilOfDays t.days).2.1).toList ++ '-' ::
      ((twoDigits (civilOfDays t.days).2.2).toList ++ 'T' ::
      ((twoDigits (t.second / 3600)).toList ++ ':' ::
      ((twoDigits (t.second / 60 % 60)).toList ++ ':' ::
      ((twoDigits (t.second % 60 + if t.nanos ≥ 1000000000 then 1 else 0)).toList ++
      ((fractionText (t.nanos % 1000000000)).toList ++ ['Z'])))))) := by
  simp [render, String.toList_append, show "-".toList = ['-'] from rfl]

theorem inRange_ok {v lo hi : Int} (h1 : lo ≤ v) (h2 : v ≤ hi) : inRange v lo hi = .ok () := by
  simp [inRange, h1, h2]

theorem monthLength_le (y : Int) (m : Nat) : monthLength y m ≤ 31 := by
  unfold monthLength; split <;> (try split) <;> omega

/-- Every instant with a text reads back from it. -/
theorem parse_render {t : Timestamp} (h : t.Valid) : parse t.render = .ok t := by
  obtain ⟨hy0, hy1, hs, hn, hleap⟩ := h
  obtain ⟨hm1, hm12, hd1, hdm, hback⟩ := civilOfDays_valid t.days
  have hd31 := monthLength_le (civilOfDays t.days).1 (civilOfDays t.days).2.1
  unfold parse
  rw [render_toList]
  generalize hc : civilOfDays t.days = c at *
  obtain ⟨y, m, d⟩ := c
  dsimp only at *
  -- each field reads back up to the separator that follows it, and lies in its range
  have hsf : (t.second % 60 + if t.nanos ≥ 1000000000 then 1 else 0) < 100 := by split <;> omega
  have hfy := fun rest => scanField_yearText hy0 hy1 (head_not_digit (c := '-') (by decide) rest)
  have hfm := scanField_twoDigits_cons (show m < 100 by omega) (c := '-') (by decide)
  have hfd := scanField_twoDigits_cons (show d < 100 by omega) (c := 'T') (by decide)
  have hfh := scanField_twoDigits_cons (show t.second / 3600 < 100 by omega) (c := ':') (by decide)
  have hfmi := scanField_twoDigits_cons (show t.second / 60 % 60 < 100 by omega) (c := ':')
    (by decide)
  have hfs := scanField_twoDigits hsf (fractionText_head (t.nanos % 1000000000))
  have hfrac := scanFraction_fractionText (Nat.mod_lt t.nanos (show 1000000000 > 0 by decide))
  have hdash := expectSep_cons (c := '-') (by decide)
  have hcolon := expectSep_cons (c := ':') (by decide)
  have hry : inRange y (-2147483648) 2147483647 = .ok () :=
    inRange_ok (by unfold minYear at hy0; omega) (by unfold maxYear at hy1; omega)
  have hrm : inRange m 1 12 = .ok () := inRange_ok (by omega) (by omega)
  have hrd : inRange d 1 31 = .ok () := inRange_ok (by omega) (by omega)
  have hrh : inRange (t.second / 3600 : Nat) 0 23 = .ok () := inRange_ok (by omega) (by omega)
  have hrmi : inRange (t.second / 60 % 60 : Nat) 0 59 = .ok () := inRange_ok (by omega) (by omega)
  simp only [bind, Except.bind, pure, Except.pure, hfy, hfm, hfd, hfh, hfmi, hfs, hfrac, hdash,
    hcolon, hry, hrm, hrd, hrh, hrmi]
  have hZ : List.dropWhile Blank.isBlank ['Z'] = ['Z'] := by decide
  have hutc : startsWithUtc ['Z'] = false := by decide
  have hoff : scanOffset ['Z'] = .ok (0, []) := rfl
  -- what is read back, once the fields are read, is the day and second it came from
  have hdays : (t.days * 86400 + t.second) / 86400 = t.days := by omega
  have hsod : ((t.days * 86400 + t.second) % 86400).toNat = t.second := by omega
  have hdate : ¬(y < minYear ∨ y > maxYear ∨ d > monthLength y m) := by omega
  have hyear : ¬((civilOfDays t.days).1 < minYear ∨ (civilOfDays t.days).1 > maxYear) := by
    rw [hc]; omega
  have hoffset : ¬((0 : Int) ≤ -86400 ∨ (86400 : Int) ≤ 0) := by decide
  by_cases hl : 1000000000 ≤ t.nanos
  · -- a leap second is written as the 60th second of its minute
    have h59 := hleap hl
    have hloc : daysOfCivil y m d * 86400 +
        (((t.second / 3600 : Nat) : Int) * 3600 + ((t.second / 60 % 60 : Nat) : Int) * 60 +
          59) - 0 =
        t.days * 86400 + t.second := by omega
    have hnanos : t.nanos % 1000000000 + 1000000000 = t.nanos := by omega
    simp only [hl, h59, hZ, hutc, hoff, ge_iff_le, if_true, true_or, Bool.false_eq_true, if_false,
      Nat.reduceAdd, Int.toNat_natCast]
    simp only [Int.cast_ofNat_Int, ↓reduceIte, List.dropWhile_nil, List.isEmpty_nil,
      Bool.not_true,
      Bool.false_eq_true, inRange_ok (show (0 : Int) ≤ 60 by decide) (Int.le_refl 60),
      hloc, hdays, hsod, hnanos, hdate, hyear, hoffset]
  · have hsec : t.second % 60 < 60 := Nat.mod_lt _ (by decide)
    have hloc : daysOfCivil y m d * 86400 + (((t.second / 3600 : Nat) : Int) * 3600 +
        ((t.second / 60 % 60 : Nat) : Int) * 60 + ((t.second % 60 : Nat) : Int)) - 0 =
        t.days * 86400 + t.second := by omega
    have hnanos : t.nanos % 1000000000 = t.nanos := Nat.mod_eq_of_lt (by omega)
    simp only [hl, hZ, hutc, hoff, ge_iff_le, if_false, Nat.add_zero, true_or, Bool.false_eq_true,
      if_true, Int.toNat_natCast]
    simp only [show ((t.second % 60 : Nat) : Int) ≠ 60 by omega, ↓reduceIte, List.dropWhile_nil,
      List.isEmpty_nil, Bool.not_true, Bool.false_eq_true,
      inRange_ok (show (0 : Int) ≤ ((t.second % 60 : Nat) : Int) by omega)
        (show ((t.second % 60 : Nat) : Int) ≤ 60 by omega),
      hloc, hdays, hsod, hnanos, hdate, hyear, hoffset]

end Chronicle.Timestamp