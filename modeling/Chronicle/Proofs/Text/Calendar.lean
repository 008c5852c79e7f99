import Mathlib
import Chronicle.Text.Timestamp

/-! Every day number names a date of the proleptic Gregorian calendar. -/
namespace Chronicle.Timestamp

def eraYearStart (yoe : Int) : Int := 365 * yoe + yoe / 4 - yoe / 100

def eraYearOf (doe : Int) : Int := (doe - doe / 1460 + doe / 36524 - doe / 146096) / 365

theorem eraYearOf_mono {a b : Int} (h : a ≤ b) : eraYearOf a ≤ eraYearOf b := by
  unfold eraYearOf
  have ha : a / 36524 / 4 = a / 146096 := Int.ediv_ediv_of_nonneg (by decide)
  have hb : b / 36524 / 4 = b / 146096 := Int.ediv_ediv_of_nonneg (by decide)
  exact Int.ediv_le_ediv (by decide) (by omega)

set_option maxRecDepth 4000 in
private theorem eraYearOf_eraYearStart : ∀ k : Nat, k < 400 →
    eraYearOf (eraYearStart k) = k := by
  decide

set_option maxRecDepth 4000 in
private theorem eraYearOf_pred_eraYearStart : ∀ k : Nat, k < 399 →
    eraYearOf (eraYearStart (k + 1) - 1) = k := by
  decide

theorem eraYearOf_nonneg {doe : Int} (h0 : 0 ≤ doe) (h1 : doe ≤ 146096) :
    0 ≤ eraYearOf doe ∧ eraYearOf doe ≤ 399 := by
  unfold eraYearOf; omega

theorem eraYearStart_eraYearOf_le {doe : Int} (h0 : 0 ≤ doe) (h1 : doe ≤ 146096) :
    eraYearStart (eraYearOf doe) ≤ doe := by
  obtain ⟨hk0, hk1⟩ := eraYearOf_nonneg h0 h1
  obtain ⟨k, hk⟩ : ∃ k : Nat, eraYearOf doe = k := ⟨(eraYearOf doe).toNat, by omega⟩
  rw [hk]
  refine Int.not_lt.mp fun hlt => ?_
  cases k with
  | zero => simp [eraYearStart] at hlt; omega
  | succ k =>
    have hle : doe ≤ eraYearStart ((k : Int) + 1) - 1 := by
      simp only [Int.natCast_add, Int.cast_ofNat_Int] at hlt; omega
    have := eraYearOf_mono hle
    rw [eraYearOf_pred_eraYearStart k (by omega)] at this
    omega

theorem lt_eraYearStart_succ {doe : Int} (h0 : 0 ≤ doe) (h1 : doe ≤ 146096)
    (hy : eraYearOf doe < 399) : doe < eraYearStart (eraYearOf doe + 1) := by
  obtain ⟨hk0, hk1⟩ := eraYearOf_nonneg h0 h1
  obtain ⟨k, hk⟩ : ∃ k : Nat, eraYearOf doe = k := ⟨(eraYearOf doe).toNat, by omega⟩
  rw [hk]
  refine Int.not_le.mp fun hge => ?_
  have := eraYearOf_mono (show eraYearStart ((k + 1 : Nat) : Int) ≤ doe by simpa using hge)
  rw [eraYearOf_eraYearStart (k + 1) (by omega)] at this
  omega

def marchMonth (doy : Int) : Int :=
  let mp := (5 * doy + 2) / 153
  if mp < 10 then mp + 3 else mp - 9

def marchDay (doy : Int) : Int := doy - (153 * ((5 * doy + 2) / 153) + 2) / 5 + 1

theorem civilOfDays_eq (z : Int) : civilOfDays z =
    let era := (z + 719468) / 146097
    let doe := z + 719468 - era * 146097
    let y := eraYearOf doe + era * 400
    let doy := doe - eraYearStart (eraYearOf doe)
    ((if marchMonth doy ≤ 2 then y + 1 else y), (marchMonth doy).toNat, (marchDay doy).toNat) :=
  rfl

set_option maxRecDepth 4000 in
theorem marchMonthDay_spec : ∀ doy : Nat, doy < 366 →
    1 ≤ marchMonth doy ∧ marchMonth doy ≤ 12 ∧ 1 ≤ marchDay doy ∧
    (marchMonth doy = 2 → marchDay doy ≤ 28 ∨ doy = 365 ∧ marchDay doy = 29) ∧
    (marchMonth doy ≠ 2 → marchDay doy ≤ monthLength 0 (marchMonth doy).toNat) ∧
    (153 * (if marchMonth doy > 2 then marchMonth doy - 3 else marchMonth doy + 9) + 2) / 5 +
      marchDay doy - 1 = doy := by
  decide

theorem monthLength_of_ne_two {m : Nat} (h : m ≠ 2) (y y' : Int) :
    monthLength y m = monthLength y' m := by
  unfold monthLength
  split <;> simp_all

theorem isLeapYear_of_day_365 (era : Int) {yoe doe : Int} (hy0 : 0 ≤ yoe) (hy1 : yoe ≤ 399)
    (hnext : yoe < 399 → doe < eraYearStart (yoe + 1)) (hdoe : doe - eraYearStart yoe = 365) :
    isLeapYear (yoe + era * 400 + 1) = true := by
  simp only [isLeapYear, decide_eq_true_eq]
  rcases Int.lt_or_le yoe 399 with hlt | hge
  · have := hnext hlt
    unfold eraYearStart at this hdoe
    omega
  · omega

theorem le_monthLength_two (y : Int) : 28 ≤ monthLength y 2 := by
  simp only [monthLength]; split <;> omega

theorem monthLength_two_of_isLeapYear {y : Int} (h : isLeapYear y = true) :
    monthLength y 2 = 29 := by
  simp [monthLength, h]

/-- Every day number is a valid date of the proleptic calendar, and reads back as itself. -/
theorem civilOfDays_valid (z : Int) :
    1 ≤ (civilOfDays z).2.1 ∧ (civilOfDays z).2.1 ≤ 12 ∧ 1 ≤ (civilOfDays z).2.2 ∧
    (civilOfDays z).2.2 ≤ monthLength (civilOfDays z).1 (civilOfDays z).2.1 ∧
    daysOfCivil (civilOfDays z).1 (civilOfDays z).2.1 (civilOfDays z).2.2 = z := by
  rw [civilOfDays_eq]
  dsimp only
  -- the day of its era, and the year of that era it falls in, are bounded
  generalize hera : (z + 719468) / 146097 = era
  generalize hdoe : z + 719468 - era * 146097 = doe
  have hd0 : 0 ≤ doe := by omega
  have hd1 : doe ≤ 146096 := by omega
  obtain ⟨hy0, hy1⟩ := eraYearOf_nonneg hd0 hd1
  have hstart := eraYearStart_eraYearOf_le hd0 hd1
  have hnext := lt_eraYearStart_succ hd0 hd1
  generalize eraYearOf doe = yoe at hy0 hy1 hstart hnext
  have hdoy : doe - eraYearStart yoe ≤ 365 := by
    rcases Int.lt_or_le yoe 399 with hlt | hge
    · have := hnext hlt; unfold eraYearStart at this ⊢; omega
    · unfold eraYearStart; omega
  obtain ⟨k, hk⟩ : ∃ k : Nat, doe - eraYearStart yoe = k :=
    ⟨(doe - eraYearStart yoe).toNat, by omega⟩
  obtain ⟨hm1, hm12, hd1', hfeb, hother, hback⟩ := marchMonthDay_spec k (by omega)
  have hera' : (yoe + era * 400) / 400 = era := by
    rw [Int.add_mul_ediv_right _ _ (by decide), Int.ediv_eq_zero_of_lt hy0 (by omega),
      Int.zero_add]
  rw [hk]
  refine ⟨by omega, by omega, by omega, ?_, ?_⟩
  · -- only February depends on the year: its 29th is the last day of a leap year
    by_cases h2 : marchMonth k = 2
    · have hm : (marchMonth k).toNat = 2 := by omega
      rw [hm]
      rcases hfeb h2 with hle | ⟨h365, h29⟩
      · have := le_monthLength_two
          (if marchMonth k ≤ 2 then yoe + era * 400 + 1 else yoe + era * 400)
        omega
      · have hleap := isLeapYear_of_day_365 era hy0 hy1 hnext (by omega)
        simp only [h2, Int.le_refl, if_true, monthLength_two_of_isLeapYear hleap]
        omega
    · have hm : (marchMonth k).toNat ≠ 2 := by omega
      rw [monthLength_of_ne_two hm _ 0]
      omega
  · -- January and February belong to the year counted from the March before
    unfold daysOfCivil
    dsimp only
    by_cases hm2 : marchMonth k ≤ 2
    · have hsub : yoe + era * 400 + 1 - 1 = yoe + era * 400 := by omega
      simp only [hm2, if_true, show (marchMonth k).toNat ≤ 2 by omega, hsub, hera',
        show ¬ (marchMonth k).toNat > 2 by omega, if_false]
      unfold eraYearStart at hk
      omega
    · simp only [hm2, if_false, show ¬ (marchMonth k).toNat ≤ 2 by omega, hera',
        show (marchMonth k).toNat > 2 by omega, if_true]
      unfold eraYearStart at hk
      omega

end Chronicle.Timestamp
