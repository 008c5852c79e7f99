import Mathlib
import Chronicle.Core.Duration

/-! Linear backoff never waits less for a later attempt, nor past its cap. -/
namespace Chronicle

namespace Duration

theorem nanos_le_iff (a b : Duration) :
    a.nanos ≤ b.nanos ↔ a.secs < b.secs ∨ a.secs = b.secs ∧ a.subsecNanos ≤ b.subsecNanos := by
  unfold secs subsecNanos
  omega

theorem le_maxNanos_iff (d : Duration) : d.nanos ≤ maxNanos ↔ d.secs < 2 ^ 64 := by
  unfold secs maxNanos
  rw [Nat.pow_eq]
  omega

-- Inside this namespace `min` is the shorter of two spans, so the order's minimum on counts is
-- written `Min.min`.

theorem saturatingMul_nanos (d : Duration) (k : Nat) :
    (d.saturatingMul k).nanos = Min.min (d.nanos * k) maxNanos := by
  unfold saturatingMul
  split
  · next hover => exact (Nat.min_eq_right (Nat.le_of_lt hover)).symm
  · next hfit => exact (Nat.min_eq_left (Nat.le_of_not_lt hfit)).symm

@[simp] theorem min_nanos (a b : Duration) : (a.min b).nanos = Min.min a.nanos b.nanos := by
  unfold Duration.min
  split
  · next hle => exact (Nat.min_eq_left hle).symm
  · next hgt => exact (Nat.min_eq_right (Nat.le_of_lt (Nat.lt_of_not_le hgt))).symm

end Duration

namespace Backoff

theorem delay_nanos_eq_min_min (b : Backoff) (n : Nat) :
    (b.delay n).nanos = min (min (b.step.nanos * n) Duration.maxNanos) b.cap.nanos := by
  simp only [delay, Duration.min_nanos, Duration.saturatingMul_nanos]

theorem delay_mono (b : Backoff) : Monotone fun n => (b.delay n).nanos := by
  intro m n hmn
  have hprod : b.step.nanos * m ≤ b.step.nanos * n := Nat.mul_le_mul_left _ hmn
  simp only [delay_nanos_eq_min_min]
  omega

theorem delay_of_overflow (b : Backoff) {n : Nat} (hcap : b.cap.nanos ≤ Duration.maxNanos)
    (hover : Duration.maxNanos < b.step.nanos * n) : b.delay n = b.cap := by
  have hnanos : (b.delay n).nanos = b.cap.nanos := by
    rw [b.delay_nanos n hcap]
    exact Nat.min_eq_right (Nat.le_of_lt (Nat.lt_of_le_of_lt hcap hover))
  exact congrArg Duration.mk hnanos

theorem delay_lt_delay (b : Backoff) {m n : Nat} (hcap : b.cap.nanos ≤ Duration.maxNanos)
    (hstep : 0 < b.step.nanos) (hmn : m < n) (hbelow : b.step.nanos * m < b.cap.nanos) :
    (b.delay m).nanos < (b.delay n).nanos := by
  have hgrow : b.step.nanos * m < b.step.nanos * n := Nat.mul_lt_mul_of_pos_left hmn hstep
  rw [b.delay_nanos m hcap, b.delay_nanos n hcap, Nat.min_eq_left (Nat.le_of_lt hbelow)]
  exact lt_min hgrow hbelow

/-- What a linear backoff promises about its waits. -/
structure Linear (b : Backoff) : Prop where
  /-- The wait is the step times the attempt, at most the cap, exact to the nanosecond. -/
  exact : ∀ n, b.delay n = ⟨min (b.step.nanos * n) b.cap.nanos⟩
  /-- An attempt whose product overflows the largest span waits the cap. -/
  saturated : ∀ n, Duration.maxNanos < b.step.nanos * n → b.delay n = b.cap
  /-- A later attempt never waits less. -/
  mono : Monotone fun n => (b.delay n).nanos
  /-- No wait passes the cap. -/
  capped : ∀ n, (b.delay n).nanos ≤ b.cap.nanos
  /-- With a positive step, an attempt whose product is below the cap waits less than every
  later attempt. -/
  strict : 0 < b.step.nanos → ∀ m n, m < n → b.step.nanos * m < b.cap.nanos →
    (b.delay m).nanos < (b.delay n).nanos

end Backoff

/-- Every backoff whose cap is a span keeps the promises of a linear backoff, for every step and
every attempt, saturated products included. -/
theorem linear_backoff_delays (b : Backoff) (hcap : b.cap.nanos ≤ Duration.maxNanos) :
    b.Linear where
  exact n := congrArg Duration.mk (b.delay_nanos n hcap)
  saturated _ hover := b.delay_of_overflow hcap hover
  mono := b.delay_mono
  capped := b.delay_le_cap
  strict hstep _ _ hmn hbelow := b.delay_lt_delay hcap hstep hmn hbelow

/-- A step of the largest span against a cap of one second, so that the product overflows at
every attempt after the first. -/
theorem largest_step_backoff_delays :
    (Duration.ofSecs 1).nanos ≤ Duration.maxNanos ∧
      Backoff.Linear ⟨⟨Duration.maxNanos⟩, Duration.ofSecs 1⟩ :=
  ⟨by decide, linear_backoff_delays _ (by decide)⟩

example : (List.range 14).map (fun i => ((⟨.ofSecs 5, .ofSecs 60⟩ : Backoff).delay (i + 1)).secs) =
    [5, 10, 15, 20, 25, 30, 35, 40, 45, 50, 55, 60, 60, 60] := by
  decide

example : (⟨⟨Duration.maxNanos⟩, .ofSecs 1⟩ : Backoff).delay (2 ^ 32 - 1) = .ofSecs 1 := by
  decide

end Chronicle
