import Chronicle.Json.Value

/-! Spans of time to the nanosecond, whose products saturate at the largest span. -/

namespace Chronicle

/-- A span of time in nanoseconds. -/
structure Duration where
  nanos : Nat
  deriving DecidableEq, Inhabited

namespace Duration

def maxNanos : Nat := (Nat.pow 2 64 - 1) * 1000000000 + 999999999

def ofSecs (s : Nat) : Duration := ⟨s * 1000000000⟩

def ofMillis (ms : Nat) : Duration := ⟨ms * 1000000⟩

def ofParts (s n : Nat) : Duration := ⟨s * 1000000000 + n⟩

def secs (d : Duration) : Nat := d.nanos / 1000000000

def subsecNanos (d : Duration) : Nat := d.nanos % 1000000000

def saturatingMul (d : Duration) (k : Nat) : Duration :=
  if d.nanos * k > maxNanos then ⟨maxNanos⟩ else ⟨d.nanos * k⟩

def min (a b : Duration) : Duration := if a.nanos ≤ b.nanos then a else b

def ceilMillis (d : Duration) : Nat := (d.nanos + 999999) / 1000000

def toJson (d : Duration) : Json := .arr [.ofNat d.secs, .ofNat d.subsecNanos]

theorem saturatingMul_le (d : Duration) (k : Nat) :
    (d.saturatingMul k).nanos ≤ maxNanos := by
  unfold saturatingMul
  split <;> simp_all

end Duration

/-- Waits that grow by a fixed step per attempt up to a cap. -/
structure Backoff where
  step : Duration
  cap : Duration
  deriving DecidableEq, Inhabited

namespace Backoff

def delay (b : Backoff) (attempt : Nat) : Duration :=
  (b.step.saturatingMul attempt).min b.cap

theorem delay_le_cap (b : Backoff) (n : Nat) : (b.delay n).nanos ≤ b.cap.nanos := by
  unfold delay Duration.min
  split <;> simp_all

/-- With a cap that is a span at all, the wait before an attempt is the step times the attempt,
but at most the cap: saturation never shows. -/
theorem delay_nanos (b : Backoff) (n : Nat) (hcap : b.cap.nanos ≤ Duration.maxNanos) :
    (b.delay n).nanos = min (b.step.nanos * n) b.cap.nanos := by
  unfold delay Duration.min Duration.saturatingMul
  split <;> split <;> simp_all <;> omega

end Backoff

end Chronicle
