import Chronicle.Binary64.Basic

/-! The shortest decimal that reads back as a binary64 number. -/

namespace Chronicle

namespace Binary64

def pow10Ratio (e : Int) : Nat × Nat :=
  if 0 ≤ e then (Nat.pow 10 e.toNat, 1) else (1, Nat.pow 10 (-e).toNat)

def ratioLt (a b c d : Nat) : Bool := a * d < c * b

/-- The greatest `e` with `10 ^ e ≤ num / den`, for positive `num` and `den`: an estimate
from the binary logarithm, corrected by at most a few steps. -/
def floorLog10 (num den : Nat) : Int :=
  let guess : Int := Int.fdiv (floorLog2 num den * 30103) 100000
  let above (e : Int) : Bool := let (n, d) := pow10Ratio e; ratioLt num den n d
  let rec down : Nat → Int → Int
    | 0, e => e
    | k + 1, e => if above e then down k (e - 1) else e
  let rec up : Nat → Int → Int
    | 0, e => e
    | k + 1, e => if above (e + 1) then e else up k (e + 1)
  up 8 (down 8 guess)

/-- The interval of reals that round to a positive number, as the ratios of its two ends, and
whether the ends belong to it (they do when the mantissa is even). -/
structure Rounding where
  lowNum : Nat
  highNum : Nat
  den : Nat
  closed : Bool

def roundingInterval (x : Binary64) : Rounding :=
  let (n, d) := pow2 (x.exponent - 2)
  let below := if x.mantissa = Nat.pow 2 (precision - 1) ∧ x.exponent > minExponent then 1 else 2
  { lowNum := (4 * x.mantissa - below) * n, highNum := (4 * x.mantissa + 2) * n, den := d,
    closed := x.mantissa % 2 == 0 }

def Rounding.holds (r : Rounding) (a b : Nat) : Bool :=
  if r.closed then !ratioLt a b r.lowNum r.den && !ratioLt r.highNum r.den a b
  else ratioLt r.lowNum r.den a b && ratioLt a b r.highNum r.den

def trimZeros : Nat → Nat → Int → Nat × Int
  | 0, digits, e => (digits, e)
  | fuel + 1, digits, e =>
    if digits ≠ 0 ∧ digits % 10 = 0 then trimZeros fuel (digits / 10) (e + 1) else (digits, e)

def maxDigits : Nat := 17

/-- The shortest decimal `digits · 10 ^ e` that reads back as a positive number, with no
trailing zero in `digits`; of two at the same length the nearer, a tie to the even digit. -/
def shortest (x : Binary64) : Nat × Int :=
  let (vn, vd) := x.magnitude
  let top := floorLog10 vn vd
  let r := roundingInterval x
  let rec search : Nat → Nat → Nat × Int
    | 0, _ => (x.mantissa, 0)
    | fuel + 1, n =>
      let e := top - n + 1
      let (sn, sd) := pow10Ratio e
      -- the neighbours `c · 10 ^ e` and `(c + 1) · 10 ^ e` of the number
      let c := (vn * sd) / (vd * sn)
      let lowIn := r.holds (c * sn) sd
      let highIn := r.holds ((c + 1) * sn) sd
      let pick :=
        if lowIn ∧ highIn then
          let twice := ratioLt (2 * vn) vd ((2 * c + 1) * sn) sd
          let more := ratioLt ((2 * c + 1) * sn) sd (2 * vn) vd
          if twice then some c else if more then some (c + 1)
          else if c % 2 = 0 then some c else some (c + 1)
        else if lowIn then some c
        else if highIn then some (c + 1)
        else none
      match pick with
      | some digits => trimZeros maxDigits digits e
      | none => if n ≥ maxDigits then trimZeros maxDigits c e else search fuel (n + 1)
  search maxDigits 1

end Binary64

end Chronicle
