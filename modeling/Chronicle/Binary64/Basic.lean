/-! Finite binary64 numbers kept as exact integers, and rounding to the nearest of them. -/

namespace Chronicle

/-- A finite binary64 number. Numbers made by `round` are canonical: the mantissa is below
`2 ^ 53` and, unless the exponent is the least one, at least `2 ^ 52`; a zero has mantissa zero
and the least exponent, and keeps its sign. -/
structure Binary64 where
  negative : Bool
  mantissa : Nat
  exponent : Int
  deriving DecidableEq, Inhabited

namespace Binary64

def precision : Nat := 53

def minExponent : Int := -1074

def maxExponent : Int := 971

def zero (negative : Bool) : Binary64 := ⟨negative, 0, minExponent⟩

def isZero (x : Binary64) : Bool := x.mantissa == 0

def neg (x : Binary64) : Binary64 := { x with negative := !x.negative }

def pow2 (e : Int) : Nat × Nat :=
  if 0 ≤ e then (Nat.pow 2 e.toNat, 1) else (1, Nat.pow 2 (-e).toNat)

def magnitude (x : Binary64) : Nat × Nat :=
  let (n, d) := pow2 x.exponent
  (x.mantissa * n, d)

def floorLog2 (num den : Nat) : Int :=
  let e : Int := (Nat.log2 num : Int) - (Nat.log2 den : Int)
  let (n, d) := pow2 e
  if num * d ≥ den * n then e else e - 1

def divRoundEven (a b : Nat) : Nat :=
  let q := a / b
  let r := a % b
  if 2 * r > b ∨ (2 * r = b ∧ q % 2 = 1) then q + 1 else q

/-- The number nearest to `num / den` with the given sign, a tie going to the even mantissa;
`none` when the ratio rounds beyond the greatest finite number. -/
def round (negative : Bool) (num den : Nat) : Option Binary64 :=
  if num = 0 ∨ den = 0 then some (zero negative)
  else
    let q := max (floorLog2 num den - (precision - 1 : Nat)) minExponent
    let (n, d) := pow2 q
    let m := divRoundEven (num * d) (den * n)
    let (m, q) := if m = Nat.pow 2 precision then (Nat.pow 2 (precision - 1), q + 1) else (m, q)
    if q > maxExponent then none
    else if m = 0 then some (zero negative)
    else some ⟨negative, m, q⟩

def ofNat (n : Nat) : Option Binary64 := round false n 1

def mul (x y : Binary64) : Option Binary64 :=
  let (a, b) := x.magnitude
  let (c, d) := y.magnitude
  round (x.negative != y.negative) (a * c) (b * d)

/-- The rounded quotient; a zero divisor is not allowed and gives `none`. -/
def div (x y : Binary64) : Option Binary64 :=
  if y.isZero then none
  else
    let (a, b) := x.magnitude
    let (c, d) := y.magnitude
    round (x.negative != y.negative) (a * d) (b * c)

def pow10 (k : Nat) : Option Binary64 := round false (Nat.pow 10 k) 1

end Binary64

end Chronicle
