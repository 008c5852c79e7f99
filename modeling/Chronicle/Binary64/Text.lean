import Chronicle.Binary64.Shortest

/-! Writing binary64 numbers from their shortest decimal, in a chosen style. -/

namespace Chronicle

namespace Binary64

/-- How a number is laid out around its shortest digits: without an exponent when the position
of its decimal point lies in `(positionalAbove, positionalUpTo]`, else in scientific form. -/
structure Style where
  positionalAbove : Int
  positionalUpTo : Int
  plusSign : Bool
  exponentWidth : Nat

def digitsOf (n : Nat) : List Char := (Nat.toDigits 10 n)

/-- Writes a number in a style. -/
def write (s : Style) (x : Binary64) : String :=
  let sign := if x.negative then "-" else ""
  if x.isZero then sign ++ "0.0"
  else
    let (digits, e) := x.shortest
    let ds := digitsOf digits
    let len : Int := ds.length
    let point := len + e
    let zeros (k : Int) : List Char := List.replicate k.toNat '0'
    let body :=
      if s.positionalAbove < point ∧ point ≤ s.positionalUpTo then
        if point ≤ 0 then "0." ++ String.ofList (zeros (-point) ++ ds)
        else if point < len then
          String.ofList (ds.take point.toNat) ++ "." ++ String.ofList (ds.drop point.toNat)
        else String.ofList (ds ++ zeros (point - len)) ++ ".0"
      else
        let exp := point - 1
        let expDigits := digitsOf exp.natAbs
        let expText := String.ofList (List.replicate (s.exponentWidth - expDigits.length) '0' ++
          expDigits)
        let expSign := if exp < 0 then "-" else if s.plusSign then "+" else ""
        let mant := match ds with
          | [d] => String.ofList [d]
          | d :: rest => String.ofList (d :: '.' :: rest)
          | [] => "0"
        mant ++ "e" ++ expSign ++ expText
    sign ++ body

end Binary64

end Chronicle
