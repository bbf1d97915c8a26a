/-!
Decimal numbers as they are written: a sign, a whole coefficient and a power of ten. Trailing
zeros and the sign of zero are kept, so one value has many decimals; `Decimal.same` compares the
values.
-/

namespace CellFormula

/-- The number `± coefficient * 10 ^ exponent`. -/
structure Decimal where
  negative : Bool
  coefficient : Nat
  exponent : Int
  deriving DecidableEq

namespace Decimal

inductive Special where
  | infinity (negative : Bool)
  | nan (negative signaling : Bool) (payload : Nat)
  deriving DecidableEq

namespace Special

def negate : Special → Special
  | infinity negative => infinity !negative
  | nan negative signaling payload => nan (!negative) signaling payload

def signText (negative : Bool) : String := if negative then "-" else ""

def text : Special → String
  | infinity negative => signText negative ++ "Infinity"
  | nan negative signaling payload =>
    signText negative ++ (if signaling then "sNaN" else "NaN") ++
      (if payload = 0 then "" else String.ofList (Nat.toDigits 10 payload))

end Special

def digits (d : Decimal) : List Char := Nat.toDigits 10 d.coefficient

def adjusted (d : Decimal) : Int := d.exponent + d.digits.length - 1

def negate (d : Decimal) : Decimal := { d with negative := !d.negative }

def inRange (d : Decimal) : Bool :=
  d.adjusted ≤ 999999999999999999 && -1999999999999999997 ≤ d.exponent

def reduce (coefficient : Nat) (exponent : Int) : Nat × Int :=
  if coefficient ≠ 0 ∧ coefficient % 10 = 0 then reduce (coefficient / 10) (exponent + 1)
  else (coefficient, exponent)
termination_by coefficient
decreasing_by omega

def normal (d : Decimal) : Decimal :=
  if d.coefficient = 0 then ⟨false, 0, 0⟩
  else
    let (coefficient, exponent) := reduce d.coefficient d.exponent
    ⟨d.negative, coefficient, exponent⟩

def same (a b : Decimal) : Bool := a.normal == b.normal

theorem negate_negate (d : Decimal) : d.negate.negate = d := by simp [negate]

end Decimal

end CellFormula
