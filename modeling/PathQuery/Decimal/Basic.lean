import PathQuery.Text.Digit

/-!
# Decimals

A decimal is a coefficient and a power of ten. Every finite double is one, and every decimal has a
nearest double; this module holds the second direction, and `PathQuery.Decimal.Shortest` the first.

Two decimals with the same value must give the same double however many zeros they carry, so a decimal
is reduced before it is rounded: what is rounded depends on the value alone.

## Main definitions

* `Decimal.reduce` — the decimal of the same value whose coefficient has no zero at its end.
* `Decimal.toFloat` — the nearest double.
-/

namespace PathQuery

/-- The number `coefficient · 10 ^ exponent`. -/
structure Decimal where
  coefficient : Nat
  exponent : Int
deriving DecidableEq, Repr

namespace Decimal

/-- The number of decimal digits of `n`; zero has one. -/
def digitCount (n : Nat) : Nat := (Nat.toDigits 10 n).length

/-- Moves zeros at the end of a coefficient into the exponent. -/
def stripZeros (coefficient : Nat) (exponent : Int) : Decimal :=
  if 0 < coefficient ∧ coefficient % 10 = 0 then stripZeros (coefficient / 10) (exponent + 1)
  else ⟨coefficient, exponent⟩
termination_by coefficient

/-- The decimal of the same value whose coefficient has no zero at its end; zero has the exponent
zero. -/
def reduce (d : Decimal) : Decimal :=
  if d.coefficient = 0 then ⟨0, 0⟩ else stripZeros d.coefficient d.exponent

/-- The nearest double, a tie going to the even one. Beyond 10 ^ 400 every decimal rounds to infinity and
below 10 ^ -400 to zero, so that no power of ten of that size is ever formed. -/
def toFloat (d : Decimal) : Float :=
  let r := d.reduce
  let top : Int := digitCount r.coefficient + r.exponent
  if r.coefficient = 0 ∨ top < -400 then 0.0
  else if 400 < top then 1.0 / 0.0
  else match r.exponent with
    | .ofNat e => Float.ofScientific r.coefficient false e
    | .negSucc e => Float.ofScientific r.coefficient true (e + 1)

end Decimal

end PathQuery
