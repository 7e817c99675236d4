import PathQuery.Decimal.Basic

/-!
# The shortest decimal of a double

Among the decimals that round to a given double, the one written is the one with the fewest digits, and
of those the nearest to the double. It is found on the decimal grids, from coarse to fine: on a grid the
two neighbours of the double are the only candidates, the nearer one is tried first, and a tie goes to
the even one. The first candidate that reads back is the answer, and a grid of seventeen digits always
holds one.

All distances are those of whole numbers: a double is `m · 2 ^ q`, taken apart from its bits.

## Main definitions

* `Decimal.shortest` — the shortest decimal of a positive finite double.
* `Decimal.Layout`, `Decimal.Layout.write` — where a decimal is written out and where it gets an exponent.
-/

namespace PathQuery.Decimal

/-! ## The double as a fraction -/

/-- The integer `m` of the form `m · 2 ^ q` of a double, without its sign. -/
def significand (x : Float) : Nat :=
  let bits := x.toBits.toNat % (1 <<< 63)
  let fraction := bits % (1 <<< 52)
  if bits / (1 <<< 52) = 0 then fraction else fraction + (1 <<< 52)

/-- The power `q` of the form `m · 2 ^ q` of a double. -/
def binaryExponent (x : Float) : Int :=
  let bits := x.toBits.toNat % (1 <<< 63)
  (max (bits / (1 <<< 52)) 1 : Nat) - 1075

/-- The power of ten `k` with `10 ^ k ≤ num / den < 10 ^ (k + 1)`, for a positive fraction. -/
def magnitude (num den : Nat) : Int :=
  if den ≤ num then digitCount (num / den) - 1 else -(digitCount ((den - 1) / num) : Int)

/-! ## Candidates -/

/-- The two neighbours of `num / den` among the whole numbers, the nearer one first and, of two equally
near ones, the even one. -/
def neighbours (num den : Nat) : List Nat :=
  let low := num / den
  let twice := 2 * (num % den)
  if twice < den ∨ (twice = den ∧ low % 2 = 0) then [low, low + 1] else [low + 1, low]

/-- The two neighbours of `num / den` among the multiples of `10 ^ place`. -/
def candidates (num den : Nat) (place : Int) : List Decimal :=
  let found := match place with
    | .ofNat p => neighbours num (den * Nat.pow 10 p)
    | .negSucc p => neighbours (num * Nat.pow 10 (p + 1)) den
  found.map (⟨·, place⟩)

/-- The shortest decimal that reads back to a positive finite double, and of the shortest ones the
nearest. -/
def shortest (x : Float) : Decimal :=
  let q := binaryExponent x
  let num := significand x <<< q.toNat
  let den := 1 <<< (-q).toNat
  let top := magnitude num den
  let grids := (List.range 17).flatMap fun (n : Nat) => candidates num den (top - n)
  ((grids.find? fun d => d.toFloat == x).getD ⟨num, 0⟩).reduce

/-! ## Layout -/

/-- The exponents between which a number is written out; beyond them it is written with an exponent. -/
structure Layout where
  least : Int
  most : Int

/-- The digits of a decimal. A number that is written out always has a fraction; one that is written with
an exponent has one digit before the point and a fraction only if it has more digits, and its exponent
has a sign. -/
def Layout.write (l : Layout) (d : Decimal) : List Char :=
  let digits := Nat.toDigits 10 d.coefficient
  let count : Int := digits.length
  let top := d.exponent + count - 1
  if top < l.least ∨ l.most < top then
    let fraction := match digits.tail with
      | [] => []
      | more => '.' :: more
    let sign := if top < 0 then '-' else '+'
    digits.take 1 ++ fraction ++ 'e' :: sign :: Nat.toDigits 10 top.natAbs
  else if top < 0 then
    '0' :: '.' :: (List.replicate (top.natAbs - 1) '0' ++ digits)
  else if 0 ≤ d.exponent then
    digits ++ List.replicate d.exponent.toNat '0' ++ ['.', '0']
  else
    digits.take (top.toNat + 1) ++ '.' :: digits.drop (top.toNat + 1)

end PathQuery.Decimal
