import PathQuery.Word

/-!
# Positions in an array

Indices and slices are given in words of sixty-four bits, and so is the arithmetic on them: a negative
position counts from the end, bounds are moved into the array, and the steps of a slice end where the
next one would leave the range of words.

## Main definitions

* `resolveIndex` — the position of a possibly negative index.
* `Slice.positions` — the positions that a slice visits, in order.
-/

namespace PathQuery

/-- A position counted from the end if it is negative. -/
def fromEnd (i n : Int64) : Int64 := if i < 0 then i + n else i

/-- The position that a possibly negative index denotes in an array of a length, if it lies inside. -/
def resolveIndex (i : Int64) (length : Nat) : Option Nat :=
  let n := Int64.ofNat length
  let i := fromEnd i n
  if 0 ≤ i ∧ i < n then some i.toNatClampNeg else none

namespace Slice

/-- The nearest word between two bounds. -/
def clamp (lo hi i : Int64) : Int64 := if i < lo then lo else if hi < i then hi else i

/-- The positions `i`, `i + step`, … as long as they pass `inside`; `bound` of them at most. -/
def walk (inside : Int64 → Bool) (step : Int64) : Nat → Int64 → List Nat
  | 0, _ => []
  | bound + 1, i =>
    if inside i then
      i.toNatClampNeg ::
        match Word.add? i step with
        | some next => walk inside step bound next
        | none => []
    else []

/-- The positions that the slice from `start` up to `stop` by `step` visits in an array of a length. No
position is visited twice, so the length bounds their number. A step of zero visits none; with a negative
step the slice runs down, and the parts that are left out stand for the whole array in that direction. -/
def positions (start stop step : Option Int64) (length : Nat) : List Nat :=
  let step := step.getD 1
  let n := Int64.ofNat length
  if step = 0 then []
  else if 0 < step then
    let lower := clamp 0 n (fromEnd (start.getD 0) n)
    let upper := clamp 0 n (fromEnd (stop.getD n) n)
    walk (· < upper) step length lower
  else
    let upper := clamp (-1) (n - 1) (fromEnd (start.getD (n - 1)) n)
    let lower := clamp (-1) (n - 1) (fromEnd (stop.getD (-n - 1)) n)
    walk (lower < ·) step length upper

end Slice

end PathQuery
