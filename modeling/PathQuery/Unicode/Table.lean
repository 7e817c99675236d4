import PathQuery.Text.Digit

/-!
# Tables over the code points

A property of characters is constant over long runs of code points, so it is kept as the sorted starts
of its runs and found by bisection. Two shapes cover all properties used here: a `RangeTable` is a set
of code points given by disjoint ranges, and a `Partition` gives every code point the value of the run
it lies in.

Both are written down as texts, in the notation of the character database: `41-5A AA` is the set of the
code points from 41 to 5A together with AA, and `0:Cc 20:Zs` gives `Cc` to the code points below 20 and
`Zs` to those from 20 on, all in base sixteen.

## Main definitions

* `countUpTo` — how many entries of a sorted array are at most `n`.
* `RangeTable.ofRanges`, `RangeTable.ofText`, `RangeTable.contains` — sets of code points.
* `Partition.ofText`, `Partition.value` — the value at a code point.
-/

namespace PathQuery.Unicode

/-! ## Bisection -/

/-- The number of entries that are at most `n` among those of `starts` from `lo` to `hi`, when the
entries ascend and those before `lo` are at most `n`. -/
def bisect (starts : Array Nat) (n lo hi : Nat) : Nat :=
  if lo < hi then
    let mid := (lo + hi) / 2
    if starts.getD mid 0 ≤ n then bisect starts n (mid + 1) hi else bisect starts n lo mid
  else lo
termination_by hi - lo

/-- The number of entries of an ascending array that are at most `n`. -/
def countUpTo (starts : Array Nat) (n : Nat) : Nat := bisect starts n 0 starts.size

/-! ## Texts of tables -/

/-- The words of a text: its longest runs of characters other than blanks and line ends. -/
def words (text : List Char) : List (List Char) :=
  let split := text.foldr (fun c ws =>
    if c = ' ' ∨ c = '\n' then [] :: ws
    else match ws with
      | [] => [[c]]
      | w :: ws => (c :: w) :: ws) [[]]
  split.filter (!·.isEmpty)

/-- A word cut at the first `mark`: the part before it, and the part behind it if there is a mark. -/
def cutAt (mark : Char) (word : List Char) : List Char × Option (List Char) :=
  match word.span (· ≠ mark) with
  | (before, []) => (before, none)
  | (before, _ :: behind) => (before, some behind)

/-- The code point that a word of hexadecimal digits names. -/
def codePoint (word : List Char) : Nat := (natOfHex? word).getD 0

/-! ## Sets of code points -/

/-- A set of code points: the first and the last code point of each of its ranges, in ascending order. -/
structure RangeTable where
  starts : Array Nat
  ends : Array Nat

namespace RangeTable

/-- The table of some ranges. -/
def ofRanges (ranges : List (Nat × Nat)) : RangeTable where
  starts := (ranges.map (·.1)).toArray
  ends := (ranges.map (·.2)).toArray

/-- Reads ranges such as `41-5A AA`. -/
def ofText (text : String) : RangeTable :=
  .ofRanges <| (words text.toList).map fun word =>
    let (lo, hi) := cutAt '-' word
    (codePoint lo, codePoint (hi.getD lo))

/-- Whether a code point lies in one of the ranges. -/
def contains (t : RangeTable) (n : Nat) : Bool :=
  match countUpTo t.starts n with
  | 0 => false
  | i + 1 => n ≤ t.ends.getD i 0

end RangeTable

/-! ## Partitions of the code points -/

/-- A value for every code point: the first code point of each run, in ascending order, and its value. -/
structure Partition (α : Type) where
  starts : Array Nat
  values : Array α

namespace Partition

/-- Reads runs such as `0:Cc 20:Zs`, where `value` reads what stands behind the colon. -/
def ofText {α : Type} (value : List Char → α) (text : String) : Partition α :=
  let runs := (words text.toList).map fun word =>
    let (start, name) := cutAt ':' word
    (codePoint start, value (name.getD []))
  { starts := (runs.map (·.1)).toArray, values := (runs.map (·.2)).toArray }

/-- The value of the run that a code point lies in, if there is one. -/
def value? {α : Type} (p : Partition α) (n : Nat) : Option α :=
  match countUpTo p.starts n with
  | 0 => none
  | i + 1 => p.values[i]?

end Partition

end PathQuery.Unicode
