import PathQuery.Pattern.Expr

/-!
# How large a pattern is

A pattern takes space with its counted repetitions written out: a state for every set and every condition
in it, and for a set as many transitions as it needs. A run of ASCII characters is one transition. Any
other run has to be spelt in bytes, which takes some states for every block of encodings that it lies in.

## Main definitions

* `CharSet.price` — the space that a set takes.
* `Expr.cost` — the space that an expression takes, where sets have a given price.
* `costLimit` — the space that an expression may take.
-/

namespace PathQuery.Pattern

/-- How many runs a set has among the code points from `lo` on and below `hi`. -/
def CharSet.runs (s : CharSet) (lo hi : Nat) : Nat :=
  (hi - lo).fold (fun i _ count =>
    if s (lo + i) && (i = 0 || !s (lo + i - 1)) then count + 1 else count) 0

/-- The blocks of code points beyond ASCII in whose encodings each byte takes all values of one range. -/
def encodingBlocks : List (Nat × Nat) :=
  [(0x80, 0x800), (0x800, 0x1000), (0x1000, 0xD000), (0xD000, 0xD800), (0xE000, 0x10000),
   (0x10000, 0x40000), (0x40000, 0x100000), (0x100000, 0x110000)]

/-- The space that a set takes. -/
def CharSet.price (s : CharSet) : Nat :=
  32 + 8 * s.runs 0 0x80 + 64 * encodingBlocks.foldl (fun count (lo, hi) => count + s.runs lo hi) 0

/-- More than the space of any set that has a name. -/
def highestPrice : Nat := 100000

/-- The space that an expression takes with its counted repetitions written out. -/
def Expr.cost (price : CharSet → Nat) : Expr → Nat
  | .set s => price s
  | .seq a b => a.cost price + b.cost price
  | .alt a b => a.cost price + b.cost price + 32
  | .repetition body least most => max least (most.getD 1) * (body.cost price + 32) + 32
  | _ => 32

/-- The space that an expression may take. -/
def costLimit : Nat := 10 * 1024 * 1024

/-- Whether an expression is small enough. The runs of its sets are counted only if it matters. -/
def Expr.isSmall (e : Expr) : Bool :=
  e.cost (fun _ => highestPrice) ≤ costLimit || e.cost CharSet.price ≤ costLimit

end PathQuery.Pattern
