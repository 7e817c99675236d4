import PathQuery.Engine
import PathQuery.Pattern.Property
import PathQuery.Pattern.Reader
import PathQuery.Pattern.Size
import PathQuery.Unicode.CaseFolding

/-!
# Patterns

A text is a pattern if it has the form of one, the pattern is within the limits, and all sets that it
names are known. What is known, and how large a pattern may be, is up to a dialect. The dialect that
runs here has the tables of Unicode 15.0; the nesting of its patterns is bounded, and so is the space
that they take.

The engine that reads patterns of this dialect and works out where their matches end is the one that
filters use if they are given no other.

## Main definitions

* `Dialect.expr?` — the expression of a text.
* `Dialect.unicode` — the dialect that runs.
* `Pattern`, `Pattern.engine` — its patterns, and the engine for them.
-/

namespace PathQuery

namespace Pattern

/-- The expression of a text that is a pattern. -/
def Dialect.expr? (d : Dialect) (text : List Char) : Option Expr :=
  match Tree.read? text with
  | some tree => if d.fits tree then (tree.expr? d Flags.initial).map (·.1) else none
  | none => none

/-- What Unicode knows about characters, with patterns of any size. -/
def Dialect.unbounded : Dialect where
  shorthand := Shorthand.set
  property? := PropertyQuery.set?
  caseVariants := Unicode.caseVariants
  fits _ := true

/-- How deep a pattern may be nested. -/
def depthLimit : Nat := 250

/-- The dialect that runs: what Unicode knows about characters, with a limit on how deep patterns are
nested and on the space that they take. -/
def Dialect.unicode : Dialect :=
  { unbounded with
    fits := fun tree => tree.depth ≤ depthLimit &&
      (tree.expr? unbounded Flags.initial).all fun (e, _) => e.isSmall }

end Pattern

/-- A pattern that can be tested against strings. -/
structure Pattern where
  expr : Pattern.Expr

namespace Pattern

/-- The pattern that a text holds. -/
def ofText? (text : List Char) : Option Pattern := (Dialect.unicode.expr? text).map fun e => ⟨e⟩

/-- Whether a string has a match of a pattern in it. -/
def test (p : Pattern) (s : String) : Bool := p.expr.search s.toList.toArray

/-- The engine for the patterns of the dialect that runs. -/
instance engine : Engine := ⟨Pattern, ofText?, test⟩

end Pattern

end PathQuery
