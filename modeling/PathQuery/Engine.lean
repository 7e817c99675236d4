/-!
# Engines

Filters test strings against patterns. What a pattern is and what it matches is not theirs to decide:
they leave it to an engine for regular expressions, which takes a text for a pattern or refuses it, and
finds out whether a string has a match in it. All that is evaluated or compiled here has the engine as a
parameter.

To test the whole of a string, the text of a pattern is put between anchors and into a group, and the
engine is given the framed text.

## Main definitions

* `Engine` — what an engine does.
* `Extent`, `Extent.frame` — how much of a string is tested, and the text that the engine is given for
  it.
* `Engine.read?` — the pattern to test.
-/

namespace PathQuery

/-- An engine for regular expressions. -/
class Engine where
  /-- Patterns that are ready to be tested. -/
  Pattern : Type
  /-- The pattern that a text holds, if it holds one. -/
  ofText? : List Char → Option Pattern
  /-- Whether a string has a match of a pattern in it. -/
  test : Pattern → String → Bool

/-- How much of a string a pattern has to match. -/
inductive Extent where
  | whole | anywhere
deriving DecidableEq, Repr

/-- The text that is read for a pattern. -/
def Extent.frame (extent : Extent) (pattern : List Char) : List Char :=
  match extent with
  | whole => '^' :: '(' :: '?' :: ':' :: (pattern ++ [')', '$'])
  | anywhere => pattern

/-- The pattern to test for some extent. -/
def Engine.read? [Engine] (extent : Extent) (pattern : String) : Option Engine.Pattern :=
  Engine.ofText? (extent.frame pattern.toList)

end PathQuery
