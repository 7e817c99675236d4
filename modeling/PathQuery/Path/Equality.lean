import PathQuery.Path.Basic
import PathQuery.Json.Equality

/-!
# Equality of paths

Two paths are the same if they are built in the same way from the same names, numbers and literals.
Literals are compared as literals: the integer `1` and the double `1.0` are two literals, and the two
zeros are one.

## Main definitions

* `Path.same` — equality of paths.
-/

namespace PathQuery

mutual

/-- Equality of selectors. -/
def Selector.same : Selector → Selector → Bool
  | .name a, .name b => a == b
  | .index i, .index j => i == j
  | .slice a b c, .slice d e f => a == d && b == e && c == f
  | .wildcard, .wildcard => true
  | .filter f, .filter g => Filter.same f g
  | .descent s, .descent t => Selector.same s t
  | _, _ => false

/-- Equality of filters. -/
def Filter.same : Filter → Filter → Bool
  | .comparison o a b, .comparison p c d => o == p && Term.same a c && Term.same b d
  | .logic o a b, .logic p c d => o == p && Filter.same a c && Filter.same b d
  | .existence a p, .existence b q => a == b && sameSegments p q
  | .call f xs, .call g ys => f == g && sameArguments xs ys
  | .group f, .group g => Filter.same f g
  | .negation f, .negation g => Filter.same f g
  | _, _ => false

/-- Equality of terms. -/
def Term.same : Term → Term → Bool
  | .current, .current => true
  | .root, .root => true
  | .literal a, .literal b => a.sameLiteral b
  | .path a p, .path b q => a == b && sameSegments p q
  | .call f xs, .call g ys => f == g && sameArguments xs ys
  | _, _ => false

/-- Equality of arguments. -/
def Argument.same : Argument → Argument → Bool
  | .term a, .term b => Term.same a b
  | .filter f, .filter g => Filter.same f g
  | .path p, .path q => sameSegments p q
  | _, _ => false

/-- Equality of lists of selectors. -/
def sameSelectors : List Selector → List Selector → Bool
  | [], [] => true
  | s :: ss, t :: ts => Selector.same s t && sameSelectors ss ts
  | _, _ => false

/-- Equality of lists of segments. -/
def sameSegments : List (List Selector) → List (List Selector) → Bool
  | [], [] => true
  | s :: ss, t :: ts => sameSelectors s t && sameSegments ss ts
  | _, _ => false

/-- Equality of lists of arguments. -/
def sameArguments : List Argument → List Argument → Bool
  | [], [] => true
  | a :: as, b :: bs => Argument.same a b && sameArguments as bs
  | _, _ => false

end

/-- Equality of paths. -/
def Path.same (p q : Path) : Bool := sameSegments p.segments q.segments

end PathQuery
