import PathQuery.Json.Basic

/-!
# Equality of documents

Two documents are equal if they have the same shape, with the members of an object in any order, and
their numbers agree. When numbers agree depends on the purpose, so it is a parameter: for a comparison
inside a filter they agree if they stand for the same double, and for two spellings of one path an
integer never agrees with a double.

## Main definitions

* `Json.agree` — equality of documents up to an agreement of numbers.
* `Json.sameValue` — equality by value.
* `Json.sameLiteral` — equality as literals.
-/

namespace PathQuery

namespace Number

/-- Whether two numbers stand for the same double. -/
def sameValue (a b : Number) : Bool := a.toFloat == b.toFloat

/-- Whether two numbers are the same integer or the same double. -/
def sameLiteral : Number → Number → Bool
  | integer m, integer n => m == n
  | real x, real y => x == y
  | _, _ => false

end Number

namespace Json

mutual

/-- Whether two documents have the same shape and agreeing numbers, the members of an object in any
order. -/
def agree (numbers : Number → Number → Bool) : Json → Json → Bool
  | .null, .null => true
  | .bool a, .bool b => a == b
  | .number a, .number b => numbers a b
  | .string a, .string b => a == b
  | .array xs, .array ys => agreeItems numbers xs ys
  | .object ms, .object ns => ms.length == ns.length && agreeMembers numbers ms ns
  | _, _ => false

/-- Whether two lists of items agree one by one. -/
def agreeItems (numbers : Number → Number → Bool) : List Json → List Json → Bool
  | [], [] => true
  | x :: xs, y :: ys => agree numbers x y && agreeItems numbers xs ys
  | _, _ => false

/-- Whether every member has one of the same name and an agreeing value among `ns`. -/
def agreeMembers (numbers : Number → Number → Bool) :
    List (String × Json) → List (String × Json) → Bool
  | [], _ => true
  | (name, x) :: ms, ns =>
    (match member? name ns with
      | some y => agree numbers x y
      | none => false) && agreeMembers numbers ms ns

end

/-- Equality by value: numbers agree if they stand for the same double. -/
def sameValue : Json → Json → Bool := agree Number.sameValue

/-- Equality of literals: an integer and a double differ. -/
def sameLiteral : Json → Json → Bool := agree Number.sameLiteral

end Json

end PathQuery
