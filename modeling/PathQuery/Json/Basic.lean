/-!
# Documents

A document is a tree of arrays and objects over null, booleans, numbers and strings. The members of an
object keep the order in which they were written. A number is either an integer, which is exact, or a
double; the two are different numbers as far as the text of a document goes, and equal where values are
compared.

## Main definitions

* `Number`, `Json` — numbers and documents.
* `Number.toFloat` — the double that stands for a number in comparisons.
* `Json.member?` — the member of an object.
-/

namespace PathQuery

/-- A number of a document: an integer, or a double. -/
inductive Number where
  | integer (n : Int)
  | real (x : Float)
deriving DecidableEq, Repr

namespace Number

/-- The nearest double. -/
def toFloat : Number → Float
  | integer n => Float.ofInt n
  | real x => x

end Number

/-- A document, or a part of one. -/
inductive Json where
  | null
  | bool (b : Bool)
  | number (n : Number)
  | string (s : String)
  | array (items : List Json)
  | object (members : List (String × Json))
deriving Repr, Inhabited

namespace Json

/-- The value of the first member of a name. -/
def member? (name : String) (members : List (String × Json)) : Option Json := members.lookup name

/-- The integer `n` as a document. -/
def ofNat (n : Nat) : Json := .number (.integer n)

end Json

end PathQuery
