import PathQuery.Json.Basic

/-!
# Operands

While a filter is worked out, a term stands for an operand: for nothing, for one value, or for several.
A value of the document and a computed value are told apart, although no comparison and no function
depends on the difference. A path that selects one node stands for the value of that node, not for a
list of one.

Nothing is the absence of a value, and null is a value.

## Main definitions

* `Operand`, `Operand.ofNodes` — operands, and the one that a path stands for.
* `Operand.json?` — the single value of an operand.
* `Operand.truthy` — operands that count as true.
* `Content`, `Operand.content` — what an operand comes down to where lists of one are their element.
-/

namespace PathQuery

/-- What a term of a filter stands for. -/
inductive Operand where
  | nothing
  /-- A value of the document. -/
  | node (value : Json)
  /-- A literal or a computed value. -/
  | owned (value : Json)
  /-- The values that a path selects, when it does not select just one. -/
  | nodes (values : List Json)
deriving Inhabited

/-- Whether a value counts as true: null, false, zero and the empty array do not. -/
def Json.truthy : Json → Bool
  | .null => false
  | .bool b => b
  | .number n => n.toFloat != 0.0
  | .array items => !items.isEmpty
  | _ => true

namespace Operand

/-- What a path stands for that selects some values: nothing if there are none, and a single one
itself. -/
def ofNodes : List Json → Operand
  | [] => nothing
  | [v] => node v
  | vs => nodes vs

/-- Whether an operand is nothing. -/
def isNothing : Operand → Bool
  | nothing => true
  | _ => false

/-- The single value of an operand. -/
def json? : Operand → Option Json
  | node v => some v
  | owned v => some v
  | _ => none

/-- Whether an operand counts as true where it is used as a test. -/
def truthy : Operand → Bool
  | nothing => false
  | node v => v.truthy
  | owned v => v.truthy
  | nodes vs => !vs.isEmpty

end Operand

/-- What an operand comes down to: nothing, one value, or the values of a list of another length than
one. -/
inductive Content where
  | nothing
  | one (value : Json)
  | many (values : List Json)

namespace Content

/-- An array of one element comes down to that element, any other value to itself. -/
def ofJson : Json → Content
  | .array [v] => one v
  | v => one v

/-- The single string that is there. -/
def string? : Content → Option String
  | one (.string s) => some s
  | _ => none

end Content

/-- What an operand comes down to. -/
def Operand.content : Operand → Content
  | .nothing => .nothing
  | .node v => .ofJson v
  | .owned v => .ofJson v
  | .nodes [v] => .one v
  | .nodes vs => .many vs

end PathQuery
