import PathQuery.Node
import PathQuery.Path.Basic
import PathQuery.Slice

/-!
# What a selector picks

The selectors that need no filter pick nodes directly below a node, each node being reported once. Which
nodes a filter tests depends on the place of its segment: the first segment of a query that starts at an
object tests that object as a whole, and everywhere else the elements and members are tested.

## Main definitions

* `Node.named`, `Node.indexed`, `Node.sliced` — a member, an element, a slice.
* `Node.candidates` — the nodes that a filter tests.
* `Anchor.value` — the value that a path inside a filter starts at.
-/

namespace PathQuery

/-- The value that a path inside a filter starts at. -/
def Anchor.value (document current : Json) : Anchor → Json
  | .current => current
  | .root => document

namespace Node

/-- The member of an object that has a name. -/
def named (n : Node) (name : String) : List Node :=
  match n.value with
  | .object ms => ((Json.member? name ms).map (n.child (.key name))).toList
  | _ => []

/-- The element of an array at a position. -/
def element (n : Node) (items : List Json) (i : Nat) : List Node :=
  (items[i]?.map (n.child (.index i))).toList

/-- The element of an array at a possibly negative index. -/
def indexed (n : Node) (i : Int64) : List Node :=
  match n.value with
  | .array items => ((resolveIndex i items.length).map (n.element items)).getD []
  | _ => []

/-- The elements of an array that a slice visits. -/
def sliced (n : Node) (start stop step : Option Int64) : List Node :=
  match n.value with
  | .array items => (Slice.positions start stop step items.length).flatMap (n.element items)
  | _ => []

/-- The nodes that a filter tests: the node itself if it is the object that the query starts at, and
otherwise its children. -/
def candidates (n : Node) (atStart : Bool) : List Node :=
  match n.value with
  | .object _ => if atStart then [n] else n.children
  | _ => n.children

/-- Behind the start a filter tests the children. -/
@[simp] theorem candidates_false (n : Node) : n.candidates false = n.children := by
  unfold candidates
  split <;> rfl

end Node

end PathQuery
