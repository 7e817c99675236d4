import PathQuery.Location

/-!
# Nodes

A node is a part of a document together with the way to it: the step that leads to it, and the parts and
steps above it up to the start. What a path selects is a list of nodes.

## Main definitions

* `Node` — a part of a document and its ancestors.
* `Node.location` — the way to it.
* `Node.children` — the nodes one step below.
* `Node.subtree` — the node and all nodes below it, each before those below it.
-/

namespace PathQuery

/-- A part of a document: the step to it, its value, and the steps and values above it, the nearest
first. -/
structure Node where
  step : Step
  value : Json
  ancestors : List (Step × Json)

namespace Node

/-- The whole of a document. -/
def root (document : Json) : Node := ⟨.root, document, []⟩

/-- The node with a step and a value below `n`. -/
def child (n : Node) (step : Step) (value : Json) : Node :=
  ⟨step, value, (n.step, n.value) :: n.ancestors⟩

/-- The way to a node, from the start on. -/
def location (n : Node) : Location := (n.step :: n.ancestors.map (·.1)).reverse

/-- The path that selects exactly this node. -/
def pointer (n : Node) : String := n.location.pointer

/-- The JSON pointer of a node. -/
def jsonPointer (n : Node) : String := n.location.jsonPointer

/-! ## Below a node -/

/-- The elements of an array as nodes, the first of them at position `i`. -/
def elements (n : Node) : Nat → List Json → List Node
  | _, [] => []
  | i, v :: rest => n.child (.index i) v :: n.elements (i + 1) rest

theorem getElem?_elements (n : Node) (items : List Json) (i k : Nat) :
    (n.elements i items)[k]? = items[k]?.map (n.child (.index (i + k))) := by
  induction items generalizing i k with
  | nil => rfl
  | cons v rest ih =>
    cases k with
    | zero => rfl
    | succ k =>
      rw [elements, List.getElem?_cons_succ, List.getElem?_cons_succ, ih, Nat.add_right_comm,
        Nat.add_assoc]

/-- The members of an object as nodes. -/
def members (n : Node) (ms : List (String × Json)) : List Node := ms.map fun m => n.child (.key m.1) m.2

/-- The nodes one step below, in the order of the document. -/
def children (n : Node) : List Node :=
  match n.value with
  | .array items => n.elements 0 items
  | .object ms => n.members ms
  | _ => []

mutual

/-- The node with a step, a value and ancestors, and all nodes below it. -/
def subtreeOf (ancestors : List (Step × Json)) (step : Step) : Json → List Node
  | .array items =>
    ⟨step, .array items, ancestors⟩ :: subtreesOfItems ((step, .array items) :: ancestors) 0 items
  | .object ms =>
    ⟨step, .object ms, ancestors⟩ :: subtreesOfMembers ((step, .object ms) :: ancestors) ms
  | v => [⟨step, v, ancestors⟩]

/-- The elements of an array, the first of them at position `i`, and all nodes below them. -/
def subtreesOfItems (ancestors : List (Step × Json)) : Nat → List Json → List Node
  | _, [] => []
  | i, v :: rest => subtreeOf ancestors (.index i) v ++ subtreesOfItems ancestors (i + 1) rest

/-- The members of an object and all nodes below them. -/
def subtreesOfMembers (ancestors : List (Step × Json)) : List (String × Json) → List Node
  | [] => []
  | (name, v) :: rest => subtreeOf ancestors (.key name) v ++ subtreesOfMembers ancestors rest

end

/-- A node and all nodes below it, each before those below it and before its next sibling. -/
def subtree (n : Node) : List Node := subtreeOf n.ancestors n.step n.value

/-- The nodes below the elements of an array are those of the subtrees of its children. -/
theorem subtreesOfItems_eq (n : Node) (items : List Json) (i : Nat) :
    subtreesOfItems ((n.step, n.value) :: n.ancestors) i items =
      (n.elements i items).flatMap subtree := by
  induction items generalizing i with
  | nil => rfl
  | cons v rest ih =>
    simp only [subtreesOfItems, elements, List.flatMap_cons, ih]
    rfl

/-- The nodes below the members of an object are those of the subtrees of its children. -/
theorem subtreesOfMembers_eq (n : Node) (ms : List (String × Json)) :
    subtreesOfMembers ((n.step, n.value) :: n.ancestors) ms = (n.members ms).flatMap subtree := by
  induction ms with
  | nil => rfl
  | cons m rest ih =>
    obtain ⟨name, v⟩ := m
    simp only [subtreesOfMembers, members, List.map_cons, List.flatMap_cons] at ih ⊢
    rw [ih]
    rfl

/-- A node comes first, and the subtrees of its children follow. -/
theorem subtree_eq (n : Node) : n.subtree = n :: n.children.flatMap subtree := by
  obtain ⟨step, value, ancestors⟩ := n
  cases value with
  | array items =>
    exact congrArg _ (subtreesOfItems_eq ⟨step, .array items, ancestors⟩ items 0)
  | object ms => exact congrArg _ (subtreesOfMembers_eq ⟨step, .object ms, ancestors⟩ ms)
  | null => rfl
  | bool b => rfl
  | number x => rfl
  | string s => rfl

end Node

end PathQuery
