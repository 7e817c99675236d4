import PathQuery.Json.Basic

/-!
# Paths

A path is a list of segments, and each segment is a list of selectors that are applied side by side. A
selector picks children of a node: one member, one element, a slice of the elements, all of them, those
that pass a filter, or whatever another selector picks at the node and at everything below it.

A filter is a condition on a candidate. Its comparisons and its function arguments are made of terms,
and terms may hold paths again, so that selectors, filters, terms and arguments are defined together.

Indices and the parts of a slice are words of sixty-four bits.

## Main definitions

* `Selector`, `Segment`, `Path` — what is selected.
* `Filter`, `Term`, `Argument` — conditions.
* `Segment.isRecursive` — segments that descend.
* `Segment.descendant` — the descending segment of some selectors.
* `Path.memberNames` — the member names that a path asks for.
-/

namespace PathQuery

/-- Where a path inside a filter starts. -/
inductive Anchor where
  /-- At the candidate under test. -/
  | current
  /-- At the document. -/
  | root
deriving DecidableEq, Repr

/-- The comparisons of a filter. -/
inductive CompareOp where
  | eq | ne | lt | le | gt | ge
deriving DecidableEq, Repr

/-- The two connectives of a filter. -/
inductive LogicOp where
  | and | or
deriving DecidableEq, Repr

mutual

/-- What is picked at a node. -/
inductive Selector where
  /-- The member of an object that has a name. -/
  | name (key : String)
  /-- The element of an array at a position, counted from the end if it is negative. -/
  | index (i : Int64)
  /-- The elements of an array from one position up to another one, by steps. -/
  | slice (start stop step : Option Int64)
  /-- All elements or members. -/
  | wildcard
  /-- The candidates that pass a filter. -/
  | filter (test : Filter)
  /-- What `inner` picks at the node and at all nodes below it. -/
  | descent (inner : Selector)

/-- A condition on a candidate. A path in it is given as its segments, each a list of selectors. -/
inductive Filter where
  | comparison (op : CompareOp) (left right : Term)
  | logic (op : LogicOp) (left right : Filter)
  /-- The path selects something. -/
  | existence (anchor : Anchor) (segments : List (List Selector))
  /-- The function gives something that counts as true. -/
  | call (function : String) (args : List Argument)
  | group (inner : Filter)
  | negation (inner : Filter)

/-- What stands on either side of a comparison. -/
inductive Term where
  /-- The candidate under test. -/
  | current
  /-- The document. -/
  | root
  | literal (value : Json)
  | path (anchor : Anchor) (segments : List (List Selector))
  | call (function : String) (args : List Argument)

/-- What a function is given. -/
inductive Argument where
  | term (t : Term)
  | filter (f : Filter)
  /-- The nodes that a path selects from the candidate under test. -/
  | path (segments : List (List Selector))

end

instance : Inhabited Selector := ⟨.wildcard⟩

instance : Inhabited Term := ⟨.current⟩

instance : Inhabited Filter := ⟨.existence .current []⟩

instance : Inhabited Argument := ⟨.term .current⟩

/-- Selectors that are applied side by side. -/
abbrev Segment := List Selector

/-- A query: the segments that are applied one after the other, from the document on. -/
structure Path where
  segments : List Segment
deriving Inhabited

/-! ## Descending segments -/

namespace Selector

/-- Whether a selector descends. -/
def isDescent : Selector → Bool
  | descent _ => true
  | _ => false

/-- The selector that a descent applies everywhere; any other selector itself. -/
def inner : Selector → Selector
  | descent s => s
  | s => s

/-- The member name that a selector asks for, at the node or below it. -/
def memberName? : Selector → Option String
  | name key => some key
  | descent s => memberName? s
  | _ => none

end Selector

namespace Segment

/-- Whether a segment descends: it has selectors, and all of them descend. -/
def isRecursive (s : Segment) : Bool := !s.isEmpty && s.all Selector.isDescent

/-- The segment that applies some selectors at a node and at all nodes below it. -/
def descendant (selectors : List Selector) : Segment := selectors.map .descent

end Segment

/-- The member names that a path asks for, in the order in which they stand in it. Those inside filters
do not count. -/
def Path.memberNames (p : Path) : List String := p.segments.flatten.filterMap Selector.memberName?

end PathQuery
