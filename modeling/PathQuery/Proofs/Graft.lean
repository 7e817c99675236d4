import PathQuery.Proofs.Path.Shape
import PathQuery.Proofs.Pointer

/-!
# Queries below a node

What a query selects below a node depends on the value of the node alone. Three things could tell the node
from a document of its own. The paths inside filters may start at the document, which a condition on the
query excludes. Nodes carry the way to them, but no selector looks at it, so that the nodes of a part can
be put into the place of the part afterwards. And a filter tests a whole object at the start of a query
only, so the first segment must not have one, unless there is no object to be tested.

## Main definitions

* `Shape.rootless` — no path inside a filter starts at the document.
* `Node.Relocates` — nodes seen as nodes of another document.
* `Node.graft` — a node of a part of a document as a node of the document.

## Main results

* `Selector.eval_document`, `evalSegments_document` — without paths from the document, only the nodes
  count.
* `Selector.eval_relocates`, `evalSegments_relocates` — what is selected moves along with the nodes.
* `Path.evaluate_below` — a query behind a chain of names and indices is the query on the part there.
-/

namespace PathQuery

open Logged

/-! ## Queries that do not look at the document -/

/-- No path inside a filter starts at the document. -/
def Shape.rootless : Shape where
  filter
    | .existence .root _ => false
    | _ => true
  term
    | .root => false
    | .path .root _ => false
    | _ => true

section Document

variable [Engine] (document document' : Json)

mutual

/-- What a selector picks does not depend on the document, if no path in it starts there. -/
theorem Selector.eval_document : ∀ s : Selector, s.every .rootless = true → ∀ (atStart : Bool) (n : Node),
    s.eval document atStart n = s.eval document' atStart n
  | .name key, _, _, _ => rfl
  | .index i, _, _, _ => rfl
  | .slice start stop step, _, _, _ => rfl
  | .wildcard, _, _, _ => rfl
  | .filter test, shape, atStart, n => by
    simp only [Selector.every, Bool.and_eq_true] at shape
    simp only [Selector.eval, Filter.eval_document test shape.2]
  | .descent inner, shape, atStart, n => by
    simp only [Selector.every, Bool.and_eq_true] at shape
    simp only [Selector.eval, Selector.eval_document inner shape.2]

theorem Filter.eval_document : ∀ f : Filter, f.every .rootless = true → ∀ current : Json,
    f.eval document current = f.eval document' current
  | .comparison op left right, shape, current => by
    simp only [Filter.every, Bool.and_eq_true] at shape
    simp only [Filter.eval, Term.eval_document left shape.2.1, Term.eval_document right shape.2.2]
  | .logic op left right, shape, current => by
    simp only [Filter.every, Bool.and_eq_true] at shape
    cases op <;>
      simp only [Filter.eval, Filter.eval_document left shape.2.1, Filter.eval_document right shape.2.2]
  | .existence anchor segments, shape, current => by
    simp only [Filter.every, Bool.and_eq_true] at shape
    cases anchor with
    | current => simp only [Filter.eval, Anchor.value, evalSegments_document segments shape.2]
    | root => cases shape.1
  | .call function args, shape, current => by
    simp only [Filter.every, Bool.and_eq_true] at shape
    simp only [Filter.eval, evalArguments_document args shape.2]
  | .group inner, shape, current => by
    simp only [Filter.every, Bool.and_eq_true] at shape
    simp only [Filter.eval, Filter.eval_document inner shape.2]
  | .negation inner, shape, current => by
    simp only [Filter.every, Bool.and_eq_true] at shape
    simp only [Filter.eval, Filter.eval_document inner shape.2]

theorem Term.eval_document : ∀ t : Term, t.every .rootless = true → ∀ current : Json,
    t.eval document current = t.eval document' current
  | .current, _, _ => rfl
  | .root, shape, _ => by cases shape
  | .literal value, _, _ => rfl
  | .path anchor segments, shape, current => by
    simp only [Term.every, Bool.and_eq_true] at shape
    cases anchor with
    | current => simp only [Term.eval, Anchor.value, evalSegments_document segments shape.2]
    | root => cases shape.1
  | .call function args, shape, current => by
    simp only [Term.every, Bool.and_eq_true] at shape
    simp only [Term.eval, evalArguments_document args shape.2]

theorem Argument.eval_document : ∀ a : Argument, a.every .rootless = true → ∀ current : Json,
    a.eval document current = a.eval document' current
  | .term t, shape, current => by
    simp only [Argument.every, Bool.and_eq_true] at shape
    simp only [Argument.eval, Term.eval_document t shape.2]
  | .filter f, shape, current => by
    simp only [Argument.every, Bool.and_eq_true] at shape
    simp only [Argument.eval, Filter.eval_document f shape.2]
  | .path segments, shape, current => by
    simp only [Argument.every, Bool.and_eq_true] at shape
    simp only [Argument.eval, evalSegments_document segments shape.2]

theorem evalSegment_document : ∀ s : List Selector, everySelector .rootless s = true →
    ∀ (atStart : Bool) (nodes : List Node),
      evalSegment document atStart s nodes = evalSegment document' atStart s nodes
  | [], _, _, _ => rfl
  | s :: rest, shape, atStart, nodes => by
    simp only [everySelector, Bool.and_eq_true] at shape
    simp only [evalSegment, Selector.eval_document s shape.1, evalSegment_document rest shape.2]

theorem evalSegments_document : ∀ segments : List (List Selector),
    everySegment .rootless segments = true → ∀ (atStart : Bool) (nodes : List Node),
      evalSegments document atStart segments nodes = evalSegments document' atStart segments nodes
  | [], _, _, _ => rfl
  | s :: rest, shape, atStart, nodes => by
    simp only [everySegment, Bool.and_eq_true] at shape
    simp only [evalSegments, evalSegment_document s shape.1.2, evalSegments_document rest shape.2]

theorem evalArguments_document : ∀ args : List Argument, everyArgument .rootless args = true →
    ∀ current : Json, evalArguments document args current = evalArguments document' args current
  | [], _, _ => rfl
  | a :: rest, shape, current => by
    simp only [everyArgument, Bool.and_eq_true] at shape
    simp only [evalArguments, Argument.eval_document a shape.1, evalArguments_document rest shape.2]

end

end Document

/-! ## Relocations -/

namespace Node

/-- The nodes of one document are seen as nodes of another one: with the same values, and with the same
steps below them. -/
structure Relocates (f : Node → Node) : Prop where
  value : ∀ m, (f m).value = m.value
  child : ∀ m step v, f (m.child step v) = (f m).child step v

namespace Relocates

variable {f : Node → Node} (hf : Relocates f)

include hf

theorem elements (m : Node) (items : List Json) (i : Nat) :
    (f m).elements i items = (m.elements i items).map f := by
  induction items generalizing i with
  | nil => rfl
  | cons v rest ih => rw [Node.elements, Node.elements, List.map_cons, ih, hf.child]

theorem members (m : Node) (ms : List (String × Json)) :
    (f m).members ms = (m.members ms).map f := by
  rw [Node.members, Node.members, List.map_map]
  exact List.map_congr_left fun member _ => (hf.child m _ _).symm

theorem children (m : Node) : (f m).children = m.children.map f := by
  simp only [Node.children, hf.value]
  split
  · exact hf.elements m _ 0
  · exact hf.members m _
  · rfl

theorem element (m : Node) (items : List Json) (i : Nat) :
    (f m).element items i = (m.element items i).map f := by
  simp only [Node.element]
  cases items[i]? with
  | none => rfl
  | some v => exact congrArg (fun c => [c]) (hf.child m _ v).symm

theorem named (m : Node) (name : String) : (f m).named name = (m.named name).map f := by
  simp only [Node.named, hf.value]
  split
  next ms _ =>
    cases Json.member? name ms with
    | none => rfl
    | some v => exact congrArg (fun c => [c]) (hf.child m _ v).symm
  next => rfl

theorem indexed (m : Node) (i : Int64) : (f m).indexed i = (m.indexed i).map f := by
  simp only [Node.indexed, hf.value]
  split
  next items _ =>
    cases resolveIndex i items.length with
    | none => rfl
    | some k => exact hf.element m items k
  next => rfl

theorem sliced (m : Node) (start stop step : Option Int64) :
    (f m).sliced start stop step = (m.sliced start stop step).map f := by
  simp only [Node.sliced, hf.value]
  split
  next items _ =>
    rw [List.map_flatMap]
    exact congrArg (List.flatMap · _) (funext fun k => hf.element m items k)
  next => rfl

theorem candidates (m : Node) (atStart : Bool) :
    (f m).candidates atStart = (m.candidates atStart).map f := by
  simp only [Node.candidates, hf.value]
  split
  · cases atStart with
    | true => rfl
    | false => exact hf.children m
  · exact hf.children m

mutual

/-- A subtree moves as a whole. -/
theorem subtree_of_value : ∀ (v : Json) (m : Node), m.value = v → (f m).subtree = m.subtree.map f
  | .array items, m, hm => by
    have below : ∀ n : Node, n.value = .array items → n.children = n.elements 0 items := by
      intro n hn
      simp only [Node.children, hn]
    rw [subtree_eq, subtree_eq m, List.map_cons, below _ ((hf.value m).trans hm), below m hm,
      subtrees_of_items items 0 m]
  | .object ms, m, hm => by
    have below : ∀ n : Node, n.value = .object ms → n.children = n.members ms := by
      intro n hn
      simp only [Node.children, hn]
    rw [subtree_eq, subtree_eq m, List.map_cons, below _ ((hf.value m).trans hm), below m hm,
      subtrees_of_members ms m]
  | .null, m, hm | .bool _, m, hm | .number _, m, hm | .string _, m, hm => by
    rw [subtree_eq, subtree_eq m, hf.children]
    simp only [Node.children, hm, List.map_nil, List.flatMap_nil, List.map_cons]

theorem subtrees_of_items : ∀ (items : List Json) (i : Nat) (m : Node),
    ((f m).elements i items).flatMap subtree = ((m.elements i items).flatMap subtree).map f
  | [], _, _ => rfl
  | v :: rest, i, m => by
    have first := subtree_of_value v (m.child (.index i) v) rfl
    simp only [Node.elements, List.flatMap_cons, List.map_append, subtrees_of_items rest (i + 1) m,
      ← hf.child, first]

theorem subtrees_of_members : ∀ (ms : List (String × Json)) (m : Node),
    ((f m).members ms).flatMap subtree = ((m.members ms).flatMap subtree).map f
  | [], _ => rfl
  | (name, v) :: rest, m => by
    have first := subtree_of_value v (m.child (.key name) v) rfl
    have others := subtrees_of_members rest m
    simp only [Node.members, List.map_cons, List.flatMap_cons, List.map_append] at others ⊢
    rw [others, ← hf.child, first]

end

theorem subtree (m : Node) : (f m).subtree = m.subtree.map f := hf.subtree_of_value m.value m rfl

end Relocates

end Node

section Relocation

variable [Engine] {f : Node → Node} (hf : Node.Relocates f) (document : Json)

include hf

/-- What a selector picks moves along with the node that it is applied to. -/
theorem Selector.eval_relocates : ∀ (s : Selector) (atStart : Bool) (m : Node),
    (s.eval document atStart (f m)).value = (s.eval document atStart m).value.map f
  | .name key, _, m => hf.named m key
  | .index i, _, m => hf.indexed m i
  | .slice start stop step, _, m => hf.sliced m start stop step
  | .wildcard, _, m => hf.children m
  | .filter test, atStart, m => by
    simp only [Selector.eval, hf.candidates, value_select, List.filter_map, Function.comp_def, hf.value]
  | .descent inner, _, m => by
    simp only [Selector.eval, hf.subtree, value_collect, List.flatMap_map, List.map_flatMap,
      Selector.eval_relocates inner]

theorem evalSegment_relocates (s : List Selector) (atStart : Bool) (nodes : List Node) :
    (evalSegment document atStart s (nodes.map f)).value =
      (evalSegment document atStart s nodes).value.map f := by
  simp only [value_evalSegment, List.flatMap_map, List.map_flatMap, Selector.eval_relocates hf]

theorem evalSegments_relocates (segments : List (List Selector)) (atStart : Bool) (nodes : List Node) :
    (evalSegments document atStart segments (nodes.map f)).value =
      (evalSegments document atStart segments nodes).value.map f := by
  induction segments generalizing atStart nodes with
  | nil => rfl
  | cons s rest ih => simp only [evalSegments, value_bind, evalSegment_relocates hf, ih]

end Relocation

/-! ## The start of a query -/

/-- Whether a selector is a filter. -/
def Selector.isFilter : Selector → Bool
  | .filter _ => true
  | _ => false

/-- Whether a document is an object. -/
def Json.isObject : Json → Bool
  | .object _ => true
  | _ => false

/-- Whether no filter of the first segment could test an object as a whole. -/
def startsPlain (v : Json) : List Segment → Bool
  | [] => true
  | s :: _ => !v.isObject || s.all fun t => !t.isFilter

/-- Only a filter at an object is different at the start of a query. -/
theorem Selector.eval_start [Engine] (document : Json) {s : Selector} {n : Node}
    (h : n.value.isObject = false ∨ s.isFilter = false) (atStart : Bool) :
    s.eval document atStart n = s.eval document false n := by
  cases s with
  | filter test =>
    have plain : n.value.isObject = false := h.resolve_right nofun
    have same : n.candidates atStart = n.candidates false := by
      obtain ⟨step, value, ancestors⟩ := n
      cases value with
      | object ms => cases plain
      | _ => rfl
    simp only [Selector.eval, same]
  | _ => rfl

theorem evalSegment_start [Engine] (document : Json) {s : Segment} {n : Node}
    (h : n.value.isObject = false ∨ ∀ t ∈ s, t.isFilter = false) (atStart : Bool) :
    evalSegment document atStart s [n] = evalSegment document false s [n] := by
  induction s with
  | nil => rfl
  | cons t rest ih =>
    have first := Selector.eval_start document (h.imp_right fun all => all t List.mem_cons_self) atStart
    have others := ih (h.imp_right fun all u hu => all u (List.mem_cons_of_mem t hu))
    simp only [evalSegment, collect, first, others]

theorem evalSegments_start [Engine] (document : Json) {segments : List Segment} {n : Node}
    (h : startsPlain n.value segments = true) (atStart : Bool) :
    evalSegments document atStart segments [n] = evalSegments document false segments [n] := by
  cases segments with
  | nil => rfl
  | cons s rest =>
    have plain : n.value.isObject = false ∨ ∀ t ∈ s, t.isFilter = false := by
      simpa [startsPlain] using h
    simp only [evalSegments, evalSegment_start document plain atStart]

/-! ## Grafts -/

namespace Node

/-- The node at the end of a way that starts at `n` instead of the whole of a document. -/
def graftAt (n : Node) (step : Step) (value : Json) : List (Step × Json) → Node
  | [] => ⟨n.step, value, n.ancestors⟩
  | (above, v) :: ancestors => (n.graftAt above v ancestors).child step value

/-- A node `m` of the value of `n` as a node of the document that `n` is in. -/
def graft (n m : Node) : Node := n.graftAt m.step m.value m.ancestors

theorem graft_relocates (n : Node) : Relocates n.graft where
  value m := by
    obtain ⟨step, value, ancestors⟩ := m
    cases ancestors <;> rfl
  child _ _ _ := rfl

/-- The steps to `n` come first, and the steps inside its value follow. -/
theorem location_graft (n m : Node) : (n.graft m).location = n.location ++ m.location.tail := by
  obtain ⟨step, value, ancestors⟩ := m
  induction ancestors generalizing step value with
  | nil => simp [graft, graftAt, location]
  | cons above rest ih =>
    have further : (n.graft ⟨step, value, above :: rest⟩).location =
        (n.graft ⟨above.1, above.2, rest⟩).location ++ [step] := location_child _ _ _
    have inside : location ⟨step, value, above :: rest⟩ =
        location ⟨above.1, above.2, rest⟩ ++ [step] := location_child ⟨above.1, above.2, rest⟩ _ _
    have start : location ⟨above.1, above.2, rest⟩ ≠ [] := by simp [location]
    rw [further, ih, inside, List.tail_append_of_ne_nil start, List.append_assoc]

end Node

/-! ## Chains of names and indices -/

/-- Whether a segment is a single name or index. -/
def Segment.isSingle : Segment → Bool
  | [.name _] => true
  | [.index _] => true
  | _ => false

theorem evalSegment_nil [Engine] (document : Json) (atStart : Bool) (s : Segment) :
    (evalSegment document atStart s []).value = [] := by
  simp [value_evalSegment]

/-- A single name or index leads from a node to one node at most. -/
theorem evalSegment_single [Engine] (document : Json) {s : Segment} (single : s.isSingle = true)
    (atStart : Bool) (n : Node) : (evalSegment document atStart s [n]).value.length ≤ 1 := by
  unfold Segment.isSingle at single
  split at single
  next key =>
    show (n.named key ++ [] ++ []).length ≤ 1
    rw [List.append_nil, List.append_nil, Node.named]
    split
    · exact Option.length_toList_le
    · exact Nat.zero_le 1
  next i =>
    show (n.indexed i ++ [] ++ []).length ≤ 1
    rw [List.append_nil, List.append_nil, Node.indexed]
    split
    next items _ =>
      cases resolveIndex i items.length with
      | none => exact Nat.zero_le 1
      | some k => exact Option.length_toList_le
    · exact Nat.zero_le 1
  next => cases single

/-- A chain of names and indices leads from a node to one node at most. -/
theorem evalSegments_single [Engine] (document : Json) {chain : List Segment}
    (single : ∀ s ∈ chain, s.isSingle = true) (atStart : Bool) {nodes : List Node}
    (h : nodes.length ≤ 1) : (evalSegments document atStart chain nodes).value.length ≤ 1 := by
  induction chain generalizing atStart nodes with
  | nil => exact h
  | cons s rest ih =>
    refine ih (fun t ht => single t (List.mem_cons_of_mem s ht)) false ?_
    match nodes, h with
    | [], _ =>
      rw [evalSegment_nil]
      exact Nat.zero_le 1
    | [n], _ => exact evalSegment_single document (single s List.mem_cons_self) atStart n

/-! ## A query behind a chain -/

namespace Path

/-- Behind a chain of names and indices that leads to a node, a query that never looks at the document
selects what it selects from the value of the node as a document of its own: in the same order, as often,
with the same values, and with the way to the node in front. -/
theorem evaluate_below [Engine] (document : Json) {chain query : List Segment} {n : Node}
    (ne : chain ≠ []) (single : ∀ s ∈ chain, s.isSingle = true)
    (reached : n ∈ (evaluate ⟨chain⟩ document).value)
    (rootless : (Path.mk query).every .rootless = true) (plain : startsPlain n.value query = true) :
    (evaluate ⟨chain ++ query⟩ document).value = (evaluate ⟨query⟩ n.value).value.map n.graft ∧
      ∀ m, (n.graft m).location = n.location ++ m.location.tail ∧ (n.graft m).value = m.value := by
  refine ⟨?_, fun m => ⟨n.location_graft m, n.graft_relocates.value m⟩⟩
  have upTo : (evalSegments document true chain [Node.root document]).value = [n] := by
    have start : [Node.root document].length ≤ 1 := Nat.le_refl 1
    have few := evalSegments_single document single true start
    obtain ⟨m, hm⟩ := List.length_eq_one_iff.1 (Nat.le_antisymm few (List.length_pos_of_mem reached))
    obtain rfl : n = m := List.mem_singleton.1 (hm ▸ reached)
    exact hm
  have behind : (true && chain.isEmpty) = false := by simpa using ne
  calc (evalSegments document true (chain ++ query) [Node.root document]).value
      = (evalSegments document false query [n]).value := by rw [evalSegments_append, upTo, behind]
    _ = (evalSegments n.value false query [n]).value := by
        rw [evalSegments_document document n.value query rootless]
    _ = (evalSegments n.value false query [Node.root n.value]).value.map n.graft :=
        evalSegments_relocates n.graft_relocates n.value query false [Node.root n.value]
    _ = (evalSegments n.value true query [Node.root n.value]).value.map n.graft := by
        rw [evalSegments_start n.value (n := Node.root n.value) plain true]

/-- An object with an array and an object in it. -/
def part : Json := .object [("b", .array [.bool true]), ("c", .object [("b", .null)])]

/-- The same object behind a name and an index. -/
def whole : Json := .object [("a", .array [.null, part])]

/-- The node where it stands. -/
def partNode : Node :=
  ((Node.root whole).child (.key "a") (.array [.null, part])).child (.index 1) part

/-- The chain to that node. -/
def partChain : List Segment := [[.name "a"], [.index (-1)]]

/-- What is null or has a first element, at any depth, and a member. -/
def partQuery : List Segment :=
  [[.descent (.filter (.logic .or (.existence .current [[.index 0]])
    (.comparison .eq .current (.literal .null)))), .name "c"]]

theorem evaluate_below_partNode :
    partChain ≠ [] ∧ (∀ s ∈ partChain, s.isSingle = true) ∧
    partNode ∈ (evaluate ⟨partChain⟩ whole).value ∧
    (Path.mk partQuery).every .rootless = true ∧ startsPlain partNode.value partQuery = true ∧
    ((evaluate ⟨partChain ++ partQuery⟩ whole).value = (evaluate ⟨partQuery⟩ part).value.map partNode.graft ∧
      ∀ m, (partNode.graft m).location = partNode.location ++ m.location.tail ∧
        (partNode.graft m).value = m.value) ∧
    (evaluate ⟨partQuery⟩ part).value.length = 3 :=
  have single : ∀ s ∈ partChain, s.isSingle = true := by decide
  have reached : partNode ∈ (evaluate ⟨partChain⟩ whole).value := .head _
  ⟨nofun, single, reached, rfl, rfl, evaluate_below whole nofun single reached rfl rfl, rfl⟩

end Path

end PathQuery
