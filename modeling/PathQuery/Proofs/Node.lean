import PathQuery.Proofs.Composition
import PathQuery.Proofs.DocumentOrder

/-!
# Where nodes come from

Every selector picks its nodes among the children of a node, of the node itself and of the nodes below
it, so every node that a query selects is reached from the whole of the document by steps that lead into
its parts. This holds at every place of a query and of the paths inside its filters alike, and it says
all there is to say about a node: its value is what stands at its location, and its ancestors are what
stands above it.

A name leads to one member only if no other member has it, so documents are assumed to have no duplicate
names. Nothing else is asked of them, so what is said here is said of every property of documents that
rules duplicate names out and passes to their parts. The one that also keeps the arrays from being longer
than an index can count holds of every document that is held in memory.

## Main definitions

* `Json.isProper` — no duplicate names, and no array that is too long.
* `Json.Inherited` — a property that rules out duplicate names and passes from a document to its parts.
* `Node.Reached` — a node is reached from the whole of a document by steps.

## Main results

* `Node.Reached.at?` — a node that is reached has the value that stands at its location.
* `Selector.eval_reached`, `Path.evaluate_reached` — what is selected is reached.
-/

namespace PathQuery

/-! ## Proper documents -/

namespace Json

mutual

/-- Whether no object in a document has two members of one name, and no array has more elements than an
index can count. -/
def isProper : Json → Bool
  | .array items => decide (items.length < 0x8000000000000000) && properItems items
  | .object members => decide (members.map (·.1)).Nodup && properMembers members
  | _ => true

/-- Whether all items are proper. -/
def properItems : List Json → Bool
  | [] => true
  | v :: rest => isProper v && properItems rest

/-- Whether the values of all members are proper. -/
def properMembers : List (String × Json) → Bool
  | [] => true
  | (_, v) :: rest => isProper v && properMembers rest

end

theorem isProper_of_mem_items {items : List Json} {v : Json} (h : properItems items = true)
    (hv : v ∈ items) : v.isProper = true := by
  induction items with
  | nil => cases hv
  | cons w rest ih =>
    simp only [properItems, Bool.and_eq_true] at h
    rcases List.mem_cons.1 hv with rfl | hv
    · exact h.1
    · exact ih h.2 hv

theorem isProper_of_mem_members {members : List (String × Json)} {m : String × Json}
    (h : properMembers members = true) (hm : m ∈ members) : m.2.isProper = true := by
  induction members with
  | nil => cases hm
  | cons w rest ih =>
    simp only [properMembers, Bool.and_eq_true] at h
    rcases List.mem_cons.1 hm with rfl | hm
    · exact h.1
    · exact ih h.2 hm

/-- Without duplicate names, every member is the one of its name. -/
theorem member?_of_mem {members : List (String × Json)} {name : String} {v : Json}
    (nodup : (members.map (·.1)).Nodup) (hm : (name, v) ∈ members) :
    member? name members = some v := by
  induction members with
  | nil => cases hm
  | cons w rest ih =>
    obtain ⟨fresh, nodup⟩ := List.nodup_cons.1 nodup
    rcases List.mem_cons.1 hm with rfl | hm
    · rw [member?, List.lookup_cons_self]
    · have other : (name == w.1) = false := by
        apply beq_eq_false_iff_ne.2
        rintro rfl
        exact fresh (List.mem_map_of_mem (f := (·.1)) hm)
      rw [member?, List.lookup_cons, other]
      exact ih nodup hm

theorem mem_of_member? {members : List (String × Json)} {name : String} {v : Json}
    (h : member? name members = some v) : (name, v) ∈ members := by
  induction members with
  | nil => cases h
  | cons w rest ih =>
    rw [member?, List.lookup_cons] at h
    cases hw : name == w.1 with
    | true =>
      rw [hw] at h
      cases h
      rw [beq_iff_eq.1 hw]
      exact List.mem_cons_self
    | false =>
      rw [hw] at h
      exact List.mem_cons_of_mem w (ih h)

/-- A step into a proper document leads to one. -/
theorem isProper_of_target? {v w : Json} {step : Step} (h : v.isProper = true)
    (hw : step.target? v = some w) : w.isProper = true := by
  cases step with
  | root =>
    cases hw
    exact h
  | key name =>
    cases v with
    | object members =>
      simp only [isProper, Bool.and_eq_true] at h
      exact isProper_of_mem_members h.2 (mem_of_member? hw)
    | _ => cases hw
  | index i =>
    cases v with
    | array items =>
      simp only [isProper, Bool.and_eq_true] at h
      exact isProper_of_mem_items h.2 (List.mem_of_getElem? hw)
    | _ => cases hw

/-- A property that passes from a document to its parts, and that no document has in which an object has two
members of one name. -/
class Inherited (ok : Json → Bool) : Prop where
  target {v w : Json} {step : Step} : ok v = true → step.target? v = some w → ok w = true
  nodup {members : List (String × Json)} : ok (.object members) = true → (members.map (·.1)).Nodup

instance inherited_isProper : Inherited isProper where
  target := isProper_of_target?
  nodup proper := by
    simp only [isProper, Bool.and_eq_true, decide_eq_true_eq] at proper
    exact proper.1

/-- The positions in a proper document are words. -/
theorem index_lt_of_target? {v w : Json} {i : Nat} (h : v.isProper = true)
    (hw : (Step.index i).target? v = some w) : i < 0x8000000000000000 := by
  cases v with
  | array items =>
    obtain ⟨inside, -⟩ := List.getElem?_eq_some_iff.1 hw
    simp only [isProper, Bool.and_eq_true, decide_eq_true_eq] at h
    exact Nat.lt_trans inside h.1
  | _ => cases hw

/-- A location in two parts is looked up one part after the other. -/
theorem at?_append (v : Json) (l l' : Location) : v.at? (l ++ l') = (v.at? l).bind (·.at? l') := by
  induction l generalizing v with
  | nil => rfl
  | cons step l ih =>
    simp only [List.cons_append, at?]
    cases step.target? v with
    | none => rfl
    | some w => exact ih w

end Json

/-! ## Nodes that are reached -/

namespace Node

/-- A node is the whole of a document, or a step leads to it from a node that is reached. -/
inductive Reached (document : Json) : Node → Prop
  | root : Reached document (Node.root document)
  | child {n : Node} {step : Step} {v : Json} (above : Reached document n) (ne : step ≠ .root)
    (target : step.target? n.value = some v) : Reached document (n.child step v)

variable {document : Json} {n c : Node} {ok : Json → Bool} [Json.Inherited ok]

theorem location_child (n : Node) (step : Step) (v : Json) :
    (n.child step v).location = n.location ++ [step] := by
  simp [location, child]

namespace Reached

/-- A node that is reached has the value that stands at its location. -/
theorem at? (h : Reached document n) : document.at? n.location = some n.value := by
  induction h with
  | root => rfl
  | @child n step v _ _ target ih =>
    rw [location_child, Json.at?_append, ih]
    show (step.target? n.value).bind some = some v
    rw [target]
    rfl

theorem inherits (h : Reached document n) (holds : ok document = true) : ok n.value = true := by
  induction h with
  | root => exact holds
  | child _ _ target ih => exact Json.Inherited.target ih target

theorem isProper (h : Reached document n) (proper : document.isProper = true) :
    n.value.isProper = true := h.inherits proper

/-- Nodes that are reached at one location are the same. -/
theorem eq_of_location {m : Node} (hn : Reached document n) (hm : Reached document m)
    (same : n.location = m.location) : n = m := by
  -- The start is at a location of one step, and every other node is one step further than another one.
  induction hn generalizing m with
  | root =>
    cases hm with
    | root => rfl
    | @child m step v above ne target =>
      rw [location_child] at same
      have last : ([] : Location) ++ [.root] = m.location ++ [step] := same
      exact absurd (List.append_singleton_inj.1 last).2.symm ne
  | @child n step v above ne target ih =>
    rw [location_child] at same
    cases hm with
    | root =>
      have last : n.location ++ [step] = [] ++ [.root] := same
      exact absurd (List.append_singleton_inj.1 last).2 ne
    | @child m step' v' above' ne' target' =>
      rw [location_child] at same
      obtain ⟨further, rfl⟩ := List.append_singleton_inj.1 same
      obtain rfl := ih above' further
      obtain rfl := Option.some.inj (target.symm.trans target')
      rfl

end Reached

/-! ## Children and subtrees -/

/-- The children of a node are one step below it, each at its place. -/
theorem getElem?_children {k : Nat} (holds : ok n.value = true) (h : n.children[k]? = some c) :
    ∃ step v, step ≠ .root ∧ step.target? n.value = some v ∧ step.place n.value = k ∧
      c = n.child step v := by
  obtain ⟨step, value, ancestors⟩ := n
  cases value with
  | array items =>
    have h : (elements ⟨step, .array items, ancestors⟩ 0 items)[k]? = some c := h
    rw [getElem?_elements, Nat.zero_add] at h
    obtain ⟨v, hv, rfl⟩ := Option.map_eq_some_iff.1 h
    exact ⟨.index k, v, by simp, hv, rfl, rfl⟩
  | object ms =>
    have h : (members ⟨step, .object ms, ancestors⟩ ms)[k]? = some c := h
    rw [members, List.getElem?_map] at h
    obtain ⟨m, hm, rfl⟩ := Option.map_eq_some_iff.1 h
    have nodup := Json.Inherited.nodup holds
    exact ⟨.key m.1, m.2, by simp, Json.member?_of_mem nodup (List.mem_of_getElem? hm),
      Step.place_key nodup hm, rfl⟩
  | _ => cases h

/-- The children of a node are one step below it. -/
theorem mem_children (holds : ok n.value = true) (h : c ∈ n.children) :
    ∃ step v, step ≠ .root ∧ step.target? n.value = some v ∧ c = n.child step v := by
  obtain ⟨k, hk⟩ := List.getElem?_of_mem h
  obtain ⟨step, v, ne, target, -, rfl⟩ := getElem?_children holds hk
  exact ⟨step, v, ne, target, rfl⟩

/-- Every step out of a node leads to a child of it. -/
theorem child_mem_children {step : Step} {v : Json} (ne : step ≠ .root)
    (target : step.target? n.value = some v) : n.child step v ∈ n.children := by
  obtain ⟨above, value, ancestors⟩ := n
  cases step with
  | root => contradiction
  | key name =>
    cases value with
    | object ms => exact List.mem_map.2 ⟨(name, v), Json.mem_of_member? target, rfl⟩
    | _ => cases target
  | index i =>
    cases value with
    | array items =>
      have found : items[i]? = some v := target
      have there : (elements ⟨above, .array items, ancestors⟩ 0 items)[i]? =
          some (child ⟨above, .array items, ancestors⟩ (.index i) v) := by
        rw [getElem?_elements, found, Nat.zero_add]
        rfl
      exact List.mem_of_getElem? there
    | _ => cases target

theorem Reached.of_mem_children (h : Reached document n) (holds : ok document = true)
    (hc : c ∈ n.children) : Reached document c := by
  obtain ⟨step, v, ne, target, rfl⟩ := mem_children (h.inherits holds) hc
  exact h.child ne target

/-- A step leads to a smaller part. -/
theorem sizeOf_child_lt (holds : ok n.value = true) (h : c ∈ n.children) :
    sizeOf c.value < sizeOf n.value := by
  obtain ⟨step, v, ne, target, rfl⟩ := mem_children holds h
  obtain ⟨above, value, ancestors⟩ := n
  show sizeOf v < sizeOf value
  cases step with
  | root => contradiction
  | key name =>
    cases value with
    | object members =>
      have := List.sizeOf_lt_of_mem (Json.mem_of_member? target)
      simp only [Prod.mk.sizeOf_spec, Json.object.sizeOf_spec] at this ⊢
      omega
    | _ => cases target
  | index i =>
    cases value with
    | array items =>
      have := List.sizeOf_lt_of_mem (List.mem_of_getElem? target)
      simp only [Json.array.sizeOf_spec]
      omega
    | _ => cases target

/-- What holds of a node as soon as it holds of its children holds of every node that is reached. -/
theorem Reached.below_induction {P : Node → Prop} (holds : ok document = true)
    (step : ∀ n, Reached document n → (∀ c ∈ n.children, P c) → P n) (h : Reached document n) : P n := by
  induction hs : sizeOf n.value using Nat.strongRecOn generalizing n with
  | _ size ih =>
    apply step n h
    intro c hc
    have smaller := sizeOf_child_lt (h.inherits holds) hc
    exact ih _ (hs ▸ smaller) (h.of_mem_children holds hc) rfl

/-- The nodes of a subtree are the node itself and the nodes of the subtrees of its children. -/
theorem mem_subtree_iff {d : Node} : d ∈ n.subtree ↔ d = n ∨ ∃ c ∈ n.children, d ∈ c.subtree := by
  rw [subtree_eq, List.mem_cons, List.mem_flatMap]

/-- What is below a node that is reached is reached. -/
theorem Reached.of_mem_subtree (h : Reached document n) (holds : ok document = true) :
    ∀ d ∈ n.subtree, Reached document d := by
  apply h.below_induction holds
  intro n h below d hd
  rcases mem_subtree_iff.1 hd with rfl | ⟨c, hc, hd⟩
  · exact h
  · exact below c hc d hd

end Node

/-! ## What is selected -/

open Logged Node

variable {document : Json} {n c : Node} {ok : Json → Bool} [Json.Inherited ok]

theorem Node.Reached.of_mem_named (h : Reached document n) {name : String} (hc : c ∈ n.named name) :
    Reached document c := by
  unfold named at hc
  split at hc
  next members hn =>
    obtain ⟨v, hv, rfl⟩ : ∃ v, Json.member? name members = some v ∧ n.child (.key name) v = c := by
      simpa using hc
    exact h.child nofun (by rw [hn]; exact hv)
  next => cases hc

theorem Node.Reached.of_mem_element (h : Reached document n) {items : List Json} {i : Nat}
    (hn : n.value = .array items) (hc : c ∈ n.element items i) : Reached document c := by
  obtain ⟨v, hv, rfl⟩ : ∃ v, items[i]? = some v ∧ n.child (.index i) v = c := by
    simpa [element] using hc
  exact h.child nofun (by rw [hn]; exact hv)

theorem Node.Reached.of_mem_indexed (h : Reached document n) {i : Int64} (hc : c ∈ n.indexed i) :
    Reached document c := by
  unfold indexed at hc
  split at hc
  next items hn =>
    cases hi : resolveIndex i items.length with
    | none =>
      rw [hi] at hc
      cases hc
    | some k =>
      rw [hi] at hc
      exact h.of_mem_element hn hc
  next => cases hc

theorem Node.Reached.of_mem_sliced (h : Reached document n) {start stop step : Option Int64}
    (hc : c ∈ n.sliced start stop step) : Reached document c := by
  unfold sliced at hc
  split at hc
  next items hn =>
    obtain ⟨i, -, hc⟩ := List.mem_flatMap.1 hc
    exact h.of_mem_element hn hc
  next => cases hc

theorem Node.Reached.of_mem_candidates (h : Reached document n) (holds : ok document = true)
    {atStart : Bool} (hc : c ∈ n.candidates atStart) : Reached document c := by
  unfold candidates at hc
  split at hc
  · split at hc
    · rw [List.mem_singleton.1 hc]
      exact h
    · exact h.of_mem_children holds hc
  · exact h.of_mem_children holds hc

/-- What a selector picks at a node that is reached is reached. -/
theorem Selector.eval_reached [Engine] (holds : ok document = true) {atStart : Bool} :
    ∀ (s : Selector) (n : Node), Reached document n →
      ∀ c ∈ (s.eval document atStart n).value, Reached document c
  | .name key, n, h, c, hc => h.of_mem_named hc
  | .index i, n, h, c, hc => h.of_mem_indexed hc
  | .slice start stop step, n, h, c, hc => h.of_mem_sliced hc
  | .wildcard, n, h, c, hc => h.of_mem_children holds hc
  | .filter test, n, h, c, hc => by
    rw [Selector.eval, value_select] at hc
    exact h.of_mem_candidates holds (List.mem_filter.1 hc).1
  | .descent inner, n, h, c, hc => by
    rw [Selector.eval, value_collect] at hc
    obtain ⟨d, hd, hc⟩ := List.mem_flatMap.1 hc
    exact Selector.eval_reached holds inner d (h.of_mem_subtree holds d hd) c hc

theorem evalSegment_reached [Engine] (holds : ok document = true) {atStart : Bool}
    {selectors : List Selector} {nodes : List Node} (h : ∀ n ∈ nodes, Reached document n) :
    ∀ c ∈ (evalSegment document atStart selectors nodes).value, Reached document c := by
  intro c hc
  rw [value_evalSegment] at hc
  obtain ⟨s, -, hc⟩ := List.mem_flatMap.1 hc
  obtain ⟨n, hn, hc⟩ := List.mem_flatMap.1 hc
  exact s.eval_reached holds n (h n hn) c hc

theorem evalSegments_reached [Engine] (holds : ok document = true) {atStart : Bool}
    {segments : List (List Selector)} {nodes : List Node} (h : ∀ n ∈ nodes, Reached document n) :
    ∀ c ∈ (evalSegments document atStart segments nodes).value, Reached document c := by
  induction segments generalizing atStart nodes with
  | nil => exact h
  | cons s rest ih => exact ih (evalSegment_reached holds h)

/-- Every node that a query selects is reached from the document. -/
theorem Path.evaluate_reached [Engine] (holds : ok document = true) (p : Path) :
    ∀ c ∈ (p.evaluate document).value, Reached document c :=
  evalSegments_reached holds fun n hn => by
    rw [List.mem_singleton.1 hn]
    exact .root

end PathQuery
