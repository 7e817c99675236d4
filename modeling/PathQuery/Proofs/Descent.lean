import Mathlib.Data.List.Flatten
import Mathlib.Data.List.Sort
import PathQuery.Proofs.Composition
import PathQuery.Proofs.Node

/-!
# Descents

The subtree of the whole of a document lists its parts: the document itself and, at any depth, the elements
of its arrays and the members of its objects. Each of them is there once, since the list is in the order of
the document, and none is left out, since the list goes on from every part to all that is one step below.

A query that picks everything below the parts lists the parts in another order, that of their parents. The
parts that are parents themselves come in the order of the document, so each of them is listed before its
own elements or members are.

## Main definitions

* `Json.Part` — the parts of a document and their locations.

## Main results

* `Node.mem_subtree_root_iff` — the nodes that are listed are those that are reached.
* `Node.subtree_precedes` — a subtree is in the order of the document.
* `Path.descent_complete` — what is listed, and what the query for everything below selects.
-/

namespace PathQuery

open scoped List

/-- The parts of a document and their locations: the document itself, and each element and member of a
part. -/
inductive Json.Part (document : Json) : Location → Json → Prop
  | whole : Part document [.root] document
  | element {l : Location} {items : List Json} {i : Nat} {v : Json} (above : Part document l (.array items))
    (h : items[i]? = some v) : Part document (l ++ [.index i]) v
  | member {l : Location} {members : List (String × Json)} {name : String} {v : Json}
    (above : Part document l (.object members)) (h : (name, v) ∈ members) :
    Part document (l ++ [.key name]) v

namespace Node

variable {document : Json} {n c d : Node}

/-- The nodes that are reached are at the parts of the document. -/
theorem part_iff (proper : document.isProper = true) {l : Location} {v : Json} :
    document.Part l v ↔ ∃ n, Reached document n ∧ n.location = l ∧ n.value = v := by
  constructor
  · intro h
    induction h with
    | whole => exact ⟨root document, .root, rfl, rfl⟩
    | element above h ih =>
      obtain ⟨n, reached, rfl, hn⟩ := ih
      exact ⟨n.child (.index _) _, reached.child (by simp) (hn ▸ h), location_child _ _ _, rfl⟩
    | member above h ih =>
      obtain ⟨n, reached, rfl, hn⟩ := ih
      have unique := reached.isProper proper
      simp only [hn, Json.isProper, Bool.and_eq_true, decide_eq_true_eq] at unique
      have target := Json.member?_of_mem unique.1 h
      exact ⟨n.child (.key _) _, reached.child (by simp) (hn ▸ target), location_child _ _ _, rfl⟩
  · rintro ⟨n, reached, rfl, rfl⟩
    induction reached with
    | root => exact .whole
    | @child n step v above ne target ih =>
      obtain ⟨above, value, ancestors⟩ := n
      rw [location_child]
      cases step with
      | root => contradiction
      | key name =>
        cases value with
        | object members => exact ih.member (Json.mem_of_member? target)
        | _ => cases target
      | index i =>
        cases value with
        | array items => exact ih.element target
        | _ => cases target

/-! ## Everything is listed -/

/-- A subtree goes on from each of its nodes to the children. -/
theorem mem_subtree_of_mem_children (h : Reached document n) (proper : document.isProper = true) :
    ∀ d ∈ n.subtree, ∀ c ∈ d.children, c ∈ n.subtree := by
  apply h.below_induction proper
  intro n _ below d hd c hc
  apply mem_subtree_iff.2
  rcases mem_subtree_iff.1 hd with rfl | ⟨b, hb, hd⟩
  · exact .inr ⟨c, hc, mem_subtree_iff.2 (.inl rfl)⟩
  · exact .inr ⟨b, hb, below b hb d hd c hc⟩

/-- The subtree of the whole of a document holds the nodes that are reached. -/
theorem mem_subtree_root_iff (proper : document.isProper = true) :
    n ∈ (root document).subtree ↔ Reached document n := by
  constructor
  · exact Reached.root.of_mem_subtree proper n
  · intro h
    induction h with
    | root => exact mem_subtree_iff.2 (.inl rfl)
    | child above ne target ih =>
      exact mem_subtree_of_mem_children .root proper _ ih _ (child_mem_children ne target)

/-! ## The order of a subtree -/

/-- The location of a node leads on to the locations of the nodes below it. -/
theorem location_prefix (h : Reached document n) (proper : document.isProper = true) :
    ∀ d ∈ n.subtree, n.location <+: d.location := by
  apply h.below_induction proper
  intro n h below d hd
  rcases mem_subtree_iff.1 hd with rfl | ⟨c, hc, hd⟩
  · exact List.prefix_rfl
  · obtain ⟨step, v, -, -, rfl⟩ := mem_children (h.isProper proper) hc
    have longer : n.location <+: (n.child step v).location := by
      rw [location_child]
      exact List.prefix_append _ _
    exact longer.trans (below _ hc d hd)

/-- The children of a node are in the order of the document. -/
theorem children_precedes (h : Reached document n) (proper : document.isProper = true) :
    n.children.Pairwise fun c d => document.Precedes c.location d.location := by
  rw [List.pairwise_iff_getElem]
  intro i j hi hj hij
  have unique := h.isProper proper
  obtain ⟨step, v, -, -, first, hc⟩ := getElem?_children unique (List.getElem?_eq_getElem hi)
  obtain ⟨step', v', -, -, second, hd⟩ := getElem?_children unique (List.getElem?_eq_getElem hj)
  rw [hc, hd, location_child, location_child]
  exact Json.precedes_beside h.at? (by omega)

/-- What is below two nodes of one depth is in the order of the nodes. -/
theorem precedes_of_mem_subtree {m e : Node} (hn : Reached document n) (hm : Reached document m)
    (proper : document.isProper = true) (same : n.location.length = m.location.length)
    (h : document.Precedes n.location m.location) (hd : d ∈ n.subtree) (he : e ∈ m.subtree) :
    document.Precedes d.location e.location := by
  obtain ⟨rest, hrest⟩ := location_prefix hn proper d hd
  obtain ⟨rest', hrest'⟩ := location_prefix hm proper e he
  rw [← hrest, ← hrest']
  exact h.append same hn.at? hm.at? rest rest'

/-- A node comes before the nodes below it. -/
theorem precedes_of_mem_children (h : Reached document n) (proper : document.isProper = true)
    (hc : c ∈ n.children) (hd : d ∈ c.subtree) : document.Precedes n.location d.location := by
  obtain ⟨rest, hrest⟩ := location_prefix (h.of_mem_children proper hc) proper d hd
  obtain ⟨step, v, -, -, rfl⟩ := mem_children (h.isProper proper) hc
  rw [← hrest, location_child, List.append_assoc]
  exact Json.precedes_below h.at? step rest

/-- The children of a node are one step below it. -/
theorem length_location_of_mem_children (h : Reached document n) (proper : document.isProper = true)
    (hc : c ∈ n.children) : c.location.length = n.location.length + 1 := by
  obtain ⟨step, v, -, -, rfl⟩ := mem_children (h.isProper proper) hc
  rw [location_child, List.length_append, List.length_singleton]

/-- A subtree is in the order of the document. -/
theorem subtree_precedes (h : Reached document n) (proper : document.isProper = true) :
    n.subtree.Pairwise fun d e => document.Precedes d.location e.location := by
  apply h.below_induction proper
  intro n h below
  rw [subtree_eq, List.pairwise_cons, List.pairwise_flatMap]
  refine ⟨fun d hd => ?_, below, ?_⟩
  · obtain ⟨c, hc, hd⟩ := List.mem_flatMap.1 hd
    exact precedes_of_mem_children h proper hc hd
  · apply (children_precedes h proper).imp_of_mem
    intro c c' hc hc' before d hd e he
    have level := (length_location_of_mem_children h proper hc).trans
      (length_location_of_mem_children h proper hc').symm
    exact precedes_of_mem_subtree (h.of_mem_children proper hc) (h.of_mem_children proper hc') proper
      level before hd he

/-- Nodes in the order of the document are at different locations. -/
theorem nodup_of_precedes {nodes : List Node}
    (h : nodes.Pairwise fun d e => document.Precedes d.location e.location) :
    (nodes.map location).Nodup := by
  rw [List.Nodup, List.pairwise_map]
  exact h.imp Json.Precedes.ne

/-- If a node comes before another one, it is listed before it. -/
theorem pair_sublist_subtree {m : Node} (h : Reached document n) (proper : document.isProper = true)
    (hd : d ∈ n.subtree) (hm : m ∈ n.subtree) (before : document.Precedes d.location m.location) :
    [d, m] <+ n.subtree := by
  have asymmetric : Std.Antisymm fun d e : Node => document.Precedes d.location e.location :=
    ⟨fun _ _ h h' => absurd h' (List.lt_asymm h)⟩
  have distinct : [d, m].Nodup := by simpa using fun same => before.ne (congrArg location same)
  have listed : [d, m] ⊆ n.subtree := by simp [hd, hm]
  exact List.sublist_of_subperm_of_pairwise (List.subperm_of_subset distinct listed) (by simpa using before)
    (subtree_precedes h proper)

/-! ## Children of several nodes -/

/-- A node is a child of one node only. -/
theorem eq_of_mem_children {m : Node} (hn : Reached document n) (hm : Reached document m)
    (proper : document.isProper = true) (h : c ∈ n.children) (h' : c ∈ m.children) : n = m := by
  obtain ⟨step, v, -, -, rfl⟩ := mem_children (hn.isProper proper) h
  obtain ⟨step', v', -, -, same⟩ := mem_children (hm.isProper proper) h'
  have locations := congrArg location same
  rw [location_child, location_child] at locations
  exact hn.eq_of_location hm (List.append_singleton_inj.1 locations).1

/-- What is picked among the children of different nodes, at each of them nothing twice, is not picked
twice. -/
theorem nodup_flatMap_children {nodes : List Node} (reached : ∀ n ∈ nodes, Reached document n)
    (proper : document.isProper = true) (nodup : nodes.Nodup) {pick : Node → List Node}
    (h : ∀ n ∈ nodes, (pick n).Nodup ∧ pick n ⊆ n.children) : (nodes.flatMap pick).Nodup := by
  rw [List.Nodup, List.pairwise_flatMap]
  refine ⟨fun n hn => (h n hn).1, nodup.imp_of_mem fun {n m} hn hm ne => ?_⟩
  rintro c hc _ hc' rfl
  exact ne (eq_of_mem_children (reached n hn) (reached m hm) proper ((h n hn).2 hc) ((h m hm).2 hc'))

theorem nodup_children (h : Reached document n) (proper : document.isProper = true) :
    n.children.Nodup :=
  (nodup_of_precedes (children_precedes h proper)).of_map

theorem nodup_subtree (h : Reached document n) (proper : document.isProper = true) :
    n.subtree.Nodup :=
  (nodup_of_precedes (subtree_precedes h proper)).of_map

end Node

/-! ## The query for everything below -/

namespace Path

open Node

variable {document : Json} {n c d : Node}

/-- What is below the document, at any depth. -/
def everythingBelow : Path := ⟨[[.descent .wildcard]]⟩

/-- It selects the children of all nodes of the document. -/
theorem value_everythingBelow [Engine] (document : Json) :
    (everythingBelow.evaluate document).value = (root document).subtree.flatMap children := by
  show (evalSegment document true [.descent .wildcard] [root document]).value = _
  simp [value_evalSegment, Selector.eval]

theorem mem_everythingBelow_iff [Engine] (proper : document.isProper = true) :
    n ∈ (everythingBelow.evaluate document).value ↔ Reached document n ∧ n.location ≠ [.root] := by
  rw [value_everythingBelow, List.mem_flatMap]
  constructor
  · rintro ⟨d, hd, hn⟩
    have above := (mem_subtree_root_iff proper).1 hd
    refine ⟨above.of_mem_children proper hn, fun start => ?_⟩
    have level := length_location_of_mem_children above proper hn
    rw [start] at level
    simp [location] at level
  · rintro ⟨reached, inside⟩
    cases reached with
    | root => exact absurd rfl inside
    | child above ne target =>
      exact ⟨_, (mem_subtree_root_iff proper).2 above, child_mem_children ne target⟩

theorem nodup_everythingBelow [Engine] (proper : document.isProper = true) :
    (everythingBelow.evaluate document).value.Nodup := by
  rw [value_everythingBelow]
  exact nodup_flatMap_children (fun n hn => (mem_subtree_root_iff proper).1 hn) proper
    (nodup_subtree .root proper)
    fun n hn => ⟨nodup_children ((mem_subtree_root_iff proper).1 hn) proper, List.Subset.refl _⟩

/-- A node that is not the whole of the document is selected before its children. -/
theorem pair_sublist_everythingBelow [Engine] (h : Reached document d)
    (proper : document.isProper = true) (hc : c ∈ d.children) :
    d = root document ∨ [d, c] <+ (everythingBelow.evaluate document).value := by
  cases h with
  | root => exact .inl rfl
  | @child p step v above ne target =>
    have hd : p.child step v ∈ p.children := child_mem_children ne target
    have reached := above.of_mem_children proper hd
    have before := precedes_of_mem_children above proper hd (mem_subtree_iff.2 (.inl rfl))
    have parents := pair_sublist_subtree .root proper ((mem_subtree_root_iff proper).2 above)
      ((mem_subtree_root_iff proper).2 reached) before
    rw [value_everythingBelow]
    refine .inr (List.Sublist.trans ?_ (parents.flatMap children))
    exact (List.singleton_sublist.2 hd).append (by simpa using hc)

/-- The subtree of the whole of a document lists every part at its location, each once, in the order of
the document. The query for everything below selects every part but the document itself, each once, and a
part that is not the document itself before the parts that are one step below it. -/
theorem descent_complete [Engine] (proper : document.isProper = true) :
    ((∀ l v, document.Part l v ↔ ∃ n ∈ (root document).subtree, n.location = l ∧ n.value = v) ∧
      ((root document).subtree.map location).Nodup ∧
      ((root document).subtree.map location).Pairwise document.Precedes) ∧
    (∀ l v, document.Part l v ∧ l ≠ [.root] ↔
        ∃ n ∈ (everythingBelow.evaluate document).value, n.location = l ∧ n.value = v) ∧
      ((everythingBelow.evaluate document).value.map location).Nodup ∧
      ∀ l step, l ++ [step] ∈ (everythingBelow.evaluate document).value.map location →
        l = [.root] ∨ [l, l ++ [step]] <+ (everythingBelow.evaluate document).value.map location := by
  have order := subtree_precedes (n := root document) .root proper
  refine ⟨⟨?_, nodup_of_precedes order, List.pairwise_map.2 order⟩, ?_, ?_, ?_⟩
  · intro l v
    simp only [part_iff proper, mem_subtree_root_iff proper]
  · intro l v
    simp only [part_iff proper, mem_everythingBelow_iff proper]
    constructor
    · rintro ⟨⟨n, reached, rfl, hv⟩, inside⟩
      exact ⟨n, ⟨reached, inside⟩, rfl, hv⟩
    · rintro ⟨n, ⟨reached, inside⟩, rfl, hv⟩
      exact ⟨⟨n, reached, rfl, hv⟩, inside⟩
  · apply (nodup_everythingBelow proper).map_on
    intro n hn m hm same
    exact ((mem_everythingBelow_iff proper).1 hn).1.eq_of_location
      ((mem_everythingBelow_iff proper).1 hm).1 same
  · intro l step h
    obtain ⟨c, hc, location⟩ := List.mem_map.1 h
    rw [value_everythingBelow] at hc
    obtain ⟨d, hd, hc⟩ := List.mem_flatMap.1 hc
    have above := (mem_subtree_root_iff proper).1 hd
    obtain ⟨step', v, -, -, rfl⟩ := mem_children (above.isProper proper) hc
    rw [location_child] at location
    obtain ⟨rfl, rfl⟩ := List.append_singleton_inj.1 location
    rcases pair_sublist_everythingBelow above proper hc with rfl | before
    · exact .inl rfl
    · have locations := before.map Node.location
      rw [List.map_cons, List.map_singleton, location_child] at locations
      exact .inr locations

/-- A document with an array and an object in it. -/
def nested : Json := .object [("b", .array [.null, .object [("a", .bool true)]]), ("a", .null)]

/-- The query lists the members first, then the elements of the array, and then what is inside the second of
them. -/
theorem descent_complete_nested :
    nested.isProper = true ∧
      (∀ l v, nested.Part l v ↔ ∃ n ∈ (root nested).subtree, n.location = l ∧ n.value = v) ∧
      ((root nested).subtree.map location).Pairwise nested.Precedes ∧
      ((everythingBelow.evaluate nested).value.map location).Nodup ∧
      (everythingBelow.evaluate nested).value.map location =
        [[.root, .key "b"], [.root, .key "a"], [.root, .key "b", .index 0], [.root, .key "b", .index 1],
          [.root, .key "b", .index 1, .key "a"]] :=
  have proper : nested.isProper = true := by decide
  have complete := descent_complete proper
  ⟨proper, complete.1.1, complete.1.2.2, complete.2.2.1, rfl⟩

end Path

end PathQuery
