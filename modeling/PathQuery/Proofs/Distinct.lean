import PathQuery.Proofs.Descent
import PathQuery.Proofs.Graft
import PathQuery.Proofs.Path.Shape
import PathQuery.Proofs.Slice

/-!
# No node twice

A selector that does not descend picks some of the children of a node, in their order or, if it is a slice
that steps back, in the opposite order. So with one selector to a segment nothing is picked twice: different
nodes have different children. A descent is different, because the subtrees of two nodes can overlap. They
do not as long as the nodes are at one depth, and until the first descent they are: every segment leads one
step down, but for a filter that tests the document as a whole and leads nowhere.

At one depth the children also come in the order of the document if the nodes do.

## Main definitions

* `Selector.stepsBack` — slices with a negative step.
* `Node.IsRow` — different nodes at one depth.

## Main results

* `Selector.eval_sublist`, `Selector.eval_sublist_reverse` — what is picked, as a part of the children.
* `evalSegments_nodup` — with one descent at most, nothing is selected twice.
* `evalSegments_precedes` — without a descent and without steps back, the order is that of the document.
* `Path.evaluate_distinct` — whole queries.
-/

namespace PathQuery

open Logged Node

open scoped List

/-! ## What is picked among the children -/

/-- What a list holds at ascending positions is a part of it. -/
theorem filterMap_getElem?_sublist {α : Type} {ks : List Nat} (l : List α) (h : ks.Pairwise (· < ·)) :
    ks.filterMap (l[·]?) <+ l := by
  -- From a position on, what is there is a part of the rest of the list.
  suffices later : ∀ i, (∀ k ∈ ks, i ≤ k) → ks.filterMap (l[·]?) <+ l.drop i from
    later 0 fun k _ => Nat.zero_le k
  induction ks with
  | nil => exact fun _ _ => List.nil_sublist _
  | cons k rest ih =>
    intro i bound
    obtain ⟨ahead, h⟩ := List.pairwise_cons.1 h
    have others := ih h (k + 1) ahead
    have inside : l.drop k <+ l.drop i := List.drop_sublist_drop_left l (bound k List.mem_cons_self)
    cases hk : l[k]? with
    | none =>
      rw [List.filterMap_cons_none hk]
      exact others.trans ((List.drop_sublist_drop_left l (Nat.le_succ k)).trans inside)
    | some a =>
      obtain ⟨short, rfl⟩ := List.getElem?_eq_some_iff.1 hk
      rw [List.filterMap_cons_some hk]
      rw [List.drop_eq_getElem_cons short] at inside
      exact (others.cons_cons _).trans inside

/-- Whether a selector is a slice with a negative step. -/
def Selector.stepsBack : Selector → Bool
  | .slice _ _ step => decide (step.getD 1 < 0)
  | _ => false

section Picked

variable {document : Json} {n : Node}

theorem Node.element_eq {items : List Json} (hn : n.value = .array items) (i : Nat) :
    n.element items i = n.children[i]?.toList := by
  simp only [element, children, hn, getElem?_elements, Nat.zero_add]

theorem Node.sliced_eq {items : List Json} (hn : n.value = .array items)
    (start stop step : Option Int64) : n.sliced start stop step =
      (Slice.positions start stop step items.length).filterMap (n.children[·]?) := by
  simp only [sliced, hn, List.filterMap_eq_flatMap_toList]
  exact List.flatMap_congr fun i _ => element_eq hn i

/-- A selector that neither descends nor steps back picks some of the children in their order. -/
theorem Selector.eval_sublist [Engine] {s : Selector} (plain : s.isDescent = false)
    (ahead : s.stepsBack = false) (proper : n.value.isProper = true) :
    (s.eval document false n).value <+ n.children := by
  cases s with
  | name key =>
    show n.named key <+ n.children
    unfold named
    split
    next members hn =>
      cases hv : Json.member? key members with
      | none => exact List.nil_sublist _
      | some v => exact List.singleton_sublist.2 (child_mem_children nofun (by rw [hn]; exact hv))
    next => exact List.nil_sublist _
  | index i =>
    show n.indexed i <+ n.children
    unfold indexed
    split
    next items hn =>
      cases resolveIndex i items.length with
      | none => exact List.nil_sublist _
      | some k =>
        show n.element items k <+ n.children
        rw [element_eq hn]
        cases hk : n.children[k]? with
        | none => exact List.nil_sublist _
        | some c => exact List.singleton_sublist.2 (List.mem_of_getElem? hk)
    next => exact List.nil_sublist _
  | slice start stop step =>
    show n.sliced start stop step <+ n.children
    cases hn : n.value with
    | array items =>
      rw [hn, Json.isProper, Bool.and_eq_true, decide_eq_true_eq] at proper
      rw [sliced_eq hn]
      exact filterMap_getElem?_sublist _
        (Slice.positions_ascending proper.1 (by simpa [stepsBack] using ahead))
    | _ => simp [sliced, hn]
  | wildcard => exact List.Sublist.refl _
  | filter test =>
    simp only [Selector.eval, candidates_false, value_select]
    exact List.filter_sublist
  | descent inner => cases plain

/-- A slice that steps back picks some of the children in the opposite order. -/
theorem Selector.eval_sublist_reverse [Engine] {s : Selector} (back : s.stepsBack = true)
    (proper : n.value.isProper = true) : (s.eval document false n).value <+ n.children.reverse := by
  cases s with
  | slice start stop step =>
    show n.sliced start stop step <+ n.children.reverse
    cases hn : n.value with
    | array items =>
      rw [hn, Json.isProper, Bool.and_eq_true, decide_eq_true_eq] at proper
      have down : (Slice.positions start stop step items.length).Pairwise (· > ·) :=
        Slice.positions_descending proper.1 (of_decide_eq_true back)
      rw [sliced_eq hn, ← List.reverse_sublist, List.reverse_reverse, ← List.filterMap_reverse]
      exact filterMap_getElem?_sublist _ (List.pairwise_reverse.2 down)
    | _ => simp [sliced, hn]
  | _ => cases back

/-- A selector that does not descend picks different children. -/
theorem Selector.eval_nodup [Engine] (h : Reached document n) (proper : document.isProper = true)
    {s : Selector} (plain : s.isDescent = false) :
    (s.eval document false n).value.Nodup ∧ (s.eval document false n).value ⊆ n.children := by
  have unique := nodup_children h proper
  cases direction : s.stepsBack with
  | false =>
    have part : (s.eval document false n).value <+ n.children :=
      Selector.eval_sublist plain direction (h.isProper proper)
    exact ⟨unique.sublist part, part.subset⟩
  | true =>
    have part : (s.eval document false n).value <+ n.children.reverse :=
      Selector.eval_sublist_reverse direction (h.isProper proper)
    exact ⟨(List.nodup_reverse.2 unique).sublist part, fun c hc => List.mem_reverse.1 (part.subset hc)⟩

end Picked

/-! ## One segment -/

/-- Different nodes at one depth. -/
structure Node.IsRow (document : Json) (nodes : List Node) : Prop where
  reached : ∀ n ∈ nodes, Reached document n
  level : ∀ n ∈ nodes, ∀ m ∈ nodes, n.location.length = m.location.length
  nodup : nodes.Nodup

section Segment

variable {document : Json} {nodes : List Node} (proper : document.isProper = true)

include proper

/-- A selector that does not descend picks different children of different nodes. -/
theorem nodup_flatMap_eval [Engine] (reached : ∀ n ∈ nodes, Reached document n) (nodup : nodes.Nodup)
    {s : Selector} (plain : s.isDescent = false) :
    (nodes.flatMap fun n => (s.eval document false n).value).Nodup :=
  nodup_flatMap_children reached proper nodup fun n hn => Selector.eval_nodup (reached n hn) proper plain

/-- It leads from a row to a row, one step further down. -/
theorem Node.IsRow.flatMap_eval [Engine] (row : IsRow document nodes) {s : Selector}
    (plain : s.isDescent = false) :
    IsRow document (nodes.flatMap fun n => (s.eval document false n).value) where
  reached c hc := by
    obtain ⟨n, hn, hc⟩ := List.mem_flatMap.1 hc
    exact s.eval_reached proper n (row.reached n hn) c hc
  level c hc d hd := by
    obtain ⟨n, hn, hc⟩ := List.mem_flatMap.1 hc
    obtain ⟨m, hm, hd⟩ := List.mem_flatMap.1 hd
    have below := (Selector.eval_nodup (row.reached n hn) proper plain).2 hc
    have below' := (Selector.eval_nodup (row.reached m hm) proper plain).2 hd
    rw [length_location_of_mem_children (row.reached n hn) proper below,
      length_location_of_mem_children (row.reached m hm) proper below', row.level n hn m hm]
  nodup := nodup_flatMap_eval proper row.reached row.nodup plain

/-- The subtrees of a row have no node in common. -/
theorem Node.IsRow.nodup_subtrees (row : IsRow document nodes) : (nodes.flatMap subtree).Nodup := by
  rw [List.Nodup, List.pairwise_flatMap]
  refine ⟨fun n hn => nodup_subtree (row.reached n hn) proper, ?_⟩
  apply row.nodup.imp_of_mem
  rintro n m hn hm ne d hd _ hd' rfl
  have above := location_prefix (row.reached n hn) proper d hd
  have above' := location_prefix (row.reached m hm) proper d hd'
  have shorter := List.prefix_of_prefix_length_le above above' (Nat.le_of_eq (row.level n hn m hm))
  have same := shorter.eq_of_length (row.level n hn m hm)
  exact ne ((row.reached n hn).eq_of_location (row.reached m hm) same)

/-- From a row in the order of the document, what is picked is in that order, unless the selector descends
or steps back. -/
theorem Node.IsRow.precedes [Engine] (row : IsRow document nodes)
    (order : nodes.Pairwise fun n m => document.Precedes n.location m.location) {s : Selector}
    (plain : s.isDescent = false) (ahead : s.stepsBack = false) :
    (nodes.flatMap fun n => (s.eval document false n).value).Pairwise
      fun n m => document.Precedes n.location m.location := by
  have part : ∀ n ∈ nodes, (s.eval document false n).value <+ n.children := fun n hn =>
    Selector.eval_sublist plain ahead ((row.reached n hn).isProper proper)
  have below : ∀ n ∈ nodes, ∀ c ∈ (s.eval document false n).value, c ∈ n.subtree := fun n hn c hc =>
    mem_subtree_iff.2 (.inr ⟨c, (part n hn).subset hc, mem_subtree_iff.2 (.inl rfl)⟩)
  rw [List.pairwise_flatMap]
  refine ⟨fun n hn => (children_precedes (row.reached n hn) proper).sublist (part n hn), ?_⟩
  apply order.imp_of_mem
  intro n m hn hm before c hc d hd
  exact precedes_of_mem_subtree (row.reached n hn) (row.reached m hm) proper (row.level n hn m hm) before
    (below n hn c hc) (below m hm d hd)

end Segment

/-! ## Several segments -/

section Segments

variable [Engine] {document : Json} (proper : document.isProper = true) {segments : List Segment}

include proper

/-- Segments of one selector that does not descend find no node twice. -/
theorem evalSegments_nodup_of_plain (single : ∀ s ∈ segments, s.length = 1)
    (plain : ∀ t ∈ segments.flatten, t.isDescent = false) {nodes : List Node}
    (reached : ∀ n ∈ nodes, Reached document n) (nodup : nodes.Nodup) :
    (evalSegments document false segments nodes).value.Nodup := by
  induction segments generalizing nodes with
  | nil => exact nodup
  | cons s rest ih =>
    obtain ⟨t, rfl⟩ := List.length_eq_one_iff.1 (single s List.mem_cons_self)
    rw [List.flatten_cons, List.singleton_append, List.forall_mem_cons] at plain
    have next := nodup_flatMap_eval proper reached nodup plain.1
    rw [← value_evalSegment_single] at next
    exact ih (fun s hs => single s (List.mem_cons_of_mem _ hs)) plain.2
      (evalSegment_reached proper reached) next

/-- Segments of one selector find no node twice from a row, if one of them descends at most. -/
theorem evalSegments_nodup (single : ∀ s ∈ segments, s.length = 1)
    (shallow : ∀ t ∈ segments.flatten, t.isDescent = true → t.isShallowDescent = true)
    (once : segments.flatten.countP Selector.isDescent ≤ 1) {nodes : List Node}
    (row : IsRow document nodes) : (evalSegments document false segments nodes).value.Nodup := by
  induction segments generalizing nodes with
  | nil => exact row.nodup
  | cons s rest ih =>
    obtain ⟨t, rfl⟩ := List.length_eq_one_iff.1 (single s List.mem_cons_self)
    have others : ∀ s ∈ rest, s.length = 1 := fun s hs => single s (List.mem_cons_of_mem _ hs)
    rw [List.flatten_cons, List.singleton_append, List.forall_mem_cons] at shallow
    rw [List.flatten_cons, List.singleton_append, List.countP_cons] at once
    cases descends : t.isDescent with
    | false =>
      have next := row.flatMap_eval proper descends
      rw [← value_evalSegment_single] at next
      exact ih others shallow.2 (by omega) next
    | true =>
      -- Behind the descent the nodes are no row any more, and no segment descends again.
      have plain : ∀ t ∈ rest.flatten, t.isDescent = false := by
        rw [descends, if_pos rfl] at once
        have never : rest.flatten.countP Selector.isDescent = 0 := by omega
        exact fun t ht => Bool.eq_false_iff.2 (List.countP_eq_zero.1 never t ht)
      obtain ⟨inner, rfl, flat⟩ : ∃ inner, t = .descent inner ∧ inner.isDescent = false := by
        cases t with
        | descent inner => exact ⟨inner, rfl, by simpa [Selector.isShallowDescent] using shallow.1 descends⟩
        | _ => cases descends
      have below : ∀ d ∈ nodes.flatMap subtree, Reached document d := fun d hd => by
        obtain ⟨n, hn, hd⟩ := List.mem_flatMap.1 hd
        exact (row.reached n hn).of_mem_subtree proper d hd
      have next := nodup_flatMap_eval proper below (row.nodup_subtrees proper) flat
      have picked : (evalSegment document false [.descent inner] nodes).value =
          (nodes.flatMap subtree).flatMap fun d => (inner.eval document false d).value := by
        simp only [value_evalSegment_single, Selector.eval, value_collect, List.flatMap_assoc]
      rw [← picked] at next
      show (evalSegments document false rest _).value.Nodup
      exact evalSegments_nodup_of_plain proper others plain (evalSegment_reached proper row.reached) next

/-- Segments of one selector that neither descends nor steps back find the nodes in the order of the
document, from a row in that order. -/
theorem evalSegments_precedes (single : ∀ s ∈ segments, s.length = 1)
    (plain : ∀ t ∈ segments.flatten, t.isDescent = false ∧ t.stepsBack = false) {nodes : List Node}
    (row : IsRow document nodes)
    (order : nodes.Pairwise fun n m => document.Precedes n.location m.location) :
    (evalSegments document false segments nodes).value.Pairwise
      fun n m => document.Precedes n.location m.location := by
  induction segments generalizing nodes with
  | nil => exact order
  | cons s rest ih =>
    obtain ⟨t, rfl⟩ := List.length_eq_one_iff.1 (single s List.mem_cons_self)
    rw [List.flatten_cons, List.singleton_append, List.forall_mem_cons] at plain
    have next := row.flatMap_eval proper plain.1.1
    have further := row.precedes proper order plain.1.1 plain.1.2
    rw [← value_evalSegment_single] at next further
    exact ih (fun s hs => single s (List.mem_cons_of_mem _ hs)) plain.2 next further

end Segments

/-! ## Whole queries -/

/-- At the start of a query a selector picks what it picks elsewhere, or the node itself at most. -/
theorem Selector.eval_start_sublist [Engine] (document : Json) (s : Selector) (n : Node) :
    s.eval document true n = s.eval document false n ∨ (s.eval document true n).value <+ [n] := by
  by_cases h : n.value.isObject = false ∨ s.isFilter = false
  · exact .inl (Selector.eval_start document h true)
  · obtain ⟨step, value, ancestors⟩ := n
    cases s with
    | filter test =>
      cases value with
      | object members =>
        right
        simp only [Selector.eval, candidates, value_select]
        exact List.filter_sublist
      | _ => exact absurd (.inl rfl) h
    | _ => exact absurd (.inr rfl) h

namespace Path

/-- Segments of one selector lead from the start of a query where some of them lead from the document or
from nowhere as if it were not the start. -/
theorem evaluate_eq_later [Engine] (document : Json) {p : Path}
    (single : ∀ s ∈ p.segments, s.length = 1) :
    ∃ later nodes, later <+ p.segments ∧ nodes <+ [root document] ∧
      (p.evaluate document).value = (evalSegments document false later nodes).value := by
  obtain ⟨segments⟩ := p
  cases segments with
  | nil => exact ⟨[], [root document], List.Sublist.refl _, List.Sublist.refl _, rfl⟩
  | cons s rest =>
    obtain ⟨t, rfl⟩ := List.length_eq_one_iff.1 (single s List.mem_cons_self)
    have start : (evaluate ⟨[t] :: rest⟩ document).value = (evalSegments document false rest
        (evalSegment document true [t] [root document]).value).value := rfl
    rw [value_evalSegment_single, List.flatMap_singleton] at start
    rcases Selector.eval_start_sublist document t (root document) with same | whole
    · refine ⟨[t] :: rest, [root document], List.Sublist.refl _, List.Sublist.refl _, ?_⟩
      rw [start, same]
      show _ = (evalSegments document false rest
        (evalSegment document false [t] [root document]).value).value
      rw [value_evalSegment_single, List.flatMap_singleton]
    · exact ⟨rest, _, List.sublist_cons_self _ _, whole, start⟩

end Path

theorem Node.IsRow.of_sublist_root {document : Json} {nodes : List Node} (h : nodes <+ [root document]) :
    IsRow document nodes where
  reached n hn := by
    rw [List.mem_singleton.1 (h.subset hn)]
    exact .root
  level n hn m hm := by rw [List.mem_singleton.1 (h.subset hn), List.mem_singleton.1 (h.subset hm)]
  nodup := (List.nodup_singleton _).sublist h

namespace Path

/-- A query with one selector to a segment, of which at most one descends, and by a selector that does not
descend itself, selects nothing twice. Without a descent and without steps back, it selects in the order of
the document. -/
theorem evaluate_distinct [Engine] {document : Json} (proper : document.isProper = true) (p : Path)
    (single : ∀ s ∈ p.segments, s.length = 1)
    (shallow : ∀ t ∈ p.segments.flatten, t.isDescent = true → t.isShallowDescent = true)
    (once : p.segments.flatten.countP Selector.isDescent ≤ 1) :
    ((p.evaluate document).value.map location).Nodup ∧
      ((∀ t ∈ p.segments.flatten, t.isDescent = false ∧ t.stepsBack = false) →
        ((p.evaluate document).value.map location).Pairwise document.Precedes) := by
  obtain ⟨later, nodes, fewer, start, value⟩ := evaluate_eq_later document single
  have selectors : later.flatten <+ p.segments.flatten := fewer.flatten
  have single := fun s hs => single s (fewer.subset hs)
  have row := IsRow.of_sublist_root start
  constructor
  · have nodup := evalSegments_nodup proper single (fun t ht => shallow t (selectors.subset ht))
      (Nat.le_trans selectors.countP_le once) row
    rw [← value] at nodup
    apply nodup.map_on
    intro n hn m hm same
    exact (p.evaluate_reached proper n hn).eq_of_location (p.evaluate_reached proper m hm) same
  · intro plain
    have order := evalSegments_precedes proper single (fun t ht => plain t (selectors.subset ht)) row
      ((List.pairwise_singleton _ _).sublist start)
    rw [← value] at order
    exact List.pairwise_map.2 order

/-- Arrays of arrays under two names. -/
def grid : Json :=
  .object [("b", .array [.array [.null, .null], .null]), ("a", .array [.null, .array [.null], .null])]

/-- All elements below the members, each array backwards. -/
def gridBackwards : Path := ⟨[[.wildcard], [.descent (.slice none none (some (-1)))]]⟩

/-- Every second element of the members. -/
def gridOdd : Path := ⟨[[.wildcard], [.slice none none (some 2)]]⟩

theorem evaluate_distinct_grid :
    grid.isProper = true ∧
    ((∀ s ∈ gridBackwards.segments, s.length = 1) ∧
      (∀ t ∈ gridBackwards.segments.flatten, t.isDescent = true → t.isShallowDescent = true) ∧
      gridBackwards.segments.flatten.countP Selector.isDescent ≤ 1 ∧
      ((gridBackwards.evaluate grid).value.map location).Nodup ∧
      (gridBackwards.evaluate grid).value.length = 8) ∧
    ((∀ s ∈ gridOdd.segments, s.length = 1) ∧
      (∀ t ∈ gridOdd.segments.flatten, t.isDescent = false ∧ t.stepsBack = false) ∧
      ((gridOdd.evaluate grid).value.map location).Pairwise grid.Precedes ∧
      (gridOdd.evaluate grid).value.length = 3) := by
  have proper : grid.isProper = true := by decide
  refine ⟨proper, ?_, ?_⟩
  · have single : ∀ s ∈ gridBackwards.segments, s.length = 1 := by decide
    have shallow : ∀ t ∈ gridBackwards.segments.flatten,
        t.isDescent = true → t.isShallowDescent = true := by decide
    have once : gridBackwards.segments.flatten.countP Selector.isDescent ≤ 1 := by decide
    exact ⟨single, shallow, once, (evaluate_distinct proper _ single shallow once).1, by decide⟩
  · have single : ∀ s ∈ gridOdd.segments, s.length = 1 := by decide
    have plain : ∀ t ∈ gridOdd.segments.flatten, t.isDescent = false ∧ t.stepsBack = false := by decide
    have distinct := evaluate_distinct proper gridOdd single (by decide) (by decide)
    exact ⟨single, plain, distinct.2 plain, by decide⟩

end Path

end PathQuery
