import Mathlib.Data.List.Perm.Basic
import PathQuery.Evaluation

/-!
# Queries in two parts

A segment looks at its nodes one at a time, so what it leads to is made of what it leads to from each of
them. Its selectors come one after the other, each for all nodes, so that a segment with several selectors
mixes what comes from different nodes: every node is found as often as when the nodes are taken one after
the other, but not in that order. With one selector to a segment the order is the same as well.

## Main results

* `value_evalSegment` — what a segment leads to, selector by selector and node by node.
* `evalSegments_perm`, `evalSegments_flatMap` — segments from several nodes, and from each of them.
* `Path.evaluate_append` — a query in two parts.
-/

namespace PathQuery

open Logged

open scoped List

theorem value_evalSegment [Engine] (document : Json) (atStart : Bool) (s : Segment) (nodes : List Node) :
    (evalSegment document atStart s nodes).value =
      s.flatMap fun t => nodes.flatMap fun n => (t.eval document atStart n).value := by
  induction s with
  | nil => rfl
  | cons t rest ih =>
    simp only [evalSegment, value_bind, value_pure, value_collect, ih, List.flatMap_cons]

theorem value_evalSegment_single [Engine] (document : Json) (atStart : Bool) (t : Selector)
    (nodes : List Node) :
    (evalSegment document atStart [t] nodes).value =
      nodes.flatMap fun n => (t.eval document atStart n).value := by
  rw [value_evalSegment, List.flatMap_singleton]

/-- A part of a query starts from the nodes that the part in front of it leads to, and only the first
segment of all is at the start. -/
theorem evalSegments_append [Engine] (document : Json) (atStart : Bool) (xs ys : List Segment)
    (nodes : List Node) :
    (evalSegments document atStart (xs ++ ys) nodes).value =
      (evalSegments document (atStart && xs.isEmpty) ys
        (evalSegments document atStart xs nodes).value).value := by
  induction xs generalizing atStart nodes with
  | nil => simp [evalSegments]
  | cons s xs ih =>
    show (evalSegments document false (xs ++ ys) _).value = _
    rw [ih, Bool.false_and, List.isEmpty_cons, Bool.and_false]
    rfl

/-! ## From one node at a time -/

/-- Two lists are gone through one inside the other, in either way. -/
theorem flatMap_flatMap_perm {α β γ : Type} (as : List α) (bs : List β) (f : α → β → List γ) :
    (as.flatMap fun a => bs.flatMap fun b => f a b) ~ bs.flatMap fun b => as.flatMap fun a => f a b := by
  induction as with
  | nil => simp
  | cons a rest ih =>
    calc ((a :: rest).flatMap fun a => bs.flatMap (f a))
        = bs.flatMap (f a) ++ rest.flatMap fun a => bs.flatMap (f a) := List.flatMap_cons
      _ ~ bs.flatMap (f a) ++ bs.flatMap fun b => rest.flatMap (f · b) := ih.append_left _
      _ ~ bs.flatMap fun b => f a b ++ rest.flatMap (f · b) := List.flatMap_append_perm bs _ _
      _ = bs.flatMap fun b => (a :: rest).flatMap (f · b) := by simp only [List.flatMap_cons]

section FromEach

variable [Engine] (document : Json) (atStart : Bool)

/-- A segment finds from several nodes what it finds from each of them. -/
theorem evalSegment_perm (s : Segment) (nodes : List Node) :
    (evalSegment document atStart s nodes).value ~
      nodes.flatMap fun n => (evalSegment document atStart s [n]).value := by
  simp only [value_evalSegment, List.flatMap_singleton]
  exact flatMap_flatMap_perm s nodes _

/-- With one selector it finds them in the order of the nodes. -/
theorem evalSegment_flatMap {s : Segment} (single : s.length = 1) (nodes : List Node) :
    (evalSegment document atStart s nodes).value =
      nodes.flatMap fun n => (evalSegment document atStart s [n]).value := by
  obtain ⟨t, rfl⟩ := List.length_eq_one_iff.1 single
  simp only [value_evalSegment_single, List.flatMap_singleton]

/-- Segments find from several nodes what they find from each of them. -/
theorem evalSegments_perm (segments : List Segment) (nodes : List Node) :
    (evalSegments document false segments nodes).value ~
      nodes.flatMap fun n => (evalSegments document false segments [n]).value := by
  induction segments generalizing nodes with
  | nil => simp [evalSegments]
  | cons s rest ih =>
    -- The later segments do not mind in which order the first one finds its nodes.
    calc (evalSegments document false rest (evalSegment document false s nodes).value).value
      _ ~ (evalSegment document false s nodes).value.flatMap fun n =>
            (evalSegments document false rest [n]).value := ih _
      _ ~ (nodes.flatMap fun n => (evalSegment document false s [n]).value).flatMap fun n =>
            (evalSegments document false rest [n]).value :=
          (evalSegment_perm document false s nodes).flatMap_right _
      _ = nodes.flatMap fun n => (evalSegment document false s [n]).value.flatMap fun n =>
            (evalSegments document false rest [n]).value := List.flatMap_assoc
      _ ~ nodes.flatMap fun n =>
            (evalSegments document false rest (evalSegment document false s [n]).value).value :=
          List.Perm.flatMap_left nodes fun n _ => (ih _).symm

/-- With one selector to a segment they find them in the order of the nodes. -/
theorem evalSegments_flatMap {segments : List Segment} (single : ∀ s ∈ segments, s.length = 1)
    (nodes : List Node) :
    (evalSegments document false segments nodes).value =
      nodes.flatMap fun n => (evalSegments document false segments [n]).value := by
  induction segments generalizing nodes with
  | nil => simp [evalSegments]
  | cons s rest ih =>
    have first := evalSegment_flatMap document false (single s List.mem_cons_self) nodes
    have others := ih fun t ht => single t (List.mem_cons_of_mem s ht)
    calc (evalSegments document false rest (evalSegment document false s nodes).value).value
        = (evalSegment document false s nodes).value.flatMap fun n =>
            (evalSegments document false rest [n]).value := others _
      _ = nodes.flatMap fun n => (evalSegment document false s [n]).value.flatMap fun n =>
            (evalSegments document false rest [n]).value := by rw [first, List.flatMap_assoc]
      _ = nodes.flatMap fun n =>
            (evalSegments document false rest (evalSegment document false s [n]).value).value := by
          simp only [← others]

end FromEach

/-! ## A query in two parts -/

namespace Path

/-- A query in two parts finds what the second part finds from each node that the first part selects,
every node as often; and it finds them node by node, if no segment of the second part has several
selectors or none. -/
theorem evaluate_append [Engine] (document : Json) {first : List Segment} (ne : first ≠ [])
    (second : List Segment) :
    ((evaluate ⟨first ++ second⟩ document).value ~ (evaluate ⟨first⟩ document).value.flatMap fun n =>
        (evalSegments document false second [n]).value) ∧
      ((∀ s ∈ second, s.length = 1) →
        (evaluate ⟨first ++ second⟩ document).value = (evaluate ⟨first⟩ document).value.flatMap fun n =>
          (evalSegments document false second [n]).value) := by
  have parts : (evaluate ⟨first ++ second⟩ document).value =
      (evalSegments document false second (evaluate ⟨first⟩ document).value).value := by
    have behind : (true && first.isEmpty) = false := by simpa using ne
    have append := evalSegments_append document true first second [Node.root document]
    rwa [behind] at append
  rw [parts]
  exact ⟨evalSegments_perm document second _, fun single => evalSegments_flatMap document single _⟩

/-- Two rows of numbers. -/
def rows : Json := .array [.array [.ofNat 1, .ofNat 2], .array [.ofNat 3, .ofNat 4]]

/-- The second segment goes through the rows once for each of its selectors. -/
theorem evaluate_append_rows :
    [[Selector.wildcard]] ≠ [] ∧ (∀ s ∈ [[Selector.wildcard]], s.length = 1) ∧
      ((evaluate ⟨[[.wildcard]] ++ [[.index 0, .index 1]]⟩ rows).value ~
        (evaluate ⟨[[.wildcard]]⟩ rows).value.flatMap fun n =>
          (evalSegments rows false [[.index 0, .index 1]] [n]).value) ∧
      (evaluate ⟨[[.wildcard]] ++ [[.wildcard]]⟩ rows).value =
        ((evaluate ⟨[[.wildcard]]⟩ rows).value.flatMap fun n =>
          (evalSegments rows false [[.wildcard]] [n]).value) ∧
      (select ⟨[[.wildcard]] ++ [[.index 0, .index 1]]⟩ rows).map Json.chars =
        [['1'], ['3'], ['2'], ['4']] :=
  have ne : [[Selector.wildcard]] ≠ [] := nofun
  have single : ∀ s ∈ [[Selector.wildcard]], s.length = 1 := by decide
  ⟨ne, single, (evaluate_append rows ne _).1, (evaluate_append rows ne _).2 single, by decide⟩

end Path

end PathQuery
