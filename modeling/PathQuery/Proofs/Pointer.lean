import PathQuery.Proofs.Node
import PathQuery.Proofs.Path.Term

/-!
# Pointers select their nodes

The pointer of a node is the text of a path with one name or one index to a step. It is read back as that
path, whatever characters the names are made of, and on the document the path leads down the way that
the node was reached by; so it selects the node and nothing else. Since nothing but its text goes into
what a pointer selects, two nodes with the same pointer are the same.

## Main definitions

* `Location.path` — the path with one name or index to a step.

## Main results

* `Location.read_pointer` — a pointer is read back as the path of its location.
* `Node.Reached.evaluate_path` — the path of a location leads to the node there.
* `Path.pointer_selects` — the pointer of a selected node selects exactly that node.
-/

namespace PathQuery

open Lexeme Reader Grammar

/-! ## Paths of locations -/

/-- The segment that makes a step; the start is no segment. -/
def Step.segment? : Step → Option Segment
  | root => none
  | key name => some [.name name]
  | index i => some [.index (Int64.ofNat i)]

/-- The path with one name or index to a step. -/
def Location.path (l : Location) : Path := ⟨l.filterMap Step.segment?⟩

/-- Whether a step can be written in a path: a position must be a word. -/
def Step.isWord : Step → Bool
  | index i => decide (i < 0x8000000000000000)
  | _ => true

/-! ## Pointers are read back -/

namespace Location

variable {l : Location} {rest : List Char}

/-- Between brackets a single name or index is read back. -/
theorem segment_single {chars : List Char} {t : Selector} (reads : Selector.Reads True chars t)
    (rest : List Char) : grammar.segment ('[' :: (chars ++ ']' :: rest)) = .done [t] rest := by
  have brackets : (grammar.brackets (joined ([t].map fun _ => chars) ++ ']' :: rest)).Agrees True
      (.done ([t].map fun u => u) rest) :=
    brackets_joined (List.cons_ne_nil t []) (fun u hu => List.mem_singleton.1 hu ▸ reads) rest
  exact brackets.eq trivial

theorem segment_step {step : Step} {s : Segment} (hs : step.segment? = some s)
    (word : step.isWord = true) (rest : List Char) :
    ∃ cs, step.pointerChars ++ rest = '[' :: cs ∧ grammar.segment ('[' :: cs) = .done s rest := by
  cases step with
  | root => cases hs
  | key name =>
    cases hs
    refine ⟨quotedName name ++ ']' :: rest, by simp [Step.pointerChars, quotedName], ?_⟩
    exact segment_single (Selector.reads_name name) rest
  | index i =>
    cases hs
    have small : i < 0x8000000000000000 := by simpa [Step.isWord] using word
    have digits : intChars (Int64.ofNat i).toInt = Nat.toDigits 10 i := by
      rw [Int64.toInt_ofNat_of_lt small]
      exact if_neg (by omega)
    refine ⟨Nat.toDigits 10 i ++ ']' :: rest, by simp [Step.pointerChars], ?_⟩
    rw [← digits]
    exact segment_single (Selector.reads_index (Int64.ofNat i)) rest

theorem segments_steps (words : ∀ step ∈ l, step.isWord = true) :
    grammar.segments (l.flatMap Step.pointerChars) = .done (l.filterMap Step.segment?) [] := by
  induction l with
  | nil => exact segments_none Stops.nil
  | cons step l ih =>
    have others := ih fun t ht => words t (List.mem_cons_of_mem step ht)
    rw [List.flatMap_cons]
    cases hs : step.segment? with
    | none =>
      cases step with
      | root => exact others
      | key name => cases hs
      | index i => cases hs
    | some s =>
      obtain ⟨cs, chars, segment⟩ := segment_step hs (words step List.mem_cons_self)
        (l.flatMap Step.pointerChars)
      rw [List.filterMap_cons_some hs, chars, segments_some (by decide)]
      exact (bind_done segment).trans (map_done (s :: ·) others)

/-- A pointer is read back as the path of its location. -/
theorem read_pointer (words : ∀ step ∈ l, step.isWord = true) :
    Path.read l.pointer = .ok l.path := by
  have read : Path.reader l.pointer.toList = .done l.path [] := by
    rw [pointer, String.toList_ofList]
    show (grammar.segments >>= _) (l.flatMap Step.pointerChars) = _
    rw [bind_done (segments_steps words)]
    rfl
  rw [Path.read, read]

end Location

/-! ## The path of a location leads there -/

variable {document : Json} {n : Node}

/-- An index inside an array is the position that it counts to. -/
theorem resolveIndex_ofNat {i length : Nat} (h : i < length) (small : length < 0x8000000000000000) :
    resolveIndex (Int64.ofNat i) length = some i := by
  have hi : (Int64.ofNat i).toInt = i := Int64.toInt_ofNat_of_lt (by omega)
  have hn : (Int64.ofNat length).toInt = length := Int64.toInt_ofNat_of_lt small
  have positive : ¬ Int64.ofNat i < 0 := by
    rw [Int64.lt_iff_toInt_lt, hi]
    simp
  have inside : (0 : Int64) ≤ Int64.ofNat i ∧ Int64.ofNat i < Int64.ofNat length := by
    rw [Int64.le_iff_toInt_le, Int64.lt_iff_toInt_lt, hi, hn]
    simp [h]
  have back : (Int64.ofNat i).toNatClampNeg = i := Int64.toNatClampNeg_ofNat_of_lt (by omega)
  simp [resolveIndex, fromEnd, positive, inside, back]

namespace Node

theorem named_of_target? {name : String} {v : Json} (target : (Step.key name).target? n.value = some v) :
    n.named name = [n.child (.key name) v] := by
  obtain ⟨above, value, ancestors⟩ := n
  cases value with
  | object members =>
    have found : Json.member? name members = some v := target
    show ((Json.member? name members).map _).toList = _
    rw [found]
    rfl
  | _ => cases target

theorem indexed_of_target? {i : Nat} {v : Json} (proper : n.value.isProper = true)
    (target : (Step.index i).target? n.value = some v) :
    n.indexed (Int64.ofNat i) = [n.child (.index i) v] := by
  obtain ⟨above, value, ancestors⟩ := n
  cases value with
  | array items =>
    have found : items[i]? = some v := target
    obtain ⟨inside, -⟩ := List.getElem?_eq_some_iff.1 found
    simp only [Json.isProper, Bool.and_eq_true, decide_eq_true_eq] at proper
    show ((resolveIndex (Int64.ofNat i) items.length).map _).getD [] = _
    rw [resolveIndex_ofNat inside proper.1]
    show (items[i]?.map _).toList = _
    rw [found]
    rfl
  | _ => cases target

/-- The segment that makes a step leads to the one node there. -/
theorem evalSegment_step [Engine] {step : Step} {s : Segment} {v : Json} (hs : step.segment? = some s)
    (proper : n.value.isProper = true) (target : step.target? n.value = some v) (atStart : Bool) :
    (evalSegment document atStart s [n]).value = [n.child step v] := by
  cases step with
  | root => cases hs
  | key name =>
    cases hs
    show n.named name ++ [] ++ [] = _
    rw [named_of_target? target]
    rfl
  | index i =>
    cases hs
    show n.indexed (Int64.ofNat i) ++ [] ++ [] = _
    rw [indexed_of_target? proper target]
    rfl

namespace Reached

/-- The positions in a location are words. -/
theorem isWord (h : Reached document n) (proper : document.isProper = true) :
    ∀ step ∈ n.location, step.isWord = true := by
  induction h with
  | root => exact fun step hs => List.mem_singleton.1 hs ▸ rfl
  | @child n step v above ne target ih =>
    intro t ht
    rw [location_child] at ht
    rcases List.mem_append.1 ht with ht | ht
    · exact ih t ht
    · rw [List.mem_singleton.1 ht]
      cases step with
      | index i => exact decide_eq_true (Json.index_lt_of_target? (above.isProper proper) target)
      | _ => rfl

/-- The path of a location leads to the node there. -/
theorem evaluate_path [Engine] (h : Reached document n) (proper : document.isProper = true) :
    (n.location.path.evaluate document).value = [n] := by
  induction h with
  | root => rfl
  | @child n step v above ne target ih =>
    obtain ⟨s, hs⟩ : ∃ s, step.segment? = some s := by
      cases step with
      | root => contradiction
      | key name => exact ⟨_, rfl⟩
      | index i => exact ⟨_, rfl⟩
    have longer : (n.child step v).location.filterMap Step.segment? =
        n.location.filterMap Step.segment? ++ [s] := by
      rw [location_child, List.filterMap_append, List.filterMap_cons_some hs]
      rfl
    have upTo : (evalSegments document true (n.location.filterMap Step.segment?)
        [Node.root document]).value = [n] := ih
    show (evalSegments document true ((n.child step v).location.filterMap Step.segment?) _).value = _
    rw [longer, evalSegments_append, upTo]
    exact evalSegment_step hs (above.isProper proper) target _

/-- Nodes with the same pointer are the same. -/
theorem eq_of_pointer [Engine] {m : Node} (hn : Reached document n) (hm : Reached document m)
    (proper : document.isProper = true) (same : m.pointer = n.pointer) : m = n := by
  have paths : Except.ok m.location.path = Except.ok n.location.path :=
    (Location.read_pointer (hm.isWord proper)).symm.trans
      ((congrArg Path.read same).trans (Location.read_pointer (hn.isWord proper)))
  have nodes : [m] = [n] :=
    calc [m] = (m.location.path.evaluate document).value := (hm.evaluate_path proper).symm
      _ = (n.location.path.evaluate document).value := by rw [Except.ok.inj paths]
      _ = [n] := hn.evaluate_path proper
  exact List.head_eq_of_cons_eq nodes

end Reached

end Node

/-! ## Pointers select their nodes -/

namespace Path

open Node

/-- The pointer of a node that a query selects is the text of a path that selects this node and nothing
else; the node stands at its location, and no other node that is selected from the document has its
pointer. -/
theorem pointer_selects [Engine] (p : Path) (proper : document.isProper = true)
    (h : n ∈ (p.evaluate document).value) :
    (∃ q, read n.pointer = .ok q ∧ (q.evaluate document).value = [n]) ∧
      document.at? n.location = some n.value ∧
      ∀ (p' : Path) (m : Node), m ∈ (p'.evaluate document).value → m.pointer = n.pointer → m = n := by
  have reached := p.evaluate_reached proper n h
  refine ⟨⟨n.location.path, Location.read_pointer (reached.isWord proper), ?_⟩, reached.at?, ?_⟩
  · exact reached.evaluate_path proper
  · intro p' m hm same
    exact reached.eq_of_pointer (p'.evaluate_reached proper m hm) proper same

/-- A document with names that cannot stand in a path as they are. -/
def oddNames : Json := .object [("it's\n", .array [.null, .object [("", .bool true)]])]

/-- The node deepest inside it. -/
def deepest : Node :=
  (((Node.root oddNames).child (.key "it's\n") (.array [.null, .object [("", .bool true)]])).child
    (.index 1) (.object [("", .bool true)])).child (.key "") (.bool true)

theorem pointer_selects_deepest :
    oddNames.isProper = true ∧ deepest ∈ (evaluate ⟨[[.descent .wildcard]]⟩ oddNames).value ∧
      deepest.pointer = "$['it\\'s\\n'][1]['']" ∧
      (∃ q, read deepest.pointer = .ok q ∧ (q.evaluate oddNames).value = [deepest]) ∧
      oddNames.at? deepest.location = some (.bool true) ∧
      ∀ (p' : Path) (m : Node), m ∈ (p'.evaluate oddNames).value →
        m.pointer = deepest.pointer → m = deepest :=
  have proper : oddNames.isProper = true := by decide
  have selected : deepest ∈ (evaluate ⟨[[.descent .wildcard]]⟩ oddNames).value :=
    .tail _ (.tail _ (.tail _ (.head _)))
  have selects := pointer_selects ⟨[[.descent .wildcard]]⟩ proper selected
  ⟨proper, selected, by decide, selects⟩

end Path

end PathQuery
