import PathQuery.Proofs.Compilation

/-!
# Functions of node lists

A path as an argument is worked out to the values that it selects, and a single one of them stands there
itself and not as a list of one. The functions `count` and `value` are given no more than that: they take a
single array for a list of values. So they see the values that the path selects, unless it selects just one
node and this holds an array; then they see its elements.

## Main definitions

* `Argument.selected?` — the nodes that an argument selects, if it is a path.
* `Json.opened` — the values that the functions see.

## Main results

* `Argument.call_count`, `Argument.call_value` — calls with a path.
* `calls_of_selected` — the functions see the node list, or the elements of the array that is alone in it.
-/

namespace PathQuery

open Logged

/-- The nodes that an argument selects, if it is a path. -/
def Argument.selected? [Engine] (document : Json) : Argument → Json → Option (Logged (List Node))
  | .term (.path anchor segments), current =>
    some (evalSegments document false segments [.root (anchor.value document current)])
  | .path segments, current => some (evalSegments document false segments [.root current])
  | _, _ => none

/-- Some values, or the elements of an array that is alone among them. -/
def Json.opened : List Json → List Json
  | [.array items] => items
  | vs => vs

/-- The operand for a list of values that must have one element, and nothing for other lists. -/
def Operand.only : List Json → Operand
  | [v] => .node v
  | _ => .nothing

/-! ## What the functions see -/

theorem countOf_ofNodes (vs : List Json) : countOf (.ofNodes vs) = (Json.opened vs).length := by
  match vs with
  | [] => rfl
  | [v] => cases v <;> rfl
  | v :: _ :: _ => cases v <;> rfl

theorem valueOf_ofNodes (vs : List Json) : valueOf (.ofNodes vs) = Operand.only (Json.opened vs) := by
  match vs with
  | [] => rfl
  | [.array []] | [.array [_]] | [.array (_ :: _ :: _)] => rfl
  | [.null] | [.bool _] | [.number _] | [.string _] | [.object _] => rfl
  | v :: _ :: _ => cases v <;> rfl

/-- Only an array that is alone is opened. -/
theorem Json.opened_eq {vs : List Json} (h : ∀ items, vs ≠ [.array items]) : opened vs = vs := by
  unfold opened
  split
  next items => exact absurd rfl (h items)
  next => rfl

/-! ## Calls -/

namespace Argument

variable [Engine] {document current : Json} {a : Argument} {nodes : Logged (List Node)}

theorem eval_of_selected? (h : a.selected? document current = some nodes) :
    a.eval document current = (fun ns => .ofNodes (ns.map (·.value))) <$> nodes := by
  unfold selected? at h
  split at h
  · cases h
    rfl
  · cases h
    rfl
  · cases h

/-- A call with one argument hands it to the function. -/
theorem call_of_selected? (h : a.selected? document current = some nodes) (name : String) :
    Term.eval document (.call name [a]) current = (do
      let ns ← nodes
      callByName name [.ofNodes (ns.map (·.value))]) := by
  simp only [Term.eval, evalArguments, eval_of_selected? h, bind_assoc, pure_bind, bind_map_left]

theorem call_count (h : a.selected? document current = some nodes) :
    Term.eval document (.call "count" [a]) current =
      (fun ns => .owned (.ofNat (Json.opened (ns.map (·.value))).length)) <$> nodes := by
  have called (x : Operand) : callByName "count" [x] = pure (.owned (.ofNat (countOf x))) := rfl
  simp only [call_of_selected? h, called, countOf_ofNodes, ← map_eq_pure_bind]

theorem call_value (h : a.selected? document current = some nodes) :
    Term.eval document (.call "value" [a]) current =
      (fun ns => .only (Json.opened (ns.map (·.value)))) <$> nodes := by
  have called (x : Operand) : callByName "value" [x] = pure (valueOf x) := rfl
  simp only [call_of_selected? h, called, valueOf_ofNodes, ← map_eq_pure_bind]

end Argument

/-- With a path, `count` gives the number of nodes that it selects, and `value` the value of the node if
there is just one and nothing otherwise, unless there is just one and its value is an array. Then they give
the number of elements of the array, and the element if there is just one. A compiled call gives the same. -/
theorem calls_of_selected [Engine] (document current : Json) (a : Argument) (nodes : Logged (List Node))
    (selected : a.selected? document current = some nodes) :
    ((∀ items, nodes.value.map (·.value) ≠ [.array items]) →
      (Term.eval document (.call "count" [a]) current).value = .owned (.ofNat nodes.value.length) ∧
      (Term.eval document (.call "value" [a]) current).value =
        .only (nodes.value.map (·.value))) ∧
    (∀ items, nodes.value.map (·.value) = [.array items] →
      (Term.eval document (.call "count" [a]) current).value = .owned (.ofNat items.length) ∧
      (Term.eval document (.call "value" [a]) current).value = .only items) ∧
    ∀ name, ((Term.compile (.call name [a])).value document current).value =
      (Term.eval document (.call name [a]) current).value := by
  have count := congrArg Logged.value (Argument.call_count selected)
  have value := congrArg Logged.value (Argument.call_value selected)
  rw [value_map] at count value
  refine ⟨fun plain => ?_, fun items one => ?_, fun name => ?_⟩
  · rw [count, value, Json.opened_eq plain, List.length_map]
    exact ⟨rfl, rfl⟩
  · rw [count, value, one]
    exact ⟨rfl, rfl⟩
  · exact (Term.compile_leaner document (.call name [a]) (fun none : False => none.elim) current).value

/-- In `{"a": [true]}`, `count(@.a)` and `value(@.a)` look into the array, and `count(@)` does not look
into the object. -/
theorem calls_of_selected_array :
    let current : Json := .object [("a", .array [.bool true])]
    (Term.eval .null (.call "count" [.path [[.name "a"]]]) current).value =
        .owned (.number (.integer 1)) ∧
      (Term.eval .null (.call "value" [.path [[.name "a"]]]) current).value = .node (.bool true) ∧
      (Term.eval .null (.call "count" [.term (.path .current [])]) current).value =
        .owned (.number (.integer 1)) := by
  intro current
  have inside := (calls_of_selected .null current (.path [[.name "a"]]) _ rfl).2.1 [.bool true] rfl
  have outside := (calls_of_selected .null current (.term (.path .current [])) _ rfl).1
    (fun items h => by cases h)
  exact ⟨inside.1, inside.2, outside.1⟩

/-- One node is selected and its value is an array of two elements: `count` gives two, and `value` gives
nothing. -/
theorem calls_open_lone_array :
    let current : Json := .object [("a", .array [.number (.integer 1), .number (.integer 2)])]
    let a : Argument := .term (.path .current [[.name "a"]])
    (∃ nodes : Logged (List Node), a.selected? current current = some nodes ∧
        nodes.value.length = 1) ∧
      (Term.eval current (.call "count" [a]) current).value = .owned (.number (.integer 2)) ∧
      (Term.eval current (.call "value" [a]) current).value = .nothing :=
  ⟨⟨_, rfl, rfl⟩, rfl, rfl⟩

end PathQuery
