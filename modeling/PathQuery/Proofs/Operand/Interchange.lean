import Mathlib.Logic.Relation
import PathQuery.Proofs.Comparison
import PathQuery.Proofs.Operand

/-!
# How an operand is held

One value can be held as a value of the document or as a computed one, and several values as a list of
nodes or as a computed array. Operands that differ in nothing else are interchangeable: a filter that is
given one of them instead of the other goes on with the same truth values, and its functions give
interchangeable results and record the same events.

Each operand has a computed form, and operands are interchangeable just if their computed forms are the
same one. So it is enough that a filter does not see whether an operand is replaced by its computed form.

## Main definitions

* `Operand.Restates`, `Operand.Interchangeable` — operands that hold the same in different ways.
* `Operand.computed` — the computed form of an operand.

## Main results

* `Operand.interchangeable_iff` — interchangeable operands have one computed form.
* `Operand.unseen_computed` — a filter does not see whether its operands are computed.
* `Operand.interchange` — tests, comparisons and functions treat interchangeable operands alike.
-/

namespace PathQuery

namespace Operand

/-- The computed operand on the right holds what the operand of the document on the left holds. -/
inductive Restates : Operand → Operand → Prop where
  | value (v : Json) : Restates (node v) (owned v)
  | list (vs : List Json) : Restates (nodes vs) (owned (.array vs))

/-- Operands that hold the same: the least equivalence under which an operand of the document is
equivalent to the computed one that holds the same. -/
def Interchangeable : Operand → Operand → Prop := Relation.EqvGen Restates

/-- The computed operand that holds the same. -/
def computed : Operand → Operand
  | nothing => nothing
  | node v => owned v
  | owned v => owned v
  | nodes vs => owned (.array vs)

variable {x y : Operand}

/-! ## Computed forms -/

theorem interchangeable_computed (x : Operand) : x.Interchangeable x.computed := by
  cases x with
  | nothing => exact .refl _
  | node v => exact .rel _ _ (.value v)
  | owned v => exact .refl _
  | nodes vs => exact .rel _ _ (.list vs)

/-- Interchangeable operands are those with the same computed form. -/
theorem interchangeable_iff : x.Interchangeable y ↔ x.computed = y.computed := by
  constructor
  · intro h
    induction h with
    | rel x y step => cases step <;> rfl
    | refl x => rfl
    | symm x y _ ih => exact ih.symm
    | trans x y z _ _ first second => exact first.trans second
  · intro same
    have back := (interchangeable_computed y).symm
    rw [← same] at back
    exact (interchangeable_computed x).trans _ _ _ back

/-- Nothing is held in one way only. -/
theorem interchangeable_nothing_iff : x.Interchangeable nothing ↔ x = nothing := by
  rw [interchangeable_iff]
  cases x <;> simp [computed]

/-- Lists of operands that are interchangeable one by one have the same computed forms. -/
theorem map_computed_of_forall₂ {xs ys : List Operand} (h : List.Forall₂ Interchangeable xs ys) :
    xs.map computed = ys.map computed := by
  induction h with
  | nil => rfl
  | cons first _ ih => rw [List.map_cons, List.map_cons, interchangeable_iff.1 first, ih]

/-! ## Computed forms are unseen -/

/-- An operand and its computed form come down to one document. -/
theorem asJson?_computed (x : Operand) : x.computed.content.asJson? = x.content.asJson? := by
  cases x with
  | nodes vs =>
    match vs with
    | [] => rfl
    | [v] => rfl
    | v :: w :: rest => rfl
  | _ => rfl

theorem string?_computed (x : Operand) : x.computed.content.string? = x.content.string? := by
  cases x with
  | nodes vs =>
    match vs with
    | [] => rfl
    | [v] => rfl
    | v :: w :: rest => rfl
  | _ => rfl

/-- The order asks for a number or a string, and an array is neither. -/
theorem less_computed (x y : Operand) : x.computed.less y.computed = x.less y := by
  have value (z : Operand) : z.computed.json? = z.json? ∨ ∃ vs : List Json,
      z.computed.json? = some (.array vs) ∧ z.json? = none := by
    cases z with
    | nodes vs => exact .inr ⟨vs, rfl, rfl⟩
    | _ => exact .inl rfl
  unfold less
  rcases value x with hx | ⟨vs, hx, none⟩
  · rcases value y with hy | ⟨vs, hy, none⟩
    · rw [hx, hy]
    · rw [hx, hy, none]
      cases x.json? with
      | none => rfl
      | some v => cases v <;> rfl
  · rw [hx, none]

/-- What is left when the only element is taken out of an operand has a computed form of its own. -/
theorem value_computed (x : Operand) : (valueOf x.computed).computed = (valueOf x).computed := by
  cases x with
  | nothing => rfl
  | node v | owned v =>
    cases v with
    | array items =>
      match items with
      | [] => rfl
      | [v] => rfl
      | v :: w :: rest => rfl
    | _ => rfl
  | nodes vs =>
    match vs with
    | [] => rfl
    | [v] => rfl
    | v :: w :: rest => rfl

/-- A filter does not see whether its operands are computed. -/
theorem unseen_computed : Unseen computed where
  isNothing x := by cases x <;> rfl
  truthy x := by cases x <;> rfl
  equal x y := by
    rw [equal, equal, Content.equal_eq, Content.equal_eq, asJson?_computed, asJson?_computed]
  less := less_computed
  string? := string?_computed
  length x := by cases x <;> rfl
  count x := by
    cases x with
    | node v => cases v <;> rfl
    | _ => rfl
  value := value_computed

/-! ## Interchange -/

/-- How an operand is held is not seen: interchangeable operands count as true alike, compare alike with
interchangeable operands, and match a pattern alike; and a call with interchangeable arguments gives
interchangeable results and records the same events. Nothing is held in one way only. -/
theorem interchange [Engine] :
    (∀ x y : Operand, x.Interchangeable y → x.truthy = y.truthy) ∧
      (∀ (op : CompareOp) (x y x' y' : Operand), x.Interchangeable x' → y.Interchangeable y' →
        op.holds x y = op.holds x' y') ∧
      (∀ (name : String) (xs ys : List Operand), List.Forall₂ Interchangeable xs ys →
        (callByName name xs).value.Interchangeable (callByName name ys).value ∧
          (callByName name xs).log = (callByName name ys).log) ∧
      (∀ (p : Engine.Pattern) (x y : Operand), x.Interchangeable y →
        testPattern x p = testPattern y p) ∧
      ∀ x : Operand, x.Interchangeable nothing ↔ x = nothing := by
  have unseen := unseen_computed
  refine ⟨?_, ?_, ?_, ?_, fun x => interchangeable_nothing_iff⟩
  · intro x y h
    rw [← unseen.truthy x, interchangeable_iff.1 h, unseen.truthy y]
  · intro op x y x' y' hx hy
    rw [← unseen.holds op x y, interchangeable_iff.1 hx, interchangeable_iff.1 hy,
      unseen.holds op x' y']
  · intro name xs ys h
    have same : computed <$> callByName name xs = computed <$> callByName name ys := by
      rw [← unseen.callByName name xs, map_computed_of_forall₂ h, unseen.callByName name ys]
    refine ⟨interchangeable_iff.2 (congrArg Logged.value same), ?_⟩
    simpa using congrArg Logged.log same
  · intro p x y h
    rw [← unseen.testPattern p x, interchangeable_iff.1 h, unseen.testPattern p y]

/-- A list of one string, the array of it, and a pattern of the document and a computed one: the list and
the array are true alike, at most the pattern alike, match it alike, and have interchangeable values. -/
theorem interchange_lone_string :
    let list := nodes [.string "ab"]
    let array := owned (.array [.string "ab"])
    let held := node (.string "a.")
    let literal := owned (.string "a.")
    let empty : Pattern := ⟨.empty⟩
    list.Interchangeable array ∧ held.Interchangeable literal ∧ list.truthy = array.truthy ∧
      CompareOp.le.holds list held = CompareOp.le.holds array literal ∧
      (callByName "match" [list, held]).value.Interchangeable
        (callByName "match" [array, literal]).value ∧
      (callByName "value" [list]).value.Interchangeable (callByName "value" [array]).value ∧
      testPattern list empty = testPattern array empty ∧ ¬ array.Interchangeable nothing := by
  intro list array held literal empty
  have subject : list.Interchangeable array := .rel _ _ (.list _)
  have pattern : held.Interchangeable literal := .rel _ _ (.value _)
  refine ⟨subject, pattern, ?_, ?_, ?_, ?_, ?_, ?_⟩
  · exact interchange.1 list array subject
  · exact interchange.2.1 .le list held array literal subject pattern
  · exact (interchange.2.2.1 "match" _ _ (.cons subject (.cons pattern .nil))).1
  · exact (interchange.2.2.1 "value" _ _ (.cons subject .nil)).1
  · exact interchange.2.2.2.1 empty list array subject
  · intro h
    have impossible : owned (.array [.string "ab"]) = nothing := (interchange.2.2.2.2 array).1 h
    cases impossible

end Operand

end PathQuery
