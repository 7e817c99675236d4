import PathQuery.Comparison
import PathQuery.Function

/-!
# What a filter sees of its operands

A filter works with its operands through few questions: whether one is nothing, whether it counts as true,
how two compare, and what a function makes of it. A change of operands that makes no difference to any of
these is unseen, and then neither a comparison nor a call sees it, up to the operand that a function hands
on.

Nothing in a filter tells a computed integer from the double that is nearest to it: comparisons look at
doubles, a number has no length and is one value, and no number is a pattern. So an operand can be
replaced by the one that holds the double.

## Main definitions

* `Operand.Unseen` — a change of operands that makes no difference.
* `Operand.asDouble` — an operand whose number is the double that stands for it.

## Main results

* `Operand.Unseen.holds`, `Operand.Unseen.callByName` — comparisons and calls do not see such a change.
* `Operand.unseen_asDouble` — a filter sees the doubles of its numbers alone.
-/

namespace PathQuery

open Logged

namespace Operand

/-! ## Unseen changes -/

/-- A change of operands that makes no difference to a comparison, to a test, and to what the functions
compute; a function that hands an operand on may hand on the changed one. -/
structure Unseen (φ : Operand → Operand) : Prop where
  isNothing (x : Operand) : (φ x).isNothing = x.isNothing
  truthy (x : Operand) : (φ x).truthy = x.truthy
  equal (x y : Operand) : (φ x).equal (φ y) = x.equal y
  less (x y : Operand) : (φ x).less (φ y) = x.less y
  string? (x : Operand) : (φ x).content.string? = x.content.string?
  length (x : Operand) : lengthOf (φ x) = lengthOf x
  count (x : Operand) : countOf (φ x) = countOf x
  value (x : Operand) : φ (valueOf (φ x)) = φ (valueOf x)

namespace Unseen

variable {φ : Operand → Operand} (h : Unseen φ)

include h

/-- A comparison does not see the change. -/
theorem holds (op : CompareOp) (x y : Operand) : op.holds (φ x) (φ y) = op.holds x y := by
  simp only [CompareOp.holds, h.isNothing, h.equal, h.less]

theorem testPattern [Engine] (p : Engine.Pattern) (x : Operand) :
    PathQuery.testPattern (φ x) p = PathQuery.testPattern x p := by
  simp only [PathQuery.testPattern, h.string?]

theorem testOperand [Engine] (e : Extent) (x y : Operand) :
    PathQuery.testOperand e (φ x) (φ y) = PathQuery.testOperand e x y := by
  simp only [PathQuery.testOperand, h.testPattern, h.string?]

/-- A call does not see the change of its arguments, and may hand it on. -/
theorem apply [Engine] (f : Function) (xs : List Operand) :
    φ <$> f.apply (xs.map φ) = φ <$> f.apply xs := by
  rcases xs with _ | ⟨x, _ | ⟨y, _ | ⟨z, rest⟩⟩⟩
  · cases f <;> rfl
  · cases f with
    | length => simp only [List.map_cons, List.map_nil, Function.apply, h.length]
    | count => simp only [List.map_cons, List.map_nil, Function.apply, h.count]
    | value => simp only [List.map_cons, List.map_nil, Function.apply, map_pure, h.value]
    | _ => rfl
  · cases f with
    | whole | search => simp only [List.map_cons, List.map_nil, Function.apply, h.testOperand]
    | _ => rfl
  · cases f <;> simp only [List.map_cons, Function.apply, List.length_cons, List.length_map]

/-- A call by name does not see the change of its arguments, and may hand it on. -/
theorem callByName [Engine] (name : String) (xs : List Operand) :
    φ <$> PathQuery.callByName name (xs.map φ) = φ <$> PathQuery.callByName name xs := by
  unfold PathQuery.callByName
  cases Function.named? name with
  | none => rfl
  | some f => exact h.apply f xs

end Unseen

end Operand

/-! ## Numbers and their doubles -/

/-- A literal whose number is the double that stands for it. -/
def Json.asDouble : Json → Json
  | .number n => .number (.real n.toFloat)
  | v => v

namespace Operand

/-- An operand whose computed number is the double that stands for it. -/
def asDouble : Operand → Operand
  | owned v => owned v.asDouble
  | x => x

theorem equal_asDouble_left (x y : Operand) : x.asDouble.equal y = x.equal y := by
  cases x with
  | owned v =>
    cases v with
    | number n =>
      show (Content.one (.number (.real n.toFloat))).equal y.content =
        (Content.one (.number n)).equal y.content
      cases y.content with
      | one w => cases w <;> rfl
      | _ => rfl
    | _ => rfl
  | _ => rfl

theorem equal_asDouble_right (x y : Operand) : x.equal y.asDouble = x.equal y := by
  cases y with
  | owned v =>
    cases v with
    | number n =>
      show x.content.equal (.one (.number (.real n.toFloat))) = x.content.equal (.one (.number n))
      cases x.content with
      | one w => cases w <;> rfl
      | _ => rfl
    | _ => rfl
  | _ => rfl

/-- Which numbers and strings are compared shows the double alone. -/
theorem less_asDouble (x y : Operand) : x.asDouble.less y.asDouble = x.less y := by
  have value (z : Operand) : z.asDouble.json? = z.json? ∨ ∃ n : Number,
      z.asDouble.json? = some (.number (.real n.toFloat)) ∧ z.json? = some (.number n) := by
    cases z with
    | owned v =>
      cases v with
      | number n => exact .inr ⟨n, rfl, rfl⟩
      | _ => exact .inl rfl
    | _ => exact .inl rfl
  unfold less
  rcases value x with hx | ⟨m, hx, hm⟩
  · rcases value y with hy | ⟨n, hy, hn⟩
    · rw [hx, hy]
    · rw [hx, hy, hn]
      cases x.json? with
      | none => rfl
      | some v => cases v <;> rfl
  · rcases value y with hy | ⟨n, hy, hn⟩
    · rw [hx, hy, hm]
      cases y.json? with
      | none => rfl
      | some w => cases w <;> rfl
    · rw [hx, hy, hm, hn]
      rfl

/-- Of a number a filter sees the double alone. -/
theorem unseen_asDouble : Unseen asDouble where
  isNothing x := by cases x <;> rfl
  truthy x := by
    cases x with
    | owned v => cases v <;> rfl
    | _ => rfl
  equal x y := (equal_asDouble_left x _).trans (equal_asDouble_right x y)
  less := less_asDouble
  string? x := by
    cases x with
    | owned v => cases v <;> rfl
    | _ => rfl
  length x := by
    cases x with
    | owned v => cases v <;> rfl
    | _ => rfl
  count x := by
    cases x with
    | owned v => cases v <;> rfl
    | _ => rfl
  value x := by
    cases x with
    | owned v => cases v <;> rfl
    | _ => rfl

end Operand

end PathQuery
