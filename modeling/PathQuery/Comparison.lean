import PathQuery.Path.Basic
import PathQuery.Operand
import PathQuery.Json.Equality

/-!
# Comparisons

Two operands are equal if what they come down to is equal by value. One is less than another only if both
hold a single number or both a single string; strings are ordered by their code points. A comparison with
nothing is false, except that nothing equals nothing.

## Main definitions

* `Operand.equal`, `Operand.less` — equality and order of operands.
* `CompareOp.holds` — the six comparisons.
-/

namespace PathQuery

/-- Equality of what two operands come down to. Several values equal an array of the same values. -/
def Content.equal : Content → Content → Bool
  | .nothing, .nothing => true
  | .one a, .one b => a.sameValue b
  | .many as, .many bs => Json.agreeItems Number.sameValue as bs
  | .many as, .one (.array bs) => Json.agreeItems Number.sameValue as bs
  | .one (.array as), .many bs => Json.agreeItems Number.sameValue as bs
  | _, _ => false

namespace Operand

/-- Equality of operands. -/
def equal (a b : Operand) : Bool := a.content.equal b.content

/-- Whether an operand is less than another one: both are numbers, or both are strings. -/
def less (a b : Operand) : Bool :=
  match a.json?, b.json? with
  | some (.number m), some (.number n) => m.toFloat < n.toFloat
  | some (.string s), some (.string t) => s < t
  | _, _ => false

end Operand

/-- Whether a comparison holds between two operands. -/
def CompareOp.holds (op : CompareOp) (a b : Operand) : Bool :=
  if a.isNothing || b.isNothing then op == .eq && a.isNothing && b.isNothing
  else match op with
    | eq => a.equal b
    | ne => !a.equal b
    | lt => a.less b
    | le => a.less b || a.equal b
    | gt => b.less a
    | ge => b.less a || a.equal b

end PathQuery
