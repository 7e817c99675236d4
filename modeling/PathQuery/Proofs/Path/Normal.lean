import PathQuery.Path.Grammar
import PathQuery.Path.Printer
import PathQuery.Proofs.Path.Shape

/-!
# Normal paths

Different paths can have the same text. The text shows where an operand needs parentheses but not whether
it is a group, it shows no parentheses around the whole of a filter, and a path as an argument looks like
a term. The normal form of a path is the one among the paths of its text that the grammar gives: operands
that need parentheses are groups, the outermost group of a filter is dropped, and paths are terms.

## Main definitions

* `Filter.groupIf` — a filter in parentheses, on a condition.
* `Path.normal` — the normal form of a path.

## Main results

* `Filter.chars_or`, `Filter.chars_and`, `Filter.chars_negation` — the operands of a connective are
  written as the groups that they become.
-/

namespace PathQuery

/-! ## Operands -/

/-- Whether a filter is a disjunction. -/
def Filter.isDisjunction : Filter → Bool
  | .logic .or _ _ => true
  | _ => false

/-- Whether a filter is a connective with its operands. -/
def Filter.isLogic : Filter → Bool
  | .logic _ _ _ => true
  | _ => false

/-- A filter, in parentheses if a condition holds. -/
def Filter.groupIf (condition : Bool) (f : Filter) : Filter := if condition then .group f else f

/-- The term of a path in a filter; a path without segments is the place where it starts. -/
def Term.ofPath : Anchor → List Segment → Term
  | .current, [] => .current
  | .root, [] => .root
  | anchor, segments => .path anchor segments

/-- A path with segments is no bare sign. -/
theorem Term.ofPath_of_segments {anchor : Anchor} {segments : List Segment} (h : segments ≠ []) :
    Term.ofPath anchor segments = .path anchor segments := by
  cases segments with
  | nil => contradiction
  | cons s more => cases anchor <;> rfl

/-! ## Normal forms -/

mutual

/-- The normal form of a selector. -/
def Selector.normal : Selector → Selector
  | .name key => .name key
  | .index i => .index i
  | .slice start stop step => .slice start stop step
  | .wildcard => .wildcard
  | .filter test => .filter (Filter.normal test).ungroup
  | .descent inner => .descent (Selector.normal inner)

/-- The normal form of a filter. -/
def Filter.normal : Filter → Filter
  | .comparison op left right => .comparison op (Term.normal left) (Term.normal right)
  | .logic .or left right =>
    .logic .or (Filter.normal left) ((Filter.normal right).groupIf right.isDisjunction)
  | .logic .and left right =>
    .logic .and ((Filter.normal left).groupIf left.isDisjunction)
      ((Filter.normal right).groupIf right.isLogic)
  | .existence anchor segments => .existence anchor (normalSegments segments)
  | .call function args => .call function (normalArguments args)
  | .group inner => .group (Filter.normal inner)
  | .negation inner => .negation ((Filter.normal inner).groupIf inner.isLogic)

/-- The normal form of a term. -/
def Term.normal : Term → Term
  | .current => .current
  | .root => .root
  | .literal value => .literal value
  | .path anchor segments => Term.ofPath anchor (normalSegments segments)
  | .call function args => .call function (normalArguments args)

/-- The normal form of an argument. -/
def Argument.normal : Argument → Argument
  | .term t => .term (Term.normal t)
  | .filter f => .filter (Filter.normal f)
  | .path segments => .term (Term.ofPath .current (normalSegments segments))

/-- The normal forms of selectors. -/
def normalSelectors : List Selector → List Selector
  | [] => []
  | s :: rest => Selector.normal s :: normalSelectors rest

/-- The normal forms of segments. -/
def normalSegments : List (List Selector) → List (List Selector)
  | [] => []
  | s :: rest => normalSelectors s :: normalSegments rest

/-- The normal forms of arguments. -/
def normalArguments : List Argument → List Argument
  | [] => []
  | a :: rest => Argument.normal a :: normalArguments rest

end

/-- The normal form of a path. -/
def Path.normal (p : Path) : Path := ⟨normalSegments p.segments⟩

/-! ## What a normal form keeps -/

namespace Filter

/-- In parentheses if it is a disjunction, a filter is none. -/
theorem isDisjunction_groupIf (f : Filter) : (f.groupIf f.isDisjunction).isDisjunction = false := by
  cases h : f.isDisjunction with
  | true => rfl
  | false => exact h

/-- In parentheses if it is a connective, a filter is none. -/
theorem isLogic_groupIf (f : Filter) : (f.groupIf f.isLogic).isLogic = false := by
  cases h : f.isLogic with
  | true => rfl
  | false => exact h

theorem strength_pos (f : Filter) : 0 < f.strength := by
  cases f with
  | logic op left right => cases op <;> exact Nat.succ_pos _
  | _ => exact Nat.succ_pos _

theorem strength_lt_two (f : Filter) : decide (f.strength < 2) = f.isDisjunction := by
  cases f with
  | logic op left right => cases op <;> rfl
  | _ => rfl

theorem strength_lt_three (f : Filter) : decide (f.strength < 3) = f.isLogic := by
  cases f with
  | logic op left right => cases op <;> rfl
  | _ => rfl

/-! ## The characters of operands -/

/-- Parentheses around an operand are those of a group. -/
theorem operandChars_eq (f : Filter) (least : Nat) :
    operandChars f.strength least f.chars = (f.groupIf (decide (f.strength < least))).chars := by
  by_cases h : f.strength < least
  · simp [operandChars, groupIf, h, chars]
  · simp [operandChars, groupIf, h]

theorem chars_or (left right : Filter) :
    (logic .or left right).chars =
      left.chars ++ ' ' :: '|' :: '|' :: ' ' :: (right.groupIf right.isDisjunction).chars := by
  have hleft : operandChars left.strength 1 left.chars = left.chars :=
    if_neg (Nat.not_lt.2 left.strength_pos)
  have hright := right.operandChars_eq 2
  rw [strength_lt_two] at hright
  rw [← hright]
  show operandChars left.strength 1 left.chars ++ _ = _
  rw [hleft]
  rfl

theorem chars_and (left right : Filter) :
    (logic .and left right).chars =
      (left.groupIf left.isDisjunction).chars ++
        ' ' :: '&' :: '&' :: ' ' :: (right.groupIf right.isLogic).chars := by
  have hleft := left.operandChars_eq 2
  have hright := right.operandChars_eq 3
  rw [strength_lt_two] at hleft
  rw [strength_lt_three] at hright
  rw [← hleft, ← hright]
  rfl

theorem chars_negation (inner : Filter) :
    (negation inner).chars = '!' :: (inner.groupIf inner.isLogic).chars := by
  have h := inner.operandChars_eq 3
  rw [strength_lt_three] at h
  rw [chars, h]

end Filter

end PathQuery
