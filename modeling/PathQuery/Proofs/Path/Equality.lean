import PathQuery.Path.Equality
import PathQuery.Proofs.Double.Packing
import PathQuery.Proofs.Path.Canonical
import PathQuery.Proofs.Path.RoundTrip

/-!
# Reading, writing and reading again

A path that is read and written can be read again, and what comes back is the normal form of what was
read first. The two are the same path unless a filter selector holds a group: parentheses around the
whole of a filter are dropped by the reader, one pair of them, so a second pair is a group after the
first reading and is gone after the second one.

## Main definitions

* `Shape.ungrouped` — no filter selector holds a group.

## Main results

* `Path.same_normal` — a path of the canonical shape is its own normal form just if it is ungrouped.
* `Path.read_text_of_read` — when a path is the same after it has been written and read.
-/

namespace PathQuery

/-- No filter selector holds a filter that stands in parentheses as a whole. -/
def Shape.ungrouped : Shape where
  selector
    | .filter (.group _) => false
    | _ => true

/-! ## Literals -/

theorem Json.sameLiteral_self {v : Json} (h : v.isLiteral = true) : v.sameLiteral v = true := by
  cases v with
  | null => rfl
  | bool b => simp [sameLiteral, agree]
  | string s => simp [sameLiteral, agree]
  | number n =>
    cases n with
    | integer n => simp [sameLiteral, agree, Number.sameLiteral]
    | real x => exact Double.beq_self_of_isFinite h
  | array items => cases h
  | object members => cases h

/-! ## Normal forms of what is read -/

/-- A group is never the same as what is left when its parentheses are dropped. -/
theorem Filter.same_group_normal (f : Filter) : Filter.same (.group f) f.normal = false := by
  match f with
  | .group inner =>
    rw [normal, same]
    exact Filter.same_group_normal inner
  | .logic .and _ _ => simp [normal, same]
  | .logic .or _ _ => simp [normal, same]
  | .comparison _ _ _ => simp [normal, same]
  | .existence _ _ => simp [normal, same]
  | .call _ _ => simp [normal, same]
  | .negation _ => simp [normal, same]

/-- A filter selector is the same as its normal form if its filter is, and is no group. -/
theorem Filter.same_normal_ungroup {test : Filter}
    (h : test.same test.normal = test.every .ungrouped) :
    test.same test.normal.ungroup = (Selector.filter test).every .ungrouped := by
  cases test with
  | group inner => exact Filter.same_group_normal inner
  | logic op left right => cases op <;> exact h
  | _ => exact h

mutual

theorem Selector.same_normal :
    ∀ s : Selector, s.every .canonical = true → s.same s.normal = s.every .ungrouped
  | .name key, _ => by simp [Selector.same, Selector.normal, Selector.every, Shape.ungrouped]
  | .index i, _ => by simp [Selector.same, Selector.normal, Selector.every, Shape.ungrouped]
  | .slice start stop step, _ => by
    simp [Selector.same, Selector.normal, Selector.every, Shape.ungrouped]
  | .wildcard, _ => by simp [Selector.same, Selector.normal, Selector.every, Shape.ungrouped]
  | .filter test, shape => by
    simp only [Selector.every, Bool.and_eq_true] at shape
    have inner := Filter.same_normal test shape.2
    rw [Selector.normal, Selector.same]
    exact Filter.same_normal_ungroup inner
  | .descent inner, shape => by
    simp only [Selector.every, Bool.and_eq_true] at shape
    have inner := Selector.same_normal inner shape.2
    rw [Selector.normal, Selector.same, inner]
    rfl

theorem Filter.same_normal :
    ∀ f : Filter, f.every .canonical = true → f.same f.normal = f.every .ungrouped
  | .comparison op left right, shape => by
    simp only [Filter.every, Bool.and_eq_true] at shape
    have hl := Term.same_normal left shape.2.1
    have hr := Term.same_normal right shape.2.2
    rw [Filter.normal, Filter.same, hl, hr, beq_self_eq_true]
    rfl
  | .logic .or left right, shape => by
    simp only [Filter.every, Bool.and_eq_true] at shape
    have hl := Filter.same_normal left shape.2.1
    have hr := Filter.same_normal right shape.2.2
    have operand : right.isDisjunction = false := by simpa [Shape.canonical] using shape.1
    rw [Filter.normal, operand, Filter.same, hl]
    show (true && left.every .ungrouped && right.same right.normal) = _
    rw [hr]
    rfl
  | .logic .and left right, shape => by
    simp only [Filter.every, Bool.and_eq_true] at shape
    have hl := Filter.same_normal left shape.2.1
    have hr := Filter.same_normal right shape.2.2
    have operands : left.isDisjunction = false ∧ right.isLogic = false := by
      simpa [Shape.canonical] using shape.1
    rw [Filter.normal, operands.1, operands.2, Filter.same]
    show (true && left.same left.normal && right.same right.normal) = _
    rw [hl, hr]
    rfl
  | .existence anchor segments, shape => by
    simp only [Filter.every, Bool.and_eq_true] at shape
    have inner := sameSegments_normal segments shape.2
    rw [Filter.normal, Filter.same, inner, beq_self_eq_true]
    rfl
  | .call function args, shape => by
    simp only [Filter.every, Bool.and_eq_true] at shape
    have inner := sameArguments_normal args shape.2
    rw [Filter.normal, Filter.same, inner, beq_self_eq_true]
    rfl
  | .group inner, shape => by
    simp only [Filter.every, Bool.and_eq_true] at shape
    have inner := Filter.same_normal inner shape.2
    rw [Filter.normal, Filter.same, inner]
    rfl
  | .negation inner, shape => by
    simp only [Filter.every, Bool.and_eq_true] at shape
    have same := Filter.same_normal inner shape.2
    have operand : inner.isLogic = false := by simpa [Shape.canonical] using shape.1
    rw [Filter.normal, operand, Filter.same]
    exact same

theorem Term.same_normal :
    ∀ t : Term, t.every .canonical = true → t.same t.normal = t.every .ungrouped
  | .current, _ => by simp [Term.same, Term.normal, Term.every, Shape.ungrouped]
  | .root, _ => by simp [Term.same, Term.normal, Term.every, Shape.ungrouped]
  | .literal value, shape => by
    rw [Term.normal, Term.same, Json.sameLiteral_self shape]
    rfl
  | .path anchor segments, shape => by
    simp only [Term.every, Bool.and_eq_true] at shape
    have inner := sameSegments_normal segments shape.2
    have some : normalSegments segments ≠ [] := by
      cases segments with
      | nil => cases shape.1
      | cons s more => exact List.cons_ne_nil _ _
    rw [Term.normal, Term.ofPath_of_segments some, Term.same, inner, beq_self_eq_true]
    rfl
  | .call function args, shape => by
    simp only [Term.every, Bool.and_eq_true] at shape
    have inner := sameArguments_normal args shape.2
    rw [Term.normal, Term.same, inner, beq_self_eq_true]
    rfl

theorem Argument.same_normal :
    ∀ a : Argument, a.every .canonical = true → a.same a.normal = a.every .ungrouped
  | .term t, shape => by
    simp only [Argument.every, Bool.and_eq_true] at shape
    have inner := Term.same_normal t shape.2
    rw [Argument.normal, Argument.same, inner]
    rfl
  | .filter f, shape => by
    simp only [Argument.every, Bool.and_eq_true] at shape
    have inner := Filter.same_normal f shape.2
    rw [Argument.normal, Argument.same, inner]
    rfl
  | .path segments, shape => by
    simp only [Argument.every, Bool.and_eq_true] at shape
    cases shape.1

theorem sameSelectors_normal : ∀ s : List Selector, everySelector .canonical s = true →
    sameSelectors s (normalSelectors s) = everySelector .ungrouped s
  | [], _ => by simp [sameSelectors, normalSelectors, everySelector]
  | s :: more, shape => by
    simp only [everySelector, Bool.and_eq_true] at shape
    have first := Selector.same_normal s shape.1
    have others := sameSelectors_normal more shape.2
    rw [normalSelectors, sameSelectors, first, others, everySelector]

theorem sameSegments_normal : ∀ segments : List (List Selector),
    everySegment .canonical segments = true →
      sameSegments segments (normalSegments segments) = everySegment .ungrouped segments
  | [], _ => by simp [sameSegments, normalSegments, everySegment]
  | s :: more, shape => by
    simp only [everySegment, Bool.and_eq_true] at shape
    have first := sameSelectors_normal s shape.1.2
    have others := sameSegments_normal more shape.2
    rw [normalSegments, sameSegments, first, others, everySegment]
    rfl

theorem sameArguments_normal : ∀ args : List Argument, everyArgument .canonical args = true →
    sameArguments args (normalArguments args) = everyArgument .ungrouped args
  | [], _ => by simp [sameArguments, normalArguments, everyArgument]
  | a :: more, shape => by
    simp only [everyArgument, Bool.and_eq_true] at shape
    have first := Argument.same_normal a shape.1
    have others := sameArguments_normal more shape.2
    rw [normalArguments, sameArguments, first, others, everyArgument]

end

namespace Path

/-- A path of the canonical shape is the same as its normal form just if it is ungrouped. -/
theorem same_normal {p : Path} (shape : p.every .canonical = true) :
    p.same p.normal = p.every .ungrouped := sameSegments_normal p.segments shape

/-- A path that has been read is written and read again to the same path just if none of its filter
selectors, at any depth, holds a group. -/
theorem read_text_of_read {text : String} {p : Path} (h : read text = .ok p) :
    ∃ q, read p.text = .ok q ∧ (p.same q = true ↔ p.every .ungrouped = true) := by
  have shape := canonical_of_read h
  refine ⟨p.normal, ?_, ?_⟩
  · rw [read, reader_text (readable_of_canonical shape)]
  · rw [same_normal shape]

/-- Of two pairs of parentheses around a filter one is left by the first reading, and none by the
second one. -/
theorem not_same_of_doubled_parentheses :
    ∃ p q, read "$[?((@.a))]" = .ok p ∧ read p.text = .ok q ∧ p.same q = false := by
  refine ⟨⟨[[.filter (.group (.existence .current [[.name "a"]]))]]⟩,
    ⟨[[.filter (.existence .current [[.name "a"]])]]⟩, rfl, rfl, ?_⟩
  simp [same, sameSegments, sameSelectors, Selector.same, Filter.same]

theorem read_text_of_read_handBuilt :
    read handBuilt.text = .ok handBuilt.normal ∧
      ∃ q, read handBuilt.normal.text = .ok q ∧
        (handBuilt.normal.same q = true ↔ handBuilt.normal.every .ungrouped = true) := by
  have text : read handBuilt.text = .ok handBuilt.normal := by
    rw [read, reader_text rfl]
  exact ⟨text, read_text_of_read text⟩

end Path

end PathQuery
