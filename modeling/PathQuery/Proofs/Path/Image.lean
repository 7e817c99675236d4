import PathQuery.Proofs.Path.Canonical
import PathQuery.Proofs.Path.Meaning

/-!
# The paths that texts hold

What is read off a text has the canonical shape. There is no other condition: every path of that shape is
read off some text. This is not always its own text, because parentheses around the whole of a filter are
dropped by the reader, and a group may well be the whole of a filter. In the text of the guarded path every
filter stands in one more pair of parentheses. These are the ones that are dropped, and so the path itself
is left.

## Main definitions

* `Path.guarded` — a path with each filter of a filter selector in parentheses.

## Main results

* `Path.canonical_guarded`, `Path.normal_guarded` — a guarded path has the canonical shape, and its normal
  form is the path itself.
* `Path.read_guarded_text` — the text of the guarded path is read as the path.
* `Path.exists_read_iff` — the canonical shape is that of the paths that are read.
-/

namespace PathQuery

/-! ## Guarded paths -/

mutual

/-- A selector with the filters inside it in parentheses. -/
def Selector.guarded : Selector → Selector
  | .filter test => .filter (.group (Filter.guarded test))
  | .descent inner => .descent (Selector.guarded inner)
  | s => s

/-- A filter with the filters of the selectors inside it in parentheses. -/
def Filter.guarded : Filter → Filter
  | .comparison op left right => .comparison op (Term.guarded left) (Term.guarded right)
  | .logic op left right => .logic op (Filter.guarded left) (Filter.guarded right)
  | .existence anchor segments => .existence anchor (guardedSegments segments)
  | .call function args => .call function (guardedArguments args)
  | .group inner => .group (Filter.guarded inner)
  | .negation inner => .negation (Filter.guarded inner)

/-- A term with the filters inside it in parentheses. -/
def Term.guarded : Term → Term
  | .path anchor segments => .path anchor (guardedSegments segments)
  | .call function args => .call function (guardedArguments args)
  | t => t

/-- An argument with the filters of the selectors inside it in parentheses. -/
def Argument.guarded : Argument → Argument
  | .term t => .term (Term.guarded t)
  | .filter f => .filter (Filter.guarded f)
  | .path segments => .path (guardedSegments segments)

/-- Selectors with the filters inside them in parentheses. -/
def guardedSelectors : List Selector → List Selector
  | [] => []
  | s :: rest => Selector.guarded s :: guardedSelectors rest

/-- Segments with the filters inside them in parentheses. -/
def guardedSegments : List (List Selector) → List (List Selector)
  | [] => []
  | s :: rest => guardedSelectors s :: guardedSegments rest

/-- Arguments with the filters inside them in parentheses. -/
def guardedArguments : List Argument → List Argument
  | [] => []
  | a :: rest => Argument.guarded a :: guardedArguments rest

end

/-- A path with each filter of a filter selector, at any depth, in parentheses. -/
def Path.guarded (p : Path) : Path := ⟨guardedSegments p.segments⟩

/-! ## What guarding keeps -/

@[simp] theorem Selector.isDescent_guarded (s : Selector) : s.guarded.isDescent = s.isDescent := by
  cases s <;> rfl

@[simp] theorem Selector.isShallowDescent_guarded (s : Selector) :
    s.guarded.isShallowDescent = s.isShallowDescent := by
  cases s with
  | descent inner => exact congrArg (!·) inner.isDescent_guarded
  | _ => rfl

@[simp] theorem Filter.isDisjunction_guarded (f : Filter) : f.guarded.isDisjunction = f.isDisjunction := by
  cases f with
  | logic op left right => cases op <;> rfl
  | _ => rfl

@[simp] theorem Filter.isLogic_guarded (f : Filter) : f.guarded.isLogic = f.isLogic := by
  cases f <;> rfl

@[simp] theorem Filter.isTest_guarded (f : Filter) : f.guarded.isTest = f.isTest := by
  cases f <;> rfl

theorem guardedSelectors_eq (s : Segment) : guardedSelectors s = s.map Selector.guarded := by
  induction s with
  | nil => rfl
  | cons t rest ih => rw [guardedSelectors, ih, List.map_cons]

@[simp] theorem isEmpty_guardedSegments (segments : List Segment) :
    (guardedSegments segments).isEmpty = segments.isEmpty := by
  cases segments <;> rfl

/-- Guarding keeps what the canonical shape asks of a segment. -/
theorem canonical_guardedSelectors (s : Segment) :
    Shape.canonical.segment (guardedSelectors s) = Shape.canonical.segment s := by
  simp [Shape.canonical, guardedSelectors_eq, Function.comp_def]

/-- Guarding keeps what the canonical shape asks of the operands of a connective. -/
theorem canonical_logic_guarded (op : LogicOp) (left right : Filter) :
    Shape.canonical.filter (.logic op left.guarded right.guarded) =
      Shape.canonical.filter (.logic op left right) := by
  cases op <;> simp [Shape.canonical]

/-! ## The canonical shape -/

mutual

theorem Selector.every_guarded : ∀ s : Selector, s.guarded.every .canonical = s.every .canonical
  | .name _ => rfl
  | .index _ => rfl
  | .slice _ _ _ => rfl
  | .wildcard => rfl
  | .filter test => by
    rw [Selector.guarded, Selector.every, Selector.every, Filter.every, Filter.every_guarded test]
    rfl
  | .descent inner => by
    rw [Selector.guarded, Selector.every, Selector.every, Selector.every_guarded inner]
    rfl

theorem Filter.every_guarded : ∀ f : Filter, f.guarded.every .canonical = f.every .canonical
  | .comparison op left right => by
    rw [Filter.guarded, Filter.every, Filter.every, Term.every_guarded left, Term.every_guarded right]
    rfl
  | .logic op left right => by
    rw [Filter.guarded, Filter.every, Filter.every, Filter.every_guarded left,
      Filter.every_guarded right, canonical_logic_guarded]
  | .existence anchor segments => by
    rw [Filter.guarded, Filter.every, Filter.every, everySegment_guarded segments]
    rfl
  | .call function args => by
    rw [Filter.guarded, Filter.every, Filter.every, everyArgument_guarded args]
    rfl
  | .group inner => by
    rw [Filter.guarded, Filter.every, Filter.every, Filter.every_guarded inner]
    rfl
  | .negation inner => by
    rw [Filter.guarded, Filter.every, Filter.every, Filter.every_guarded inner]
    simp only [Shape.canonical, Filter.isLogic_guarded]

theorem Term.every_guarded : ∀ t : Term, t.guarded.every .canonical = t.every .canonical
  | .current => rfl
  | .root => rfl
  | .literal _ => rfl
  | .path anchor segments => by
    rw [Term.guarded, Term.every, Term.every, everySegment_guarded segments]
    simp only [Shape.canonical, isEmpty_guardedSegments]
  | .call function args => by
    rw [Term.guarded, Term.every, Term.every, everyArgument_guarded args]
    rfl

theorem Argument.every_guarded : ∀ a : Argument, a.guarded.every .canonical = a.every .canonical
  | .term t => by
    rw [Argument.guarded, Argument.every, Argument.every, Term.every_guarded t]
    rfl
  | .filter f => by
    rw [Argument.guarded, Argument.every, Argument.every, Filter.every_guarded f]
    simp only [Shape.canonical, Filter.isTest_guarded]
  | .path segments => by
    rw [Argument.guarded, Argument.every, Argument.every, everySegment_guarded segments]
    rfl

theorem everySelector_guarded : ∀ s : List Selector,
    everySelector .canonical (guardedSelectors s) = everySelector .canonical s
  | [] => rfl
  | s :: rest => by
    rw [guardedSelectors, everySelector, everySelector, Selector.every_guarded s,
      everySelector_guarded rest]

theorem everySegment_guarded : ∀ segments : List (List Selector),
    everySegment .canonical (guardedSegments segments) = everySegment .canonical segments
  | [] => rfl
  | s :: rest => by
    rw [guardedSegments, everySegment, everySegment, everySelector_guarded s,
      everySegment_guarded rest, canonical_guardedSelectors]

theorem everyArgument_guarded : ∀ args : List Argument,
    everyArgument .canonical (guardedArguments args) = everyArgument .canonical args
  | [] => rfl
  | a :: rest => by
    rw [guardedArguments, everyArgument, everyArgument, Argument.every_guarded a,
      everyArgument_guarded rest]

end

/-! ## The normal form -/

mutual

theorem Selector.normal_guarded : ∀ s : Selector, s.every .canonical = true → s.guarded.normal = s
  | .name _, _ => rfl
  | .index _, _ => rfl
  | .slice _ _ _, _ => rfl
  | .wildcard, _ => rfl
  | .filter test, shape => by
    simp only [Selector.every, Bool.and_eq_true] at shape
    rw [Selector.guarded, Selector.normal, Filter.normal, Filter.ungroup,
      Filter.normal_guarded test shape.2]
  | .descent inner, shape => by
    simp only [Selector.every, Bool.and_eq_true] at shape
    rw [Selector.guarded, Selector.normal, Selector.normal_guarded inner shape.2]

theorem Filter.normal_guarded : ∀ f : Filter, f.every .canonical = true → f.guarded.normal = f
  | .comparison op left right, shape => by
    simp only [Filter.every, Bool.and_eq_true] at shape
    rw [Filter.guarded, Filter.normal, Term.normal_guarded left shape.2.1,
      Term.normal_guarded right shape.2.2]
  | .logic op left right, shape => by
    simp only [Filter.every, Bool.and_eq_true] at shape
    have hl := Filter.normal_guarded left shape.2.1
    have hr := Filter.normal_guarded right shape.2.2
    cases op with
    | or =>
      have operand : right.isDisjunction = false := by simpa [Shape.canonical] using shape.1
      rw [Filter.guarded, Filter.normal, hl, hr, Filter.isDisjunction_guarded, operand]
      rfl
    | and =>
      have operands : left.isDisjunction = false ∧ right.isLogic = false := by
        simpa [Shape.canonical] using shape.1
      rw [Filter.guarded, Filter.normal, hl, hr, Filter.isDisjunction_guarded,
        Filter.isLogic_guarded, operands.1, operands.2]
      rfl
  | .existence anchor segments, shape => by
    simp only [Filter.every, Bool.and_eq_true] at shape
    rw [Filter.guarded, Filter.normal, normalSegments_guarded segments shape.2]
  | .call function args, shape => by
    simp only [Filter.every, Bool.and_eq_true] at shape
    rw [Filter.guarded, Filter.normal, normalArguments_guarded args shape.2]
  | .group inner, shape => by
    simp only [Filter.every, Bool.and_eq_true] at shape
    rw [Filter.guarded, Filter.normal, Filter.normal_guarded inner shape.2]
  | .negation inner, shape => by
    simp only [Filter.every, Bool.and_eq_true] at shape
    have operand : inner.isLogic = false := by simpa [Shape.canonical] using shape.1
    rw [Filter.guarded, Filter.normal, Filter.normal_guarded inner shape.2, Filter.isLogic_guarded,
      operand]
    rfl

theorem Term.normal_guarded : ∀ t : Term, t.every .canonical = true → t.guarded.normal = t
  | .current, _ => rfl
  | .root, _ => rfl
  | .literal _, _ => rfl
  | .path anchor segments, shape => by
    simp only [Term.every, Bool.and_eq_true] at shape
    have some : segments ≠ [] := by
      rintro rfl
      cases shape.1
    rw [Term.guarded, Term.normal, normalSegments_guarded segments shape.2,
      Term.ofPath_of_segments some]
  | .call function args, shape => by
    simp only [Term.every, Bool.and_eq_true] at shape
    rw [Term.guarded, Term.normal, normalArguments_guarded args shape.2]

theorem Argument.normal_guarded : ∀ a : Argument, a.every .canonical = true → a.guarded.normal = a
  | .term t, shape => by
    simp only [Argument.every, Bool.and_eq_true] at shape
    rw [Argument.guarded, Argument.normal, Term.normal_guarded t shape.2]
  | .filter f, shape => by
    simp only [Argument.every, Bool.and_eq_true] at shape
    rw [Argument.guarded, Argument.normal, Filter.normal_guarded f shape.2]
  | .path segments, shape => by
    simp only [Argument.every, Bool.and_eq_true] at shape
    cases shape.1

theorem normalSelectors_guarded : ∀ s : List Selector, everySelector .canonical s = true →
    normalSelectors (guardedSelectors s) = s
  | [], _ => rfl
  | s :: rest, shape => by
    simp only [everySelector, Bool.and_eq_true] at shape
    rw [guardedSelectors, normalSelectors, Selector.normal_guarded s shape.1,
      normalSelectors_guarded rest shape.2]

theorem normalSegments_guarded : ∀ segments : List (List Selector),
    everySegment .canonical segments = true → normalSegments (guardedSegments segments) = segments
  | [], _ => rfl
  | s :: rest, shape => by
    simp only [everySegment, Bool.and_eq_true] at shape
    rw [guardedSegments, normalSegments, normalSelectors_guarded s shape.1.2,
      normalSegments_guarded rest shape.2]

theorem normalArguments_guarded : ∀ args : List Argument, everyArgument .canonical args = true →
    normalArguments (guardedArguments args) = args
  | [], _ => rfl
  | a :: rest, shape => by
    simp only [everyArgument, Bool.and_eq_true] at shape
    rw [guardedArguments, normalArguments, Argument.normal_guarded a shape.1,
      normalArguments_guarded rest shape.2]

end

namespace Path

/-- A guarded path has the canonical shape if the path has it. -/
theorem canonical_guarded (p : Path) : p.guarded.every .canonical = p.every .canonical :=
  everySegment_guarded p.segments

/-- The normal form of a guarded path is the path itself. -/
theorem normal_guarded {p : Path} (shape : p.every .canonical = true) : p.guarded.normal = p :=
  congrArg Path.mk (normalSegments_guarded p.segments shape)

/-- The text of the guarded path is read as the path. -/
theorem read_guarded_text {p : Path} (shape : p.every .canonical = true) :
    read p.guarded.text = .ok p := by
  have readable : p.guarded.every .readable = true :=
    readable_of_canonical ((canonical_guarded p).trans shape)
  rw [read, reader_text readable, normal_guarded shape]

/-- The paths that are read off texts are those of the canonical shape: at every depth, a segment has
selectors, and either all of them descend, each to a selector that does not, or none does; a path as a term
has segments; a literal is null, a truth value, a string, an integer that is a word, or a finite double; a
function has the name of one; an argument is no path, and no bare test as a filter; and an operand that
needs parentheses is a group. -/
theorem exists_read_iff (p : Path) : (∃ text, read text = .ok p) ↔ p.every .canonical = true := by
  constructor
  · rintro ⟨text, h⟩
    exact canonical_of_read h
  · exact fun shape => ⟨p.guarded.text, read_guarded_text shape⟩

end Path

end PathQuery
