import PathQuery.Proofs.Path.Shape
import PathQuery.Proofs.Path.Normal
import PathQuery.Proofs.Path.Lexeme
import PathQuery.Proofs.Reader.Yields

/-!
# The shape of what is read

The grammar does not give every path: operands that need parentheses are groups, a path as an argument is
a term, and so on. The shape of the paths that it does give is an invariant of its rules, which is shown
here for selectors, segments and terms, provided that the depth below keeps it.

## Main definitions

* `Shape.canonical` — the shape of the paths that are read.
* `Grammar.Canonical` — a grammar gives nothing but parts of that shape.

## Main results

* `Grammar.segments_canonical`, `Grammar.selectors_canonical` — segments and selectors.
* `Grammar.term_canonical` — terms.
-/

namespace PathQuery

open Lexeme Reader Grammar
open ReadError (Cause)

/-- The shape of the paths that are read: besides what is asked of a path that can be read back, operands
that need parentheses are groups, and paths are terms, which have segments. -/
def Shape.canonical : Shape where
  segment s := !s.isEmpty && (s.all Selector.isShallowDescent || s.all fun t => !t.isDescent)
  filter
    | .logic .or _ right => !right.isDisjunction
    | .logic .and left right => !left.isDisjunction && !right.isLogic
    | .negation inner => !inner.isLogic
    | .call function _ => isFunctionName function.toList
    | _ => true
  term
    | .literal value => value.isLiteral
    | .path _ segments => !segments.isEmpty
    | .call function _ => isFunctionName function.toList
    | _ => true
  argument
    | .filter f => !f.isTest
    | .path _ => false
    | _ => true

/-! ## Parts that are given -/

theorem everySelector_iff {σ : Shape} {s : Segment} :
    everySelector σ s = true ↔ ∀ t ∈ s, t.every σ = true := by
  induction s with
  | nil => simp [everySelector]
  | cons t more ih => simp [everySelector, ih]

/-- Dropping the outermost parentheses leaves a shape as it is. -/
theorem Filter.every_ungroup {σ : Shape} {f : Filter} (h : f.every σ = true) :
    f.ungroup.every σ = true := by
  cases f with
  | group inner =>
    simp only [every, Bool.and_eq_true] at h
    exact h.2
  | _ => exact h

theorem Filter.isDisjunction_of_not_isLogic {f : Filter} (h : f.isLogic = false) :
    f.isDisjunction = false := by
  cases f with
  | logic op left right => cases h
  | _ => rfl

/-- A selector as it is given between brackets. -/
def Selector.Given (s : Selector) : Prop := s.every .canonical = true ∧ s.isDescent = false

/-- The selectors between brackets. -/
def Segment.Given (s : Segment) : Prop := s ≠ [] ∧ ∀ t ∈ s, t.Given

/-- A filter that is given where no disjunction may stand. -/
def Filter.Conjunctive (f : Filter) : Prop := f.every .canonical = true ∧ f.isDisjunction = false

namespace Grammar

/-- A grammar gives nothing but parts of the canonical shape. A rule that goes on with a filter gives a
bare test only if it was handed one and found no connective. -/
structure Canonical (g : Grammar) : Prop where
  segments : ∀ s, Yields g.segments s fun segments =>
    everySegment .canonical segments = true ∧
      ((s.dropWhile isBlank).head?.any opensSegment = true → segments ≠ [])
  selectors : ∀ s, Yields g.selectors s Segment.Given
  filter : ∀ s, Yields g.filter s fun f => f.every .canonical = true
  unary : ∀ s, Yields g.unary s fun f => f.every .canonical = true ∧ f.isLogic = false
  conjunction : ∀ left s, left.Conjunctive → Yields (g.conjunction left) s fun f =>
    f.Conjunctive ∧
      (left.isTest = false ∨ ['&', '&'].isPrefixOf (s.dropWhile isBlank) = true → f.isTest = false)
  disjunction : ∀ left s, left.every .canonical = true → Yields (g.disjunction left) s fun f =>
    f.every .canonical = true ∧
      (left.isTest = false ∨ ['|', '|'].isPrefixOf (s.dropWhile isBlank) = true → f.isTest = false)
  arguments : ∀ s, Yields g.arguments s fun args => everyArgument .canonical args = true

variable {g : Grammar} (hg : g.Canonical) (s : List Char)

include hg

/-! ## Selectors and segments -/

omit hg in
theorem indexOrSlice_canonical : Yields indexOrSlice s Selector.Given := by
  apply Yields.after
  intro start t _
  apply Yields.after
  intro _ u _
  apply Yields.after
  intro c v _
  split
  · apply Yields.after
    intro _ _ _
    apply Yields.after
    intro stop _ _
    apply Yields.after
    intro _ _ _
    apply Yields.after
    intro step _ _
    exact Yields.pure ⟨rfl, rfl⟩
  · cases start with
    | none => exact Yields.fail _
    | some i => exact Yields.pure ⟨rfl, rfl⟩

theorem selector_canonical : Yields g.selector s Selector.Given := by
  apply Yields.after
  intro c t _
  cases c with
  | none => exact Yields.fail _
  | some c =>
    dsimp only
    split
    · apply Yields.after
      intro key _ _
      exact Yields.pure ⟨rfl, rfl⟩
    split
    · apply Yields.after
      intro _ _ _
      exact Yields.pure ⟨rfl, rfl⟩
    split
    · apply Yields.after
      intro _ t _
      apply (hg.filter t).map
      intro f hf
      refine ⟨?_, rfl⟩
      exact Filter.every_ungroup hf
    split
    · exact indexOrSlice_canonical t
    · exact Yields.fail _

theorem selectors_canonical : Yields g.selectorsRule s Segment.Given := by
  apply Yields.after
  intro _ t _
  apply (selector_canonical hg t).bind
  intro first u _ ok
  apply Yields.after
  intro _ v _
  apply Yields.after
  intro c w _
  cases c with
  | none => exact Yields.fail _
  | some c =>
    dsimp only
    split
    · apply Yields.after
      intro _ x _
      apply (hg.selectors x).map
      intro more others
      refine ⟨nofun, ?_⟩
      intro t ht
      rcases List.mem_cons.1 ht with rfl | ht
      · exact ok
      · exact others.2 t ht
    split
    · apply Yields.after
      intro _ x _
      refine Yields.pure ⟨nofun, fun t ht => ?_⟩
      rw [List.mem_singleton.1 ht]
      exact ok
    · exact Yields.fail _

theorem brackets_canonical : Yields g.brackets s Segment.Given := by
  apply Yields.after
  intro _ t _
  apply Yields.after
  intro c u _
  split
  · exact Yields.fail _
  · exact hg.selectors u

omit hg in
/-- Given selectors are a segment, and so are their descents. -/
theorem segment_of_given {t : Segment} (h : t.Given) :
    (Shape.canonical.segment t = true ∧ everySelector .canonical t = true) ∧
      (Shape.canonical.segment (Segment.descendant t) = true ∧
        everySelector .canonical (Segment.descendant t) = true) := by
  obtain ⟨ne, given⟩ := h
  refine ⟨⟨?_, everySelector_iff.2 fun u hu => (given u hu).1⟩, ?_, everySelector_iff.2 ?_⟩
  · simpa [Shape.canonical, ne] using .inr fun u hu => (given u hu).2
  · have shallow : ∀ u ∈ t, (Selector.descent u).isShallowDescent = true := by
      intro u hu
      simp [Selector.isShallowDescent, (given u hu).2]
    simpa [Shape.canonical, Segment.descendant, ne] using .inl shallow
  · intro u hu
    obtain ⟨v, hv, rfl⟩ := List.mem_map.1 hu
    exact (given v hv).1

theorem segment_canonical :
    Yields g.segment s fun t => Shape.canonical.segment t = true ∧ everySelector .canonical t = true := by
  have single {t : Selector} (h : t.Given) : Segment.Given [t] :=
    ⟨nofun, fun u hu => List.mem_singleton.1 hu ▸ h⟩
  have named (key : String) : Segment.Given [.name key] := single ⟨rfl, rfl⟩
  have all : Segment.Given [.wildcard] := single ⟨rfl, rfl⟩
  apply Yields.after
  intro found t _
  split
  · apply Yields.after
    intro _ u _
    apply Yields.after
    intro c v _
    cases c with
    | none => exact Yields.fail _
    | some c =>
      dsimp only
      split
      · apply Yields.after
        intro _ _ _
        exact Yields.pure (segment_of_given all).2
      split
      · apply Yields.after
        intro _ w _
        apply (brackets_canonical hg w).map
        intro _ h
        exact (segment_of_given h).2
      split
      · apply Yields.after
        intro key _ _
        exact Yields.pure (segment_of_given (named key)).2
      · exact Yields.fail _
  · apply Yields.after
    intro c u _
    split
    · apply Yields.after
      intro _ w _
      apply (brackets_canonical hg w).mono
      intro _ h
      exact (segment_of_given h).1
    · apply Yields.after
      intro _ v _
      apply Yields.after
      intro _ w _
      apply Yields.after
      intro c x _
      split
      · apply Yields.after
        intro _ _ _
        exact Yields.pure (segment_of_given all).1
      · apply Yields.after
        intro key _ _
        exact Yields.pure (segment_of_given (named key)).1

theorem segments_canonical : Yields g.segmentsRule s fun segments =>
    everySegment .canonical segments = true ∧
      ((s.dropWhile isBlank).head?.any opensSegment = true → segments ≠ []) := by
  apply Yields.after
  intro c t hc
  cases hc
  split
  · apply Yields.after
    intro _ u _
    apply (segment_canonical hg u).bind
    intro first v _ ok
    apply (hg.segments v).map
    intro more others
    refine ⟨?_, fun _ => nofun⟩
    simp [everySegment, ok, others.1]
  next closed => exact Yields.pure ⟨rfl, fun opens => absurd opens closed⟩

/-! ## Terms -/

omit hg in
theorem readNumber_canonical : Yields readNumber s fun v => v.isLiteral = true := by
  apply Yields.after
  intro n t _
  have literal (x : Number) (h : numberOf? n = some x) : (Json.number x).isLiteral = true := by
    unfold numberOf? at h
    split at h
    · split at h
      next word =>
        cases h
        exact word
      split at h
      next finite =>
        cases h
        exact finite
      · cases h
    · split at h
      next finite =>
        cases h
        exact finite
      · cases h
  split
  next x h => exact Yields.pure (literal x h)
  · exact Yields.fail _

omit hg in
theorem readKeyword_canonical :
    Yields readKeyword s fun v => ∀ value, v = some value → value.isLiteral = true := by
  constructor
  intro v rest h value hv
  have all : ∀ k ∈ keywords, k.2.isLiteral = true := by decide
  unfold readKeyword at h
  split at h
  next word found hk =>
    cases h
    cases hv
    exact all _ (List.mem_of_find?_eq_some hk)
  next =>
    cases h
    cases hv

theorem call_canonical {c : Char} (hc : isSmallLetter c = true) :
    Yields g.call (c :: s) fun t => t.every .canonical = true := by
  have name : ∀ function rest, readFunctionName (c :: s) = .done function rest →
      isFunctionName function.toList = true := by
    intro function rest h
    have front : isFunctionChar c = true := by simp [isFunctionChar, hc]
    have run : readFunctionName (c :: s) = .done (String.ofList (c :: s.takeWhile isFunctionChar))
        (s.dropWhile isFunctionChar) := by
      apply map_done String.ofList
      rw [takeWhile_apply, List.takeWhile_cons_of_pos front, List.dropWhile_cons_of_pos front]
    rw [run] at h
    cases h
    simp [isFunctionName, hc]
  have ok (function : String) (args : List Argument) (hf : isFunctionName function.toList = true)
      (ha : everyArgument .canonical args = true) :
      (Term.call function args).every .canonical = true := Bool.and_eq_true_iff.2 ⟨hf, ha⟩
  apply Yields.after
  intro function t hf
  apply Yields.after
  intro _ u _
  apply Yields.after
  intro c v _
  split
  · apply Yields.after
    intro _ w _
    apply Yields.after
    intro _ x _
    apply Yields.after
    intro c y _
    split
    · apply Yields.after
      intro args z ha
      apply Yields.after
      intro _ _ _
      apply Yields.after
      intro _ _ _
      cases ha
      exact Yields.pure (ok _ _ (name _ _ hf) rfl)
    · apply (hg.arguments y).bind
      intro args _ _ ha
      apply Yields.after
      intro _ _ _
      apply Yields.after
      intro _ _ _
      exact Yields.pure (ok _ _ (name _ _ hf) ha)
  · exact Yields.fail _

omit hg in
/-- A path with segments is a term of its own. -/
theorem path_canonical (anchor : Anchor) {segments : List Segment} (ne : segments ≠ [])
    (ok : everySegment .canonical segments = true) :
    (Term.path anchor segments).every .canonical = true := by
  cases segments with
  | nil => contradiction
  | cons first more => exact ok

theorem currentTerm_canonical : Yields g.currentTerm s fun t => t.every .canonical = true := by
  apply Yields.after
  intro c t hc
  cases hc
  split
  next opens =>
    apply (hg.segments s).map
    intro segments ok
    have nonempty : segments ≠ [] := by
      apply ok.2
      cases s with
      | nil => cases opens
      | cons c s => rwa [dropWhile_of_not_blank (isBlank_of_opensSegment opens)]
    exact path_canonical .current nonempty ok.1
  · exact Yields.pure rfl

theorem rootTerm_canonical : Yields g.rootTerm s fun t => t.every .canonical = true := by
  apply (hg.segments s).bind
  intro segments t _ ok
  cases segments with
  | nil => exact Yields.pure rfl
  | cons first more => exact Yields.pure (path_canonical .root nofun ok.1)

theorem term_canonical : Yields g.term s fun t => t.every .canonical = true := by
  apply Yields.after
  intro _ u _
  apply Yields.after
  intro c v hv
  cases hv
  cases u with
  | nil => exact Yields.fail _
  | cons c u =>
    dsimp only [List.head?_cons]
    split
    · apply Yields.after
      intro _ v _
      exact currentTerm_canonical hg v
    split
    · apply Yields.after
      intro _ v _
      exact rootTerm_canonical hg v
    split
    · apply Yields.after
      intro text _ _
      exact Yields.pure rfl
    split
    · apply (readNumber_canonical _).map
      intro v hv
      exact hv
    split
    next letter =>
      apply (readKeyword_canonical _).bind
      intro value v hv literal
      cases value with
      | some value => exact Yields.pure (literal value rfl)
      | none =>
        have same : c :: u = v := by
          unfold readKeyword at hv
          split at hv
          · cases hv
          · cases hv
            rfl
        rw [← same]
        exact call_canonical hg u letter
    · exact Yields.fail _

end Grammar

end PathQuery
