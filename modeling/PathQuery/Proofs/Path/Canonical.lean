import PathQuery.Proofs.Path.Canonical.Basic
import PathQuery.Proofs.Path.Follow

/-!
# What reading gives

What the grammar gives has the canonical shape. A rule that carries along what it has read keeps the shape
of that, and one depth of the grammar keeps it if the depth below does. Whether a filter is a bare test
is watched along the way: an argument is read as a filter only where it is none.

## Main results

* `Grammar.Canonical.step` — a step of the grammar keeps the invariant.
* `Path.canonical_of_read` — every path that is read has the shape.
* `Path.readable_of_canonical` — such a path can be read back.
-/

namespace PathQuery

open Lexeme Reader Grammar

namespace Grammar

variable {g : Grammar} (hg : g.Canonical) (s : List Char)

include hg

/-! ## Filters -/

omit hg in
theorem test?_canonical {t : Term} {test : Filter} (ht : t.every .canonical = true)
    (h : t.test? = some test) :
    test.every .canonical = true ∧ test.isLogic = false := by
  cases t with
  | current =>
    cases h
    exact ⟨rfl, rfl⟩
  | root =>
    cases h
    exact ⟨rfl, rfl⟩
  | literal value => cases h
  | path anchor segments =>
    cases h
    exact ⟨(Bool.and_eq_true_iff.1 ht).2, rfl⟩
  | call function args =>
    cases h
    exact ⟨ht, rfl⟩

theorem comparison_canonical {left : Term} (hl : left.every .canonical = true) :
    Yields (g.comparison left) s fun f => (f.every .canonical = true ∧ f.isLogic = false) ∧
      ((comparison? (s.dropWhile isBlank)).isSome = true → f.isTest = false) := by
  apply Yields.after
  intro _ t ht
  apply Yields.after
  intro op u hop
  cases ht
  cases hop
  split
  next op h =>
    apply Yields.after
    intro _ v _
    apply (term_canonical hg v).map
    intro right hr
    exact ⟨⟨Bool.and_eq_true_iff.2 ⟨rfl, Bool.and_eq_true_iff.2 ⟨hl, hr⟩⟩, rfl⟩, fun _ => rfl⟩
  next h =>
    split
    next test htest =>
      exact Yields.pure ⟨test?_canonical hl htest, fun some => by simp [h] at some⟩
    · exact Yields.fail _

theorem unary_canonical : Yields g.unaryRule s fun f =>
    (f.every .canonical = true ∧ f.isLogic = false) ∧
      ((s.dropWhile isBlank).head? = some '!' ∨ (s.dropWhile isBlank).head? = some '(' →
        f.isTest = false) := by
  apply Yields.after
  intro _ t ht
  apply Yields.after
  intro c u hu
  cases ht
  cases hu
  split
  · apply Yields.after
    intro _ v _
    apply (hg.unary v).map
    intro f hf
    exact ⟨⟨Bool.and_eq_true_iff.2 ⟨by simp [Shape.canonical, hf.2], hf.1⟩, rfl⟩, fun _ => rfl⟩
  next negation =>
    split
    · apply Yields.after
      intro _ v _
      apply (hg.filter v).bind
      intro f _ _ hf
      apply Yields.after
      intro _ _ _
      apply Yields.after
      intro _ _ _
      exact Yields.pure ⟨⟨hf, rfl⟩, fun _ => rfl⟩
    next parenthesis =>
      apply (term_canonical hg _).bind
      intro left v _ hl
      refine (comparison_canonical hg v hl).mono ?_
      intro f hf
      exact ⟨hf.1, fun front => absurd front (not_or.2 ⟨negation, parenthesis⟩)⟩

theorem conjunction_canonical {left : Filter} (hl : left.Conjunctive) :
    Yields (g.conjunctionRule left) s fun f => f.Conjunctive ∧
      (left.isTest = false ∨ ['&', '&'].isPrefixOf (s.dropWhile isBlank) = true →
        f.isTest = false) := by
  apply Yields.after
  intro _ t ht
  apply Yields.after
  intro found u hu
  cases ht
  cases hu
  split
  · apply Yields.after
    intro _ v _
    apply (hg.unary v).bind
    intro right w _ hr
    have both : (Filter.logic .and left right).Conjunctive := by
      refine ⟨Bool.and_eq_true_iff.2 ⟨?_, Bool.and_eq_true_iff.2 ⟨hl.1, hr.1⟩⟩, rfl⟩
      simp [Shape.canonical, hl.2, hr.2]
    apply (hg.conjunction _ w both).mono
    intro f hf
    exact ⟨hf.1, fun _ => hf.2 (.inl rfl)⟩
  next sign =>
    exact Yields.pure ⟨hl, fun h => h.resolve_right sign⟩

theorem conjunctive_canonical : Yields g.conjunctive s fun f => f.Conjunctive ∧
    ((s.dropWhile isBlank).head? = some '!' ∨ (s.dropWhile isBlank).head? = some '(' →
      f.isTest = false) := by
  apply (unary_canonical hg s).bind
  intro left t _ hl
  have ok : left.Conjunctive := ⟨hl.1.1, Filter.isDisjunction_of_not_isLogic hl.1.2⟩
  apply (conjunction_canonical hg t ok).mono
  intro f hf
  exact ⟨hf.1, fun front => hf.2 (.inl (hl.2 front))⟩

theorem disjunction_canonical {left : Filter} (hl : left.every .canonical = true) :
    Yields (g.disjunctionRule left) s fun f => f.every .canonical = true ∧
      (left.isTest = false ∨ ['|', '|'].isPrefixOf (s.dropWhile isBlank) = true →
        f.isTest = false) := by
  apply Yields.after
  intro _ t ht
  apply Yields.after
  intro found u hu
  cases ht
  cases hu
  split
  · apply Yields.after
    intro _ v _
    apply (conjunctive_canonical hg v).bind
    intro right w _ hr
    have both : (Filter.logic .or left right).every .canonical = true := by
      refine Bool.and_eq_true_iff.2 ⟨?_, Bool.and_eq_true_iff.2 ⟨hl, hr.1.1⟩⟩
      simp [Shape.canonical, hr.1.2]
    apply (hg.disjunction _ w both).mono
    intro f hf
    exact ⟨hf.1, fun _ => hf.2 (.inl rfl)⟩
  next sign =>
    exact Yields.pure ⟨hl, fun h => h.resolve_right sign⟩

theorem filter_canonical : Yields g.filterRule s fun f => f.every .canonical = true ∧
    ((s.dropWhile isBlank).head? = some '!' ∨ (s.dropWhile isBlank).head? = some '(' →
      f.isTest = false) := by
  apply (conjunctive_canonical hg s).bind
  intro left t _ hl
  apply (disjunction_canonical hg t hl.1.1).mono
  intro f hf
  exact ⟨hf.1, fun front => hf.2 (.inl (hl.2 front))⟩

/-! ## Arguments -/

omit hg in
/-- A term that is not compared is a test, with nothing but white space passed over. -/
theorem comparison_rest {left : Term} {test : Filter} {rest : List Char}
    (none : comparison? (s.dropWhile isBlank) = none)
    (h : g.comparison left s = .done test rest) : rest = s.dropWhile isBlank := by
  rw [comparison, skipBlank_bind] at h
  simp only [bind_apply, peekComparison, none] at h
  cases ht : left.test? with
  | none =>
    rw [ht] at h
    cases h
  | some f =>
    rw [ht] at h
    cases h
    rfl

/-- Where a sign comes next, what is read behind a term is no bare test. -/
theorem sign_canonical {left : Term} (hl : left.every .canonical = true)
    (sign : lookingAtSign (s.dropWhile isBlank) = .done true (s.dropWhile isBlank)) :
    Yields (do
      let test ← g.comparison left
      let test ← g.conjunctionRule test
      g.disjunctionRule test) (s.dropWhile isBlank)
      fun f => f.every .canonical = true ∧ f.isTest = false := by
  have idem := (Stops.of_dropWhile isBlank s).dropWhile
  have signs : (comparison? (s.dropWhile isBlank)).isSome = true ∨
      ['&', '&'].isPrefixOf (s.dropWhile isBlank) = true ∨
        ['|', '|'].isPrefixOf (s.dropWhile isBlank) = true := by
    simpa only [lookingAtSign, Reading.done.injEq, Bool.or_eq_true, or_assoc, and_true] using sign
  apply (comparison_canonical hg _ hl).bind
  intro test t ht test_ok
  have conjunctive : test.Conjunctive :=
    ⟨test_ok.1.1, Filter.isDisjunction_of_not_isLogic test_ok.1.2⟩
  apply (conjunction_canonical hg t conjunctive).bind
  intro f u hu f_ok
  apply (disjunction_canonical hg u f_ok.1.1).mono
  intro h h_ok
  refine ⟨h_ok.1, h_ok.2 ?_⟩
  -- A bare test is left only where neither a comparison nor a conjunction was found.
  by_cases compare : (comparison? (s.dropWhile isBlank)).isSome = true
  · exact .inl (f_ok.2 (.inl (test_ok.2 (by rwa [idem]))))
  have none : comparison? (s.dropWhile isBlank) = none := by simpa using compare
  obtain rfl : t = s.dropWhile isBlank :=
    (comparison_rest _ (by rwa [idem]) ht).trans idem
  by_cases conjunction : ['&', '&'].isPrefixOf (s.dropWhile isBlank) = true
  · exact .inl (f_ok.2 (.inr (by rwa [idem])))
  · have disjunction := (signs.resolve_left compare).resolve_left conjunction
    have stop : ['&', '&'].isPrefixOf ((s.dropWhile isBlank).dropWhile isBlank) = false := by
      rw [idem]
      exact Bool.eq_false_iff.2 conjunction
    rw [conjunctionRule_stop stop, idem] at hu
    cases hu
    exact .inr (by rwa [idem])

theorem argument_canonical : Yields g.argument s fun a => a.every .canonical = true := by
  have filter {f : Filter} (hf : f.every .canonical = true) (test : f.isTest = false) :
      (Argument.filter f).every .canonical = true :=
    Bool.and_eq_true_iff.2 ⟨by simp [Shape.canonical, test], hf⟩
  apply Yields.after
  intro _ t ht
  apply Yields.after
  intro c u hu
  cases ht
  cases hu
  have idem := (Stops.of_dropWhile isBlank s).dropWhile
  split
  next front =>
    apply (filter_canonical hg _).map
    intro f hf
    exact filter hf.1 (hf.2 (by rwa [idem]))
  · apply (term_canonical hg _).bind
    intro left v _ hl
    apply Yields.after
    intro _ w hw
    apply Yields.after
    intro found x hx
    cases hw
    cases hx
    split
    next sign =>
      have read := sign_canonical hg v hl (congrArg (Reading.done · _) sign)
      have same : (do
          let test ← g.comparison left
          let test ← g.conjunctionRule test
          Argument.filter <$> g.disjunctionRule test) = Argument.filter <$> (do
            let test ← g.comparison left
            let test ← g.conjunctionRule test
            g.disjunctionRule test) := by
        simp only [map_bind]
      rw [same]
      exact read.map fun f hf => filter hf.1 hf.2
    · exact Yields.pure hl

theorem arguments_canonical :
    Yields g.argumentsRule s fun args => everyArgument .canonical args = true := by
  apply (argument_canonical hg s).bind
  intro first t _ ok
  apply Yields.after
  intro _ u _
  apply Yields.after
  intro c v _
  split
  · apply Yields.after
    intro _ w _
    apply (hg.arguments w).map
    intro more others
    simp [everyArgument, ok, others]
  · exact Yields.pure (by simp [everyArgument, ok])

/-! ## The circle closed -/

/-- A step of the grammar keeps to the canonical shape. -/
theorem Canonical.step : g.step.Canonical where
  segments s := segments_canonical hg s
  selectors s := selectors_canonical hg s
  filter s := (filter_canonical hg s).mono fun _ h => h.1
  unary s := (unary_canonical hg s).mono fun _ h => h.1
  conjunction _ s hl := conjunction_canonical hg s hl
  disjunction _ s hl := disjunction_canonical hg s hl
  arguments s := arguments_canonical hg s

omit hg in
theorem upTo_canonical (n : Nat) : (upTo n).Canonical := by
  induction n with
  | zero => constructor <;> (intros; exact Yields.fail _)
  | succ n ih => exact ih.step

omit hg in
theorem grammar_segments_canonical :
    Yields grammar.segments s fun segments => everySegment .canonical segments = true := by
  constructor
  intro segments rest read
  have ok := ((upTo_canonical (s.length + 1)).segments s).holds segments rest read
  exact ok.1

end Grammar

namespace Path

/-- Every path that is read has the canonical shape. -/
theorem canonical_of_read {text : String} {p : Path} (h : read text = .ok p) :
    p.every .canonical = true := by
  have given : Yields reader text.toList fun p => p.every .canonical = true := by
    apply Yields.after
    intro c s _
    split
    · apply Yields.after
      intro _ t _
      apply (grammar_segments_canonical t).bind
      intro segments u _ ok
      apply Yields.after
      intro _ v _
      apply Yields.after
      intro c w _
      cases c with
      | none => exact Yields.pure ok
      | some c => exact Yields.fail _
    · exact Yields.fail _
  unfold read at h
  split at h
  next p' rest hp =>
    cases h
    exact given.holds _ rest hp
  next => cases h

/-- A path of the canonical shape can be read back. -/
theorem readable_of_canonical {p : Path} (h : p.every .canonical = true) :
    p.every .readable = true := by
  have weaker : Shape.canonical.Implies .readable := by
    refine ⟨fun _ hs => hs, fun _ hs => hs, ?_, ?_, ?_⟩
    · intro f hf
      cases f with
      | call function args => exact hf
      | _ => rfl
    · intro t ht
      cases t with
      | literal value => exact ht
      | call function args => exact ht
      | _ => rfl
    · intro a ha
      cases a with
      | filter f => exact ha
      | _ => rfl
  exact every_mono weaker h

end Path

end PathQuery
