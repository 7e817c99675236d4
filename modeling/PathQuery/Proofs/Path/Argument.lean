import PathQuery.Proofs.Path.Canonical
import PathQuery.Proofs.Path.Filter

/-!
# Arguments are filters

The rule of arguments does not call the rule of filters on every text: unless a negation or a parenthesis
stands in front it reads a term first, and enters the grammar of filters in the middle if a sign shows up
behind it. Nothing is lost on this way round. Where a filter can be read, an argument is read up to the same
place, and it is that filter, or the value that the filter tests if it is a bare test; where none can be
read, the argument fails with the same cause at the same place, unless all that is wrong is a literal that
is not compared to anything. A literal may stand as an argument by itself.

The cases are those of the rule: a mark in front, a sign behind the first term, or neither of them.

## Main definitions

* `Filter.asArgument` — what a filter is as an argument.
* `Grammar.bareLiteral?` — the literal in front of a text if no sign goes on with it.
* `Grammar.argumentOf` — what becomes of a filter, or of a failure to read one.

## Main results

* `Grammar.argument_eq_filter` — what the rule of arguments gives, from what the rule of filters gives.
-/

namespace PathQuery

open Lexeme Reader Grammar
open ReadError (Cause)

/-- A filter as an argument: a bare test is the value that it tests. -/
def Filter.asArgument : Filter → Argument
  | .existence anchor segments => .term (.ofPath anchor segments)
  | .call function args => .term (.call function args)
  | f => .filter f

theorem Filter.asArgument_of_not_test {f : Filter} (h : f.isTest = false) : f.asArgument = .filter f := by
  cases f with
  | existence anchor segments => cases h
  | call function args => cases h
  | _ => rfl

namespace Grammar

/-- The literal that a text starts with, unless the sign of a comparison or of a connective goes on with it
behind white space. -/
def bareLiteral? (s : List Char) : Option Json :=
  match grammar.term s with
  | .done (.literal value) rest =>
    let behind := rest.dropWhile isBlank
    if (comparison? behind).isSome || ['&', '&'].isPrefixOf behind || ['|', '|'].isPrefixOf behind then
      none
    else some value
  | _ => none

/-- What the rule of arguments makes of what the rule of filters gives: the filter as an argument, or the
failure, unless there is a bare literal. -/
def argumentOf (literal : Option Json) : Reading Cause Filter → Reading Cause Argument
  | .done f rest => .done f.asArgument rest
  | .failed cause rest =>
    match literal with
    | some value => .done (.term (.literal value)) rest
    | none => .failed cause rest

example : bareLiteral? "1 , 2".toList = some (.number (.integer 1)) ∧ bareLiteral? "1 == 2".toList = none :=
  ⟨rfl, rfl⟩

/-- What the grammar gives has the canonical shape. -/
theorem grammar_canonical : grammar.Canonical where
  segments s := ⟨((upTo_canonical (s.length + 1)).segments s).holds⟩
  selectors s := ⟨((upTo_canonical (s.length + 1)).selectors s).holds⟩
  filter s := ⟨((upTo_canonical (s.length + 1)).filter s).holds⟩
  unary s := ⟨((upTo_canonical (s.length + 1)).unary s).holds⟩
  conjunction left s hl := ⟨((upTo_canonical (s.length + 1)).conjunction left s hl).holds⟩
  disjunction left s hl := ⟨((upTo_canonical (s.length + 1)).disjunction left s hl).holds⟩
  arguments s := ⟨((upTo_canonical (s.length + 1)).arguments s).holds⟩

/-- The test that a term makes is the term again as an argument, since no path is read without segments. -/
theorem asArgument_of_test? {t : Term} {test : Filter} (ht : t.every .canonical = true)
    (h : t.test? = some test) : test.asArgument = .term t := by
  cases t with
  | literal value => cases h
  | path anchor segments =>
    cases h
    have some : segments ≠ [] := by
      rintro rfl
      exact absurd ht Bool.false_ne_true
    exact congrArg Argument.term (Term.ofPath_of_segments some)
  | _ =>
    cases h
    rfl

/-! ## The three ways to read an argument -/

variable {s u : List Char} {t : Term}

/-- Where no bare test can be read, an argument is a filter. -/
theorem argumentOf_filter (filter : Yields grammar.filter s fun f => f.isTest = false) :
    argumentOf none (grammar.filter s) = (Argument.filter <$> grammar.filter) s := by
  rw [map_apply]
  cases read : grammar.filter s with
  | failed cause rest => rfl
  | done f rest =>
    have test := filter.holds f rest read
    exact congrArg (Reading.done · rest) (Filter.asArgument_of_not_test test)

/-- Where a term cannot be read, there is no literal. -/
theorem bareLiteral?_failed {cause : Cause} (h : grammar.term s = .failed cause u) :
    bareLiteral? s = none := by
  rw [bareLiteral?, h]

theorem bareLiteral?_sign (h : grammar.term s = .done t u)
    (sign : lookingAtSign (u.dropWhile isBlank) = .done true (u.dropWhile isBlank)) :
    bareLiteral? s = none := by
  simp only [lookingAtSign, Reading.done.injEq, and_true] at sign
  rw [bareLiteral?, h]
  cases t with
  | literal value => exact if_pos sign
  | _ => rfl

/-- No term starts with a mark of a filter. -/
theorem term_marked (front : (s.dropWhile isBlank).head? = some '!' ∨
    (s.dropWhile isBlank).head? = some '(') :
    grammar.term s = .failed .noTerm (s.dropWhile isBlank) := by
  rw [term, skipBlank_bind]
  rcases front with front | front
  · simp only [bind_apply, peek_apply, front]
    rfl
  · simp only [bind_apply, peek_apply, front]
    rfl

/-- A mark in front shows an argument to be a filter. -/
theorem argument_marked (front : (s.dropWhile isBlank).head? = some '!' ∨
    (s.dropWhile isBlank).head? = some '(') :
    grammar.argument s = argumentOf (bareLiteral? s) (grammar.filter s) := by
  have filter : Yields grammar.filter s fun f => f.isTest = false := by
    rw [grammar_filter]
    exact (filter_canonical grammar_canonical s).mono fun f hf => hf.2 front
  rw [argument_front front, bareLiteral?_failed (term_marked front), argumentOf_filter filter]

/-- A sign behind the first term shows it as well. -/
theorem argument_signed (h : grammar.term s = .done t u)
    (negation : (s.dropWhile isBlank).head? ≠ some '!')
    (parenthesis : (s.dropWhile isBlank).head? ≠ some '(')
    (sign : lookingAtSign (u.dropWhile isBlank) = .done true (u.dropWhile isBlank)) :
    grammar.argument s = argumentOf (bareLiteral? s) (grammar.filter s) := by
  have term := (term_canonical grammar_canonical s).holds t u h
  have filter : Yields grammar.filter s fun f => f.isTest = false := by
    constructor
    intro f rest read
    rw [filter_term h negation parenthesis] at read
    exact ((sign_canonical grammar_canonical u term sign).holds f rest read).2
  rw [argument_sign h negation parenthesis sign, bareLiteral?_sign h sign, argumentOf_filter filter]

/-- With neither of them an argument is a term, and the rule of filters makes a test of the term. -/
theorem argument_unsigned (h : grammar.term s = .done t u)
    (negation : (s.dropWhile isBlank).head? ≠ some '!')
    (parenthesis : (s.dropWhile isBlank).head? ≠ some '(')
    (sign : lookingAtSign (u.dropWhile isBlank) = .done false (u.dropWhile isBlank)) :
    grammar.argument s = argumentOf (bareLiteral? s) (grammar.filter s) := by
  have ok := (term_canonical grammar_canonical s).holds t u h
  have argument : grammar.argument s = .done (.term t) (u.dropWhile isBlank) := by
    rw [argument_eq_term negation parenthesis, bind_done h, argumentTail, skipBlank_bind, bind_done sign]
    rfl
  have signs := sign
  simp only [lookingAtSign, Reading.done.injEq, and_true] at signs
  obtain ⟨⟨compare, conjunction⟩, disjunction⟩ :
      (comparison? (u.dropWhile isBlank) = none ∧ ['&', '&'].isPrefixOf (u.dropWhile isBlank) = false) ∧
        ['|', '|'].isPrefixOf (u.dropWhile isBlank) = false := by
    simpa only [Bool.or_eq_false_iff, Option.isSome_eq_false_iff, Option.isNone_iff_eq_none] using signs
  have idem := (Stops.of_dropWhile isBlank u).dropWhile
  rw [argument, filter_term h negation parenthesis]
  cases ht : t.test? with
  | some test =>
    have comparison : grammar.comparison t (u.dropWhile isBlank) = .done test (u.dropWhile isBlank) := by
      rw [Grammar.comparison, skipBlank_bind, idem]
      simp [bind_apply, peekComparison, compare, ht]
    rw [bind_done comparison, bind_done ((conjunctionRule_stop (by rwa [idem])).trans (by rw [idem])),
      disjunctionRule_stop (by rwa [idem]), idem, argumentOf, asArgument_of_test? ok ht]
  | none =>
    have comparison : grammar.comparison t (u.dropWhile isBlank) =
        .failed .noComparison (u.dropWhile isBlank) := by
      rw [Grammar.comparison, skipBlank_bind, idem]
      simp [bind_apply, peekComparison, compare, ht]
    rw [bind_failed comparison]
    cases t with
    | literal value =>
      have literal : bareLiteral? s = some value := by
        rw [bareLiteral?, h]
        exact if_neg (by simp only [signs, Bool.false_eq_true, not_false_eq_true])
      rw [literal]
      rfl
    | _ => cases ht

/-- The rule of arguments gives what the rule of filters gives, up to the same place: a filter, as the value
that it tests if it is a bare test, or the same failure. But a literal that no sign goes on with, for which
the rule of filters fails, is an argument. -/
theorem argument_eq_filter (s : List Char) :
    grammar.argument s = argumentOf (bareLiteral? s) (grammar.filter s) := by
  by_cases negation : (s.dropWhile isBlank).head? = some '!'
  · exact argument_marked (.inl negation)
  by_cases parenthesis : (s.dropWhile isBlank).head? = some '('
  · exact argument_marked (.inr parenthesis)
  cases h : grammar.term s with
  | failed cause u =>
    have unary : grammar.unaryRule s = .failed cause u := by
      rw [← grammar_unary, Filter.Reads.unary_eq_term negation parenthesis, bind_failed h]
    have filter : grammar.filter s = .failed cause u := by
      rw [grammar_filter, filterRule, conjunctive, bind_failed (bind_failed unary)]
    rw [argument_eq_term negation parenthesis, bind_failed h, filter, bareLiteral?_failed h]
    rfl
  | done t u =>
    cases sign : (lookingAtSign (u.dropWhile isBlank)) with
    | failed cause rest => cases sign
    | done found rest =>
      obtain rfl : u.dropWhile isBlank = rest := by cases sign; rfl
      cases found with
      | true => exact argument_signed h negation parenthesis sign
      | false => exact argument_unsigned h negation parenthesis sign

end Grammar

end PathQuery
