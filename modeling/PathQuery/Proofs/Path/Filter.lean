import PathQuery.Proofs.Path.Term

/-!
# Filters that are written and read

The rules of connectives read the operands from left to right and carry along what they have read. So a
filter in front of more text is not read back as a value but brings its rule into a state: reading it
with what follows is reading what follows, with the filter as what has been read. At each of the three
levels of the grammar this is said for the filters of the level; one level follows from the one above it,
and an operand that binds too loosely for its place is a group.

An argument is told from a filter by what stands in front of it or behind its first term. So of a filter
it is also known how its characters start.

## Main definitions

* `Filter.Front` — how the characters of a filter start.
* `Filter.Reads` — a filter is read at each level that admits it.
* `Argument.Reads` — an argument is read in front of a closing text.

## Main results

* `Filter.Reads.comparison`, `Filter.Reads.conjunction` and the like — the filters, one by one.
* `Argument.reads_term`, `Argument.reads_test`, `Argument.reads_filter`, `Argument.reads_path` — arguments;
  one that is a bare test is read as a term.
-/

namespace PathQuery

open Lexeme Reader Grammar

variable {sure : Prop} {rest : List Char}

/-! ## The rules of connectives -/

namespace Grammar

theorem conjunctionRule_sign (left : Filter) (s : List Char) :
    grammar.conjunctionRule left (' ' :: '&' :: '&' :: s) =
      (grammar.unary >>= fun right => grammar.conjunction (.logic .and left right)) s :=
  conjunctionRule_found (by rw [dropWhile_blank, dropWhile_of_not_blank (by decide)])

theorem disjunctionRule_sign (left : Filter) (s : List Char) :
    grammar.disjunctionRule left (' ' :: '|' :: '|' :: s) =
      (grammar.conjunctive >>= fun right => grammar.disjunction (.logic .or left right)) s :=
  disjunctionRule_found (by rw [dropWhile_blank, dropWhile_of_not_blank (by decide)])

/-- White space in front of an operand is passed over. -/
theorem unary_blank (s : List Char) : grammar.unary (' ' :: s) = grammar.unary s := by
  rw [grammar_unary, unaryRule, skipBlank_bind, skipBlank_bind, dropWhile_blank]

theorem conjunctive_blank (s : List Char) :
    grammar.conjunctive (' ' :: s) = grammar.conjunctive s := by
  rw [conjunctive, ← grammar_unary, bind_apply, bind_apply, unary_blank]

end Grammar

/-! ## How a filter starts -/

/-- The signs of comparisons and connectives. -/
def IsSign (sign : List Char) : Prop := (∃ op : CompareOp, sign = op.chars) ∨ ∃ op : LogicOp, sign = op.chars

/-- Between blanks a sign is seen, and it ends the term in front of it. -/
theorem IsSign.ahead {sign : List Char} (h : IsSign sign) (s : List Char) :
    lookingAtSign ((' ' :: (sign ++ ' ' :: s)).dropWhile isBlank) =
      .done true ((' ' :: (sign ++ ' ' :: s)).dropWhile isBlank) := by
  rw [dropWhile_blank]
  rcases h with ⟨op, rfl⟩ | ⟨op, rfl⟩
  · cases op <;> rfl
  · cases op <;> rfl

theorem IsSign.ends {sign : List Char} (h : IsSign sign) (s : List Char) :
    Ends (' ' :: (sign ++ ' ' :: s)) := by
  rcases h with ⟨op, rfl⟩ | ⟨op, rfl⟩
  · exact Ends.comparison op _
  · exact (EndsTest.logic op _).toEnds

/-- How the characters of a filter start: with a negation or a parenthesis; with a term and a sign behind
it; or, for a bare test, with a term and nothing else, which an argument is understood as. -/
inductive Filter.Front (sure : Prop) (f : Filter) : Prop
  | marked {c : Char} {cs : List Char} (test : f.isTest = false) (mark : c = '!' ∨ c = '(')
    (chars : f.chars = c :: cs)
  | signed {t : Term} {sign more : List Char} (test : f.isTest = false) (reads : t.Reads sure)
    (isSign : IsSign sign) (chars : f.chars = t.chars ++ ' ' :: (sign ++ ' ' :: more))
  | bare {t : Term} (reads : t.Reads sure) (heard : (Argument.filter f).heard = .term t.heard)
    (chars : f.chars = t.chars)

namespace Filter.Front

variable {f : Filter}

/-- A filter starts neither with white space nor with the parenthesis that closes a call. -/
theorem plain (h : Front sure f) : ∃ c cs, f.chars = c :: cs ∧ isBlank c = false ∧ c ≠ ')' := by
  have term {t : Term} (reads : t.Reads sure) :
      ∃ c cs, t.chars = c :: cs ∧ isBlank c = false ∧ c ≠ ')' := by
    obtain ⟨c, cs, hc, opens⟩ := reads.front
    obtain ⟨blank, -, -, other⟩ := opensTerm_plain opens
    exact ⟨c, cs, hc, blank, other⟩
  cases h with
  | marked test mark chars => exact ⟨_, _, chars, by rcases mark with rfl | rfl <;> decide⟩
  | signed test reads isSign chars =>
    obtain ⟨c, cs, hc, h⟩ := term reads
    exact ⟨c, _, by rw [chars, hc]; rfl, h⟩
  | bare reads heard chars => exact chars ▸ term reads

/-- A filter in parentheses starts with one. -/
theorem group (f : Filter) : Front sure (.group f) := .marked rfl (.inr rfl) rfl

theorem groupIf (h : Front sure f) (b : Bool) : Front sure (f.groupIf b) := by
  cases b with
  | false => exact h
  | true => exact group f

/-- A connective starts like its left operand, and behind a bare test stands its sign. -/
theorem connective {whole : Filter} {sign more : List Char} (h : Front sure f)
    (test : whole.isTest = false) (isSign : IsSign sign)
    (chars : whole.chars = f.chars ++ ' ' :: (sign ++ ' ' :: more)) : Front sure whole := by
  cases h with
  | marked _ mark start => exact .marked test mark (by rw [chars, start]; rfl)
  | bare reads _ start => exact .signed test reads isSign (by rw [chars, start])
  | @signed t first behind _ reads isFirst start =>
    have text : whole.chars =
        t.chars ++ ' ' :: (first ++ ' ' :: (behind ++ ' ' :: (sign ++ ' ' :: more))) := by
      rw [chars, start]
      simp only [List.append_assoc, List.cons_append]
    exact .signed test reads isFirst text

end Filter.Front

/-! ## Filters at each level -/

namespace Filter

/-! ### What a connective is understood as -/

theorem heard_groupIf (b : Bool) (f : Filter) : (f.groupIf b).heard = f.heard.groupIf b := by
  cases b <;> rfl

theorem isLogic_rewrite (ρ : Rewriting) (f : Filter) : (f.rewrite ρ).isLogic = f.isLogic := by
  cases f <;> rfl

theorem isDisjunction_rewrite (ρ : Rewriting) (f : Filter) :
    (f.rewrite ρ).isDisjunction = f.isDisjunction := by
  cases f with
  | logic op left right => cases op <;> rfl
  | _ => rfl

theorem heard_or (left right : Filter) :
    (logic .or left right).heard = .logic .or left.heard (right.heard.groupIf right.isDisjunction) := by
  simp only [heard, rewrite, normal, isDisjunction_rewrite]

theorem heard_and (left right : Filter) :
    (logic .and left right).heard =
      .logic .and (left.heard.groupIf left.isDisjunction) (right.heard.groupIf right.isLogic) := by
  simp only [heard, rewrite, normal, isDisjunction_rewrite, isLogic_rewrite]

theorem heard_negation (inner : Filter) :
    (negation inner).heard = .negation (inner.heard.groupIf inner.isLogic) := by
  simp only [heard, rewrite, normal, isLogic_rewrite]

/-- A filter is read as what it is understood as: as one operand if it is no connective, as what a
conjunction starts with if it is no disjunction, and as what a disjunction starts with in any case. -/
structure Reads (sure : Prop) (f : Filter) : Prop where
  front : Front sure f
  unary : f.isLogic = false → ∀ rest, EndsTest rest →
    ∃ t, (grammar.unary (f.chars ++ rest)).Agrees sure (.done f.heard t) ∧
      t.dropWhile isBlank = rest.dropWhile isBlank
  conjunctive : f.isDisjunction = false → ∀ rest, EndsTest rest →
    (grammar.conjunctive (f.chars ++ rest)).Agrees sure (grammar.conjunctionRule f.heard rest)
  filter : ∀ rest, EndsTest rest → ['&', '&'].isPrefixOf (rest.dropWhile isBlank) = false →
    (grammar.filter (f.chars ++ rest)).Agrees sure (grammar.disjunctionRule f.heard rest)

namespace Reads

variable {f left right : Filter}

theorem filter_of_conjunctive
    (h : ∀ rest, EndsTest rest →
      (grammar.conjunctive (f.chars ++ rest)).Agrees sure (grammar.conjunctionRule f.heard rest))
    (rest : List Char) (ends : EndsTest rest)
    (stop : ['&', '&'].isPrefixOf (rest.dropWhile isBlank) = false) :
    (grammar.filter (f.chars ++ rest)).Agrees sure (grammar.disjunctionRule f.heard rest) := by
  have read := (h rest ends).trans (.of_eq (conjunctionRule_stop stop))
  rw [grammar_filter, filterRule]
  exact read.bind.trans (.of_eq (disjunctionRule_congr (Stops.of_dropWhile isBlank rest).dropWhile))

/-- A filter that is no connective need only be read as one operand. -/
theorem of_unary (front : Front sure f)
    (h : ∀ rest, EndsTest rest → ∃ t, (grammar.unary (f.chars ++ rest)).Agrees sure (.done f.heard t) ∧
      t.dropWhile isBlank = rest.dropWhile isBlank) : Reads sure f := by
  have conjunctive : ∀ rest, EndsTest rest →
      (grammar.conjunctive (f.chars ++ rest)).Agrees sure (grammar.conjunctionRule f.heard rest) := by
    intro rest ends
    obtain ⟨t, read, ht⟩ := h rest ends
    rw [grammar_unary] at read
    rw [Grammar.conjunctive]
    exact read.bind.trans (.of_eq (conjunctionRule_congr ht))
  exact ⟨front, fun _ => h, fun _ => conjunctive, filter_of_conjunctive conjunctive⟩

/-- In front of a closing text a filter is read to its end. -/
theorem done (h : Reads sure f) (closes : Closes rest) :
    (grammar.filter (f.chars ++ rest)).Agrees sure (.done f.heard rest) := by
  have whole := closes.blank.dropWhile
  have read := h.filter rest closes.endsTest (by rw [whole]; exact closes.not_logic .and)
  rw [disjunctionRule_stop (by rw [whole]; exact closes.not_logic .or), whole] at read
  exact read

/-! ## Filters without connectives -/

theorem group (h : Reads sure f) : Reads sure (.group f) := by
  apply of_unary (Front.group f)
  intro rest _
  refine ⟨rest, ?_, rfl⟩
  have closes : Closes (')' :: rest) := ⟨')', rest, rfl, .inr (.inl rfl)⟩
  have inner := h.done closes
  have chars : (Filter.group f).chars ++ rest = '(' :: (f.chars ++ ')' :: rest) := by
    simp [chars]
  rw [chars, grammar_unary, unaryRule, skipBlank_bind, dropWhile_of_not_blank (by decide)]
  show ((grammar.filter >>= _) (f.chars ++ ')' :: rest)).Agrees sure _
  refine inner.bind.trans (.of_eq ?_)
  rw [skipBlank_bind, closes.blank.dropWhile]
  rfl

/-- An operand in parentheses binds as tightly as its place asks for. -/
theorem groupIf (h : Reads sure f) (b : Bool) : Reads sure (f.groupIf b) := by
  cases b with
  | false => exact h
  | true => exact h.group

theorem negation (h : Reads sure f) : Reads sure (.negation f) := by
  apply of_unary (.marked rfl (.inl rfl) rfl)
  intro rest ends
  obtain ⟨t, inner, ht⟩ := (h.groupIf f.isLogic).unary f.isLogic_groupIf rest ends
  refine ⟨t, ?_, ht⟩
  rw [chars_negation, grammar_unary, unaryRule, skipBlank_bind, List.cons_append,
    dropWhile_of_not_blank (by decide), heard_negation]
  rw [heard_groupIf] at inner
  exact inner.map Filter.negation

/-! ## Comparisons and tests -/

/-- Where neither a negation nor a parenthesis opens an operand, it starts with a term. -/
theorem unary_eq_term {s : List Char} (negation : (s.dropWhile isBlank).head? ≠ some '!')
    (parenthesis : (s.dropWhile isBlank).head? ≠ some '(') :
    grammar.unary s = (grammar.term >>= grammar.comparison) s := by
  rw [grammar_unary, unaryRule, skipBlank_bind]
  simp [bind_apply, negation, parenthesis, Term.term_dropWhile]

theorem unary_term {t : Term} (reads : t.Reads sure) (ends : Ends rest) :
    (grammar.unary (t.chars ++ rest)).Agrees sure (grammar.comparison t.heard rest) := by
  have read := reads.read rest ends
  obtain ⟨c, cs, hc, opens⟩ := reads.front
  obtain ⟨blank, negation, parenthesis, -⟩ := opensTerm_plain opens
  rw [hc, List.cons_append] at read ⊢
  have skipped := dropWhile_of_not_blank (s := cs ++ rest) blank
  rw [unary_eq_term (by simp [skipped, negation]) (by simp [skipped, parenthesis])]
  exact read.bind

theorem comparison_sign (op : CompareOp) (left : Term) (s : List Char) :
    grammar.comparison left (' ' :: (op.chars ++ ' ' :: s)) =
      (Filter.comparison op left <$> grammar.term) s := by
  have sign : grammar.comparison left (' ' :: (op.chars ++ ' ' :: s)) =
      (Filter.comparison op left <$> grammar.term) (' ' :: s) := by
    rw [Grammar.comparison, skipBlank_bind, dropWhile_blank]
    cases op <;> rfl
  rw [sign, map_apply, map_apply, Term.term_blank]

theorem comparison (op : CompareOp) {left right : Term} (hl : left.Reads sure) (hr : right.Reads sure) :
    Reads sure (.comparison op left right) := by
  apply of_unary (.signed rfl hl (.inl ⟨op, rfl⟩) rfl)
  intro rest ends
  refine ⟨rest, ?_, rfl⟩
  have chars : (Filter.comparison op left right).chars ++ rest =
      left.chars ++ ' ' :: (op.chars ++ ' ' :: (right.chars ++ rest)) := by
    simp [chars]
  rw [chars]
  refine (unary_term hl (Ends.comparison op _)).trans ?_
  rw [comparison_sign]
  exact (hr.read rest ends.toEnds).map _

/-- A term that is not compared makes its test. -/
theorem unary_test {t : Term} {test : Filter} (reads : t.Reads sure) (ht : t.heard.test? = some test)
    (ends : EndsTest rest) :
    (grammar.unary (t.chars ++ rest)).Agrees sure (.done test (rest.dropWhile isBlank)) := by
  refine (unary_term reads ends.toEnds).trans (.of_eq ?_)
  rw [Grammar.comparison, skipBlank_bind]
  simp [bind_apply, peekComparison, ends.sign, ht]

/-- A bare test is read as the term is that has the same characters. -/
theorem of_test {t : Term} (reads : t.Reads sure) (chars : f.chars = t.chars)
    (heard : (Argument.filter f).heard = .term t.heard) (ht : t.heard.test? = some f.heard) :
    Reads sure f := by
  apply of_unary (.bare reads heard chars)
  intro rest ends
  rw [chars]
  exact ⟨_, unary_test reads ht ends, (Stops.of_dropWhile isBlank rest).dropWhile⟩

theorem existence (anchor : Anchor) {segments : List Segment} (reads : SegmentsRead sure segments) :
    Reads sure (.existence anchor segments) := by
  have test (segments : List Segment) :
      (Term.ofPath anchor segments).test? = some (.existence anchor segments) := by
    cases anchor <;> cases segments <;> rfl
  exact of_test (Term.reads_path anchor reads) rfl rfl (test _)

theorem call {function : String} {args : List Argument}
    (name : isFunctionName function.toList = true) (reads : ArgumentsRead sure args) :
    Reads sure (.call function args) :=
  of_test (Term.reads_call name reads) rfl rfl rfl

/-! ## Connectives -/

theorem conjunction (hl : Reads sure left) (hr : Reads sure right) :
    Reads sure (.logic .and left right) := by
  have front : Front sure (.logic .and left right) :=
    (hl.front.groupIf left.isDisjunction).connective rfl (.inr ⟨.and, rfl⟩) (chars_and left right)
  have conjunctive : ∀ rest, EndsTest rest →
      (grammar.conjunctive ((logic .and left right).chars ++ rest)).Agrees sure
        (grammar.conjunctionRule (logic .and left right).heard rest) := by
    intro rest ends
    have chars : (logic .and left right).chars ++ rest =
        (left.groupIf left.isDisjunction).chars ++ ' ' :: '&' :: '&' :: ' ' ::
          ((right.groupIf right.isLogic).chars ++ rest) := by
      simp [chars_and]
    have behind : EndsTest (' ' :: '&' :: '&' :: ' ' :: ((right.groupIf right.isLogic).chars ++ rest)) :=
      EndsTest.logic .and _
    have first := (hl.groupIf left.isDisjunction).conjunctive left.isDisjunction_groupIf _ behind
    obtain ⟨t, second, ht⟩ := (hr.groupIf right.isLogic).unary right.isLogic_groupIf rest ends
    rw [heard_groupIf, conjunctionRule_sign] at first
    rw [heard_groupIf, ← unary_blank] at second
    rw [chars, heard_and]
    refine first.trans (second.bind.trans (.of_eq ?_))
    rw [grammar_conjunction]
    exact conjunctionRule_congr ht
  exact ⟨front, nofun, fun _ => conjunctive, filter_of_conjunctive conjunctive⟩

theorem disjunction (hl : Reads sure left) (hr : Reads sure right) :
    Reads sure (.logic .or left right) := by
  refine ⟨hl.front.connective rfl (.inr ⟨.or, rfl⟩) (chars_or left right), nofun, nofun, ?_⟩
  intro rest ends stop
  have chars : (logic .or left right).chars ++ rest =
      left.chars ++ ' ' :: '|' :: '|' :: ' ' ::
        ((right.groupIf right.isDisjunction).chars ++ rest) := by
    simp [chars_or]
  have behind : EndsTest
      (' ' :: '|' :: '|' :: ' ' :: ((right.groupIf right.isDisjunction).chars ++ rest)) :=
    EndsTest.logic .or _
  have first := hl.filter _ behind rfl
  have second := (hr.groupIf right.isDisjunction).conjunctive right.isDisjunction_groupIf rest ends
  rw [disjunctionRule_sign] at first
  rw [heard_groupIf, conjunctionRule_stop stop, ← conjunctive_blank] at second
  rw [chars, heard_or]
  refine first.trans (second.bind.trans (.of_eq ?_))
  rw [grammar_disjunction]
  exact disjunctionRule_congr (Stops.of_dropWhile isBlank rest).dropWhile

end Reads

end Filter

/-! ## Arguments -/

/-- In front of a closing text an argument is read as what it is understood as. It starts neither with
white space nor with the parenthesis that closes the call. -/
structure Argument.Reads (sure : Prop) (a : Argument) : Prop where
  front : ∃ c cs, a.chars = c :: cs ∧ isBlank c = false ∧ c ≠ ')'
  read : ∀ rest, Closes rest → (grammar.argument (a.chars ++ rest)).Agrees sure (.done a.heard rest)

/-- Behind a term a filter goes on with its comparison and its connectives. -/
theorem filter_term {s u : List Char} {t : Term} (h : grammar.term s = .done t u)
    (negation : (s.dropWhile isBlank).head? ≠ some '!')
    (parenthesis : (s.dropWhile isBlank).head? ≠ some '(') :
    grammar.filter s = (grammar.comparison t >>= fun test =>
      grammar.conjunctionRule test >>= grammar.disjunctionRule) (u.dropWhile isBlank) := by
  have unary : grammar.unary s = grammar.comparison t u := by
    rw [Filter.Reads.unary_eq_term negation parenthesis, bind_done h]
  have comparison : grammar.comparison t u = grammar.comparison t (u.dropWhile isBlank) := by
    rw [Grammar.comparison, skipBlank_bind, skipBlank_bind,
      (Stops.of_dropWhile isBlank u).dropWhile]
  rw [grammar_filter, filterRule, conjunctive, ← grammar_unary, bind_apply, bind_apply, bind_apply,
    unary, comparison]
  cases grammar.comparison t (u.dropWhile isBlank) <;> rfl

/-- A negation or a parenthesis in front shows an argument to be a filter. -/
theorem argument_front {s : List Char}
    (front : (s.dropWhile isBlank).head? = some '!' ∨ (s.dropWhile isBlank).head? = some '(') :
    grammar.argument s = (Argument.filter <$> grammar.filter) s := by
  have whole : grammar.filter s = grammar.filterRule (s.dropWhile isBlank) := by
    rw [grammar_filter, filterRule, bind_apply, bind_apply, conjunctive, bind_apply, bind_apply,
      unaryRule, skipBlank_bind, skipBlank_bind, (Stops.of_dropWhile isBlank s).dropWhile]
  rw [argument, skipBlank_bind, map_apply, whole]
  simp [bind_apply, front]

/-- What is read of an argument behind its first term. -/
def argumentTail (t : Term) : Reader ReadError.Cause Argument := do
  skipBlank
  if ← lookingAtSign then
    let test ← grammar.comparison t
    let test ← grammar.conjunctionRule test
    .filter <$> grammar.disjunctionRule test
  else pure (.term t)

/-- Without such a mark in front an argument starts with a term. -/
theorem argument_eq_term {s : List Char} (negation : (s.dropWhile isBlank).head? ≠ some '!')
    (parenthesis : (s.dropWhile isBlank).head? ≠ some '(') :
    grammar.argument s = (grammar.term >>= argumentTail) s := by
  rw [argument, skipBlank_bind]
  simp only [bind_apply, peek_apply, negation, parenthesis, or_self, if_false, Term.term_dropWhile]
  cases grammar.term s <;> rfl

/-- A sign behind the term in front shows an argument to be a filter as well. -/
theorem argument_sign {s u : List Char} {t : Term} (h : grammar.term s = .done t u)
    (negation : (s.dropWhile isBlank).head? ≠ some '!')
    (parenthesis : (s.dropWhile isBlank).head? ≠ some '(')
    (sign : lookingAtSign (u.dropWhile isBlank) = .done true (u.dropWhile isBlank)) :
    grammar.argument s = (Argument.filter <$> grammar.filter) s := by
  rw [argument_eq_term negation parenthesis, bind_done h, argumentTail, skipBlank_bind,
    bind_done sign, map_apply, filter_term h negation parenthesis]
  simp only [bind_apply, if_true]
  cases grammar.comparison t (u.dropWhile isBlank) with
  | failed cause v => rfl
  | done test v =>
    dsimp only
    cases grammar.conjunctionRule test v with
    | failed cause w => rfl
    | done test' w => exact map_apply Argument.filter (grammar.disjunctionRule test') w

namespace Term.Reads

variable {t : Term}

/-- A term starts with no mark of a filter. -/
theorem no_mark (reads : t.Reads sure) (s : List Char) :
    ((t.chars ++ s).dropWhile isBlank).head? ≠ some '!' ∧
      ((t.chars ++ s).dropWhile isBlank).head? ≠ some '(' := by
  obtain ⟨c, cs, hc, opens⟩ := reads.front
  obtain ⟨blank, negation, parenthesis, -⟩ := opensTerm_plain opens
  rw [hc, List.cons_append, dropWhile_of_not_blank blank]
  simp [negation, parenthesis]

/-- An argument that starts with a term is read as the term is, and then as what stands behind. -/
theorem argument (reads : t.Reads sure) (ends : Ends rest) :
    (grammar.argument (t.chars ++ rest)).Agrees sure (argumentTail t.heard rest) := by
  obtain ⟨negation, parenthesis⟩ := reads.no_mark rest
  rw [argument_eq_term negation parenthesis]
  exact (reads.read rest ends).bind

end Term.Reads

namespace Argument

theorem reads_of_term {a : Argument} {t : Term} (chars : a.chars = t.chars)
    (heard : a.heard = .term t.heard) (reads : t.Reads sure) : a.Reads sure := by
  constructor
  · obtain ⟨c, cs, hc, opens⟩ := reads.front
    obtain ⟨blank, -, -, other⟩ := opensTerm_plain opens
    exact ⟨c, cs, chars.trans hc, blank, other⟩
  · intro rest closes
    have blank := closes.blank.dropWhile
    have sign : lookingAtSign (rest.dropWhile isBlank) = .done false (rest.dropWhile isBlank) := by
      have compare := closes.endsTest.sign
      have conjunction := closes.not_logic .and
      have disjunction := closes.not_logic .or
      rw [blank] at compare ⊢
      simp only [LogicOp.chars] at conjunction disjunction
      simp [lookingAtSign, compare, conjunction, disjunction]
    rw [chars, heard]
    refine (reads.argument closes.endsTest.toEnds).trans (.of_eq ?_)
    rw [argumentTail, skipBlank_bind, bind_done sign, blank]
    rfl

theorem reads_term {t : Term} (reads : t.Reads sure) : Reads sure (.term t) := reads_of_term rfl rfl reads

theorem reads_path {segments : List Segment} (reads : SegmentsRead sure segments) :
    Reads sure (.path segments) :=
  reads_of_term (t := .path .current segments) rfl rfl (Term.reads_path .current reads)

/-- A filter that is no bare test is understood as a filter. -/
theorem heard_filter {f : Filter} (hf : f.isTest = false) : heard (.filter f) = .filter f.heard := by
  cases f with
  | existence anchor segments => cases hf
  | call function args => cases hf
  | _ => rfl

/-- A filter is read as one where a mark stands in front or a sign behind its first term, and as a term
where it is a bare test. -/
theorem reads_filter {f : Filter} (reads : f.Reads sure) : Reads sure (.filter f) := by
  cases reads.front with
  | bare first heard chars => exact reads_of_term chars heard first
  | marked test mark chars =>
    refine ⟨reads.front.plain, fun rest closes => ?_⟩
    have whole := (reads.done closes).map Argument.filter
    rw [heard_filter test]
    refine Reading.Agrees.trans (.of_eq (argument_front ?_)) whole
    show ((f.chars ++ rest).dropWhile isBlank).head? = _ ∨ ((f.chars ++ rest).dropWhile isBlank).head? = _
    rw [chars, List.cons_append]
    rcases mark with rfl | rfl
    · exact .inl (by rw [dropWhile_of_not_blank (by decide)]; rfl)
    · exact .inr (by rw [dropWhile_of_not_blank (by decide)]; rfl)
  | @signed t sign more test first isSign chars =>
    refine ⟨reads.front.plain, fun rest closes => ?_⟩
    have whole := (reads.done closes).map Argument.filter
    rw [heard_filter test]
    show (grammar.argument (f.chars ++ rest)).Agrees sure _
    have text : f.chars ++ rest = t.chars ++ ' ' :: (sign ++ ' ' :: (more ++ rest)) := by
      rw [chars]
      simp
    obtain ⟨negation, parenthesis⟩ := first.no_mark (' ' :: (sign ++ ' ' :: (more ++ rest)))
    rw [text] at whole ⊢
    -- The argument ends with a value only if its first term does, and then the sign behind it is seen.
    intro known
    have term := (first.read _ (isSign.ends _)).first (f := argumentTail) (by
      rw [argument_eq_term negation parenthesis] at known
      exact known)
    have same := argument_sign term negation parenthesis (isSign.ahead _)
    rw [same] at known ⊢
    exact whole known

end Argument

/-- The arguments of a call are read, one after the other. -/
theorem argumentsRead {args : List Argument} (reads : ∀ a ∈ args, a.Reads sure) :
    ArgumentsRead sure args := by
  constructor
  · intro ne
    cases args with
    | nil => contradiction
    | cons a more =>
      obtain ⟨c, cs, hc, h⟩ := (reads a List.mem_cons_self).front
      cases more with
      | nil => exact ⟨c, cs, hc, h⟩
      | cons b more => exact ⟨c, _, by rw [argumentsChars, hc]; rfl, h⟩
  · intro ne rest
    induction args with
    | nil => contradiction
    | cons a more ih =>
      have first := reads a List.mem_cons_self
      cases more with
      | nil =>
        have closes : Closes (')' :: rest) := ⟨')', rest, rfl, .inr (.inl rfl)⟩
        show (grammar.arguments (a.chars ++ ')' :: rest)).Agrees sure (.done [a.heard] (')' :: rest))
        rw [grammar_arguments, argumentsRule]
        refine (first.read _ closes).bind.trans (.of_eq ?_)
        rw [skipBlank_bind, closes.blank.dropWhile]
        rfl
      | cons b more =>
        have others := ih (fun c hc => reads c (List.mem_cons_of_mem a hc)) (List.cons_ne_nil b more)
        have closes : Closes (',' :: ' ' :: (argumentsChars (b :: more) ++ ')' :: rest)) :=
          ⟨',', _, rfl, .inl rfl⟩
        have chars : argumentsChars (a :: b :: more) ++ ')' :: rest =
            a.chars ++ ',' :: ' ' :: (argumentsChars (b :: more) ++ ')' :: rest) := by
          simp [argumentsChars]
        rw [← Term.arguments_dropWhile, ← dropWhile_blank, Term.arguments_dropWhile] at others
        have rule := congrFun grammar_arguments
          (a.chars ++ ',' :: ' ' :: (argumentsChars (b :: more) ++ ')' :: rest))
        rw [chars, rule, argumentsRule]
        refine (first.read _ closes).bind.trans ?_
        rw [skipBlank_bind, closes.blank.dropWhile]
        exact others.map (a.heard :: ·)

end PathQuery
