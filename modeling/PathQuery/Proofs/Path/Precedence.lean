import PathQuery.Proofs.Path.Extends
import PathQuery.Proofs.Path.Selector

/-!
# Precedence of the connectives

A filter without parentheses is a chain of operands with connectives between them. Conjunction binds
tighter than disjunction, and both group to the left: the chain falls into the longest runs that are joined
by conjunctions, each run is grouped to the left, and the runs are grouped to the left by the disjunctions
between them.

The rules of the grammar do this in one pass from left to right. They carry along the run that is being read
and the disjunction in front of it, if there is one; the next connective either goes on with the run or puts
it behind the disjunction and begins another one. The induction is on the chain, over both.

## Main definitions

* `Filter.runs` — the runs of a chain.
* `Filter.ofChain` — the filter that a chain stands for.
* `OperandText`, `Link` — the texts of operands, with connectives and white space in front of them.

## Main results

* `Filter.runs_append` — the runs are the chain, cut at its disjunctions.
* `Link.conjunctionRule_and`, `Link.disjunctionRule_or` — what one connective and its operand do.
* `Filter.read_chain` — a chain is read as the filter that it stands for.
-/

namespace PathQuery

open Reader Lexeme Grammar

namespace Filter

/-! ## Chains of filters -/

/-- Filters joined by one connective, grouped to the left. -/
def join (op : LogicOp) (first : Filter) (others : List Filter) : Filter :=
  others.foldl (.logic op) first

/-- The longest runs of a chain that are joined by conjunctions: the filters that go on with the run in
front of the chain, and the other runs, each with its first filter. -/
def runs : List (LogicOp × Filter) → List Filter × List (Filter × List Filter)
  | [] => ([], [])
  | (.and, f) :: chain => (f :: (runs chain).1, (runs chain).2)
  | (.or, f) :: chain => ([], (f, (runs chain).1) :: (runs chain).2)

/-- The filter that a chain stands for: the runs are grouped to the left, and so are the disjunctions of
them. -/
def ofChain (first : Filter) (chain : List (LogicOp × Filter)) : Filter :=
  join .or (join .and first (runs chain).1) ((runs chain).2.map fun run => join .and run.1 run.2)

/-- The runs are the chain, cut at its disjunctions and nowhere else. -/
theorem runs_append (chain : List (LogicOp × Filter)) :
    (runs chain).1.map (LogicOp.and, ·) ++
      (runs chain).2.flatMap (fun run => (LogicOp.or, run.1) :: run.2.map (LogicOp.and, ·)) = chain := by
  induction chain with
  | nil => rfl
  | cons link chain ih =>
    obtain ⟨op, f⟩ := link
    cases op with
    | and => simpa [runs] using ih
    | or => simpa [runs] using ih

example (a b c d : Filter) :
    ofChain a [(.or, b), (.and, c), (.or, d)] = .logic .or (.logic .or a (.logic .and b c)) d := rfl

@[simp] theorem join_nil (op : LogicOp) (first : Filter) : join op first [] = first := rfl

@[simp] theorem join_cons (op : LogicOp) (first f : Filter) (others : List Filter) :
    join op first (f :: others) = join op (.logic op first f) others := rfl

end Filter

/-! ## Texts of operands -/

/-- A text that is one operand to its end, and the filter that it is read as. -/
structure OperandText where
  chars : List Char
  filter : Filter
  reads : grammar.unary chars = .done filter []

/-- A connective between white space, and the operand behind it. -/
structure Link where
  op : LogicOp
  before : List Char
  after : List Char
  operand : OperandText
  before_blank : before.all isBlank = true
  after_blank : after.all isBlank = true

namespace Link

variable (l : Link) {tail : List Char}

/-- The characters of the connective, of the white space around it, and of the operand. -/
def chars : List Char := l.before ++ (l.op.chars ++ (l.after ++ l.operand.chars))

/-- The link as a part of a chain of filters. -/
def toFilter : LogicOp × Filter := (l.op, l.operand.filter)

theorem chars_append (tail : List Char) :
    l.chars ++ tail = l.before ++ (l.op.chars ++ (l.after ++ (l.operand.chars ++ tail))) := by
  simp only [chars, List.append_assoc]

/-- Behind the white space in front of it stands the connective. -/
theorem dropWhile_chars (tail : List Char) :
    (l.chars ++ tail).dropWhile isBlank = l.op.chars ++ (l.after ++ (l.operand.chars ++ tail)) := by
  rw [chars_append, List.dropWhile_append_of_pos (List.all_eq_true.1 l.before_blank)]
  cases l.op with
  | and => exact dropWhile_of_not_blank (by decide)
  | or => exact dropWhile_of_not_blank (by decide)

theorem delimits (tail : List Char) : Delimits (l.chars ++ tail) := by
  rw [Delimits, dropWhile_chars]
  cases l.op with
  | and => exact ⟨'&', _, rfl, rfl⟩
  | or => exact ⟨'|', _, rfl, rfl⟩

/-- Behind the connective the operand is read as it is read by itself. -/
theorem reads (delimits : Delimits tail) : ∃ tail', tail'.dropWhile isBlank = tail.dropWhile isBlank ∧
    grammar.unary (l.after ++ (l.operand.chars ++ tail)) = .done l.operand.filter tail' := by
  have skips : SkipsBlank grammar.unary := by
    rw [grammar_unary]
    exact SkipsBlank.skipBlank _
  obtain ⟨tail', same, read⟩ := grammar_unary_append l.operand.reads delimits
  refine ⟨tail', same, ?_⟩
  rw [← skips, List.dropWhile_append_of_pos (List.all_eq_true.1 l.after_blank), skips, read]

/-- A conjunction goes on with the run that is being read. -/
theorem conjunctionRule_and (left : Filter) (op : l.op = .and) (delimits : Delimits tail) :
    grammar.conjunctionRule left (l.chars ++ tail) =
      grammar.conjunctionRule (.logic .and left l.operand.filter) tail := by
  obtain ⟨tail', same, read⟩ := l.reads delimits
  have front : (l.chars ++ tail).dropWhile isBlank =
      '&' :: '&' :: (l.after ++ (l.operand.chars ++ tail)) := by
    rw [dropWhile_chars, op]
    rfl
  rw [conjunctionRule_found front, bind_done read, grammar_conjunction, conjunctionRule_congr same]

/-- A disjunction ends the run. -/
theorem conjunctionRule_or (left : Filter) (op : l.op = .or) (tail : List Char) :
    grammar.conjunctionRule left (l.chars ++ tail) = .done left ((l.chars ++ tail).dropWhile isBlank) :=
  conjunctionRule_stop (by rw [dropWhile_chars, op]; rfl)

/-- A disjunction begins another run, which is put behind the disjunction so far when it ends. -/
theorem disjunctionRule_or (left : Filter) (op : l.op = .or) (delimits : Delimits tail) :
    grammar.disjunctionRule left (l.chars ++ tail) =
      (grammar.conjunctionRule l.operand.filter >>= fun right =>
        grammar.disjunctionRule (.logic .or left right)) tail := by
  obtain ⟨tail', same, read⟩ := l.reads delimits
  rw [grammar_unary] at read
  have run : grammar.conjunctive (l.after ++ (l.operand.chars ++ tail)) =
      grammar.conjunctionRule l.operand.filter tail := by
    rw [conjunctive, bind_done read, conjunctionRule_congr same]
  have front : (l.chars ++ tail).dropWhile isBlank =
      '|' :: '|' :: (l.after ++ (l.operand.chars ++ tail)) := by
    rw [dropWhile_chars, op]
    rfl
  rw [disjunctionRule_found front, bind_apply, bind_apply, run]
  simp only [grammar_disjunction]

end Link

/-! ## Chains of operands -/

namespace Grammar

variable {rest : List Char}

/-- In front of a closing sign a chain delimits what stands in front of it. -/
theorem delimits_links (links : List Link) (closes : Delimits rest) :
    Delimits (links.flatMap Link.chars ++ rest) := by
  cases links with
  | nil => exact closes
  | cons l links =>
    rw [List.flatMap_cons, List.append_assoc]
    exact l.delimits _

/-- With `left` as what has been read of a run, a chain is read to its end. `outer` is what the disjunction
in front of the run makes of it, if there is one. -/
theorem rest_of_chain (links : List Link) (left : Filter) (outer : Filter → Filter)
    (closes : Closes rest) (delimits : Delimits rest) :
    (grammar.conjunctionRule left >>= fun run => grammar.disjunctionRule (outer run))
        (links.flatMap Link.chars ++ rest) =
      .done (Filter.join .or (outer (Filter.join .and left (Filter.runs (links.map Link.toFilter)).1))
        ((Filter.runs (links.map Link.toFilter)).2.map fun run => Filter.join .and run.1 run.2)) rest := by
  induction links generalizing left outer with
  | nil =>
    have whole := closes.blank.dropWhile
    have run : grammar.conjunctionRule left rest = .done left rest := by
      rw [conjunctionRule_stop (by rw [whole]; exact closes.not_logic .and), whole]
    have done : grammar.disjunctionRule (outer left) rest = .done (outer left) rest := by
      rw [disjunctionRule_stop (by rw [whole]; exact closes.not_logic .or), whole]
    exact (bind_done run).trans done
  | cons l links ih =>
    -- A conjunction goes on with the run; a disjunction ends it, and the runs behind it have another outer
    -- disjunction.
    have behind := delimits_links links delimits
    rw [List.flatMap_cons, List.append_assoc]
    cases op : l.op with
    | and =>
      rw [bind_apply, l.conjunctionRule_and left op behind, ← bind_apply, ih]
      simp only [List.map_cons, Link.toFilter, op, Filter.runs, Filter.join_cons]
    | or =>
      rw [bind_done (l.conjunctionRule_or left op _),
        disjunctionRule_congr (Stops.of_dropWhile isBlank _).dropWhile,
        l.disjunctionRule_or _ op behind, ih _ (.logic .or (outer left))]
      simp only [List.map_cons, Link.toFilter, op, Filter.runs, Filter.join_nil, Filter.join_cons]

end Grammar

/-- A chain of operands, with any white space around the connectives, is read up to the bracket or
parenthesis behind it, as the filter in which conjunction binds tighter than disjunction and both group to
the left. -/
theorem Filter.read_chain (first : OperandText) (links : List Link) {c : Char} (closes : c = ']' ∨ c = ')')
    (behind : List Char) :
    grammar.filter (first.chars ++ (links.flatMap Link.chars ++ c :: behind)) =
      .done (Filter.ofChain first.filter (links.map Link.toFilter)) (c :: behind) := by
  have closed : Closes (c :: behind) := ⟨c, behind, rfl, .inr closes.symm⟩
  have delimits : Delimits (c :: behind) := by
    refine ⟨c, behind, closed.blank.dropWhile, ?_⟩
    rcases closes with rfl | rfl <;> decide
  obtain ⟨tail, same, read⟩ := grammar_unary_append first.reads (delimits_links links delimits)
  rw [grammar_unary] at read
  have runs := rest_of_chain links first.filter id closed delimits
  rw [grammar_filter, filterRule, conjunctive, bind_assoc, bind_done read, bind_apply,
    conjunctionRule_congr same, ← bind_apply]
  exact runs

/-- Two disjunctions with a conjunction in the middle run, with and without white space. -/
theorem Filter.read_chain_mixed :
    (']' = ']' ∨ ']' = ')') ∧
      grammar.filter "@.a||!@.b && (@.c||@.d) || length(@) > 1]".toList =
        .done (.logic .or
          (.logic .or (.existence .current [[.name "a"]])
            (.logic .and (.negation (.existence .current [[.name "b"]]))
              (.group (.logic .or (.existence .current [[.name "c"]])
                (.existence .current [[.name "d"]])))))
          (.comparison .gt (.call "length" [.term .current]) (.literal (.number (.integer 1))))) [']'] :=
  ⟨.inl rfl, Filter.read_chain ⟨"@.a".toList, _, rfl⟩
    [⟨.or, [], [], ⟨"!@.b".toList, _, rfl⟩, rfl, rfl⟩,
      ⟨.and, [' '], [' '], ⟨"(@.c||@.d)".toList, _, rfl⟩, by decide, by decide⟩,
      ⟨.or, [' '], [' '], ⟨"length(@) > 1".toList, _, rfl⟩, by decide, by decide⟩] (.inl rfl) []⟩

end PathQuery
