import PathQuery.Proofs.Compilation
import PathQuery.Proofs.Pattern.Frame

/-!
# Testing strings against patterns

The function `match` tests the whole of a string and `search` any stretch of it. They are for any engine
that does what is documented of one: it takes the patterns of a dialect, and a pattern passes the
strings that have a match of its expression in them. Where the frame of a whole match fits the pattern,
`match` is true exactly if the pattern is one by itself and matches the string from its start to its
end. What else the frame can do is shown by two texts: one that is no pattern by itself, but is one in
the frame, and a pattern that the frame spoils.

## Main definitions

* `Engine.Follows` — an engine does what is documented for a dialect.
* `Answers` — what a call gives, evaluated as well as compiled.

## Main results

* `Pattern.engine_follows` — the engine that runs does.
* `Expr.exists_spans_anchored` — an expression between its two conditions matches whole texts.
* `answers_of_extent` — what a call answers that tests a string.
* `calls_of_framable` — calls of `match` and `search`.
-/

namespace PathQuery

open Logged Pattern

/-! ## Searching -/

namespace Pattern

variable {text : Array Char}

theorem textStart_holdsAt {i : Nat} (h : i ≤ text.size) :
    Look.textStart.holdsAt text i = true ↔ i = 0 := by
  unfold Look.holdsAt before
  by_cases first : i = 0
  · simp [first, Look.holds]
  · have inside : i - 1 < text.size := by omega
    simp [first, Look.holds, inside]

theorem textEnd_holdsAt {i : Nat} (h : i ≤ text.size) :
    Look.textEnd.holdsAt text i = true ↔ i = text.size := by
  show text[i]?.isNone = true ↔ _
  rw [Option.isNone_iff_eq_none, Array.getElem?_eq_none_iff]
  omega

/-- Between the conditions for the start and the end of the text, an expression matches whole texts. -/
theorem Expr.exists_spans_anchored {e : Expr} :
    (∃ i j, i ≤ text.size ∧ Spans text e.anchored i j) ↔ Spans text e 0 text.size := by
  simp only [Expr.anchored, spans_seq, spans_look, spans_empty]
  constructor
  · rintro ⟨i, j, hi, _, ⟨start, rfl⟩, k, inside, _, ⟨stop, rfl⟩, rfl⟩
    have first := (textStart_holdsAt hi).1 start
    subst first
    have last := (textEnd_holdsAt (inside.le_size hi)).1 stop
    rwa [last] at inside
  · intro h
    have start := (textStart_holdsAt (Nat.zero_le text.size)).2 rfl
    have stop := (textEnd_holdsAt (le_refl text.size)).2 rfl
    exact ⟨0, text.size, Nat.zero_le _, 0, ⟨start, rfl⟩, text.size, h, text.size, ⟨stop, rfl⟩, rfl⟩

end Pattern

/-! ## What is documented of an engine -/

/-- An engine does what is documented for a dialect: it takes the texts that are patterns of the
dialect, and a pattern passes the strings that have a match of its expression in them. -/
structure Engine.Follows [Engine] (d : Dialect) : Prop where
  accepts (text : List Char) : (Engine.ofText? text).isSome = (d.expr? text).isSome
  tests {text : List Char} {q : Engine.Pattern} {e : Expr} (read : Engine.ofText? text = some q)
    (expr : d.expr? text = some e) (s : String) :
    Engine.test q s = true ↔ ∃ i j, i ≤ s.length ∧ Spans s.toList.toArray e i j

/-- The counts in the expression of a text are in order. -/
theorem Pattern.isCounted_of_expr? {d : Dialect} {text : List Char} {e : Expr}
    (h : d.expr? text = some e) : e.IsCounted := by
  unfold Dialect.expr? at h
  split at h
  next t read =>
    split at h
    · obtain ⟨⟨e, g⟩, expr, rfl⟩ := Option.map_eq_some_iff.1 h
      exact Tree.isCounted_of_expr? t (Tree.isCounted_of_read? read) expr
    · cases h
  · cases h

/-- The engine that runs does what is documented for its dialect. -/
theorem Pattern.engine_follows : Engine.Follows Dialect.unicode where
  accepts text := Option.isSome_map
  tests {text q e} read expr s := by
    obtain ⟨_, found, rfl⟩ := Option.map_eq_some_iff.1 read
    cases expr.symm.trans found
    have size : s.toList.toArray.size = s.length := String.length_toList
    rw [← size]
    exact Expr.search_iff (isCounted_of_expr? expr)

section Calls

variable [Engine]

/-- What a pattern that may be missing says of a string. -/
def Engine.answer (q : Option Engine.Pattern) (s : String) : Bool := q.any (Engine.test · s)

/-- A text says of a string whether it is a pattern with a match in it. -/
theorem Engine.Follows.answer_iff {d : Dialect} (follows : Engine.Follows d) (text : List Char)
    (s : String) :
    Engine.answer (Engine.ofText? text) s = true ↔
      ∃ e, d.expr? text = some e ∧ ∃ i j, i ≤ s.length ∧ Spans s.toList.toArray e i j := by
  have accepts := follows.accepts text
  cases read : Engine.ofText? text with
  | none =>
    rw [read] at accepts
    have refused : d.expr? text = none := by simpa using accepts.symm
    simp [Engine.answer, refused]
  | some q =>
    rw [read] at accepts
    obtain ⟨e, expr⟩ := Option.isSome_iff_exists.1 accepts.symm
    simpa [Engine.answer, expr] using follows.tests read expr s

/-! ## Calls -/

/-- Testing one operand against another comes down to their strings. -/
theorem value_testOperand {x y : Operand} {s p : String} (subject : x.content.string? = some s)
    (pattern : y.content.string? = some p) (extent : Extent) :
    (testOperand extent x y).value = Engine.answer (Engine.read? extent p) s := by
  simp only [testOperand, pattern, readPattern, value_bind]
  cases Engine.read? extent p with
  | none => rfl
  | some q =>
    show testPattern x q = Engine.test q s
    rw [testPattern, subject]

/-- A call gives a truth value: as a term and as a filter, evaluated as well as compiled. -/
structure Answers (document current : Json) (name : String) (args : List Argument) (answer : Bool) :
    Prop where
  term : (Term.eval document (.call name args) current).value = .owned (.bool answer)
  filter : (Filter.eval document (.call name args) current).value = answer
  compiledTerm :
    ((Term.compile (.call name args)).value document current).value = .owned (.bool answer)
  compiledFilter :
    ((Filter.compile (.call name args)).value document current).value = answer

/-- A call of a function that tests strings answers what the pattern says. -/
theorem answers_of_extent {document current : Json} {a b : Argument} {s p name : String} {f : Function}
    {extent : Extent} (named : Function.named? name = some f) (tests : f.extent? = some extent)
    (subject : (a.eval document current).value.content.string? = some s)
    (pattern : (b.eval document current).value.content.string? = some p) :
    Answers document current name [a, b] (Engine.answer (Engine.read? extent p) s) := by
  have called (x y : Operand) :
      callByName name [x, y] = (.owned ∘ .bool) <$> testOperand extent x y := by
    simp only [callByName, named, Function.apply_of_extent tests]
  have term : (Term.eval document (.call name [a, b]) current).value =
      .owned (.bool (Engine.answer (Engine.read? extent p) s)) := by
    simp only [Term.eval, evalArguments, called, value_bind, value_map, value_pure, Function.comp,
      value_testOperand subject pattern]
  have filter : (Filter.eval document (.call name [a, b]) current).value =
      Operand.truthy (Term.eval document (.call name [a, b]) current).value := by
    simp only [Filter.eval, Term.eval, value_bind, value_map]
  rw [term] at filter
  refine ⟨term, filter, ?_, ?_⟩
  · exact (Term.compile_leaner document (.call name [a, b]) (fun none : False => none.elim)
      current).value.trans term
  · exact (Filter.compile_leaner document (.call name [a, b]) (fun none : False => none.elim)
      current).value.trans filter

/-- Where the frame of a whole match fits the pattern, `match` is true exactly if the pattern is one by
itself and matches the whole string, and `search` if it is one and matches some stretch of the string. So
what `match` accepts `search` accepts too, and both reject everything if the pattern is none. -/
theorem calls_of_framable {d : Dialect} (follows : Engine.Follows d) (document current : Json)
    (a b : Argument) (s p : String)
    (subject : (a.eval document current).value.content.string? = some s)
    (pattern : (b.eval document current).value.content.string? = some p)
    (framable : Framable d p.toList) :
    ∃ whole anywhere : Bool,
      Answers document current "match" [a, b] whole ∧
      Answers document current "search" [a, b] anywhere ∧
      (whole = true ↔ (Engine.ofText? p.toList).isSome ∧
        ∃ e, d.expr? p.toList = some e ∧ Spans s.toList.toArray e 0 s.length) ∧
      (anywhere = true ↔ (Engine.ofText? p.toList).isSome ∧
        ∃ e, d.expr? p.toList = some e ∧ ∃ i j, i ≤ s.length ∧ Spans s.toList.toArray e i j) ∧
      (whole = true → anywhere = true) ∧
      (Engine.ofText? p.toList = none → whole = false ∧ anywhere = false) := by
  have namedWhole : Function.named? "match" = some .whole := by decide
  have namedSearch : Function.named? "search" = some .search := by decide
  refine ⟨_, _, answers_of_extent namedWhole rfl subject pattern,
    answers_of_extent namedSearch rfl subject pattern, ?_⟩
  have size : s.toList.toArray.size = s.length := String.length_toList
  have whole : Engine.answer (Engine.read? .whole p) s = true ↔
      ∃ e, d.expr? p.toList = some e ∧ Spans s.toList.toArray e 0 s.length := by
    rw [Engine.read?, follows.answer_iff, framable.expr?_frame]
    simp only [Option.map_eq_some_iff, exists_exists_and_eq_and, ← size, Expr.exists_spans_anchored]
  have anywhere : Engine.answer (Engine.read? .anywhere p) s = true ↔
      ∃ e, d.expr? p.toList = some e ∧ ∃ i j, i ≤ s.length ∧ Spans s.toList.toArray e i j :=
    follows.answer_iff p.toList s
  have valid {P : Expr → Prop} (h : ∃ e, d.expr? p.toList = some e ∧ P e) :
      (Engine.ofText? p.toList).isSome := by
    obtain ⟨e, expr, -⟩ := h
    rw [follows.accepts, expr]
    rfl
  refine ⟨whole.trans ⟨fun h => ⟨valid h, h⟩, And.right⟩,
    anywhere.trans ⟨fun h => ⟨valid h, h⟩, And.right⟩, fun h => ?_, fun none => ⟨?_, ?_⟩⟩
  · obtain ⟨e, expr, all⟩ := whole.1 h
    exact anywhere.2 ⟨e, expr, 0, _, Nat.zero_le _, all⟩
  · refine Bool.eq_false_iff.2 fun h => ?_
    simpa [none] using valid (whole.1 h)
  · refine Bool.eq_false_iff.2 fun h => ?_
    simpa [none] using valid (anywhere.1 h)

end Calls

/-- The whole of `ab` is matched by the second branch of `a|ab`. -/
theorem calls_of_framable_branches :
    Answers .null (.string "ab") "match" [.term .current, .term (.literal (.string "a|ab"))] true ∧
      Answers .null (.string "ab") "search" [.term .current, .term (.literal (.string "a|ab"))]
        true := by
  have framable : Framable Dialect.unicode "a|ab".toList := .of_read? rfl (by decide) (by decide)
  obtain ⟨whole, anywhere, inWhole, inPart, accepts, -, implied, -⟩ :=
    calls_of_framable Pattern.engine_follows .null (.string "ab") (.term .current)
      (.term (.literal (.string "a|ab"))) "ab" "a|ab" rfl rfl framable
  have accepted : whole = true := by
    refine accepts.2 ⟨rfl, _, rfl, ?_⟩
    exact .right (.seq (.set rfl rfl) (.seq (.set rfl rfl) (.empty 2)))
  rw [accepted] at inWhole
  rw [implied accepted] at inPart
  exact ⟨inWhole, inPart⟩

/-- The text `a)(?:b` is no pattern, but in the frame of a whole match it makes two groups of it, and
`match` accepts `ab`. The text `(?x)a#c` is a pattern that matches `a`, but its comment takes the end of
the frame with it, and `match` rejects `a`. -/
theorem calls_beyond_frame :
    let stray : List Argument := [.term .current, .term (.literal (.string "a)(?:b"))]
    let comment : List Argument := [.term .current, .term (.literal (.string "(?x)a#c"))]
    (Pattern.ofText? "a)(?:b".toList = none ∧
      Answers .null (.string "ab") "match" stray true ∧
      Answers .null (.string "ab") "search" stray false) ∧
    (∃ q, Pattern.ofText? "(?x)a#c".toList = some q ∧ Spans "a".toList.toArray q.expr 0 "a".length) ∧
      Answers .null (.string "a") "match" comment false ∧
      Answers .null (.string "a") "search" comment true := by
  intro stray comment
  have whole : Function.named? "match" = some .whole := by decide
  have search : Function.named? "search" = some .search := by decide
  refine ⟨⟨rfl, ?_, ?_⟩, ⟨_, rfl, .seq (.empty 0) (.seq (.set rfl rfl) (.empty 1))⟩, ?_, ?_⟩
  · exact answers_of_extent (s := "ab") (p := "a)(?:b") whole rfl rfl rfl
  · exact answers_of_extent (s := "ab") (p := "a)(?:b") search rfl rfl rfl
  · exact answers_of_extent (s := "a") (p := "(?x)a#c") whole rfl rfl rfl
  · exact answers_of_extent (s := "a") (p := "(?x)a#c") search rfl rfl rfl

end PathQuery
