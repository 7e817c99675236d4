import PathQuery.Compilation
import PathQuery.Evaluation
import PathQuery.Proofs.Path.Shape

/-!
# A compiled path and the path itself

A compiled path settles beforehand what does not depend on the document, so a run of it is compared with
the evaluation of the path by two things at once: both give the same value, and the run records nothing
that the evaluation does not record as well, in the same order. The relation composes over the steps of
a computation, and every clause of the compiler is a step of that kind. What it leaves out are whole
computations: the arguments of a call that is known to give nothing, and the subject of a test whose
pattern is none. A path without such calls leaves out nothing, and the relation says so by a condition
under which the events are all there.

The comparison is one induction over a path with everything that is nested in it.

## Main definitions

* `Logged.Leaner` — a computation with the value of another one and no other events.
* `Shape.resolved` — no call is known beforehand to give nothing or false.

## Main results

* `Leaner.bind`, `Leaner.collect`, `Leaner.select` — the relation composes.
* `CompareOp.holds_owned_right`, `CompareOp.holds_owned_left` — a comparison does not tell a literal
  from a value of the document.
* `Selector.compile_leaner`, `Filter.compile_leaner`, `Term.compile_leaner` — the parts of a path.
* `Path.run_compile` — a compiled path selects what the path selects, node by node.
* `Path.log_run_compile` — a run of it records what the evaluation records, or less.
-/

namespace PathQuery

/-! ## Computations that record less -/

/-- `x` gives the value of `y`, and its events are some of those of `y`, in the same order; if `whole`
holds, they are all of them. -/
structure Logged.Leaner {α : Type} (whole : Prop) (x y : Logged α) : Prop where
  value : x.value = y.value
  log : x.log.Sublist y.log
  all : whole → x.log = y.log

namespace Logged

variable {α β : Type} {whole : Prop}

theorem Leaner.refl (x : Logged α) : Leaner whole x x := ⟨rfl, List.Sublist.refl _, fun _ => rfl⟩

/-- A value that is known needs no events. -/
theorem Leaner.pure {a : α} {y : Logged α} (h : a = y.value) (less : ¬whole) :
    Leaner whole (pure a) y :=
  ⟨h, List.nil_sublist _, fun all => absurd all less⟩

theorem Leaner.bind {x y : Logged α} {f g : α → Logged β} (hx : Leaner whole x y)
    (hf : ∀ a, Leaner whole (f a) (g a)) : Leaner whole (x >>= f) (y >>= g) := by
  constructor
  · rw [value_bind, value_bind, hx.value]
    exact (hf y.value).value
  · rw [log_bind, log_bind, hx.value]
    exact hx.log.append (hf y.value).log
  · intro all
    rw [log_bind, log_bind, hx.value, hx.all all, (hf y.value).all all]

theorem Leaner.map {x y : Logged α} (f : α → β) (h : Leaner whole x y) :
    Leaner whole (f <$> x) (f <$> y) := by
  constructor
  · rw [value_map, value_map, h.value]
  · rw [log_map, log_map]
    exact h.log
  · rw [log_map, log_map]
    exact h.all

theorem Leaner.collect {f g : α → Logged (List β)} (h : ∀ a, Leaner whole (f a) (g a))
    (as : List α) : Leaner whole (collect f as) (collect g as) := by
  induction as with
  | nil => exact Leaner.refl _
  | cons a rest ih =>
    apply (h a).bind
    intro first
    apply ih.bind
    intro others
    exact Leaner.refl _

theorem Leaner.select {f g : α → Logged Bool} (h : ∀ a, Leaner whole (f a) (g a)) (as : List α) :
    Leaner whole (select f as) (select g as) := by
  induction as with
  | nil => exact Leaner.refl _
  | cons a rest ih =>
    apply (h a).bind
    intro first
    apply ih.bind
    intro others
    exact Leaner.refl _

end Logged

open Logged

/-! ## Literals as operands -/

/-- Whether the right operand is a literal or a value of the document makes no difference. -/
theorem CompareOp.holds_owned_right (op : CompareOp) (a : Operand) (v : Json) :
    op.holds a (.owned v) = op.holds a (.node v) := by
  cases op <;> rfl

/-- Whether the left operand is a literal or a value of the document makes no difference. -/
theorem CompareOp.holds_owned_left (op : CompareOp) (v : Json) (b : Operand) :
    op.holds (.owned v) b = op.holds (.node v) b := by
  cases op <;> rfl

/-- However a comparison is compiled, its run is that of its sides, one after the other. -/
theorem Filter.compile_comparison [Engine] (op : CompareOp) (left right : Term)
    (document current : Json) :
    (Filter.compile (.comparison op left right)).value document current = (do
      let a ← (Term.compile left).value document current
      let b ← (Term.compile right).value document current
      pure (op.holds a b)) := by
  rw [Filter.compile.eq_def]
  split
  next op' left' value h =>
    cases h
    apply Logged.ext
    · simp [Term.compile, CompareOp.holds_owned_right]
    · simp [Term.compile]
  next op' value right' _ h =>
    cases h
    apply Logged.ext
    · simp [Term.compile, CompareOp.holds_owned_left]
    · simp [Term.compile]
  next h =>
    cases h
    rfl
  all_goals contradiction

/-! ## Calls -/

/-- Whether a call is not known beforehand to give nothing or false: it has a function, and the literal
pattern that it may have is one. -/
def callIsResolved [Engine] (name : String) (args : List Argument) : Bool :=
  match Function.named? name with
  | none => false
  | some f =>
    match f.extent?, literalPattern? args with
    | some extent, some text => (Engine.read? extent text).isSome
    | _, _ => true

/-- No call is known beforehand to give nothing or false. -/
def Shape.resolved [Engine] : Shape where
  filter
    | .call function args => callIsResolved function args
    | _ => true
  term
    | .call function args => callIsResolved function args
    | _ => true

/-- The compiled arguments of a call, each of which is leaner than the argument, are leaner together. -/
theorem runArguments_leaner [Engine] {whole : Prop} (document current : Json) (args : List Argument)
    (h : ∀ a ∈ args,
      Leaner whole ((Argument.compile a).value document current) (Argument.eval document a current)) :
    Leaner whole (runArguments document current (compileArguments args).value)
      (evalArguments document args current) := by
  induction args with
  | nil => exact Leaner.refl _
  | cons a rest ih =>
    have first := h a List.mem_cons_self
    have others := ih fun b hb => h b (List.mem_cons_of_mem a hb)
    apply first.bind
    intro x
    apply others.bind
    intro xs
    exact Leaner.refl _

/-- A function with an extent tests its first argument against its second one. -/
theorem Function.apply_of_extent [Engine] {f : Function} {extent : Extent} (h : f.extent? = some extent)
    (x pattern : Operand) :
    f.apply [x, pattern] = (.owned ∘ .bool) <$> testOperand extent x pattern := by
  cases f <;> cases h <;> rfl

/-- The test against a pattern that is written down depends on the subject alone. -/
theorem testOperand_literal [Engine] (extent : Extent) (x : Operand) (text : String) :
    testOperand extent x (.owned (.string text)) = (do
      match ← readPattern extent text with
      | some p => pure (testPattern x p)
      | none => pure false) := rfl

/-- The arguments with a literal pattern are two, and the second one is that literal. -/
theorem eq_of_literalPattern? {args : List Argument} {text : String}
    (h : literalPattern? args = some text) :
    ∃ subject, args = [subject, .term (.literal (.string text))] := by
  unfold literalPattern? at h
  split at h
  next subject pattern =>
    cases h
    exact ⟨subject, rfl⟩
  next => cases h

/-- What is recorded about a call beforehand does not change what it is compiled to. -/
theorem value_ite_record {α : Type} (c : Prop) [Decidable c] (e : Event) (x : Logged α) :
    (if c then do
      record e
      x
    else x).value = x.value := by
  split <;> rfl

/-- A call of a known function whose pattern is no literal works its arguments out on every run. -/
theorem compileCall_plain [Engine] {name : String} {f : Function} (named : Function.named? name = some f)
    (args : List Argument) (compiled : Logged (List TermRun)) (document current : Json)
    (plain : ¬∃ extent text, f.extent? = some extent ∧ literalPattern? args = some text) :
    (compileCall name args compiled).value document current =
      runArguments document current compiled.value >>= f.apply := by
  simp only [compileCall, named, value_ite_record, value_bind]
  split
  next hExtent hText _ => exact absurd ⟨_, _, hExtent, hText⟩ plain
  next => rfl

/-- A call whose pattern is a literal looks at its first argument alone, and at no argument if the
pattern is none. -/
theorem compileCall_literal [Engine] {name text : String} {f : Function} {extent : Extent}
    (named : Function.named? name = some f) (hExtent : f.extent? = some extent)
    {args : List Argument} (hText : literalPattern? args = some text) {subject : TermRun}
    {others : List TermRun} {compiled : Logged (List TermRun)}
    (hRuns : compiled.value = subject :: others) (document current : Json) :
    (compileCall name args compiled).value document current =
      match Engine.read? extent text with
      | some p => (fun x => .owned (.bool (testPattern x p))) <$> subject document current
      | none => pure (.owned (.bool false)) := by
  simp only [compileCall, named, value_ite_record, value_bind, hExtent, hText, hRuns, readPattern]
  cases Engine.read? extent text <;> rfl

/-- Evaluating such a call comes down to testing its first argument. -/
theorem callByName_literal [Engine] {name text : String} {f : Function} {extent : Extent}
    (named : Function.named? name = some f) (hExtent : f.extent? = some extent)
    (subject : Argument) (document current : Json) :
    evalArguments document [subject, .term (.literal (.string text))] current >>= callByName name =
      (do
        let x ← Argument.eval document subject current
        (.owned ∘ .bool) <$> testOperand extent x (.owned (.string text))) := by
  have called : ∀ xs, callByName name xs = f.apply xs := by
    intro xs
    simp only [callByName, named]
  have applied := Function.apply_of_extent hExtent
  apply Logged.ext
  · simp [evalArguments, Argument.eval, Term.eval, called, applied]
  · simp [evalArguments, Argument.eval, Term.eval, called, applied]

/-- A call is compiled to a run that is leaner than the call, if its arguments are. -/
theorem compileCall_leaner [Engine] {whole : Prop} (name : String) (args : List Argument)
    (document current : Json) (resolved : whole → callIsResolved name args = true)
    (h : ∀ a ∈ args,
      Leaner whole ((Argument.compile a).value document current) (Argument.eval document a current)) :
    Leaner whole ((compileCall name args (compileArguments args)).value document current)
      (evalArguments document args current >>= callByName name) := by
  cases named : Function.named? name with
  | none =>
    -- The arguments are not even compiled, so whatever they would record is left out.
    have compiled : (compileCall name args (compileArguments args)).value document current =
        pure .nothing := by
      simp [compileCall, named]
    have less : ¬whole := fun all => by simpa [callIsResolved, named] using resolved all
    rw [compiled]
    refine Leaner.pure ?_ less
    simp [callByName, named]
  | some f =>
    by_cases literal : ∃ extent text, f.extent? = some extent ∧ literalPattern? args = some text
    · obtain ⟨extent, text, hExtent, hText⟩ := literal
      obtain ⟨subject, rfl⟩ := eq_of_literalPattern? hText
      have hSubject := h subject List.mem_cons_self
      rw [compileCall_literal named hExtent hText rfl, callByName_literal named hExtent]
      simp only [testOperand_literal, readPattern]
      cases read : Engine.read? extent text with
      | some p =>
        constructor
        · simp [hSubject.value]
        · simpa using hSubject.log
        · simpa using hSubject.all
      | none =>
        have less : ¬whole := fun all => by
          simpa [callIsResolved, named, hExtent, hText, read] using resolved all
        exact Leaner.pure rfl less
    · have called : callByName name = f.apply := by
        funext xs
        simp only [callByName, named]
      rw [compileCall_plain named _ _ _ _ literal, called]
      apply (runArguments_leaner document current args h).bind
      intro xs
      exact Leaner.refl _

/-! ## The parts of a path -/

section Parts

variable {whole : Prop}

/-- What is made of the values that compiled segments lead to, compared with what is made of the nodes
that the segments lead to. -/
theorem runValues_leaner {α : Type} {runs : List (List SelectorRun)} {document start : Json}
    {y : Logged (List Node)} (h : Leaner whole (runSegments document false runs [.root start]) y)
    (f : List Json → α) :
    Leaner whole (f <$> runValues runs document start) (do
      let nodes ← y
      pure (f (nodes.map (·.value)))) := by
  constructor
  · simp [runValues, h.value]
  · simpa [runValues] using h.log
  · simpa [runValues] using h.all

variable [Engine] (document : Json)

mutual

theorem Selector.compile_leaner (atStart : Bool) :
    ∀ s : Selector, (whole → s.every .resolved = true) → ∀ n : Node,
      Leaner whole ((Selector.compile s).value document atStart n)
        (Selector.eval document atStart s n)
  | .name key, _, n => Leaner.refl _
  | .index i, _, n => Leaner.refl _
  | .slice start stop step, _, n => by
    by_cases zero : step = some 0
    · subst zero
      have still : n.sliced start stop (some 0) = [] := by
        simp only [Node.sliced]
        cases n.value with
        | array items => simp [Slice.positions]
        | _ => rfl
      simp only [Selector.eval, still]
      exact Leaner.refl _
    · simp only [Selector.compile, zero, if_false]
      exact Leaner.refl _
  | .wildcard, _, n => Leaner.refl _
  | .filter test, shape, n => by
    simp only [Selector.every, Bool.and_eq_true] at shape
    exact Leaner.select (fun c : Node =>
      Filter.compile_leaner test (fun all => (shape all).2) c.value) _
  | .descent inner, shape, n => by
    simp only [Selector.every, Bool.and_eq_true] at shape
    exact Leaner.collect (Selector.compile_leaner false inner fun all => (shape all).2) _

theorem compileSegment_leaner (atStart : Bool) :
    ∀ ss : List Selector, (whole → everySelector .resolved ss = true) → ∀ nodes : List Node,
      Leaner whole (runSegment document atStart (compileSegment ss).value nodes)
        (evalSegment document atStart ss nodes)
  | [], _, _ => Leaner.refl _
  | s :: rest, shape, nodes => by
    simp only [everySelector, Bool.and_eq_true] at shape
    have first := Leaner.collect
      (Selector.compile_leaner atStart s fun all => (shape all).1) nodes
    have others := compileSegment_leaner atStart rest (fun all => (shape all).2) nodes
    apply first.bind
    intro picked
    apply others.bind
    intro more
    exact Leaner.refl _

theorem compileSegments_leaner (atStart : Bool) :
    ∀ segments : List (List Selector), (whole → everySegment .resolved segments = true) →
      ∀ nodes : List Node,
        Leaner whole (runSegments document atStart (compileSegments segments).value nodes)
          (evalSegments document atStart segments nodes)
  | [], _, _ => Leaner.refl _
  | s :: rest, shape, nodes => by
    simp only [everySegment, Bool.and_eq_true] at shape
    exact (compileSegment_leaner atStart s (fun all => (shape all).1.2) nodes).bind
      (compileSegments_leaner false rest fun all => (shape all).2)

theorem Filter.compile_leaner :
    ∀ f : Filter, (whole → f.every .resolved = true) → ∀ current : Json,
      Leaner whole ((Filter.compile f).value document current) (Filter.eval document f current)
  | .comparison op left right, shape, current => by
    simp only [Filter.every, Bool.and_eq_true] at shape
    rw [Filter.compile_comparison]
    apply (Term.compile_leaner left (fun all => (shape all).2.1) current).bind
    intro a
    apply (Term.compile_leaner right (fun all => (shape all).2.2) current).bind
    intro b
    exact Leaner.refl _
  | .logic .and left right, shape, current => by
    simp only [Filter.every, Bool.and_eq_true] at shape
    apply (Filter.compile_leaner left (fun all => (shape all).2.1) current).bind
    intro holds
    cases holds with
    | true => exact Filter.compile_leaner right (fun all => (shape all).2.2) current
    | false => exact Leaner.refl _
  | .logic .or left right, shape, current => by
    simp only [Filter.every, Bool.and_eq_true] at shape
    apply (Filter.compile_leaner left (fun all => (shape all).2.1) current).bind
    intro holds
    cases holds with
    | true => exact Leaner.refl _
    | false => exact Filter.compile_leaner right (fun all => (shape all).2.2) current
  | .existence anchor segments, shape, current => by
    simp only [Filter.every, Bool.and_eq_true] at shape
    have segments := compileSegments_leaner false segments (fun all => (shape all).2)
      [.root (anchor.value document current)]
    have values := runValues_leaner segments (!List.isEmpty ·)
    simpa [Filter.compile, Filter.eval] using values
  | .call function args, shape, current => by
    simp only [Filter.every, Bool.and_eq_true] at shape
    have call := compileCall_leaner function args document current (fun all => (shape all).1)
      (compileArguments_leaner args (fun all => (shape all).2) current)
    simpa [Filter.compile, Filter.eval] using call.map Operand.truthy
  | .group inner, shape, current => by
    simp only [Filter.every, Bool.and_eq_true] at shape
    exact Filter.compile_leaner inner (fun all => (shape all).2) current
  | .negation inner, shape, current => by
    simp only [Filter.every, Bool.and_eq_true] at shape
    exact (Filter.compile_leaner inner (fun all => (shape all).2) current).map _

theorem Term.compile_leaner :
    ∀ t : Term, (whole → t.every .resolved = true) → ∀ current : Json,
      Leaner whole ((Term.compile t).value document current) (Term.eval document t current)
  | .current, _, _ => Leaner.refl _
  | .root, _, _ => Leaner.refl _
  | .literal _, _, _ => Leaner.refl _
  | .path _ segments, shape, _ => by
    simp only [Term.every, Bool.and_eq_true] at shape
    exact runValues_leaner
      (compileSegments_leaner false segments (fun all => (shape all).2) _) Operand.ofNodes
  | .call function args, shape, current => by
    simp only [Term.every, Bool.and_eq_true] at shape
    exact compileCall_leaner function args document current (fun all => (shape all).1)
      (compileArguments_leaner args (fun all => (shape all).2) current)

theorem Argument.compile_leaner :
    ∀ a : Argument, (whole → a.every .resolved = true) → ∀ current : Json,
      Leaner whole ((Argument.compile a).value document current) (Argument.eval document a current)
  | .term t, shape, current => by
    simp only [Argument.every, Bool.and_eq_true] at shape
    exact Term.compile_leaner t (fun all => (shape all).2) current
  | .filter f, shape, current => by
    simp only [Argument.every, Bool.and_eq_true] at shape
    exact (Filter.compile_leaner f (fun all => (shape all).2) current).map _
  | .path segments, shape, _ => by
    simp only [Argument.every, Bool.and_eq_true] at shape
    exact runValues_leaner
      (compileSegments_leaner false segments (fun all => (shape all).2) _) Operand.ofNodes

theorem compileArguments_leaner :
    ∀ args : List Argument, (whole → everyArgument .resolved args = true) → ∀ current : Json,
      ∀ a ∈ args, Leaner whole ((Argument.compile a).value document current)
        (Argument.eval document a current)
  | [], _, _, _, h => absurd h List.not_mem_nil
  | b :: _, shape, current, _, .head _ => by
    simp only [everyArgument, Bool.and_eq_true] at shape
    exact Argument.compile_leaner b (fun all => (shape all).1) current
  | _ :: rest, shape, current, a, .tail _ h => by
    simp only [everyArgument, Bool.and_eq_true] at shape
    exact compileArguments_leaner rest (fun all => (shape all).2) current a h

end

end Parts

/-! ## Whole paths -/

/-- Running the segments of a compiled path records what evaluating the segments records, or less. -/
theorem Path.compile_leaner [Engine] {whole : Prop} (p : Path)
    (resolved : whole → p.every .resolved = true) (document : Json) :
    Leaner whole (p.compile.value.run document)
      (evalSegments document true p.segments [.root document]) :=
  compileSegments_leaner document true p.segments resolved [.root document]

/-- A compiled path and the path itself select the same nodes of every document, in the same order and
each with the same step, value and ancestors, and the values that either of them gives are the values of
these nodes. -/
theorem Path.run_compile [Engine] (p : Path) (document : Json) :
    (p.compile.value.run document).value = (p.evaluate document).value ∧
      p.compile.value.select document = (p.evaluate document).value.map (·.value) ∧
      p.select document = (p.evaluate document).value.map (·.value) := by
  have nodes : (p.compile.value.run document).value = (p.evaluate document).value :=
    (p.compile_leaner False.elim document).value
  refine ⟨nodes, ?_, rfl⟩
  rw [CompiledPath.select, nodes]

/-- A run of a compiled path records some of the events of the evaluation, in the same order. If all its
calls have a function, and the literal patterns that they have are patterns, it records all of them but
the first one, which says that a path is evaluated. -/
theorem Path.log_run_compile [Engine] (p : Path) (document : Json) :
    (p.compile.value.run document).log.Sublist (p.evaluate document).log ∧
      (p.every .resolved = true → (p.evaluate document).log =
        .evaluating p.segments.length :: (p.compile.value.run document).log) := by
  constructor
  · have part := (p.compile_leaner False.elim document).log
    exact part.trans (List.sublist_append_right [_] _)
  · intro resolved
    have all := (p.compile_leaner (fun _ => resolved) document).all trivial
    rw [all]
    rfl

namespace Path

section Noisy

/-- The elements that match a literal pattern; for the others, a count without an argument is compared
with a search by a pattern from the document. -/
def noisyQuery : Path :=
  ⟨[[.filter (.logic .or
    (.call "match" [.term .current, .term (.literal (.string "a+"))])
    (.comparison .eq (.call "count" []) (.call "search" [.term .current, .term .current])))]]⟩

/-- A string with a match, and one that is no pattern. -/
def noisyDocument : Json := .array [.string "aa", .string "["]

/-- As much of an engine as this query needs: a bracket that is not closed is no pattern, and any other
pattern matches the strings of no letter but `a`. -/
local instance letterEngine : Engine where
  Pattern := Unit
  ofText? text := if text = ['['] then none else some ()
  test _ s := s.toList.all (· == 'a')

theorem log_run_compile_noisy :
    noisyQuery.every .resolved = true ∧
      (noisyQuery.compile.value.run noisyDocument).log.Sublist (noisyQuery.evaluate noisyDocument).log ∧
      (noisyQuery.evaluate noisyDocument).log =
        .evaluating 1 :: (noisyQuery.compile.value.run noisyDocument).log ∧
      (noisyQuery.compile.value.run noisyDocument).log =
        [.wrongArity "count" 1 0, .badPattern .anywhere "["] :=
  have resolved : noisyQuery.every .resolved = true := by decide
  have log := log_run_compile noisyQuery noisyDocument
  ⟨resolved, log.1, log.2 resolved, by decide⟩

end Noisy

end Path

end PathQuery
