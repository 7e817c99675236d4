import PathQuery.Proofs.Path.Filter

/-!
# The text of a path is read back

The parts of a path are read one by one, and a path has the parts that it has; so all that is left is one
induction over a path with everything that is nested in it. It says two things at once. Whatever the text
of a path is read as, it is what the path is understood as. And if the path has the shape of one that can
be read back, at every depth, then its text is read.

## Main results

* `Selector.spoken`, `Filter.reads`, `Term.reads`, `Argument.reads` — the parts of a path.
* `Path.eq_heard_of_read_text` — what the text of a path is read as.
* `Path.reader_text` — the text of a path that can be read back is read to its end.
* `Path.read_text` — what is read of it is the normal form.
-/

namespace PathQuery

open Lexeme Reader Grammar

/-! ## The parts of a path -/

section Parts

variable {sure : Prop}

mutual

theorem Selector.spoken : ∀ s : Selector, s.every .buildable = true →
    (sure → s.every .readable = true) → s.Spoken sure
  | .name key, _, _ => .of_reads rfl (Selector.reads_name key)
  | .index i, _, _ => .of_reads rfl (Selector.reads_index i)
  | .slice start stop step, _, _ => .of_reads rfl (Selector.reads_slice start stop step)
  | .wildcard, _, _ => .of_reads rfl Selector.reads_wildcard
  | .filter test, built, shape => by
    simp only [Selector.every, Bool.and_eq_true] at built shape
    have reads := Filter.reads test built.2 fun h => (shape h).2
    exact .of_reads rfl (Selector.reads_filter fun rest closes => reads.done closes)
  | .descent inner, built, shape => by
    simp only [Selector.every, Bool.and_eq_true] at built shape
    exact (Selector.spoken inner built.2 fun h => (shape h).2).descent

theorem Filter.reads : ∀ f : Filter, f.every .buildable = true →
    (sure → f.every .readable = true) → f.Reads sure
  | .comparison op left right, built, shape => by
    simp only [Filter.every, Bool.and_eq_true] at built shape
    exact .comparison op (Term.reads left built.2.1 fun h => (shape h).2.1)
      (Term.reads right built.2.2 fun h => (shape h).2.2)
  | .logic op left right, built, shape => by
    simp only [Filter.every, Bool.and_eq_true] at built shape
    have hl := Filter.reads left built.2.1 fun h => (shape h).2.1
    have hr := Filter.reads right built.2.2 fun h => (shape h).2.2
    cases op with
    | and => exact hl.conjunction hr
    | or => exact hl.disjunction hr
  | .existence anchor segments, built, shape => by
    simp only [Filter.every, Bool.and_eq_true] at built shape
    exact .existence anchor (segmentsReads segments built.2 fun h => (shape h).2)
  | .call function args, built, shape => by
    simp only [Filter.every, Bool.and_eq_true] at built shape
    exact .call built.1 (argumentsRead (argumentsReads args built.2 fun h => (shape h).2))
  | .group inner, built, shape => by
    simp only [Filter.every, Bool.and_eq_true] at built shape
    exact (Filter.reads inner built.2 fun h => (shape h).2).group
  | .negation inner, built, shape => by
    simp only [Filter.every, Bool.and_eq_true] at built shape
    exact (Filter.reads inner built.2 fun h => (shape h).2).negation

theorem Term.reads : ∀ t : Term, t.every .buildable = true →
    (sure → t.every .readable = true) → t.Reads sure
  | .current, _, _ => Term.reads_current
  | .root, _, _ => Term.reads_root
  | .literal value, built, shape => by
    refine Term.reads_literal shape fun x hx => ?_
    subst hx
    exact built
  | .path anchor segments, built, shape => by
    simp only [Term.every, Bool.and_eq_true] at built shape
    exact Term.reads_path anchor (segmentsReads segments built.2 fun h => (shape h).2)
  | .call function args, built, shape => by
    simp only [Term.every, Bool.and_eq_true] at built shape
    exact Term.reads_call built.1
      (argumentsRead (argumentsReads args built.2 fun h => (shape h).2))

theorem Argument.reads : ∀ a : Argument, a.every .buildable = true →
    (sure → a.every .readable = true) → a.Reads sure
  | .term t, built, shape => by
    simp only [Argument.every, Bool.and_eq_true] at built shape
    exact Argument.reads_term (Term.reads t built.2 fun h => (shape h).2)
  | .filter f, built, shape => by
    simp only [Argument.every, Bool.and_eq_true] at built shape
    exact Argument.reads_filter (Filter.reads f built.2 fun h => (shape h).2)
  | .path segments, built, shape => by
    simp only [Argument.every, Bool.and_eq_true] at built shape
    exact Argument.reads_path (segmentsReads segments built.2 fun h => (shape h).2)

theorem selectorsSpoken : ∀ s : List Selector, everySelector .buildable s = true →
    (sure → everySelector .readable s = true) → ∀ t ∈ s, t.Spoken sure
  | [], _, _ => by simp
  | t :: more, built, shape => by
    simp only [everySelector, Bool.and_eq_true] at built shape
    have first := Selector.spoken t built.1 fun h => (shape h).1
    have others := selectorsSpoken more built.2 fun h => (shape h).2
    intro u member
    rcases List.mem_cons.1 member with rfl | member
    · exact first
    · exact others u member

theorem segmentsReads : ∀ segments : List (List Selector), everySegment .buildable segments = true →
    (sure → everySegment .readable segments = true) → SegmentsRead sure segments
  | [], _, _ => segmentsRead_nil
  | s :: more, built, shape => by
    simp only [everySegment, Bool.and_eq_true] at built shape
    exact segmentsRead_cons (fun h => (shape h).1.1)
      (selectorsSpoken s built.1.2 fun h => (shape h).1.2)
      (segmentsReads more built.2 fun h => (shape h).2)

theorem argumentsReads : ∀ args : List Argument, everyArgument .buildable args = true →
    (sure → everyArgument .readable args = true) → ∀ a ∈ args, a.Reads sure
  | [], _, _ => by simp
  | a :: more, built, shape => by
    simp only [everyArgument, Bool.and_eq_true] at built shape
    have first := Argument.reads a built.1 fun h => (shape h).1
    have others := argumentsReads more built.2 fun h => (shape h).2
    intro b member
    rcases List.mem_cons.1 member with rfl | member
    · exact first
    · exact others b member

end

end Parts

/-! ## Whole paths -/

namespace Path

/-- The reader of paths gives what the path is understood as, if it gives a path at all. -/
theorem agrees_reader_text (sure : Prop) {p : Path} (built : p.every .buildable = true)
    (shape : sure → p.every .readable = true) :
    (reader p.text.toList).Agrees sure (.done p.heard []) := by
  have segments := segmentsReads p.segments built shape [] Ends.nil
  rw [List.append_nil] at segments
  rw [text, String.toList_ofList]
  show ((grammar.segments >>= _) (segmentsChars p.segments)).Agrees sure _
  exact segments.bind.trans (.of_eq rfl)

/-- The text of a path is read as what the path is understood as, if it is read at all. -/
theorem eq_heard_of_read_text {p q : Path} (built : p.every .buildable = true)
    (h : read p.text = .ok q) : q = p.heard := by
  have agrees := agrees_reader_text False built nofun
  rw [read] at h
  cases done : reader p.text.toList with
  | done r rest =>
    rw [done] at h
    cases h
    exact (agrees.eq_done done).1
  | failed cause rest =>
    rw [done] at h
    cases h

/-- The paths that can be read back can be built. -/
theorem readable_implies_buildable : Shape.readable.Implies .buildable where
  selector _ _ := rfl
  segment _ _ := rfl
  filter f h := by
    cases f with
    | call function args => exact h
    | _ => rfl
  term t h := by
    cases t with
    | call function args => exact h
    | literal value =>
      cases value with
      | number n =>
        cases n with
        | real x => exact h
        | integer n =>
          obtain ⟨i, hi⟩ := Option.isSome_iff_exists.1 (show (Word.ofInt? n).isSome = true from h)
          have value := Word.ofInt?_eq_some_iff.1 hi
          have lower := i.le_toInt
          have upper := i.toInt_lt
          exact decide_eq_true (by omega)
      | _ => rfl
    | _ => rfl
  argument _ _ := rfl

/-- The reader of paths gives the normal form and leaves nothing. -/
theorem reader_text {p : Path} (shape : p.every .readable = true) :
    reader p.text.toList = .done p.normal [] := by
  have built := every_mono readable_implies_buildable shape
  rw [← heard_of_readable shape]
  exact (agrees_reader_text True built fun _ => shape).eq trivial

/-- A path that can be read back is read back from its text, in its normal form. -/
theorem read_text (p : Path) (shape : p.every .readable = true) : read p.text = .ok p.normal := by
  rw [read, reader_text shape]

/-- A path built by hand: operands without the parentheses that they need, a group as the whole of a
filter, a path as an argument, and a path without segments as a term. -/
def handBuilt : Path := ⟨[
  [.name "a b", .index (-1), .slice none (some 3) none],
  [.descent (.filter (.group (.logic .or (.existence .root [])
    (.logic .or (.existence .current [[.wildcard]])
      (.negation (.logic .and (.call "f" []) (.existence .current [[.name "x"]])))))))],
  [.filter (.comparison .le
    (.call "g" [.path [[.name "it's"]], .filter (.group (.existence .current []))])
    (.literal (.number (.real 2.5)))),
   .filter (.comparison .ne (.path .current []) (.literal (.string "")))]]⟩

theorem read_text_handBuilt : read handBuilt.text = .ok handBuilt.normal :=
  read_text handBuilt rfl

end Path

end PathQuery
