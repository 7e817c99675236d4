import PathQuery.Path.Grammar.Depth
import PathQuery.Proofs.Path.Lexeme
import PathQuery.Proofs.Path.Rewriting
import PathQuery.Proofs.Reader.Agrees
import PathQuery.Proofs.Text.Class

/-!
# Selectors and segments that are written and read

A selector is read in front of a comma or a closing bracket, and a segment in front of any text that does
not go on with a name. Whether a segment descends is seen from its front; behind that both kinds are the
same, selectors between brackets or one of the two short forms.

Not every selector can be read: between brackets none may descend. So there are two things to know, what
comes back of a selector if it is read at all, and that a selector that can be read surely is. Both are
proved at once.

## Main definitions

* `Selector.Reads` — characters are read as a selector in front of a closing text.
* `Selector.Spoken` — a selector is read as what it is understood as, at its node and below.

## Main results

* `reads_name`, `reads_index`, `reads_slice`, `reads_filter` — the selectors, one by one.
* `selectors_joined` — the selectors between brackets.
* `segment_chars` — a segment in any of its forms.
-/

namespace PathQuery

open Lexeme Reader Grammar

variable {sure : Prop} {rest : List Char}

/-! ## The rules of the grammar -/

namespace Grammar

theorem grammar_segments : grammar.segments = grammar.segmentsRule :=
  congrArg Grammar.segments grammar_eq_step

theorem grammar_selectors : grammar.selectors = grammar.selectorsRule :=
  congrArg Grammar.selectors grammar_eq_step

theorem grammar_filter : grammar.filter = grammar.filterRule :=
  congrArg Grammar.filter grammar_eq_step

theorem grammar_unary : grammar.unary = grammar.unaryRule :=
  congrArg Grammar.unary grammar_eq_step

theorem grammar_conjunction (left : Filter) :
    grammar.conjunction left = grammar.conjunctionRule left :=
  congrFun (congrArg Grammar.conjunction grammar_eq_step) left

theorem grammar_disjunction (left : Filter) :
    grammar.disjunction left = grammar.disjunctionRule left :=
  congrFun (congrArg Grammar.disjunction grammar_eq_step) left

theorem grammar_arguments : grammar.arguments = grammar.argumentsRule :=
  congrArg Grammar.arguments grammar_eq_step

end Grammar

/-! ## Single selectors -/

/-- In front of a closing text some characters are read as the selector `s`. They start neither with white
space nor with a bracket. -/
structure Selector.Reads (sure : Prop) (chars : List Char) (s : Selector) : Prop where
  front : ∃ c cs, chars = c :: cs ∧ isBlank c = false ∧ c ≠ ']'
  read : ∀ rest, Closes rest → (grammar.selector (chars ++ rest)).Agrees sure (.done s rest)

namespace Selector

theorem reads_name (key : String) : Reads sure (quotedName key) (.name key) where
  front := ⟨'\'', _, rfl, by decide, by decide⟩
  read rest _ := by
    have quoted := map_done Selector.name (@readQuoted_encode '\'' rfl key.toList rest)
    rw [String.ofList_toList] at quoted
    exact .of_eq quoted

theorem reads_wildcard : Reads sure ['*'] .wildcard :=
  ⟨⟨'*', _, rfl, by decide, by decide⟩, fun _ _ => .of_eq rfl⟩

/-- A character that starts a number starts an index or a slice. -/
theorem selector_number {c : Char} {s : List Char} (hc : startsNumber c = true) :
    grammar.selector (c :: s) = indexOrSlice (c :: s) := by
  have ne (d : Char) (hd : startsNumber d = false) : c ≠ d := by
    rintro rfl
    rw [hc] at hd
    cases hd
  have quote : isQuote c = false := by simp [isQuote, ne '\'' rfl, ne '"' rfl]
  simp [selector, bind_apply, quote, ne '*' rfl, ne '?' rfl, hc]

/-- What starts a number is neither white space nor a bracket. -/
theorem plain_of_startsNumber {c : Char} (h : startsNumber c = true) : isBlank c = false ∧ c ≠ ']' := by
  refine ⟨isBlank_of_startsNumber h, ?_⟩
  rintro rfl
  cases h

theorem reads_index (i : Int64) : Reads sure (intChars i.toInt) (.index i) := by
  obtain ⟨c, cs, hc, number⟩ := startsNumber_head i.toInt
  refine ⟨⟨c, cs, hc, plain_of_startsNumber number⟩, fun rest closes => .of_eq ?_⟩
  have rule : grammar.selector (intChars i.toInt ++ rest) =
      indexOrSlice (intChars i.toInt ++ rest) := by
    rw [hc]
    exact selector_number number
  have int : readOptionalInt (intChars i.toInt ++ rest) = .done (some i) rest :=
    readOptionalInt_optionalInt (some i) (closes.stops (by decide) (by decide) (by decide)) closes.blank
  have colon : rest.head? ≠ some ':' := closes.head_ne (by decide)
  rw [rule, indexOrSlice, bind_done int, bind_done (skipBlank_stops closes.blank)]
  simp [bind_apply, colon]

/-- The step of a slice with the colon in front of it, or nothing. -/
def stepChars : Option Int64 → List Char
  | some i => ':' :: intChars i.toInt
  | none => []

theorem sliceChars_eq (start stop step : Option Int64) :
    sliceChars start stop step = optionalInt start ++ ':' :: (optionalInt stop ++ stepChars step) := by
  cases step <;> rfl

theorem sliceStep_stepChars (step : Option Int64) (closes : Closes rest) :
    sliceStep (stepChars step ++ rest) = .done step rest := by
  cases step with
  | none =>
    have colon : rest.head? ≠ some ':' := closes.head_ne (by decide)
    simp [stepChars, sliceStep, bind_apply, colon]
  | some i =>
    exact readOptionalInt_optionalInt (some i)
      (closes.stops (by decide) (by decide) (by decide)) closes.blank

theorem indexOrSlice_sliceChars (start stop step : Option Int64) (closes : Closes rest) :
    indexOrSlice (sliceChars start stop step ++ rest) = .done (.slice start stop step) rest := by
  have colon (t : List Char) : Stops startsNumber (':' :: t) ∧ Stops isBlank (':' :: t) :=
    ⟨Stops.cons (by decide), Stops.cons (by decide)⟩
  -- The second part is followed by another colon, or by what closes the slice.
  have behind : Stops startsNumber (stepChars step ++ rest) ∧ Stops isBlank (stepChars step ++ rest) := by
    cases step with
    | none => exact ⟨closes.stops (by decide) (by decide) (by decide), closes.blank⟩
    | some i => exact colon _
  have first := readOptionalInt_optionalInt start
    (colon (optionalInt stop ++ (stepChars step ++ rest))).1 (colon _).2
  have second := readOptionalInt_optionalInt stop behind.1 behind.2
  have third := sliceStep_stepChars step closes
  rw [sliceChars_eq]
  simp only [List.append_assoc, List.cons_append]
  rw [indexOrSlice, bind_done first, bind_done (skipBlank_stops (colon _).2)]
  show (readOptionalInt >>= _) (optionalInt stop ++ (stepChars step ++ rest)) = _
  rw [bind_done second, bind_done (skipBlank_stops behind.2), bind_done third]
  rfl

theorem reads_slice (start stop step : Option Int64) :
    Reads sure (sliceChars start stop step) (.slice start stop step) := by
  cases start with
  | none =>
    exact ⟨⟨':', _, rfl, by decide, by decide⟩,
      fun rest closes => .of_eq (indexOrSlice_sliceChars none stop step closes)⟩
  | some i =>
    obtain ⟨c, cs, hc, number⟩ := startsNumber_head i.toInt
    have chars : sliceChars (some i) stop step =
        c :: (cs ++ ':' :: (optionalInt stop ++ stepChars step)) := by
      rw [sliceChars_eq, optionalInt, hc]
      rfl
    refine ⟨⟨c, _, chars, plain_of_startsNumber number⟩, fun rest closes => .of_eq ?_⟩
    rw [← indexOrSlice_sliceChars (some i) stop step closes, chars]
    exact selector_number number

theorem reads_filter {chars : List Char} {f : Filter}
    (h : ∀ rest, Closes rest → (grammar.filter (chars ++ rest)).Agrees sure (.done f rest)) :
    Reads sure ('?' :: chars) (.filter f.ungroup) :=
  ⟨⟨'?', _, rfl, by decide, by decide⟩,
    fun rest closes => (h rest closes).map fun g : Filter => Selector.filter g.ungroup⟩

/-- Between brackets a descent is not read. -/
theorem reads_descent {inner : Selector} (unsure : ¬ sure) (s : Selector) :
    Reads sure (descent inner).chars s :=
  ⟨⟨'.', _, rfl, by decide, by decide⟩, fun _ _ => .of_failed unsure rfl⟩

/-- A selector is read as what it is understood as, as it stands between brackets, and so is what it
applies below its node. Neither is sure of a descent. -/
structure Spoken (sure : Prop) (s : Selector) : Prop where
  whole : (sure → s.isDescent = false) → Reads sure s.chars s.heard
  inner : (sure → s.inner.isDescent = false) → Reads sure s.inner.chars s.inner.heard

/-- For a selector that does not descend the two are the same. -/
theorem Spoken.of_reads {s : Selector} (same : s.inner = s) (reads : Reads sure s.chars s.heard) :
    Spoken sure s :=
  ⟨fun _ => reads, fun _ => same.symm ▸ reads⟩

theorem Spoken.descent {inner : Selector} (h : Spoken sure inner) : Spoken sure (.descent inner) :=
  ⟨fun shallow => reads_descent (fun hs => Bool.noConfusion (shallow hs)) _, h.whole⟩

end Selector

/-! ## Selectors between brackets -/

/-- Texts with a comma and a blank between two of them. -/
def joined : List (List Char) → List Char
  | [] => []
  | [x] => x
  | x :: y :: rest => x ++ ',' :: ' ' :: joined (y :: rest)

theorem selectorsChars_eq (s : Segment) : selectorsChars s = joined (s.map Selector.chars) := by
  induction s with
  | nil => rfl
  | cons t more ih =>
    cases more with
    | nil => rfl
    | cons u more => simp [selectorsChars, joined, ih]

theorem innerChars_eq (s : Segment) : innerChars s = joined (s.map Selector.innerChars) := by
  induction s with
  | nil => rfl
  | cons t more ih =>
    cases more with
    | nil => rfl
    | cons u more => simp [innerChars, joined, ih]

namespace Selector

variable {chars : List Char} {s : Selector}

theorem Reads.stops_blank (reads : Reads sure chars s) (t : List Char) : Stops isBlank (chars ++ t) := by
  obtain ⟨c, cs, rfl, blank, -⟩ := reads.front
  exact Stops.cons blank

theorem Reads.comma (reads : Reads sure chars s) (t : List Char) :
    (grammar.selectors (chars ++ ',' :: t)).Agrees sure (((s :: ·) <$> grammar.selectors) t) := by
  have closes : Closes (',' :: t) := ⟨',', t, rfl, .inl rfl⟩
  have rule := congrFun grammar_selectors (chars ++ ',' :: t)
  rw [rule, selectorsRule, bind_done (skipBlank_stops (reads.stops_blank _))]
  refine (reads.read _ closes).bind.trans (.of_eq ?_)
  rw [bind_done (skipBlank_stops closes.blank)]
  rfl

theorem Reads.bracket (reads : Reads sure chars s) (t : List Char) :
    (grammar.selectors (chars ++ ']' :: t)).Agrees sure (.done [s] t) := by
  have closes : Closes (']' :: t) := ⟨']', t, rfl, .inr (.inr rfl)⟩
  rw [grammar_selectors, selectorsRule, bind_done (skipBlank_stops (reads.stops_blank _))]
  refine (reads.read _ closes).bind.trans (.of_eq ?_)
  rw [bind_done (skipBlank_stops closes.blank)]
  rfl

theorem selectors_blank (t : List Char) : grammar.selectors (' ' :: t) = grammar.selectors t := by
  rw [grammar_selectors, selectorsRule, skipBlank_bind, skipBlank_bind, dropWhile_blank]

end Selector

section Brackets

variable {s : Segment} {chars : Selector → List Char} {heard : Selector → Selector}

/-- The selectors between brackets are read, one after the other. -/
theorem selectors_joined (ne : s ≠ []) (reads : ∀ t ∈ s, Selector.Reads sure (chars t) (heard t))
    (rest : List Char) :
    (grammar.selectors (joined (s.map chars) ++ ']' :: rest)).Agrees sure
      (.done (s.map heard) rest) := by
  induction s with
  | nil => contradiction
  | cons t more ih =>
    have first := reads t List.mem_cons_self
    cases more with
    | nil => exact first.bracket rest
    | cons u more =>
      have others := ih (List.cons_ne_nil u more) fun v hv => reads v (List.mem_cons_of_mem t hv)
      have split : joined ((t :: u :: more).map chars) ++ ']' :: rest =
          chars t ++ ',' :: ' ' :: (joined ((u :: more).map chars) ++ ']' :: rest) := by
        simp [joined]
      rw [split]
      refine (first.comma _).trans ?_
      rw [← Selector.selectors_blank] at others
      exact others.map (heard t :: ·)

/-- Behind an opening bracket. -/
theorem brackets_joined (ne : s ≠ []) (reads : ∀ t ∈ s, Selector.Reads sure (chars t) (heard t))
    (rest : List Char) :
    (grammar.brackets (joined (s.map chars) ++ ']' :: rest)).Agrees sure
      (.done (s.map heard) rest) := by
  have selectors := selectors_joined ne reads rest
  obtain ⟨c, cs, hc, blank, bracket⟩ :
      ∃ c cs, joined (s.map chars) = c :: cs ∧ isBlank c = false ∧ c ≠ ']' := by
    cases s with
    | nil => contradiction
    | cons t more =>
      obtain ⟨c, cs, hc, h⟩ := (reads t List.mem_cons_self).front
      cases more with
      | nil => exact ⟨c, cs, by simp [joined, hc], h⟩
      | cons u more => exact ⟨c, _, by simp [joined, hc]; rfl, h⟩
  rw [hc] at selectors ⊢
  rw [brackets, List.cons_append, bind_done (skipBlank_stops (Stops.cons blank))]
  simpa [bind_apply, bracket] using selectors

end Brackets

/-! ## Segments -/

/-- The selectors that have a short form. -/
theorem shortForm?_cases {s : Segment} {short : List Char} (h : shortForm? s = some short) :
    (∃ key, s = [.name key] ∧ isBareName key.toList = true ∧ short = key.toList) ∨
      (s = [.wildcard] ∧ short = ['*']) := by
  unfold shortForm? at h
  split at h
  next key =>
    split at h
    next bare =>
      cases h
      exact .inl ⟨key, rfl, bare, rfl⟩
    next => cases h
  next =>
    cases h
    exact .inr ⟨rfl, rfl⟩
  next => cases h

/-- A bare name starts neither with a point nor with an asterisk, and not with white space. -/
theorem bareName_head {key : List Char} (h : isBareName key = true) :
    ∃ c cs, key = c :: cs ∧ isNameStart c = true ∧ c ≠ '.' ∧ c ≠ '*' ∧ c ≠ '[' ∧
      isBlank c = false := by
  cases key with
  | nil => cases h
  | cons c rest =>
    obtain ⟨start, -⟩ : isNameStart c = true ∧ rest.all isNameChar = true := by
      simpa [isBareName] using h
    have ne (d : Char) (hd : isNameStart d = false) : c ≠ d := by
      rintro rfl
      rw [start] at hd
      cases hd
    have blank : isBlank c = false := by
      refine Bool.eq_false_iff.2 fun blank => ?_
      simpa [isNameChar_of_isBlank blank] using isNameChar_of_isNameStart start
    exact ⟨c, rest, rfl, start, ne _ (by decide), ne _ (by decide), ne _ (by decide), blank⟩

/-- A segment of the shape that can be read back has selectors; none of them descends if the segment does
not, and none of them twice. -/
theorem readable_segment {s : Segment} (h : Shape.readable.segment s = true) :
    s ≠ [] ∧ (s.isRecursive = false → ∀ t ∈ s, t.isDescent = false) ∧
      ∀ t ∈ s, t.inner.isDescent = false := by
  obtain ⟨ne, shape⟩ : s ≠ [] ∧ ((∀ t ∈ s, t.isShallowDescent = true) ∨
      ∀ t ∈ s, t.isDescent = false) := by
    simpa [Shape.readable] using h
  rcases shape with shallow | plain
  · have descents (t : Selector) (ht : t ∈ s) : t.isDescent = true ∧ t.inner.isDescent = false := by
      have := shallow t ht
      cases t with
      | descent inner => exact ⟨rfl, by simpa [Selector.isShallowDescent, Selector.inner] using this⟩
      | _ => cases this
    have kind : s.isRecursive = true := by
      have nonempty : s.isEmpty = false := by simpa using ne
      simp [Segment.isRecursive, nonempty, List.all_eq_true.2 fun t ht => (descents t ht).1]
    exact ⟨ne, fun plain => (Bool.noConfusion (kind.symm.trans plain)), fun t ht => (descents t ht).2⟩
  · refine ⟨ne, fun _ => plain, fun t ht => ?_⟩
    have := plain t ht
    cases t with
    | descent inner => cases this
    | _ => rfl

/-- The name behind one or two points. -/
theorem member_append {key : String} (bare : isBareName key.toList = true)
    (hs : Stops isNameChar rest) : member (key.toList ++ rest) = .done [.name key] rest := by
  obtain ⟨c, cs, hc, -, -, star, -, blank⟩ := bareName_head bare
  have name := map_done (fun key => [Selector.name key]) (readName_append bare hs)
  rw [String.ofList_toList] at name
  rw [hc] at name ⊢
  rw [member, bind_done (skipBlank_stops (Stops.append (Stops.cons blank) (List.cons_ne_nil c cs)))]
  simpa [bind_apply, star] using name

theorem descendants_append {key : String} (bare : isBareName key.toList = true)
    (hs : Stops isNameChar rest) :
    grammar.descendants (key.toList ++ rest) = .done [.descent (.name key)] rest := by
  obtain ⟨c, cs, hc, start, -, star, bracket, -⟩ := bareName_head bare
  have name := map_done (fun key => Segment.descendant [Selector.name key]) (readName_append bare hs)
  rw [String.ofList_toList] at name
  rw [hc] at name ⊢
  simpa [descendants, bind_apply, star, bracket, start, Segment.descendant] using name

/-- What the text of a segment is understood as, selector by selector. -/
theorem heardSegments_cons (s : Segment) (more : List Segment) :
    heardSegments (s :: more) = s.map Selector.heard :: heardSegments more := by
  have all : normalSelectors (rewriteSelectors .asRead s) = s.map Selector.heard := by
    induction s with
    | nil => rfl
    | cons t s ih => rw [rewriteSelectors, normalSelectors, ih, List.map_cons, Selector.heard]
  show normalSelectors (rewriteSelectors .asRead s) :: heardSegments more = _
  rw [all]

/-- A segment that picks at its node is read. -/
theorem segment_plain {s : Segment} (ne : s ≠ []) (kind : s.isRecursive = false)
    (reads : ∀ t ∈ s, Selector.Reads sure t.chars t.heard) (hs : Stops isNameChar rest) :
    (grammar.segment (s.chars ++ rest)).Agrees sure (.done (s.map Selector.heard) rest) := by
  cases short : shortForm? s with
  | some name =>
    rcases shortForm?_cases short with ⟨key, rfl, bare, rfl⟩ | ⟨rfl, rfl⟩
    · have chars : Segment.chars [.name key] ++ rest = '.' :: (key.toList ++ rest) := by
        simp [Segment.chars, Segment.spell, kind, short]
      obtain ⟨c, cs, hc, -, point, -⟩ := bareName_head bare
      rw [chars, segment_member (by simp [hc, point])]
      exact .of_eq (member_append bare hs)
    · exact .of_eq rfl
  | none =>
    have chars : s.chars ++ rest = '[' :: (joined (s.map Selector.chars) ++ ']' :: rest) := by
      simp [Segment.chars, Segment.spell, kind, short, selectorsChars_eq]
    rw [chars, segment_brackets]
    exact brackets_joined ne reads rest

/-- A segment that descends is read. -/
theorem segment_recursive {s : Segment} (kind : s.isRecursive = true)
    (reads : ∀ t ∈ s, Selector.Reads sure t.inner.chars t.inner.heard) (hs : Stops isNameChar rest) :
    (grammar.segment (s.chars ++ rest)).Agrees sure (.done (s.map Selector.heard) rest) := by
  obtain ⟨ne, descents⟩ : s ≠ [] ∧ ∀ t ∈ s, t.isDescent = true := by
    simpa [Segment.isRecursive] using kind
  have descent (t : Selector) (ht : t ∈ s) : t = .descent t.inner := by
    have := descents t ht
    cases t with
    | descent inner => rfl
    | _ => cases this
  have heard : s.map Selector.heard = Segment.descendant (s.map fun t => t.inner.heard) := by
    rw [Segment.descendant, List.map_map]
    refine List.map_congr_left fun t ht => ?_
    rw [descent t ht]
    rfl
  cases short : shortForm? (s.map Selector.inner) with
  | some name =>
    have chars : s.chars ++ rest = '.' :: '.' :: (name ++ rest) := by
      simp [Segment.chars, Segment.spell, kind, short]
    have rebuilt : s = Segment.descendant (s.map Selector.inner) := by
      rw [Segment.descendant, List.map_map]
      exact (List.map_id s).symm.trans (List.map_congr_left descent)
    rw [chars, segment_descendants]
    rcases shortForm?_cases short with ⟨key, hk, bare, rfl⟩ | ⟨hw, rfl⟩
    · rw [hk] at rebuilt
      rw [rebuilt]
      exact .of_eq (descendants_append bare hs)
    · rw [hw] at rebuilt
      rw [rebuilt]
      exact .of_eq rfl
  | none =>
    have inner : s.map Selector.innerChars = s.map fun t => t.inner.chars :=
      List.map_congr_left fun t ht => by rw [descent t ht]; rfl
    have chars : s.chars ++ rest =
        '.' :: '.' :: '[' :: (joined (s.map fun t => t.inner.chars) ++ ']' :: rest) := by
      simp [Segment.chars, Segment.spell, kind, short, innerChars_eq, inner]
    rw [chars, segment_descendants, heard]
    exact (brackets_joined ne reads rest).map Segment.descendant

/-- A segment is read, if no name goes on behind it. One without selectors, or with descents where none
can stand, is not. -/
theorem segment_chars {s : Segment} (shape : sure → Shape.readable.segment s = true)
    (spoken : ∀ t ∈ s, t.Spoken sure) (hs : Stops isNameChar rest) :
    (grammar.segment (s.chars ++ rest)).Agrees sure (.done (s.map Selector.heard) rest) := by
  cases kind : s.isRecursive with
  | true =>
    exact segment_recursive kind
      (fun t ht => (spoken t ht).inner fun h => (readable_segment (shape h)).2.2 t ht) hs
  | false =>
    by_cases ne : s = []
    · subst ne
      exact .of_failed (fun h => (readable_segment (shape h)).1 rfl) rfl
    · exact segment_plain ne kind
        (fun t ht => (spoken t ht).whole fun h => (readable_segment (shape h)).2.1 kind t ht) hs

/-- A segment starts with a point or a bracket. -/
theorem segment_head (s : Segment) : ∃ c cs, s.chars = c :: cs ∧ opensSegment c = true := by
  unfold Segment.chars Segment.spell
  split
  · split
    · exact ⟨_, _, rfl, rfl⟩
    · exact ⟨_, _, rfl, rfl⟩
  · split
    · exact ⟨_, _, rfl, rfl⟩
    · exact ⟨_, _, rfl, rfl⟩

end PathQuery
