import PathQuery.Proofs.Path.Watched.Word

/-!
# The rules of the grammar pass a place of a text

The parts of a path are followed rule by rule, beside the same rules of a grammar that is stopped where a
segment opens at the place. Segments are opened in three kinds of places: behind another segment, behind the
sign of the document and behind the sign of the candidate. Behind the first two they are read through white
space. For that it must be known that no segment ends in the sign of the candidate itself: it ends in a closing
bracket, in a character of a name, or in the sign for all children.

Behind the sign of the candidate white space makes a term of the sign alone, and the segment is left. A term, a
filter and the arguments of a call may end like that. What reads on finds at the place neither a comparison nor
a connective nor a closing sign, so it leaves the segment as well or it fails, and the selectors around the
filter fail at the latest.

## Main definitions

* `Grammar.stopAt`, `Grammar.upToStop` — grammars that are stopped where a segment would be opened.
* `Grammar.Starts` — a reader of segments, and the one that is stopped.
* `Grammar.Watches` — the parts of a grammar pass the place, as found out by another grammar.

## Main results

* `Grammar.segment_endsIn` — the last character of a segment.
* `Grammar.Starts.bind`, `Grammar.segments_starts` — segments behind a reader, and behind each other.
* `Grammar.term_watched`, `Grammar.argument_watched` — terms and arguments.
* `Grammar.Watches.step`, `Grammar.watches_upTo` — from the parts of a grammar to its rules, to any depth.
-/

namespace PathQuery

open Reader
open ReadError (Cause)

variable {β γ : Type} {v : Place} {loose : Prop} {s t : List Char} {c : Char}

namespace Grammar

open Lexeme

/-! ## Stopped grammars -/

/-- The grammar, stopped where a segment would be opened at the characters `v`. -/
def stopAt (v : List Char) (g : Grammar) : Grammar :=
  { g with
    segments := fun s =>
      if v.head?.any opensSegment = true ∧ s.dropWhile isBlank = v then .failed .unexpectedEnd s
      else g.segments s }

/-- The grammar to a depth, stopped where a segment would be opened at the characters `v`. -/
def upToStop (v : List Char) : Nat → Grammar
  | 0 => nothing
  | n + 1 => (upToStop v n).step.stopAt v

/-- A reader of segments, and the same one stopped at the place. It may start at the place itself; then it
takes something off there, and does the same behind white space. -/
structure Starts (v : Place) (p q : Reader Cause β) : Prop where
  suffix : ∀ s, (p s).rest <:+ s
  away : ∀ s, (v.opens = true → s ≠ v.text) → Watched v False p q s
  shorter : v.opens = true → ∀ a rest, p v.text = .done a rest → rest.length < v.text.length
  blank : v.opens = true → ∀ s, s.dropWhile isBlank = v.text →
    ∀ a rest, p v.text = .done a rest → p s = .done a rest

/-- The parts of a grammar pass the place, as found out by a grammar that is stopped there. Terms and filters
may leave the segment behind the sign of the candidate; the rests of conjunctions and disjunctions pass that
on. -/
structure Watches (v : Place) (g g' : Grammar) : Prop where
  segments : Starts v g.segments g'.segments
  selectors : ∀ s, Watched v False g.selectors g'.selectors s
  selectors_end : ∀ s, EndsIn (· = ']') g.selectors s
  filter : ∀ s, Watched v True g.filter g'.filter s
  unary : ∀ s, Watched v True g.unary g'.unary s
  conjunction : ∀ left s, Watched v True (g.conjunction left) (g'.conjunction left) s
  conjunction_stuck : ∀ left s, v.opens = true → s.dropWhile isBlank = v.text →
    Stuck v True (g.conjunction left s)
  disjunction : ∀ left s, Watched v True (g.disjunction left) (g'.disjunction left) s
  disjunction_stuck : ∀ left s, v.opens = true → s.dropWhile isBlank = v.text →
    Stuck v True (g.disjunction left s)
  arguments : ∀ s, Watched v True g.arguments g'.arguments s

/-! ## Selectors and single segments -/

theorem isPrefixOf_logic (op : LogicOp) {x w : List Char} (h : v.Variant w) :
    op.chars.isPrefixOf (x ++ w) = op.chars.isPrefixOf x :=
  Place.isPrefixOf_append h (by cases op <;> decide) x

theorem lookingAtSign_watched : Watched v loose lookingAtSign lookingAtSign s := by
  have same {x w : List Char} (h : v.Variant w) :
      ((comparison? (x ++ w)).isSome || ['&', '&'].isPrefixOf (x ++ w) || ['|', '|'].isPrefixOf (x ++ w)) =
        ((comparison? x).isSome || ['&', '&'].isPrefixOf x || ['|', '|'].isPrefixOf x) := by
    rw [comparison?_variant h]
    exact congrArg₂ _ (congrArg _ (isPrefixOf_logic .and h)) (isPrefixOf_logic .or h)
  exact Watched.look fun _ _ h => (same h).trans (same Place.Variant.self).symm

theorem sliceStep_watched : Watched v loose sliceStep sliceStep s :=
  Watched.peek_char (by decide) (fun _ _ => Takes.skip_bind readOptionalInt_watched) (Watched.pure _)

theorem indexOrSlice_watched : Watched v loose indexOrSlice indexOrSlice s := by
  refine readOptionalInt_watched.andThen fun start t _ => Watched.skipBlank_bind
    (Watched.peek_char (by decide) (fun v _ => Takes.skip_bind ?_) ?_)
  · exact readOptionalInt_watched.andThen fun stop _ _ => Watched.skipBlank_bind
      (sliceStep_watched.andThen fun step _ _ => Watched.pure _)
  · cases start with
    | none => exact Watched.fail _
    | some i => exact Watched.pure _

theorem member_watched : Watched v loose member member s :=
  Watched.skipBlank_bind (Watched.peek_char (by decide) (fun _ _ => Takes.skip_bind (Watched.pure _))
    (readName_watched.watched.map _))

variable {g g' : Grammar} (hg : Watches v g g')

include hg

theorem selector_watched : Watched v True g.selector g'.selector s := by
  refine Takes.watched (Takes.peek_needs (fun _ => Watched.fail _) fun c t _ => ?_)
  dsimp only
  split
  next quote => exact Takes.of_class isQuote quote (by decide) (readQuoted_watched.watched.map _)
  split
  · exact Takes.skip_bind (Watched.pure _)
  split
  · exact Takes.skip_bind ((hg.filter t).map _)
  split
  next number =>
    exact Takes.of_class (fun c => c == ':' || startsNumber c) (by simpa using number) (by decide)
      indexOrSlice_watched
  · exact Takes.fail _

omit hg in
/-- The place is not where a parenthesis closes. -/
theorem stuck_of_expect {f : Unit → Reader Cause β} (front : s.dropWhile isBlank = v.text) :
    Stuck v loose ((skipBlank >>= fun _ => expect ')' >>= f) s) := by
  have other : v.sign ≠ ')' := Place.sign_ne (by decide)
  refine Stuck.skipBlank_bind front (Stuck.failed (?_ : _ = Reading.failed (.expected ')') v.text))
  simp [expect, bind_apply, Place.text, other]

theorem selectors_watched : Watched v False g.selectorsRule g'.selectorsRule s := by
  refine Watched.skipBlank_bind ((selector_watched hg).bind ?_ fun first t _ => Watched.skipBlank_bind
    (Takes.watched (Takes.peek_needs (fun _ => Watched.fail _) fun c u _ => ?_)))
  · -- Neither sign that may stand behind a selector opens a segment.
    intro _ opens first t front
    have comma := Place.sign_ne_of_opens opens (c := ',') rfl
    have closing := Place.sign_ne_of_opens opens (c := ']') rfl
    refine Stuck.skipBlank_bind front (Stuck.failed (?_ : _ = Reading.failed (.unexpected v.sign) v.text))
    simp [bind_apply, Place.text, comma, closing]
  · dsimp only
    split
    · exact Takes.skip_bind ((hg.selectors u).map _)
    split
    · exact Takes.skip_bind (Watched.pure _)
    · exact Takes.fail _

/-- The closing bracket belongs to the selectors. -/
theorem selectorsRule_end : EndsIn (· = ']') g.selectorsRule s := by
  refine EndsIn.after (skipBlank_trims s) fun _ t _ =>
    EndsIn.after (selector_watched hg).suffix fun first u _ => EndsIn.after (skipBlank_trims u) fun _ w _ =>
      EndsIn.peek_bind (fun _ => EndsIn.fail _) fun c x _ => ?_
  dsimp only
  split
  · exact EndsIn.skip_bind ((hg.selectors_end x).map _)
  split
  next closing => exact EndsIn.skip_pure _ closing
  next => exact EndsIn.fail _

theorem brackets_watched : Watched v False g.brackets g'.brackets s :=
  Watched.skipBlank_bind (Watched.peek_char (by decide) (fun _ _ => Takes.fail _) (hg.selectors _))

theorem descendants_watched : Watched v False g.descendants g'.descendants s := by
  refine Takes.watched (Takes.peek_needs (fun _ => Watched.fail _) fun c t _ => ?_)
  dsimp only
  split
  · exact Takes.skip_bind (Watched.pure _)
  split
  · exact Takes.skip_bind ((brackets_watched hg).map _)
  split
  · exact readName_watched.map _
  · exact Takes.fail _

theorem segment_watched : Watched v False g.segment g'.segment s := by
  refine Watched.lookingAt_if (by decide) (fun found => descendants_watched hg) ?_
  refine Watched.peek_char (by decide) (fun _ _ => Takes.skip_bind (brackets_watched hg)) ?_
  exact (expect_watched _).watched.andThen fun _ _ _ => member_watched

/-! ### The last character of a segment -/

omit hg in
theorem readName_endsIn : EndsIn (isNameChar · = true) readName s := by
  refine EndsIn.peek_bind (fun _ => EndsIn.fail _) fun c t _ => ?_
  dsimp only
  split
  next start => exact (EndsIn.takeWhile (isNameChar_of_isNameStart start)).map _
  next => exact EndsIn.fail _

omit hg in
theorem ne_of_isNameChar (h : isNameChar c = true) : c ≠ '@' := by
  rintro rfl
  exact absurd h (by decide)

omit hg in
theorem member_endsIn : EndsIn (· ≠ '@') member s := by
  refine EndsIn.after (skipBlank_trims s) fun _ t _ => EndsIn.peek_bind (fun _ => ?_) fun c u _ => ?_
  · exact (readName_endsIn.mono fun _ => ne_of_isNameChar).map _
  · split
    next all => exact EndsIn.skip_pure _ (by cases all; decide)
    next => exact (readName_endsIn.mono fun _ => ne_of_isNameChar).map _

theorem brackets_endsIn : EndsIn (· ≠ '@') g.brackets s := by
  refine EndsIn.after (skipBlank_trims s) fun _ t _ => EndsIn.after (Trims.peek t) fun c u _ => ?_
  split
  · exact EndsIn.fail _
  · exact (hg.selectors_end u).mono fun c closing => by
      subst closing
      decide

theorem descendants_endsIn : EndsIn (· ≠ '@') g.descendants s := by
  refine EndsIn.peek_bind (fun _ => EndsIn.fail _) fun c t _ => ?_
  dsimp only
  split
  next all => exact EndsIn.skip_pure _ (by subst all; decide)
  split
  · exact EndsIn.skip_bind ((brackets_endsIn hg).map _)
  split
  · exact (readName_endsIn.mono fun _ => ne_of_isNameChar).map _
  · exact EndsIn.fail _

/-- No segment ends in the sign of the candidate. -/
theorem segment_endsIn : EndsIn (· ≠ '@') g.segment s := by
  refine EndsIn.after (Trims.lookingAt _ s) fun found t _ => ?_
  split
  · exact EndsIn.after (Trims.skipMany 2 t) fun _ u _ => descendants_endsIn hg
  refine EndsIn.after (Trims.peek t) fun c u _ => ?_
  split
  · exact EndsIn.after (Trims.skip u) fun _ w _ => brackets_endsIn hg
  · exact EndsIn.after (expect_trims _ u) fun _ w _ => member_endsIn

/-! ### Segments -/

namespace Starts

variable {p q : Reader Cause β} {F F' : β → Reader Cause γ}

omit hg in
theorem map (f : β → γ) (h : Starts v p q) : Starts v (f <$> p) (f <$> q) where
  suffix s := by
    rw [map_apply, Quoted.rest_map]
    exact h.suffix s
  away s ne := (h.away s ne).map f
  shorter opens b rest read := by
    obtain ⟨a, first, -⟩ := map_eq_done_iff.1 read
    exact h.shorter opens a rest first
  blank opens s front b rest read := by
    obtain ⟨a, first, same⟩ := map_eq_done_iff.1 read
    exact map_eq_done_iff.2 ⟨a, h.blank opens s front a rest first, same⟩

omit hg in
/-- Behind a reader that ends at the place, without the sign of the candidate in front of it. -/
theorem opens_bind {x rest : List Char} {a : β} {b : γ} (opens : v.opens = true)
    (hF : Starts v (F a) (F' a)) (pass : Passes v p q x a v.text) (other : x.getLast? ≠ some '@')
    (read : F a v.text = .done b rest) : Opens v loose (p >>= F) x b rest := by
  refine ⟨opens, hF.shorter opens b rest read, fun _ w hw => ?_, fun last => absurd last other⟩
  obtain ⟨w', either, first⟩ := pass.carried [] rfl w hw
  have front : w'.dropWhile isBlank = v.text := by
    have here := hw.dropWhile_eq opens
    rcases either with rfl | ⟨-, rfl⟩
    · exact here
    · rw [here, Place.dropWhile_text]
  rw [bind_done first]
  exact hF.blank opens w' front b rest read

omit hg in
/-- Behind a reader that takes something off, but not the sign of the candidate at the end. -/
theorem bind (hp : Takes v False p q s) (hF : ∀ a, Starts v (F a) (F' a))
    (last : EndsIn (· ≠ '@') p s) : Takes v False (p >>= F) (q >>= F') s := by
  have moves (here : s = v.text) (b : γ) : (p >>= F) s ≠ .done b s := by
    intro read
    obtain ⟨a, t, first, second⟩ := bind_eq_done_iff.1 read
    have back := (hF a).suffix t
    rw [second] at back
    have whole := (hp.watched.rest_suffix first).eq_of_length_le back.length_le
    exact hp.moves here a (first.trans (congrArg _ whole))
  refine ⟨?_, moves⟩
  by_cases reach : v.opens = true ∧ ∃ a, p s = .done a v.text
  · obtain ⟨opens, a, first⟩ := reach
    obtain ⟨x, rfl⟩ := hp.watched.rest_suffix first
    obtain ⟨c, end', hc⟩ := last.getLast? first
    refine ⟨?_, fun short => ?_, fun y b rest hs read => ?_⟩
    · rw [bind_done first]
      exact ((hF a).suffix v.text).trans (List.suffix_append x v.text)
    · rw [List.length_append] at short
      obtain rfl : x = [] := List.length_eq_zero_iff.1 (by omega)
      cases end'
    · obtain rfl := List.append_cancel_right hs
      rw [bind_done first] at read
      have pass := (hp.watched.split x a v.text rfl first).resolve_right fun opening =>
        Nat.lt_irrefl _ opening.shorter
      exact .inr (opens_bind opens (hF a) pass (by simpa [end'] using hc) read)
  · refine hp.watched.andThen fun a t first => (hF a).away t fun opens here => reach ⟨opens, a, ?_⟩
    rw [first, here]

end Starts

/-- The segments from one of them on. -/
theorem someSegments_watched :
    Takes v False (g.segment >>= fun first => (first :: ·) <$> g.segments)
      (g'.segment >>= fun first => (first :: ·) <$> g'.segments) s := by
  refine Starts.bind ⟨segment_watched hg, fun here a read => ?_⟩ (fun first => hg.segments.map _)
    (segment_endsIn hg)
  obtain ⟨x, c, whole, -⟩ := segment_endsIn hg (s := s) a s read
  have length := congrArg List.length whole
  simp only [List.length_append, List.length_cons] at length
  omega

/-- Where no stop is made. -/
theorem segmentsRule_watched : Watched v False g.segmentsRule g'.segmentsRule s := by
  have same (x w : List Char) (hw : v.Variant w) :
      ((x ++ w).dropWhile isBlank).head? = ((x ++ v.text).dropWhile isBlank).head? := by
    rw [List.dropWhile_append, List.dropWhile_append]
    split
    · obtain ⟨b, t, -, -, front⟩ := hw.exists_blank
      rw [front, Place.dropWhile_text]
      rfl
    next other =>
      cases front : x.dropWhile isBlank with
      | nil => simp [front] at other
      | cons c t => rfl
  have look : Watched v False peekBehindBlank peekBehindBlank s := Watched.look same
  refine look.andThen fun c t _ => ?_
  split
  · exact Watched.skipBlank_bind (someSegments_watched hg).watched
  · exact Watched.pure _

omit hg in
/-- At the place and behind white space in front of it the same segments are read. -/
theorem segmentsRule_front (opens : v.opens = true) (here : s.dropWhile isBlank = v.text) :
    g.segmentsRule s = (g.segment >>= fun first => (first :: ·) <$> g.segments) v.text := by
  rw [segmentsRule_eq, here]
  exact if_pos opens

theorem segmentsRule_shorter (opens : v.opens = true) (here : s.dropWhile isBlank = v.text)
    {a : List Segment} {rest : List Char} (read : g.segmentsRule s = .done a rest) :
    rest.length < v.text.length := by
  rw [segmentsRule_front opens here] at read
  have takes := someSegments_watched hg (s := v.text)
  have ends := takes.watched.rest_suffix read
  rcases Nat.lt_or_ge rest.length v.text.length with shorter | whole
  · exact shorter
  · exact absurd (ends.eq_of_length_le whole ▸ read) (takes.moves rfl a)

/-- Behind white space the sign of the candidate does not stand in front of the place. -/
theorem segmentsRule_opens {x : List Char} (opens : v.opens = true)
    (here : (x ++ v.text).dropWhile isBlank = v.text) {a : List Segment} {rest : List Char}
    (read : g.segmentsRule (x ++ v.text) = .done a rest) : Opens v loose g.segmentsRule x a rest := by
  have blank := Place.blank_of_dropWhile here
  refine ⟨opens, segmentsRule_shorter hg opens here read, fun _ w hw => ?_, fun candidate => ?_⟩
  · have behind : (x ++ w).dropWhile isBlank = v.text := by
      rw [List.dropWhile_append_of_pos blank, hw.dropWhile_eq opens]
    rw [segmentsRule_front opens behind, ← segmentsRule_front opens here, read]
  · exact absurd (blank '@' (List.mem_of_getLast? candidate)) (by decide)

theorem segments_starts : Starts v g.segmentsRule (g'.step.stopAt v.text).segments where
  suffix s := (segmentsRule_watched hg).suffix
  away s ne := by
    by_cases stop : v.opens = true ∧ s.dropWhile isBlank = v.text
    · -- Here the other reader is stopped.
      obtain ⟨opens, here⟩ := stop
      refine ⟨(segmentsRule_watched hg).suffix, fun short => ?_, fun x a rest hs read => ?_⟩
      · have whole := (List.dropWhile_suffix isBlank (l := s)).eq_of_length_le (by rwa [here])
        exact absurd (whole.symm.trans here) (ne opens)
      · subst hs
        exact .inr (segmentsRule_opens hg opens here read)
    · exact (segmentsRule_watched hg).congr rfl (if_neg stop) fun _ _ _ _ => rfl
  shorter opens a rest := segmentsRule_shorter hg opens Place.dropWhile_text
  blank opens s here a rest read := by
    rw [segmentsRule_front opens here, ← segmentsRule_front opens Place.dropWhile_text, read]

/-! ## Terms -/

theorem call_watched : Watched v False g.call g'.call s := by
  refine readFunctionName_watched.andThen fun function t _ => Watched.skipBlank_bind
    (Watched.peek_char (by decide) (fun u _ => Takes.skip_bind (Watched.skipBlank_bind ?_)) (Watched.fail _))
  have close (args : List Argument) (s : List Char) : Watched v False (do
      skipBlank
      expect ')'
      pure (Term.call function args)) (do
      skipBlank
      expect ')'
      pure (Term.call function args)) s :=
    Watched.skipBlank_bind ((expect_watched _).watched.andThen fun _ _ _ => Watched.pure _)
  refine Watched.peek_char (by decide) (fun w _ => ?_) ?_
  · exact Takes.of_class (· == ')') rfl (by decide) (close [] _)
  · exact (hg.arguments _).bind (fun _ _ _ _ => stuck_of_expect) fun args w _ => close args w

/-- Behind the sign of the candidate, if that does not stand right in front of the place. -/
theorem currentTerm_watched (ne : v.opens = true → s ≠ v.text) :
    Watched v False g.currentTerm g'.currentTerm s := by
  refine Watched.peek_if (fun c => c.any opensSegment = true) nofun (fun c blank opens => ?_)
    (fun c t cons opens => ?_) (Watched.pure _)
  · rw [isBlank_of_opensSegment opens] at blank
    cases blank
  · subst cons
    have away (here : c :: t = v.text) : False := by
      obtain ⟨rfl, -⟩ := List.cons.inj here
      exact ne opens here
    exact Takes.of_ne ((hg.segments.away _ fun _ here => away here).map _) away

omit hg in
/-- Behind white space the candidate is not followed by a segment. -/
theorem currentTerm_blank {w : List Char} (hw : v.Variant w) (opens : v.opens = true) (ne : w ≠ v.text) :
    g.currentTerm w = .done .current w := by
  obtain ⟨c, u, rfl, blank⟩ := hw.exists_blank_cons opens ne
  have other : opensSegment c = false := by
    by_contra starts
    rw [isBlank_of_opensSegment (by simpa using starts)] at blank
    cases blank
  simp [currentTerm, bind_apply, other]

/-- The sign of the candidate, with a segment behind it or not. -/
theorem current_takes :
    Takes v True (skip >>= fun _ => g.currentTerm) (skip >>= fun _ => g'.currentTerm) ('@' :: t) := by
  by_cases here : v.opens = true ∧ t = v.text
  · obtain ⟨opens, rfl⟩ := here
    have start : g.currentTerm v.text = (Term.path .current <$> g.segments) v.text := by
      show (if v.opens = true then _ else _ : Reader Cause Term) v.text = _
      rw [if_pos opens]
    have ends : (g.currentTerm v.text).rest <:+ v.text := start ▸ (hg.segments.map _).suffix _
    refine Takes.of_ne ⟨ends.trans (List.suffix_cons _ _), fun short => ?_, fun x a rest hs read => ?_⟩
      fun whole => ?_
    · exact absurd short (Nat.not_succ_le_self _)
    · obtain rfl : ['@'] = x := List.append_cancel_right hs
      refine .inr ⟨opens, ?_, fun other => absurd rfl other, fun _ w hw ne => ?_⟩
      · exact (hg.segments.map _).shorter opens a rest (start.symm.trans read)
      · exact Stuck.done (currentTerm_blank hw opens ne) (hw.dropWhile_eq opens)
    · exact absurd (congrArg List.length whole) (Nat.succ_ne_self _)
  · exact Takes.loosen (Takes.skip_bind (currentTerm_watched hg fun opens same => here ⟨opens, same⟩))

theorem rootTerm_starts : Starts v g.rootTerm g'.rootTerm := by
  rw [rootTerm_eq, rootTerm_eq]
  exact hg.segments.map _

theorem root_takes :
    Takes v False (skip >>= fun _ => g.rootTerm) (skip >>= fun _ => g'.rootTerm) ('$' :: t) :=
  Starts.bind Takes.skip (fun _ => rootTerm_starts hg) fun _ _ read => by
    cases read
    exact ⟨[], '$', rfl, by decide⟩

theorem word_watched : Watched v False g.word g'.word s :=
  readKeyword_watched.andThen fun value t _ => by
    cases value with
    | some value => exact Watched.pure _
    | none => exact call_watched hg

theorem term_watched : Watched v True g.term g'.term s := by
  refine Watched.skipBlank_bind (Takes.watched (Takes.peek_needs (fun _ => Watched.fail _) fun c t _ => ?_))
  dsimp only
  split
  next current =>
    subst current
    exact current_takes hg
  split
  next root =>
    subst root
    exact (root_takes hg).loosen
  split
  next quote => exact Takes.of_class isQuote quote (by decide) (readQuoted_watched.watched.map _)
  split
  next number => exact Takes.of_class startsNumber number (by decide) (readNumber_watched.map _)
  split
  next letter => exact Takes.of_class isSmallLetter letter (by decide) (word_watched hg).loosen
  · exact Takes.fail _

/-! ## Filters -/

omit hg in
theorem comparison?_text : comparison? v.text = none := comparison?_variant (x := []) Place.Variant.self

omit hg in
theorem isPrefixOf_logic_text (op : LogicOp) : op.chars.isPrefixOf v.text = false := by
  rw [← List.nil_append v.text, isPrefixOf_logic op Place.Variant.self]
  cases op <;> rfl

theorem comparison_watched (left : Term) : Watched v True (g.comparison left) (g'.comparison left) s := by
  refine Watched.skipBlank_bind (peekComparison_watched.andThen fun op t _ => ?_)
  cases op with
  | some op => exact (Watched.skipMany _).andThen fun _ _ _ => (term_watched hg).map _
  | none =>
    dsimp only
    cases left.test? with
    | some f => exact Watched.pure _
    | none => exact Watched.fail _

omit hg in
theorem comparison_stuck (left : Term) (front : s.dropWhile isBlank = v.text) :
    Stuck v True (g.comparison left s) := by
  refine Stuck.skipBlank_bind front ?_
  rw [bind_apply]
  simp only [peekComparison, comparison?_text]
  cases left.test? with
  | some f => exact Stuck.done rfl Place.dropWhile_text
  | none => exact Stuck.failed rfl

theorem unary_watched : Watched v True g.unaryRule g'.unaryRule s := by
  refine Watched.skipBlank_bind (Watched.peek_bind ?_ fun _ => .inr fun c blank => ?_)
  · split
    next found =>
      obtain ⟨t, cons⟩ := List.head?_eq_some_iff.1 found
      rw [cons]
      exact (Takes.skip_bind ((hg.unary t).map _)).watched
    split
    next found =>
      obtain ⟨t, cons⟩ := List.head?_eq_some_iff.1 found
      rw [cons]
      refine (Takes.skip_bind ((hg.filter t).bind (fun _ _ _ _ => stuck_of_expect) fun f u _ => ?_)).watched
      exact Watched.skipBlank_bind ((expect_watched _).watched.andThen fun _ _ _ => Watched.pure _)
    · exact (term_watched hg).bind (fun _ _ left _ => comparison_stuck left)
        fun left _ _ => comparison_watched hg left
  · have negation : c ≠ '!' ∧ v.sign ≠ '!' :=
      ⟨ne_of_isBlank blank (by decide), Place.sign_ne (by decide)⟩
    have group : c ≠ '(' ∧ v.sign ≠ '(' :=
      ⟨ne_of_isBlank blank (by decide), Place.sign_ne (by decide)⟩
    simp [negation, group]

theorem conjunction_watched (left : Filter) :
    Watched v True (g.conjunctionRule left) (g'.conjunctionRule left) s := by
  refine Watched.skipBlank_bind (Watched.lookingAt_if (by decide) (fun _ => ?_) (Watched.pure _))
  exact (hg.unary _).bind (fun _ opens right t => hg.conjunction_stuck _ t opens)
    fun right t _ => hg.conjunction _ t

omit hg in
theorem conjunctionRule_stuck (left : Filter) (front : s.dropWhile isBlank = v.text) :
    Stuck v True (g.conjunctionRule left s) := by
  refine Stuck.done (conjunctionRule_stop ?_) ?_
  · rw [front]
    exact isPrefixOf_logic_text .and
  · rw [front, Place.dropWhile_text]

theorem conjunctive_watched : Watched v True g.conjunctive g'.conjunctive s :=
  (unary_watched hg).bind (fun _ _ left _ => conjunctionRule_stuck left)
    fun left _ _ => conjunction_watched hg left

theorem disjunction_watched (left : Filter) :
    Watched v True (g.disjunctionRule left) (g'.disjunctionRule left) s := by
  refine Watched.skipBlank_bind (Watched.lookingAt_if (by decide) (fun _ => ?_) (Watched.pure _))
  exact (conjunctive_watched hg).bind (fun _ opens right t => hg.disjunction_stuck _ t opens)
    fun right t _ => hg.disjunction _ t

omit hg in
theorem disjunctionRule_stuck (left : Filter) (front : s.dropWhile isBlank = v.text) :
    Stuck v True (g.disjunctionRule left s) := by
  refine Stuck.done (disjunctionRule_stop ?_) ?_
  · rw [front]
    exact isPrefixOf_logic_text .or
  · rw [front, Place.dropWhile_text]

theorem filter_watched : Watched v True g.filterRule g'.filterRule s :=
  (conjunctive_watched hg).bind (fun _ _ left _ => disjunctionRule_stuck left)
    fun left _ _ => disjunction_watched hg left

omit hg in
/-- No sign stands at the place, so a term there is an argument. -/
theorem lookingAtSign_stuck {p : Reader Cause Argument} {a : Argument}
    (front : s.dropWhile isBlank = v.text) : Stuck v True ((do
      skipBlank
      if ← lookingAtSign then p else pure a) s) := by
  have and : ['&', '&'].isPrefixOf v.text = false := isPrefixOf_logic_text .and
  have or : ['|', '|'].isPrefixOf v.text = false := isPrefixOf_logic_text .or
  refine Stuck.skipBlank_bind front (Stuck.done (?_ : _ = Reading.done a v.text) Place.dropWhile_text)
  simp [bind_apply, lookingAtSign, comparison?_text, and, or]

theorem argument_watched : Watched v True g.argument g'.argument s := by
  refine Watched.skipBlank_bind (Watched.peek_if (fun c => c = some '!' ∨ c = some '(') (by simp)
    (fun c blank => ?_) (fun c t cons found => ?_) ?_)
  · rintro (⟨⟨⟩⟩ | ⟨⟨⟩⟩) <;> exact absurd blank (by decide)
  · exact Takes.of_class (fun c => c == '!' || c == '(') (by simpa using found) (by decide)
      ((filter_watched hg).map _)
  · refine (term_watched hg).bind (fun _ _ left _ => lookingAtSign_stuck) fun left t _ =>
      Watched.skipBlank_bind (lookingAtSign_watched.andThen fun sign u _ => ?_)
    split
    · exact (comparison_watched hg left).bind
        (fun _ _ test _ front => (conjunctionRule_stuck test front).bind fun _ test _ front =>
          (disjunctionRule_stuck test front).map _)
        fun test _ _ => (conjunction_watched hg test).bind
          (fun _ _ test _ front => (disjunctionRule_stuck test front).map _)
          fun test _ _ => (disjunction_watched hg test).map _
    · exact Watched.pure _

theorem arguments_watched : Watched v True g.argumentsRule g'.argumentsRule s := by
  refine (argument_watched hg).bind (fun _ opens first t front => ?_) fun first t _ =>
    Watched.skipBlank_bind (Watched.peek_char (by decide)
      (fun u _ => Takes.skip_bind ((hg.arguments u).map _)) (Watched.pure _))
  have comma := Place.sign_ne_of_opens opens (c := ',') rfl
  refine Stuck.skipBlank_bind front (Stuck.done (?_ : _ = Reading.done [first] v.text) Place.dropWhile_text)
  simp [bind_apply, Place.text, comma]

/-! ## The grammar -/

theorem Watches.step : Watches v g.step (g'.step.stopAt v.text) where
  segments := segments_starts hg
  selectors _ := selectors_watched hg
  selectors_end _ := selectorsRule_end hg
  filter _ := filter_watched hg
  unary _ := unary_watched hg
  conjunction left _ := conjunction_watched hg left
  conjunction_stuck left _ _ := conjunctionRule_stuck left
  disjunction left _ := disjunction_watched hg left
  disjunction_stuck left _ _ := disjunctionRule_stuck left
  arguments _ := arguments_watched hg

omit hg in
theorem watches_upTo (n : Nat) : Watches v (upTo n) (upToStop v.text n) := by
  induction n with
  | zero =>
    have nothing {α : Type} (s : List Char) :
        Watched v True (fail .unexpectedEnd : Reader Cause α) (fail .unexpectedEnd) s := Watched.fail _
    have stuck {α : Type} (s : List Char) : Stuck v True ((fail .unexpectedEnd : Reader Cause α) s) :=
      Stuck.failed rfl
    exact {
      segments := ⟨List.suffix_refl, fun _ _ => Watched.fail _, nofun, nofun⟩
      selectors := fun _ => Watched.fail _
      selectors_end := fun _ => EndsIn.fail _
      filter := nothing
      unary := nothing
      conjunction := fun _ => nothing
      conjunction_stuck := fun _ s _ _ => stuck s
      disjunction := fun _ => nothing
      disjunction_stuck := fun _ s _ _ => stuck s
      arguments := nothing }
  | succ n ih => exact ih.step

end Grammar

end PathQuery
