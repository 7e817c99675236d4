import PathQuery.Proofs.Path.Settled
import PathQuery.Proofs.Reader.Extends

/-!
# The rules of the grammar in front of a delimiter

An operand that is a text by itself is the same operand in front of a connective or a closing sign. All its
parts are followed rule by rule. The words of a path end at a delimiter as they end with their text, and the
rules that look for the next character find there none that they know.

The exceptions are the rules of connectives and the list of arguments, which go on behind a delimiter. They
stand inside an operand only where a closing sign of the operand itself must come behind them, and in front
of such a sign they are the same as well. So what a rule leaves is asked to begin with a sign that ends the
rule: a comma or a closing sign, or, behind a conjunction, the sign of a disjunction.

## Main definitions

* `Closed`, `EndsRun` — what ends a filter and what ends a conjunction, behind white space.
* `Grammar.Delimited` — the parts of a grammar stay the same in front of a delimiter.

## Main results

* `Lexeme.readNumber_extends`, `Lexeme.readKeyword_extends` and the like — the words of a path.
* `Grammar.term_extends`, `Grammar.unary_extends`, `Grammar.argument_extends` — terms, operands and
  arguments.
* `Grammar.Delimited.step` — from the parts of a grammar to its rules.
* `grammar_unary_append` — an operand is read in front of a delimiter as it is read by itself.
-/

namespace PathQuery

open Reader
open ReadError (Cause)

variable {ε β : Type} {ok : List Char → Prop} {s t : List Char}

/-! ## Quoted texts -/

namespace Quoted

theorem readUnit_extends (bad : ε) : Extends ok (readUnit bad) s := by
  intro n t read _ tail _
  obtain ⟨digits, rfl, four, number⟩ := readUnit_done_iff.1 read
  exact ⟨tail, rfl, readUnit_done_iff.2 ⟨digits, List.append_assoc digits t tail, four, number⟩⟩

theorem readCodePoint_extends (bad : ε) : Extends ok (readCodePoint bad) s := by
  unfold readCodePoint
  refine (readUnit_extends bad).bind fun high t _ => ?_
  split
  · refine Extends.lookingAt_bind (by decide) (fun found => ?_) (Extends.fail _)
    refine Extends.skipMany_bind found.length_le ((readUnit_extends bad).bind fun low u _ => ?_)
    split
    · exact Extends.pure _
    · exact Extends.fail _
  · split
    · exact Extends.fail _
    · exact Extends.pure _

theorem readEscape_extends (d : Dialect ε) : Extends ok (readEscape d) s := by
  unfold readEscape
  refine Extends.peek_needs rfl fun c t _ => ?_
  split
  · exact Extends.skip_bind (readCodePoint_extends _)
  · split
    · exact Extends.skip_bind (Extends.pure _)
    · exact Extends.fail _
  · exact Extends.fail _

/-- The body of a quoted text, step by step. -/
theorem readBody_eq (d : Dialect ε) (quote : Char) : readBody d quote = (do
    match ← peek with
    | some c =>
      if c = quote then
        skip
        pure []
      else if c = '\\' then
        skip
        let meant ← readEscape d
        (meant :: ·) <$> readBody d quote
      else if d.plain c then
        skip
        (c :: ·) <$> readBody d quote
      else fail d.badChar
    | none => fail d.unclosed : Reader ε (List Char)) := by
  funext s
  cases s with
  | nil => rw [readBody]; rfl
  | cons c s =>
    rw [readBody_cons, bind_apply, peek_apply]
    dsimp only [List.head?_cons]
    split
    · rfl
    split
    · refine Eq.trans ?_ (bind_apply (readEscape d) _ s).symm
      cases readEscape d s with
      | done meant rest => exact (map_apply _ _ rest).symm
      | failed cause rest => rfl
    split
    · exact (map_apply _ _ s).symm
    · rfl

theorem readBody_extends (d : Dialect ε) (quote : Char) (s : List Char) :
    Extends ok (readBody d quote : Reader ε _) s := by
  -- An escape may take several characters, so the induction is on the number of those left.
  induction hn : s.length using Nat.strongRecOn generalizing s with
  | _ n ih =>
    rw [readBody_eq]
    refine Extends.peek_needs rfl fun c t cons => ?_
    subst cons
    have shorter {u : List Char} (suffix : u <:+ t) : u.length < n :=
      hn ▸ Nat.lt_succ_of_le suffix.length_le
    dsimp only
    split
    · exact Extends.skip_bind (Extends.pure _)
    split
    · refine Extends.skip_bind ((readEscape_extends d).bind fun meant u read => ?_)
      have suffix := readEscape_trims d t
      rw [read] at suffix
      exact (ih u.length (shorter suffix) u rfl).map _
    split
    · exact Extends.skip_bind ((ih t.length (shorter (List.suffix_refl t)) t rfl).map _)
    · exact Extends.fail _

end Quoted

/-! ## Numerals -/

namespace Numeral

theorem readSign_extends : Extends ok (readSign : Reader ε Bool) s :=
  Extends.peek_char (by decide) (fun _ _ => Extends.skip_bind (Extends.pure _)) (Extends.pure _)

theorem readDigits_extends (bad : ε) : Extends ok (readDigits bad) s := by
  refine Extends.peek_needs rfl fun c t _ => ?_
  dsimp only
  split
  · exact Extends.takeWhile fun _ => isDigit_of_separates
  · exact Extends.fail _

theorem readWhole_extends (bad : ε) : Extends ok (readWhole bad) s := by
  refine Extends.peek_char (by decide) (fun t _ => Extends.skip_bind ?_) (readDigits_extends bad)
  refine Extends.peek_bind (fun _ => Extends.peek_empty (fun c hc => ?_) (Extends.pure _)) fun c u _ => ?_
  · simp only [isDigit_of_separates hc, Bool.false_eq_true, if_false]
  · dsimp only
    split
    · exact Extends.fail _
    · exact Extends.pure _

theorem readFraction_extends (bad : ε) : Extends ok (readFraction bad) s :=
  Extends.peek_char (by decide) (fun _ _ => Extends.skip_bind ((readDigits_extends bad).map _))
    (Extends.pure _)

theorem readExponentSign_extends : Extends ok (readExponentSign : Reader ε Bool) s := by
  refine Extends.peek_bind (fun _ => Extends.peek_empty (fun c hc => ?_) (Extends.pure _)) fun c t _ => ?_
  · have minus : c ≠ '-' := ne_of_separates hc (by decide)
    have plus : c ≠ '+' := ne_of_separates hc (by decide)
    split <;> simp_all
  · split
    · exact Extends.skip_bind (Extends.pure _)
    · exact Extends.skip_bind (Extends.pure _)
    · exact Extends.pure _

theorem readExponent_extends (bad : ε) : Extends ok (readExponent bad) s := by
  refine Extends.peek_if (fun c => c = some 'e' ∨ c = some 'E') (by simp) (fun c hc => ?_) (fun c t _ _ => ?_) (Extends.pure _)
  · have lower : c ≠ 'e' := ne_of_separates hc (by decide)
    have upper : c ≠ 'E' := ne_of_separates hc (by decide)
    simp [lower, upper]
  · exact Extends.skip_bind (readExponentSign_extends.bind fun negative u _ =>
      (readDigits_extends bad).bind fun digits v _ => Extends.pure _)

theorem read_extends (bad : ε) : Extends ok (read bad) s :=
  readSign_extends.bind fun _ _ _ => (readWhole_extends bad).bind fun _ _ _ =>
    (readFraction_extends bad).bind fun _ _ _ => (readExponent_extends bad).bind fun _ _ _ =>
      Extends.pure _

end Numeral

/-! ## Words -/

namespace Lexeme

theorem expect_extends (c : Char) : Extends ok (expect c) s := by
  refine Extends.peek_needs rfl fun d t _ => ?_
  dsimp only
  split
  · exact Extends.skip
  · exact Extends.fail _

theorem readName_extends : Extends ok readName s := by
  refine Extends.peek_needs rfl fun c t _ => ?_
  dsimp only
  split
  · exact (Extends.takeWhile fun _ => isNameChar_of_separates).map _
  · exact Extends.fail _

theorem readQuoted_extends : Extends ok readQuoted s := by
  refine Extends.peek_needs rfl fun c t _ => ?_
  dsimp only
  split
  · exact Extends.skip_bind ((Quoted.readBody_extends _ _ _).map _)
  · exact Extends.fail _

theorem readInt_extends : Extends ok readInt s := by
  refine Numeral.readSign_extends.bind fun negative t _ =>
    (Numeral.readWhole_extends _).bind fun digits u _ => ?_
  split
  · exact Extends.pure _
  · exact Extends.fail _

theorem readOptionalInt_extends : Extends ok readOptionalInt s := by
  refine Extends.skipBlank_bind (Extends.peek_bind
    (fun _ => Extends.peek_empty (fun c hc => ?_) (Extends.pure _)) fun c u _ => ?_)
  · simp only [startsNumber_of_separates hc, Bool.false_eq_true, if_false]
  · dsimp only
    split
    · exact readInt_extends.map _
    · exact Extends.pure _

theorem readNumber_extends : Extends ok readNumber s := by
  refine (Numeral.read_extends _).bind fun n t _ => ?_
  split
  · exact Extends.pure _
  · exact Extends.fail _

theorem readFunctionName_extends : Extends ok readFunctionName s :=
  (Extends.takeWhile fun _ => isFunctionChar_of_separates).map _

/-- A keyword that ends with its text is a whole word in front of a delimiter as well. -/
theorem keyword?_delimits (s : List Char) {tail : List Char} (delimits : Delimits tail) :
    keyword? (s ++ tail) = keyword? s := by
  have letters : (keywords.all fun k => !k.1.any separates) = true := by decide
  refine List.find?_congr fun k member => ?_
  have word : k.1.any separates = false := by simpa using List.all_eq_true.1 letters k member
  rw [startsWord, startsWord, Extends.isPrefixOf_append word s delimits]
  cases found : k.1.isPrefixOf s with
  | false => rfl
  | true =>
    obtain ⟨more, rfl⟩ := List.isPrefixOf_iff_prefix.1 found
    rw [List.append_assoc, List.drop_left, List.drop_left]
    cases more with
    | cons c more => rfl
    | nil =>
      obtain ⟨c, t, rfl, hc⟩ := delimits.exists_cons
      have call : c ≠ '(' := ne_of_separates hc (by decide)
      simp [isNameChar_of_separates hc, call]

theorem readKeyword_extends : Extends ok readKeyword s :=
  Extends.of_append fun _ delimits => Grammar.readKeyword_append (keyword?_delimits s delimits)

theorem comparison?_delimits (s : List Char) {tail : List Char} (delimits : Delimits tail) :
    comparison? (s ++ tail) = comparison? s := by
  have signs (op : CompareOp) : op.chars.any separates = false := by
    cases op <;> decide
  simp only [comparison?_eq, Extends.isPrefixOf_append (signs _) s delimits]

theorem peekComparison_extends : Extends ok peekComparison s :=
  Extends.of_append fun tail delimits => by
    rw [peekComparison, comparison?_delimits s delimits]
    rfl

/-- The sign of a comparison is as long as it says. -/
theorem signLength_le {op : CompareOp} (h : comparison? s = some op) : signLength op ≤ s.length := by
  rw [comparison?_eq] at h
  have starts := List.find?_some h
  have front := List.isPrefixOf_iff_prefix.1 starts
  have length : op.chars.length = signLength op := by cases op <;> rfl
  exact length ▸ front.length_le

end Lexeme

/-! ## What ends a filter -/

/-- A text that starts, behind white space, with a comma or with a closing sign. -/
def Closed (s : List Char) : Prop := Closes (s.dropWhile isBlank)

/-- A text that starts, behind white space, with a comma, a closing sign, or that of a disjunction. -/
def EndsRun (s : List Char) : Prop := Closed s ∨ ['|', '|'].isPrefixOf (s.dropWhile isBlank) = true

theorem Closes.append (h : Closes s) (t : List Char) : Closes (s ++ t) := by
  obtain ⟨c, u, rfl, hc⟩ := h
  exact ⟨c, u ++ t, rfl, hc⟩

theorem dropWhile_twice (s : List Char) :
    (s.dropWhile isBlank).dropWhile isBlank = s.dropWhile isBlank :=
  (Stops.of_dropWhile isBlank s).dropWhile

theorem closed_dropWhile : Closed (s.dropWhile isBlank) ↔ Closed s := by
  rw [Closed, Closed, dropWhile_twice]

theorem endsRun_dropWhile : EndsRun (s.dropWhile isBlank) ↔ EndsRun s := by
  rw [EndsRun, EndsRun, closed_dropWhile, dropWhile_twice]

theorem EndsRun.not_and (h : EndsRun s) (tail : List Char) :
    ['&', '&'].isPrefixOf (s.dropWhile isBlank ++ tail) = false := by
  rcases h with closes | disjunction
  · exact (closes.append tail).not_logic .and
  · obtain ⟨t, front⟩ := List.isPrefixOf_iff_prefix.1 disjunction
    rw [← front]
    rfl

namespace Grammar

open Lexeme

/-! ## Segments and selectors -/

/-- The parts of a grammar stay the same in front of a delimiter, in front of closing signs those that may
go on behind a delimiter. The rest of a disjunction closes only if it began with a sign or closed at once,
and the parts in brackets or parentheses are not empty. -/
structure Delimited (g : Grammar) : Prop where
  segments : ∀ s, Extends Anything g.segments s
  selectors : ∀ s, Extends Anything g.selectors s
  selectors_nil : ∃ cause rest, g.selectors [] = .failed cause rest
  filter : ∀ s, Extends Closed g.filter s
  unary : ∀ s, Extends Anything g.unary s
  conjunction : ∀ left s, Extends EndsRun (g.conjunction left) s
  disjunction : ∀ left s, Extends Closed (g.disjunction left) s
  disjunction_front : ∀ left s f t, g.disjunction left s = .done f t → Closed t → EndsRun s
  arguments : ∀ s, Extends Closed g.arguments s
  arguments_nil : ∃ cause rest, g.arguments [] = .failed cause rest

theorem sliceStep_extends : Extends ok sliceStep s :=
  Extends.peek_char (by decide) (fun _ _ => Extends.skip_bind readOptionalInt_extends) (Extends.pure _)

theorem indexOrSlice_extends : Extends ok indexOrSlice s := by
  refine readOptionalInt_extends.bind fun start t _ => Extends.skipBlank_bind
    (Extends.peek_char (by decide) (fun v _ => Extends.skip_bind ?_) ?_)
  · exact readOptionalInt_extends.bind fun stop _ _ => Extends.skipBlank_bind
      (sliceStep_extends.bind fun step _ _ => Extends.pure _)
  · cases start with
    | none => exact Extends.fail _
    | some i => exact Extends.pure _

theorem member_extends : Extends ok member s :=
  Extends.skipBlank_bind (Extends.peek_char (by decide) (fun _ _ => Extends.skip_bind (Extends.pure _))
    (readName_extends.map _))

variable {g : Grammar} (hg : Delimited g)

include hg

theorem selector_extends : Extends Closed g.selector s := by
  refine Extends.peek_needs rfl fun c t _ => ?_
  dsimp only
  split
  · exact readQuoted_extends.map _
  split
  · exact Extends.skip_bind (Extends.pure _)
  split
  · exact Extends.skip_bind ((hg.filter t).map _)
  split
  · exact indexOrSlice_extends
  · exact Extends.fail _

theorem selectors_extends : Extends ok g.selectorsRule s := by
  refine Extends.skipBlank_bind ((selector_extends hg).bind_of ?_ fun first u _ =>
    Extends.skipBlank_bind (Extends.peek_needs rfl fun c w _ => ?_))
  · intro first t segment u _ read _
    rw [skipBlank_bind, bind_apply, peek_apply] at read
    cases front : t.dropWhile isBlank with
    | nil =>
      rw [front] at read
      cases read
    | cons c v =>
      rw [front] at read
      dsimp only [List.head?_cons] at read
      refine ⟨c, v, front, ?_⟩
      split at read
      next comma => exact .inl comma
      split at read
      next bracket => exact .inr (.inr bracket)
      next => cases read
  · dsimp only
    split
    · exact Extends.skip_bind ((hg.selectors w).of_any.map _)
    split
    · exact Extends.skip_bind (Extends.pure _)
    · exact Extends.fail _

theorem brackets_extends : Extends ok g.brackets s := by
  obtain ⟨cause, rest, failed⟩ := hg.selectors_nil
  refine Extends.skipBlank_bind (Extends.peek_needs failed fun c u _ => ?_)
  split
  · exact Extends.fail _
  · exact (hg.selectors _).of_any

theorem descendants_extends : Extends ok g.descendants s := by
  refine Extends.peek_needs rfl fun c t _ => ?_
  dsimp only
  split
  · exact Extends.skip_bind (Extends.pure _)
  split
  · exact Extends.skip_bind ((brackets_extends hg).map _)
  split
  · exact readName_extends.map _
  · exact Extends.fail _

theorem segment_extends : Extends ok g.segment s := by
  refine Extends.lookingAt_bind (by decide) (fun found => ?_) ?_
  · exact Extends.skipMany_bind found.length_le (descendants_extends hg)
  · exact Extends.peek_char (by decide) (fun _ _ => Extends.skip_bind (brackets_extends hg))
      ((expect_extends _).bind fun _ _ _ => member_extends)

omit hg in
/-- Whether a segment comes next is not changed by a delimiter behind the text. -/
theorem opens_append (s : List Char) {tail : List Char} (delimits : Delimits tail) :
    ((s ++ tail).dropWhile isBlank).head?.any opensSegment =
      (s.dropWhile isBlank).head?.any opensSegment := by
  rw [List.dropWhile_append]
  cases front : s.dropWhile isBlank with
  | cons c t => rfl
  | nil =>
    obtain ⟨c, t, behind, delimiter⟩ := delimits
    simp [behind, opensSegment_of_separates (separates_of_isDelimiter delimiter)]

theorem segments_extends : Extends ok g.segmentsRule s := by
  let opens (s : List Char) : Bool := (s.dropWhile isBlank).head?.any opensSegment
  show Extends ok (do
    if ← (fun s => .done (opens s) s : Reader Cause Bool) then
      skipBlank
      let first ← g.segment
      (first :: ·) <$> g.segments
    else pure []) s
  refine Extends.look_if opens (fun _ => rfl) (fun _ tail => opens_append s) fun _ => ?_
  exact Extends.skipBlank_bind ((segment_extends hg).bind fun first u _ => (hg.segments u).of_any.map _)

/-! ## Terms -/

omit hg in
/-- In front of a closing parenthesis the text is closed. -/
theorem closed_of_expect {f : Unit → Reader Cause β} {b : β} {u : List Char}
    (read : (skipBlank >>= fun _ => expect ')' >>= f) t = .done b u) : Closed t := by
  rw [skipBlank_bind] at read
  cases front : t.dropWhile isBlank with
  | nil =>
    rw [front] at read
    cases read
  | cons c v =>
    refine ⟨c, v, front, .inr (.inl ?_)⟩
    by_contra other
    have failed : expect ')' (c :: v) = .failed (.expected ')') (c :: v) := by
      simp [expect, bind_apply, other]
    rw [front, bind_failed failed] at read
    cases read

theorem call_extends : Extends ok g.call s := by
  obtain ⟨cause, rest, failed⟩ := hg.arguments_nil
  refine readFunctionName_extends.bind fun function t _ => Extends.skipBlank_bind
    (Extends.peek_char (by decide) (fun v _ => Extends.skip_bind ?_) (Extends.fail _))
  have close (args : List Argument) (s : List Char) : Extends ok (do
      skipBlank
      expect ')'
      pure (Term.call function args)) s :=
    Extends.skipBlank_bind ((expect_extends _).bind fun _ _ _ => Extends.pure _)
  refine Extends.skipBlank_bind (Extends.peek_needs (bind_failed failed) fun c x _ => ?_)
  split
  · exact close [] _
  · exact (hg.arguments _).bind_of (fun args _ _ _ _ read _ => closed_of_expect read)
      fun args y _ => close args y

theorem currentTerm_extends : Extends ok g.currentTerm s := by
  refine Extends.peek_if (·.any opensSegment = true) (by simp) (fun c hc => ?_)
    (fun c t cons _ => (hg.segments _).of_any.map _) (Extends.pure _)
  simp [opensSegment_of_separates hc]

theorem rootTerm_extends : Extends ok g.rootTerm s :=
  (hg.segments s).bind fun segments t _ => by
    cases segments <;> exact Extends.pure _

theorem word_extends : Extends ok g.word s :=
  readKeyword_extends.bind fun value t _ => by
    cases value with
    | none => exact call_extends hg
    | some value => exact Extends.pure _

theorem term_extends : Extends ok g.term s := by
  refine Extends.skipBlank_bind (Extends.peek_needs rfl fun c u _ => ?_)
  dsimp only
  split
  · exact Extends.skip_bind (currentTerm_extends hg)
  split
  · exact Extends.skip_bind (rootTerm_extends hg)
  split
  · exact readQuoted_extends.map _
  split
  · exact readNumber_extends.map _
  split
  · exact word_extends hg
  · exact Extends.fail _

/-! ## Filters -/

theorem comparison_extends (left : Term) : Extends ok (g.comparison left) s := by
  refine Extends.skipBlank_bind (peekComparison_extends.bind fun op u read => ?_)
  obtain ⟨rfl, rfl⟩ : comparison? (s.dropWhile isBlank) = op ∧ s.dropWhile isBlank = u := by
    simpa [peekComparison] using read
  split
  next op sign => exact Extends.skipMany_bind (signLength_le sign) ((term_extends hg).map _)
  next =>
    cases left.test? with
    | some f => exact Extends.pure _
    | none => exact Extends.fail _

theorem unary_extends : Extends ok g.unaryRule s := by
  refine Extends.skipBlank_bind (Extends.peek_needs rfl fun c u _ => ?_)
  split
  · exact Extends.skip_bind ((hg.unary u).of_any.map _)
  split
  · exact Extends.skip_bind ((hg.filter u).bind_of (fun f _ _ _ _ read _ => closed_of_expect read)
      fun f v _ => Extends.skipBlank_bind ((expect_extends _).bind fun _ _ _ => Extends.pure _))
  · exact (term_extends hg).bind fun left v _ => comparison_extends hg left

omit hg in
theorem isPrefixOf_append_of_found {word : List Char} (found : word.isPrefixOf s = true) (tail : List Char) :
    word.isPrefixOf (s ++ tail) = true :=
  List.isPrefixOf_iff_prefix.2 ((List.isPrefixOf_iff_prefix.1 found).trans (List.prefix_append s tail))

omit hg in
/-- The rest of a chain goes on behind its sign, or stops in front of what cannot become the sign. -/
theorem chain_extends (word : List Char) {p : Reader Cause β} {b : β}
    (stop : ok (s.dropWhile isBlank) → ∀ tail, word.isPrefixOf (s.dropWhile isBlank ++ tail) = false)
    (go : Extends ok p ((s.dropWhile isBlank).drop word.length)) : Extends ok (do
      skipBlank
      if ← lookingAt word then
        skipMany word.length
        p
      else pure b) s := by
  refine Extends.skipBlank_bind (Extends.look_if word.isPrefixOf (fun _ => rfl) ?_ fun found => ?_)
  · rintro (left | found) tail -
    · have here := stop left []
      rw [List.append_nil] at here
      rw [stop left tail, here]
    · rw [found, isPrefixOf_append_of_found found]
  · exact Extends.skipMany_bind (List.isPrefixOf_iff_prefix.1 found).length_le go

theorem conjunction_extends (left : Filter) : Extends EndsRun (g.conjunctionRule left) s :=
  chain_extends ['&', '&'] (fun ends => (endsRun_dropWhile.1 ends).not_and)
    ((hg.unary _).bind fun _ u _ => hg.conjunction _ u)

theorem conjunctive_extends : Extends EndsRun g.conjunctive s :=
  (unary_extends hg).bind fun left _ _ => conjunction_extends hg left

theorem disjunction_extends (left : Filter) : Extends Closed (g.disjunctionRule left) s :=
  chain_extends ['|', '|']
    (fun closed tail => ((closed_dropWhile.1 closed).append tail).not_logic .or)
    ((conjunctive_extends hg).bind_of (fun _ t f u _ => hg.disjunction_front _ t f u)
      fun _ u _ => hg.disjunction _ u)

omit hg in
/-- The rest of a disjunction ends where it began, or it began with its sign. -/
theorem disjunctionRule_front (left : Filter) (s : List Char) (f : Filter) (t : List Char)
    (read : g.disjunctionRule left s = .done f t) (closed : Closed t) : EndsRun s := by
  cases found : ['|', '|'].isPrefixOf (s.dropWhile isBlank) with
  | true => exact .inr found
  | false =>
    rw [disjunctionRule_stop found] at read
    cases read
    exact .inl (closed_dropWhile.1 closed)

theorem filter_extends : Extends Closed g.filterRule s :=
  (conjunctive_extends hg).bind_of (fun left t f u _ => disjunctionRule_front left t f u)
    fun left _ _ => disjunction_extends hg left

/-! ## Arguments -/

omit hg in
/-- No sign of a filter comes next in a text that closes. -/
theorem not_sign_of_closes (closes : Closes s) :
    ((comparison? s).isSome || ['&', '&'].isPrefixOf s || ['|', '|'].isPrefixOf s) = false := by
  have sign := closes.endsTest.sign
  rw [closes.blank.dropWhile] at sign
  have and : ['&', '&'].isPrefixOf s = false := closes.not_logic .and
  have or : ['|', '|'].isPrefixOf s = false := closes.not_logic .or
  rw [sign, and, or]
  rfl

theorem argument_extends : Extends Closed g.argument s := by
  refine Extends.skipBlank_bind (Extends.peek_needs rfl fun c u _ => ?_)
  split
  · exact (filter_extends hg).map _
  refine (term_extends hg).bind fun left v _ => Extends.skipBlank_bind (Extends.look_if
    (fun s => (comparison? s).isSome || ['&', '&'].isPrefixOf s || ['|', '|'].isPrefixOf s)
    (fun _ => rfl) (fun seen tail delimits => ?_) fun sign => ?_)
  · rcases seen with closed | found
    · have closes : Closes (v.dropWhile isBlank) := closed_dropWhile.1 closed
      rw [not_sign_of_closes closes, not_sign_of_closes (closes.append tail)]
    · rw [found]
      simp only [Bool.or_eq_true] at found ⊢
      rw [comparison?_delimits _ delimits]
      exact found.imp (.imp_right fun and => isPrefixOf_append_of_found and tail)
        fun or => isPrefixOf_append_of_found or tail
  · refine (comparison_extends hg left).bind fun test x _ => (conjunction_extends hg test).bind_of ?_
      fun test y _ => (disjunction_extends hg test).map _
    intro test y whole z _ read closed
    obtain ⟨f, rest, -⟩ := map_eq_done_iff.1 read
    exact disjunctionRule_front test y f z rest closed

theorem arguments_extends : Extends Closed g.argumentsRule s := by
  refine (argument_extends hg).bind_of ?_ fun first t _ => Extends.skipBlank_bind
    (Extends.peek_char (by decide) (fun v _ => Extends.skip_bind ((hg.arguments v).map _)) (Extends.pure _))
  intro first t args u _ read closed
  rw [skipBlank_bind, bind_apply, peek_apply] at read
  dsimp only at read
  split at read
  next comma =>
    cases front : t.dropWhile isBlank with
    | nil =>
      rw [front] at comma
      cases comma
    | cons c v =>
      rw [front] at comma
      cases comma
      exact ⟨',', v, front, .inl rfl⟩
  next =>
    cases read
    exact closed_dropWhile.1 closed

/-! ## The grammar -/

theorem Delimited.step : Delimited g.step where
  segments _ := segments_extends hg
  selectors _ := selectors_extends hg
  selectors_nil := ⟨.unexpectedEnd, [], rfl⟩
  filter _ := filter_extends hg
  unary _ := unary_extends hg
  conjunction left _ := conjunction_extends hg left
  disjunction left _ := disjunction_extends hg left
  disjunction_front := disjunctionRule_front
  arguments _ := arguments_extends hg
  arguments_nil := ⟨.unexpectedEnd, [], rfl⟩

omit hg in
theorem delimited_upTo (n : Nat) : Delimited (upTo n) := by
  induction n with
  | zero =>
    exact {
      segments := fun _ => Extends.fail _
      selectors := fun _ => Extends.fail _
      selectors_nil := ⟨.unexpectedEnd, [], rfl⟩
      filter := fun _ => Extends.fail _
      unary := fun _ => Extends.fail _
      conjunction := fun _ _ => Extends.fail _
      disjunction := fun _ _ => Extends.fail _
      disjunction_front := fun _ _ _ _ read => by cases read
      arguments := fun _ => Extends.fail _
      arguments_nil := ⟨.unexpectedEnd, [], rfl⟩ }
  | succ n ih => exact ih.step

end Grammar

open Grammar in
/-- An operand that is a text by itself is read in front of a delimiter as it is read by itself. White space
in front of the delimiter may be passed over. -/
theorem grammar_unary_append {u tail : List Char} {f : Filter} (read : grammar.unary u = .done f [])
    (delimits : Delimits tail) : ∃ tail', tail'.dropWhile isBlank = tail.dropWhile isBlank ∧
      grammar.unary (u ++ tail) = .done f tail' := by
  -- On two texts the grammar reads as one that is deep enough for both.
  have alike := grammar_alikeBelow ((u ++ tail).length + 1)
  have short : u.length < (u ++ tail).length + 1 := by
    rw [List.length_append]
    omega
  rw [(alike.unary u short).eq] at read
  rw [(alike.unary (u ++ tail) (Nat.lt_succ_self _)).eq]
  exact (delimited_upTo _).unary u f [] read trivial tail delimits

end PathQuery
