import PathQuery.Proofs.Double.Shortest
import PathQuery.Proofs.Path.Selector

/-!
# Terms that are written and read

A term is told by its first character: the signs of the two anchors, a quote, the front of a number, or a
small letter. Behind a term stands a text that ends it, the same for all terms. A path as a term is read
as its segments are, and a call as its arguments are. Arrays and objects are written like the literals that
they are, and no term is read there.

## Main definitions

* `opensTerm` — the characters that the text of a term starts with.
* `SegmentsRead`, `Term.Reads`, `ArgumentsRead` — segments, a term and arguments are read as what they are
  understood as.

## Main results

* `segmentsRead_nil`, `segmentsRead_cons` — segments are read if their selectors are.
* `Term.reads_path`, `Term.reads_call`, `Term.reads_literal` — terms.
-/

namespace PathQuery

open Lexeme Reader Grammar

variable {sure : Prop} {rest : List Char}

/-! ## Segments -/

/-- Segments are read in front of a text that ends them. -/
def SegmentsRead (sure : Prop) (segments : List Segment) : Prop :=
  ∀ rest, Ends rest →
    (grammar.segments (segmentsChars segments ++ rest)).Agrees sure (.done (heardSegments segments) rest)

/-- Where no segment is opened, behind white space, there are none, and nothing is consumed. -/
theorem segments_none (h : Stops opensSegment (rest.dropWhile isBlank)) :
    grammar.segments rest = .done [] rest := by
  have stop : (rest.dropWhile isBlank).head?.any opensSegment = false := by
    cases hc : (rest.dropWhile isBlank).head? with
    | none => rfl
    | some c => exact h c hc
  rw [grammar_segments]
  simp [segmentsRule, peekBehindBlank, bind_apply, stop]

/-- Where a segment is opened, it is followed by the others. -/
theorem segments_some {c : Char} {s : List Char} (opens : opensSegment c = true) :
    grammar.segments (c :: s) =
      (grammar.segment >>= fun first => (first :: ·) <$> grammar.segments) (c :: s) := by
  have blank := dropWhile_of_not_blank (s := s) (isBlank_of_opensSegment opens)
  conv => lhs; rw [grammar_segments]
  simp [segmentsRule, peekBehindBlank, bind_apply, skipBlank, blank, opens]

theorem segmentsRead_nil : SegmentsRead sure [] := fun _ ends => .of_eq (segments_none ends.path)

theorem segmentsRead_cons {s : Segment} {more : List Segment}
    (shape : sure → Shape.readable.segment s = true) (spoken : ∀ t ∈ s, t.Spoken sure)
    (others : SegmentsRead sure more) : SegmentsRead sure (s :: more) := by
  intro rest ends
  -- Behind the first segment stands a sign of the next one, or the end.
  have behind : Stops isNameChar (segmentsChars more ++ rest) := by
    cases more with
    | nil => exact ends.name
    | cons u more =>
      obtain ⟨c, cs, hc, opens⟩ := segment_head u
      have chars : segmentsChars (u :: more) = u.chars ++ segmentsChars more := rfl
      rw [chars, hc]
      exact Stops.cons (isNameChar_of_opensSegment opens)
  have first := segment_chars shape spoken behind
  obtain ⟨c, cs, hc, opens⟩ := segment_head s
  have chars : segmentsChars (s :: more) ++ rest = s.chars ++ (segmentsChars more ++ rest) :=
    List.append_assoc _ _ _
  rw [chars, heardSegments_cons]
  rw [hc] at first ⊢
  rw [List.cons_append, segments_some opens]
  exact first.bind.trans ((others rest ends).map (s.map Selector.heard :: ·))

/-! ## Terms -/

/-- The characters that the text of a term starts with. An array and an object are not read as terms. -/
def opensTerm (c : Char) : Bool := startsTerm c || c == '[' || c == '\x7b'

/-- What the text of a term starts with is neither white space nor a sign of a filter or of a call. -/
theorem opensTerm_plain {c : Char} (h : opensTerm c = true) :
    isBlank c = false ∧ c ≠ '!' ∧ c ≠ '(' ∧ c ≠ ')' := by
  simp only [opensTerm, Bool.or_eq_true, beq_iff_eq] at h
  rcases h with (h | rfl) | rfl
  · obtain ⟨blank, negation, parenthesis⟩ := startsTerm_plain h
    exact ⟨blank, negation, parenthesis, (startsArgument_plain (by simp [startsArgument, h])).2⟩
  · decide
  · decide

/-- In front of a text that ends it a term is read as what it is understood as. -/
structure Term.Reads (sure : Prop) (t : Term) : Prop where
  front : ∃ c cs, t.chars = c :: cs ∧ opensTerm c = true
  read : ∀ rest, Ends rest → (grammar.term (t.chars ++ rest)).Agrees sure (.done t.heard rest)

/-- In front of the parenthesis that closes the call arguments are read as what they are understood as.
They do not start with such a parenthesis. -/
structure ArgumentsRead (sure : Prop) (args : List Argument) : Prop where
  front : args ≠ [] → ∃ c cs, argumentsChars args = c :: cs ∧ isBlank c = false ∧ c ≠ ')'
  read : args ≠ [] → ∀ rest, (grammar.arguments (argumentsChars args ++ ')' :: rest)).Agrees sure
    (.done (heardArguments args) (')' :: rest))

namespace Term

/-- White space in front of a term is passed over. -/
theorem term_blank (s : List Char) : grammar.term (' ' :: s) = grammar.term s := by
  rw [term, skipBlank_bind, skipBlank_bind, dropWhile_blank]

theorem term_dropWhile (s : List Char) : grammar.term (s.dropWhile isBlank) = grammar.term s := by
  rw [term, skipBlank_bind, skipBlank_bind, (Stops.of_dropWhile isBlank s).dropWhile]

theorem currentTerm_segments {segments : List Segment} (reads : SegmentsRead sure segments)
    (ends : Ends rest) :
    (grammar.currentTerm (segmentsChars segments ++ rest)).Agrees sure
      (.done (ofPath .current (heardSegments segments)) rest) := by
  cases segments with
  | nil =>
    have stop : rest.head?.any opensSegment = false := by
      cases hc : rest.head? with
      | none => rfl
      | some c => exact ends.opens c hc
    show (grammar.currentTerm rest).Agrees sure (.done .current rest)
    exact .of_eq (by simp [currentTerm, bind_apply, stop])
  | cons s more =>
    have read := (reads rest ends).map (Term.path .current)
    obtain ⟨c, cs, hc, opens⟩ := segment_head s
    have chars : segmentsChars (s :: more) ++ rest = c :: (cs ++ segmentsChars more ++ rest) := by
      show s.chars ++ segmentsChars more ++ rest = _
      rw [hc]
      rfl
    rw [chars] at read ⊢
    simp only [currentTerm, bind_apply, peek_apply, List.head?_cons, Option.any_some, opens, if_true]
    exact read

theorem rootTerm_segments {segments : List Segment} (reads : SegmentsRead sure segments)
    (ends : Ends rest) :
    (grammar.rootTerm (segmentsChars segments ++ rest)).Agrees sure
      (.done (ofPath .root (heardSegments segments)) rest) := by
  refine (reads rest ends).bind.trans (.of_eq ?_)
  cases segments <;> rfl

/-- The characters of a path are those of a term, and of a test. -/
theorem term_path (anchor : Anchor) {segments : List Segment} (reads : SegmentsRead sure segments)
    (ends : Ends rest) :
    (grammar.term (anchor.char :: segmentsChars segments ++ rest)).Agrees sure
      (.done (ofPath anchor (heardSegments segments)) rest) := by
  cases anchor with
  | current => exact currentTerm_segments reads ends
  | root => exact rootTerm_segments reads ends

theorem opensTerm_anchor (anchor : Anchor) : opensTerm anchor.char = true := by cases anchor <;> rfl

theorem reads_current : Reads sure .current where
  front := ⟨'@', [], rfl, rfl⟩
  read rest ends := by
    have read : SegmentsRead sure [] := segmentsRead_nil
    have term := term_path .current read ends
    rw [segmentsChars] at term
    exact term

theorem reads_root : Reads sure .root where
  front := ⟨'$', [], rfl, rfl⟩
  read rest ends := by
    have read : SegmentsRead sure [] := segmentsRead_nil
    have term := term_path .root read ends
    rw [segmentsChars] at term
    exact term

theorem reads_path (anchor : Anchor) {segments : List Segment} (reads : SegmentsRead sure segments) :
    Reads sure (.path anchor segments) :=
  ⟨⟨_, _, rfl, opensTerm_anchor anchor⟩, fun _ ends => term_path anchor reads ends⟩

/-! ## Literals -/

/-- A word that starts with a small letter is a keyword or the front of a call. -/
theorem term_word {c : Char} {s : List Char} (hc : isSmallLetter c = true) :
    grammar.term (c :: s) = grammar.word (c :: s) := by
  have plain := of_ascii (p := isSmallLetter)
    (q := fun c => !isBlank c && c != '@' && c != '$' && !isQuote c && !startsNumber c)
    (by decide +kernel) (toNat_lt_of_isSmallLetter hc) hc
  simp only [Bool.and_eq_true, Bool.not_eq_true', bne_iff_ne] at plain
  obtain ⟨⟨⟨⟨blank, current⟩, root⟩, quote⟩, number⟩ := plain
  rw [term, skipBlank_bind, dropWhile_of_not_blank blank]
  simp [bind_apply, current, root, quote, number, hc]

/-- What starts a number is a literal. -/
theorem term_number {c : Char} {s : List Char} (hc : startsNumber c = true) :
    grammar.term (c :: s) = (Term.literal <$> readNumber) (c :: s) := by
  have plain := of_ascii (p := startsNumber)
    (q := fun c => !isBlank c && c != '@' && c != '$' && !isQuote c)
    (by decide) (toNat_lt_of_startsNumber hc) hc
  simp only [Bool.and_eq_true, Bool.not_eq_true', bne_iff_ne] at plain
  obtain ⟨⟨⟨blank, current⟩, root⟩, quote⟩ := plain
  rw [term, skipBlank_bind, dropWhile_of_not_blank blank]
  simp [bind_apply, current, root, quote, hc]

theorem term_keyword {word : List Char} {value : Json} (hw : (word, value) ∈ keywords)
    (ends : Ends rest) : grammar.term (word ++ rest) = .done (.literal value) rest := by
  have letter : ∃ c cs, word = c :: cs ∧ isSmallLetter c = true := by
    have all : ∀ k ∈ keywords, k.1.head?.any isSmallLetter = true := by decide
    have letter := all _ hw
    cases word with
    | nil => cases letter
    | cons c word => exact ⟨c, word, rfl, letter⟩
  have keyword := readKeyword_append hw ends.word
  obtain ⟨c, cs, rfl, letter⟩ := letter
  rw [List.cons_append, term_word letter, word, ← List.cons_append, bind_done keyword]
  rfl

/-- The digits of a finite double start with a sign or a digit. -/
theorem realChars_head {x : Float} (hx : x.isFinite = true) :
    ∃ c cs, Number.realChars x = c :: cs ∧ startsNumber c = true := by
  have proper : (Number.realNumeral x).Proper :=
    Decimal.Layout.numeral_proper _ _ Number.writtenDecimal_zero
  rw [Number.realChars_eq_chars hx, Numeral.chars]
  cases (Number.realNumeral x).negative with
  | true => exact ⟨'-', _, rfl, rfl⟩
  | false =>
    obtain ⟨c, cs, hc, digit⟩ := proper.whole.exists_cons
    rw [hc]
    exact ⟨c, _, rfl, by simp [startsNumber, digit]⟩

theorem reads_keyword {word : List Char} {value : Json} (hw : (word, value) ∈ keywords)
    (chars : value.chars = word) (heard : value.asRead = value) : Reads sure (.literal value) where
  front := by
    have all : ∀ k ∈ keywords, k.1.head?.any opensTerm = true := by decide
    have opens := all _ hw
    show ∃ c cs, value.chars = c :: cs ∧ opensTerm c = true
    rw [chars]
    cases word with
    | nil => cases opens
    | cons c word => exact ⟨c, word, rfl, opens⟩
  read rest ends := by
    show (grammar.term (value.chars ++ rest)).Agrees sure (.done (.literal value.asRead) rest)
    rw [chars, heard]
    exact .of_eq (term_keyword hw ends)

/-- A number is read as a literal if its characters start one, and are read as a number. -/
theorem reads_number {n : Number} (head : ∃ c cs, n.chars = c :: cs ∧ startsNumber c = true)
    (read : ∀ rest, Stops Numeral.follows rest →
      (readNumber (n.chars ++ rest)).Agrees sure (.done (.number n.asRead) rest)) :
    Reads sure (.literal (.number n)) := by
  obtain ⟨c, cs, hc, starts⟩ := head
  refine ⟨⟨c, cs, hc, by simp [opensTerm, startsTerm, starts]⟩, fun rest ends => ?_⟩
  have number := (read rest ends.number).map Term.literal
  show (grammar.term (n.chars ++ rest)).Agrees sure _
  rw [hc] at number ⊢
  rw [List.cons_append, term_number starts]
  exact number

theorem reads_integer {n : Int} (word : sure → (Word.ofInt? n).isSome = true) :
    Reads sure (.literal (.number (.integer n))) := by
  refine reads_number (startsNumber_head n) fun rest stops => ?_
  have read : readNumber (Number.chars (.integer n) ++ rest) = _ := readNumber_intChars n stops
  rw [read, numberOf?, Numeral.integer?_ofInt]
  dsimp only
  split
  next isWord => exact .of_eq (by rw [Number.asRead, if_pos isWord]; rfl)
  next noWord =>
    split
    · exact .of_eq (by rw [Number.asRead, if_neg noWord]; rfl)
    · exact .of_failed (fun h => noWord (word h)) rfl

theorem reads_real {x : Float} (finite : x.isFinite = true) :
    Reads sure (.literal (.number (.real x))) :=
  reads_number (realChars_head finite) fun _ stops =>
    .of_eq (readNumber_realChars finite (Number.readsBack_of_isFinite finite) stops)

/-- A bracket or a brace starts no term. -/
theorem reads_nothing {value : Json} {c : Char} {cs : List Char} (unsure : ¬ sure)
    (chars : value.chars = c :: cs) (hc : c = '[' ∨ c = '\x7b') : Reads sure (.literal value) := by
  refine ⟨⟨c, cs, chars, by rcases hc with rfl | rfl <;> rfl⟩, fun rest _ => ?_⟩
  show (grammar.term (value.chars ++ rest)).Agrees sure _
  rw [chars]
  have failed : grammar.term (c :: cs ++ rest) = .failed .noTerm (c :: (cs ++ rest)) := by
    rcases hc with rfl | rfl
    · rw [List.cons_append, term, skipBlank_bind, dropWhile_of_not_blank (by decide)]
      rfl
    · rw [List.cons_append, term, skipBlank_bind, dropWhile_of_not_blank (by decide)]
      rfl
  exact .of_failed unsure failed

theorem reads_literal {value : Json} (shape : sure → value.isLiteral = true)
    (finite : ∀ x, value = .number (.real x) → x.isFinite = true) :
    Reads sure (.literal value) := by
  cases value with
  | null => exact reads_keyword (.tail _ (.tail _ (.head _))) rfl rfl
  | bool b =>
    cases b with
    | true => exact reads_keyword (.head _) rfl rfl
    | false => exact reads_keyword (.tail _ (.head _)) rfl rfl
  | string text =>
    refine ⟨⟨'"', _, rfl, by decide⟩, fun rest _ => .of_eq ?_⟩
    have quoted := map_done (fun s => Term.literal (.string s))
      (@readQuoted_encode '"' rfl text.toList rest)
    rw [String.ofList_toList] at quoted
    exact quoted
  | number n =>
    cases n with
    | integer n => exact reads_integer shape
    | real x => exact reads_real (finite x rfl)
  | array items =>
    have unsure : ¬ sure := fun h => Bool.noConfusion (shape h)
    cases items with
    | nil => exact reads_nothing unsure rfl (.inl rfl)
    | cons v items => exact reads_nothing unsure rfl (.inl rfl)
  | object members =>
    have unsure : ¬ sure := fun h => Bool.noConfusion (shape h)
    cases members with
    | nil => exact reads_nothing unsure rfl (.inr rfl)
    | cons m members => exact reads_nothing unsure rfl (.inr rfl)

/-! ## Calls -/

/-- White space in front of arguments is passed over. -/
theorem arguments_dropWhile (s : List Char) :
    grammar.arguments (s.dropWhile isBlank) = grammar.arguments s := by
  rw [grammar_arguments, argumentsRule, bind_apply, bind_apply, argument, skipBlank_bind,
    skipBlank_bind, (Stops.of_dropWhile isBlank s).dropWhile]

/-- The characters of a call are those of a term, and of a test. -/
theorem term_call {function : String} {args : List Argument}
    (name : isFunctionName function.toList = true) (reads : ArgumentsRead sure args) (rest : List Char) :
    (grammar.term (function.toList ++ '(' :: (argumentsChars args ++ [')']) ++ rest)).Agrees sure
      (.done (.call function (heardArguments args)) rest) := by
  obtain ⟨c, cs, hc, letter, chars⟩ := isFunctionName_chars name
  have text : function.toList ++ '(' :: (argumentsChars args ++ [')']) ++ rest =
      function.toList ++ '(' :: (argumentsChars args ++ ')' :: rest) := by simp
  have word : grammar.term (function.toList ++ '(' :: (argumentsChars args ++ ')' :: rest)) =
      grammar.word (function.toList ++ '(' :: (argumentsChars args ++ ')' :: rest)) := by
    rw [hc]
    exact term_word letter
  have keyword := readKeyword_call (s := argumentsChars args ++ ')' :: rest)
    fun d hd => isNameChar_of_isFunctionChar (chars d hd)
  have read := readFunctionName_append (s := argumentsChars args ++ ')' :: rest) chars
  rw [text, word, Grammar.word, bind_done keyword]
  show (grammar.call _).Agrees sure _
  cases args with
  | nil =>
    rw [Grammar.call, bind_done read, String.ofList_toList]
    exact .of_eq rfl
  | cons a more =>
    obtain ⟨d, ds, hd, blank, other⟩ := reads.front (List.cons_ne_nil a more)
    have arguments := reads.read (List.cons_ne_nil a more) rest
    have close : grammar.call (function.toList ++ '(' :: (argumentsChars (a :: more) ++ ')' :: rest)) =
        (grammar.arguments >>= fun args => skipBlank >>= fun _ => expect ')' >>= fun _ =>
          pure (call function args)) (argumentsChars (a :: more) ++ ')' :: rest) := by
      have skipped := dropWhile_of_not_blank (s := ds ++ ')' :: rest) blank
      have other : ¬ some d = some ')' := fun h => other (Option.some.inj h)
      rw [Grammar.call, bind_done read, String.ofList_toList, skipBlank_bind,
        dropWhile_of_not_blank (by decide), hd, List.cons_append]
      simp only [bind_apply, peek_apply, List.head?_cons, if_true, skip_apply, List.tail_cons,
        skipBlank, skipWhile_apply, skipped, other, if_false]
    rw [close]
    exact arguments.bind.trans (.of_eq rfl)

theorem reads_call {function : String} {args : List Argument}
    (name : isFunctionName function.toList = true) (reads : ArgumentsRead sure args) :
    Reads sure (.call function args) := by
  refine ⟨?_, fun rest _ => term_call name reads rest⟩
  obtain ⟨c, cs, hc, letter, -⟩ := isFunctionName_chars name
  refine ⟨c, cs ++ '(' :: (argumentsChars args ++ [')']), ?_, by simp [opensTerm, startsTerm, letter]⟩
  rw [chars, hc]
  rfl

end Term

end PathQuery
