import PathQuery.Path.Scan
import PathQuery.Proofs.Cursor
import PathQuery.Proofs.Numeral.Cut
import PathQuery.Proofs.Path.Settled

/-!
# Words under a cursor

The words that a cursor reads are those of the grammar. Where the cursor cuts a word out of the text and
looks up its value afterwards, the grammar has put the value together on the way.

## Main results

* `name_follows`, `quoted_follows` — names.
* `int_follows`, `number_follows` — numbers.
* `keyword?_follows`, `functionName_follows`, `comparison?_follows` — keywords, functions and signs.
-/

namespace PathQuery.Scan

open ReadError (Cause)
open PathQuery.Path (byteCount byteCount_append)
open Cursor Lexeme

variable {s : List Char}

theorem skipBlank_follows (s : List Char) : Follows skipBlank Lexeme.skipBlank s :=
  advanceWhile_follows isBlank s

theorem expect_follows (c : Char) (s : List Char) : Follows (expect c) (Lexeme.expect c) s := by
  refine Follows.peek_bind ?_
  cases s with
  | nil => exact Follows.fail _ _
  | cons d s =>
    dsimp only [List.head?]
    split
    · exact advance_follows _
    · exact Follows.fail _ _

/-! ## Names -/

/-- A run of characters behind one that may be passed over with them. -/
theorem run_follows {p : Char → Bool} {c : Char} (hc : p c = true) (s : List Char) :
    Follows (advance >>= fun _ => advanceWhile p : Cursor Cause Unit)
      ((fun _ => ()) <$> Reader.takeWhile p) (c :: s) :=
  ((advance_follows _).bind fun _ rest _ _ => advanceWhile_follows p rest).congr rfl (by
    simp [Reader.bind_apply, Reading.map, hc])

/-- A run cut out of the text is the run that the grammar takes off. -/
theorem taken_run {run : Cursor Cause Unit} {p : Char → Bool}
    (h : Follows run ((fun _ => ()) <$> Reader.takeWhile p) s) :
    Follows (String.ofList <$> taken run) (String.ofList <$> Reader.takeWhile p) s := by
  rw [← bind_pure_comp, ← bind_pure_comp]
  refine h.taken_bind fun a cut rest whole done => ?_
  have same : a ++ rest = cut ++ rest := by
    simp only [Reader.takeWhile_apply, Reading.done.injEq] at done
    rw [← whole, ← done.1, ← done.2, List.takeWhile_append_dropWhile]
  obtain rfl := List.append_cancel_right same
  exact Follows.pure _ rest

theorem taken_fail {run : Cursor Cause Unit} {e : Cause} {α : Type} (f : List Char → α)
    (h : Follows run (Reader.fail e) s) : Follows (f <$> taken run) (Reader.fail e) s := by
  rw [← bind_pure_comp]
  have none : Follows run ((fun _ => ()) <$> (Reader.fail e : Reader Cause Unit)) s := h.congr rfl rfl
  exact (none.taken_bind (g := fun _ => Reader.fail e) fun _ _ _ _ done => by cases done).congr rfl rfl

theorem name_follows (s : List Char) : Follows name readName s := by
  cases s with
  | nil => exact (taken_fail _ (Follows.peek_bind_left (Follows.fail _ _))).congr rfl rfl
  | cons c s =>
    cases h : isNameStart c with
    | true =>
      have run : Follows nameRun ((fun _ => ()) <$> Reader.takeWhile isNameChar) (c :: s) :=
        Follows.peek_bind_left (by
          simp only [List.head?, h, if_true]
          exact run_follows (isNameChar_of_isNameStart h) s)
      exact (taken_run run).congr rfl (by simp [readName, Reader.bind_apply, h])
    | false =>
      have run : Follows nameRun (Reader.fail .noName) (c :: s) := Follows.peek_bind_left (by
        simp only [List.head?, h, Bool.false_eq_true, if_false]
        exact Follows.fail _ _)
      exact (taken_fail _ run).congr rfl (by simp [readName, Reader.bind_apply, h])

theorem functionName_follows {c : Char} (hc : isSmallLetter c = true) (s : List Char) :
    Follows functionName readFunctionName (c :: s) :=
  taken_run (Follows.peek_bind_left (by
    simp only [List.head?, Option.any_some, hc, if_true]
    exact run_follows (by simp [isFunctionChar, hc]) s))

/-! ## Quoted texts -/

/-- The slice of the next bytes, if it is there. -/
theorem get?_bind {α : Type} {n : Nat} {f : Option (List Char) → Cursor Cause α} {r : Reader Cause α}
    (h : Follows (f ((splitBytes? s n).map Prod.fst)) r s) : Follows (get? n >>= f) r s := by
  have slice (front : List Char) : slice? (front ++ s) (byteCount front) (byteCount front + n) =
      (splitBytes? s n).map Prod.fst := by
    rw [slice?, if_pos (Nat.le_add_right _ _), splitBytes?_append, Nat.add_sub_cancel_left]
    simp only [Option.bind_eq_bind, Option.bind_some]
    cases splitBytes? s n <;> rfl
  exact ⟨h.suffix, fun front bound short => by
    rw [bind_apply, get?, slice]
    exact h.eq front bound short⟩

/-- The grammar takes four characters, and the cursor four bytes; it makes no difference, because digits
have one byte. -/
theorem unit_follows (s : List Char) : Follows unit (Quoted.readUnit .badEscape) s := by
  refine get?_bind ?_
  cases slice : ((splitBytes? s 4).map Prod.fst).bind natOfHex? with
  | some n =>
    obtain ⟨cut, found, number⟩ := Option.bind_eq_some_iff.1 slice
    obtain ⟨⟨_, rest⟩, split, rfl⟩ := Option.map_eq_some_iff.1 found
    obtain ⟨rfl, four⟩ := splitBytes?_eq_some_iff.1 split
    have length := (Quoted.byteCount_of_natOfHex? number).symm.trans four
    have done : Quoted.readUnit Cause.badEscape _ = .done n rest :=
      Quoted.readUnit_done_iff.2 ⟨_, rfl, four, number⟩
    refine ((advanceBy_follows 4 _).bind fun _ rest _ _ => Follows.pure n rest).congr rfl ?_
    rw [done, Reader.bind_apply, Reader.skipMany_apply, List.drop_left' length]
    rfl
  | none =>
    refine (Follows.fail .badEscape s).congr rfl ?_
    cases h : Quoted.readUnit Cause.badEscape s with
    | done n rest =>
      obtain ⟨cut, whole, four, number⟩ := Quoted.readUnit_done_iff.1 h
      rw [splitBytes?_eq_some_iff.2 ⟨whole, four⟩] at slice
      cases slice.symm.trans number
    | failed e rest =>
      obtain ⟨rfl, rfl⟩ := Quoted.readUnit_failed h
      rfl

theorem codePoint_follows (s : List Char) : Follows codePoint (Quoted.readCodePoint .badEscape) s := by
  refine (unit_follows s).bind fun high rest _ _ => ?_
  split
  · refine Follows.peekWord_bind (fun _ => ?_) (Follows.fail _ _)
    refine (advanceBy_follows 2 rest).bind fun _ rest _ _ => (unit_follows rest).bind fun low rest _ _ => ?_
    split
    · exact Follows.pure _ rest
    · exact Follows.fail _ rest
  · split
    · exact Follows.fail _ rest
    · exact Follows.pure _ rest

theorem escape_follows (s : List Char) : Follows escape (Quoted.readEscape dialect) s := by
  refine Follows.peek_bind ?_
  cases head : s.head? with
  | none => exact Follows.fail _ _
  | some c =>
    by_cases hc : c = 'u'
    · subst hc
      exact (advance_follows s).bind fun _ rest _ _ => codePoint_follows rest
    · simp only
      cases dialect.letter? c with
      | none => exact Follows.fail _ _
      | some meant => exact (advance_follows s).bind fun _ rest _ _ => Follows.pure meant rest

/-- A turn of a quoted text as a reader. -/
def readQuotedTurn (quote : Char) (sofar : List Char) : Reader Cause (Turn (List Char) (List Char)) := do
  match ← Reader.peek with
  | some c =>
    if c = quote then
      Reader.skip
      pure (.leave sofar)
    else if c = '\\' then
      Reader.skip
      let meant ← Quoted.readEscape dialect
      pure (.again (sofar ++ [meant]))
    else
      Reader.skip
      pure (.again (sofar ++ [c]))
  | none => Reader.fail .unclosedString

theorem quotedTurn_follows (quote : Char) (sofar s : List Char) :
    Follows (quotedTurn quote sofar) (readQuotedTurn quote sofar) s := by
  refine Follows.peek_bind ?_
  cases s with
  | nil => exact Follows.fail _ _
  | cons c s =>
    dsimp only [List.head?]
    split
    · exact Follows.advance_bind c (Follows.pure _ s)
    split
    · exact Follows.advance_bind c ((escape_follows s).bind fun meant rest _ _ => Follows.pure _ rest)
    · exact Follows.advance_bind c (Follows.pure _ s)

theorem readQuotedTurn_shrinks (quote : Char) (sofar s : List Char) :
    Shrinks (readQuotedTurn quote sofar) s := by
  cases s with
  | nil => exact Shrinks.fail _ _
  | cons c s =>
    refine Shrinks.bind Reader.Trims.peek fun d rest hd => ?_
    obtain ⟨rfl, rfl⟩ : some c = d ∧ c :: s = rest := by simpa using hd
    dsimp only
    split
    · exact Shrinks.skip_bind (List.suffix_refl s)
    split
    · exact Shrinks.skip_bind (((Quoted.readEscape_trims _).bind fun _ => Reader.Trims.pure _) s)
    · exact Shrinks.skip_bind (List.suffix_refl s)

/-- What was read so far stands in front of the rest of the quoted text. -/
def readQuotedLoop (quote : Char) (sofar : List Char) : Reader Cause (List Char) := fun s =>
  (Quoted.readBody dialect quote s).map (sofar ++ ·)

theorem readQuotedLoop_eq (quote : Char) (sofar s : List Char) :
    readQuotedLoop quote sofar s =
      (readQuotedTurn quote sofar >>= Turn.elim (readQuotedLoop quote) pure) s := by
  cases s with
  | nil => simp [readQuotedLoop, readQuotedTurn, Reader.bind_apply, Quoted.readBody, dialect, Reading.map]
  | cons c s =>
    have more (d : Char) (rest : List Char) :
        ((Quoted.readBody dialect quote rest).map (d :: ·)).map (sofar ++ ·) =
          readQuotedLoop quote (sofar ++ [d]) rest := by
      rw [readQuotedLoop]
      cases Quoted.readBody dialect quote rest <;> simp [Reading.map]
    rw [readQuotedLoop, Quoted.readBody_cons, readQuotedTurn, bind_assoc, Reader.bind_apply]
    simp only [Reader.peek_apply, List.head?]
    split
    · simp [Reader.bind_apply, Reading.map, Turn.elim]
    split
    · cases h : Quoted.readEscape dialect s with
      | done meant rest =>
        rw [more]
        simp [Reader.bind_apply, Reading.map, Turn.elim, h]
      | failed e rest => simp [Reader.bind_apply, Reading.map, h]
    · rw [if_pos (show dialect.plain c = true from rfl), more]
      simp [Reader.bind_apply, Reading.map, Turn.elim]

theorem quotedLoop_follows (quote : Char) (sofar s : List Char) :
    Follows (loop (quotedTurn quote) sofar) (readQuotedLoop quote sofar) s :=
  loop_follows (readQuotedLoop quote) (readQuotedLoop_eq quote)
    (fun sofar s _ => quotedTurn_follows quote sofar s) (readQuotedTurn_shrinks quote) sofar (Nat.le_refl _)

theorem quoted_follows (s : List Char) : Follows quoted readQuoted s := by
  refine Follows.peek_bind ?_
  cases s with
  | nil => exact Follows.fail _ _
  | cons c s =>
    dsimp only [List.head?]
    split
    · refine Follows.advance_bind c (Follows.map _ ?_)
      exact (quotedLoop_follows c [] s).congr rfl (by
        simp only [readQuotedLoop, List.nil_append]
        cases Quoted.readBody dialect c s <;> rfl)
    · exact Follows.fail _ _

/-! ## Numbers -/

theorem sign_follows (s : List Char) : Follows sign ((fun _ => ()) <$> Numeral.readSign) s := by
  rw [Numeral.readSign, map_bind]
  refine Follows.peek_bind ?_
  split
  · exact (advance_follows s).congr rfl rfl
  · exact Follows.pure () s

theorem digits_follows (s : List Char) :
    Follows digits ((fun _ => ()) <$> Numeral.readDigits .badNumber) s := by
  rw [Numeral.readDigits, map_bind]
  refine Follows.peek_bind ?_
  cases head : s.head? with
  | none => exact Follows.fail _ s
  | some c =>
    simp only [Option.any_some]
    split
    · exact advanceWhile_follows _ s
    · exact Follows.fail _ s

theorem whole_follows (s : List Char) :
    Follows whole ((fun _ => ()) <$> Numeral.readWhole .badNumber) s := by
  rw [Numeral.readWhole, map_bind]
  refine Follows.peek_bind ?_
  split
  · rw [map_bind]
    refine (advance_follows s).bind fun _ rest _ _ => ?_
    rw [map_bind]
    refine Follows.peek_bind ?_
    cases rest.head? with
    | none => exact Follows.pure () rest
    | some c =>
      simp only [Option.any_some]
      split
      · exact Follows.fail _ rest
      · exact Follows.pure () rest
  · exact digits_follows s

theorem fraction_follows (s : List Char) :
    Follows fraction ((fun _ => ()) <$> Numeral.readFraction .badNumber) s := by
  rw [Numeral.readFraction, map_bind]
  refine Follows.peek_bind ?_
  split
  · rw [map_bind]
    refine (advance_follows s).bind fun _ rest _ _ => ?_
    rw [Functor.map_map]
    exact digits_follows rest
  · exact Follows.pure () s

theorem exponentSign_follows (s : List Char) :
    Follows exponentSign ((fun _ => ()) <$> Numeral.readExponentSign) s := by
  rw [Numeral.readExponentSign, map_bind]
  refine Follows.peek_bind ?_
  cases head : s.head? with
  | none => exact Follows.pure () s
  | some c =>
    by_cases minus : c = '-'
    · subst minus
      exact (advance_follows s).congr rfl rfl
    by_cases plus : c = '+'
    · subst plus
      exact (advance_follows s).congr rfl rfl
    · have none : ¬ (some c = some '+' ∨ some c = some '-') := by simp [minus, plus]
      rw [if_neg none]
      split
      next h => exact absurd (Option.some.inj h) minus
      next h => exact absurd (Option.some.inj h) plus
      next => exact Follows.pure () s

theorem exponent_follows (s : List Char) :
    Follows exponent ((fun _ => ()) <$> Numeral.readExponent .badNumber) s := by
  rw [Numeral.readExponent, map_bind]
  refine Follows.peek_bind ?_
  split
  · rw [map_bind]
    refine (advance_follows s).bind fun _ rest _ _ => ?_
    exact (exponentSign_follows rest).seq fun negative rest _ _ => (digits_follows rest).last
  · exact Follows.pure () s

theorem int_follows (s : List Char) : Follows int readInt s := by
  have run : Follows intRun ((fun _ => ()) <$> Numeral.readInteger .badNumber) s :=
    (sign_follows s).seq fun _ rest _ _ => (whole_follows rest).last
  rw [readInt_eq]
  refine run.taken_bind fun n cut rest whole done => ?_
  rw [whole] at done
  rw [Numeral.ofChars?_of_readInteger done, Option.bind_some]
  cases n.integer?.bind Word.ofInt? with
  | some i => exact Follows.pure i rest
  | none => exact Follows.fail _ rest

theorem number_follows (s : List Char) : Follows number readNumber s := by
  have run : Follows numberRun ((fun _ => ()) <$> Numeral.read .badNumber) s :=
    (sign_follows s).seq fun _ rest _ _ => (whole_follows rest).seq fun _ rest _ _ =>
      (fraction_follows rest).seq fun _ rest _ _ => (exponent_follows rest).last
  refine run.taken_bind fun n cut rest whole done => ?_
  rw [whole] at done
  rw [Numeral.ofChars?_of_read done, Option.bind_some]
  cases numberOf? n with
  | some n => exact Follows.pure _ rest
  | none => exact Follows.fail _ rest

theorem optionalInt_follows (s : List Char) : Follows optionalInt readOptionalInt s := by
  refine (skipBlank_follows s).bind fun _ rest _ _ => Follows.peek_bind ?_
  cases rest.head? with
  | none => exact Follows.pure none rest
  | some c =>
    simp only [Option.any_some]
    split
    · exact (int_follows rest).map some
    · exact Follows.pure none rest

/-! ## Keywords and signs -/

/-- The words are tried one after the other. Each is as long in bytes as in characters, so the cursor looks
at the character behind it. -/
theorem keywordAmong?_follows (words : List (List Char × Json))
    (ascii : ∀ k ∈ words, byteCount k.1 = k.1.length) (s : List Char) :
    Follows (keywordAmong? words) (fun s => match words.find? fun k => startsWord k.1 s with
      | some (word, value) => .done (some value) (s.drop word.length)
      | none => .done none s) s := by
  induction words with
  | nil => exact Follows.pure none s
  | cons k words ih =>
    obtain ⟨word, value⟩ := k
    have others := ih fun k member => ascii k (List.mem_cons_of_mem _ member)
    refine Follows.peekWord_bind_left ?_
    cases front : word.isPrefixOf s with
    | false =>
      refine others.congr rfl ?_
      rw [List.find?_cons_of_neg (by simp [startsWord, front])]
    | true =>
      obtain ⟨t, rfl⟩ := List.isPrefixOf_iff_prefix.1 front
      rw [if_pos rfl]
      refine Follows.restFrom_bind_left ?_
      split
      next longer =>
        refine others.congr rfl ?_
        rw [List.find?_cons_of_neg (by simpa [startsWord] using longer)]
      next ends =>
        rw [ascii (word, value) List.mem_cons_self]
        refine ((advanceBy_follows word.length _).bind fun _ rest _ _ =>
          Follows.pure (some value) rest).congr rfl ?_
        rw [List.find?_cons_of_pos (by simpa [startsWord] using ends)]
        rfl

theorem keyword?_follows (s : List Char) : Follows Scan.keyword? readKeyword s :=
  keywordAmong?_follows keywords (by decide) s

theorem comparisonAmong?_apply (ops : List CompareOp) (front s : List Char) (bound : Nat) :
    comparisonAmong? ops ⟨front ++ s, bound⟩ (byteCount front) =
      some (.ok (ops.find? fun op => op.chars.isPrefixOf s), byteCount front) := by
  induction ops with
  | nil => rfl
  | cons op ops ih =>
    rw [comparisonAmong?, bind_apply, peekWord_apply, List.find?_cons]
    cases op.chars.isPrefixOf s with
    | true => rfl
    | false => exact ih

theorem comparison?_follows (s : List Char) : Follows Scan.comparison? peekComparison s :=
  ⟨List.suffix_refl s, fun front _ _ => by
    rw [Scan.comparison?, comparisonAmong?_apply, ← comparison?_eq]
    exact congrArg some (outcome_done_here front s _).symm⟩

theorem comparison?_bind_left {α : Type} {f : Option CompareOp → Cursor Cause α} {r : Reader Cause α}
    (h : Follows (f (Lexeme.comparison? s)) r s) : Follows (Scan.comparison? >>= f) r s :=
  ⟨h.suffix, fun front bound short => by
    rw [bind_apply, Scan.comparison?, comparisonAmong?_apply, ← comparison?_eq]
    exact h.eq front bound short⟩

/-! ## Slices and members -/

theorem sliceStep_follows (s : List Char) : Follows sliceStep Grammar.sliceStep s := by
  refine Follows.peek_bind ?_
  split
  · exact (advance_follows s).bind fun _ rest _ _ => optionalInt_follows rest
  · exact Follows.pure none s

theorem indexOrSlice_follows (s : List Char) : Follows indexOrSlice Grammar.indexOrSlice s := by
  refine (optionalInt_follows s).bind fun start rest _ _ => (skipBlank_follows rest).bind fun _ rest _ _ =>
    Follows.peek_bind ?_
  split
  · exact (advance_follows rest).bind fun _ rest _ _ => (optionalInt_follows rest).bind fun stop rest _ _ =>
      (skipBlank_follows rest).bind fun _ rest _ _ => (sliceStep_follows rest).bind fun step rest _ _ =>
        Follows.pure _ rest
  · cases start with
    | none => exact Follows.fail _ rest
    | some i => exact Follows.pure _ rest

theorem member_follows (s : List Char) : Follows member Grammar.member s := by
  refine (skipBlank_follows s).bind fun _ rest _ _ => Follows.peek_bind ?_
  split
  · exact (advance_follows rest).bind fun _ rest _ _ => Follows.pure _ rest
  · exact (name_follows rest).map _

end PathQuery.Scan
