import PathQuery.Proofs.Numeral.Cut
import PathQuery.Proofs.Numeral.Form
import PathQuery.Proofs.Reader.Blames

/-!
# Numerals are the longest ones

The reader of numerals takes parts off the text for as long as it can. What it takes is a spelling of the
numeral that it gives, and what it leaves goes on with none of its parts. Both together determine the
outcome: a numeral is read exactly if the text starts with one of its spellings and ends it there.

From this it follows that no longer spelling of a numeral starts the text. Such a spelling would itself be a
text that is read to its end; but the reader would stop in it where it stops in the whole text, because it
sees the same next character. The converse needs care: behind the longest spelling a part of a numeral may
have begun that is not finished, and a zero may stand in front of other digits.

## Main definitions

* `Numeral.IsLongest` — the longest beginning of a text that a regular expression matches.
* `Numeral.Stands`, `Numeral.StandsAsInteger` — a numeral, or an integer, at the front of a text.

## Main results

* `longest_of_reads` — what is read is the longest of all that can be read, for any reader of this kind.
* `Numeral.read_eq_done_iff` — what is read is a spelling that ends where reading stops.
* `Numeral.Spells.append_digit` — another digit makes a longer spelling, except behind a whole part of zero.
* `Numeral.read_eq_done_iff_stands`, `Numeral.readInteger_eq_done_iff_stands` — a numeral is read exactly
  where it stands.
-/

namespace PathQuery

/-! ## Readers that take the longest spelling -/

/-- If a reader takes off what is spelt and ends before the rest of the text, it takes off the longest
beginning of the text that is spelt. -/
theorem longest_of_reads {ε α : Type} {p : Reader ε α} {Spelt Ends : α → List Char → Prop}
    (reads : ∀ s a t, p s = .done a t ↔ ∃ u, s = u ++ t ∧ Spelt a u ∧ Ends a t)
    (ends : ∀ a, Ends a []) (begins : ∀ a w t, Ends a (w ++ t) → Ends a w) {a : α} {u t : List Char}
    (spelt : Spelt a u) (ended : Ends a t) {b : α} {v : List Char} (other : Spelt b v)
    (front : v <+: u ++ t) : v.length ≤ u.length := by
  by_contra longer
  obtain ⟨w, rfl⟩ : u <+: v :=
    List.prefix_of_prefix_length_le (List.prefix_append u t) front (by omega)
  obtain ⟨t', rfl⟩ : w <+: t := (List.prefix_append_right_inj u).1 front
  -- By itself the longer one is read to its end, but also only as far as in the whole text.
  have whole : p (u ++ w) = .done b [] := (reads _ _ _).2 ⟨u ++ w, by simp, other, ends b⟩
  have part : p (u ++ w) = .done a w := (reads _ _ _).2 ⟨u, rfl, spelt, begins a w t' ended⟩
  rw [part] at whole
  cases whole
  exact longer (by simp)

namespace Numeral

open Reader

variable {ε : Type} {bad : ε} {s t : List Char}

/-! ## What the readers of parts take off -/

theorem readSign_eq_done {negative : Bool}
    (h : (readSign : Reader ε Bool) s = .done negative t) : s = signChars negative ++ t := by
  rw [readSign, bind_done (peek_apply s)] at h
  split at h
  next minus =>
    obtain ⟨c, rfl⟩ := List.head?_eq_some_iff.1 minus
    cases h
    rfl
  next =>
    cases h
    rfl

theorem readDigits_eq_done {ds : List Char} (h : readDigits bad s = .done ds t) :
    s = ds ++ t ∧ IsRun ds ∧ Stops Char.isDigit t := by
  rw [readDigits, bind_done (peek_apply s)] at h
  cases s with
  | nil => cases h
  | cons c s =>
    simp only [List.head?_cons] at h
    split at h
    next digit =>
      obtain ⟨rfl, rfl⟩ : (c :: s).takeWhile Char.isDigit = ds ∧ (c :: s).dropWhile Char.isDigit = t := by
        simpa using h
      refine ⟨List.takeWhile_append_dropWhile.symm, ⟨?_, ?_⟩, Stops.of_dropWhile _ _⟩
      · rw [List.takeWhile_cons_of_pos digit]
        exact List.cons_ne_nil _ _
      · exact fun d hd => List.mem_takeWhile_imp hd
    next => cases h

theorem readWhole_eq_done {ds : List Char} (h : readWhole bad s = .done ds t) :
    s = ds ++ t ∧ IsWhole ds ∧ Stops Char.isDigit t := by
  rw [readWhole, bind_done (peek_apply s)] at h
  split at h
  next zero =>
    obtain ⟨rest, rfl⟩ := List.head?_eq_some_iff.1 zero
    rw [bind_done (skip_apply _), bind_done (peek_apply _), List.tail_cons] at h
    cases rest with
    | nil =>
      cases h
      exact ⟨rfl, isWhole_zero, Stops.nil⟩
    | cons c rest =>
      simp only [List.head?_cons] at h
      split at h
      next => cases h
      next digit =>
        cases h
        exact ⟨rfl, isWhole_zero, Stops.cons (Bool.eq_false_iff.2 digit)⟩
  next zero =>
    obtain ⟨rfl, run, stops⟩ := readDigits_eq_done h
    refine ⟨rfl, ⟨run, fun first => absurd ?_ zero⟩, stops⟩
    rw [List.head?_append, first]
    rfl

theorem readFraction_eq_done {fraction : Option (List Char)}
    (h : readFraction bad s = .done fraction t) :
    s = fractionChars fraction ++ t ∧ (∀ ds, fraction = some ds → IsRun ds ∧ Stops Char.isDigit t) ∧
      (fraction = none → Stops (· == '.') t) := by
  rw [readFraction, bind_done (peek_apply s)] at h
  split at h
  next point =>
    obtain ⟨rest, rfl⟩ := List.head?_eq_some_iff.1 point
    rw [bind_done (skip_apply _), List.tail_cons] at h
    obtain ⟨ds, digits, rfl⟩ := map_eq_done_iff.1 h
    obtain ⟨rfl, run, stops⟩ := readDigits_eq_done digits
    refine ⟨rfl, fun ds' same => ?_, fun absent => absurd absent (Option.some_ne_none ds)⟩
    cases same
    exact ⟨run, stops⟩
  next point =>
    cases h
    refine ⟨rfl, fun ds present => absurd present.symm (Option.some_ne_none ds), fun _ c hc => ?_⟩
    rw [beq_eq_false_iff_ne]
    rintro rfl
    exact point hc

theorem readExponentSign_eq_done {negative : Bool}
    (h : (readExponentSign : Reader ε Bool) s = .done negative t) :
    ∃ sign, s = sign ++ t ∧ (sign, negative) ∈ exponentSigns := by
  cases s with
  | nil =>
    cases h
    exact ⟨[], rfl, by decide⟩
  | cons c s =>
    by_cases minus : c = '-'
    · subst minus
      cases h
      exact ⟨['-'], rfl, by decide⟩
    by_cases plus : c = '+'
    · subst plus
      cases h
      exact ⟨['+'], rfl, by decide⟩
    · have unsigned : (readExponentSign : Reader ε Bool) (c :: s) = .done false (c :: s) := by
        simp [readExponentSign, bind_apply, minus, plus]
      rw [unsigned] at h
      cases h
      exact ⟨[], rfl, by decide⟩

theorem readExponent_eq_done {exponent : Option (Bool × List Char)}
    (h : readExponent bad s = .done exponent t) :
    ∃ e, s = e ++ t ∧ ExponentSpelling exponent e ∧ (exponent ≠ none → Stops Char.isDigit t) ∧
      (exponent = none → Stops (fun c => c == 'e' || c == 'E') t) := by
  rw [readExponent, bind_done (peek_apply s)] at h
  split at h
  next opens =>
    obtain ⟨letter, letters, rest, rfl⟩ : ∃ letter ∈ ['e', 'E'], ∃ rest, s = letter :: rest := by
      rcases opens with small | capital
      · exact ⟨'e', by decide, List.head?_eq_some_iff.1 small⟩
      · exact ⟨'E', by decide, List.head?_eq_some_iff.1 capital⟩
    rw [bind_done (skip_apply _), List.tail_cons] at h
    obtain ⟨negative, mid, signRead, h⟩ := bind_eq_done_iff.1 h
    obtain ⟨ds, last, digits, h⟩ := bind_eq_done_iff.1 h
    cases h
    obtain ⟨sign, rfl, signs⟩ := readExponentSign_eq_done signRead
    obtain ⟨rfl, run, stops⟩ := readDigits_eq_done digits
    refine ⟨letter :: (sign ++ ds), by simp, .present letters signs run, fun _ => stops, fun absent => ?_⟩
    exact absurd absent (Option.some_ne_none _)
  next opens =>
    cases h
    refine ⟨[], rfl, .absent, fun some => absurd rfl some, fun _ c hc => ?_⟩
    rw [Bool.or_eq_false_iff, beq_eq_false_iff_ne, beq_eq_false_iff_ne]
    constructor
    · rintro rfl
      exact opens (.inl hc)
    · rintro rfl
      exact opens (.inr hc)

/-! ## What the reader of numerals takes off -/

theorem spells_of_read {n : Numeral} (h : read bad s = .done n t) :
    ∃ u, s = u ++ t ∧ n.Spells u ∧ n.EndsBefore t := by
  obtain ⟨negative, _, sign, h⟩ := bind_eq_done_iff.1 h
  obtain ⟨ds, _, whole, h⟩ := bind_eq_done_iff.1 h
  obtain ⟨fraction, _, point, h⟩ := bind_eq_done_iff.1 h
  obtain ⟨exponent, _, last, h⟩ := bind_eq_done_iff.1 h
  cases h
  obtain ⟨e, rfl, spelling, exponentDigits, letter⟩ := readExponent_eq_done last
  obtain ⟨rfl, runs, noPoint⟩ := readFraction_eq_done point
  obtain ⟨rfl, whole, wholeDigits⟩ := readWhole_eq_done whole
  obtain rfl := readSign_eq_done sign
  refine ⟨signChars negative ++ (ds ++ (fractionChars fraction ++ e)), by simp only [List.append_assoc],
    ⟨whole, fun ds h => (runs ds h).1, e, spelling, rfl⟩, ?_, ?_, letter⟩
  · -- The last part that is there has stopped at the next character.
    cases exponent with
    | some x => exact exponentDigits (Option.some_ne_none x)
    | none =>
      cases spelling
      cases fraction with
      | some ds => exact (runs ds rfl).2
      | none => exact wholeDigits
  · rintro rfl rfl
    cases spelling
    exact noPoint rfl

/-- A numeral is read exactly if the text starts with one of its spellings, and ends it there. -/
theorem read_eq_done_iff {n : Numeral} :
    read bad s = .done n t ↔ ∃ u, s = u ++ t ∧ n.Spells u ∧ n.EndsBefore t := by
  constructor
  · exact spells_of_read
  · rintro ⟨u, rfl, spells, ends⟩
    exact read_spelling bad spells ends

/-! ## Failures -/

theorem readSign_blames : Blames bad (readSign : Reader ε Bool) :=
  Blames.option (· = some '-') (fun _ => Blames.pure true) false

theorem readDigits_blames : Blames bad (readDigits bad) := by
  refine Blames.peek_bind fun c => ?_
  cases c with
  | none => exact Blames.fail
  | some c =>
    dsimp only
    split
    · exact Blames.takeWhile _
    · exact Blames.fail

theorem readWhole_blames : Blames bad (readWhole bad) := by
  refine Blames.peek_bind fun c => ?_
  split
  · refine Blames.skip.bind fun _ => Blames.peek_bind fun c => ?_
    cases c with
    | none => exact Blames.pure _
    | some c =>
      dsimp only
      split
      · exact Blames.fail
      · exact Blames.pure _
  · exact readDigits_blames

theorem readFraction_blames : Blames bad (readFraction bad) :=
  Blames.option (· = some '.') (fun _ => readDigits_blames.map some) none

theorem readExponentSign_blames : Blames bad (readExponentSign : Reader ε Bool) := by
  refine Blames.peek_bind fun c => ?_
  split
  · exact Blames.skip.bind fun _ => Blames.pure true
  · exact Blames.skip.bind fun _ => Blames.pure false
  · exact Blames.pure false

theorem readExponent_blames : Blames bad (readExponent bad) :=
  Blames.option (fun c => c = some 'e' ∨ c = some 'E')
    (fun _ => readExponentSign_blames.bind fun _ => readDigits_blames.bind fun _ => Blames.pure _) none

theorem read_blames : Blames bad (read bad) :=
  readSign_blames.bind fun _ => readWhole_blames.bind fun _ => readFraction_blames.bind fun _ =>
    readExponent_blames.bind fun _ => Blames.pure _

/-! ## The longest spelling -/

theorem EndsBefore.nil (n : Numeral) : n.EndsBefore [] :=
  ⟨Stops.nil, fun _ _ => Stops.nil, fun _ => Stops.nil⟩

/-- What a numeral ends before ends it also if the text is cut. -/
theorem EndsBefore.of_append {n : Numeral} (h : n.EndsBefore (s ++ t)) : n.EndsBefore s :=
  ⟨h.digit.of_append, fun hf he => (h.point hf he).of_append, fun he => (h.letter he).of_append⟩

/-- A spelling that ends a numeral is the longest one in the text. -/
theorem Spells.length_le {n m : Numeral} {u v : List Char} (spells : n.Spells u) (ends : n.EndsBefore t)
    (other : m.Spells v) (front : v <+: u ++ t) : v.length ≤ u.length := by
  have reads (s : List Char) (n : Numeral) (t : List Char) :
      read Malformed.malformed s = .done n t ↔ ∃ u, s = u ++ t ∧ n.Spells u ∧ n.EndsBefore t :=
    read_eq_done_iff
  exact longest_of_reads reads EndsBefore.nil (fun _ _ _ => EndsBefore.of_append) spells ends other front

/-- With another digit behind it a spelling is a longer one, unless it is a zero. -/
theorem Spells.append_digit {n : Numeral} {u : List Char} {c : Char} (h : n.Spells u)
    (hc : c.isDigit = true) (zero : ¬ (u = ['0'] ∨ u = ['-', '0'])) :
    ∃ m : Numeral, m.Spells (u ++ [c]) ∧ (n.fraction = none → m.fraction = none) ∧
      (n.exponent = none → m.exponent = none) := by
  obtain ⟨negative, whole, fraction, exponent⟩ := n
  obtain ⟨isWhole, runs, e, spelling, rfl⟩ := h
  have digit : ∀ d ∈ [c], d.isDigit = true := by simpa using hc
  cases spelling with
  | @present letter sign ds negativeExponent letters signs run =>
    refine ⟨⟨negative, whole, fraction, some (negativeExponent, ds ++ [c])⟩,
      ⟨isWhole, runs, _, .present letters signs (run.append digit), by simp⟩, id, fun absent => ?_⟩
    exact absurd absent (Option.some_ne_none _)
  | absent =>
    cases fraction with
    | some ds =>
      refine ⟨⟨negative, whole, some (ds ++ [c]), none⟩,
        ⟨isWhole, fun ds' same => ?_, [], .absent, by simp [fractionChars]⟩, fun absent => ?_, fun _ => rfl⟩
      · cases same
        exact (runs ds rfl).append digit
      · exact absurd absent (Option.some_ne_none ds)
    | none =>
      have longer : IsWhole (whole ++ [c]) := by
        refine ⟨isWhole.toIsRun.append digit, fun first => ?_⟩
        obtain ⟨d, ds, rfl, -⟩ := isWhole.exists_cons
        have only : d :: ds = ['0'] := isWhole.redundant first
        rw [only] at zero
        cases negative <;> simp [signChars, fractionChars] at zero
      exact ⟨⟨negative, whole ++ [c], none, none⟩,
        ⟨longer, runs, [], .absent, by simp [fractionChars]⟩, fun _ => rfl, fun _ => rfl⟩

/-- The longest beginning of a text that an expression matches. -/
structure IsLongest (p : RegularExpression Char) (u s : List Char) : Prop where
  front : u <+: s
  matched : u ∈ p.matches'
  length_le : ∀ v, v <+: s → v ∈ p.matches' → v.length ≤ u.length

/-- A zero, behind a minus sign or not, and another digit behind it. -/
def IsPadded (u t : List Char) : Prop :=
  (u = ['0'] ∨ u = ['-', '0']) ∧ ∃ c, t.head? = some c ∧ c.isDigit = true

theorem not_isPadded (h : Stops Char.isDigit t) (u : List Char) : ¬ IsPadded u t := by
  rintro ⟨-, c, hc, digit⟩
  rw [h c hc] at digit
  cases digit

/-- No digit stands behind the longest match, if another digit would make it longer. -/
theorem IsLongest.stops {p : RegularExpression Char} {u : List Char} (h : IsLongest p u (u ++ t))
    (unpadded : ¬ IsPadded u t)
    (more : ∀ c : Char, c.isDigit = true → ¬ (u = ['0'] ∨ u = ['-', '0']) → u ++ [c] ∈ p.matches') :
    Stops Char.isDigit t := by
  intro c hc
  by_contra digit
  rw [Bool.not_eq_false] at digit
  obtain ⟨t, rfl⟩ := List.head?_eq_some_iff.1 hc
  have longer := more c digit fun zero => unpadded ⟨zero, c, hc, digit⟩
  have short := h.length_le (u ++ [c]) ⟨t, by simp⟩ longer
  rw [List.length_append, List.length_singleton] at short
  omega

/-- A numeral stands at the front of a text: it is spelt by the longest beginning that has the form of a
numeral, and nothing behind it looks as if a part of it went on. -/
structure Stands (n : Numeral) (u t : List Char) : Prop where
  spells : n.Spells u
  longest : IsLongest form u (u ++ t)
  unpadded : ¬ IsPadded u t
  point : n.fraction = none → n.exponent = none → t.head? ≠ some '.'
  letter : n.exponent = none → t.head? ≠ some 'e' ∧ t.head? ≠ some 'E'

theorem Stands.endsBefore {n : Numeral} {u : List Char} (h : n.Stands u t) : n.EndsBefore t := by
  refine ⟨h.longest.stops h.unpadded fun c digit zero => ?_, fun fraction exponent c hc => ?_,
    fun exponent c hc => ?_⟩
  · obtain ⟨m, spells, -⟩ := h.spells.append_digit digit zero
    exact mem_form.2 ⟨m, spells⟩
  · rw [beq_eq_false_iff_ne]
    rintro rfl
    exact h.point fraction exponent hc
  · rw [Bool.or_eq_false_iff, beq_eq_false_iff_ne, beq_eq_false_iff_ne]
    constructor
    · rintro rfl
      exact (h.letter exponent).1 hc
    · rintro rfl
      exact (h.letter exponent).2 hc

theorem Spells.stands {n : Numeral} {u : List Char} (spells : n.Spells u) (ends : n.EndsBefore t) :
    n.Stands u t := by
  refine ⟨spells, ⟨List.prefix_append u t, mem_form.2 ⟨n, spells⟩, ?_⟩, not_isPadded ends.digit u,
    fun fraction exponent hc => ?_, fun exponent => ⟨fun hc => ?_, fun hc => ?_⟩⟩
  · intro v front matched
    obtain ⟨m, other⟩ := mem_form.1 matched
    exact spells.length_le ends other front
  · have := ends.point fraction exponent _ hc
    contradiction
  · have := ends.letter exponent _ hc
    contradiction
  · have := ends.letter exponent _ hc
    contradiction

/-- A numeral is read exactly where it stands. -/
theorem read_eq_done_iff_stands {n : Numeral} :
    read bad s = .done n t ↔ ∃ u, s = u ++ t ∧ n.Stands u t := by
  rw [read_eq_done_iff]
  constructor
  · rintro ⟨u, rfl, spells, ends⟩
    exact ⟨u, rfl, spells.stands ends⟩
  · rintro ⟨u, rfl, stands⟩
    exact ⟨u, rfl, stands.spells, stands.endsBefore⟩

/-! ## Integers -/

theorem readInteger_eq_done_iff {n : Numeral} :
    readInteger bad s = .done n t ↔
      ∃ u, s = u ++ t ∧ (n.Spells u ∧ n.IsInteger) ∧ Stops Char.isDigit t := by
  constructor
  · intro h
    obtain ⟨negative, _, sign, h⟩ := bind_eq_done_iff.1 h
    obtain ⟨ds, _, whole, h⟩ := bind_eq_done_iff.1 h
    cases h
    obtain ⟨rfl, whole, stops⟩ := readWhole_eq_done whole
    obtain rfl := readSign_eq_done sign
    exact ⟨_, (List.append_assoc _ _ _).symm, ⟨spells_integer whole negative, rfl, rfl⟩, stops⟩
  · rintro ⟨u, rfl, ⟨spells, integer⟩, stops⟩
    obtain ⟨negative, ds, fraction, exponent⟩ := n
    obtain ⟨rfl, rfl⟩ : fraction = none ∧ exponent = none := ⟨integer.fraction, integer.exponent⟩
    rw [spells.eq_of_isInteger integer, List.append_assoc, readInteger,
      bind_done (readSign_chars negative (spells.whole.stops_minus t)),
      bind_done (readWhole_append bad spells.whole stops)]
    rfl

/-- An integer stands at the front of a text: it is spelt by the longest beginning that has the form of an
integer, and no zero stands in front of a digit. -/
structure StandsAsInteger (n : Numeral) (u t : List Char) : Prop where
  spells : n.Spells u
  integer : n.IsInteger
  longest : IsLongest integerForm u (u ++ t)
  unpadded : ¬ IsPadded u t

/-- An integer is read exactly where it stands. -/
theorem readInteger_eq_done_iff_stands {n : Numeral} :
    readInteger bad s = .done n t ↔ ∃ u, s = u ++ t ∧ n.StandsAsInteger u t := by
  rw [readInteger_eq_done_iff]
  constructor
  · rintro ⟨u, rfl, ⟨spells, integer⟩, stops⟩
    refine ⟨u, rfl, spells, integer, ⟨List.prefix_append u t, mem_integerForm.2 ⟨n, spells, integer⟩, ?_⟩,
      not_isPadded stops u⟩
    intro v front matched
    obtain ⟨m, other⟩ := mem_integerForm.1 matched
    have reads (s : List Char) (n : Numeral) (t : List Char) :
        readInteger Malformed.malformed s = .done n t ↔
          ∃ u, s = u ++ t ∧ (n.Spells u ∧ n.IsInteger) ∧ Stops Char.isDigit t := readInteger_eq_done_iff
    exact longest_of_reads reads (fun _ => Stops.nil) (fun _ _ _ => Stops.of_append) ⟨spells, integer⟩ stops
      other front
  · rintro ⟨u, rfl, spells, integer, longest, unpadded⟩
    refine ⟨u, rfl, ⟨spells, integer⟩, longest.stops unpadded fun c digit zero => ?_⟩
    obtain ⟨m, longer, fraction, exponent⟩ := spells.append_digit digit zero
    exact mem_integerForm.2 ⟨m, longer, fraction integer.fraction, exponent integer.exponent⟩

theorem readInteger_blames : Blames bad (readInteger bad) :=
  readSign_blames.bind fun _ => readWhole_blames.bind fun _ => Blames.pure _

end Numeral

end PathQuery
