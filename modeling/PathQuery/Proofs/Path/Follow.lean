import PathQuery.Path.Grammar
import PathQuery.Path.Printer
import PathQuery.Proofs.Numeral

/-!
# What may follow a part of a path

A part of a path is read back from its characters if what stands behind them does not go on with it. The
rules of the grammar look ahead for one character, or for a sign of two, and mostly behind white space,
so a few conditions on the text that follows serve all of them. The texts that the printer puts behind a
part fulfil them: the sign of a comparison behind a term, that of a connective behind a test, and a comma
or a closing sign behind a filter.

## Main definitions

* `Ends` — a text that continues neither a word nor a path.
* `EndsTest` — besides, no comparison goes on with it.
* `Closes` — a text that starts with a comma or with a closing parenthesis or bracket.

## Main results

* `Ends.comparison`, `EndsTest.logic`, `Closes.endsTest` — the texts behind the parts of a filter.
* `Path.read_eq_ok_iff` — the texts that are paths.
-/

namespace PathQuery

open Lexeme Grammar Reader

variable {c : Char} {s t : List Char}

/-! ## Classes of characters -/

/-- An inclusion of classes among the ASCII characters is decided by looking at all of them. -/
theorem of_ascii {p q : Char → Bool} (h : ∀ n, n < 128 → p (Char.ofNat n) = true →
    q (Char.ofNat n) = true) (hc : c.toNat < 128) (hp : p c = true) : q c = true := by
  have := h c.toNat hc
  rw [Char.ofNat_toNat] at this
  exact this hp

theorem toNat_lt_of_isDigit (h : c.isDigit = true) : c.toNat < 128 := by
  simp only [Char.isDigit, Bool.and_eq_true, decide_eq_true_eq, UInt32.le_iff_toNat_le] at h
  have upper : c.val.toNat ≤ 57 := h.2
  show c.val.toNat < 128
  omega

theorem toNat_lt_of_isSmallLetter (h : isSmallLetter c = true) : c.toNat < 128 := by
  simp only [isSmallLetter, Bool.and_eq_true, decide_eq_true_eq, Char.le_def,
    UInt32.le_iff_toNat_le] at h
  have upper : c.val.toNat ≤ 122 := h.2
  show c.val.toNat < 128
  omega

theorem isNameChar_of_isDigit (h : c.isDigit = true) : isNameChar c = true :=
  of_ascii (p := Char.isDigit) (by decide) (toNat_lt_of_isDigit h) h

theorem isNameChar_of_isFunctionChar (h : isFunctionChar c = true) : isNameChar c = true := by
  have small : c.toNat < 128 := by
    simp only [isFunctionChar, Bool.or_eq_true, beq_iff_eq] at h
    rcases h with (h | h) | rfl
    · exact toNat_lt_of_isSmallLetter h
    · exact toNat_lt_of_isDigit h
    · decide
  exact of_ascii (p := isFunctionChar) (by decide) small h

theorem toNat_lt_of_startsNumber (h : startsNumber c = true) : c.toNat < 128 := by
  have : c = '-' ∨ c.isDigit = true := by simpa [startsNumber] using h
  rcases this with rfl | hd
  · decide
  · exact toNat_lt_of_isDigit hd

/-- The characters that start a term. -/
def startsTerm (c : Char) : Bool :=
  c == '@' || c == '$' || isQuote c || startsNumber c || isSmallLetter c

/-- The characters that start an argument. -/
def startsArgument (c : Char) : Bool := startsTerm c || c == '!' || c == '('

theorem toNat_lt_of_startsTerm (h : startsTerm c = true) : c.toNat < 128 := by
  simp only [startsTerm, isQuote, Bool.or_eq_true, beq_iff_eq] at h
  rcases h with (((rfl | rfl) | rfl | rfl) | h) | h
  · decide
  · decide
  · decide
  · decide
  · exact toNat_lt_of_startsNumber h
  · exact toNat_lt_of_isSmallLetter h

/-- What starts a term is neither white space nor a sign of a filter. -/
theorem startsTerm_plain (h : startsTerm c = true) : isBlank c = false ∧ c ≠ '!' ∧ c ≠ '(' := by
  have := of_ascii (p := startsTerm) (q := fun c => !isBlank c && c != '!' && c != '(')
    (by decide) (toNat_lt_of_startsTerm h) h
  simpa [and_assoc] using this

/-- What starts an argument is neither white space nor what closes the call. -/
theorem startsArgument_plain (h : startsArgument c = true) : isBlank c = false ∧ c ≠ ')' := by
  simp only [startsArgument, Bool.or_eq_true, beq_iff_eq] at h
  rcases h with (h | rfl) | rfl
  · have := of_ascii (p := startsTerm) (q := fun c => !isBlank c && c != ')')
      (by decide) (toNat_lt_of_startsTerm h) h
    simpa using this
  · decide
  · decide

theorem opensSegment_cases (h : opensSegment c = true) : c = '.' ∨ c = '[' := by
  simpa [opensSegment] using h

theorem isBlank_of_opensSegment (h : opensSegment c = true) : isBlank c = false := by
  rcases opensSegment_cases h with rfl | rfl <;> decide

theorem ne_of_isBlank {d : Char} (h : isBlank c = true) (other : isBlank d = false) : c ≠ d := by
  rintro rfl
  rw [h] at other
  cases other

theorem isNameChar_of_opensSegment (h : opensSegment c = true) : isNameChar c = false := by
  rcases opensSegment_cases h with rfl | rfl <;> decide

/-! ## Behind white space -/

theorem stops_of_dropWhile {p : Char → Bool} (hp : ∀ c, isBlank c = true → p c = false)
    (h : Stops p (s.dropWhile isBlank)) : Stops p s := by
  intro c hc
  cases s with
  | nil => cases hc
  | cons d s =>
    cases hc
    by_cases hb : isBlank c = true
    · exact hp c hb
    · rw [List.dropWhile_cons_of_neg hb] at h
      exact h c rfl

@[simp] theorem dropWhile_blank (s : List Char) :
    (' ' :: s).dropWhile isBlank = s.dropWhile isBlank :=
  List.dropWhile_cons_of_pos (by decide)

theorem dropWhile_of_not_blank (h : isBlank c = false) : (c :: s).dropWhile isBlank = c :: s :=
  List.dropWhile_cons_of_neg (by simp [h])

theorem skipBlank_stops (h : Stops isBlank s) : skipBlank s = .done () s := Reader.skipWhile_stops h

/-- White space is passed over once. -/
theorem skipBlank_bind {α : Type} (f : Unit → Reader ReadError.Cause α) (s : List Char) :
    (skipBlank >>= f) s = f () (s.dropWhile isBlank) := rfl

/-! ## Texts behind a part -/

/-- A text that continues neither a word nor a path. -/
structure Ends (s : List Char) : Prop where
  word : Stops (fun c => isNameChar c || c == '(') s
  path : Stops opensSegment (s.dropWhile isBlank)

/-- A text that continues neither a word nor a path, nor a term to a comparison. -/
structure EndsTest (s : List Char) : Prop extends Ends s where
  sign : comparison? (s.dropWhile isBlank) = none

/-- A text that starts with a comma or with a closing parenthesis or bracket. -/
def Closes (s : List Char) : Prop := ∃ c t, s = c :: t ∧ (c = ',' ∨ c = ')' ∨ c = ']')

namespace Ends

theorem nil : Ends [] := ⟨Stops.nil, Stops.nil⟩

theorem name (h : Ends s) : Stops isNameChar s := h.word.mono fun c hc => by simp [hc]

theorem opens (h : Ends s) : Stops opensSegment s := by
  refine stops_of_dropWhile (fun c hc => ?_) h.path
  by_cases ho : opensSegment c = true
  · rw [isBlank_of_opensSegment ho] at hc
    cases hc
  · simpa using ho

/-- What ends a path also ends a number. -/
theorem number (h : Ends s) : Stops Numeral.follows s := by
  intro c hc
  have name := h.name c hc
  have opens := h.opens c hc
  simp only [opensSegment, Bool.or_eq_false_iff] at opens
  have digit : c.isDigit = false := by
    by_cases hd : c.isDigit = true
    · rw [isNameChar_of_isDigit hd] at name
      cases name
    · simpa using hd
  have letter : c ≠ 'e' ∧ c ≠ 'E' := by
    constructor
    · rintro rfl
      exact absurd name (by decide)
    · rintro rfl
      exact absurd name (by decide)
  simp [Numeral.follows, digit, letter, opens.1]

/-- Behind the left side of a comparison. -/
theorem comparison (op : CompareOp) (t : List Char) : Ends (' ' :: (op.chars ++ t)) := by
  refine ⟨Stops.cons (by decide), ?_⟩
  rw [dropWhile_blank]
  cases op with
  | _ => exact Stops.cons (by decide)

end Ends

theorem EndsTest.logic (op : LogicOp) (t : List Char) : EndsTest (' ' :: (op.chars ++ t)) := by
  cases op with
  | _ => exact ⟨⟨Stops.cons (by decide), Stops.cons (by decide)⟩, rfl⟩

namespace Closes

/-- A closing text stops every class without the three signs. -/
theorem stops {p : Char → Bool} (h : Closes s) (comma : p ',' = false) (parenthesis : p ')' = false)
    (bracket : p ']' = false) : Stops p s := by
  obtain ⟨c, t, rfl, rfl | rfl | rfl⟩ := h
  · exact Stops.cons comma
  · exact Stops.cons parenthesis
  · exact Stops.cons bracket

theorem blank (h : Closes s) : Stops isBlank s := h.stops (by decide) (by decide) (by decide)

theorem head_ne (h : Closes s) (hc : c ≠ ',' ∧ c ≠ ')' ∧ c ≠ ']') : s.head? ≠ some c := by
  obtain ⟨d, t, rfl, hd⟩ := h
  rintro ⟨⟩
  rcases hd with hd | hd | hd
  · exact hc.1 hd
  · exact hc.2.1 hd
  · exact hc.2.2 hd

/-- Behind a filter. -/
theorem endsTest (h : Closes s) : EndsTest s := by
  refine ⟨⟨h.stops (by decide) (by decide) (by decide), ?_⟩, ?_⟩
  · rw [h.blank.dropWhile]
    exact h.stops (by decide) (by decide) (by decide)
  · rw [h.blank.dropWhile]
    obtain ⟨c, t, rfl, rfl | rfl | rfl⟩ := h <;> rfl

/-- No connective goes on with a filter that is closed. -/
theorem not_logic (h : Closes s) (op : LogicOp) : op.chars.isPrefixOf s = false := by
  obtain ⟨c, t, rfl, rfl | rfl | rfl⟩ := h
  all_goals cases op <;> rfl

end Closes

/-! ## Connectives behind white space -/

namespace Grammar

variable {g : Grammar} {left : Filter}

/-- Whether white space is passed over before makes no difference. -/
theorem conjunctionRule_congr (h : s.dropWhile isBlank = t.dropWhile isBlank) :
    g.conjunctionRule left s = g.conjunctionRule left t := by
  rw [conjunctionRule, skipBlank_bind, skipBlank_bind, h]

theorem disjunctionRule_congr (h : s.dropWhile isBlank = t.dropWhile isBlank) :
    g.disjunctionRule left s = g.disjunctionRule left t := by
  rw [disjunctionRule, skipBlank_bind, skipBlank_bind, h]

theorem conjunctionRule_stop (h : ['&', '&'].isPrefixOf (s.dropWhile isBlank) = false) :
    g.conjunctionRule left s = .done left (s.dropWhile isBlank) := by
  rw [conjunctionRule, skipBlank_bind]
  simp [bind_apply, h]

/-- Where its sign stands, the rest of a conjunction reads an operand and goes on. -/
theorem conjunctionRule_found (h : s.dropWhile isBlank = '&' :: '&' :: t) :
    g.conjunctionRule left s = (g.unary >>= fun right => g.conjunction (.logic .and left right)) t := by
  rw [conjunctionRule, skipBlank_bind, h]
  rfl

theorem disjunctionRule_stop (h : ['|', '|'].isPrefixOf (s.dropWhile isBlank) = false) :
    g.disjunctionRule left s = .done left (s.dropWhile isBlank) := by
  rw [disjunctionRule, skipBlank_bind]
  simp [bind_apply, h]

/-- Where its sign stands, the rest of a disjunction reads a conjunction and goes on. -/
theorem disjunctionRule_found (h : s.dropWhile isBlank = '|' :: '|' :: t) :
    g.disjunctionRule left s =
      (g.conjunctive >>= fun right => g.disjunction (.logic .or left right)) t := by
  rw [disjunctionRule, skipBlank_bind, h]
  rfl

end Grammar

/-! ## Behind a whole path -/

namespace Path

/-- Behind the sign of the document segments are read, and then the end of the text behind white space. -/
theorem reader_root : ∃ behind : List Segment → Reader ReadError.Cause Path,
    (∀ s, reader ('$' :: s) = (grammar.segments >>= behind) s) ∧
      ∀ segments rest p t, behind segments rest = .done p t ↔
        p = ⟨segments⟩ ∧ rest.dropWhile isBlank = [] ∧ t = [] := by
  refine ⟨_, fun _ => rfl, fun segments rest p t => ?_⟩
  rw [skipBlank_bind, bind_apply, peek_apply]
  cases rest.dropWhile isBlank <;> simp [eq_comm]

/-- A text is a path if it begins with the sign of the document and nothing but white space stands behind
the segments. -/
theorem read_eq_ok_iff {text : String} {p : Path} : read text = .ok p ↔
    ∃ s rest, text.toList = '$' :: s ∧ grammar.segments s = .done p.segments rest ∧
      rest.dropWhile isBlank = [] := by
  obtain ⟨behind, root, ends⟩ := reader_root
  constructor
  · intro h
    obtain ⟨t, done⟩ : ∃ t, reader text.toList = .done p t := by
      rw [read] at h
      cases done : reader text.toList with
      | done q t =>
        rw [done] at h
        cases h
        exact ⟨t, rfl⟩
      | failed e t =>
        rw [done] at h
        cases h
    cases whole : text.toList with
    | nil =>
      rw [whole] at done
      cases done
    | cons c s =>
      rw [whole] at done
      by_cases sign : c = '$'
      · subst sign
        rw [root] at done
        obtain ⟨segments, rest, first, second⟩ := bind_eq_done_iff.1 done
        obtain ⟨rfl, blank, -⟩ := (ends _ _ _ _).1 second
        exact ⟨s, rest, rfl, first, blank⟩
      · simp [reader, bind_apply, sign] at done
  · rintro ⟨s, rest, whole, first, blank⟩
    rw [read, whole, root, bind_done first, (ends _ rest p []).2 ⟨rfl, blank, rfl⟩]

end Path

end PathQuery
