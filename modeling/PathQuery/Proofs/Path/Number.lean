import PathQuery.Proofs.Numeral.Longest

/-!
# Numbers in paths

A path takes a number off its text where a numeral stands, and no more than that numeral. An integer stays
one as long as a word holds it, and turns into a double beyond; indices and slices take integers only, which
must fit a word. There is one cause of failure, whatever is wrong with a number.

## Main definitions

* `Numeral.Denotes` — the number that a numeral stands for in a path.

## Main results

* `Lexeme.numberOf?_eq_some_iff` — this is the number that readers put in the place of a numeral.
* `Lexeme.readNumber_eq_done_iff`, `Lexeme.readInt_eq_done_iff` — when a number or an integer is read.
-/

namespace PathQuery

open ReadError (Cause)

/-! ## Values -/

/-- An integer of sixty-four bits. -/
def Word.Fits (i : Int) : Prop := -0x8000000000000000 ≤ i ∧ i < 0x8000000000000000

theorem Word.isSome_ofInt?_iff {i : Int} : (ofInt? i).isSome = true ↔ Fits i := by
  rw [ofInt?, Fits]
  split
  next fits => exact iff_of_true rfl fits
  next large => exact iff_of_false nofun large

/-- The number that a numeral stands for: an integer that fits a word is kept, and everything else is a
double, which must be finite. -/
inductive Numeral.Denotes (n : Numeral) : Number → Prop where
  | integer {i : Int} (value : n.integer? = some i) (fits : Word.Fits i) : n.Denotes (.integer i)
  | real (large : ∀ i, n.integer? = some i → ¬ Word.Fits i) (finite : n.real.isFinite = true) :
    n.Denotes (.real n.real)

namespace Lexeme

open Reader

variable {s t : List Char}

theorem numberOf?_eq_some_iff {n : Numeral} {x : Number} : numberOf? n = some x ↔ n.Denotes x := by
  unfold numberOf?
  constructor
  · intro h
    split at h
    next i value =>
      split at h
      next word =>
        cases h
        exact .integer value (Word.isSome_ofInt?_iff.1 word)
      next large =>
        rw [Word.isSome_ofInt?_iff] at large
        split at h
        next finite =>
          cases h
          refine .real (fun j other => ?_) finite
          cases value.symm.trans other
          exact large
        next => cases h
    next none =>
      split at h
      next finite =>
        cases h
        exact .real (fun i value => by rw [none] at value; cases value) finite
      next => cases h
  · intro h
    cases h with
    | integer value fits =>
      rw [value]
      exact if_pos (Word.isSome_ofInt?_iff.2 fits)
    | real large finite =>
      cases value : n.integer? with
      | none => exact if_pos finite
      | some i =>
        have large := large i value
        rw [← Word.isSome_ofInt?_iff] at large
        exact (if_neg large).trans (if_pos finite)

/-! ## Numbers -/

/-- A number is read exactly where a numeral stands that denotes one. -/
theorem readNumber_eq_done_iff {v : Json} :
    readNumber s = .done v t ↔ ∃ (u : List Char) (n : Numeral) (x : Number),
      s = u ++ t ∧ n.Stands u t ∧ n.Denotes x ∧ v = .number x := by
  rw [readNumber, bind_eq_done_iff]
  constructor
  · rintro ⟨n, rest, numeral, h⟩
    obtain ⟨u, rfl, stands⟩ := Numeral.read_eq_done_iff_stands.1 numeral
    cases value : numberOf? n with
    | none =>
      rw [value] at h
      cases h
    | some x =>
      rw [value] at h
      cases h
      exact ⟨u, n, x, rfl, stands, numberOf?_eq_some_iff.1 value, rfl⟩
  · rintro ⟨u, n, x, rfl, stands, denotes, rfl⟩
    refine ⟨n, t, Numeral.read_eq_done_iff_stands.2 ⟨u, rfl, stands⟩, ?_⟩
    rw [numberOf?_eq_some_iff.2 denotes]
    rfl

theorem readNumber_blames : Blames Cause.badNumber readNumber := by
  refine Numeral.read_blames.bind fun n => ?_
  split
  · exact Blames.pure _
  · exact Blames.fail

/-! ## Integers -/

/-- An integer is read exactly where one stands that a word holds. -/
theorem readInt_eq_done_iff {i : Int64} :
    readInt s = .done i t ↔ ∃ (u : List Char) (n : Numeral),
      s = u ++ t ∧ n.StandsAsInteger u t ∧ n.integer? = some i.toInt := by
  rw [readInt_eq, bind_eq_done_iff]
  constructor
  · rintro ⟨n, rest, numeral, h⟩
    obtain ⟨u, rfl, stands⟩ := Numeral.readInteger_eq_done_iff_stands.1 numeral
    cases word : n.integer?.bind Word.ofInt? with
    | none =>
      rw [word] at h
      cases h
    | some j =>
      rw [word] at h
      cases h
      obtain ⟨value, integer, held⟩ := Option.bind_eq_some_iff.1 word
      rw [← Word.ofInt?_eq_some_iff.1 held] at integer
      exact ⟨u, n, rfl, stands, integer⟩
  · rintro ⟨u, n, rfl, stands, value⟩
    refine ⟨n, t, Numeral.readInteger_eq_done_iff_stands.2 ⟨u, rfl, stands⟩, ?_⟩
    rw [value, Option.bind_some, Word.ofInt?_eq_some_iff.2 rfl]
    rfl

example : readInt ['-', '1', '2', '.', '5'] = .done (-12) ['.', '5'] := by decide

theorem readInt_blames : Blames Cause.badNumber readInt := by
  rw [readInt_eq]
  refine Numeral.readInteger_blames.bind fun n => ?_
  cases n.integer?.bind Word.ofInt? with
  | none => exact Blames.fail
  | some i => exact Blames.pure i

/-! ## Readings -/

/-- Numbers follow the grammar of numerals exactly. A number is read if and only if the longest beginning of
the text with the form of a numeral stands by itself and its value is an integer of a word or a finite
double; it is taken off as a whole. An integer is read if and only if the longest beginning with the form of
an integer is no padded zero and its value fits a word. Everything else fails as a bad number. -/
theorem readNumber_readInt_longest (s : List Char) :
    (∀ v rest, readNumber s = .done v rest ↔
        ∃ (u : List Char) (n : Numeral) (x : Number),
          s = u ++ rest ∧ n.Stands u rest ∧ n.Denotes x ∧ v = .number x) ∧
      ((∃ v rest, readNumber s = .done v rest) ∨ ∃ rest, readNumber s = .failed .badNumber rest) ∧
      (∀ i rest, readInt s = .done i rest ↔
        ∃ (u : List Char) (n : Numeral),
          s = u ++ rest ∧ n.StandsAsInteger u rest ∧ n.integer? = some i.toInt) ∧
      ((∃ i rest, readInt s = .done i rest) ∨ ∃ rest, readInt s = .failed .badNumber rest) :=
  ⟨fun _ _ => readNumber_eq_done_iff, readNumber_blames.done_or_failed s,
    fun _ _ => readInt_eq_done_iff, readInt_blames.done_or_failed s⟩

end Lexeme

end PathQuery
