import PathQuery.Path.Lexeme
import PathQuery.Proofs.Reader.Run
import PathQuery.Text.Quoted

/-!
# Quoted texts that are written and read

Writing a text between quotes and reading it back are compared character by character. A character is
written in one of three ways, behind a backslash by its letter, as four hexadecimal digits, or as it is,
and each way is read back by the reader of bodies if the dialect knows the letter and admits the
character. Nothing behind the closing quote is looked at.

## Main definitions

* `Dialect.Understands` — a dialect reads what is written between quotes of a kind.

## Main results

* `readBody_escape` — the body of a quoted text is read back, for every dialect that understands it.
* `Lexeme.readQuoted_encode` — both kinds of quoted texts are read back from a path.
-/

namespace PathQuery.Quoted

open Reader

variable {ε : Type} {d : Dialect ε} {quote c : Char} {s rest : List Char}

/-- A dialect gives the letters of escapes the meaning with which they are written, and admits the
characters that are written as they are. -/
structure Dialect.Understands (d : Dialect ε) (quote : Char) : Prop where
  backslash : quote ≠ '\\'
  letter : ∀ c letter, escapeLetter? quote c = some letter →
    letter ≠ 'u' ∧ d.letter? letter = some c
  plain : ∀ c : Char, 0x20 ≤ c.toNat → d.plain c = true

/-! ## Reading one character -/

theorem readBody_close : readBody d quote (quote :: s) = .done [] s := by
  rw [readBody, if_pos rfl]

theorem readBody_backslash (hq : quote ≠ '\\') (h : readEscape d s = .done c rest) :
    readBody d quote ('\\' :: s) = (readBody d quote rest).map (c :: ·) := by
  rw [readBody, if_neg (Ne.symm hq), if_pos rfl]
  split
  next h' =>
    rw [h] at h'
    cases h'
  next h' =>
    rw [h] at h'
    cases h'
    rfl

theorem readBody_plain (hq : c ≠ quote) (hb : c ≠ '\\') (hp : d.plain c = true) :
    readBody d quote (c :: s) = (readBody d quote s).map (c :: ·) := by
  rw [readBody, if_neg hq, if_neg hb, if_pos hp]

theorem readEscape_letter {letter : Char} (hu : letter ≠ 'u') (h : d.letter? letter = some c) :
    readEscape d (letter :: s) = .done c s := by
  simp [readEscape, bind_apply, h, Reading.map]

/-- Four digits with two zeros in front give the number of the other two. -/
theorem natOfHex?_control {n : Nat} (hn : n < 0x20) :
    natOfHex? ['0', '0', Nat.digitChar (n / 16), Nat.digitChar (n % 16)] = some n := by
  have : ∀ n, n < 0x20 →
      natOfHex? ['0', '0', Nat.digitChar (n / 16), Nat.digitChar (n % 16)] = some n := by decide
  exact this n hn

theorem readEscape_control (hc : c.toNat < 0x20) :
    readEscape d ('u' :: '0' :: '0' :: Nat.digitChar (c.toNat / 16) ::
      Nat.digitChar (c.toNat % 16) :: s) = .done c s := by
  have unit := natOfHex?_control hc
  have high : isHighSurrogate c.toNat = false := by
    simp only [isHighSurrogate, Bool.and_eq_false_iff, decide_eq_false_iff_not]
    omega
  have low : isLowSurrogate c.toNat = false := by
    simp only [isLowSurrogate, Bool.and_eq_false_iff, decide_eq_false_iff_not]
    omega
  simp [readEscape, readCodePoint, readUnit, bind_apply, unit, high, low]

/-- A character that has no letter is neither the quote nor the backslash. -/
theorem ne_of_escapeLetter?_eq_none (h : escapeLetter? quote c = none) : c ≠ quote ∧ c ≠ '\\' := by
  unfold escapeLetter? at h
  split at h
  · cases h
  next hc => exact not_or.1 hc

/-- However a character is written, it is the first one that is read back. -/
theorem readBody_escapeChar (hd : d.Understands quote) (c : Char) (s : List Char) :
    readBody d quote (escapeChar quote c ++ s) = (readBody d quote s).map (c :: ·) := by
  unfold escapeChar
  cases hl : escapeLetter? quote c with
  | some letter =>
    obtain ⟨hu, known⟩ := hd.letter c letter hl
    exact readBody_backslash hd.backslash (readEscape_letter hu known)
  | none =>
    by_cases hc : c.toNat < 0x20
    · rw [if_pos hc]
      exact readBody_backslash hd.backslash (readEscape_control hc)
    · rw [if_neg hc]
      obtain ⟨hq, hb⟩ := ne_of_escapeLetter?_eq_none hl
      exact readBody_plain hq hb (hd.plain c (by omega))

/-! ## Reading whole texts -/

/-- The characters between two quotes are read back, up to the closing one. -/
theorem readBody_escape (hd : d.Understands quote) (text s : List Char) :
    readBody d quote (escape quote text ++ quote :: s) = .done text s := by
  induction text with
  | nil => exact readBody_close
  | cons c text ih =>
    rw [escape_cons, List.append_assoc, readBody_escapeChar hd, ih]
    rfl

end PathQuery.Quoted

namespace PathQuery.Lexeme

open Quoted Reader

/-- The control characters that have a letter of their own, with their letters. -/
def controlLetters : List (Char × Char) :=
  [('\x08', 'b'), ('\x0c', 'f'), ('\n', 'n'), ('\r', 'r'), ('\t', 't')]

/-- What stands behind a backslash is the escaped character itself or the letter of a control
character. -/
theorem escapeLetter?_cases {quote c letter : Char} (h : escapeLetter? quote c = some letter) :
    (letter = c ∧ (c = quote ∨ c = '\\')) ∨ (c, letter) ∈ controlLetters := by
  unfold escapeLetter? at h
  split at h
  next hc =>
    cases h
    exact .inl ⟨rfl, hc⟩
  next =>
    refine .inr ?_
    by_cases short : c = '\x08' ∨ c = '\x0c' ∨ c = '\n' ∨ c = '\r' ∨ c = '\t'
    · rcases short with rfl | rfl | rfl | rfl | rfl
      all_goals
        cases h
        decide
    · simp only [not_or] at short
      simp [short] at h

/-- Both kinds of quotes are understood in a path. -/
theorem dialect_understands {quote : Char} (hq : isQuote quote = true) :
    dialect.Understands quote := by
  have quotes : quote = '\'' ∨ quote = '"' := by simpa [isQuote] using hq
  refine ⟨?_, ?_, fun _ _ => rfl⟩
  · rcases quotes with rfl | rfl <;> decide
  · intro c letter h
    rcases escapeLetter?_cases h with ⟨rfl, rfl | rfl⟩ | hc
    · rcases quotes with rfl | rfl <;> decide
    · decide
    · have known : ∀ e ∈ controlLetters, e.2 ≠ 'u' ∧ dialect.letter? e.2 = some e.1 := by decide
      exact known _ hc

/-- A quoted text of a path is read back, with either quote. -/
theorem readQuoted_encode {quote : Char} (hq : isQuote quote = true) (text s : List Char) :
    readQuoted (encode quote text ++ s) = .done (String.ofList text) s := by
  have body := readBody_escape (dialect_understands hq) text s
  simpa [readQuoted, encode, bind_apply, hq] using map_done String.ofList body

end PathQuery.Lexeme
