import PathQuery.Proofs.Path.Follow
import PathQuery.Proofs.Path.Shape
import PathQuery.Proofs.Text.Quoted

/-!
# Words that are written and read

Names, integers and literals are read back one by one, each in front of a text that ends it. A function
name is told from a keyword by what stands behind it: a keyword that starts the name is followed by
another character of the name or by the parenthesis of the call.

## Main results

* `Lexeme.readName_append`, `Lexeme.readInt_intChars` — bare names and integers.
* `Lexeme.readOptionalInt_optionalInt` — integers that may be left out.
* `Lexeme.readKeyword_call`, `Lexeme.readFunctionName_append` — the front of a call.
-/

namespace PathQuery.Lexeme

open Reader

variable {s : List Char}

/-! ## Names -/

theorem readName_append {key : List Char} (hk : isBareName key = true) (hs : Stops isNameChar s) :
    readName (key ++ s) = .done (String.ofList key) s := by
  cases key with
  | nil => cases hk
  | cons c rest =>
    obtain ⟨start, more⟩ : isNameStart c = true ∧ rest.all isNameChar = true := by
      simpa [isBareName] using hk
    have all : ∀ d ∈ c :: rest, isNameChar d = true := by
      intro d hd
      rcases List.mem_cons.1 hd with rfl | hd
      · exact isNameChar_of_isNameStart start
      · exact List.all_eq_true.1 more d hd
    have run := takeWhile_run (ε := ReadError.Cause) all hs
    simpa [readName, bind_apply, start] using map_done String.ofList run

/-! ## Integers -/

theorem startsNumber_head (n : Int) : ∃ c cs, intChars n = c :: cs ∧ startsNumber c = true := by
  obtain ⟨c, cs, h, hc⟩ := Numeral.intChars_head n
  refine ⟨c, cs, h, ?_⟩
  rcases hc with rfl | hc
  · rfl
  · simp [startsNumber, hc]

theorem isBlank_of_startsNumber {c : Char} (h : startsNumber c = true) : isBlank c = false :=
  (startsTerm_plain (by simp [startsTerm, h])).1

theorem readInt_intChars (i : Int64) (hs : Stops Char.isDigit s) :
    readInt (intChars i.toInt ++ s) = .done i s := by
  have word : Word.ofInt? i.toInt = some i := Word.ofInt?_eq_some_iff.2 rfl
  have digits := Numeral.readWhole_append ReadError.Cause.badNumber
    (toDigits_isWhole i.toInt.natAbs) hs
  rw [Numeral.intChars_eq, List.append_assoc, readInt,
    bind_done (Numeral.readSign_chars _ ((toDigits_isRun _).stops_minus _)), bind_done digits,
    natOfDigits_toDigits, Numeral.signed_natAbs, word]
  rfl

/-- An integer that may be left out is read back; if it is left out, no number may follow. -/
theorem readOptionalInt_optionalInt (i : Option Int64) (hs : Stops startsNumber s)
    (hb : Stops isBlank s) : readOptionalInt (optionalInt i ++ s) = .done i s := by
  cases i with
  | none =>
    show readOptionalInt s = .done none s
    rw [readOptionalInt, bind_done (skipBlank_stops hb)]
    cases s with
    | nil => rfl
    | cons c t => simp [bind_apply, hs c rfl]
  | some i =>
    have int := readInt_intChars i (hs.mono fun c hc => by simp [startsNumber, hc])
    obtain ⟨c, cs, hc, number⟩ := startsNumber_head i.toInt
    have blank : Stops isBlank (intChars i.toInt ++ s) := by
      rw [hc]
      exact Stops.cons (isBlank_of_startsNumber number)
    have int := map_done some int
    rw [readOptionalInt, optionalInt, bind_done (skipBlank_stops blank)]
    rw [hc] at int ⊢
    simpa [bind_apply, number] using int

/-- The digits of an integer are read as the number that its numeral stands for, if there is one. -/
theorem readNumber_intChars (n : Int) (hs : Stops Numeral.follows s) :
    readNumber (intChars n ++ s) =
      (numberOf? (Numeral.ofInt n)).elim (.failed .badNumber s) fun v => .done (.number v) s := by
  rw [← Numeral.chars_ofInt, readNumber, bind_done (Numeral.read_chars _ (Numeral.proper_ofInt n) hs)]
  cases numberOf? (Numeral.ofInt n) <;> rfl

/-! ## Keywords and function names -/

/-- A keyword is read in front of a text that continues no word. -/
theorem readKeyword_append {word : List Char} {value : Json} (hw : (word, value) ∈ keywords)
    (hs : Stops (fun c => isNameChar c || c == '(') s) :
    readKeyword (word ++ s) = .done (some value) s := by
  have ends : s.head?.any (fun c => isNameChar c || c == '(') = false := by
    cases hc : s.head? with
    | none => rfl
    | some c => exact hs c hc
  have this (word : List Char) : startsWord word (word ++ s) = true := by
    have whole : word.isPrefixOf (word ++ s) = true := by simp
    rw [startsWord, whole, List.drop_left, ends]
    rfl
  -- No other keyword starts the text: their first letters differ.
  have found : keyword? (word ++ s) = some (word, value) := by
    simp only [keywords, List.mem_cons, Prod.mk.injEq, List.not_mem_nil, or_false] at hw
    rcases hw with ⟨rfl, rfl⟩ | ⟨rfl, rfl⟩ | ⟨rfl, rfl⟩
    · exact List.find?_cons_of_pos (this _)
    · exact (List.find?_cons_of_neg (by simp [startsWord, List.isPrefixOf])).trans
        (List.find?_cons_of_pos (this _))
    · exact (List.find?_cons_of_neg (by simp [startsWord, List.isPrefixOf])).trans
        ((List.find?_cons_of_neg (by simp [startsWord, List.isPrefixOf])).trans
          (List.find?_cons_of_pos (this _)))
  simp [readKeyword, found]

/-- A keyword at the front of a call ends inside the name or at the parenthesis. -/
theorem startsWord_call {word name : List Char} (hw : '(' ∉ word)
    (hn : ∀ c ∈ name, isNameChar c = true) : startsWord word (name ++ '(' :: s) = false := by
  induction word generalizing name with
  | nil =>
    cases name with
    | nil => simp [startsWord]
    | cons c name => simp [startsWord, hn c List.mem_cons_self]
  | cons w word ih =>
    rw [List.mem_cons, not_or] at hw
    cases name with
    | nil =>
      have : w ≠ '(' := fun h => hw.1 h.symm
      simp [startsWord, List.isPrefixOf, this]
    | cons c name =>
      have rest := ih hw.2 fun d hd => hn d (List.mem_cons_of_mem c hd)
      by_cases hc : w = c
      · simpa [startsWord, List.isPrefixOf, hc] using rest
      · simp [startsWord, List.isPrefixOf, hc]

/-- What starts a call is no keyword. -/
theorem readKeyword_call {name : List Char} (hn : ∀ c ∈ name, isNameChar c = true) :
    readKeyword (name ++ '(' :: s) = .done none (name ++ '(' :: s) := by
  have none : keyword? (name ++ '(' :: s) = none := by
    apply List.find?_eq_none.2
    intro k hk
    have paren : ∀ k ∈ keywords, '(' ∉ k.1 := by decide
    simp [startsWord_call (paren k hk) hn]
  simp [readKeyword, none]

theorem isFunctionName_chars {name : List Char} (h : isFunctionName name = true) :
    ∃ c rest, name = c :: rest ∧ isSmallLetter c = true ∧ ∀ d ∈ name, isFunctionChar d = true := by
  cases name with
  | nil => cases h
  | cons c rest =>
    obtain ⟨start, more⟩ : isSmallLetter c = true ∧ rest.all isFunctionChar = true := by
      simpa [isFunctionName] using h
    refine ⟨c, rest, rfl, start, fun d hd => ?_⟩
    rcases List.mem_cons.1 hd with rfl | hd
    · simp [isFunctionChar, start]
    · exact List.all_eq_true.1 more d hd

theorem readFunctionName_append {name : List Char} (hn : ∀ c ∈ name, isFunctionChar c = true) :
    readFunctionName (name ++ '(' :: s) = .done (String.ofList name) ('(' :: s) :=
  map_done String.ofList (takeWhile_run hn (Stops.cons rfl))

end PathQuery.Lexeme
