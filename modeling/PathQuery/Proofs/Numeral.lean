import PathQuery.Json.Writer
import PathQuery.Numeral
import PathQuery.Proofs.Reader.Run

/-!
# Numerals that are written and read

The reader of numerals is greedy, so a numeral comes back from its characters if what follows cannot
make any of its parts longer: no digit, no point and no letter of an exponent. Each part is read by a
lemma of its own, and the same lemmas serve the integers of indices and slices, which are a sign and a
whole part. An exponent has several spellings, of which one is written.

## Main definitions

* `IsRun`, `IsWhole` — digits, and digits without a redundant zero in front.
* `Numeral.Spells`, `Numeral.EndsBefore` — the spellings of a numeral, and the texts that end it.
* `Numeral.chars`, `Numeral.Proper` — the written form of a numeral, and when it is one.
* `Numeral.ofInt` — the numeral of an integer.
* `Numeral.follows` — the characters that would make a numeral longer.

## Main results

* `toDigits_isWhole` — the digits of a number are a whole part.
* `Numeral.readSign_chars`, `Numeral.readWhole_append` — reading a sign and a whole part.
* `Numeral.read_spelling` — a numeral is read from each of its spellings.
* `Numeral.read_chars` — a numeral is read back from its characters.
-/

namespace PathQuery

/-! ## Runs of digits -/

/-- At least one digit, and nothing else. -/
structure IsRun (ds : List Char) : Prop where
  ne_nil : ds ≠ []
  digits : ∀ c ∈ ds, c.isDigit = true

/-- A run of digits that starts with a zero only if the zero is all of it. -/
structure IsWhole (ds : List Char) : Prop extends IsRun ds where
  redundant : ds.head? = some '0' → ds = ['0']

theorem IsRun.append {ds es : List Char} (hd : IsRun ds) (he : ∀ c ∈ es, c.isDigit = true) :
    IsRun (ds ++ es) := by
  constructor
  · intro h
    exact hd.ne_nil (List.append_eq_nil_iff.1 h).1
  · intro c hc
    rcases List.mem_append.1 hc with hc | hc
    · exact hd.digits c hc
    · exact he c hc

/-- A run of digits starts with one. -/
theorem IsRun.exists_cons {ds : List Char} (h : IsRun ds) :
    ∃ c cs, ds = c :: cs ∧ c.isDigit = true := by
  cases ds with
  | nil => exact absurd rfl h.ne_nil
  | cons c cs => exact ⟨c, cs, rfl, h.digits c List.mem_cons_self⟩

/-- A run of digits stops every class that has no digits. -/
theorem IsRun.stops {p : Char → Bool} {ds : List Char} (h : IsRun ds)
    (hp : ∀ c : Char, c.isDigit = true → p c = false) (s : List Char) : Stops p (ds ++ s) := by
  obtain ⟨c, cs, rfl, hc⟩ := h.exists_cons
  exact Stops.cons (hp c hc)

/-- A digit is no sign. -/
theorem ne_sign_of_isDigit {c : Char} (h : c.isDigit = true) : c ≠ '+' ∧ c ≠ '-' := by
  constructor
  · rintro rfl
    contradiction
  · rintro rfl
    contradiction

theorem IsRun.stops_minus {ds : List Char} (h : IsRun ds) (s : List Char) :
    Stops (· == '-') (ds ++ s) :=
  h.stops (fun _ hc => beq_eq_false_iff_ne.2 (ne_sign_of_isDigit hc).2) s

theorem toDigits_isRun (n : Nat) : IsRun (Nat.toDigits 10 n) :=
  ⟨Nat.toDigits_ne_nil, fun _ hc => Nat.isDigit_of_mem_toDigits (by decide) (by decide) hc⟩

theorem digitChar_ne_zero {d : Nat} (hd : d < 10) (h : d ≠ 0) : d.digitChar ≠ '0' := by
  have : ∀ d, d < 10 → d ≠ 0 → d.digitChar ≠ '0' := by decide
  exact this d hd h

/-- The first digit of a positive number is not zero. -/
theorem head_toDigits {n : Nat} (h : 0 < n) : (Nat.toDigits 10 n).head? ≠ some '0' := by
  induction n using Nat.strongRecOn with
  | _ n ih =>
    by_cases hn : n < 10
    · rw [Nat.toDigits_of_lt_base hn]
      intro h0
      exact digitChar_ne_zero hn (by omega) (by simpa using h0)
    · have hq := ih (n / 10) (by omega) (by omega)
      rw [Nat.toDigits_of_base_le (by decide) (by omega), List.head?_append]
      cases hd : (Nat.toDigits 10 (n / 10)).head? with
      | none => exact absurd (List.head?_eq_none_iff.1 hd) Nat.toDigits_ne_nil
      | some c =>
        rw [hd] at hq
        simpa using hq

/-- The digits of a number have no redundant zero. -/
theorem toDigits_isWhole (n : Nat) : IsWhole (Nat.toDigits 10 n) := by
  refine ⟨toDigits_isRun n, fun h => ?_⟩
  by_cases hn : n = 0
  · subst hn
    rfl
  · exact absurd h (head_toDigits (by omega))

theorem isWhole_zero : IsWhole ['0'] := toDigits_isWhole 0

/-- Reading the digits of a number gives the number. -/
theorem natOfDigits_toDigits (n : Nat) : natOfDigits (Nat.toDigits 10 n) = n :=
  Nat.ofDigitChars_ten_toDigits

namespace Numeral

open Reader

variable {ε : Type} {s : List Char}

/-! ## Reading the parts -/

/-- A minus sign, or nothing. -/
def signChars (negative : Bool) : List Char := if negative then ['-'] else []

theorem readSign_chars (negative : Bool) (hs : Stops (· == '-') s) :
    (readSign : Reader ε Bool) (signChars negative ++ s) = .done negative s := by
  cases negative with
  | true => rfl
  | false =>
    have : s.head? ≠ some '-' := fun h => by
      have := hs _ h
      contradiction
    simp [signChars, readSign, bind_apply, this]

theorem readDigits_append (bad : ε) {ds : List Char} (hd : IsRun ds) (hs : Stops Char.isDigit s) :
    readDigits bad (ds ++ s) = .done ds s := by
  obtain ⟨c, cs, rfl, hc⟩ := hd.exists_cons
  have run := takeWhile_run (ε := ε) hd.digits hs
  simpa [readDigits, bind_apply, hc] using run

theorem readWhole_append (bad : ε) {ds : List Char} (hd : IsWhole ds)
    (hs : Stops Char.isDigit s) : readWhole bad (ds ++ s) = .done ds s := by
  by_cases zero : ds.head? = some '0'
  · obtain rfl := hd.redundant zero
    cases s with
    | nil => rfl
    | cons c s => simp [readWhole, bind_apply, hs c rfl]
  · have run := readDigits_append bad hd.toIsRun hs
    obtain ⟨c, cs, rfl, -⟩ := hd.exists_cons
    have : c ≠ '0' := by simpa using zero
    simpa [readWhole, bind_apply, this] using run

/-- A point and the digits behind it, or nothing. -/
def fractionChars : Option (List Char) → List Char
  | none => []
  | some ds => '.' :: ds

theorem readFraction_chars (bad : ε) {fraction : Option (List Char)}
    (hf : ∀ ds, fraction = some ds → IsRun ds) (hs : Stops Char.isDigit s)
    (hp : fraction = none → Stops (· == '.') s) :
    readFraction bad (fractionChars fraction ++ s) = .done fraction s := by
  cases fraction with
  | none =>
    have : s.head? ≠ some '.' := fun h => by
      have := hp rfl _ h
      contradiction
    simp [fractionChars, readFraction, bind_apply, this]
  | some ds => exact map_done _ (readDigits_append bad (hf ds rfl) hs)

/-- The signs of an exponent, and whether they make it negative. -/
def exponentSigns : List (List Char × Bool) := [([], false), (['+'], false), (['-'], true)]

theorem mem_exponentSigns {sign : List Char} {negative : Bool} : (sign, negative) ∈ exponentSigns ↔
    (sign = [] ∧ negative = false) ∨ (sign = ['+'] ∧ negative = false) ∨
      (sign = ['-'] ∧ negative = true) := by
  simp [exponentSigns]

/-- The spellings of an exponent: its letter may be a capital, and a plus sign may be left out. -/
inductive ExponentSpelling : Option (Bool × List Char) → List Char → Prop where
  | absent : ExponentSpelling none []
  | present {letter : Char} {sign ds : List Char} {negative : Bool} (hl : letter ∈ ['e', 'E'])
      (hs : (sign, negative) ∈ exponentSigns) (run : IsRun ds) :
      ExponentSpelling (some (negative, ds)) (letter :: (sign ++ ds))

/-- An exponent starts with its letter, and where there is none the text behind it is next. -/
theorem ExponentSpelling.stops {p : Char → Bool} {exponent : Option (Bool × List Char)} {e : List Char}
    (h : ExponentSpelling exponent e) (small : p 'e' = false) (capital : p 'E' = false)
    (hs : exponent = none → Stops p s) : Stops p (e ++ s) := by
  cases h with
  | absent => exact hs rfl
  | @present letter _ _ _ letters =>
    obtain rfl | rfl : letter = 'e' ∨ letter = 'E' := by simpa using letters
    · exact Stops.cons small
    · exact Stops.cons capital

theorem readExponentSign_append {sign : List Char} {negative : Bool}
    (h : (sign, negative) ∈ exponentSigns) (hs : Stops (fun c => c == '+' || c == '-') s) :
    (readExponentSign : Reader ε Bool) (sign ++ s) = .done negative s := by
  rcases mem_exponentSigns.1 h with ⟨rfl, rfl⟩ | ⟨rfl, rfl⟩ | ⟨rfl, rfl⟩
  · cases s with
    | nil => rfl
    | cons c s =>
      obtain ⟨plus, minus⟩ : c ≠ '+' ∧ c ≠ '-' := by simpa using hs c rfl
      simp [readExponentSign, bind_apply, plus, minus]
  · rfl
  · rfl

theorem readExponent_spelling (bad : ε) {exponent : Option (Bool × List Char)} {e : List Char}
    (he : ExponentSpelling exponent e) (hs : Stops Char.isDigit s)
    (hl : exponent = none → Stops (fun c => c == 'e' || c == 'E') s) :
    readExponent bad (e ++ s) = .done exponent s := by
  cases he with
  | absent =>
    have : ¬(s.head? = some 'e' ∨ s.head? = some 'E') := by
      rintro (h | h)
      · have := hl rfl _ h
        contradiction
      · have := hl rfl _ h
        contradiction
    simp [readExponent, bind_apply, this]
  | @present letter sign ds negative letters signs run =>
    have noSign : Stops (fun c => c == '+' || c == '-') (ds ++ s) :=
      run.stops (fun c hc => by simpa using ne_sign_of_isDigit hc) s
    have signRead := readExponentSign_append (ε := ε) signs noSign
    have digits := readDigits_append bad run hs
    have opens : some letter = some 'e' ∨ some letter = some 'E' := by simpa using letters
    rw [readExponent, List.cons_append, List.append_assoc, bind_done (peek_apply _), List.head?_cons,
      if_pos opens, bind_done (skip_apply _), List.tail_cons, bind_done signRead, bind_done digits]
    rfl

/-! ## Integers -/

/-- An integer is its sign and its size. -/
theorem signed_natAbs (t : Int) : signed (decide (t < 0)) t.natAbs = t := by
  by_cases ht : t < 0
  · simp only [signed, ht, decide_true, if_true]
    omega
  · simp only [signed, ht, decide_false, Bool.false_eq_true, if_false]
    omega

/-- An integer is written as a sign and a whole part. -/
theorem intChars_eq (n : Int) :
    intChars n = signChars (decide (n < 0)) ++ Nat.toDigits 10 n.natAbs := by
  by_cases hn : n < 0
  · simp [intChars, signChars, hn]
  · simp [intChars, signChars, hn]

/-- The parts of the numeral of an integer. -/
def ofInt (n : Int) : Numeral := ⟨decide (n < 0), Nat.toDigits 10 n.natAbs, none, none⟩

theorem integer?_ofInt (n : Int) : (ofInt n).integer? = some n := by
  simp only [ofInt, integer?, natOfDigits_toDigits, signed_natAbs]

/-- An integer starts with its sign or with a digit. -/
theorem intChars_head (n : Int) :
    ∃ c cs, intChars n = c :: cs ∧ (c = '-' ∨ c.isDigit = true) := by
  by_cases hn : n < 0
  · exact ⟨'-', _, if_pos hn, .inl rfl⟩
  · obtain ⟨c, cs, hd, hc⟩ := (toDigits_isRun n.natAbs).exists_cons
    exact ⟨c, cs, (if_neg hn).trans hd, .inr hc⟩

/-! ## Reading the whole -/

/-- A text that consists of the parts of a numeral, in one of the spellings of its exponent. -/
structure Spells (n : Numeral) (u : List Char) : Prop where
  whole : IsWhole n.whole
  fraction : ∀ ds, n.fraction = some ds → IsRun ds
  parts : ∃ e, ExponentSpelling n.exponent e ∧
    u = signChars n.negative ++ (n.whole ++ (fractionChars n.fraction ++ e))

/-- A numeral with a sign and a whole part only. -/
structure IsInteger (n : Numeral) : Prop where
  fraction : n.fraction = none
  exponent : n.exponent = none

theorem spells_integer {ds : List Char} (hd : IsWhole ds) (negative : Bool) :
    Spells ⟨negative, ds, none, none⟩ (signChars negative ++ ds) :=
  ⟨hd, nofun, [], .absent, by simp [fractionChars]⟩

theorem Spells.eq_of_isInteger {n : Numeral} {u : List Char} (h : n.Spells u) (hn : n.IsInteger) :
    u = signChars n.negative ++ n.whole := by
  obtain ⟨e, spelling, rfl⟩ := h.parts
  rw [hn.exponent] at spelling
  cases spelling
  simp [hn.fraction, fractionChars]

/-- The text behind a numeral goes on with none of its parts. -/
structure EndsBefore (n : Numeral) (s : List Char) : Prop where
  digit : Stops Char.isDigit s
  point : n.fraction = none → n.exponent = none → Stops (· == '.') s
  letter : n.exponent = none → Stops (fun c => c == 'e' || c == 'E') s

/-- A numeral is read from each of its spellings, if nothing behind it goes on with it. -/
theorem read_spelling (bad : ε) {n : Numeral} {u : List Char} (hn : n.Spells u) (hs : n.EndsBefore s) :
    read bad (u ++ s) = .done n s := by
  obtain ⟨e, spelling, rfl⟩ := hn.parts
  -- What stands behind a part starts with a sign of the next one, or it is what stops the numeral.
  have exponentDigits : Stops Char.isDigit (e ++ s) := spelling.stops rfl rfl fun _ => hs.digit
  have exponentPoint : n.fraction = none → Stops (· == '.') (e ++ s) := fun fraction =>
    spelling.stops rfl rfl (hs.point fraction)
  have fractionDigits : Stops Char.isDigit (fractionChars n.fraction ++ (e ++ s)) := by
    cases n.fraction with
    | none => exact exponentDigits
    | some ds => exact Stops.cons rfl
  have minus : Stops (· == '-') (n.whole ++ (fractionChars n.fraction ++ (e ++ s))) :=
    hn.whole.stops_minus _
  have split : signChars n.negative ++ (n.whole ++ (fractionChars n.fraction ++ e)) ++ s =
      signChars n.negative ++ (n.whole ++ (fractionChars n.fraction ++ (e ++ s))) := by
    simp only [List.append_assoc]
  rw [split, read]
  rw [bind_done (readSign_chars n.negative minus)]
  rw [bind_done (readWhole_append bad hn.whole fractionDigits)]
  rw [bind_done (readFraction_chars bad hn.fraction exponentDigits exponentPoint)]
  rw [bind_done (readExponent_spelling bad spelling hs.digit hs.letter)]
  rfl

/-! ## Written numerals -/

/-- The letter, the sign and the digits of an exponent, or nothing. -/
def exponentChars : Option (Bool × List Char) → List Char
  | none => []
  | some (negative, ds) => 'e' :: (if negative then '-' else '+') :: ds

/-- The characters of a numeral. An exponent is written with a small letter and with its sign. -/
def chars (n : Numeral) : List Char :=
  signChars n.negative ++ (n.whole ++ (fractionChars n.fraction ++ exponentChars n.exponent))

/-- The parts of a numeral are runs of digits, and its whole part has no redundant zero. -/
structure Proper (n : Numeral) : Prop where
  whole : IsWhole n.whole
  fraction : ∀ ds, n.fraction = some ds → IsRun ds
  exponent : ∀ b ds, n.exponent = some (b, ds) → IsRun ds

theorem chars_ofInt (n : Int) : (ofInt n).chars = intChars n := by
  simp [ofInt, chars, fractionChars, exponentChars, intChars_eq]

theorem proper_ofInt (n : Int) : (ofInt n).Proper := ⟨toDigits_isWhole _, nofun, nofun⟩

theorem exponentChars_spelling {exponent : Option (Bool × List Char)}
    (he : ∀ b ds, exponent = some (b, ds) → IsRun ds) :
    ExponentSpelling exponent (exponentChars exponent) := by
  match exponent with
  | none => exact .absent
  | some (false, ds) => exact .present (by decide) (by decide : (['+'], false) ∈ exponentSigns) (he _ _ rfl)
  | some (true, ds) => exact .present (by decide) (by decide : (['-'], true) ∈ exponentSigns) (he _ _ rfl)

theorem spells_chars {n : Numeral} (hn : n.Proper) : n.Spells n.chars :=
  ⟨hn.whole, hn.fraction, _, exponentChars_spelling hn.exponent, rfl⟩

/-- The characters that would go on with a numeral. -/
def follows (c : Char) : Bool := c.isDigit || c == '.' || c == 'e' || c == 'E'

theorem endsBefore_of_follows (n : Numeral) (hs : Stops follows s) : n.EndsBefore s := by
  refine ⟨hs.mono fun c hc => ?_, fun _ _ => hs.mono fun c hc => ?_, fun _ => hs.mono fun c hc => ?_⟩
  · simp [follows, hc]
  · rw [beq_iff_eq] at hc
    subst hc
    rfl
  · rw [Bool.or_eq_true, beq_iff_eq, beq_iff_eq] at hc
    rcases hc with rfl | rfl <;> rfl

/-- A numeral is read back from its characters, if nothing behind them goes on with it. -/
theorem read_chars (bad : ε) {n : Numeral} (hn : n.Proper) (hs : Stops follows s) :
    read bad (n.chars ++ s) = .done n s :=
  read_spelling bad (spells_chars hn) (n.endsBefore_of_follows hs)

end Numeral

end PathQuery
