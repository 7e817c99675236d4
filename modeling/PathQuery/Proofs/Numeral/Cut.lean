import Mathlib.Data.List.TakeWhile
import PathQuery.Path.Lexeme
import PathQuery.Proofs.Reader.Run

/-!
# Numerals cut out of a text

A numeral is read up to the first character that cannot belong to it. So what was taken off a text is a
numeral by itself, with the same parts: where the reader stopped because of the next character, it stops
as well because there is none.

## Main definitions

* `Numeral.Cuts` — what one reader takes off a text, another one takes off the text without its end.

## Main results

* `Numeral.Cuts.bind`, `Numeral.cuts_option` — sequences, and parts that may be missing.
* `Numeral.ofChars?_of_read` — a numeral that was taken off a text is one by itself.
* `Lexeme.readInt_eq` — an integer of a path is a numeral without fraction and exponent that fits a word.
-/

namespace PathQuery

open Reader (Trims)

namespace Numeral

variable {ε δ α β : Type}

/-- What the first reader takes off a text, the second one takes off the text without its end, if the end
is left. -/
structure Cuts (p : Reader ε α) (q : Reader δ α) : Prop where
  trims : Trims p
  done : ∀ s more rest a, p (s ++ rest) = .done a (more ++ rest) → q s = .done a more

/-- If the end of a text is left and no more, nothing stands in front of it. -/
theorem eq_nil_of_append {more rest : List Char} (h : (more ++ rest).length ≤ rest.length) :
    more = [] := by
  rw [List.length_append] at h
  exact List.eq_nil_of_length_eq_zero (by omega)

namespace Cuts

theorem bind {p : Reader ε α} {q : Reader δ α} {f : α → Reader ε β} {g : α → Reader δ β}
    (hp : Cuts p q) (hf : ∀ a, Cuts (f a) (g a)) : Cuts (p >>= f) (q >>= g) where
  trims := hp.trims.bind fun a => (hf a).trims
  done s more rest b h := by
    cases hps : p (s ++ rest) with
    | failed e mid =>
      rw [Reader.bind_failed hps] at h
      cases h
    | done a mid =>
      rw [Reader.bind_done hps] at h
      obtain ⟨cut, rfl⟩ : ∃ cut, cut ++ (more ++ rest) = mid := by
        have suffix := (hf a).trims mid
        rwa [h] at suffix
      rw [← List.append_assoc] at hps h
      rw [Reader.bind_done (hp.done s _ rest a hps)]
      exact (hf a).done _ more rest b h

theorem pure (a : α) : Cuts (pure a : Reader ε α) (pure a : Reader δ α) where
  trims := Trims.pure a
  done s more rest b h := by
    simp only [Reader.pure_apply, Reading.done.injEq] at h ⊢
    exact ⟨h.1, List.append_cancel_right h.2⟩

theorem fail (e : ε) (e' : δ) : Cuts (Reader.fail e : Reader ε α) (Reader.fail e') where
  trims := Trims.fail e
  done s more rest b h := by cases h

theorem map {p : Reader ε α} {q : Reader δ α} (f : α → β) (h : Cuts p q) : Cuts (f <$> p) (f <$> q) :=
  h.bind fun a => pure (f a)

theorem skip : Cuts (Reader.skip : Reader ε _) (Reader.skip : Reader δ _) where
  trims := Trims.skip
  done s more rest a h := by
    simp only [Reader.skip_apply, Reading.done.injEq, true_and] at h ⊢
    cases s with
    | nil =>
      have short : (more ++ rest).length ≤ rest.length := by
        rw [← h, List.nil_append, List.length_tail]
        exact Nat.sub_le _ _
      exact (eq_nil_of_append short).symm
    | cons c s => exact List.append_cancel_right h

theorem takeWhile (p : Char → Bool) :
    Cuts (Reader.takeWhile p : Reader ε _) (Reader.takeWhile p : Reader δ _) where
  trims := Trims.takeWhile p
  done s more rest a h := by
    simp only [Reader.takeWhile_apply, Reading.done.injEq] at h ⊢
    obtain ⟨word, left⟩ := h
    have whole := List.takeWhile_append_dropWhile (p := p) (l := s ++ rest)
    rw [word, left, ← List.append_assoc] at whole
    -- What is left of the whole is left of its beginning, and so is the word in front of it.
    obtain rfl : a ++ more = s := List.append_cancel_right whole
    have run : ∀ c ∈ a, p c = true := fun c member => by
      rw [← word] at member
      exact List.mem_takeWhile_imp member
    have stop : Stops p more := fun c head => by
      have stop := Stops.of_dropWhile p (a ++ more ++ rest)
      rw [left] at stop
      cases more with
      | nil => cases head
      | cons d more => exact stop c head
    rw [List.takeWhile_append_of_pos run, List.dropWhile_append_of_pos run, stop.takeWhile,
      stop.dropWhile, List.append_nil]
    exact ⟨rfl, rfl⟩

/-- A reader that looks at the next character may not care for it where it takes nothing off. -/
theorem peek_bind {f : Option Char → Reader ε β} {g : Option Char → Reader δ β}
    (h : ∀ d, Cuts (f d) (g d))
    (here : ∀ c rest b, f (some c) (c :: rest) = .done b (c :: rest) → g none [] = .done b []) :
    Cuts (Reader.peek >>= f) (Reader.peek >>= g) where
  trims := Trims.peek.bind fun d => (h d).trims
  done s more rest b read := by
    cases s with
    | cons c s => exact (h (some c)).done _ _ _ _ read
    | nil =>
      cases rest with
      | nil => exact (h none).done _ _ _ _ read
      | cons c rest =>
        have read : f (some c) (c :: rest) = .done b (more ++ c :: rest) := read
        have short := (h (some c)).trims.length_le (c :: rest)
        rw [read] at short
        obtain rfl := eq_nil_of_append short
        exact here c rest b read

/-- Behind a skipped character less than the text is left. -/
theorem skip_ne {f : Unit → Reader ε α} (trims : ∀ u, Trims (f u)) {c : Char} {rest : List Char}
    {a : α} : (Reader.skip >>= f) (c :: rest) ≠ .done a (c :: rest) := by
  intro read
  have read : f () rest = .done a (c :: rest) := read
  have short := (trims ()).length_le rest
  rw [read] at short
  exact Nat.not_succ_le_self _ short

end Cuts

/-- A part of a numeral that a character opens, and that may be missing. -/
theorem cuts_option (opens : Option Char → Prop) [DecidablePred opens] (none : ¬ opens none)
    {f : Unit → Reader ε α} {g : Unit → Reader δ α} (h : ∀ u, Cuts (f u) (g u)) (a : α) :
    Cuts (do if opens (← Reader.peek) then Reader.skip >>= f else pure a)
      (do if opens (← Reader.peek) then Reader.skip >>= g else pure a) := by
  refine Cuts.peek_bind (fun d => ?_) fun c rest b => ?_
  · split
    · exact Cuts.skip.bind h
    · exact Cuts.pure a
  · rw [if_neg none]
    split
    · exact fun read => absurd read (Cuts.skip_ne fun u => (h u).trims)
    · intro read
      cases read
      rfl

theorem readSign_cuts : Cuts (readSign : Reader ε _) (readSign : Reader δ _) :=
  cuts_option (fun c => c = some '-') (by simp) (fun _ => Cuts.pure true) false

theorem readDigits_cuts (e : ε) (e' : δ) : Cuts (readDigits e) (readDigits e') := by
  refine Cuts.peek_bind (fun d => ?_) fun c rest a => ?_
  · cases d with
    | none => exact Cuts.fail _ _
    | some d =>
      dsimp only
      split
      · exact Cuts.takeWhile _
      · exact Cuts.fail _ _
  · dsimp only
    split
    next digit =>
      intro h
      have short := (List.dropWhile_suffix Char.isDigit (l := rest)).length_le
      simp only [Reader.takeWhile_apply, List.dropWhile_cons_of_pos digit, Reading.done.injEq] at h
      rw [h.2] at short
      exact absurd short (Nat.not_succ_le_self _)
    · intro h
      cases h

theorem readWhole_cuts (e : ε) (e' : δ) : Cuts (readWhole e) (readWhole e') := by
  refine Cuts.peek_bind (fun d => ?_) fun c rest a => ?_
  · split
    · refine Cuts.skip.bind fun _ => Cuts.peek_bind (fun d => ?_) fun c rest a => ?_
      · cases d with
        | none => exact Cuts.pure _
        | some d =>
          dsimp only
          split
          · exact Cuts.fail _ _
          · exact Cuts.pure _
      · dsimp only
        split <;> intro h <;> cases h
        rfl
    · exact readDigits_cuts e e'
  · split
    · refine fun h => absurd h (Cuts.skip_ne fun _ => Trims.peek.bind fun d => ?_)
      cases d with
      | none => exact Trims.pure _
      | some d =>
        dsimp only
        split
        · exact Trims.fail _
        · exact Trims.pure _
    · exact (readDigits_cuts e e').done [] [] (c :: rest) a

theorem readFraction_cuts (e : ε) (e' : δ) : Cuts (readFraction e) (readFraction e') :=
  cuts_option (fun c => c = some '.') (by simp)
    (fun _ => (readDigits_cuts e e').map some) none

theorem readExponentSign_cuts :
    Cuts (readExponentSign : Reader ε _) (readExponentSign : Reader δ _) := by
  have sign (b : Bool) : Cuts (Reader.skip >>= fun _ => pure b : Reader ε _)
      (Reader.skip >>= fun _ => pure b : Reader δ _) := Cuts.skip.bind fun _ => Cuts.pure b
  refine Cuts.peek_bind (fun d => ?_) fun c rest a => ?_
  · split
    · exact sign true
    · exact sign false
    · exact Cuts.pure _
  · intro h
    by_cases minus : c = '-'
    · subst minus
      exact absurd h (Cuts.skip_ne fun _ => Trims.pure true)
    by_cases plus : c = '+'
    · subst plus
      exact absurd h (Cuts.skip_ne fun _ => Trims.pure false)
    · simp only [Option.some.injEq, minus, plus, imp_self] at h
      cases h
      rfl

theorem readExponent_cuts (e : ε) (e' : δ) : Cuts (readExponent e) (readExponent e') :=
  cuts_option (fun c => c = some 'e' ∨ c = some 'E') (by simp)
    (fun _ => readExponentSign_cuts.bind fun _ => (readDigits_cuts e e').bind fun _ => Cuts.pure _) none

theorem read_cuts (e : ε) (e' : δ) : Cuts (read e) (read e') :=
  readSign_cuts.bind fun _ => (readWhole_cuts e e').bind fun _ => (readFraction_cuts e e').bind fun _ =>
    (readExponent_cuts e e').bind fun _ => Cuts.pure _

/-- A numeral that was taken off a text is one by itself. -/
theorem ofChars?_of_read {e : ε} {cut rest : List Char} {n : Numeral}
    (h : read e (cut ++ rest) = .done n rest) : ofChars? cut = some n := by
  rw [ofChars?, (read_cuts e _).done cut [] rest n h]

/-- Takes a numeral without fraction and exponent off a text. -/
def readInteger (bad : ε) : Reader ε Numeral := do
  let negative ← readSign
  let digits ← readWhole bad
  pure ⟨negative, digits, none, none⟩

theorem readInteger_cuts (e : ε) (e' : δ) : Cuts (readInteger e) (readInteger e') :=
  readSign_cuts.bind fun _ => (readWhole_cuts e e').bind fun _ => Cuts.pure _

theorem ofChars?_of_readInteger {e : ε} {cut rest : List Char} {n : Numeral}
    (h : readInteger e (cut ++ rest) = .done n rest) : ofChars? cut = some n := by
  have alone := (readInteger_cuts e Malformed.malformed).done cut [] rest n h
  rw [readInteger, Reader.bind_apply] at alone
  rw [ofChars?, read, Reader.bind_apply]
  cases sign : (readSign : Reader Malformed Bool) cut with
  | failed e mid =>
    rw [sign] at alone
    cases alone
  | done negative mid =>
    rw [sign] at alone
    simp only [Reader.bind_apply] at alone ⊢
    cases whole : readWhole Malformed.malformed mid with
    | failed e last =>
      rw [whole] at alone
      cases alone
    | done digits last =>
      rw [whole] at alone
      cases alone
      rfl

end Numeral

theorem Lexeme.readInt_eq : readInt = Numeral.readInteger .badNumber >>= fun n =>
    (n.integer?.bind Word.ofInt?).elim (Reader.fail .badNumber) pure := by
  rw [Numeral.readInteger, readInt]
  simp only [bind_assoc, pure_bind]
  refine bind_congr fun negative => bind_congr fun digits => ?_
  have value : Numeral.integer? ⟨negative, digits, none, none⟩ =
    some (Numeral.signed negative (natOfDigits digits)) := rfl
  rw [value, Option.bind_some]
  cases Word.ofInt? (Numeral.signed negative (natOfDigits digits)) <;> rfl

end PathQuery
