import Mathlib.Data.List.TakeWhile
import PathQuery.Proofs.Path.Follow
import PathQuery.Proofs.Reader.Settled
import PathQuery.Proofs.Text.Class

/-!
# Readers in front of a delimiter

A text that is read to its end is read the same way in front of more text, if what stands behind it
separates: if, behind white space, it starts with the sign of a connective or with one that closes. No word
goes on with such a text, and no rule that looks ahead finds there what it looks for, except those that look
for connectives and closing signs themselves. What these leave must then be known to begin with a sign that
ends them, so the property of a reader has a condition on what is left as a parameter.

A reader may pass over white space at the end of its text. It then does the same with the white space of the
text behind, so of what stands behind it only the part behind white space is sure to be left.

## Main definitions

* `Delimits` — a text starts, behind white space, with the sign of a connective or with a closing one.
* `Reader.Extends` — what the reader takes off a text it takes off with such a text behind it.

## Main results

* `Reader.Extends.bind`, `Reader.Extends.bind_of`, `Reader.Extends.peek_bind` — sequences.
* `Reader.Extends.takeWhile`, `Reader.Extends.skipBlank` and the like — the steps.
-/

namespace PathQuery

variable {c d : Char} {s t tail : List Char}

/-! ## Texts that separate -/

/-- The signs that may stand behind an operand: those of connectives, and the closing ones. -/
def isDelimiter (c : Char) : Bool := c == '&' || c == '|' || c == ')' || c == ']'

/-- White space and delimiters. -/
def separates (c : Char) : Bool := isBlank c || isDelimiter c

/-- A text that starts, behind white space, with a delimiter. -/
def Delimits (s : List Char) : Prop := ∃ c t, s.dropWhile isBlank = c :: t ∧ isDelimiter c = true

theorem separates_of_isDelimiter (h : isDelimiter c = true) : separates c = true := by
  simp [separates, h]

theorem ne_of_separates (hc : separates c = true) (hd : separates d = false) : c ≠ d := by
  rintro rfl
  rw [hc] at hd
  cases hd

/-- No character of a name separates. -/
theorem isNameChar_of_separates (h : separates c = true) : isNameChar c = false := by
  simp only [separates, isDelimiter, Bool.or_eq_true, beq_iff_eq] at h
  rcases h with blank | ((rfl | rfl) | rfl) | rfl
  · exact isNameChar_of_isBlank blank
  all_goals decide

/-- A class of characters of names has none that separates. -/
theorem not_of_separates {p : Char → Bool} (hp : ∀ c, p c = true → isNameChar c = true)
    (h : separates c = true) : p c = false :=
  Bool.eq_false_iff.2 fun member => by
    have other := isNameChar_of_separates h
    rw [hp c member] at other
    cases other

theorem isDigit_of_separates : separates c = true → c.isDigit = false :=
  not_of_separates fun _ => isNameChar_of_isDigit

theorem isFunctionChar_of_separates : separates c = true → isFunctionChar c = false :=
  not_of_separates fun _ => isNameChar_of_isFunctionChar

theorem startsNumber_of_separates : separates c = true → Lexeme.startsNumber c = false := by
  refine not_of_separates fun c number => ?_
  simp only [Lexeme.startsNumber, Bool.or_eq_true, beq_iff_eq] at number
  rcases number with rfl | digit
  · decide
  · exact isNameChar_of_isDigit digit

theorem opensSegment_of_separates (h : separates c = true) : Grammar.opensSegment c = false := by
  have point : c ≠ '.' := ne_of_separates h (by decide)
  have bracket : c ≠ '[' := ne_of_separates h (by decide)
  simp [Grammar.opensSegment, point, bracket]

namespace Delimits

/-- White space in front makes no difference. -/
theorem congr (h : Delimits s) (same : t.dropWhile isBlank = s.dropWhile isBlank) : Delimits t := by
  obtain ⟨c, u, front, delimiter⟩ := h
  exact ⟨c, u, same.trans front, delimiter⟩

theorem exists_cons (h : Delimits s) : ∃ c t, s = c :: t ∧ separates c = true := by
  obtain ⟨d, u, front, delimiter⟩ := h
  cases s with
  | nil => cases front
  | cons c s =>
    refine ⟨c, s, rfl, ?_⟩
    by_cases blank : isBlank c = true
    · simp [separates, blank]
    · rw [List.dropWhile_cons_of_neg blank] at front
      cases front
      exact separates_of_isDelimiter delimiter

theorem stops {p : Char → Bool} (h : Delimits s) (hp : ∀ c, separates c = true → p c = false) :
    Stops p s := by
  obtain ⟨c, t, rfl, hc⟩ := h.exists_cons
  exact Stops.cons (hp c hc)

theorem head_ne (h : Delimits s) (hd : separates d = false) : s.head? ≠ some d := by
  obtain ⟨c, t, rfl, hc⟩ := h.exists_cons
  simpa using ne_of_separates hc hd

end Delimits

namespace Reader

open ReadError (Cause)

variable {ε α β : Type}

/-- If the reader takes a value off the text, with something left that is `ok`, it takes the same off the
text with a delimiting one behind it. Of what stands behind, white space may be passed over. -/
def Extends (ok : List Char → Prop) (p : Reader ε α) (s : List Char) : Prop :=
  ∀ a t, p s = .done a t → ok t → ∀ tail, Delimits tail →
    ∃ tail', tail'.dropWhile isBlank = tail.dropWhile isBlank ∧ p (s ++ tail) = .done a (t ++ tail')

/-- The condition that any text fulfils. -/
def Anything (_ : List Char) : Prop := True

namespace Extends

variable {ok ok' : List Char → Prop} {p : Reader ε α} {f : α → Reader ε β}

/-! ## Sequences -/

theorem mono (h : Extends ok p s) (le : ∀ t, ok' t → ok t) : Extends ok' p s :=
  fun a t read left => h a t read (le t left)

theorem of_any (h : Extends Anything p s) : Extends ok p s := h.mono fun _ _ => trivial

/-- Nothing is asked of a text that the reader fails on. -/
theorem of_failed {e : ε} (h : p s = .failed e t) : Extends ok p s := by
  intro a u read
  rw [h] at read
  cases read

/-- A reader may leave all of the text behind as it is. -/
theorem of_append (h : ∀ tail, Delimits tail → p (s ++ tail) = (p s).append tail) :
    Extends ok p s := by
  intro a t read _ tail delimits
  refine ⟨tail, rfl, ?_⟩
  rw [h tail delimits, read]
  rfl

/-- What the first reader of a sequence leaves is `ok` if the second reader ends well on it. -/
theorem bind_of (hp : Extends ok p s)
    (front : ∀ a t b u, p s = .done a t → f a t = .done b u → ok' u → ok t)
    (hf : ∀ a t, p s = .done a t → Extends ok' (f a) t) : Extends ok' (p >>= f) s := by
  intro b u read left tail delimits
  obtain ⟨a, t, first, second⟩ := bind_eq_done_iff.1 read
  obtain ⟨tail₁, same₁, first'⟩ := hp a t first (front a t b u first second left) tail delimits
  obtain ⟨tail₂, same₂, second'⟩ := hf a t first b u second left tail₁ (delimits.congr same₁)
  exact ⟨tail₂, same₂.trans same₁, by rw [bind_done first', second']⟩

theorem bind (hp : Extends Anything p s) (hf : ∀ a t, p s = .done a t → Extends ok (f a) t) :
    Extends ok (p >>= f) s :=
  hp.bind_of (fun _ _ _ _ _ _ _ => trivial) hf

theorem pure (a : α) : Extends ok (pure a : Reader ε α) s := of_append fun _ _ => rfl

theorem fail (e : ε) : Extends ok (fail e : Reader ε α) s := of_failed rfl

theorem map (g : α → β) (hp : Extends ok p s) : Extends ok (g <$> p) s :=
  hp.bind_of (fun a t b u _ read left => by cases read; exact left) fun a _ _ => pure (g a)

/-! ## Looking at the next character -/

theorem peek_bind {f : Option Char → Reader ε β} (empty : s = [] → Extends ok (peek >>= f) [])
    (cons : ∀ c t, s = c :: t → Extends ok (f (some c)) (c :: t)) : Extends ok (peek >>= f) s := by
  cases s with
  | nil => exact empty rfl
  | cons c t => exact cons c t rfl

/-- At the end of its text a reader looks at what stands behind it. -/
theorem peek_empty {f : Option Char → Reader ε β} (same : ∀ c, separates c = true → f (some c) = f none)
    (h : Extends ok (f none) []) : Extends ok (peek >>= f) [] := by
  intro a t read left tail delimits
  obtain ⟨c, u, rfl, hc⟩ := delimits.exists_cons
  show ∃ tail', _ ∧ f (some c) ([] ++ c :: u) = _
  rw [same c hc]
  exact h a t read left _ delimits

/-- A reader that asks for one character, which does not separate, and goes on otherwise. -/
theorem peek_if (opens : Option Char → Prop) [DecidablePred opens] {g h : Reader ε β} (none : ¬ opens none)
    (other : ∀ c, separates c = true → ¬ opens (some c))
    (hg : ∀ c t, s = c :: t → opens (some c) → Extends ok g (c :: t)) (hh : Extends ok h s) :
    Extends ok (do if opens (← peek) then g else h) s := by
  refine peek_bind (fun empty => ?_) fun c t cons => ?_
  · subst empty
    refine peek_empty (fun c hc => ?_) ?_
    · rw [if_neg (other c hc), if_neg none]
    · rw [if_neg none]
      exact hh
  · split
    next found => exact hg c t cons found
    next => exact cons ▸ hh

theorem peek_char (hd : separates d = false) {g h : Reader ε β}
    (hg : ∀ t, s = d :: t → Extends ok g (d :: t)) (hh : Extends ok h s) :
    Extends ok (do if (← peek) = some d then g else h) s :=
  peek_if (· = some d) (fun none => by cases none) (fun c hc => by simpa using ne_of_separates hc hd)
    (fun c t cons same => by cases same; exact hg t cons) hh

/-- At the end of its text a reader fails that needs another character. -/
theorem peek_needs {f : Option Char → Reader ε β} {e : ε} {t : List Char} (none : f none [] = .failed e t)
    (cons : ∀ c t, s = c :: t → Extends ok (f (some c)) (c :: t)) : Extends ok (peek >>= f) s :=
  peek_bind (fun _ => of_failed (show f Option.none [] = _ from none)) cons

/-! ## Steps -/

theorem skip_bind {f : Unit → Reader ε β} (h : Extends ok (f ()) t) :
    Extends ok (skip >>= f) (c :: t) := h

theorem skip : Extends ok (skip : Reader ε _) (c :: t) := of_append fun _ _ => rfl

theorem skipMany_bind {f : Unit → Reader ε β} {n : Nat} (long : n ≤ s.length)
    (h : Extends ok (f ()) (s.drop n)) : Extends ok (skipMany n >>= f) s := by
  intro a t read left tail delimits
  obtain ⟨tail', same, read'⟩ := h a t read left tail delimits
  refine ⟨tail', same, ?_⟩
  show f () ((s ++ tail).drop n) = _
  rw [List.drop_append_of_le_length long, read']

theorem takeWhile {p : Char → Bool} (hp : ∀ c, separates c = true → p c = false) :
    Extends ok (takeWhile p : Reader ε _) s := by
  refine of_append fun tail delimits => ?_
  rw [takeWhile_append_of_stops ((delimits.stops hp).dropWhile_append s)]
  rfl

theorem skipBlank : Extends ok Lexeme.skipBlank s := by
  intro a t read _ tail _
  obtain rfl : s.dropWhile isBlank = t := by simpa [Lexeme.skipBlank] using read
  show ∃ tail', _ ∧ Reading.done () ((s ++ tail).dropWhile isBlank) = _
  rw [List.dropWhile_append]
  split
  next blank =>
    refine ⟨tail.dropWhile isBlank, (Stops.of_dropWhile isBlank tail).dropWhile, ?_⟩
    rw [List.isEmpty_iff.1 blank, List.nil_append]
  next => exact ⟨tail, rfl, rfl⟩

/-- Behind white space the text is the same whether the reader passes over it or not. -/
theorem skipBlank_bind {f : Unit → Reader Cause β} (h : Extends ok (f ()) (s.dropWhile isBlank)) :
    Extends ok (Lexeme.skipBlank >>= f) s :=
  skipBlank.bind fun _ t read => by
    obtain rfl : s.dropWhile isBlank = t := by simpa [Lexeme.skipBlank] using read
    exact h

/-- A word of characters that do not separate is not found across the end of the text. -/
theorem isPrefixOf_append {word : List Char} (hw : word.any separates = false) (s : List Char)
    (delimits : Delimits tail) : word.isPrefixOf (s ++ tail) = word.isPrefixOf s := by
  induction word generalizing s with
  | nil => rfl
  | cons c word ih =>
    obtain ⟨first, others⟩ := Bool.or_eq_false_iff.1 hw
    cases s with
    | nil =>
      obtain ⟨d, t, rfl, hd⟩ := delimits.exists_cons
      have other : c ≠ d := (ne_of_separates hd first).symm
      simp [List.isPrefixOf, other]
    | cons d s => rw [List.cons_append, List.isPrefixOf, List.isPrefixOf, ih others]

theorem lookingAt_bind {word : List Char} (hw : word.any separates = false) {f : Bool → Reader ε β}
    (found : word <+: s → Extends ok (f true) s) (other : Extends ok (f false) s) :
    Extends ok (lookingAt word >>= f) s := by
  refine bind (of_append fun tail delimits => ?_) fun b t read => ?_
  · rw [lookingAt_apply, isPrefixOf_append hw s delimits]
    rfl
  · rw [lookingAt_apply] at read
    cases front : word.isPrefixOf s with
    | true =>
      rw [front] at read
      cases read
      exact found (List.isPrefixOf_iff_prefix.1 front)
    | false =>
      rw [front] at read
      cases read
      exact other

/-- A reader that looks ahead and may stop there. If it stops with something left that is `ok`, it must stop
in front of more text as well. -/
theorem look_if (look : List Char → Bool) {p : Reader ε Bool} (hp : ∀ s, p s = .done (look s) s)
    {g : Reader ε β} {b : β}
    (same : ok s ∨ look s = true → ∀ tail, Delimits tail → look (s ++ tail) = look s)
    (found : look s = true → Extends ok g s) : Extends ok (do if ← p then g else Pure.pure b) s := by
  have run (t : List Char) : (do if ← p then g else Pure.pure b : Reader ε β) t =
      if look t = true then g t else .done b t := by
    rw [bind_done (hp t)]
    split <;> rfl
  intro a t read left tail delimits
  rw [run] at read ⊢
  split at read
  next seen =>
    rw [same (.inr seen) tail delimits, if_pos seen]
    exact found seen a t read left tail delimits
  next unseen =>
    cases read
    rw [same (.inl left) tail delimits, if_neg unseen]
    exact ⟨tail, rfl, rfl⟩

end Extends

end Reader

end PathQuery
