import PathQuery.Proofs.Path.Extends
import PathQuery.Proofs.Reader.Watched

/-!
# Words pass a place of a text

The words of a path end where a character comes that is not theirs, and the sign of a segment, a comma and a
closing bracket belong to no word. So a word that ends at a place ends there in every variant, and white space
in front of the place ends it as well. Inside a quoted text there is no place at which anything ends.

## Main results

* `Quoted.readBody_watched`, `Lexeme.readNumber_watched`, `Lexeme.readKeyword_watched` and the like — the words.
* `Lexeme.comparison?_variant` — the sign of a comparison is found in every variant alike.
-/

namespace PathQuery

open Reader
open ReadError (Cause)

variable {ε β γ : Type} {v : Place} {loose : Prop} {s t : List Char} {c : Char}

/-! ## Quoted texts -/

namespace Quoted

theorem readUnit_watched (bad : ε) : Watched v loose (readUnit bad) (readUnit bad) s := by
  refine Watched.of_carried (readUnit_trims bad s) fun x n y hs read w _ => ⟨w, .inl rfl, ?_⟩
  obtain ⟨digits, whole, four, number⟩ := readUnit_done_iff.1 (hs ▸ read)
  rw [← List.append_assoc] at whole
  obtain rfl := List.append_cancel_right whole
  exact readUnit_done_iff.2 ⟨digits, List.append_assoc digits y w, four, number⟩

theorem readCodePoint_watched (bad : ε) :
    Watched v loose (readCodePoint bad) (readCodePoint bad) s := by
  unfold readCodePoint
  refine (readUnit_watched bad).andThen fun high t _ => ?_
  split
  · refine Watched.lookingAt_if (by decide) (fun _ => ?_) (Watched.fail _)
    refine (readUnit_watched bad).andThen fun low u _ => ?_
    split
    · exact Watched.pure _
    · exact Watched.fail _
  · split
    · exact Watched.fail _
    · exact Watched.pure _

theorem readEscape_watched (d : Dialect ε) : Takes v loose (readEscape d) (readEscape d) s := by
  unfold readEscape
  refine Takes.peek_needs (fun _ => Watched.fail _) fun c t _ => ?_
  split
  · exact Takes.skip_bind (readCodePoint_watched _)
  · split
    · exact Takes.skip_bind (Watched.pure _)
    · exact Takes.fail _
  · exact Takes.fail _

theorem readBody_watched (d : Dialect ε) (quote : Char) (s : List Char) :
    Takes v loose (readBody d quote : Reader ε _) (readBody d quote) s := by
  induction hn : s.length using Nat.strongRecOn generalizing s with
  | _ n ih =>
    rw [readBody_eq]
    refine Takes.peek_needs (fun _ => Watched.fail _) fun c t cons => ?_
    subst cons
    have shorter {u : List Char} (suffix : u <:+ t) : u.length < n :=
      hn ▸ Nat.lt_succ_of_le suffix.length_le
    dsimp only
    split
    · exact Takes.skip_bind (Watched.pure _)
    split
    · refine Takes.skip_bind ((readEscape_watched d).watched.andThen fun meant u read => ?_)
      have suffix := readEscape_trims d t
      rw [read] at suffix
      exact (ih u.length (shorter suffix) u rfl).watched.map _
    split
    · exact Takes.skip_bind ((ih t.length (shorter (List.suffix_refl t)) t rfl).watched.map _)
    · exact Takes.fail _

end Quoted

/-! ## Numerals -/

/-- White space is in no class of characters of names. -/
theorem not_of_isBlank {p : Char → Bool} (hp : ∀ c, p c = true → isNameChar c = true)
    (h : isBlank c = true) : p c = false := not_of_separates hp (by simp [separates, h])

theorem startsNumber_of_isBlank (h : isBlank c = true) : Lexeme.startsNumber c = false :=
  startsNumber_of_separates (by simp [separates, h])

namespace Numeral

theorem isDigit_of_isBlank (h : isBlank c = true) : c.isDigit = false :=
  not_of_isBlank (fun _ => isNameChar_of_isDigit) h

theorem isDigit_sign : v.sign.isDigit = false := by
  simpa using Place.of_signs (p := fun c => !c.isDigit) (by decide) v

theorem readSign_watched : Watched v loose (readSign : Reader ε Bool) readSign s :=
  Watched.peek_char (by decide) (fun _ _ => Takes.skip_bind (Watched.pure _)) (Watched.pure _)

theorem readDigits_watched (bad : ε) : Takes v loose (readDigits bad) (readDigits bad) s := by
  refine Takes.peek_needs (fun _ => Watched.fail _) fun c t _ => ?_
  dsimp only
  split
  next digit =>
    refine Takes.of_ne ((Watched.takeWhile fun _ => isDigit_of_isBlank)) ?_
    rintro ⟨⟩
    have name := isNameChar_of_isDigit digit
    rw [Place.not_isNameChar] at name
    cases name
  next => exact Takes.fail _

theorem readWhole_watched (bad : ε) : Watched v loose (readWhole bad) (readWhole bad) s := by
  refine Watched.peek_char (by decide) (fun t _ => Takes.skip_bind ?_) (readDigits_watched bad).watched
  refine Watched.peek_bind ?_ fun here => ?_
  · split
    · split
      · exact Watched.fail _
      · exact Watched.pure _
    · exact Watched.pure _
  · right
    intro c hc
    simp only [isDigit_of_isBlank hc, isDigit_sign]

theorem readFraction_watched (bad : ε) : Watched v loose (readFraction bad) (readFraction bad) s :=
  Watched.peek_char (by decide) (fun _ _ => Takes.skip_bind ((readDigits_watched bad).watched.map _))
    (Watched.pure _)

theorem readExponentSign_watched :
    Watched v loose (readExponentSign : Reader ε Bool) readExponentSign s := by
  refine Watched.peek_bind ?_ fun here => .inr fun c hc => ?_
  · cases s with
    | nil => exact Watched.pure _
    | cons c t =>
      dsimp only [List.head?_cons]
      split
      · refine Takes.watched (Takes.skip_bind ?_)
        exact Watched.pure _
      · refine Takes.watched (Takes.skip_bind ?_)
        exact Watched.pure _
      · exact Watched.pure _
  · have minus : c ≠ '-' ∧ v.sign ≠ '-' := ⟨ne_of_isBlank hc (by decide), Place.sign_ne (by decide)⟩
    have plus : c ≠ '+' ∧ v.sign ≠ '+' := ⟨ne_of_isBlank hc (by decide), Place.sign_ne (by decide)⟩
    split <;> simp_all

theorem readExponent_watched (bad : ε) : Watched v loose (readExponent bad) (readExponent bad) s := by
  refine Watched.peek_if (fun c => c = some 'e' ∨ c = some 'E') (by simp) (fun c hc => ?_)
    (fun c t _ _ => ?_) (Watched.pure _)
  · rintro (⟨⟨⟩⟩ | ⟨⟨⟩⟩) <;> exact absurd hc (by decide)
  · exact Takes.skip_bind (readExponentSign_watched.andThen fun negative u _ =>
      (readDigits_watched bad).watched.andThen fun digits v _ => Watched.pure _)

theorem read_watched (bad : ε) : Watched v loose (read bad) (read bad) s :=
  readSign_watched.andThen fun _ _ _ => (readWhole_watched bad).andThen fun _ _ _ =>
    (readFraction_watched bad).andThen fun _ _ _ => (readExponent_watched bad).andThen fun _ _ _ =>
      Watched.pure _

end Numeral

/-! ## Words -/

namespace Lexeme

theorem startsNumber_sign : startsNumber v.sign = false := by
  simpa using Place.of_signs (p := fun c => !startsNumber c) (by decide) v

theorem expect_watched (c : Char) : Takes v loose (expect c) (expect c) s := by
  refine Takes.peek_needs (fun _ => Watched.fail _) fun d t _ => ?_
  dsimp only
  split
  · exact Takes.skip
  · exact Takes.fail _

theorem readName_watched : Takes v loose readName readName s := by
  refine Takes.peek_needs (fun _ => Watched.fail _) fun c t _ => ?_
  dsimp only
  split
  next start =>
    refine Takes.of_ne ((Watched.takeWhile fun _ => isNameChar_of_isBlank).map _) ?_
    rintro ⟨⟩
    have name := isNameChar_of_isNameStart start
    rw [Place.not_isNameChar] at name
    cases name
  next => exact Takes.fail _

theorem readQuoted_watched : Takes v loose readQuoted readQuoted s := by
  refine Takes.peek_needs (fun _ => Watched.fail _) fun c t _ => ?_
  dsimp only
  split
  · exact Takes.skip_bind ((Quoted.readBody_watched _ _ _).watched.map _)
  · exact Takes.fail _

theorem readInt_watched : Watched v loose readInt readInt s := by
  refine Numeral.readSign_watched.andThen fun negative t _ =>
    (Numeral.readWhole_watched _).andThen fun digits u _ => ?_
  split
  · exact Watched.pure _
  · exact Watched.fail _

theorem readOptionalInt_watched : Watched v loose readOptionalInt readOptionalInt s := by
  refine Watched.skipBlank_bind (Watched.peek_bind ?_ fun here => .inr fun c hc => ?_)
  · split
    · split
      · exact readInt_watched.map _
      · exact Watched.pure _
    · exact Watched.pure _
  · simp only [startsNumber_of_isBlank hc, startsNumber_sign]

theorem readNumber_watched : Watched v loose readNumber readNumber s := by
  refine (Numeral.read_watched _).andThen fun n t _ => ?_
  split
  · exact Watched.pure _
  · exact Watched.fail _

theorem readFunctionName_watched : Watched v loose readFunctionName readFunctionName s :=
  (Watched.takeWhile fun _ => not_of_isBlank fun _ => isNameChar_of_isFunctionChar).map _

/-- The character behind a keyword is not one that would go on with it. -/
theorem keyword?_variant {x w : List Char} (h : v.Variant w) : keyword? (x ++ w) = keyword? x := by
  have letters : (keywords.all fun k => k.1.all fun c =>
      !isBlank c && ['.', '[', ',', ']'].all (· != c)) = true := by decide
  refine List.find?_congr fun k member => ?_
  rw [startsWord, startsWord, Place.isPrefixOf_append h (List.all_eq_true.1 letters k member)]
  cases found : k.1.isPrefixOf x with
  | false => rfl
  | true =>
    obtain ⟨more, rfl⟩ := List.isPrefixOf_iff_prefix.1 found
    rw [List.append_assoc, List.drop_left, List.drop_left]
    cases more with
    | cons c more => rfl
    | nil =>
      have stop : Stops (fun c => isNameChar c || c == '(') w := by
        refine h.stops (fun c blank => ?_) ?_
        · have call : c ≠ '(' := ne_of_isBlank blank (by decide)
          simp [isNameChar_of_isBlank blank, call]
        · have call : v.sign ≠ '(' := Place.sign_ne (by decide)
          simp [Place.not_isNameChar, call]
      obtain ⟨c, t, rfl, -⟩ := h.exists_cons
      have next : (isNameChar c || c == '(') = false := stop c rfl
      simp [next]

theorem readKeyword_watched : Watched v loose readKeyword readKeyword s :=
  Watched.of_append (readKeyword_trims s) fun _ _ h => Grammar.readKeyword_append (keyword?_variant h)

theorem comparison?_variant {x w : List Char} (h : v.Variant w) : comparison? (x ++ w) = comparison? x := by
  have signs (op : CompareOp) :
      (op.chars.all fun c => !isBlank c && ['.', '[', ',', ']'].all (· != c)) = true := by
    cases op <;> decide
  simp only [comparison?_eq, Place.isPrefixOf_append h (signs _)]

theorem peekComparison_watched : Watched v loose peekComparison peekComparison s :=
  Watched.look fun _ _ h => (comparison?_variant h).trans (comparison?_variant Place.Variant.self).symm

end Lexeme

end PathQuery
