import PathQuery.Unicode.Letter

/-!
# Classes of characters

The characters of a path fall into blanks, which separate its parts, and the characters of names. Both
classes follow the character database.

## Main definitions

* `isBlank` — white space.
* `isNameStart`, `isNameChar` — the first character of a bare name, and the later ones.

## Main results

* `isNameChar_of_isNameStart` — a character that starts a name also continues one.
-/

namespace PathQuery

/-- White space, of any script. -/
def isBlank (c : Char) : Bool := Unicode.whiteSpace c.toNat

/-- Characters that start a bare name: the alphabetic ones and the underscore. -/
def isNameStart (c : Char) : Bool := Unicode.alphabetic c.toNat || c == '_'

/-- Characters that continue a bare name: those that start one, numbers and the hyphen. -/
def isNameChar (c : Char) : Bool :=
  Unicode.alphabetic c.toNat || Unicode.numeric c.toNat || c == '_' || c == '-'

theorem isNameChar_of_isNameStart {c : Char} (h : isNameStart c = true) : isNameChar c = true := by
  simp only [isNameStart, isNameChar, Bool.or_eq_true] at h ⊢
  exact h.elim (fun h => .inl (.inl (.inl h))) fun h => .inl (.inr h)

/-- The ASCII letters that a function name is made of. -/
def isSmallLetter (c : Char) : Bool := 'a' ≤ c && c ≤ 'z'

/-- Characters that continue a function name. -/
def isFunctionChar (c : Char) : Bool := isSmallLetter c || c.isDigit || c == '_'

end PathQuery
