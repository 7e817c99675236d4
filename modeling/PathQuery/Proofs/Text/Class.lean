import PathQuery.Text.Class

/-!
# No blank is a character of a name

Bisection finds a range only if it has the character in it, whether or not the ranges are in order. So
two tables are compared range by range: if each range of the one ends in front of every range of the
other or starts behind its end, then no character is in both.

## Main definitions

* `Unicode.Apart` — two lists of ranges have no character in common.

## Main results

* `Unicode.exists_of_contains` — a character of a table lies in one of its ranges.
* `Unicode.alphabetic_of_whiteSpace`, `Unicode.numeric_of_whiteSpace` — no blank is a letter or a number.
* `isNameChar_of_isBlank` — a blank ends a name.
-/

namespace PathQuery

namespace Unicode

/-! ## Tables -/

/-- The result of bisection lies between its bounds, and the entry in front of it is at most `n`. -/
theorem bisect_spec (starts : Array Nat) (n lo hi : Nat) (h : lo ≤ hi) :
    lo ≤ bisect starts n lo hi ∧ bisect starts n lo hi ≤ hi ∧
      (lo < bisect starts n lo hi → starts.getD (bisect starts n lo hi - 1) 0 ≤ n) := by
  fun_induction bisect starts n lo hi with
  | case1 lo hi inside mid le ih =>
    obtain ⟨lower, upper, entry⟩ := ih (by omega)
    refine ⟨by omega, upper, fun _ => ?_⟩
    rcases Nat.eq_or_lt_of_le lower with last | more
    · rw [← last]
      exact le
    · exact entry more
  | case2 lo hi inside mid gt ih =>
    obtain ⟨lower, upper, entry⟩ := ih (by omega)
    exact ⟨lower, by omega, entry⟩
  | case3 lo hi outside =>
    exact ⟨Nat.le_refl _, h, fun absurd => (Nat.lt_irrefl _ absurd).elim⟩

variable {ranges others : List (Nat × Nat)} {n : Nat}

/-- A character of a table lies in one of its ranges. -/
theorem exists_of_contains (h : (RangeTable.ofRanges ranges).contains n = true) :
    ∃ r ∈ ranges, r.1 ≤ n ∧ n ≤ r.2 := by
  unfold RangeTable.contains at h
  split at h
  next => cases h
  next i count =>
    obtain ⟨-, inside, start⟩ := bisect_spec (ranges.map (·.1)).toArray n 0 _ (Nat.zero_le _)
    rw [← countUpTo, show countUpTo (ranges.map (·.1)).toArray n = i + 1 from count] at inside start
    have bound : i < ranges.length := by
      rw [List.size_toArray, List.length_map] at inside
      exact inside
    have start := start (Nat.succ_pos i)
    simp only [RangeTable.ofRanges] at h
    refine ⟨ranges[i], List.getElem_mem bound, ?_, ?_⟩
    · simpa [bound] using start
    · simpa [bound] using h

/-- Two lists of ranges have no character in common: of two ranges, one ends in front of the other. -/
def Apart (ranges others : List (Nat × Nat)) : Prop :=
  ∀ r ∈ ranges, ∀ q ∈ others, r.2 < q.1 ∨ q.2 < r.1

instance : Decidable (Apart ranges others) := inferInstanceAs (Decidable (∀ r ∈ ranges, _))

/-- A table does not have a character of ranges that are apart from its own. -/
theorem Apart.contains_eq_false (apart : Apart ranges others) {q : Nat × Nat} (member : q ∈ others)
    (lower : q.1 ≤ n) (upper : n ≤ q.2) : (RangeTable.ofRanges ranges).contains n = false := by
  refine Bool.eq_false_iff.2 fun h => ?_
  obtain ⟨r, hr, first, last⟩ := exists_of_contains h
  have sides := apart r hr q member
  omega

/-! ## Blanks -/

/-- A blank is one of ASCII, or lies in one of the ranges beyond it. -/
theorem whiteSpace_cases (h : whiteSpace n = true) :
    (9 ≤ n ∧ n ≤ 13 ∨ n = 0x20) ∨ 0x80 ≤ n ∧ ∃ q ∈ whiteSpaceRanges, q.1 ≤ n ∧ n ≤ q.2 := by
  have beyond : ∀ q ∈ whiteSpaceRanges, 0x80 ≤ q.1 := by decide
  simp only [whiteSpace, Bool.or_eq_true, Bool.and_eq_true, decide_eq_true_eq, List.any_eq_true] at h
  rcases h with ascii | ⟨q, member, lower, upper⟩
  · exact .inl ascii
  · exact .inr ⟨Nat.le_trans (beyond q member) lower, q, member, lower, upper⟩

theorem alphabetic_apart : Apart alphabeticRanges whiteSpaceRanges := by decide +kernel

theorem numeric_apart : Apart numericRanges whiteSpaceRanges := by decide +kernel

theorem alphabetic_of_whiteSpace (h : whiteSpace n = true) : alphabetic n = false := by
  rcases whiteSpace_cases h with ascii | ⟨beyond, q, member, lower, upper⟩
  · rw [alphabetic, if_pos (by omega)]
    simp only [asciiLetter, Bool.or_eq_false_iff, Bool.and_eq_false_iff, decide_eq_false_iff_not]
    omega
  · rw [alphabetic, if_neg (by omega)]
    exact alphabetic_apart.contains_eq_false member lower upper

theorem numeric_of_whiteSpace (h : whiteSpace n = true) : numeric n = false := by
  rcases whiteSpace_cases h with ascii | ⟨beyond, q, member, lower, upper⟩
  · rw [numeric, if_pos (by omega)]
    simp only [asciiDigit, Bool.and_eq_false_iff, decide_eq_false_iff_not]
    omega
  · rw [numeric, if_neg (by omega)]
    exact numeric_apart.contains_eq_false member lower upper

end Unicode

/-- A blank ends a name. -/
theorem isNameChar_of_isBlank {c : Char} (h : isBlank c = true) : isNameChar c = false := by
  have sign (d : Char) (solid : isBlank d = false) : (c == d) = false := by
    refine beq_eq_false_iff_ne.2 ?_
    rintro rfl
    rw [h] at solid
    cases solid
  simp only [isNameChar, Unicode.alphabetic_of_whiteSpace h, Unicode.numeric_of_whiteSpace h,
    sign '_' (by decide), sign '-' (by decide), Bool.or_self]

end PathQuery
