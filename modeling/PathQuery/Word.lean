/-!
# Words

The integers of a path are words of sixty-four bits. Arithmetic on them is done in the integers, and its
result is a word again or there is none.

## Main definitions

* `Word.ofInt?` — the word that holds an integer.
* `Word.add?` — the sum of two words.

## Main results

* `ofInt?_eq_some_iff` — a word holds an integer if it denotes it.
-/

namespace PathQuery.Word

/-- The word that holds an integer, if one does. -/
def ofInt? (n : Int) : Option Int64 :=
  if -0x8000000000000000 ≤ n ∧ n < 0x8000000000000000 then some (Int64.ofInt n) else none

/-- The sum of two words, if it is a word. -/
def add? (i j : Int64) : Option Int64 := ofInt? (i.toInt + j.toInt)

/-- A word holds exactly the integer that it denotes. -/
theorem ofInt?_eq_some_iff {n : Int} {i : Int64} : ofInt? n = some i ↔ i.toInt = n := by
  have lower := i.le_toInt
  have upper := i.toInt_lt
  unfold ofInt?
  constructor
  · intro h
    split at h
    · cases h
      exact Int64.toInt_ofInt_of_le (by omega) (by omega)
    · cases h
  · intro h
    subst h
    rw [if_pos ⟨by omega, by omega⟩, Int64.ofInt_toInt]

end PathQuery.Word
