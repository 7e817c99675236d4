import PathQuery.Proofs.Reader.Run

/-!
# Readings that end well

Of some texts it is known what a reader takes off them, of others only what it takes off them if it does
not fail. Both are one relation between readings with a proposition as a parameter: the reading is the
given one if the proposition holds, and in any case if it ends with a value. For the true proposition this
is equality, and for the false one it asks nothing of a failure. Sequences of readers respect the
relation, so that what is read off a text need be followed only once for both.

## Main definitions

* `Reading.Agrees` — a reading is the given one, for sure or if it does not fail.

## Main results

* `Reading.Agrees.bind`, `Reading.Agrees.map` — sequences.
* `Reading.Agrees.eq`, `Reading.Agrees.eq_done` — what an agreement says of a sure reading, and of one
  that ended with a value.
-/

namespace PathQuery

variable {ε α β : Type}

namespace Reading

/-- Whether a reading ended with a value. -/
def isDone : Reading ε α → Bool
  | done _ _ => true
  | failed _ _ => false

/-- A reading is `r'`, if it ended with a value or if this is `sure`. -/
def Agrees (sure : Prop) (r r' : Reading ε α) : Prop := sure ∨ r.isDone = true → r = r'

namespace Agrees

variable {sure : Prop} {r r' r'' : Reading ε α} {a : α} {s middle rest : List Char}

theorem refl (r : Reading ε α) : Agrees sure r r := fun _ => rfl

theorem of_eq (h : r = r') : Agrees sure r r' := fun _ => h

/-- A failure agrees with anything, unless an agreement is sure. -/
theorem of_failed {e : ε} (unsure : ¬ sure) (h : r = .failed e rest) : Agrees sure r r' := by
  rintro (hs | hd)
  · exact absurd hs unsure
  · rw [h] at hd
    cases hd

theorem trans (h : Agrees sure r r') (h' : Agrees sure r' r'') : Agrees sure r r'' := by
  intro known
  have first := h known
  rw [first] at known ⊢
  exact h' known

theorem eq (h : Agrees sure r r') (hs : sure) : r = r' := h (.inl hs)

/-- A reading that ended with a value ended with the one that it agrees with. -/
theorem eq_done {b : α} (h : Agrees sure r (.done b rest)) (read : r = .done a s) : a = b ∧ s = rest := by
  have same := h (.inr (by rw [read]; rfl))
  rw [read] at same
  cases same
  exact ⟨rfl, rfl⟩

/-- If a sequence ended with a value, so did its first reader. -/
theorem first {p : Reader ε α} {f : α → Reader ε β} (h : Agrees sure (p s) (.done a middle))
    (known : sure ∨ ((p >>= f) s).isDone = true) : p s = .done a middle := by
  cases read : p s with
  | done b rest =>
    rw [read] at h
    exact h (.inr rfl)
  | failed e rest =>
    rw [Reader.bind_failed read] at known
    rw [read] at h
    exact h (known.imp_right fun hd => absurd hd Bool.false_ne_true)

/-- A sequence goes on behind its first reader. -/
theorem bind {p : Reader ε α} {f : α → Reader ε β} (h : Agrees sure (p s) (.done a middle)) :
    Agrees sure ((p >>= f) s) (f a middle) := fun known => Reader.bind_done (h.first known)

theorem map {p : Reader ε α} (f : α → β) (h : Agrees sure (p s) (.done a rest)) :
    Agrees sure ((f <$> p) s) (.done (f a) rest) := h.bind

end Agrees

end Reading

end PathQuery
