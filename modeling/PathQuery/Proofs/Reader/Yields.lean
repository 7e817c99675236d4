import PathQuery.Reader

/-!
# What readers give

A condition on the values that a reader gives, whatever the text is that it starts from. The condition
composes over sequences of readers, so that what a grammar gives is known rule by rule. Nothing is said
about texts on which the reader fails.

## Main definitions

* `Yields` — a reader gives nothing but values with a property.

## Main results

* `Yields.bind`, `Yields.after`, `Yields.map` — sequences.
-/

namespace PathQuery.Reader

variable {ε α β : Type} {p : Reader ε α} {P : α → Prop} {Q : β → Prop} {s : List Char}

/-- On the text `s`, if the reader gives a value, the value has the property `P`. -/
structure Yields (p : Reader ε α) (s : List Char) (P : α → Prop) : Prop where
  holds : ∀ a rest, p s = .done a rest → P a

namespace Yields

theorem mono {P' : α → Prop} (h : Yields p s P) (hP : ∀ a, P a → P' a) : Yields p s P' := by
  constructor
  intro a rest ha
  exact hP a (h.holds a rest ha)

theorem pure {a : α} (h : P a) : Yields (pure a : Reader ε α) s P := by
  constructor
  intro b rest hb
  cases hb
  exact h

theorem fail (e : ε) : Yields (fail e : Reader ε α) s P := by
  constructor
  intro a rest h
  cases h

theorem bind {f : α → Reader ε β} (hp : Yields p s P)
    (hf : ∀ a rest, p s = .done a rest → P a → Yields (f a) rest Q) : Yields (p >>= f) s Q := by
  constructor
  intro b rest hb
  rw [bind_apply] at hb
  cases ha : p s with
  | done a middle =>
    rw [ha] at hb
    exact (hf a middle ha (hp.holds a middle ha)).holds b rest hb
  | failed e middle =>
    rw [ha] at hb
    cases hb

/-- The first of two readers may be one of which nothing is known. -/
theorem after {f : α → Reader ε β} (hf : ∀ a rest, p s = .done a rest → Yields (f a) rest Q) :
    Yields (p >>= f) s Q := by
  have unknown : Yields p s fun _ => True := ⟨fun _ _ _ => trivial⟩
  apply unknown.bind
  intro a rest ha _
  exact hf a rest ha

theorem map {f : α → β} (hp : Yields p s P) (hf : ∀ a, P a → Q (f a)) : Yields (f <$> p) s Q := by
  apply hp.bind
  intro a rest _ ha
  exact pure (hf a ha)

end Yields

end PathQuery.Reader
