import PathQuery.Reader

/-!
# Causes of failure

A reader may fail at many places and still for one cause only. This composes over sequences of readers, and
it turns a description of the texts that are read into one of all texts: the others fail for that cause.

## Main definitions

* `Blames` — all failures of a reader have one cause.

## Main results

* `Blames.bind`, `Blames.map`, `Blames.option` — sequences, and parts that may be missing.
* `Blames.done_or_failed` — a text is read, or it fails for the cause.
-/

namespace PathQuery.Reader

variable {ε α β : Type} {bad : ε} {p : Reader ε α}

/-- A reader fails for no other cause. -/
structure Blames (bad : ε) (p : Reader ε α) : Prop where
  cause : ∀ s e rest, p s = .failed e rest → e = bad

namespace Blames

theorem done_or_failed (h : Blames bad p) (s : List Char) :
    (∃ a rest, p s = .done a rest) ∨ ∃ rest, p s = .failed bad rest := by
  cases outcome : p s with
  | done a rest => exact .inl ⟨a, rest, rfl⟩
  | failed e rest =>
    obtain rfl := h.cause s e rest outcome
    exact .inr ⟨rest, rfl⟩

theorem pure (a : α) : Blames bad (pure a : Reader ε α) := by
  constructor
  intro s e rest h
  cases h

theorem fail : Blames bad (fail bad : Reader ε α) := by
  constructor
  intro s e rest h
  cases h
  rfl

theorem skip : Blames bad (skip : Reader ε _) := by
  constructor
  intro s e rest h
  cases h

theorem takeWhile (q : Char → Bool) : Blames bad (takeWhile q : Reader ε _) := by
  constructor
  intro s e rest h
  cases h

theorem bind {f : α → Reader ε β} (hp : Blames bad p) (hf : ∀ a, Blames bad (f a)) :
    Blames bad (p >>= f) := by
  constructor
  intro s e rest h
  rw [bind_apply] at h
  cases first : p s with
  | done a middle =>
    rw [first] at h
    exact (hf a).cause middle e rest h
  | failed e' middle =>
    rw [first] at h
    cases h
    exact hp.cause s e rest first

theorem map (f : α → β) (hp : Blames bad p) : Blames bad (f <$> p) :=
  hp.bind fun a => pure (f a)

theorem peek_bind {f : Option Char → Reader ε β} (hf : ∀ c, Blames bad (f c)) :
    Blames bad (peek >>= f) := by
  constructor
  intro s e rest h
  exact (hf s.head?).cause s e rest h

/-- A part that a character opens, and that may be missing. -/
theorem option (opens : Option Char → Prop) [DecidablePred opens] {f : Unit → Reader ε α}
    (hf : ∀ u, Blames bad (f u)) (a : α) :
    Blames bad (do if opens (← peek) then Reader.skip >>= f else Pure.pure a) := by
  refine peek_bind fun c => ?_
  split
  · exact skip.bind hf
  · exact pure a

end Blames

end PathQuery.Reader
