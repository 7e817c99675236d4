import Mathlib.Data.List.TakeWhile
import PathQuery.Reader

/-!
# Longest runs

A reader of a longest run takes a word off a text exactly if all characters of the word are in the class
and the text does not go on with another one. What comes behind a word is thus described by the classes
that it stops.

## Main definitions

* `Stops` — a text does not start with a character of a class.

## Main results

* `takeWhile_append`, `dropWhile_append` — a run in front of a text that stops it is the longest one.
* `Reader.takeWhile_run`, `Reader.skipWhile_stops` — the readers of runs.
* `Reader.bind_eq_done_iff` — a sequence that ends with a value.
-/

namespace PathQuery

/-- A text does not start with a character of the class `p`. -/
def Stops (p : Char → Bool) (s : List Char) : Prop := ∀ c, s.head? = some c → p c = false

namespace Stops

variable {p q : Char → Bool} {c : Char} {s w : List Char}

theorem nil : Stops p [] := fun _ h => by cases h

theorem cons (h : p c = false) : Stops p (c :: s) := by
  intro d hd
  cases hd
  exact h

/-- A text that stops a class stops every smaller one. -/
theorem mono (h : Stops p s) (hq : ∀ c, q c = true → p c = true) : Stops q s := by
  intro c hc
  have hpc := h c hc
  cases hqc : q c with
  | false => rfl
  | true =>
    rw [hq c hqc] at hpc
    exact hpc

theorem takeWhile (h : Stops p s) : s.takeWhile p = [] := by
  cases s with
  | nil => rfl
  | cons c s => rw [List.takeWhile_cons, h c rfl, if_neg Bool.false_ne_true]

theorem dropWhile (h : Stops p s) : s.dropWhile p = s := by
  cases s with
  | nil => rfl
  | cons c s => rw [List.dropWhile_cons, h c rfl, if_neg Bool.false_ne_true]

/-- Behind a longest run the class is stopped. -/
theorem of_dropWhile (p : Char → Bool) (s : List Char) : Stops p (s.dropWhile p) := by
  intro c hc
  induction s with
  | nil => cases hc
  | cons d s ih =>
    rw [List.dropWhile_cons] at hc
    cases hd : p d with
    | true => exact ih (by simpa [hd] using hc)
    | false =>
      have : d = c := by simpa [hd] using hc
      exact this ▸ hd

/-- Whether a text stops a class is decided by its first character. -/
theorem append (h : Stops p w) (hw : w ≠ []) : Stops p (w ++ s) := by
  cases w with
  | nil => contradiction
  | cons c w => exact cons (h c rfl)

theorem of_append (h : Stops p (w ++ s)) : Stops p w := by
  cases w with
  | nil => exact nil
  | cons c w => exact cons (h c rfl)

/-- Behind a longest run the class is stopped, also by what comes if the text ends there. -/
theorem dropWhile_append (h : Stops p s) (w : List Char) : Stops p (w.dropWhile p ++ s) := by
  cases behind : w.dropWhile p with
  | nil => exact h
  | cons c t => exact (behind ▸ of_dropWhile p w).append (List.cons_ne_nil c t)

end Stops

/-- A run in front of a text that stops it is the longest run. -/
theorem takeWhile_append {p : Char → Bool} {w s : List Char} (hw : ∀ c ∈ w, p c = true)
    (hs : Stops p s) : (w ++ s).takeWhile p = w := by
  rw [List.takeWhile_append_of_pos hw, hs.takeWhile, List.append_nil]

/-- Behind a longest run the text goes on. -/
theorem dropWhile_append {p : Char → Bool} {w s : List Char} (hw : ∀ c ∈ w, p c = true)
    (hs : Stops p s) : (w ++ s).dropWhile p = s := by
  rw [List.dropWhile_append_of_pos hw, hs.dropWhile]

namespace Reader

variable {ε α β : Type} {p : Char → Bool} {w s : List Char}

theorem takeWhile_run (hw : ∀ c ∈ w, p c = true) (hs : Stops p s) :
    (takeWhile p : Reader ε _) (w ++ s) = .done w s := by
  rw [takeWhile_apply, takeWhile_append hw hs, dropWhile_append hw hs]

/-- A longest run stays the longest one if what comes behind the text does not go on with it. -/
theorem takeWhile_append_of_stops (hs : Stops p (w.dropWhile p ++ s)) :
    (takeWhile p : Reader ε _) (w ++ s) = .done (w.takeWhile p) (w.dropWhile p ++ s) := by
  have whole : w ++ s = w.takeWhile p ++ (w.dropWhile p ++ s) := by
    rw [← List.append_assoc, List.takeWhile_append_dropWhile]
  rw [whole, takeWhile_run (fun c member => List.mem_takeWhile_imp member) hs]

theorem skipWhile_stops (hs : Stops p s) : (skipWhile p : Reader ε _) s = .done () s := by
  rw [skipWhile_apply, hs.dropWhile]

/-- Changing the value of a reader changes the value that it ends with. -/
@[simp] theorem map_apply (f : α → β) (r : Reader ε α) (s : List Char) :
    (f <$> r) s = (r s).map f := by
  show (r >>= pure ∘ f) s = (r s).map f
  rw [bind_apply]
  cases r s <;> rfl

theorem map_done {r : Reader ε α} {a : α} (f : α → β) (h : r w = .done a s) :
    (f <$> r) w = .done (f a) s := bind_done h

/-- A sequence ends with a value if both of its readers do. -/
theorem bind_eq_done_iff {r : Reader ε α} {f : α → Reader ε β} {b : β} :
    (r >>= f) w = .done b s ↔ ∃ a t, r w = .done a t ∧ f a t = .done b s := by
  constructor
  · intro read
    rw [bind_apply] at read
    cases first : r w with
    | failed e t =>
      rw [first] at read
      cases read
    | done a t =>
      rw [first] at read
      exact ⟨a, t, rfl, read⟩
  · rintro ⟨a, t, first, second⟩
    rw [bind_done first, second]

theorem map_eq_done_iff {r : Reader ε α} {f : α → β} {b : β} :
    (f <$> r) w = .done b s ↔ ∃ a, r w = .done a s ∧ f a = b := by
  refine bind_eq_done_iff.trans ⟨?_, ?_⟩
  · rintro ⟨a, t, first, second⟩
    cases second
    exact ⟨a, first, rfl⟩
  · rintro ⟨a, first, rfl⟩
    exact ⟨a, s, first, rfl⟩

end Reader

end PathQuery
