import Mathlib.Data.String.Basic
import PathQuery.Path.Grammar

/-!
# Bytes of a text

Positions in a text are numbers of bytes. A number of bytes is a position between two characters exactly
if the characters in front of it have as many.

## Main results

* `Path.byteCount_append`, `Path.byteCount_toList` — the bytes of a text.
* `Path.isValid_iff_exists_append` — the positions between characters.
-/

namespace PathQuery

namespace Path

variable {s t : List Char}

@[simp] theorem byteCount_append (s t : List Char) : byteCount (s ++ t) = byteCount s + byteCount t := by
  induction s with
  | nil => simp [byteCount]
  | cons c s ih => simp only [List.cons_append, byteCount, ih, Nat.add_assoc]

theorem byteCount_toList (s : String) : byteCount s.toList = s.utf8ByteSize := by
  have bytes (cs : List Char) : byteCount cs = String.utf8Len cs := by
    induction cs with
    | nil => rfl
    | cons c cs ih => rw [byteCount, ih, String.utf8Len_cons, Nat.add_comm]
  rw [bytes, ← String.utf8ByteSize_ofList, String.ofList_toList]

theorem byteCount_eq_zero_iff : byteCount s = 0 ↔ s = [] := by
  cases s with
  | nil => exact ⟨fun _ => rfl, fun _ => rfl⟩
  | cons c s =>
    have := c.utf8Size_pos
    simp only [byteCount]
    constructor
    · omega
    · simp

/-- A position is one between two characters if the characters in front of it have as many bytes. -/
theorem isValid_iff_exists_append {text : String} {pos : Nat} :
    (⟨pos⟩ : String.Pos.Raw).IsValid text ↔
      ∃ front s, text.toList = front ++ s ∧ pos = byteCount front := by
  rw [String.Pos.Raw.isValid_iff_exists_append]
  constructor
  · rintro ⟨front, s, rfl, h⟩
    refine ⟨front.toList, s.toList, String.toList_append, ?_⟩
    rw [byteCount_toList]
    exact congrArg String.Pos.Raw.byteIdx h
  · rintro ⟨front, s, h, rfl⟩
    refine ⟨String.ofList front, String.ofList s, ?_, ?_⟩
    · rw [← String.ofList_append, ← h, String.ofList_toList]
    · rw [← String.toList_ofList (l := front), byteCount_toList, String.toList_ofList]
      rfl

theorem byteCount_le_of_suffix (h : s <:+ t) : byteCount s ≤ byteCount t := by
  obtain ⟨front, rfl⟩ := h
  rw [byteCount_append]
  exact Nat.le_add_left _ _

/-- A character has at least one byte. -/
theorem length_le_byteCount (s : List Char) : s.length ≤ byteCount s := by
  induction s with
  | nil => exact Nat.le_refl 0
  | cons c s ih =>
    have := c.utf8Size_pos
    simp only [List.length_cons, byteCount]
    omega

/-- Of two beginnings of one text the one with fewer bytes is a beginning of the other. -/
theorem prefix_of_byteCount_le {whole : List Char} (hs : s <+: whole) (ht : t <+: whole)
    (h : byteCount s ≤ byteCount t) : s <+: t := by
  rcases List.prefix_or_prefix_of_prefix hs ht with hst | ⟨more, rfl⟩
  · exact hst
  · rw [byteCount_append] at h
    have none : more.length ≤ 0 := Nat.le_trans (length_le_byteCount more) (by omega)
    obtain rfl := List.eq_nil_of_length_eq_zero (Nat.le_zero.1 none)
    simp

end Path

end PathQuery
