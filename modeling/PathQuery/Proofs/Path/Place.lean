import PathQuery.Proofs.Path.Follow

/-!
# Places of a text

A place of a text is given by what stands from there on: it begins with the sign of a segment, with a comma or
with a closing bracket. At the place the text may be changed a little. White space may be put in front of a
segment, and behind a comma or a bracket anything else may stand. No word goes on with any of these texts, so
what stands in front of the place is found there as well.

## Main definitions

* `Place` — a place of a text.
* `Place.Variant` — what may stand at the place as well.

## Main results

* `Place.isPrefixOf_append`, `Place.prefix_of_variant` — a word in front of the place is found in front of its
  variants.
-/

namespace PathQuery

open Grammar

/-- A place of a text, from its first character on: a segment opens, or a selector or an argument ends. -/
structure Place where
  sign : Char
  behind : List Char
  isSign : opensSegment sign = true ∨ sign = ',' ∨ sign = ']'

namespace Place

variable (v : Place)

/-- The text from the place on. -/
def text : List Char := v.sign :: v.behind

/-- Whether a segment may open at the place. -/
def opens : Bool := opensSegment v.sign

/-- What may stand at the place as well: white space and the text, if a segment may open there, and
otherwise any text that begins with the same sign. -/
inductive Variant : List Char → Prop
  | spaced {b : List Char} (opens : v.opens = true) (blank : b.all isBlank = true) : Variant (b ++ v.text)
  | other (t : List Char) (closes : v.opens = false) : Variant (v.sign :: t)

variable {v} {w word x : List Char} {c : Char}

/-- A sign is one of four. -/
theorem sign_cases (v : Place) : v.sign = '.' ∨ v.sign = '[' ∨ v.sign = ',' ∨ v.sign = ']' := by
  rcases v.isSign with opens | rest
  · exact (opensSegment_cases opens).imp_right .inl
  · exact .inr (.inr rest)

/-- What holds of the four signs holds of the sign of every place. -/
theorem of_signs {p : Char → Bool} (h : ['.', '[', ',', ']'].all p = true) (v : Place) :
    p v.sign = true := by
  simp only [List.all_cons, List.all_nil, Bool.and_true, Bool.and_eq_true] at h
  obtain ⟨point, bracket, comma, closing⟩ := h
  rcases v.sign_cases with sign | sign | sign | sign <;> rwa [sign]

theorem sign_ne (h : ['.', '[', ',', ']'].all (· != c) = true) : v.sign ≠ c := by
  simpa using of_signs h v

/-- The sign of a segment is another one than a comma or a closing bracket. -/
theorem sign_ne_of_opens (opens : v.opens = true) (h : opensSegment c = false) : v.sign ≠ c := by
  intro sign
  rw [Place.opens, sign, h] at opens
  cases opens

theorem not_isBlank : isBlank v.sign = false := by
  simpa using of_signs (p := fun c => !isBlank c) (by decide) v

theorem not_isNameChar : isNameChar v.sign = false := by
  simpa using of_signs (p := fun c => !isNameChar c) (by decide) v

theorem dropWhile_text : v.text.dropWhile isBlank = v.text := dropWhile_of_not_blank not_isBlank

/-- What stands in front of the place is passed over if it is white space only. -/
theorem blank_of_dropWhile (h : (x ++ v.text).dropWhile isBlank = v.text) : ∀ c ∈ x, isBlank c = true := by
  rw [List.dropWhile_append] at h
  split at h
  next empty => exact List.dropWhile_eq_nil_iff.1 (List.isEmpty_iff.1 empty)
  next other =>
    rw [List.append_left_eq_self.1 h] at other
    exact absurd rfl other

namespace Variant

theorem self : v.Variant v.text := by
  cases h : v.opens with
  | true => exact spaced (b := []) h rfl
  | false => exact other v.behind h

/-- A variant is white space and a text that begins with the sign. -/
theorem exists_blank (h : v.Variant w) :
    ∃ b t, w = b ++ v.sign :: t ∧ (∀ c ∈ b, isBlank c = true) ∧ w.dropWhile isBlank = v.sign :: t := by
  obtain ⟨b, t, rfl, blank⟩ : ∃ b t, w = b ++ v.sign :: t ∧ ∀ c ∈ b, isBlank c = true := by
    cases h with
    | @spaced b _ blank => exact ⟨b, v.behind, rfl, List.all_eq_true.1 blank⟩
    | other t => exact ⟨[], t, rfl, nofun⟩
  refine ⟨b, t, rfl, blank, ?_⟩
  rw [List.dropWhile_append_of_pos blank]
  exact dropWhile_of_not_blank not_isBlank

/-- A variant remains without the white space. -/
theorem dropWhile (h : v.Variant w) : v.Variant (w.dropWhile isBlank) := by
  cases h with
  | spaced opens blank =>
    rw [List.dropWhile_append_of_pos (List.all_eq_true.1 blank), dropWhile_text]
    exact self
  | other t closes =>
    rw [dropWhile_of_not_blank not_isBlank]
    exact other t closes

/-- Where a segment may open, it stands behind the white space of a variant. -/
theorem dropWhile_eq (h : v.Variant w) (opens : v.opens = true) : w.dropWhile isBlank = v.text := by
  cases h with
  | spaced _ blank => rw [List.dropWhile_append_of_pos (List.all_eq_true.1 blank), dropWhile_text]
  | other t closes =>
    rw [opens] at closes
    cases closes

/-- A variant begins with white space or with the sign. -/
theorem exists_cons (h : v.Variant w) : ∃ c t, w = c :: t ∧ (c = v.sign ∨ isBlank c = true) := by
  obtain ⟨b, t, rfl, blank, -⟩ := h.exists_blank
  cases b with
  | nil => exact ⟨v.sign, t, rfl, .inl rfl⟩
  | cons c b => exact ⟨c, b ++ v.sign :: t, rfl, .inr (blank c List.mem_cons_self)⟩

/-- Any other variant at the sign of a segment begins with white space. -/
theorem exists_blank_cons (h : v.Variant w) (opens : v.opens = true) (ne : w ≠ v.text) :
    ∃ c t, w = c :: t ∧ isBlank c = true := by
  obtain ⟨c, t, rfl, hc⟩ := h.exists_cons
  refine ⟨c, t, rfl, hc.resolve_left fun sign => ne ?_⟩
  have front := h.dropWhile_eq opens
  rwa [sign, dropWhile_of_not_blank not_isBlank, ← sign] at front

theorem stops {p : Char → Bool} (h : v.Variant w) (blank : ∀ c, isBlank c = true → p c = false)
    (sign : p v.sign = false) : Stops p w := by
  obtain ⟨c, t, rfl, rfl | hc⟩ := h.exists_cons
  · exact Stops.cons sign
  · exact Stops.cons (blank c hc)

end Variant

/-! ## Words in front of a place -/

/-- A word does not reach over a character that it does not have. -/
theorem prefix_of_notMem {t : List Char} (h : c ∉ word) (found : word <+: x ++ c :: t) : word <+: x := by
  have upTo : x ++ [c] <+: x ++ c :: t := ⟨t, by simp⟩
  rcases List.prefix_or_prefix_of_prefix found upTo with short | long
  · rcases List.prefix_concat_iff.1 short with rfl | short
    · exact absurd (by simp) h
    · exact short
  · exact absurd (long.subset (by simp)) h

/-- A word with neither white space nor signs does not reach over the place. -/
theorem isPrefixOf_append (h : v.Variant w)
    (plain : (word.all fun c => !isBlank c && ['.', '[', ',', ']'].all (· != c)) = true) (x : List Char) :
    word.isPrefixOf (x ++ w) = word.isPrefixOf x := by
  rw [Bool.eq_iff_iff, List.isPrefixOf_iff_prefix, List.isPrefixOf_iff_prefix]
  refine ⟨fun found => ?_, fun found => found.trans (List.prefix_append x w)⟩
  obtain ⟨c, t, rfl, hc⟩ := h.exists_cons
  refine prefix_of_notMem (fun mem => ?_) found
  obtain ⟨blank, sign⟩ : isBlank c = false ∧ ['.', '[', ',', ']'].all (· != c) = true := by
    simpa using List.all_eq_true.1 plain c mem
  rcases hc with rfl | other
  · exact sign_ne sign rfl
  · rw [blank] at other
    cases other

/-- A word without white space that is found at a variant is found at the text as well, unless it reaches over
a comma or a closing bracket. -/
theorem prefix_of_variant (h : v.Variant w)
    (plain : (word.all fun c => !isBlank c && c != ',' && c != ']') = true) (found : word <+: x ++ w) :
    word <+: x ++ v.text := by
  have plain : ∀ c ∈ word, (isBlank c = false ∧ c ≠ ',') ∧ c ≠ ']' := by simpa using plain
  have short {c : Char} {t : List Char} (fresh : c ∉ word) (found : word <+: x ++ c :: t) :
      word <+: x ++ v.text := (prefix_of_notMem fresh found).trans (List.prefix_append x _)
  cases h with
  | @spaced b opens blank =>
    cases b with
    | nil => exact found
    | cons d b =>
      refine short (fun mem => ?_) found
      have other := (plain d mem).1.1
      rw [List.all_eq_true.1 blank d List.mem_cons_self] at other
      cases other
  | other t closes =>
    refine short (fun mem => ?_) found
    rcases v.isSign with opens | comma | bracket
    · rw [Place.opens, opens] at closes
      cases closes
    · exact (plain _ mem).1.2 comma
    · exact (plain _ mem).2 bracket

end Place

end PathQuery
