import Mathlib.Computability.RegularExpressions
import PathQuery.Proofs.Numeral

/-!
# The form of numerals

The texts of numerals are those that a regular expression matches, and so are the texts of integers. The
expressions say nothing about parts; that what they match has the parts of a numeral, and that everything
with such parts is matched, is shown part by part.

## Main definitions

* `oneOf`, `optional` — expressions for a class of characters, and for what may be left out.
* `Numeral.integerForm`, `Numeral.form` — the forms of integers and of numerals.

## Main results

* `Numeral.mem_form`, `Numeral.mem_integerForm` — what is matched is a spelling of a numeral.
-/

namespace PathQuery

open RegularExpression (char)

/-! ## Expressions -/

/-- One of these characters. -/
def oneOf (cs : List Char) : RegularExpression Char := (cs.map char).sum

/-- What an expression matches, or nothing. -/
def optional (p : RegularExpression Char) : RegularExpression Char := 1 + p

section Expressions

variable {p q : RegularExpression Char} {cs w : List Char}

theorem mem_char {c : Char} : w ∈ (char c).matches' ↔ w = [c] := Iff.rfl

theorem mem_add : w ∈ (p + q).matches' ↔ w ∈ p.matches' ∨ w ∈ q.matches' := Iff.rfl

theorem mem_mul : w ∈ (p * q).matches' ↔ ∃ u ∈ p.matches', ∃ v ∈ q.matches', u ++ v = w := Iff.rfl

theorem mem_optional : w ∈ (optional p).matches' ↔ w = [] ∨ w ∈ p.matches' := Iff.rfl

theorem mem_oneOf : w ∈ (oneOf cs).matches' ↔ ∃ c ∈ cs, w = [c] := by
  induction cs with
  | nil => simp [oneOf, RegularExpression.matches']
  | cons c cs ih =>
    rw [oneOf] at ih
    rw [oneOf, List.map_cons, List.sum_cons, mem_add, ih, mem_char, List.exists_mem_cons_iff]

theorem mem_star_oneOf : w ∈ (oneOf cs).star.matches' ↔ ∀ c ∈ w, c ∈ cs := by
  rw [RegularExpression.matches'_star, Language.mem_kstar]
  constructor
  · rintro ⟨words, rfl, single⟩ c member
    obtain ⟨word, hw, hc⟩ := List.mem_flatten.1 member
    obtain ⟨d, hd, rfl⟩ := mem_oneOf.1 (single word hw)
    rw [List.mem_singleton.1 hc]
    exact hd
  · intro all
    refine ⟨w.map ([·]), (List.flatMap_singleton' w).symm, ?_⟩
    intro word hw
    obtain ⟨c, hc, rfl⟩ := List.mem_map.1 hw
    exact mem_oneOf.2 ⟨c, all c hc, rfl⟩

end Expressions

namespace Numeral

variable {w : List Char}

/-! ## Forms -/

/-- The digits behind zero. -/
def positiveDigits : List Char := ['1', '2', '3', '4', '5', '6', '7', '8', '9']

/-- `[0-9]` -/
def digitForm : RegularExpression Char := oneOf ('0' :: positiveDigits)

/-- `[0-9]+` -/
def runForm : RegularExpression Char := digitForm * digitForm.star

/-- `0|[1-9][0-9]*` -/
def wholeForm : RegularExpression Char :=
  char '0' + oneOf positiveDigits * digitForm.star

/-- `-?(0|[1-9][0-9]*)` -/
def integerForm : RegularExpression Char := optional (char '-') * wholeForm

/-- `(\.[0-9]+)?` -/
def fractionForm : RegularExpression Char := optional (char '.' * runForm)

/-- `([eE][+-]?[0-9]+)?` -/
def exponentForm : RegularExpression Char :=
  optional (oneOf ['e', 'E'] * (optional (oneOf ['+', '-']) * runForm))

/-- `-?(0|[1-9][0-9]*)(\.[0-9]+)?([eE][+-]?[0-9]+)?` -/
def form : RegularExpression Char := integerForm * (fractionForm * exponentForm)

example : form.rmatch "-10.5e+07".toList = true := by decide

/-! ## Runs of digits -/

theorem isDigit_iff_mem {c : Char} : c.isDigit = true ↔ c ∈ '0' :: positiveDigits := by
  constructor
  · intro h
    have bounds : 48 ≤ c.toNat ∧ c.toNat ≤ 57 := by
      simpa [Char.isDigit, UInt32.le_iff_toNat_le] using h
    have all : ∀ n, n ≤ 57 → 48 ≤ n → Char.ofNat n ∈ '0' :: positiveDigits := by decide
    have member := all c.toNat bounds.2 bounds.1
    rwa [Char.ofNat_toNat] at member
  · intro h
    have all : ('0' :: positiveDigits).all Char.isDigit = true := by decide
    exact List.all_eq_true.1 all c h

theorem mem_digits : w ∈ digitForm.star.matches' ↔ ∀ c ∈ w, c.isDigit = true := by
  simp only [digitForm, mem_star_oneOf, isDigit_iff_mem]

theorem isRun_singleton {c : Char} (hc : c ∈ '0' :: positiveDigits) : IsRun [c] := by
  refine ⟨List.cons_ne_nil c [], ?_⟩
  rw [List.forall_mem_singleton]
  exact isDigit_iff_mem.2 hc

theorem mem_runForm : w ∈ runForm.matches' ↔ IsRun w := by
  rw [runForm, mem_mul]
  constructor
  · rintro ⟨first, hf, more, hm, rfl⟩
    obtain ⟨c, hc, rfl⟩ := mem_oneOf.1 hf
    exact (isRun_singleton hc).append (mem_digits.1 hm)
  · intro h
    obtain ⟨c, more, rfl, hc⟩ := h.exists_cons
    refine ⟨[c], mem_oneOf.2 ⟨c, isDigit_iff_mem.1 hc, rfl⟩, more, ?_, rfl⟩
    exact mem_digits.2 fun d hd => h.digits d (List.mem_cons_of_mem c hd)

theorem mem_wholeForm : w ∈ wholeForm.matches' ↔ IsWhole w := by
  rw [wholeForm, mem_add, mem_char, mem_mul]
  constructor
  · rintro (rfl | ⟨first, hf, more, hm, rfl⟩)
    · exact isWhole_zero
    · obtain ⟨c, hc, rfl⟩ := mem_oneOf.1 hf
      refine ⟨(isRun_singleton (List.mem_cons_of_mem '0' hc)).append (mem_digits.1 hm), ?_⟩
      intro zero
      have positive : '0' ∉ positiveDigits := by decide
      exact absurd (Option.some.inj zero) (ne_of_mem_of_not_mem hc positive)
  · intro h
    obtain ⟨c, more, rfl, hc⟩ := h.exists_cons
    by_cases zero : c = '0'
    · subst zero
      exact .inl (h.redundant rfl)
    · have positive : c ∈ positiveDigits := List.mem_of_ne_of_mem zero (isDigit_iff_mem.1 hc)
      refine .inr ⟨[c], mem_oneOf.2 ⟨c, positive, rfl⟩, more, ?_, rfl⟩
      exact mem_digits.2 fun d hd => h.digits d (List.mem_cons_of_mem c hd)

/-! ## Parts -/

theorem mem_sign : w ∈ (optional (char '-')).matches' ↔ ∃ negative, w = signChars negative := by
  rw [mem_optional, mem_char]
  constructor
  · rintro (rfl | rfl)
    · exact ⟨false, rfl⟩
    · exact ⟨true, rfl⟩
  · rintro ⟨negative, rfl⟩
    cases negative with
    | false => exact .inl rfl
    | true => exact .inr rfl

theorem mem_fractionForm : w ∈ fractionForm.matches' ↔
    ∃ fraction : Option (List Char), (∀ ds, fraction = some ds → IsRun ds) ∧ w = fractionChars fraction := by
  rw [fractionForm, mem_optional, mem_mul]
  constructor
  · rintro (rfl | ⟨point, rfl, ds, hd, rfl⟩)
    · exact ⟨none, nofun, rfl⟩
    · refine ⟨some ds, ?_, rfl⟩
      rintro _ ⟨⟩
      exact mem_runForm.1 hd
  · rintro ⟨fraction, runs, rfl⟩
    cases fraction with
    | none => exact .inl rfl
    | some ds => exact .inr ⟨['.'], rfl, ds, mem_runForm.2 (runs ds rfl), rfl⟩

theorem mem_exponentSign :
    w ∈ (optional (oneOf ['+', '-'])).matches' ↔ ∃ negative, (w, negative) ∈ exponentSigns := by
  rw [mem_optional, mem_oneOf]
  constructor
  · rintro (rfl | ⟨c, hc, rfl⟩)
    · exact ⟨false, by decide⟩
    · obtain rfl | rfl : c = '+' ∨ c = '-' := by simpa using hc
      · exact ⟨false, by decide⟩
      · exact ⟨true, by decide⟩
  · rintro ⟨negative, h⟩
    rcases mem_exponentSigns.1 h with ⟨rfl, -⟩ | ⟨rfl, -⟩ | ⟨rfl, -⟩
    · exact .inl rfl
    · exact .inr ⟨'+', by decide, rfl⟩
    · exact .inr ⟨'-', by decide, rfl⟩

theorem mem_exponentForm : w ∈ exponentForm.matches' ↔ ∃ exponent, ExponentSpelling exponent w := by
  rw [exponentForm, mem_optional, mem_mul]
  constructor
  · rintro (rfl | ⟨front, hf, back, ⟨sign, hs, ds, hd, rfl⟩, rfl⟩)
    · exact ⟨none, .absent⟩
    · obtain ⟨letter, hl, rfl⟩ := mem_oneOf.1 hf
      obtain ⟨negative, hs⟩ := mem_exponentSign.1 hs
      have spelling : ExponentSpelling (some (negative, ds)) (letter :: (sign ++ ds)) :=
        .present hl hs (mem_runForm.1 hd)
      exact ⟨_, spelling⟩
  · rintro ⟨exponent, spelling⟩
    cases spelling with
    | absent => exact .inl rfl
    | @present letter sign ds negative letters signs run =>
      have back : sign ++ ds ∈ (optional (oneOf ['+', '-']) * runForm).matches' :=
        ⟨sign, mem_exponentSign.2 ⟨negative, signs⟩, ds, mem_runForm.2 run, rfl⟩
      exact .inr ⟨[letter], mem_oneOf.2 ⟨letter, letters, rfl⟩, _, back, rfl⟩

/-! ## Whole numerals -/

/-- What has the form of an integer is a spelling of a numeral that has a sign and a whole part only. -/
theorem mem_integerForm : w ∈ integerForm.matches' ↔ ∃ n : Numeral, n.Spells w ∧ n.IsInteger := by
  rw [integerForm, mem_mul]
  constructor
  · rintro ⟨sign, hs, ds, hd, rfl⟩
    obtain ⟨negative, rfl⟩ := mem_sign.1 hs
    exact ⟨_, spells_integer (mem_wholeForm.1 hd) negative, rfl, rfl⟩
  · rintro ⟨n, spells, integer⟩
    rw [spells.eq_of_isInteger integer]
    exact ⟨_, mem_sign.2 ⟨n.negative, rfl⟩, n.whole, mem_wholeForm.2 spells.whole, rfl⟩

/-- What has the form of a numeral is a spelling of one. -/
theorem mem_form : w ∈ form.matches' ↔ ∃ n : Numeral, n.Spells w := by
  rw [form, integerForm, mem_mul]
  constructor
  · rintro ⟨front, ⟨sign, hs, ds, hd, rfl⟩, back, ⟨point, hp, e, he, rfl⟩, rfl⟩
    obtain ⟨negative, rfl⟩ := mem_sign.1 hs
    obtain ⟨fraction, runs, rfl⟩ := mem_fractionForm.1 hp
    obtain ⟨exponent, spelling⟩ := mem_exponentForm.1 he
    exact ⟨⟨negative, ds, fraction, exponent⟩, mem_wholeForm.1 hd, runs, e, spelling,
      List.append_assoc _ _ _⟩
  · rintro ⟨n, whole, fraction, e, spelling, rfl⟩
    have front : signChars n.negative ++ n.whole ∈ (optional (char '-') * wholeForm).matches' :=
      ⟨_, mem_sign.2 ⟨n.negative, rfl⟩, n.whole, mem_wholeForm.2 whole, rfl⟩
    have back : fractionChars n.fraction ++ e ∈ (fractionForm * exponentForm).matches' :=
      ⟨_, mem_fractionForm.2 ⟨n.fraction, fraction, rfl⟩, e, mem_exponentForm.2 ⟨n.exponent, spelling⟩, rfl⟩
    exact ⟨_, front, _, back, List.append_assoc _ _ _⟩

end Numeral

end PathQuery
