import PathQuery.Path.Lexeme
import PathQuery.Proofs.Numeral

/-!
# Doubles that are written and read

The text of a double is that of a decimal, in a layout that depends on its size. Every layout is the
text of a numeral whose value is that decimal: in three of the four the decimal itself, and where zeros
are written out before the point a decimal with some more zeros at its end. So a double is read back from
its text if the decimal that is written rounds to it again, and the layout has no part in that.

## Main definitions

* `Decimal.Layout.numeral` — the parts of the numeral that a layout writes.
* `Number.writtenDecimal`, `Number.readsBack` — the decimal of a double, and whether it rounds to the
  double again.

## Main results

* `Decimal.reduce_shift` — zeros at the end of a coefficient make no difference.
* `Decimal.Layout.write_eq_chars`, `Decimal.Layout.reduce_magnitude_numeral` — a layout writes a numeral,
  and the value of the numeral is that of the decimal.
* `Lexeme.readNumber_realChars` — a double that reads back is read back from a path.
-/

namespace PathQuery

namespace Decimal

/-! ## Zeros at the end -/

theorem stripZeros_mul_ten {c : Nat} (hc : 0 < c) (e : Int) :
    stripZeros (c * 10) e = stripZeros c (e + 1) := by
  rw [stripZeros, if_pos ⟨by omega, by omega⟩, Nat.mul_div_cancel c (by decide)]

theorem stripZeros_shift {c : Nat} (hc : 0 < c) (k : Nat) (e : Int) :
    stripZeros (c * Nat.pow 10 k) e = stripZeros c (e + k) := by
  induction k generalizing e with
  | zero => simp
  | succ k ih =>
    have hpos : 0 < c * Nat.pow 10 k := Nat.mul_pos hc (Nat.pow_pos (by decide))
    show stripZeros (c * (Nat.pow 10 k * 10)) e = _
    rw [← Nat.mul_assoc, stripZeros_mul_ten hpos, ih]
    congr 1
    omega

/-- Zeros moved from the exponent to the end of the coefficient leave the reduced decimal as it is. -/
theorem reduce_shift (c k : Nat) (e : Int) :
    reduce ⟨c * Nat.pow 10 k, e⟩ = reduce ⟨c, e + k⟩ := by
  have hpow : 0 < Nat.pow 10 k := Nat.pow_pos (by decide)
  by_cases hc : c = 0
  · subst hc
    simp [reduce]
  · have : c * Nat.pow 10 k ≠ 0 := Nat.mul_ne_zero hc (Nat.ne_of_gt hpow)
    simp only [reduce, this, hc, if_false]
    exact stripZeros_shift (Nat.pos_of_ne_zero hc) k e

/-- The nearest double depends on the reduced decimal alone. -/
theorem toFloat_congr {d d' : Decimal} (h : d.reduce = d'.reduce) : d.toFloat = d'.toFloat := by
  simp only [toFloat, h]

/-! ## Layouts as numerals -/

namespace Layout

open Numeral

/-- The parts of the numeral that a layout writes for a decimal. -/
def numeral (l : Layout) (negative : Bool) (d : Decimal) : Numeral :=
  let digits := Nat.toDigits 10 d.coefficient
  let top := d.exponent + (digits.length : Int) - 1
  if top < l.least ∨ l.most < top then
    ⟨negative, digits.take 1, if digits.tail = [] then none else some digits.tail,
      some (decide (top < 0), Nat.toDigits 10 top.natAbs)⟩
  else if top < 0 then
    ⟨negative, ['0'], some (List.replicate (top.natAbs - 1) '0' ++ digits), none⟩
  else if 0 ≤ d.exponent then
    ⟨negative, digits ++ List.replicate d.exponent.toNat '0', some ['0'], none⟩
  else ⟨negative, digits.take (top.toNat + 1), some (digits.drop (top.toNat + 1)), none⟩

/-- A layout writes a numeral. -/
theorem write_eq_chars (l : Layout) (negative : Bool) (d : Decimal) :
    signChars negative ++ l.write d = (l.numeral negative d).chars := by
  simp only [write, numeral]
  split
  · cases (Nat.toDigits 10 d.coefficient).tail with
    | nil => simp [chars, fractionChars, exponentChars]
    | cons c cs => simp [chars, fractionChars, exponentChars]
  split
  · simp [chars, fractionChars, exponentChars]
  split
  · simp [chars, fractionChars, exponentChars]
  · simp [chars, fractionChars, exponentChars]

/-- The digits that a layout cuts are digits. -/
theorem isDigit_of_mem_toDigits {n : Nat} {ds : List Char} (h : ∀ c ∈ ds, c ∈ Nat.toDigits 10 n)
    (c : Char) (hc : c ∈ ds) : c.isDigit = true :=
  (toDigits_isRun n).digits c (h c hc)

/-- The first digits of a number are a whole part. -/
theorem take_isWhole {n k : Nat} (hk : 0 < k) :
    IsWhole ((Nat.toDigits 10 n).take k) := by
  obtain ⟨c, cs, hd, -⟩ := (toDigits_isRun n).exists_cons
  have digits : ∀ c ∈ (Nat.toDigits 10 n).take k, c.isDigit = true :=
    isDigit_of_mem_toDigits fun c hc => List.mem_of_mem_take hc
  refine ⟨⟨?_, digits⟩, fun h => ?_⟩
  · rw [hd]
    cases k with
    | zero => contradiction
    | succ k => simp
  · rw [List.head?_take, if_neg (by omega)] at h
    have zero := (toDigits_isWhole n).redundant h
    rw [zero, List.take_of_length_le hk]

/-- A layout writes a proper numeral, if zero is written with the exponent zero. -/
theorem numeral_proper (l : Layout) (negative : Bool) {d : Decimal}
    (hd : d.coefficient = 0 → d.exponent = 0) : (l.numeral negative d).Proper := by
  have run := toDigits_isRun d.coefficient
  have zeros : ∀ (k : Nat), ∀ c ∈ List.replicate k '0', c.isDigit = true := by
    intro k c hc
    rw [List.eq_of_mem_replicate hc]
    rfl
  simp only [numeral]
  split
  · refine ⟨take_isWhole (by decide), ?_, ?_⟩
    · intro ds hds
      by_cases single : (Nat.toDigits 10 d.coefficient).tail = []
      · simp [single] at hds
      · simp only [single, if_false, Option.some.injEq] at hds
        subst hds
        exact ⟨single, isDigit_of_mem_toDigits fun c hc => List.mem_of_mem_tail hc⟩
    · intro b ds hds
      cases hds
      exact toDigits_isRun _
  split
  · refine ⟨⟨⟨by simp, by simp⟩, fun _ => rfl⟩, ?_, fun _ _ h => by cases h⟩
    intro ds hds
    cases hds
    refine ⟨by simp [Nat.toDigits_ne_nil], fun c hc => ?_⟩
    rcases List.mem_append.1 hc with hc | hc
    · exact zeros _ c hc
    · exact run.digits c hc
  split
  · refine ⟨⟨run.append (zeros _), fun h => ?_⟩, ?_, fun _ _ h => by cases h⟩
    · have head : (Nat.toDigits 10 d.coefficient).head? = some '0' := by
        obtain ⟨c, cs, hd, -⟩ := run.exists_cons
        rw [hd] at h ⊢
        exact h
      have zero := (toDigits_isWhole d.coefficient).redundant head
      have hc : d.coefficient = 0 := by
        have := natOfDigits_toDigits d.coefficient
        rw [zero] at this
        exact this.symm
      rw [zero, hd hc]
      rfl
    · intro ds hds
      cases hds
      exact ⟨by simp, by simp⟩
  next hout hneg hpos =>
    -- A negative exponent leaves digits behind the point.
    refine ⟨take_isWhole (Nat.succ_pos _), ?_, fun _ _ h => by cases h⟩
    intro ds hds
    cases hds
    refine ⟨?_, isDigit_of_mem_toDigits fun c hc => List.mem_of_mem_drop hc⟩
    intro h
    have := List.drop_eq_nil_iff.1 h
    omega

/-- Zeros in front of a run of digits do not change its value. -/
theorem natOfDigits_zeros (k : Nat) (ds : List Char) :
    natOfDigits (List.replicate k '0' ++ ds) = natOfDigits ds := by
  rw [natOfDigits, Nat.ofDigitChars_append, Nat.ofDigitChars_replicate_zero, Nat.mul_zero]
  rfl

/-- Each zero at the end of a run of digits multiplies its value by ten. -/
theorem natOfDigits_append_zeros (k : Nat) (ds : List Char) :
    natOfDigits (ds ++ List.replicate k '0') = natOfDigits ds * Nat.pow 10 k := by
  rw [natOfDigits, Nat.ofDigitChars_append, Nat.ofDigitChars_replicate_zero, Nat.mul_comm]
  rfl

/-- The value of the numeral that a layout writes is that of the decimal. -/
theorem reduce_magnitude_numeral (l : Layout) (negative : Bool) (d : Decimal) :
    (l.numeral negative d).magnitude.reduce = d.reduce := by
  obtain ⟨coefficient, exponent⟩ := d
  have value := natOfDigits_toDigits coefficient
  obtain ⟨c, cs, hd, -⟩ := (toDigits_isRun coefficient).exists_cons
  rw [hd] at value
  simp only [numeral, hd, List.length_cons]
  split
  · -- One digit before the point, and the exponent of that digit.
    cases cs with
    | nil =>
      simp only [Numeral.magnitude, List.take_succ_cons, List.take_nil, List.tail_cons, if_true,
        Option.getD_none, List.append_nil, List.length_nil, value, natOfDigits_toDigits, signed_natAbs]
      congr 2
      omega
    | cons e es =>
      simp only [Numeral.magnitude, List.take_succ_cons, List.take_zero, List.tail_cons,
        List.cons_ne_nil, if_false, Option.getD_some, List.cons_append, List.nil_append,
        List.length_cons, value, natOfDigits_toDigits, signed_natAbs]
      congr 2
      omega
  split
  · -- Zeros between the point and the digits.
    have zeros (k : Nat) : natOfDigits (['0'] ++ (List.replicate k '0' ++ c :: cs)) = coefficient := by
      have := natOfDigits_zeros (k + 1) (c :: cs)
      rw [value] at this
      exact this
    simp only [Numeral.magnitude, Option.getD_some, zeros, List.length_append, List.length_replicate,
      List.length_cons]
    congr 2
    omega
  split
  next hpos =>
    -- Zeros between the digits and the point.
    have zeros : natOfDigits ((c :: cs) ++ List.replicate exponent.toNat '0' ++ ['0']) =
        coefficient * Nat.pow 10 (exponent.toNat + 1) := by
      have split : (c :: cs) ++ List.replicate exponent.toNat '0' ++ ['0'] =
          (c :: cs) ++ List.replicate (exponent.toNat + 1) '0' := by
        rw [List.append_assoc, List.replicate_succ']
      rw [split, natOfDigits_append_zeros, value]
    simp only [Numeral.magnitude, Option.getD_some, zeros, List.length_singleton, reduce_shift]
    congr 2
    omega
  · -- The point between two digits.
    simp only [Numeral.magnitude, Option.getD_some, List.take_append_drop, value, List.length_drop,
      List.length_cons]
    congr 2
    omega

/-- A numeral that a layout writes is never an integer. -/
theorem integer?_numeral (l : Layout) (negative : Bool) (d : Decimal) :
    (l.numeral negative d).integer? = none := by
  simp only [numeral]
  split
  · cases (Nat.toDigits 10 d.coefficient).tail <;> rfl
  split
  · rfl
  split
  · rfl
  · rfl

end Layout

/-! ## The shortest decimal -/

theorem stripZeros_pos {c : Nat} (hc : 0 < c) (e : Int) : 0 < (stripZeros c e).coefficient := by
  induction c using Nat.strongRecOn generalizing e with
  | _ c ih =>
    rw [stripZeros]
    by_cases h : 0 < c ∧ c % 10 = 0
    · rw [if_pos h]
      exact ih (c / 10) (by omega) (by omega) (e + 1)
    · rw [if_neg h]
      exact hc

/-- A reduced zero has the exponent zero. -/
theorem reduce_zero {d : Decimal} (h : d.reduce.coefficient = 0) : d.reduce.exponent = 0 := by
  by_cases hd : d.coefficient = 0
  · simp [reduce, hd]
  · rw [reduce, if_neg hd] at h
    have := stripZeros_pos (Nat.pos_of_ne_zero hd) d.exponent
    omega

end Decimal

namespace Number

open Decimal

/-- The decimal that is written for a double, without its sign. -/
def writtenDecimal (x : Float) : Decimal := if x == 0.0 then ⟨0, 0⟩ else shortest x.abs

/-- Whether a double has a minus sign. -/
def isNegative (x : Float) : Bool := !decide (x.toBits.toNat < 1 <<< 63)

/-- The numeral that is written for a double. -/
def realNumeral (x : Float) : Numeral := layout.numeral (isNegative x) (writtenDecimal x)

/-- Whether the decimal that is written for a double rounds to the double again. -/
def readsBack (x : Float) : Bool :=
  let d := (writtenDecimal x).toFloat
  decide ((if isNegative x then -d else d) = x)

theorem writtenDecimal_zero {x : Float} (h : (writtenDecimal x).coefficient = 0) :
    (writtenDecimal x).exponent = 0 := by
  unfold writtenDecimal at h ⊢
  split
  · rfl
  next hx =>
    rw [if_neg hx] at h
    exact reduce_zero h

theorem realChars_eq_chars {x : Float} (hx : x.isFinite = true) :
    realChars x = (realNumeral x).chars := by
  have sign : (if x.toBits.toNat < 1 <<< 63 then [] else ['-']) = Numeral.signChars (isNegative x) := by
    by_cases h : x.toBits.toNat < 1 <<< 63
    · simp only [isNegative, Numeral.signChars, h, decide_true, if_true]
      rfl
    · simp only [isNegative, Numeral.signChars, h, decide_false, if_false]
      rfl
  rw [realNumeral, ← Layout.write_eq_chars, realChars, if_pos hx]
  simp only [sign, writtenDecimal]
  split
  · rfl
  · rfl

/-- The numeral of a double that reads back stands for it. -/
theorem real_realNumeral {x : Float} (hx : readsBack x = true) : (realNumeral x).real = x := by
  have value : (realNumeral x).magnitude.toFloat = (writtenDecimal x).toFloat :=
    toFloat_congr (Layout.reduce_magnitude_numeral _ _ _)
  have negative : (realNumeral x).negative = isNegative x := by
    simp only [realNumeral, Layout.numeral]
    split
    · rfl
    split
    · rfl
    split
    · rfl
    · rfl
  rw [Numeral.real, value, negative]
  exact of_decide_eq_true hx

end Number

namespace Lexeme

open Number Reader

/-- A finite double that reads back is read back from a path, if nothing behind its text goes on with
a numeral. -/
theorem readNumber_realChars {x : Float} {s : List Char} (finite : x.isFinite = true)
    (back : readsBack x = true) (hs : Stops Numeral.follows s) :
    readNumber (realChars x ++ s) = .done (.number (.real x)) s := by
  have proper : (realNumeral x).Proper := Decimal.Layout.numeral_proper _ _ writtenDecimal_zero
  have number : numberOf? (realNumeral x) = some (.real x) := by
    have real := real_realNumeral back
    have integer : (realNumeral x).integer? = none := Decimal.Layout.integer?_numeral _ _ _
    simp [numberOf?, integer, real, finite]
  rw [realChars_eq_chars finite, readNumber, bind_done (Numeral.read_chars _ proper hs), number]
  rfl

end Lexeme

end PathQuery
