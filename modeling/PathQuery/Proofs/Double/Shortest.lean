import PathQuery.Proofs.Double.Scientific

/-!
# Shortest decimals read back

The shortest decimal of a double is searched for on seventeen grids, and what is found reads back to the
double. The search does not fail: on the finest grid there are seventeen digits, so the multiple next to
the double is closer to it than a half of its last place, and even than a half of the last place below a
power of two. That multiple has the double as its nearest.

## Main results

* `Decimal.toFloat_shortest` — the shortest decimal of a positive double reads back to it.
* `Number.readsBack_of_isFinite` — every finite double is read back from what is written for it.
-/

namespace PathQuery

open Double

namespace Decimal

/-! ## Neighbours on a grid -/

/-- The first neighbour of a fraction among the whole numbers is no further than one half. -/
theorem neighbours_close (num : ℕ) {den : ℕ} (hden : 0 < den) :
    ∃ g rest, neighbours num den = g :: rest ∧ |(g : ℚ) - num / den| ≤ 1 / 2 := by
  have left : (0 : ℚ) ≤ (num % den : ℕ) / den := by positivity
  have right := mod_div_lt_one num hden
  rw [natCast_div_eq num hden]
  by_cases near : 2 * (num % den) < den ∨ 2 * (num % den) = den ∧ num / den % 2 = 0
  · refine ⟨num / den, [num / den + 1], if_pos near, ?_⟩
    have half := (div_le_half_iff (num % den) hden).2 (by omega)
    rw [abs_le]
    constructor <;> linarith
  · refine ⟨num / den + 1, [num / den], if_neg near, ?_⟩
    have half := (half_le_div_iff (num % den) hden).2 (by omega)
    push_cast
    rw [abs_le]
    constructor <;> linarith

/-- The first candidate on a grid is no further than one half of the grid. -/
theorem candidates_close (num : ℕ) {den : ℕ} (hden : 0 < den) (place : ℤ) :
    ∃ d rest, candidates num den place = d :: rest ∧
      |d.value - num / den| ≤ 10 ^ place / 2 := by
  have pos : (0 : ℚ) < 10 ^ place := by positivity
  have scaled {g : ℕ} (h : |(g : ℚ) - num / den / 10 ^ place| ≤ 1 / 2) :
      |value ⟨g, place⟩ - num / den| ≤ 10 ^ place / 2 := by
    have split : value ⟨g, place⟩ - num / den = (g - num / den / 10 ^ place) * 10 ^ place := by
      rw [value]
      field_simp
    rw [split, abs_mul, abs_of_pos pos]
    linarith [mul_le_mul_of_nonneg_right h pos.le]
  cases place with
  | ofNat p =>
    have wide : 0 < den * Nat.pow 10 p := Nat.mul_pos hden (Nat.pow_pos (by decide))
    obtain ⟨g, rest, first, close⟩ := neighbours_close num wide
    refine ⟨⟨g, .ofNat p⟩, rest.map (⟨·, .ofNat p⟩), ?_, scaled ?_⟩
    · show (neighbours num (den * Nat.pow 10 p)).map _ = _
      rw [first]
      rfl
    · rw [div_div, Int.ofNat_eq_natCast, zpow_natCast]
      rw [Nat.pow_eq] at close
      exact_mod_cast close
  | negSucc p =>
    obtain ⟨g, rest, first, close⟩ := neighbours_close (num * Nat.pow 10 (p + 1)) hden
    refine ⟨⟨g, .negSucc p⟩, rest.map (⟨·, .negSucc p⟩), ?_, scaled ?_⟩
    · show (neighbours (num * Nat.pow 10 (p + 1)) den).map _ = _
      rw [first]
      rfl
    · rw [zpow_negSucc, div_inv_eq_mul, div_mul_eq_mul_div]
      rw [Nat.pow_eq] at close
      exact_mod_cast close

/-- The power of ten of a fraction is not above it. -/
theorem zpow_magnitude_le {num den : ℕ} (hnum : 0 < num) (hden : 0 < den) :
    (10 : ℚ) ^ magnitude num den ≤ num / den := by
  have pos : (0 : ℚ) < den := by exact_mod_cast hden
  rw [magnitude]
  split
  next one =>
    have whole : 0 < num / den := Nat.div_pos one hden
    have digits := digitCount_pos (num / den)
    have lower : 10 ^ (digitCount (num / den) - 1) ≤ num / den := pow_digitCount_le whole
    have split : (digitCount (num / den) : ℤ) - 1 = (digitCount (num / den) - 1 : ℕ) := by omega
    rw [split, zpow_natCast]
    calc (10 : ℚ) ^ (digitCount (num / den) - 1) ≤ (num / den : ℕ) := by exact_mod_cast lower
      _ ≤ num / den := Nat.cast_div_le
  next one =>
    have upper : (den - 1) / num < 10 ^ digitCount ((den - 1) / num) := lt_pow_digitCount _
    have below : den ≤ num * 10 ^ digitCount ((den - 1) / num) := by
      have := (Nat.div_lt_iff_lt_mul hnum).1 upper
      rw [Nat.mul_comm]
      omega
    have below : (den : ℚ) ≤ num * 10 ^ digitCount ((den - 1) / num) := by exact_mod_cast below
    rw [zpow_neg, zpow_natCast, inv_eq_one_div, div_le_div_iff₀ (by positivity) pos, one_mul]
    exact below

/-! ## What is found -/

theorem stripZeros_stripZeros (c : ℕ) (e : ℤ) :
    stripZeros (stripZeros c e).coefficient (stripZeros c e).exponent = stripZeros c e := by
  induction c using Nat.strongRecOn generalizing e with
  | _ c ih =>
    by_cases h : 0 < c ∧ c % 10 = 0
    · have step : stripZeros c e = stripZeros (c / 10) (e + 1) := by rw [stripZeros, if_pos h]
      rw [step]
      exact ih (c / 10) (by omega) (e + 1)
    · have stop : stripZeros c e = ⟨c, e⟩ := by rw [stripZeros, if_neg h]
      rw [stop, stop]

theorem reduce_reduce (d : Decimal) : d.reduce.reduce = d.reduce := by
  by_cases hd : d.coefficient = 0
  · simp [reduce, hd]
  · have pos := stripZeros_pos (Nat.pos_of_ne_zero hd) d.exponent
    have : d.reduce = stripZeros d.coefficient d.exponent := if_neg hd
    rw [this, reduce, if_neg pos.ne', stripZeros_stripZeros]

section Shortest

variable {m : ℕ} {q : ℤ} (h : Canonical m q)

include h

/-- A positive double lies well inside the range of the decimals that are rounded. -/
theorem canonical_bounds :
    2 * 10 ^ (-400 : ℤ) ≤ (m * 2 ^ q : ℚ) ∧ (2 * (m * 2 ^ q) : ℚ) < 10 ^ (400 : ℤ) := by
  have one : (1 : ℚ) ≤ m := by exact_mod_cast h.pos
  have bits : (m : ℚ) < 2 ^ (53 : ℤ) := by exact_mod_cast h.lt
  have pos : (0 : ℚ) < 2 ^ q := by positivity
  have ten : (2 : ℚ) ^ (1200 : ℤ) ≤ 10 ^ (400 : ℤ) := by
    have split : (2 : ℚ) ^ (1200 : ℤ) = (2 ^ (3 : ℤ)) ^ (400 : ℤ) := zpow_mul 2 3 400
    rw [split]
    exact zpow_le_zpow_left₀ (by decide) (by norm_num) (by norm_num)
  have two {a b : ℤ} (h : 1 + a ≤ b) : (2 : ℚ) * 2 ^ a ≤ 2 ^ b := by
    rw [← zpow_one_add₀ (by norm_num)]
    exact zpow_le_zpow_right₀ (by norm_num) h
  have least := h.least
  have most := h.most
  constructor
  · calc 2 * (10 : ℚ) ^ (-400 : ℤ) ≤ 2 * 2 ^ (-1200 : ℤ) := by
          rw [zpow_neg, zpow_neg]
          gcongr
      _ ≤ 2 ^ q := two (by omega)
      _ ≤ m * 2 ^ q := le_mul_of_one_le_left pos.le one
  · calc (2 * (m * 2 ^ q) : ℚ) < 2 * (2 ^ (53 : ℤ) * 2 ^ q) := by gcongr
      _ = 2 * 2 ^ (53 + q) := by rw [zpow_add₀ (by norm_num)]
      _ ≤ 2 ^ (1200 : ℤ) := two (by omega)
      _ ≤ 10 ^ (400 : ℤ) := ten

/-- A decimal close to a double reads back to it. -/
theorem toFloat_of_close {d : Decimal} (close : |d.value - m * 2 ^ q| ≤ m * 2 ^ q / (2 * 10 ^ 16)) :
    d.toFloat = ofParts .positive m q h := by
  obtain ⟨least, most⟩ := canonical_bounds h
  have size : (0 : ℚ) < m * 2 ^ q := by
    have := h.pos
    positivity
  obtain ⟨lower, upper⟩ := abs_le.1 close
  have half : m * 2 ^ q / 2 ≤ d.value := by linarith
  have twice : d.value ≤ 2 * (m * 2 ^ q) := by linarith
  have pos : 0 < d.coefficient := by
    refine Nat.pos_of_ne_zero fun zero => ?_
    rw [value, zero, Nat.cast_zero, zero_mul] at half
    linarith
  have above : 10 ^ (-400 : ℤ) ≤ d.value := by
    refine le_trans ?_ half
    rw [le_div_iff₀ (by norm_num), mul_comm]
    exact least
  rw [toFloat_eq pos above (twice.trans_lt most), nearestFloat, nearest_of_close h close]
  rfl

omit h in
/-- The fraction that is taken from the bits of a double has its value. -/
theorem fraction_eq :
    ((m <<< q.toNat : ℕ) : ℚ) / (1 <<< (-q).toNat : ℕ) = m * 2 ^ q := by
  have split : q = q.toNat - (-q).toNat := by omega
  conv_rhs => rw [split]
  rw [zpow_sub₀ (by norm_num), zpow_natCast, zpow_natCast, Nat.shiftLeft_eq, Nat.shiftLeft_eq]
  push_cast
  ring

/-- The nearer neighbour of a double on the grid of seventeen digits reads back to it. -/
theorem exists_candidate {num den : ℕ} (numPos : 0 < num) (denPos : 0 < den)
    (value : (num : ℚ) / den = m * 2 ^ q) :
    ∃ d ∈ candidates num den (magnitude num den - (16 : ℕ)), d.toFloat = ofParts .positive m q h := by
  obtain ⟨d, rest, first, close⟩ := candidates_close num denPos (magnitude num den - (16 : ℕ))
  have lower := zpow_magnitude_le numPos denPos
  rw [value] at close lower
  refine ⟨d, first ▸ List.mem_cons_self, toFloat_of_close h (close.trans ?_)⟩
  rw [zpow_sub₀ (by norm_num), zpow_natCast, div_div, mul_comm ((10 : ℚ) ^ 16) 2]
  gcongr

/-- The shortest decimal of a positive double reads back to it. -/
theorem toFloat_shortest : (shortest (ofParts .positive m q h)).toFloat = ofParts .positive m q h := by
  set x := ofParts .positive m q h with hx
  set num := m <<< q.toNat with hnum
  set den := 1 <<< (-q).toNat with hden
  set grids := (List.range 17).flatMap fun (n : ℕ) => candidates num den (magnitude num den - n)
  have found : shortest x = ((grids.find? fun d => d.toFloat == x).getD ⟨num, 0⟩).reduce := by
    simp only [shortest, hx, significand_ofParts, binaryExponent_ofParts]
    rfl
  have numPos : 0 < num := by
    have := h.pos
    rw [hnum, Nat.shiftLeft_eq]
    positivity
  have denPos : 0 < den := by
    rw [hden, Nat.shiftLeft_eq]
    positivity
  obtain ⟨d, candidate, reads⟩ := exists_candidate h numPos denPos fraction_eq
  have member : d ∈ grids := List.mem_flatMap.2 ⟨16, by decide, candidate⟩
  have self : (d.toFloat == x) = true := by
    rw [reads]
    exact beq_self_of_isFinite (isFinite_ofParts h)
  cases result : grids.find? fun d => d.toFloat == x with
  | none => exact absurd self (List.find?_eq_none.1 result d member)
  | some d' =>
    rw [found, result, Option.getD_some, toFloat_congr (reduce_reduce d')]
    have same := List.find?_some result
    exact eq_of_beq_ofParts h same

end Shortest

end Decimal

/-! ## All finite doubles -/

/-- Every finite double is read back from what is written for it. -/
theorem Number.readsBack_of_isFinite {x : Float} (finite : x.isFinite = true) : readsBack x = true := by
  rcases exists_parts finite with ⟨s, rfl⟩ | ⟨s, m, q, h, rfl⟩
  · cases s <;> decide +kernel
  · have nonzero : ¬ (ofParts s m q h == 0.0) = true := by
      rw [ofParts_beq_zero]
      exact Bool.false_ne_true
    rw [readsBack, writtenDecimal, if_neg nonzero, abs_ofParts, Decimal.toFloat_shortest,
      decide_eq_true_eq]
    exact signed_ofParts h

end PathQuery
