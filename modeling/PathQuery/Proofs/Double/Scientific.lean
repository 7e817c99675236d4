import PathQuery.Proofs.Double.Packing

/-!
# The double of a decimal

A decimal is turned into a double on one of two ways. If its coefficient and its power of ten are doubles
themselves, they are multiplied or divided as doubles, and otherwise the product or quotient is formed
exactly and then rounded. Both ways round the exact value once, so the double is the nearest one. In
particular it depends on the value of the decimal alone.

## Main definitions

* `Decimal.value` — the value of a decimal.

## Main results

* `Decimal.toFloat_eq` — a decimal gives the double that is nearest to its value.
* `Decimal.toFloat_natCast` — a natural number as a decimal gives the double that it gives as a number.
-/

namespace PathQuery

open Float.Model Float.Model.UnpackedFloat

namespace Double

/-! ## Whole numbers as doubles -/

/-- The nearest double with a positive sign. -/
def nearestFloat (x : ℚ) : Float := .ofModel (.pack (nearest .positive x))

theorem round_eq {s : Sign} {m : ℕ} {e : ℤ} (hm : 0 < m) :
    UnpackedFloat.round Format.binary64 s m e = nearest s (m * 2 ^ e) := by
  have target : Format.binary64.targetExponent (totalExponent m e) = lastPlace (m * 2 ^ e) := by
    rw [totalExponent_eq hm]
    rfl
  have value : (m * 2 ^ e : ℚ) / 2 ^ (e - (e - lastPlace (m * 2 ^ e)).toNat) =
      (m <<< (e - lastPlace (m * 2 ^ e)).toNat : ℕ) := by
    rw [zpow_sub₀ (by norm_num), zpow_natCast, Nat.shiftLeft_eq]
    push_cast
    field_simp
  simp only [UnpackedFloat.round, target, decreaseExponent]
  refine roundWithAccuracy_eq (by positivity) ?_ (by omega)
  rw [value, extended_natCast]
  rfl

theorem ofNat_eq {n : ℕ} (hn : 0 < n) : Float.ofModel (.ofNat n) = nearestFloat n := by
  have positive : compare (n : ℤ) 0 = .gt := Int.compare_eq_gt.2 (by omega)
  have value : (n : ℚ) = n * 2 ^ (0 : ℤ) := by simp
  show Float.ofModel (.pack (UnpackedFloat.normalize Format.binary64 n 0 .positive)) = _
  simp only [UnpackedFloat.normalize, positive, Int.toNat_natCast]
  rw [round_eq hn, ← value]
  rfl

/-- A whole number of fifty-three bits, with zeros behind them, is a double itself. -/
theorem exists_parts_natCast {n c k : ℕ} (hc : 0 < c) (lt : c < 2 ^ 53) (hn : n = c * 2 ^ k)
    (hk : k ≤ 900) : ∃ m q, ∃ h : Canonical m q, 2 ^ 52 ≤ m ∧ (n : ℚ) = m * 2 ^ q ∧
      Float.ofModel (.ofNat n) = ofParts .positive m q h := by
  have log : c.log2 < 53 := (Nat.log2_lt hc.ne').2 lt
  have lower : 2 ^ c.log2 ≤ c := Nat.log2_self_le hc.ne'
  have upper : c < 2 ^ (c.log2 + 1) := Nat.lt_log2_self
  have normal : 2 ^ 52 ≤ c * 2 ^ (52 - c.log2) := by
    calc 2 ^ 52 = 2 ^ c.log2 * 2 ^ (52 - c.log2) := by rw [← pow_add]; congr 1; omega
      _ ≤ c * 2 ^ (52 - c.log2) := by gcongr
  have short : c * 2 ^ (52 - c.log2) < 2 ^ 53 := by
    calc c * 2 ^ (52 - c.log2) < 2 ^ (c.log2 + 1) * 2 ^ (52 - c.log2) := by gcongr
      _ = 2 ^ 53 := by rw [← pow_add]; congr 1; omega
  have h : Canonical (c * 2 ^ (52 - c.log2)) (k - (52 - c.log2 : ℕ)) :=
    ⟨by omega, short, by omega, by omega, .inl normal⟩
  have value : (n : ℚ) = (c * 2 ^ (52 - c.log2) : ℕ) * 2 ^ ((k : ℤ) - (52 - c.log2 : ℕ)) := by
    rw [hn, zpow_sub₀ (by norm_num), zpow_natCast, zpow_natCast]
    push_cast
    field_simp
  have pos : 0 < n := by
    rw [hn]
    positivity
  refine ⟨_, _, h, normal, value, ?_⟩
  rw [ofNat_eq pos, nearestFloat, nearest_of_close h (by rw [← value, sub_self, abs_zero]; positivity)]
  rfl

/-- The powers of ten that are kept are what they should be. -/
theorem powersOfTen_eq : ∀ e : Fin 23,
    Float.exactlyRepresentablePowersOfTen[e] = .ofModel (.ofNat (10 ^ e.val)) := by
  decide +kernel

/-- Ten to a small power is a double itself. -/
theorem exists_parts_powerOfTen {e : ℕ} (he : e < Float.exactlyRepresentablePowersOfTen.size) :
    ∃ m q, ∃ h : Canonical m q, 2 ^ 52 ≤ m ∧ (10 ^ e : ℚ) = m * 2 ^ q ∧
      Float.exactlyRepresentablePowersOfTen[e] = ofParts .positive m q h := by
  replace he : e < 23 := he
  have small : 5 ^ e < 2 ^ 53 :=
    (Nat.pow_le_pow_right (by decide) (Nat.le_of_lt_succ he)).trans_lt (by decide)
  have split : 10 ^ e = 5 ^ e * 2 ^ e := by rw [← Nat.mul_pow]
  obtain ⟨m, q, h, normal, value, parts⟩ := exists_parts_natCast (by positivity) small split (by omega)
  refine ⟨m, q, h, normal, by exact_mod_cast value, ?_⟩
  rw [← parts]
  exact powersOfTen_eq ⟨e, he⟩

/-! ## Products and quotients with a power of ten -/

section Scientific

variable {c e : ℕ} (hc : 0 < c)

include hc

theorem toUInt64_toFloat (lt : c < 2 ^ 53) : c.toUInt64.toFloat = .ofModel (.ofNat c) := by
  have word : c.toUInt64.toNat = c := Nat.mod_eq_of_lt (by omega)
  show Float.ofModel (.ofNat c.toUInt64.toNat) = _
  rw [word]

/-- A coefficient times a power of ten gives the nearest double. -/
theorem ofScientific_mul (he : e ≤ 2 ^ 11) :
    Float.ofScientific c false e = nearestFloat (c * 10 ^ e) := by
  unfold Float.ofScientific
  by_cases small : c < 2 ^ 53 ∧ e ≤ 22
  · obtain ⟨m, q, h, normal, value, parts⟩ :=
      exists_parts_natCast (n := c) (k := 0) hc small.1 (by simp) (by decide)
    have inside : e < Float.exactlyRepresentablePowersOfTen.size := Nat.lt_succ_of_le small.2
    obtain ⟨m', q', h', normal', value', parts'⟩ := exists_parts_powerOfTen inside
    simp only [dif_pos small, Bool.false_eq_true, if_false]
    rw [toUInt64_toFloat hc small.1, parts, parts']
    show Float.ofModel (.pack (mul Format.binary64 (ofParts .positive m q h).toModel.unpack
      (ofParts .positive m' q' h').toModel.unpack)) = _
    have wide : 2 ^ 52 ≤ m * m' := by nlinarith
    rw [unpack_ofParts, unpack_ofParts, mul_eq h.pos h'.pos wide, ← value, ← value']
    rfl
  · have upper : ¬ (e : ℤ) > 2 ^ 11 := by omega
    have lower : ¬ (e : ℤ) < -(2 ^ 11 + c.log2) := by omega
    have wide : 2 ^ 52 ≤ (c <<< 53) * 10 ^ e := by
      rw [Nat.shiftLeft_eq]
      have : 0 < 10 ^ e := by positivity
      nlinarith
    have value : ((c <<< 53 : ℕ) * 2 ^ (-53 : ℤ) * ((10 ^ e : ℕ) * 2 ^ (0 : ℤ)) : ℚ) = c * 10 ^ e := by
      rw [Nat.shiftLeft_eq]
      push_cast
      norm_num
      ring
    simp only [dif_neg small, Bool.false_eq_true, if_false, Float.Model.ofScientific,
      UnpackedFloat.ofScientific, Int.ofNat_eq_natCast]
    rw [dif_neg hc.ne', if_neg upper, if_neg lower, if_pos (Int.natCast_nonneg e)]
    have coefficient : 0 < c <<< 53 := by
      rw [Nat.shiftLeft_eq]
      positivity
    have product : mul Format.binary64 (.finite .positive (c <<< 53) (-53) coefficient)
        (.finite .positive (10 ^ e) 0 (by positivity)) = nearest .positive (c * 10 ^ e) := by
      rw [mul_eq _ _ wide, value]
      rfl
    exact congrArg (fun u => Float.ofModel (.pack u)) product

/-- A coefficient divided by a power of ten gives the nearest double. -/
theorem ofScientific_div (pos : 0 < e) (he : e ≤ 2 ^ 11 + c.log2) :
    Float.ofScientific c true e = nearestFloat (c / 10 ^ e) := by
  unfold Float.ofScientific
  by_cases small : c < 2 ^ 53 ∧ e ≤ 22
  · obtain ⟨m, q, h, normal, value, parts⟩ :=
      exists_parts_natCast (n := c) (k := 0) hc small.1 (by simp) (by decide)
    have inside : e < Float.exactlyRepresentablePowersOfTen.size := Nat.lt_succ_of_le small.2
    obtain ⟨m', q', h', normal', value', parts'⟩ := exists_parts_powerOfTen inside
    simp only [dif_pos small, if_true]
    rw [toUInt64_toFloat hc small.1, parts, parts']
    show Float.ofModel (.pack (div Format.binary64 (ofParts .positive m q h).toModel.unpack
      (ofParts .positive m' q' h').toModel.unpack)) = _
    rw [unpack_ofParts, unpack_ofParts, div_eq h.pos h'.pos, ← value, ← value']
    rfl
  · have negative : Int.negOfNat e = -(e : ℤ) := Int.negOfNat_eq
    have upper : ¬ -(e : ℤ) > 2 ^ 11 := by omega
    have lower : ¬ -(e : ℤ) < -(2 ^ 11 + c.log2) := by omega
    have below : ¬ 0 ≤ -(e : ℤ) := by omega
    have value : (c * 2 ^ (0 : ℤ) / ((10 ^ e : ℕ) * 2 ^ (0 : ℤ)) : ℚ) = c / 10 ^ e := by
      push_cast
      norm_num
    simp only [dif_neg small, if_true, negative, Float.Model.ofScientific, UnpackedFloat.ofScientific]
    rw [dif_neg hc.ne', if_neg upper, if_neg lower, if_neg below, div_eq]
    simp only [Int.neg_neg, Int.toNat_natCast, value]
    rfl

end Scientific

end Double

/-! ## Decimals -/

namespace Decimal

open Double

/-- The number of digits bounds a number from above. -/
theorem lt_pow_digitCount (n : ℕ) : n < 10 ^ digitCount n :=
  (Nat.length_toDigits_le_iff (by decide) Nat.length_toDigits_pos).1 le_rfl

theorem digitCount_pos (n : ℕ) : 0 < digitCount n := Nat.length_toDigits_pos

/-- The number of digits bounds a positive number from below. -/
theorem pow_digitCount_le {n : ℕ} (hn : 0 < n) : 10 ^ (digitCount n - 1) ≤ n := by
  by_cases one : digitCount n = 1
  · rw [one]
    exact hn
  · have two : 0 < digitCount n - 1 := by
      have := digitCount_pos n
      omega
    refine not_lt.1 fun h => ?_
    have : digitCount n ≤ digitCount n - 1 := (Nat.length_toDigits_le_iff (by decide) two).2 h
    omega

/-- A number has no more decimal than binary digits. -/
theorem digitCount_le_log2 (n : ℕ) : digitCount n ≤ n.log2 + 1 := by
  refine (Nat.length_toDigits_le_iff (by decide) (Nat.succ_pos _)).2 ?_
  exact lt_of_lt_of_le Nat.lt_log2_self (Nat.pow_le_pow_left (by decide) _)

/-- The value of a decimal. -/
def value (d : Decimal) : ℚ := d.coefficient * 10 ^ d.exponent

theorem value_stripZeros (c : ℕ) (e : ℤ) : (stripZeros c e).value = value ⟨c, e⟩ := by
  induction c using Nat.strongRecOn generalizing e with
  | _ c ih =>
    rw [stripZeros]
    by_cases h : 0 < c ∧ c % 10 = 0
    · have ten : (c : ℚ) = (c / 10 : ℕ) * 10 := by exact_mod_cast (Nat.div_mul_cancel (by omega)).symm
      rw [if_pos h, ih (c / 10) (by omega)]
      simp only [value]
      rw [ten, zpow_add_one₀ (by norm_num)]
      ring
    · rw [if_neg h]

/-- Moving zeros at the end of the coefficient keeps the value. -/
theorem value_reduce {d : Decimal} (hd : 0 < d.coefficient) : d.reduce.value = d.value := by
  rw [reduce, if_neg hd.ne', value_stripZeros]

theorem reduce_pos {d : Decimal} (hd : 0 < d.coefficient) : 0 < d.reduce.coefficient := by
  rw [reduce, if_neg hd.ne']
  exact stripZeros_pos hd _

theorem lt_zpow_digitCount (c : ℕ) (e : ℤ) : value ⟨c, e⟩ < 10 ^ ((digitCount c : ℤ) + e) := by
  have : (c : ℚ) < 10 ^ digitCount c := by exact_mod_cast lt_pow_digitCount c
  rw [zpow_add₀ (by norm_num), zpow_natCast, value]
  gcongr

theorem zpow_digitCount_le {c : ℕ} (hc : 0 < c) (e : ℤ) :
    10 ^ ((digitCount c : ℤ) + e - 1) ≤ value ⟨c, e⟩ := by
  have : (10 : ℚ) ^ (digitCount c - 1) ≤ c := by exact_mod_cast pow_digitCount_le hc
  have pos := digitCount_pos c
  have split : (digitCount c : ℤ) + e - 1 = (digitCount c - 1 : ℕ) + e := by omega
  rw [split, zpow_add₀ (by norm_num), zpow_natCast, value]
  gcongr

/-- A decimal gives the double that is nearest to its value. -/
theorem toFloat_eq {d : Decimal} (hd : 0 < d.coefficient) (lower : 10 ^ (-400 : ℤ) ≤ d.value)
    (upper : d.value < 10 ^ (400 : ℤ)) : d.toFloat = nearestFloat d.value := by
  have pos := reduce_pos hd
  rw [← value_reduce hd] at lower upper ⊢
  rw [toFloat]
  generalize d.reduce = r at lower upper pos ⊢
  obtain ⟨c, e⟩ := r
  replace pos : 0 < c := pos
  have above : -400 < (digitCount c : ℤ) + e :=
    (zpow_lt_zpow_iff_right₀ (by norm_num : (1 : ℚ) < 10)).1 (lower.trans_lt (lt_zpow_digitCount c e))
  have below : (digitCount c : ℤ) + e - 1 < 400 :=
    (zpow_lt_zpow_iff_right₀ (by norm_num : (1 : ℚ) < 10)).1 ((zpow_digitCount_le pos e).trans_lt upper)
  have digits := digitCount_pos c
  have bits := digitCount_le_log2 c
  dsimp only
  rw [if_neg (by omega), if_neg (by omega)]
  cases e with
  | ofNat e =>
    have small : e ≤ 2 ^ 11 := by
      have : Int.ofNat e = (e : ℤ) := rfl
      omega
    show Float.ofScientific c false e = nearestFloat (c * 10 ^ (e : ℤ))
    rw [ofScientific_mul pos small, zpow_natCast]
  | negSucc e =>
    have small : e + 1 ≤ 2 ^ 11 + c.log2 := by omega
    show Float.ofScientific c true (e + 1) = nearestFloat (c * 10 ^ Int.negSucc e)
    rw [ofScientific_div pos (Nat.succ_pos e) small, zpow_negSucc, div_eq_mul_inv]

/-- A natural number gives the same double as a number and as a decimal. -/
theorem toFloat_natCast {n k : ℕ} (hn : 0 < n) (hk : k ≤ 400) (upper : n < 10 ^ k) :
    toFloat ⟨n, 0⟩ = Float.ofNat n := by
  have value : value ⟨n, 0⟩ = n := by simp [value]
  have one : (1 : ℚ) ≤ n := by exact_mod_cast hn
  have small : (10 : ℚ) ^ (-400 : ℤ) ≤ 1 := zpow_le_one_of_nonpos₀ (by norm_num) (by norm_num)
  have large : (n : ℚ) < 10 ^ (400 : ℤ) := by
    calc (n : ℚ) < 10 ^ (k : ℤ) := by exact_mod_cast upper
      _ ≤ 10 ^ (400 : ℤ) := zpow_le_zpow_right₀ (by norm_num) (by exact_mod_cast hk)
  rw [toFloat_eq hn (by rw [value]; exact small.trans one) (by rw [value]; exact large), value]
  show _ = Float.ofScientific n false 0
  rw [ofScientific_mul hn (by decide), pow_zero, mul_one]

end Decimal

end PathQuery
