import PathQuery.Proofs.Double.Order
import PathQuery.Proofs.Double.Scientific

/-!
# Whole numbers as doubles

A double has fifty-three bits. A whole number that needs more of them is rounded to the nearest multiple
of its unit, the power of two that leaves it fifty-three bits, and a tie goes to the even multiple. So
different whole numbers can become the same double, but never in the wrong order, and up to 2 ^ 53 nothing
is rounded at all.

## Main definitions

* `Double.unit`, `Double.roundWhole` — the unit of a natural number, and the number rounded to it.
* `Double.round` — the same for integers.

## Main results

* `Double.round_mono` — rounding keeps the order.
* `Double.round_eq_self` — numbers of at most fifty-three bits are not rounded.
* `Double.compare_ofInt` — the doubles of two integers compare as the rounded integers do.
-/

namespace PathQuery.Double

open Float.Model Float.Model.UnpackedFloat

/-! ## Rounding -/

/-- The unit to which a number is rounded: the power of two that leaves it fifty-three bits. -/
def unit (n : ℕ) : ℕ := 2 ^ (n.log2 - 52)

/-- How many units a number has when it is rounded, a tie going to the even number of them. -/
def units (n : ℕ) : ℕ :=
  if unit n < 2 * (n % unit n) ∨ unit n = 2 * (n % unit n) ∧ n / unit n % 2 = 1 then n / unit n + 1
  else n / unit n

/-- A natural number, rounded to its unit. -/
def roundWhole (n : ℕ) : ℕ := units n * unit n

/-- An integer, rounded to the unit of its size. -/
def round (n : ℤ) : ℤ := n.sign * roundWhole n.natAbs

theorem unit_pos (n : ℕ) : 0 < unit n := Nat.two_pow_pos _

theorem le_units (n : ℕ) : n / unit n ≤ units n := by
  unfold units
  split <;> omega

theorem units_le (n : ℕ) : units n ≤ n / unit n + 1 := by
  unfold units
  split <;> omega

/-- The places of a number that is at least one unit. -/
theorem two_pow_le_div {n : ℕ} (hn : 0 < n) (h : 52 ≤ n.log2) : 2 ^ 52 ≤ n / unit n := by
  rw [Nat.le_div_iff_mul_le (unit_pos n), unit, ← pow_add, Nat.add_sub_cancel' h]
  exact Nat.log2_self_le hn.ne'

theorem div_lt_two_pow (n : ℕ) : n / unit n < 2 ^ 53 := by
  rw [Nat.div_lt_iff_lt_mul (unit_pos n), unit, ← pow_add]
  calc n < 2 ^ (n.log2 + 1) := Nat.lt_log2_self
    _ ≤ 2 ^ (53 + (n.log2 - 52)) := Nat.pow_le_pow_right (by decide) (by omega)

theorem roundWhole_of_log2_lt {n : ℕ} (h : n.log2 ≤ 52) : roundWhole n = n := by
  have one : unit n = 1 := by rw [unit, Nat.sub_eq_zero_of_le h, pow_zero]
  have rest : n % 1 = 0 := Nat.mod_one n
  simp [roundWhole, units, one, rest]

/-- Numbers of at most fifty-three bits, and the next one, are not rounded. -/
theorem roundWhole_of_le {n : ℕ} (h : n ≤ 2 ^ 53) : roundWhole n = n := by
  rcases h.lt_or_eq with lt | rfl
  · rcases Nat.eq_zero_or_pos n with rfl | pos
    · rfl
    · have := (Nat.log2_lt pos.ne').2 lt
      exact roundWhole_of_log2_lt (by omega)
  · decide

/-- What is rounded stays between the powers of two around it. -/
theorem two_pow_le_roundWhole {n : ℕ} (hn : 0 < n) : 2 ^ n.log2 ≤ roundWhole n := by
  rcases Nat.le_total n.log2 52 with h | h
  · rw [roundWhole_of_log2_lt h]
    exact Nat.log2_self_le hn.ne'
  · calc 2 ^ n.log2 = 2 ^ 52 * unit n := by rw [unit, ← pow_add, Nat.add_sub_cancel' h]
      _ ≤ units n * unit n :=
          Nat.mul_le_mul_right _ ((two_pow_le_div hn h).trans (le_units n))

theorem roundWhole_le_two_pow (n : ℕ) : roundWhole n ≤ 2 ^ (n.log2 + 1) := by
  rcases Nat.le_total n.log2 52 with h | h
  · rw [roundWhole_of_log2_lt h]
    exact Nat.lt_log2_self.le
  · have bound := units_le n
    have top := div_lt_two_pow n
    calc units n * unit n ≤ 2 ^ 53 * unit n := Nat.mul_le_mul_right _ (by omega)
      _ = 2 ^ (n.log2 + 1) := by
          rw [unit, ← pow_add]
          congr 1
          omega

/-- To one unit, the larger number has no fewer of them. -/
theorem units_mono {m n : ℕ} (h : m ≤ n) (same : unit m = unit n) : units m ≤ units n := by
  have quotients : m / unit n ≤ n / unit n := Nat.div_le_div_right h
  rcases quotients.lt_or_eq with lt | eq
  · calc units m ≤ m / unit m + 1 := units_le m
      _ ≤ n / unit n := by rw [same]; exact lt
      _ ≤ units n := le_units n
  · -- With as many whole units in both, the larger number has the larger rest.
    have rests : m % unit n ≤ n % unit n := by
      have hm := Nat.div_add_mod m (unit n)
      have hn := Nat.div_add_mod n (unit n)
      rw [eq] at hm
      omega
    unfold units
    rw [same, eq]
    split
    · rw [if_pos (by omega)]
    · split <;> omega

theorem roundWhole_mono {m n : ℕ} (h : m ≤ n) : roundWhole m ≤ roundWhole n := by
  rcases Nat.eq_zero_or_pos m with rfl | hm
  · exact Nat.zero_le _
  · have logs : m.log2 ≤ n.log2 := by
      rw [Nat.log2_eq_log_two, Nat.log2_eq_log_two]
      exact Nat.log_mono_right h
    rcases logs.lt_or_eq with lt | eq
    · calc roundWhole m ≤ 2 ^ (m.log2 + 1) := roundWhole_le_two_pow m
        _ ≤ 2 ^ n.log2 := Nat.pow_le_pow_right (by decide) lt
        _ ≤ roundWhole n := two_pow_le_roundWhole (hm.trans_le h)
    · have same : unit m = unit n := by rw [unit, unit, eq]
      rw [roundWhole, roundWhole, same]
      exact Nat.mul_le_mul_right _ (units_mono h same)

/-! ## Integers -/

theorem round_natCast (n : ℕ) : round n = roundWhole n := by
  rcases Nat.eq_zero_or_pos n with rfl | hn
  · rfl
  · rw [round, Int.sign_eq_one_of_pos (by omega), one_mul, Int.natAbs_natCast]

theorem round_neg (n : ℤ) : round (-n) = -round n := by
  rw [round, round, Int.sign_neg, Int.natAbs_neg, neg_mul]

/-- Rounding keeps the order of integers. -/
theorem round_mono {m n : ℤ} (h : m ≤ n) : round m ≤ round n := by
  obtain ⟨a, rfl | rfl⟩ := m.eq_nat_or_neg <;> obtain ⟨b, rfl | rfl⟩ := n.eq_nat_or_neg <;>
    simp only [round_neg, round_natCast]
  · exact_mod_cast roundWhole_mono (by omega)
  · have zero : a = 0 ∧ b = 0 := by omega
    rw [zero.1, zero.2]
    decide
  · have := Int.natCast_nonneg (roundWhole a)
    have := Int.natCast_nonneg (roundWhole b)
    omega
  · have : roundWhole b ≤ roundWhole a := roundWhole_mono (by omega)
    omega

/-- Up to 2 ^ 53 no integer is rounded. -/
theorem round_eq_self {n : ℤ} (h : n.natAbs ≤ 2 ^ 53) : round n = n := by
  rw [round, roundWhole_of_le h, Int.sign_mul_natAbs]

/-! ## The double of an integer -/

/-- Rounding to the nearest number of units, for which the rest is compared with half a unit. -/
theorem roundedMantissa_div (a : ℕ) {b : ℕ} (hb : 0 < b) :
    (extended (a / b)).roundedMantissa =
      if b < 2 * (a % b) ∨ b = 2 * (a % b) ∧ a / b % 2 = 1 then a / b + 1 else a / b := by
  rw [← ofMantissaAndAccuracy_div a hb]
  by_cases exact : a % b = 0
  · have down : ¬ (b < 2 * (a % b) ∨ b = 2 * (a % b) ∧ a / b % 2 = 1) := by omega
    rw [if_neg down, accuracyOfFraction, if_pos exact]
    rfl
  · rw [accuracyOfFraction, if_neg exact]
    rcases Nat.lt_trichotomy (2 * (a % b)) b with h | h | h
    · rw [Nat.compare_eq_lt.2 h, if_neg (by omega)]
      rfl
    · rw [Nat.compare_eq_eq.2 h]
      show Accuracy.roundToNearestEven (a / b) (.inexact .eq) = _
      simp only [Accuracy.roundToNearestEven]
      split <;> omega
    · rw [Nat.compare_eq_gt.2 h, if_pos (by omega)]
      rfl

theorem lastPlace_natCast {n : ℕ} : lastPlace (n : ℚ) = (n.log2 : ℤ) - 52 := by
  rw [lastPlace_eq, log_natCast]
  omega

/-- The nearest double to a natural number has all its bits, and its value is the rounded number. -/
theorem nearest_natCast {n : ℕ} (hn : 0 < n) (s : Sign) :
    ∃ m q pos, nearest s (n : ℚ) = .finite s m q pos ∧ 2 ^ 52 ≤ m ∧ m < 2 ^ 53 ∧ -1074 ≤ q ∧
      q ≤ n.log2 - 51 ∧ (m * 2 ^ q : ℚ) = roundWhole n := by
  rw [nearest, lastPlace_natCast]
  have lower := Nat.log2_self_le hn.ne'
  have upper := Nat.lt_log2_self (n := n)
  rcases Nat.lt_or_ge n.log2 52 with small | large
  · -- All bits of the number fit, and zeros are put behind them.
    obtain ⟨k, hk⟩ := Nat.exists_eq_add_of_le small.le
    have place : (n.log2 : ℤ) - 52 = -(k : ℤ) := by omega
    have shifted : (n : ℚ) / 2 ^ (-(k : ℤ)) = (n * 2 ^ k : ℕ) := by
      rw [zpow_neg, div_inv_eq_mul, zpow_natCast]
      push_cast
      rfl
    have bottom : 2 ^ 52 ≤ n * 2 ^ k := by
      rw [hk, pow_add]
      gcongr
    have top : n * 2 ^ k < 2 ^ 53 := by
      calc n * 2 ^ k < 2 ^ (n.log2 + 1) * 2 ^ k := by gcongr
        _ = 2 ^ 53 := by rw [← pow_add]; congr 1; omega
    rw [place, shifted, extended_natCast]
    refine ⟨n * 2 ^ k, -(k : ℤ), by positivity, ?_, bottom, top, by omega, by omega, ?_⟩
    · exact settled_of_lt (by positivity) top (by omega)
    · rw [roundWhole_of_log2_lt small.le, zpow_neg, zpow_natCast]
      push_cast
      field_simp
  · obtain ⟨k, hk⟩ := Nat.exists_eq_add_of_le large
    have place : (n.log2 : ℤ) - 52 = k := by omega
    have one : (2 : ℚ) ^ (k : ℤ) = (unit n : ℕ) := by
      rw [unit, hk, Nat.add_sub_cancel_left, zpow_natCast]
      push_cast
      rfl
    have mantissa : (extended ((n : ℚ) / 2 ^ (k : ℤ))).roundedMantissa = units n := by
      rw [one, roundedMantissa_div n (unit_pos n)]
      rfl
    have bottom : 2 ^ 52 ≤ units n := (two_pow_le_div hn large).trans (le_units n)
    have value : ((units n : ℕ) * 2 ^ (k : ℤ) : ℚ) = roundWhole n := by
      rw [one, roundWhole]
      push_cast
      rfl
    rw [place, mantissa]
    rcases Nat.lt_or_ge (units n) (2 ^ 53) with top | carry
    · exact ⟨units n, k, by omega, settled_of_lt (by omega) top (by omega), bottom, top, by omega,
        by omega, value⟩
    · have full : units n = 2 ^ 53 := by
        have := units_le n
        have := div_lt_two_pow n
        omega
      refine ⟨2 ^ 52, k + 1, by decide, ?_, le_rfl, by decide, by omega, by omega, ?_⟩
      · rw [full]
        exact settled_carry (by omega)
      · rw [← value, full, zpow_add_one₀ (by norm_num)]
        push_cast
        ring

/-- A natural number of sixty-four bits becomes a double with all its bits. -/
theorem ofNat_eq_ofParts {n : ℕ} (hn : 0 < n) (fits : n < 2 ^ 64) :
    ∃ m q, ∃ h : Canonical m q, 2 ^ 52 ≤ m ∧ (m * 2 ^ q : ℚ) = roundWhole n ∧
      Float.ofNat n = ofParts .positive m q h := by
  obtain ⟨m, q, pos, near, bottom, top, least, most, value⟩ := nearest_natCast hn .positive
  have log : n.log2 < 64 := (Nat.log2_lt hn.ne').2 fits
  refine ⟨m, q, ⟨pos, top, least, by omega, .inl bottom⟩, bottom, value, ?_⟩
  show Float.ofScientific n false 0 = _
  rw [ofScientific_mul hn (by decide), pow_zero, mul_one, nearestFloat, near]
  rfl

/-- The double of an integer is zero or has all its bits, and its value is the rounded integer. -/
theorem unpack_ofInt {n : ℤ} (fits : n.natAbs < 2 ^ 64) :
    IsFull (Float.ofInt n).toModel.unpack ∧ exactValue (Float.ofInt n).toModel.unpack = round n := by
  rcases Int.lt_trichotomy n 0 with negative | rfl | positive
  · obtain ⟨k, rfl⟩ := Int.eq_negSucc_of_lt_zero negative
    obtain ⟨m, q, h, bottom, value, parts⟩ := ofNat_eq_ofParts (n := k + 1) (by omega) fits
    have double : Float.ofInt (.negSucc k) = ofParts .negative m q h := by
      show -Float.ofNat (k + 1) = _
      rw [parts, neg_ofParts]
    have rounded : round (.negSucc k) = -(roundWhole (k + 1) : ℤ) := by
      rw [← round_natCast, ← round_neg]
      rfl
    rw [double, unpack_ofParts, rounded]
    refine ⟨⟨bottom, h.lt⟩, ?_⟩
    rw [exactValue, value, signValue]
    push_cast
    ring
  · have zero : (Float.ofInt 0).toModel.unpack = .zero .positive := by rfl
    rw [zero]
    exact ⟨trivial, rfl⟩
  · obtain ⟨k, rfl⟩ := Int.eq_ofNat_of_zero_le positive.le
    obtain ⟨m, q, h, bottom, value, parts⟩ := ofNat_eq_ofParts (n := k) (by omega) fits
    have double : Float.ofInt (k : ℤ) = ofParts .positive m q h := parts
    rw [double, unpack_ofParts, round_natCast]
    refine ⟨⟨bottom, h.lt⟩, ?_⟩
    rw [exactValue, value, signValue]
    push_cast
    ring

/-- The doubles of two integers compare as the rounded integers do. -/
theorem compare_ofInt {m n : ℤ} (hm : m.natAbs < 2 ^ 64) (hn : n.natAbs < 2 ^ 64) :
    (Float.ofInt m).toModel.unpack.compare (Float.ofInt n).toModel.unpack =
      some (compare (round m) (round n)) := by
  obtain ⟨fullM, valueM⟩ := unpack_ofInt hm
  obtain ⟨fullN, valueN⟩ := unpack_ofInt hn
  rw [compare_full fullM fullN, valueM, valueN]
  rcases lt_trichotomy (round m) (round n) with h | h | h
  · rw [compare_lt_iff_lt.2 h, compare_lt_iff_lt.2 (by exact_mod_cast h)]
  · rw [h, compare_eq_iff_eq.2 rfl, compare_eq_iff_eq.2 rfl]
  · rw [compare_gt_iff_gt.2 h, compare_gt_iff_gt.2 (by exact_mod_cast h)]

theorem ofInt_beq {m n : ℤ} (hm : m.natAbs < 2 ^ 64) (hn : n.natAbs < 2 ^ 64) :
    (Float.ofInt m == Float.ofInt n) = decide (round m = round n) := by
  rw [beq_eq, compare_ofInt hm hn, Bool.eq_iff_iff, beq_iff_eq, Option.some_inj, compare_eq_iff_eq,
    decide_eq_true_iff]

theorem ofInt_lt_iff {m n : ℤ} (hm : m.natAbs < 2 ^ 64) (hn : n.natAbs < 2 ^ 64) :
    Float.ofInt m < Float.ofInt n ↔ round m < round n := by
  rw [lt_iff, compare_ofInt hm hn, Option.some_inj, compare_lt_iff_lt]

end PathQuery.Double
