import Mathlib

/-!
# Rounding to doubles

Products and quotients of doubles are rounded alike: the exact result comes as a whole part with two
bits that tell how the rest lies to one half, places are dropped from it until the last one is that of a
double, and what remains is rounded to the nearest, a tie going to the even one. Dropping a place is
halving, and the two bits survive it. So the double depends on the exact result alone, and not on how
many places it came with.

All exact results are positive rational numbers here.

## Main definitions

* `Double.extended` — the whole part of a number and how the rest of it lies to one half.
* `Double.lastPlace` — the place of the last bit of a double next to a number.
* `Double.nearest` — the unpacked double that is nearest to a number.

## Main results

* `Double.roundWithAccuracy_eq` — rounding gives the nearest double, whatever the places of its input.
* `Double.mul_eq`, `Double.div_eq` — products and quotients are the doubles nearest to the exact ones.
* `Double.nearest_of_close` — a number close to a double has that double as its nearest.
-/

namespace PathQuery.Double

open Float.Model Float.Model.UnpackedFloat

/-! ## Whole parts with two bits -/

/-- The whole part of a number, whether the rest reaches one half, and whether it is neither nothing nor
exactly one half. -/
def extended (x : ℚ) : ExtendedMantissa :=
  ⟨⌊x⌋₊, decide (1 / 2 ≤ x - ⌊x⌋₊), decide (x ≠ ⌊x⌋₊ ∧ x ≠ ⌊x⌋₊ + 1 / 2)⟩

/-- A number in its two parts. -/
theorem extended_add {n : ℕ} {f : ℚ} (h0 : 0 ≤ f) (h1 : f < 1) :
    extended (n + f) = ⟨n, decide (1 / 2 ≤ f), decide (f ≠ 0 ∧ f ≠ 1 / 2)⟩ := by
  have floor : ⌊n + f⌋₊ = n := by
    rw [Nat.floor_eq_iff (by positivity)]
    constructor <;> linarith
  simp [extended, floor]

theorem exists_nat_add {x : ℚ} (hx : 0 ≤ x) : ∃ (n : ℕ) (f : ℚ), 0 ≤ f ∧ f < 1 ∧ x = n + f := by
  have lower := Nat.floor_le hx
  have upper := Nat.lt_floor_add_one x
  exact ⟨⌊x⌋₊, x - ⌊x⌋₊, by linarith, by linarith, by ring⟩

theorem extended_natCast (n : ℕ) : extended n = ⟨n, false, false⟩ := by
  simp [extended]

/-- Dropping a place halves the number. -/
theorem shiftRightOne_extended {x : ℚ} (hx : 0 ≤ x) : (extended x).shiftRightOne = extended (x / 2) := by
  obtain ⟨n, f, h0, h1, rfl⟩ := exists_nat_add hx
  have some : (1 / 2 ≤ f ∨ f ≠ 0 ∧ f ≠ 1 / 2) ↔ f ≠ 0 := by grind
  rcases n.even_or_odd' with ⟨k, rfl | rfl⟩
  · have half : ((2 * k : ℕ) + f) / 2 = k + f / 2 := by
      push_cast
      ring
    rw [half, extended_add h0 h1, extended_add (by linarith) (by linarith)]
    simp only [ExtendedMantissa.shiftRightOne, ExtendedMantissa.mk.injEq, ← Bool.decide_or, some]
    refine ⟨by omega, ?_, ?_⟩
    · rw [decide_eq_false (by linarith)]
      simp
    · rw [decide_eq_decide]
      grind
  · have half : ((2 * k + 1 : ℕ) + f) / 2 = k + (1 + f) / 2 := by
      push_cast
      ring
    rw [half, extended_add h0 h1, extended_add (by linarith) (by linarith)]
    simp only [ExtendedMantissa.shiftRightOne, ExtendedMantissa.mk.injEq, ← Bool.decide_or, some]
    refine ⟨by omega, ?_, ?_⟩
    · rw [decide_eq_true (by linarith)]
      simp
    · rw [decide_eq_decide]
      grind

theorem shiftRight_extended {x : ℚ} (hx : 0 ≤ x) (k : ℕ) : extended x >>> k = extended (x / 2 ^ k) := by
  show k.repeat ExtendedMantissa.shiftRightOne (extended x) = _
  induction k with
  | zero => simp [Nat.repeat]
  | succ k ih =>
    rw [Nat.repeat, ih, shiftRightOne_extended (by positivity), pow_succ, div_div]

/-! ## Fractions in their two parts -/

section Fraction

variable (a : ℕ) {b : ℕ} (hb : 0 < b)

include hb

theorem natCast_div_eq : (a : ℚ) / b = (a / b : ℕ) + (a % b : ℕ) / b := by
  have pos : (0 : ℚ) < b := by exact_mod_cast hb
  field_simp
  exact_mod_cast (Nat.div_add_mod a b).symm

theorem mod_div_lt_one : ((a % b : ℕ) : ℚ) / b < 1 := by
  rw [div_lt_one (by exact_mod_cast hb)]
  exact_mod_cast Nat.mod_lt a hb

theorem half_le_div_iff : (1 / 2 : ℚ) ≤ a / b ↔ b ≤ 2 * a := by
  rw [div_le_div_iff₀ (by norm_num) (by exact_mod_cast hb), one_mul, mul_comm]
  exact_mod_cast Iff.rfl

theorem div_le_half_iff : (a : ℚ) / b ≤ 1 / 2 ↔ 2 * a ≤ b := by
  rw [div_le_div_iff₀ (by exact_mod_cast hb) (by norm_num), one_mul, mul_comm]
  exact_mod_cast Iff.rfl

/-- A quotient of whole numbers and what is left of the division are the two parts of a number. -/
theorem ofMantissaAndAccuracy_div :
    ExtendedMantissa.ofMantissaAndAccuracy (a / b) (accuracyOfFraction (a % b) b) =
      extended (a / b) := by
  have zero : ((a % b : ℕ) : ℚ) / b = 0 ↔ a % b = 0 := by
    rw [div_eq_zero_iff, Nat.cast_eq_zero, Nat.cast_eq_zero]
    omega
  have tie : ((a % b : ℕ) : ℚ) / b = 1 / 2 ↔ 2 * (a % b) = b := by
    rw [le_antisymm_iff, div_le_half_iff _ hb, half_le_div_iff _ hb]
    omega
  rw [natCast_div_eq a hb, extended_add (by positivity) (mod_div_lt_one a hb)]
  simp only [zero, tie, half_le_div_iff _ hb, ne_eq]
  by_cases hz : a % b = 0
  · simp [accuracyOfFraction, ExtendedMantissa.ofMantissaAndAccuracy, hz, hb.ne']
  · rcases Nat.lt_trichotomy (2 * (a % b)) b with h | h | h
    · have order : compare (2 * (a % b)) b = .lt := Nat.compare_eq_lt.2 h
      simp [accuracyOfFraction, ExtendedMantissa.ofMantissaAndAccuracy, hz, order, h, h.ne]
    · simp [accuracyOfFraction, ExtendedMantissa.ofMantissaAndAccuracy, hz, h]
    · have order : compare (2 * (a % b)) b = .gt := Nat.compare_eq_gt.2 h
      simp [accuracyOfFraction, ExtendedMantissa.ofMantissaAndAccuracy, hz, order, h.le, h.ne']

end Fraction

/-! ## Places of a double -/

/-- The place of the last bit of a double next to a number. -/
def lastPlace (x : ℚ) : ℤ := Format.binary64.targetExponent (Int.log 2 x + 1)

theorem lastPlace_eq (x : ℚ) : lastPlace x = max (Int.log 2 x - 52) (-1074) := by
  show max (Int.log 2 x + 1 - 53) (-1074) = _
  congr 1
  omega

theorem log_eq {x : ℚ} {k : ℤ} (lower : 2 ^ k ≤ x) (upper : x < 2 ^ (k + 1)) : Int.log 2 x = k := by
  have pos : 0 < x := lt_of_lt_of_le (by positivity) lower
  have := (Int.zpow_le_iff_le_log Nat.one_lt_two pos).1 lower
  have := (Int.lt_zpow_iff_log_lt Nat.one_lt_two pos).1 upper
  omega

/-- The bounds of a number between two powers of two. -/
theorem zpow_log_le {x : ℚ} (hx : 0 < x) : 2 ^ Int.log 2 x ≤ x := Int.zpow_log_le_self Nat.one_lt_two hx

theorem lt_zpow_log (x : ℚ) : x < 2 ^ (Int.log 2 x + 1) := Int.lt_zpow_succ_log_self Nat.one_lt_two x

theorem log_mul_zpow {x : ℚ} (hx : 0 < x) (e : ℤ) : Int.log 2 (x * 2 ^ e) = Int.log 2 x + e := by
  have pos : (0 : ℚ) < 2 ^ e := by positivity
  apply log_eq
  · rw [zpow_add₀ (by norm_num)]
    exact mul_le_mul_of_nonneg_right (zpow_log_le hx) pos.le
  · rw [add_right_comm, zpow_add₀ (by norm_num)]
    exact mul_lt_mul_of_pos_right (lt_zpow_log x) pos

theorem log_natCast (n : ℕ) : Int.log 2 (n : ℚ) = n.log2 := by
  rw [Int.log_natCast, Nat.log2_eq_log_two]

/-- The place that is aimed at is that of the number, as long as it is not passed over already. -/
theorem targetExponent_eq {m : ℕ} {e : ℤ} {x : ℚ} (hx : 0 < x) (whole : m = ⌊x / 2 ^ e⌋₊)
    (he : e ≤ lastPlace x) : Format.binary64.targetExponent (totalExponent m e) = lastPlace x := by
  have pos : 0 < x / 2 ^ e := by positivity
  have log : Int.log 2 x = Int.log 2 (x / 2 ^ e) + e := by
    rw [← log_mul_zpow pos, div_mul_cancel₀ _ (by positivity)]
  rw [lastPlace_eq, log] at he
  rw [lastPlace_eq, log]
  show max (((m.log2 : ℤ) + 1 + e) - 53) (-1074) = _
  by_cases one : 1 ≤ x / 2 ^ e
  · rw [Int.log_of_one_le_right 2 one, ← whole, Nat.log2_eq_log_two]
    congr 1
    omega
  · -- Less than one unit is left, which only happens at the places of the smallest doubles.
    have none : m = 0 := whole.trans (Nat.floor_eq_zero.2 (not_le.1 one))
    have below : Int.log 2 (x / 2 ^ e) < 0 :=
      (Int.lt_zpow_iff_log_lt Nat.one_lt_two pos).1 (by simpa using one)
    have zero : Nat.log2 0 = 0 := rfl
    rw [none, zero]
    omega

/-! ## The nearest double -/

/-- What is left when a rounded number has been brought to the places of a double. -/
def settled (s : Sign) (m : ℕ) (e : ℤ) : UnpackedFloat :=
  let r := shiftToTargetExponent Format.binary64 m e .exact
  if h : r.1.mantissa = 0 then .zero s else .finite s r.1.mantissa r.2 (Nat.pos_of_ne_zero h)

/-- The unpacked double that is nearest to a number. -/
def nearest (s : Sign) (x : ℚ) : UnpackedFloat :=
  settled s (extended (x / 2 ^ lastPlace x)).roundedMantissa (lastPlace x)

theorem mantissa_ofMantissaAndAccuracy (m : ℕ) (accuracy : Accuracy) :
    (ExtendedMantissa.ofMantissaAndAccuracy m accuracy).mantissa = m := by
  cases accuracy with
  | exact => rfl
  | inexact o => cases o <;> rfl

/-- Rounding gives the nearest double to the exact number, as long as the number comes with all the
places of a double. -/
theorem roundWithAccuracy_eq {s : Sign} {m : ℕ} {e : ℤ} {accuracy : Accuracy} {x : ℚ} (hx : 0 < x)
    (em : ExtendedMantissa.ofMantissaAndAccuracy m accuracy = extended (x / 2 ^ e))
    (he : e ≤ lastPlace x) :
    roundWithAccuracy Format.binary64 s m e accuracy = nearest s x := by
  have whole : m = ⌊x / 2 ^ e⌋₊ := by
    rw [← mantissa_ofMantissaAndAccuracy m accuracy, em]
    rfl
  have places : e + ((lastPlace x - e).toNat : ℤ) = lastPlace x := by omega
  have split : x / 2 ^ e / 2 ^ (lastPlace x - e).toNat = x / 2 ^ lastPlace x := by
    rw [div_div, ← zpow_natCast, ← zpow_add₀ (by norm_num), places]
  have first : shiftToTargetExponent Format.binary64 m e accuracy =
      (extended (x / 2 ^ lastPlace x), lastPlace x) := by
    have left : 0 ≤ x / 2 ^ e := by positivity
    rw [shiftToTargetExponent, targetExponent_eq hx whole he]
    simp only [shiftToExponent, em, shiftRight_extended left, places, split]
  simp only [roundWithAccuracy, first]
  rfl

/-! ## Products and quotients -/

/-- A number with enough bits at a place comes with all the places of a double. -/
theorem le_lastPlace {x : ℚ} {e : ℤ} (h : 2 ^ 52 * 2 ^ e ≤ x) : e ≤ lastPlace x := by
  have pos : 0 < x := lt_of_lt_of_le (by positivity) h
  have split : (2 : ℚ) ^ 52 * 2 ^ e = 2 ^ (52 + e) := by
    rw [zpow_add₀ (by norm_num)]
    rfl
  have := (Int.zpow_le_iff_le_log Nat.one_lt_two pos).1 (split ▸ h)
  rw [lastPlace_eq]
  omega

/-- The exact product of two doubles with enough bits between them is rounded. -/
theorem mul_eq {s₁ s₂ : Sign} {m₁ m₂ : ℕ} {e₁ e₂ : ℤ} (h₁ : 0 < m₁) (h₂ : 0 < m₂)
    (wide : 2 ^ 52 ≤ m₁ * m₂) :
    mul Format.binary64 (.finite s₁ m₁ e₁ h₁) (.finite s₂ m₂ e₂ h₂) =
      nearest (s₁ * s₂) (m₁ * 2 ^ e₁ * (m₂ * 2 ^ e₂)) := by
  have value : (m₁ * 2 ^ e₁ * (m₂ * 2 ^ e₂) : ℚ) = (m₁ * m₂ : ℕ) * 2 ^ (e₁ + e₂) := by
    rw [zpow_add₀ (by norm_num)]
    push_cast
    ring
  have bits : (2 : ℚ) ^ 52 ≤ (m₁ * m₂ : ℕ) := by exact_mod_cast wide
  refine roundWithAccuracy_eq (by positivity) ?_ (le_lastPlace ?_)
  · rw [value, mul_div_cancel_right₀ _ (by positivity), extended_natCast]
    rfl
  · rw [value]
    gcongr

theorem totalExponent_eq {m : ℕ} (hm : 0 < m) (e : ℤ) :
    totalExponent m e = Int.log 2 (m * 2 ^ e : ℚ) + 1 := by
  rw [log_mul_zpow (by positivity), log_natCast]
  show (m.log2 : ℤ) + 1 + e = _
  omega

theorem log_sub_le {x y : ℚ} (hx : 0 < x) (hy : 0 < y) :
    Int.log 2 x - Int.log 2 y - 1 ≤ Int.log 2 (x / y) := by
  refine (Int.zpow_le_iff_le_log Nat.one_lt_two (by positivity)).1 ?_
  have hpow : ((2 : ℕ) : ℚ) ^ (Int.log 2 x - Int.log 2 y - 1) * 2 ^ (Int.log 2 y + 1) =
      2 ^ Int.log 2 x := by
    rw [Nat.cast_ofNat, ← zpow_add₀ (by norm_num)]
    congr 1
    omega
  rw [le_div_iff₀ hy]
  calc _ ≤ ((2 : ℕ) : ℚ) ^ (Int.log 2 x - Int.log 2 y - 1) * 2 ^ (Int.log 2 y + 1) := by
        have := (lt_zpow_log y).le
        gcongr
    _ ≤ x := hpow ▸ zpow_log_le hx

/-- The exact quotient of two doubles is rounded. -/
theorem div_eq {s₁ s₂ : Sign} {m₁ m₂ : ℕ} {e₁ e₂ : ℤ} (h₁ : 0 < m₁) (h₂ : 0 < m₂) :
    div Format.binary64 (.finite s₁ m₁ e₁ h₁) (.finite s₂ m₂ e₂ h₂) =
      nearest (s₁ / s₂) (m₁ * 2 ^ e₁ / (m₂ * 2 ^ e₂)) := by
  set x : ℚ := m₁ * 2 ^ e₁ / (m₂ * 2 ^ e₂) with hx
  set t := Format.binary64.targetExponent (totalExponent m₁ e₁ - totalExponent m₂ e₂) with ht
  set e := min (e₁ - e₂) t with he
  have value : x / 2 ^ e = ((m₁ <<< (e₁ - e₂ - e).toNat : ℕ) : ℚ) / m₂ := by
    have places : e₁ = (e₁ - e₂ - e).toNat + e₂ + e := by omega
    have split : (2 : ℚ) ^ e₁ = 2 ^ (e₁ - e₂ - e).toNat * 2 ^ e₂ * 2 ^ e := by
      conv_lhs => rw [places]
      rw [zpow_add₀ (by norm_num), zpow_add₀ (by norm_num), zpow_natCast]
    rw [hx, split, Nat.shiftLeft_eq]
    push_cast
    field_simp
  have target : t ≤ lastPlace x := by
    have log := log_sub_le (x := m₁ * 2 ^ e₁) (y := m₂ * 2 ^ e₂) (by positivity) (by positivity)
    rw [← hx] at log
    rw [lastPlace_eq, ht, totalExponent_eq h₁, totalExponent_eq h₂]
    show max (_ - 53) (-1074) ≤ _
    omega
  refine roundWithAccuracy_eq (by positivity) ?_ ((min_le_right _ _).trans target)
  rw [value]
  exact ofMantissaAndAccuracy_div _ h₂

/-! ## Numbers close to a double -/

/-- The two parts of a positive double: it has fifty-three bits unless its last place is the least. -/
structure Canonical (m : ℕ) (q : ℤ) : Prop where
  pos : 0 < m
  lt : m < 2 ^ 53
  least : -1074 ≤ q
  most : q ≤ 971
  normal : 2 ^ 52 ≤ m ∨ q = -1074

theorem settled_of_lt {s : Sign} {m : ℕ} {e : ℤ} (pos : 0 < m) (lt : m < 2 ^ 53) (least : -1074 ≤ e) :
    settled s m e = .finite s m e pos := by
  have log : m.log2 < 53 := (Nat.log2_lt pos.ne').2 lt
  have target : (Format.binary64.targetExponent (totalExponent m e) - e).toNat = 0 := by
    show (max ((m.log2 : ℤ) + 1 + e - 53) (-1074) - e).toNat = 0
    omega
  have shift : shiftToTargetExponent Format.binary64 m e .exact = (⟨m, false, false⟩, e) := by
    simp only [shiftToTargetExponent, shiftToExponent, target, Nat.cast_zero, Int.add_zero]
    rfl
  simp only [settled, shift]
  rw [dif_neg pos.ne']

/-- A carry beyond the last bit moves the place. -/
theorem settled_carry {s : Sign} {e : ℤ} (least : -1074 ≤ e) :
    settled s (2 ^ 53) e = .finite s (2 ^ 52) (e + 1) (by decide) := by
  have target : (Format.binary64.targetExponent (totalExponent (2 ^ 53) e) - e).toNat = 1 := by
    show (max (((2 ^ 53 : ℕ).log2 : ℤ) + 1 + e - 53) (-1074) - e).toNat = 1
    rw [Nat.log2_two_pow]
    omega
  have shift : shiftToTargetExponent Format.binary64 (2 ^ 53) e .exact =
      (⟨2 ^ 52, false, false⟩, e + 1) := by
    simp only [shiftToTargetExponent, shiftToExponent, target, Nat.cast_one]
    rfl
  simp only [settled, shift]
  rfl

theorem roundedMantissa_extended {x : ℚ} {m : ℕ} (hm : 0 < m) (close : |x - m| < 1 / 2) :
    (extended x).roundedMantissa = m := by
  rw [abs_lt] at close
  have one : (1 : ℚ) ≤ m := by exact_mod_cast hm
  by_cases below : x < m
  · obtain ⟨k, rfl⟩ := Nat.exists_eq_add_of_le' hm
    push_cast at *
    have split : x = k + (x - k) := by ring
    rw [split, extended_add (by linarith) (by linarith)]
    have round : (1 : ℚ) / 2 ≤ x - k := by linarith
    have sticky : x - k ≠ 0 ∧ x - k ≠ 1 / 2 := ⟨by linarith, by intro h; linarith⟩
    rw [decide_eq_true round, decide_eq_true sticky]
    rfl
  · have split : x = m + (x - m) := by ring
    rw [split, extended_add (by linarith) (by linarith)]
    have round : ¬ (1 : ℚ) / 2 ≤ x - m := by linarith
    rw [decide_eq_false round]
    cases decide (x - m ≠ 0 ∧ x - m ≠ 1 / 2) <;> rfl

/-- A number with the last place of a double, less than one half of that place off it. -/
theorem nearest_of_lastPlace {s : Sign} {m : ℕ} {q : ℤ} {x : ℚ} (h : Canonical m q)
    (last : lastPlace x = q) (close : |x / 2 ^ q - m| < 1 / 2) : nearest s x = .finite s m q h.pos := by
  rw [nearest, last, roundedMantissa_extended h.pos close]
  exact settled_of_lt h.pos h.lt h.least

/-- A number just below a power of two, so that rounding carries. -/
theorem nearest_of_carry {s : Sign} {q : ℤ} {x : ℚ} (least : -1074 ≤ q) (last : lastPlace x = q)
    (close : |x / 2 ^ q - (2 ^ 53 : ℕ)| < 1 / 2) :
    nearest s x = .finite s (2 ^ 52) (q + 1) (by decide) := by
  rw [nearest, last, roundedMantissa_extended (by decide) close, settled_carry least]

/-- A number within the part 1 / (2 · 10 ^ 16) of a double has that double as its nearest. -/
theorem nearest_of_close {s : Sign} {m : ℕ} {q : ℤ} {x : ℚ} (h : Canonical m q)
    (close : |x - m * 2 ^ q| ≤ m * 2 ^ q / (2 * 10 ^ 16)) : nearest s x = .finite s m q h.pos := by
  have place : (0 : ℚ) < 2 ^ q := by positivity
  have one : (1 : ℚ) ≤ m := by exact_mod_cast h.pos
  have bits : (m : ℚ) ≤ 2 ^ 53 - 1 := by
    have : (m : ℚ) + 1 ≤ 2 ^ 53 := by exact_mod_cast h.lt
    linarith
  -- The number in units of the last place of the double.
  obtain ⟨y, rfl⟩ : ∃ y, x = y * 2 ^ q := ⟨x / 2 ^ q, by field_simp⟩
  rw [← sub_mul, abs_mul, abs_of_pos place, mul_div_right_comm] at close
  obtain ⟨lower, upper⟩ := abs_le.1 (le_of_mul_le_mul_right close place)
  have pos : 0 < y := by linarith
  have least := h.least
  by_cases inner : 2 ^ 52 ≤ y ∨ q = -1074
  · have below : Int.log 2 y < 53 :=
      (Int.lt_zpow_iff_log_lt Nat.one_lt_two pos).1 (by norm_num; linarith)
    have last : lastPlace (y * 2 ^ q) = q := by
      rw [lastPlace_eq, log_mul_zpow pos]
      rcases inner with inner | inner
      · have above : 52 ≤ Int.log 2 y :=
          (Int.zpow_le_iff_le_log Nat.one_lt_two pos).1 (by norm_num; linarith)
        omega
      · omega
    refine nearest_of_lastPlace h last ?_
    rw [mul_div_cancel_right₀ _ place.ne', abs_lt]
    constructor <;> linarith
  · -- Fewer than fifty-three bits at this place, so the double is a power of two from above.
    obtain ⟨below, normal⟩ := not_or.1 inner
    obtain rfl : m = 2 ^ 52 := by
      have low := h.normal.resolve_right normal
      have high : m < 2 ^ 52 + 1 := by
        have : (m : ℚ) < 2 ^ 52 + 1 := by linarith
        exact_mod_cast this
      omega
    push_cast at *
    have log : Int.log 2 y = 51 := log_eq (by norm_num; linarith) (by norm_num; linarith)
    have last : lastPlace (y * 2 ^ q) = q - 1 := by
      rw [lastPlace_eq, log_mul_zpow pos, log]
      omega
    have double : y * 2 ^ q / 2 ^ (q - 1) = 2 * y := by
      rw [zpow_sub_one₀ (by norm_num)]
      field_simp
    rw [nearest_of_carry (by omega) last]
    · congr 1
      omega
    · rw [double]
      push_cast
      rw [abs_lt]
      constructor <;> linarith

end PathQuery.Double
