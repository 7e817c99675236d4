import PathQuery.Proofs.Double.Packing

/-!
# Comparing doubles

Two doubles are compared by their parts: first by their signs, then by their places, then by their whole
numbers. That is the order of their values where the whole numbers have all their bits. Equality is
simpler: two doubles are equal if they have the same parts, the two zeros are equal as well, and what is
no number equals nothing. So equality is symmetric and transitive on all doubles, and a double equals
itself unless it is no number.

## Main definitions

* `Double.exactValue` — the value of an unpacked double.
* `Double.IsFull` — zero, or a double whose whole number has all its bits.

## Main results

* `Double.beq_symm`, `Double.beq_trans` — equality of doubles.
* `Double.compare_full` — the order of doubles is that of their values.
-/

namespace PathQuery.Double

open Float.Model Float.Model.UnpackedFloat

/-! ## Equality -/

theorem beq_eq (x y : Float) :
    (x == y) = (x.toModel.unpack.compare y.toModel.unpack == some .eq) := rfl

theorem lt_iff {x y : Float} : x < y ↔ x.toModel.unpack.compare y.toModel.unpack = some .lt := by
  show Float.lt x y = true ↔ _
  rw [Float.lt, decide_eq_true_iff]
  show (x.toModel.unpack.compare y.toModel.unpack == some .lt) = true ↔ _
  exact beq_iff_eq

/-- Whether an unpacked double is one of the two zeros. -/
def isZero : UnpackedFloat → Bool
  | .zero _ => true
  | _ => false

/-- Two unpacked doubles are equal if they are the same, which what is no number is not, or if both are
zero. -/
theorem compare_eq_iff {u v : UnpackedFloat} :
    u.compare v = some .eq ↔ u = v ∧ u ≠ .notANumber ∨ isZero u = true ∧ isZero v = true := by
  cases v with
  | notANumber => cases u <;> simp [UnpackedFloat.compare, isZero]
  | infinity t =>
    cases u with
    | infinity s => cases s <;> cases t <;> simp [UnpackedFloat.compare, isZero] <;> decide
    | _ => cases t <;> simp [UnpackedFloat.compare, isZero]
  | zero t =>
    cases u with
    | finite s => cases s <;> simp [UnpackedFloat.compare, isZero]
    | infinity s => cases s <;> simp [UnpackedFloat.compare, isZero]
    | _ => simp [UnpackedFloat.compare, isZero]
  | finite t n r pos =>
    constructor
    · intro h
      have same := eq_of_compare h
      exact .inl ⟨same, by rw [same]; exact UnpackedFloat.noConfusion⟩
    · rintro (⟨rfl, -⟩ | ⟨-, h⟩)
      · cases t <;> simp [UnpackedFloat.compare]
      · cases h

theorem beq_iff {x y : Float} :
    (x == y) = true ↔ x.toModel.unpack = y.toModel.unpack ∧ x.toModel.unpack ≠ .notANumber ∨
      isZero x.toModel.unpack = true ∧ isZero y.toModel.unpack = true := by
  rw [beq_eq, beq_iff_eq, compare_eq_iff]

theorem beq_symm {x y : Float} (h : (x == y) = true) : (y == x) = true := by
  rw [beq_iff] at h ⊢
  rcases h with ⟨same, number⟩ | ⟨hx, hy⟩
  · exact .inl ⟨same.symm, same ▸ number⟩
  · exact .inr ⟨hy, hx⟩

theorem beq_trans {x y z : Float} (h : (x == y) = true) (h' : (y == z) = true) : (x == z) = true := by
  rw [beq_iff] at h h' ⊢
  rcases h with ⟨same, number⟩ | ⟨hx, hy⟩
  · rwa [same]
  · rcases h' with ⟨same, -⟩ | ⟨-, hz⟩
    · exact .inr ⟨hx, same ▸ hy⟩
    · exact .inr ⟨hx, hz⟩

/-! ## Order -/

/-- The value of a sign. -/
def signValue : Sign → ℚ
  | .negative => -1
  | .positive => 1

/-- The value of an unpacked double that is finite. -/
def exactValue : UnpackedFloat → ℚ
  | .finite s m q _ => signValue s * (m * 2 ^ q)
  | _ => 0

/-- Zero, or a double whose whole number has all its fifty-three bits. -/
def IsFull : UnpackedFloat → Prop
  | .zero _ => True
  | .finite _ m _ _ => 2 ^ 52 ≤ m ∧ m < 2 ^ 53
  | _ => False

/-- With all their bits, numbers are compared by their places first. -/
theorem lt_of_place_lt {m n : ℕ} {q r : ℤ} (hm : m < 2 ^ 53) (hn : 2 ^ 52 ≤ n) (h : q < r) :
    (m * 2 ^ q : ℚ) < n * 2 ^ r := by
  have top : (m : ℚ) < 2 ^ 53 := by exact_mod_cast hm
  have bottom : (2 : ℚ) ^ 52 ≤ n := by exact_mod_cast hn
  calc (m * 2 ^ q : ℚ) < 2 ^ 53 * 2 ^ q := by gcongr
    _ = 2 ^ 52 * 2 ^ (q + 1) := by
        rw [zpow_add_one₀ (by norm_num)]
        ring
    _ ≤ n * 2 ^ r := by
        have step : (2 : ℚ) ^ (q + 1) ≤ 2 ^ r := zpow_le_zpow_right₀ (by norm_num) (by omega)
        gcongr

theorem compare_magnitudes {m n : ℕ} {q r : ℤ} (hm : 2 ^ 52 ≤ m ∧ m < 2 ^ 53)
    (hn : 2 ^ 52 ≤ n ∧ n < 2 ^ 53) :
    (compare q r).then (compare m n) = compare (m * 2 ^ q : ℚ) (n * 2 ^ r) := by
  rcases lt_trichotomy q r with h | rfl | h
  · rw [compare_lt_iff_lt.2 h, compare_lt_iff_lt.2 (lt_of_place_lt hm.2 hn.1 h)]
    rfl
  · have pos : (0 : ℚ) < 2 ^ q := by positivity
    rw [compare_eq_iff_eq.2 rfl, Ordering.eq_then]
    rcases lt_trichotomy m n with h | rfl | h
    · have values : (m * 2 ^ q : ℚ) < n * 2 ^ q := by gcongr
      rw [compare_lt_iff_lt.2 h, compare_lt_iff_lt.2 values]
    · rw [compare_eq_iff_eq.2 rfl, compare_eq_iff_eq.2 rfl]
    · have values : (n * 2 ^ q : ℚ) < m * 2 ^ q := by gcongr
      rw [compare_gt_iff_gt.2 h, compare_gt_iff_gt.2 values]
  · rw [compare_gt_iff_gt.2 h, compare_gt_iff_gt.2 (lt_of_place_lt hn.2 hm.1 h)]
    rfl

theorem compare_neg_neg (x y : ℚ) : compare (-x) (-y) = (compare x y).swap := by
  rcases lt_trichotomy x y with h | rfl | h
  · rw [compare_lt_iff_lt.2 h, compare_gt_iff_gt.2 (neg_lt_neg h)]
    rfl
  · rw [compare_eq_iff_eq.2 rfl, compare_eq_iff_eq.2 rfl]
    rfl
  · rw [compare_gt_iff_gt.2 h, compare_lt_iff_lt.2 (neg_lt_neg h)]
    rfl

/-- Doubles with all their bits are ordered as their values are. -/
theorem compare_full {u v : UnpackedFloat} (hu : IsFull u) (hv : IsFull v) :
    u.compare v = some (compare (exactValue u) (exactValue v)) := by
  have positive {m : ℕ} {q : ℤ} (h : 0 < m) : (0 : ℚ) < m * 2 ^ q := by positivity
  match u, v with
  | .zero _, .zero _ =>
    show some Ordering.eq = some (compare (0 : ℚ) 0)
    rw [compare_eq_iff_eq.2 rfl]
  | .zero _, .finite .positive n r hn =>
    rw [compare_lt_iff_lt.2 (by simpa [exactValue, signValue] using positive hn)]
    rfl
  | .zero _, .finite .negative n r hn =>
    rw [compare_gt_iff_gt.2 (by simpa [exactValue, signValue] using positive hn)]
    rfl
  | .finite .positive m q hm, .zero _ =>
    rw [compare_gt_iff_gt.2 (by simpa [exactValue, signValue] using positive hm)]
    rfl
  | .finite .negative m q hm, .zero _ =>
    rw [compare_lt_iff_lt.2 (by simpa [exactValue, signValue] using positive hm)]
    rfl
  | .finite .positive m q hm, .finite .positive n r hn =>
    simp only [UnpackedFloat.compare, exactValue, signValue, one_mul, compare_magnitudes hu hv]
  | .finite .negative m q hm, .finite .negative n r hn =>
    simp only [UnpackedFloat.compare, exactValue, signValue, neg_one_mul, compare_neg_neg,
      compare_magnitudes hu hv]
  | .finite .positive m q hm, .finite .negative n r hn =>
    have order : exactValue (.finite .negative n r hn) < exactValue (.finite .positive m q hm) := by
      simp only [exactValue, signValue, neg_one_mul, one_mul]
      linarith [positive (q := q) hm, positive (q := r) hn]
    rw [compare_gt_iff_gt.2 order]
    rfl
  | .finite .negative m q hm, .finite .positive n r hn =>
    have order : exactValue (.finite .negative m q hm) < exactValue (.finite .positive n r hn) := by
      simp only [exactValue, signValue, neg_one_mul, one_mul]
      linarith [positive (q := q) hm, positive (q := r) hn]
    rw [compare_lt_iff_lt.2 order]
    rfl

end PathQuery.Double
