import PathQuery.Proofs.Decimal
import PathQuery.Proofs.Double.Rounding

/-!
# Doubles and their bits

A finite double that is not zero is a sign, a whole number and a place, and it is stored in sixty-four
bits: the sign, the place above the least one, and the whole number without its first bit. The least
place is shared with the numbers that lack that bit. Storing and taking apart undo each other, so such a
double can be given by its parts, and its sign and size can be read off them.

## Main definitions

* `Double.ofParts` — the double of a sign, a whole number and a place.

## Main results

* `Double.exists_parts` — every finite double that is not zero is one of parts.
* `Double.unpack_ofParts` — and its parts are what it is taken apart into.
* `Double.significand_ofParts`, `Double.binaryExponent_ofParts` — its parts are read off its bits.
-/

namespace PathQuery.Double

open Float.Model Float.Model.UnpackedFloat

/-! ## Bits -/

theorem toNat_packComponents (s : Sign) (e : BitVec 11) (m : BitVec 52) :
    (packComponents Format.binary64 s e m).toNat =
      s.toBitVec.toNat * 2 ^ 63 + e.toNat * 2 ^ 52 + m.toNat := by
  have he := e.isLt
  have hm := m.isLt
  show ((s.toBitVec ++ e) ++ m).toNat = _
  rw [BitVec.toNat_append, BitVec.toNat_append, ← Nat.shiftLeft_add_eq_or_of_lt hm,
    ← Nat.shiftLeft_add_eq_or_of_lt he]
  simp only [Nat.shiftLeft_eq]
  ring

theorem toNat_unpackMantissa (b : BitVec 64) :
    (@unpackMantissa Format.binary64 b).toNat = b.toNat % 2 ^ 52 := by
  simp [unpackMantissa]

theorem toNat_unpackExponent (b : BitVec 64) :
    (@unpackExponent Format.binary64 b).toNat = b.toNat / 2 ^ 52 % 2 ^ 11 := by
  simp [unpackExponent, Nat.shiftRight_eq_div_pow]

theorem toNat_unpackSign (b : BitVec 64) :
    (@unpackSign Format.binary64 b).toNat = b.toNat / 2 ^ 63 := by
  have := b.isLt
  simp [unpackSign, Nat.shiftRight_eq_div_pow]
  omega

theorem sign_ofBitVec (b : BitVec 1) : (Sign.ofBitVec b).toBitVec = b := by
  by_cases h : b = 0#1
  · subst h
    rfl
  · have one : b = 1#1 := by
      apply BitVec.eq_of_toNat_eq
      have := b.isLt
      have : b.toNat ≠ 0 := fun e => h (BitVec.eq_of_toNat_eq e)
      show b.toNat = 1
      omega
    subst one
    rfl

theorem sign_toBitVec (s : Sign) : Sign.ofBitVec s.toBitVec = s := by cases s <;> rfl

/-- Bits are put together again from their three parts. -/
theorem packComponents_unpack (b : BitVec 64) :
    packComponents Format.binary64 (Sign.ofBitVec (@unpackSign Format.binary64 b)) (unpackExponent b)
      (unpackMantissa b) = b := by
  apply BitVec.eq_of_toNat_eq
  rw [toNat_packComponents, sign_ofBitVec, toNat_unpackSign, toNat_unpackExponent, toNat_unpackMantissa]
  omega

theorem unpackSign_packComponents (s : Sign) (e : BitVec 11) (m : BitVec 52) :
    @unpackSign Format.binary64 (packComponents Format.binary64 s e m) = s.toBitVec := by
  apply BitVec.eq_of_toNat_eq
  have := e.isLt
  have := m.isLt
  have := s.toBitVec.isLt
  rw [toNat_unpackSign, toNat_packComponents]
  omega

/-! ## Storing and taking apart -/

section Parts

variable {s : Sign} {m : ℕ} {q : ℤ}

theorem pack_normal (pos : 0 < m) (normal : 2 ^ 52 ≤ m) (lt : m < 2 ^ 53) (least : -1074 ≤ q)
    (most : q ≤ 971) :
    UnpackedFloat.pack Format.binary64 (.finite s m q pos) =
      packComponents Format.binary64 s (BitVec.ofNat 11 (q + 1075).toNat) (BitVec.ofNat 52 m) := by
  have log : m.log2 = 52 := (Nat.log2_eq_iff pos.ne').2 ⟨normal, lt⟩
  have exponent :
      (q + Format.binary64.exponentBias + Format.binary64.mantissaBitsWithoutImplicit).toNat =
        (q + 1075).toNat := by
    show (q + 1023 + 52).toNat = _
    congr 1
    omega
  have finite : ¬ 2 ^ 11 ≤ (q + 1075).toNat + 1 := by omega
  simp only [UnpackedFloat.pack, exponent]
  rw [if_neg finite, if_pos (by rw [log]; rfl)]

theorem pack_subnormal (pos : 0 < m) (small : m < 2 ^ 52) :
    UnpackedFloat.pack Format.binary64 (.finite s m (-1074) pos) =
      packComponents Format.binary64 s 0#11 (BitVec.ofNat 52 m) := by
  have log : m.log2 < 52 := (Nat.log2_lt pos.ne').2 small
  have short : ¬ m.log2 + 1 = Format.binary64.mantissaBits := by
    show ¬ m.log2 + 1 = 53
    omega
  simp only [UnpackedFloat.pack]
  rw [if_neg (by decide), if_neg short]

theorem unpack_normal {e : BitVec 11} (f : BitVec 52) (zero : e ≠ 0#11) (most : e ≠ -1#11) :
    UnpackedFloat.unpack Format.binary64 (packComponents Format.binary64 s e f) =
      .finite s (2 ^ 52 + f.toNat) (e.toNat - 1075) (by omega) := by
  have bits : (1#1 ++ f).toNat = 2 ^ 52 + f.toNat := by
    rw [BitVec.toNat_append, ← Nat.shiftLeft_add_eq_or_of_lt f.isLt]
    rfl
  simp only [UnpackedFloat.unpack, unpackMantissa_packComponents, unpackExponent_packComponents,
    unpackSign_packComponents, sign_toBitVec]
  rw [if_neg most, if_neg zero]
  simp only [bits]
  rfl

theorem unpack_subnormal {f : BitVec 52} (pos : 0 < f.toNat) :
    UnpackedFloat.unpack Format.binary64 (packComponents Format.binary64 s 0#11 f) =
      .finite s f.toNat (-1074) pos := by
  have nonzero : f ≠ 0#52 := by
    rintro rfl
    exact absurd pos (by decide)
  simp only [UnpackedFloat.unpack, unpackMantissa_packComponents, unpackExponent_packComponents,
    unpackSign_packComponents, sign_toBitVec]
  rw [if_neg (by decide), if_pos trivial, dif_neg nonzero]
  rfl

/-! ## Doubles of parts -/

theorem Canonical.eq_least (h : Canonical m q) (small : ¬ 2 ^ 52 ≤ m) : q = -1074 :=
  h.normal.resolve_left small

/-- The double of a sign, a whole number and a place. -/
def ofParts (s : Sign) (m : ℕ) (q : ℤ) (h : Canonical m q) : Float :=
  .ofModel (.pack (.finite s m q h.pos))

variable (h : Canonical m q)

/-- The bits of a double of parts. -/
theorem toNat_toBits_ofParts : (ofParts s m q h).toBits.toNat =
    s.toBitVec.toNat * 2 ^ 63 + if 2 ^ 52 ≤ m then (q + 1075).toNat * 2 ^ 52 + (m - 2 ^ 52) else m := by
  show (UnpackedFloat.pack Format.binary64 (.finite s m q h.pos)).toNat = _
  have lt := h.lt
  have least := h.least
  have most := h.most
  by_cases normal : 2 ^ 52 ≤ m
  · rw [pack_normal h.pos normal lt least most, toNat_packComponents, if_pos normal, BitVec.toNat_ofNat,
      BitVec.toNat_ofNat]
    omega
  · obtain rfl := h.eq_least normal
    rw [pack_subnormal h.pos (not_le.1 normal), toNat_packComponents, if_neg normal, BitVec.toNat_ofNat,
      BitVec.toNat_ofNat]
    omega

/-- A double of parts is taken apart into them. -/
theorem unpack_ofParts : (ofParts s m q h).toModel.unpack = .finite s m q h.pos := by
  show UnpackedFloat.unpack _ (UnpackedFloat.pack Format.binary64 (.finite s m q h.pos)) = _
  have lt := h.lt
  have least := h.least
  have most := h.most
  by_cases normal : 2 ^ 52 ≤ m
  · have exponent : (BitVec.ofNat 11 (q + 1075).toNat).toNat = (q + 1075).toNat := by
      rw [BitVec.toNat_ofNat]
      omega
    have fraction : (BitVec.ofNat 52 m).toNat = m - 2 ^ 52 := by
      rw [BitVec.toNat_ofNat]
      omega
    rw [pack_normal h.pos normal lt least most, unpack_normal]
    · congr 1 <;> omega
    · intro e
      have := congrArg BitVec.toNat e
      rw [exponent] at this
      simp at this
      omega
    · intro e
      have := congrArg BitVec.toNat e
      rw [exponent] at this
      simp at this
      omega
  · obtain rfl := h.eq_least normal
    have fraction : (BitVec.ofNat 52 m).toNat = m := by
      rw [BitVec.toNat_ofNat]
      omega
    rw [pack_subnormal h.pos (not_le.1 normal), unpack_subnormal (by rw [fraction]; exact h.pos)]
    congr 1

end Parts

/-! ## Finite doubles -/

/-- A double is known by its bits. -/
theorem eq_of_bits {x : Float} {u : UnpackedFloat}
    (h : x.toModel.toBits.toBitVec = UnpackedFloat.pack Format.binary64 u) : x = .ofModel (.pack u) := by
  obtain ⟨⟨bits, valid⟩⟩ := x
  obtain ⟨b⟩ := bits
  obtain rfl := h
  rfl

/-- A finite double is zero, or the double of its parts. -/
theorem exists_parts {x : Float} (finite : x.isFinite = true) :
    (∃ s, x = .ofModel (.pack (.zero s))) ∨ ∃ s m q, ∃ h : Canonical m q, x = ofParts s m q h := by
  replace finite : (UnpackedFloat.unpack Format.binary64 x.toModel.toBits.toBitVec).isFinite = true :=
    finite
  obtain ⟨s, e, f, parts⟩ : ∃ (s : Sign) (e : BitVec 11) (f : BitVec 52),
      packComponents Format.binary64 s e f = x.toModel.toBits.toBitVec :=
    ⟨_, _, _, packComponents_unpack _⟩
  have he := e.isLt
  have hf := f.isLt
  have top : e ≠ -1#11 := by
    rintro rfl
    rw [← parts] at finite
    simp only [UnpackedFloat.unpack, unpackExponent_packComponents, if_true] at finite
    split at finite <;> cases finite
  by_cases zero : e = 0#11
  · subst zero
    by_cases none : f = 0#52
    · subst none
      exact .inl ⟨s, eq_of_bits parts.symm⟩
    · have pos : 0 < f.toNat := Nat.pos_of_ne_zero fun h => none (BitVec.eq_of_toNat_eq h)
      have h : Canonical f.toNat (-1074) := ⟨pos, by omega, by omega, by omega, .inr rfl⟩
      refine .inr ⟨s, _, _, h, eq_of_bits ?_⟩
      rw [← parts, pack_subnormal pos hf, BitVec.ofNat_toNat, BitVec.setWidth_eq]
  · have least : e.toNat ≠ 0 := fun h => zero (BitVec.eq_of_toNat_eq h)
    have most : e.toNat ≠ 2047 := fun h => top (BitVec.eq_of_toNat_eq h)
    have h : Canonical (2 ^ 52 + f.toNat) (e.toNat - 1075) :=
      ⟨by omega, by omega, by omega, by omega, .inl (by omega)⟩
    refine .inr ⟨s, _, _, h, eq_of_bits ?_⟩
    rw [← parts, pack_normal h.pos (by omega) h.lt h.least h.most]
    congr 1
    · apply BitVec.eq_of_toNat_eq
      rw [BitVec.toNat_ofNat]
      omega
    · apply BitVec.eq_of_toNat_eq
      rw [BitVec.toNat_ofNat]
      omega

/-- A finite double equals itself. -/
theorem beq_self_of_isFinite {x : Float} (h : x.isFinite = true) : (x == x) = true := by
  have finite : x.toModel.unpack.isFinite = true := h
  show (x.toModel.unpack.compare x.toModel.unpack == some .eq) = true
  cases hx : x.toModel.unpack with
  | notANumber =>
    rw [hx] at finite
    cases finite
  | infinity sign =>
    rw [hx] at finite
    cases finite
  | zero sign => rfl
  | finite sign mantissa exponent pos =>
    have self : (compare exponent exponent).then (compare mantissa mantissa) = .eq := by simp
    cases sign with
    | positive =>
      show (some ((compare exponent exponent).then (compare mantissa mantissa)) == some .eq) = true
      rw [self]
      rfl
    | negative =>
      show (some ((compare exponent exponent).then (compare mantissa mantissa)).swap == some .eq) = true
      rw [self]
      rfl

/-- An unpacked double that is not zero is equal to no other one. -/
theorem eq_of_compare {u : UnpackedFloat} {s : Sign} {m : ℕ} {q : ℤ} {pos : 0 < m}
    (h : u.compare (.finite s m q pos) = some .eq) : u = .finite s m q pos := by
  cases u with
  | notANumber => cases h
  | infinity t => cases t <;> cases s <;> cases h
  | zero t => cases t <;> cases s <;> cases h
  | finite t n r _ =>
    have order : t = s ∧ ((compare r q).then (compare n m)) = .eq := by
      cases t <;> cases s <;> simp_all [UnpackedFloat.compare]
    obtain ⟨rfl, order⟩ := order
    rw [Ordering.then_eq_eq] at order
    obtain rfl := compare_eq_iff_eq.1 order.1
    obtain rfl := compare_eq_iff_eq.1 order.2
    rfl

section Read

variable {s : Sign} {m : ℕ} {q : ℤ} (h : Canonical m q)

theorem isFinite_ofParts : (ofParts s m q h).isFinite = true := by
  show (ofParts s m q h).toModel.unpack.isFinite = true
  rw [unpack_ofParts]
  rfl

theorem ofParts_beq_zero : (ofParts s m q h == 0.0) = false := by
  have zero : (0.0 : Float) = .ofModel (.pack (.zero .positive)) := by decide +kernel
  rw [zero]
  show ((ofParts s m q h).toModel.unpack.compare (.zero .positive) == some .eq) = false
  rw [unpack_ofParts]
  cases s <;> rfl

theorem abs_ofParts : (ofParts s m q h).abs = ofParts .positive m q h := by
  show Float.ofModel (.pack (ofParts s m q h).toModel.unpack.abs) = _
  rw [unpack_ofParts]
  rfl

theorem neg_ofParts : -ofParts .positive m q h = ofParts .negative m q h := by
  show Float.ofModel (.pack (ofParts .positive m q h).toModel.unpack.neg) = _
  rw [unpack_ofParts]
  rfl

/-- A double is its size with its sign. -/
theorem signed_ofParts : (if Number.isNegative (ofParts s m q h) then -ofParts .positive m q h
    else ofParts .positive m q h) = ofParts s m q h := by
  have lt := h.lt
  have least := h.least
  have most := h.most
  cases s with
  | negative =>
    have sign : Sign.negative.toBitVec.toNat = 1 := rfl
    have : Number.isNegative (ofParts .negative m q h) = true := by
      simp only [Number.isNegative, toNat_toBits_ofParts, sign, Nat.shiftLeft_eq, Bool.not_eq_true',
        decide_eq_false_iff_not]
      omega
    rw [if_pos this, neg_ofParts]
  | positive =>
    have sign : Sign.positive.toBitVec.toNat = 0 := rfl
    have : ¬ Number.isNegative (ofParts .positive m q h) = true := by
      simp only [Number.isNegative, toNat_toBits_ofParts, sign, Nat.shiftLeft_eq, Bool.not_eq_true',
        decide_eq_false_iff_not, not_not]
      split <;> omega
    rw [if_neg this]

theorem significand_ofParts : Decimal.significand (ofParts s m q h) = m := by
  have lt := h.lt
  have least := h.least
  have most := h.most
  have sign := s.toBitVec.isLt
  have place := h.eq_least
  simp only [Decimal.significand, toNat_toBits_ofParts, Nat.shiftLeft_eq, Nat.one_mul]
  split <;> split <;> omega

theorem binaryExponent_ofParts : Decimal.binaryExponent (ofParts s m q h) = q := by
  have lt := h.lt
  have least := h.least
  have most := h.most
  have sign := s.toBitVec.isLt
  have place := h.eq_least
  simp only [Decimal.binaryExponent, toNat_toBits_ofParts, Nat.shiftLeft_eq, Nat.one_mul]
  split <;> omega

/-- A double of parts is equal to no other double. -/
theorem eq_of_beq_ofParts {x : Float} (same : (x == ofParts s m q h) = true) : x = ofParts s m q h := by
  have order : x.toModel.unpack.compare (.finite s m q h.pos) = some .eq := by
    rw [← unpack_ofParts h]
    exact eq_of_beq same
  have parts := eq_of_compare order
  have finite : x.isFinite = true := by
    show x.toModel.unpack.isFinite = true
    rw [parts]
    rfl
  rcases exists_parts finite with ⟨t, rfl⟩ | ⟨t, n, r, h', rfl⟩
  · cases t <;> cases parts
  · rw [unpack_ofParts] at parts
    cases parts
    rfl

end Read

end PathQuery.Double
