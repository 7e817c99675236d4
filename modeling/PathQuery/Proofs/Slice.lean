import PathQuery.Slice

/-!
# The positions of a slice

A slice visits the positions that it comes to by equal steps, as long as they are on the near side of its
far bound, and so it goes up or down all the way. This takes that the words do not wrap around: the bounds
are moved into the array before the first step, and a step that would leave the range of words is the
last one.

## Main results

* `Slice.walk_eq` — the positions of a walk are its start and equal steps from there.
* `Slice.positions_ascending`, `Slice.positions_descending` — a slice visits its positions in order.
-/

namespace PathQuery.Slice

/-! ## Walks -/

/-- A walk makes some number of equal steps from its start, and each position before a step passes. -/
theorem walk_eq (inside : Int64 → Bool) (step : Int64) (bound : Nat) (i : Int64) :
    ∃ count, walk inside step bound i =
        (List.range count).map (fun k : Nat => (i.toInt + k * step.toInt).toNat) ∧
      ∀ k : Nat, k < count → ∃ j : Int64, j.toInt = i.toInt + k * step.toInt ∧ inside j = true := by
  induction bound generalizing i with
  | zero => exact ⟨0, rfl, nofun⟩
  | succ bound ih =>
    unfold walk
    split
    next passes =>
      cases hnext : Word.add? i step with
      | none =>
        refine ⟨1, by simp, fun k hk => ⟨i, ?_, passes⟩⟩
        obtain rfl : k = 0 := by omega
        simp
      | some next =>
        have moved : next.toInt = i.toInt + step.toInt := Word.ofInt?_eq_some_iff.1 hnext
        obtain ⟨count, walked, visited⟩ := ih next
        -- Step `k` from the next position is step `k + 1` from this one.
        have shift : ∀ k : Nat,
            next.toInt + k * step.toInt = i.toInt + (k + 1 : Nat) * step.toInt := by
          intro k
          rw [moved, Int.natCast_succ, Int.add_mul, Int.one_mul]
          omega
        refine ⟨count + 1, ?_, fun k hk => ?_⟩
        · simp only [walked, List.range_succ_eq_map, List.map_cons, List.map_map, shift]
          simp [Function.comp_def, Int64.toNat_toInt]
        · cases k with
          | zero => exact ⟨i, by simp, passes⟩
          | succ k =>
            obtain ⟨j, hj, inside⟩ := visited k (by omega)
            exact ⟨j, hj.trans (shift k), inside⟩
    next => exact ⟨0, rfl, nofun⟩

/-- A walk by positive steps goes up. -/
theorem walk_ascending {inside : Int64 → Bool} {step i : Int64} (up : 0 < step.toInt)
    (start : 0 ≤ i.toInt) (bound : Nat) : (walk inside step bound i).Pairwise (· < ·) := by
  obtain ⟨count, walked, -⟩ := walk_eq inside step bound i
  rw [walked, List.pairwise_map]
  apply List.pairwise_lt_range.imp
  intro k l hkl
  have further : (k : Int) * step.toInt < l * step.toInt :=
    Int.mul_lt_mul_of_pos_right (by omega) up
  have inside : 0 ≤ (k : Int) * step.toInt := Int.mul_nonneg (by omega) (by omega)
  omega

/-- A walk by negative steps goes down, if only positions of an array pass. -/
theorem walk_descending {inside : Int64 → Bool} {step : Int64} (down : step.toInt < 0)
    (nonneg : ∀ j, inside j = true → 0 ≤ j.toInt) (bound : Nat) (i : Int64) :
    (walk inside step bound i).Pairwise (· > ·) := by
  obtain ⟨count, walked, visited⟩ := walk_eq inside step bound i
  rw [walked, List.pairwise_map]
  apply List.Pairwise.imp_of_mem _ List.pairwise_lt_range
  intro k l _ hl hkl
  obtain ⟨j, hj, passes⟩ := visited l (List.mem_range.1 hl)
  have further : (l : Int) * step.toInt < k * step.toInt :=
    Int.mul_lt_mul_of_neg_right (by omega) down
  have start := nonneg j passes
  omega

/-! ## Slices -/

theorem le_clamp {lo hi : Int64} (h : lo ≤ hi) (i : Int64) : lo ≤ clamp lo hi i := by
  unfold clamp
  split
  · exact Int64.le_refl lo
  next above =>
    split
    · exact h
    · exact Int64.not_lt.1 above

variable {start stop step : Option Int64} {length : Nat}

/-- A slice with a positive step visits its positions from the first to the last. -/
theorem positions_ascending (small : length < 0x8000000000000000) (up : ¬step.getD 1 < 0) :
    (positions start stop step length).Pairwise (· < ·) := by
  dsimp only [positions]
  split
  · exact .nil
  next moves =>
    have forward : 0 < step.getD 1 := by
      rw [Int64.lt_iff_toInt_lt] at up ⊢
      rw [← Int64.toInt_inj] at moves
      have zero : (0 : Int64).toInt = 0 := rfl
      omega
    rw [if_pos forward]
    have bounds : (0 : Int64) ≤ Int64.ofNat length := by
      rw [Int64.le_iff_toInt_le, Int64.toInt_ofNat_of_lt small]
      exact Int.natCast_nonneg length
    have first := Int64.le_iff_toInt_le.1 (le_clamp bounds (fromEnd (start.getD 0) (Int64.ofNat length)))
    exact walk_ascending (Int64.lt_iff_toInt_lt.1 forward) first length

/-- A slice with a negative step visits its positions from the last to the first. -/
theorem positions_descending (small : length < 0x8000000000000000) (down : step.getD 1 < 0) :
    (positions start stop step length).Pairwise (· > ·) := by
  dsimp only [positions]
  split
  · exact .nil
  next =>
    have backward : ¬0 < step.getD 1 := Int64.not_lt.2 (Int64.le_of_lt down)
    rw [if_neg backward]
    have last : (Int64.ofNat length - 1).toInt = length - 1 := by
      rw [Int64.toInt_sub, Int64.toInt_ofNat_of_lt small]
      exact Int.bmod_eq_of_le (by simp; omega) (by simp; omega)
    have bounds : (-1 : Int64) ≤ Int64.ofNat length - 1 := by
      rw [Int64.le_iff_toInt_le, last]
      show (-1 : Int) ≤ length - 1
      omega
    apply walk_descending (Int64.lt_iff_toInt_lt.1 down)
    intro j passes
    have above := Int64.lt_iff_toInt_lt.1 (of_decide_eq_true passes)
    have far := Int64.le_iff_toInt_le.1
      (le_clamp bounds (fromEnd (stop.getD (-Int64.ofNat length - 1)) (Int64.ofNat length)))
    have negative : (-1 : Int64).toInt = -1 := rfl
    omega

end PathQuery.Slice
