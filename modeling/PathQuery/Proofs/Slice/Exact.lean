import Mathlib.Data.List.Basic
import PathQuery.Proofs.Slice
import PathQuery.Selection

/-!
# Slices of unbounded integers

A slice is meant as one of unbounded integers: its parts are counted from the end where they are negative,
its bounds are moved into the array, and from the near bound it goes by equal steps as long as it is
strictly on the near side of the far one. Words are bounded, and so is the number of steps that a walk may
make. Neither is felt: for an array whose length is a word, no sum leaves the words, both bounds are moved
between a lower and an upper limit in this order, no more steps are made than the array has elements, and a
step that would leave the words would pass the far bound.

## Main definitions

* `Slice.stride`, `Slice.exact` — the positions of a slice, in unbounded integers.
* `Slice.positions?` — the positions of a slice with every operation checked.

## Main results

* `Slice.walk_eq_stride` — a walk is a stride of the integers that its words denote.
* `Slice.positions?_eq` — no check fails, and the positions are the exact ones.
* `Slice.positions_exact` — slices and indices are exact for all words.
-/

namespace PathQuery

namespace Word

/-- The difference of two words, if it is a word. -/
def sub? (i j : Int64) : Option Int64 := ofInt? (i.toInt - j.toInt)

/-- The negative of a word, if it is a word. -/
def neg? (i : Int64) : Option Int64 := ofInt? (-i.toInt)

end Word

namespace Slice

/-! ## Slices of unbounded integers -/

/-- A position counted from the end if it is negative. -/
def normalized (i length : Int) : Int := if 0 ≤ i then i else length + i

/-- The nearest integer between two bounds. -/
def between (lo hi i : Int) : Int := min (max lo i) hi

/-- Whether a position is strictly on the near side of the far bound. -/
def Ahead (step far i : Int) : Prop := 0 < step ∧ i < far ∨ step < 0 ∧ far < i

instance (step far i : Int) : Decidable (Ahead step far i) := inferInstanceAs (Decidable (_ ∨ _))

/-- How far it is from a position to the far bound. -/
def distance (step far i : Int) : Nat := if 0 < step then (far - i).toNat else (i - far).toNat

theorem distance_lt {step far i : Int} (h : Ahead step far i) :
    distance step far (i + step) < distance step far i := by
  unfold distance
  rcases h with ⟨up, near⟩ | ⟨down, near⟩
  · rw [if_pos up, if_pos up]
    omega
  · rw [if_neg (by omega), if_neg (by omega)]
    omega

/-- The positions `i`, `i + step`, … on the near side of the far bound. -/
def stride (step far i : Int) : List Int :=
  if Ahead step far i then i :: stride step far (i + step) else []
termination_by distance step far i
decreasing_by exact distance_lt ‹_›

/-- The positions of a slice. The step is one if it is left out; with a step of zero there are none. The
other parts that are left out stand for the whole array in the direction of the step. -/
def exact (start stop step : Option Int) (length : Int) : List Int :=
  let step := step.getD 1
  if 0 ≤ step then
    stride step (between 0 length (normalized (stop.getD length) length))
      (between 0 length (normalized (start.getD 0) length))
  else
    stride step (between (-1) (length - 1) (normalized (stop.getD (-length - 1)) length))
      (between (-1) (length - 1) (normalized (start.getD (length - 1)) length))

/-- Every position of a stride is on the near side of the far bound, and not behind the start. -/
theorem mem_stride {step far i j : Int} (h : j ∈ stride step far i) :
    Ahead step far j ∧ (0 < step → i ≤ j) ∧ (step < 0 → j ≤ i) := by
  induction i using stride.induct step far with
  | case1 i ahead ih =>
    rw [stride, if_pos ahead] at h
    rcases List.mem_cons.1 h with rfl | later
    · exact ⟨ahead, fun _ => Int.le_refl _, fun _ => Int.le_refl _⟩
    · obtain ⟨near, up, down⟩ := ih later
      refine ⟨near, fun pos => ?_, fun neg => ?_⟩
      · have := up pos
        omega
      · have := down neg
        omega
  | case2 i past =>
    rw [stride, if_neg past] at h
    cases h

/-! ## Checked slices -/

/-- A position counted from the end if it is negative, where the sum has to be a word. -/
def fromEnd? (i n : Int64) : Option Int64 := if i < 0 then Word.add? i n else some i

/-- The nearest word between two bounds, which have to be in order. -/
def clamp? (lo hi i : Int64) : Option Int64 := if lo ≤ hi then some (clamp lo hi i) else none

/-- The natural number that a word denotes, if it is none below zero. -/
def position? (i : Int64) : Option Nat := if 0 ≤ i then some i.toNatClampNeg else none

/-- The positions of a walk that comes to its end within a number of steps. -/
def walk? (inside : Int64 → Bool) (step : Int64) : Nat → Int64 → Option (List Nat)
  | 0, i => if inside i then none else some []
  | bound + 1, i =>
    if inside i then do
      let position ← position? i
      match Word.add? i step with
      | some next => (position :: ·) <$> walk? inside step bound next
      | none => some [position]
    else some []

/-- The positions of a slice, unless an operation on words fails or the walk does not come to its end. -/
def positions? (start stop step : Option Int64) (length : Nat) : Option (List Nat) := do
  let step := step.getD 1
  let n ← Word.ofInt? length
  if step = 0 then some []
  else if 0 < step then
    let lower ← clamp? 0 n (← fromEnd? (start.getD 0) n)
    let upper ← clamp? 0 n (← fromEnd? (stop.getD n) n)
    walk? (· < upper) step length lower
  else
    let last ← Word.sub? n 1
    let least ← Word.sub? (← Word.neg? n) 1
    let upper ← clamp? (-1) last (← fromEnd? (start.getD last) n)
    let lower ← clamp? (-1) last (← fromEnd? (stop.getD least) n)
    walk? (lower < ·) step length upper

/-! ## Operations on words -/

section Words

variable {i n lo hi : Int64}

theorem fromEnd?_eq (array : 0 ≤ n.toInt) (i : Int64) :
    fromEnd? i n = some (fromEnd i n) ∧ (fromEnd i n).toInt = normalized i.toInt n.toInt := by
  have zero : (0 : Int64).toInt = 0 := rfl
  have lower := i.le_toInt
  have upper := n.toInt_lt
  unfold fromEnd? fromEnd normalized
  by_cases negative : i < 0
  · have below : i.toInt < 0 := Int64.lt_iff_toInt_lt.1 negative
    have sum : (i + n).toInt = i.toInt + n.toInt := by
      rw [Int64.toInt_add]
      exact Int.bmod_eq_of_le (by omega) (by omega)
    rw [if_pos negative, if_pos negative, if_neg (by omega)]
    exact ⟨Word.ofInt?_eq_some_iff.2 sum, by omega⟩
  · have above : ¬ i.toInt < 0 := fun h => negative (Int64.lt_iff_toInt_lt.2 h)
    rw [if_neg negative, if_neg negative, if_pos (by omega)]
    exact ⟨rfl, rfl⟩

theorem clamp?_eq (ordered : lo.toInt ≤ hi.toInt) (i : Int64) :
    clamp? lo hi i = some (clamp lo hi i) ∧
      (clamp lo hi i).toInt = between lo.toInt hi.toInt i.toInt := by
  refine ⟨if_pos (Int64.le_iff_toInt_le.2 ordered), ?_⟩
  unfold clamp between
  simp only [Int64.lt_iff_toInt_lt]
  split
  · omega
  · split <;> omega

/-- A bound is moved into the array as it is among the integers. -/
theorem bound?_eq (array : 0 ≤ n.toInt) (ordered : lo.toInt ≤ hi.toInt) (i : Int64) :
    fromEnd? i n = some (fromEnd i n) ∧ clamp? lo hi (fromEnd i n) = some (clamp lo hi (fromEnd i n)) ∧
      (clamp lo hi (fromEnd i n)).toInt = between lo.toInt hi.toInt (normalized i.toInt n.toInt) := by
  obtain ⟨added, counted⟩ := fromEnd?_eq array i
  obtain ⟨inside, moved⟩ := clamp?_eq ordered (fromEnd i n)
  rw [← counted]
  exact ⟨added, inside, moved⟩

/-- The last position of an array is a word. -/
theorem last?_eq (array : 0 ≤ n.toInt) :
    Word.sub? n 1 = some (n - 1) ∧ (n - 1).toInt = n.toInt - 1 := by
  have upper := n.toInt_lt
  have last : (n - 1).toInt = n.toInt - 1 := by
    rw [Int64.toInt_sub, Int64.toInt_one]
    exact Int.bmod_eq_of_le (by omega) (by omega)
  exact ⟨Word.ofInt?_eq_some_iff.2 last, last⟩

/-- The position before the first one, counted from the end, is a word. -/
theorem least?_eq (array : 0 ≤ n.toInt) :
    Word.neg? n = some (-n) ∧ Word.sub? (-n) 1 = some (-n - 1) ∧ (-n - 1).toInt = -n.toInt - 1 := by
  have upper := n.toInt_lt
  have negative : (-n).toInt = -n.toInt := by
    rw [Int64.toInt_neg]
    exact Int.bmod_eq_of_le (by omega) (by omega)
  have least : (-n - 1).toInt = -n.toInt - 1 := by
    rw [Int64.toInt_sub, negative, Int64.toInt_one]
    exact Int.bmod_eq_of_le (by omega) (by omega)
  refine ⟨Word.ofInt?_eq_some_iff.2 negative, Word.ofInt?_eq_some_iff.2 ?_, least⟩
  rw [least, negative, Int64.toInt_one]

end Words

/-! ## Walks -/

/-- A walk goes on as long as it is on the near side of its far bound, which is a word, and so no check
fails on the way and it visits what a stride of the integers does. -/
theorem walk_eq_stride {inside : Int64 → Bool} {step far : Int64}
    (ahead : ∀ j : Int64, inside j = true ↔ Ahead step.toInt far.toInt j.toInt) {bound : Nat} {i : Int64}
    (array : 0 < step.toInt ∧ 0 ≤ i.toInt ∨ step.toInt < 0 ∧ -1 ≤ far.toInt)
    (enough : distance step.toInt far.toInt i.toInt ≤ bound) :
    walk? inside step bound i = some (walk inside step bound i) ∧
      (walk inside step bound i).map Int.ofNat = stride step.toInt far.toInt i.toInt := by
  induction bound generalizing i with
  | zero =>
    have past : ¬ Ahead step.toInt far.toInt i.toInt := fun h => by
      have := distance_lt h
      omega
    have outside : inside i = false := Bool.eq_false_iff.2 fun h => past ((ahead i).1 h)
    rw [walk?, walk, stride, outside, if_neg past]
    exact ⟨rfl, rfl⟩
  | succ bound ih =>
    by_cases here : Ahead step.toInt far.toInt i.toInt
    · have visited : inside i = true := (ahead i).2 here
      have nonneg : (0 : Int64).toInt ≤ i.toInt := by
        show 0 ≤ i.toInt
        unfold Ahead at here
        omega
      have position : position? i = some i.toNatClampNeg := if_pos (Int64.le_iff_toInt_le.2 nonneg)
      have value : Int.ofNat i.toNatClampNeg = i.toInt := Int.toNat_of_nonneg nonneg
      have shorter := distance_lt here
      rw [walk?, walk, stride, if_pos visited, if_pos visited, if_pos here, position]
      cases hnext : Word.add? i step with
      | none =>
        -- Where the next position is no word, it is past the far bound, which is one.
        have past : ¬ Ahead step.toInt far.toInt (i.toInt + step.toInt) := by
          have lower := far.le_toInt
          have upper := far.toInt_lt
          have top := i.toInt_lt
          unfold Word.add? Word.ofInt? at hnext
          split at hnext
          · cases hnext
          · unfold Ahead
            omega
        rw [stride, if_neg past, List.map_cons, value]
        exact ⟨rfl, rfl⟩
      | some next =>
        have moved : next.toInt = i.toInt + step.toInt := Word.ofInt?_eq_some_iff.1 hnext
        obtain ⟨checked, same⟩ := ih (i := next) (by omega) (by rw [moved]; omega)
        rw [moved] at same
        rw [List.map_cons, value, same, ← moved]
        refine ⟨?_, rfl⟩
        show (i.toNatClampNeg :: ·) <$> walk? inside step bound next = _
        rw [checked]
        rfl
    · have outside : inside i = false := Bool.eq_false_iff.2 fun h => here ((ahead i).1 h)
      rw [walk?, walk, stride, outside, if_neg here]
      exact ⟨rfl, rfl⟩

/-! ## Positions -/

section Positions

variable {length : Nat}

/-- The length of an array is a word if it is small enough. -/
theorem toInt_length (small : length < 0x8000000000000000) :
    Word.ofInt? length = some (Int64.ofNat length) ∧ (Int64.ofNat length).toInt = length :=
  have size : (Int64.ofNat length).toInt = length := Int64.toInt_ofNat_of_lt small
  ⟨Word.ofInt?_eq_some_iff.2 size, size⟩

theorem toInt_getD (part : Option Int64) (i : Int64) :
    (part.map Int64.toInt).getD i.toInt = (part.getD i).toInt := Option.getD_map _ _ _

/-- With a step of zero there are no positions. -/
theorem positions?_zero (small : length < 0x8000000000000000) {step : Option Int64}
    (zero : step.getD 1 = 0) (start stop : Option Int64) :
    positions? start stop step length = some (positions start stop step length) ∧
      (positions start stop step length).map Int.ofNat =
        exact (start.map Int64.toInt) (stop.map Int64.toInt) (step.map Int64.toInt) length := by
  have still (far i : Int) : stride 0 far i = [] := by
    rw [stride, if_neg (by unfold Ahead; omega)]
  have stepInt : (step.map Int64.toInt).getD 1 = 0 := by
    rw [← Int64.toInt_one, toInt_getD, zero]
    rfl
  simp [positions?, positions, exact, toInt_length small, zero, stepInt, still]

/-- With a positive step a slice runs up. -/
theorem positions?_up (small : length < 0x8000000000000000) {step : Option Int64}
    (up : 0 < step.getD 1) (start stop : Option Int64) :
    positions? start stop step length = some (positions start stop step length) ∧
      (positions start stop step length).map Int.ofNat =
        exact (start.map Int64.toInt) (stop.map Int64.toInt) (step.map Int64.toInt) length := by
  obtain ⟨word, size⟩ := toInt_length small
  have array : 0 ≤ (Int64.ofNat length).toInt := by omega
  have upInt : 0 < (step.getD 1).toInt := Int64.lt_iff_toInt_lt.1 up
  have moves : step.getD 1 ≠ 0 := fun h => by simp [h] at up
  have stepInt : (step.map Int64.toInt).getD 1 = (step.getD 1).toInt := toInt_getD step 1
  have startInt : (start.map Int64.toInt).getD 0 = (start.getD 0).toInt := toInt_getD start 0
  have stopInt : (stop.map Int64.toInt).getD length = (stop.getD (.ofNat length)).toInt := by
    rw [← size, toInt_getD]
  have ordered : (0 : Int64).toInt ≤ (Int64.ofNat length).toInt := array
  obtain ⟨first, lower, lowerInt⟩ := bound?_eq array ordered (start.getD 0)
  obtain ⟨far, upper, upperInt⟩ := bound?_eq array ordered (stop.getD (.ofNat length))
  rw [Int64.toInt_zero, size] at lowerInt upperInt
  simp only [positions?, positions, exact, word, Option.bind_eq_bind, Option.bind_some, first, far,
    lower, upper, if_neg moves, if_pos up, stepInt, if_pos (Int.le_of_lt upInt), startInt, stopInt,
    ← lowerInt, ← upperInt]
  apply walk_eq_stride
  · intro j
    rw [decide_eq_true_iff, Int64.lt_iff_toInt_lt]
    unfold Ahead
    omega
  · left
    unfold between at lowerInt
    omega
  · unfold distance between at *
    rw [if_pos upInt]
    omega

/-- With a negative step a slice runs down. -/
theorem positions?_down (small : length < 0x8000000000000000) {step : Option Int64}
    (down : step.getD 1 < 0) (start stop : Option Int64) :
    positions? start stop step length = some (positions start stop step length) ∧
      (positions start stop step length).map Int.ofNat =
        exact (start.map Int64.toInt) (stop.map Int64.toInt) (step.map Int64.toInt) length := by
  obtain ⟨word, size⟩ := toInt_length small
  have array : 0 ≤ (Int64.ofNat length).toInt := by omega
  have downInt : (step.getD 1).toInt < 0 := Int64.lt_iff_toInt_lt.1 down
  have moves : step.getD 1 ≠ 0 := fun h => by simp [h] at down
  have backward : ¬ 0 < step.getD 1 := Int64.not_lt.2 (Int64.le_of_lt down)
  obtain ⟨last, lastInt⟩ := last?_eq array
  obtain ⟨negative, least, leastInt⟩ := least?_eq array
  rw [size] at lastInt leastInt
  have stepInt : (step.map Int64.toInt).getD 1 = (step.getD 1).toInt := toInt_getD step 1
  have startInt : (start.map Int64.toInt).getD (length - 1) =
      (start.getD (.ofNat length - 1)).toInt := by
    rw [← lastInt, toInt_getD]
  have stopInt : (stop.map Int64.toInt).getD (-length - 1) =
      (stop.getD (-.ofNat length - 1)).toInt := by
    rw [← leastInt, toInt_getD]
  have ordered : (-1 : Int64).toInt ≤ (Int64.ofNat length - 1).toInt := by
    rw [lastInt]
    show (-1 : Int) ≤ length - 1
    omega
  obtain ⟨first, upper, upperInt⟩ := bound?_eq array ordered (start.getD (.ofNat length - 1))
  obtain ⟨far, lower, lowerInt⟩ := bound?_eq array ordered (stop.getD (-.ofNat length - 1))
  rw [show (-1 : Int64).toInt = -1 from rfl, lastInt, size] at lowerInt upperInt
  simp only [positions?, positions, exact, word, Option.bind_eq_bind, Option.bind_some, last, negative,
    least, first, far, lower, upper, if_neg moves, if_neg backward, stepInt,
    if_neg (Int.not_le.2 downInt), startInt, stopInt, ← lowerInt, ← upperInt]
  apply walk_eq_stride
  · intro j
    rw [decide_eq_true_iff, Int64.lt_iff_toInt_lt]
    unfold Ahead
    omega
  · right
    unfold between at lowerInt
    omega
  · unfold distance between at *
    rw [if_neg (by omega)]
    omega

/-- No check fails on the way to the positions of a slice, and they are those of the slice of unbounded
integers. -/
theorem positions?_eq (small : length < 0x8000000000000000) (start stop step : Option Int64) :
    positions? start stop step length = some (positions start stop step length) ∧
      (positions start stop step length).map Int.ofNat =
        exact (start.map Int64.toInt) (stop.map Int64.toInt) (step.map Int64.toInt) length := by
  by_cases up : 0 < step.getD 1
  · exact positions?_up small up start stop
  by_cases down : step.getD 1 < 0
  · exact positions?_down small down start stop
  · have zero := Int64.le_antisymm (Int64.not_lt.1 up) (Int64.not_lt.1 down)
    exact positions?_zero small zero start stop

/-- Every position of a slice of unbounded integers is one of the array. -/
theorem mem_exact {start stop step : Option Int} {j : Int}
    (h : j ∈ exact start stop step length) : 0 ≤ j ∧ j < length := by
  dsimp only [exact] at h
  split at h
  next =>
    obtain ⟨near, up, -⟩ := mem_stride h
    unfold Ahead between at *
    omega
  next =>
    obtain ⟨near, -, down⟩ := mem_stride h
    unfold Ahead between at *
    omega

/-- Every position of a slice is one of the array. -/
theorem mem_positions (small : length < 0x8000000000000000) {start stop step : Option Int64} {i : Nat}
    (h : i ∈ positions start stop step length) : i < length := by
  have member := List.mem_map_of_mem (f := Int.ofNat) h
  rw [(positions?_eq small start stop step).2] at member
  exact Int.ofNat_lt.1 (mem_exact member).2

end Positions

end Slice

/-! ## Indices and elements -/

/-- An index denotes the position that it says, counted from the front or from the end. -/
theorem resolveIndex_eq {length : Nat} (small : length < 0x8000000000000000) (i : Int64) :
    resolveIndex i length =
      if 0 ≤ i.toInt ∧ i.toInt < length then some i.toInt.toNat
      else if -length ≤ i.toInt ∧ i.toInt < 0 then some (i.toInt + length).toNat
      else none := by
  obtain ⟨-, size⟩ := Slice.toInt_length small
  obtain ⟨-, counted⟩ := Slice.fromEnd?_eq (n := .ofNat length) (by omega) i
  rw [size, Slice.normalized] at counted
  simp only [resolveIndex, Int64.le_iff_toInt_le, Int64.lt_iff_toInt_lt, size, Int64.toInt_zero]
  show (if _ then some (fromEnd i (.ofNat length)).toInt.toNat else none) = _
  rw [counted]
  by_cases front : 0 ≤ i.toInt
  · have notBack : ¬ (-length ≤ i.toInt ∧ i.toInt < 0) := by omega
    rw [if_pos front, if_neg notBack]
  · have notFront : ¬ (0 ≤ i.toInt ∧ i.toInt < length) := by omega
    rw [if_neg front, if_neg notFront, Int.add_comm]
    by_cases inside : -length ≤ i.toInt
    · rw [if_pos ⟨by omega, by omega⟩, if_pos ⟨inside, by omega⟩]
    · rw [if_neg (by omega), if_neg (by omega)]

/-- Each position of a slice is the step to one node, so none of them is out of range. -/
theorem Node.map_step_sliced {n : Node} {items : List Json} (hn : n.value = .array items)
    (small : items.length < 0x8000000000000000) (start stop step : Option Int64) :
    (n.sliced start stop step).map (·.step) =
      (Slice.positions start stop step items.length).map Step.index := by
  have element (i : Nat) (h : i ∈ Slice.positions start stop step items.length) :
      (n.element items i).map (·.step) = [.index i] := by
    rw [Node.element, List.getElem?_eq_getElem (Slice.mem_positions small h)]
    rfl
  simp only [sliced, hn, List.map_flatMap]
  rw [List.flatMap_congr element, List.map_eq_flatMap]

/-! ## Exactness -/

/-- For all words and every array whose length is one: no operation on the way to the positions of a slice
fails, and the walk ends; the positions are those of the slice of unbounded integers, they run strictly up
or, by a negative step, strictly down, all of them are in the array, and each leads to one node. And an
index denotes the position that it says, counted from the front or from the end. -/
theorem Slice.positions_exact {length : Nat} (small : length < 0x8000000000000000) :
    (∀ start stop step : Option Int64,
      positions? start stop step length = some (positions start stop step length) ∧
      (positions start stop step length).map Int.ofNat =
        exact (start.map Int64.toInt) (stop.map Int64.toInt) (step.map Int64.toInt) length ∧
      (if step.getD 1 < 0 then (positions start stop step length).Pairwise (· > ·)
        else (positions start stop step length).Pairwise (· < ·)) ∧
      (∀ i ∈ positions start stop step length, i < length) ∧
      ∀ (n : Node) (items : List Json), n.value = .array items → items.length = length →
        (n.sliced start stop step).map (·.step) = (positions start stop step length).map Step.index) ∧
    ∀ i : Int64, fromEnd? i (.ofNat length) = some (fromEnd i (.ofNat length)) ∧
      resolveIndex i length =
        if 0 ≤ i.toInt ∧ i.toInt < length then some i.toInt.toNat
        else if -length ≤ i.toInt ∧ i.toInt < 0 then some (i.toInt + length).toNat
        else none := by
  refine ⟨fun start stop step => ?_, fun i => ?_⟩
  · obtain ⟨checked, same⟩ := positions?_eq small start stop step
    refine ⟨checked, same, ?_, fun i => mem_positions small, ?_⟩
    · split
      next down => exact positions_descending small down
      next up => exact positions_ascending small up
    · rintro n items hn rfl
      exact Node.map_step_sliced hn small start stop step
  · have array : 0 ≤ (Int64.ofNat length).toInt := by
      rw [(toInt_length small).2]
      exact Int.natCast_nonneg length
    exact ⟨(fromEnd?_eq array i).1, resolveIndex_eq small i⟩

/-- The longest array and the greatest step: from the second position the next one would be no word, and
in unbounded integers it is behind the array. The least index lies before the array. -/
theorem Slice.positions_exact_longest :
    0x7FFFFFFFFFFFFFFF < 0x8000000000000000 ∧
      positions? (some 1) none (some Int64.maxValue) 0x7FFFFFFFFFFFFFFF = some [1] ∧
      exact (some 1) none (some 0x7FFFFFFFFFFFFFFF) 0x7FFFFFFFFFFFFFFF = [1] ∧
      resolveIndex Int64.minValue 0x7FFFFFFFFFFFFFFF = none := by
  have small : 0x7FFFFFFFFFFFFFFF < 0x8000000000000000 := by decide
  have second : positions (some 1) none (some Int64.maxValue) 0x7FFFFFFFFFFFFFFF = [1] := by
    decide +kernel
  obtain ⟨slices, indices⟩ := positions_exact small
  obtain ⟨checked, same, -⟩ := slices (some 1) none (some Int64.maxValue)
  obtain ⟨-, index⟩ := indices Int64.minValue
  rw [second] at checked same
  exact ⟨small, checked, same.symm, index.trans (by decide)⟩

end PathQuery
