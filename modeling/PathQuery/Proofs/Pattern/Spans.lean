import Mathlib.Data.List.Nodup
import Mathlib.Data.List.Range
import PathQuery.Pattern.Expr

/-!
# Where the matches of an expression end

The search for matches works on sets of places: from the places where a match can start it gets those where
one can end. It is right about them: a place is found if and only if some stretch that ends there is matched
from one of the places given.

The only case with an argument in it is repetition. Its rounds are steps from place to place, and the search
keeps all places that it has reached, of which only the last ones, the frontier, can lead to new ones. If a
round finds no new place, no number of further rounds would; and without an upper bound the search is given
more rounds than there are places, so that it ends in this way.

## Main definitions

* `Expr.IsCounted` — no repetition asks for more rounds than it allows.
* `Steps` — some number of steps of a relation.
* `Walks` — a function of places that makes the steps of a relation.
* `Frontier` — the places that can lead to new ones.

## Main results

* `Walks.mem_reach`, `Walks.mem_reach_all` — what is reached in a bounded and in any number of rounds.
* `spans_repetition` — the stretches of a repetition.
* `Expr.mem_ends`, `Expr.search_iff` — the search finds what is matched.
-/

namespace PathQuery.Pattern

/-! ## Steps -/

/-- Some number of steps of a relation, from one place to another. -/
def Steps (R : Nat → Nat → Prop) : Nat → Nat → Nat → Prop
  | 0, i, j => i = j
  | n + 1, i, j => ∃ k, R i k ∧ Steps R n k j

variable {R : Nat → Nat → Prop} {f : List Nat → List Nat} {bound : Nat}

theorem steps_add {n m i j : Nat} :
    Steps R (n + m) i j ↔ ∃ k, Steps R n i k ∧ Steps R m k j := by
  induction n generalizing i with
  | zero => simp [Steps]
  | succ n ih =>
    rw [Nat.succ_add, Steps]
    simp only [ih, Steps]
    constructor
    · rintro ⟨l, first, k, others, last⟩
      exact ⟨k, ⟨l, first, others⟩, last⟩
    · rintro ⟨k, ⟨l, first, others⟩, last⟩
      exact ⟨l, first, k, others, last⟩

/-- A function of places makes the steps of a relation, and these stay within a bound. -/
structure Walks (R : Nat → Nat → Prop) (f : List Nat → List Nat) (bound : Nat) : Prop where
  step : ∀ {ps}, (∀ i ∈ ps, i ≤ bound) → ∀ j, j ∈ f ps ↔ ∃ i ∈ ps, R i j
  bounded : ∀ {i j}, R i j → i ≤ bound → j ≤ bound

namespace Walks

theorem le_bound (h : Walks R f bound) {ps : List Nat} (hps : ∀ i ∈ ps, i ≤ bound) :
    ∀ j ∈ f ps, j ≤ bound := by
  intro j hj
  obtain ⟨i, hi, hij⟩ := (h.step hps j).1 hj
  exact h.bounded hij (hps i hi)

theorem steps_bounded (h : Walks R f bound) {n i j : Nat} (steps : Steps R n i j) (hi : i ≤ bound) :
    j ≤ bound := by
  induction n generalizing i with
  | zero => exact steps ▸ hi
  | succ n ih =>
    obtain ⟨k, hik, rest⟩ := steps
    exact ih rest (h.bounded hik hi)

/-- Rounds of the function are rounds of steps. -/
theorem mem_rounds (h : Walks R f bound) {n : Nat} {ps : List Nat} (hps : ∀ i ∈ ps, i ≤ bound)
    {j : Nat} : j ∈ rounds f n ps ↔ ∃ i ∈ ps, Steps R n i j := by
  induction n generalizing ps with
  | zero => simp [rounds, Steps]
  | succ n ih =>
    cases ps with
    | nil => simp [rounds]
    | cons p ps =>
      rw [rounds, ih (h.le_bound hps)]
      · constructor
        · rintro ⟨k, hk, steps⟩
          obtain ⟨i, hi, hik⟩ := (h.step hps k).1 hk
          exact ⟨i, hi, k, hik, steps⟩
        · rintro ⟨i, hi, k, hik, steps⟩
          exact ⟨k, (h.step hps k).2 ⟨i, hi, hik⟩, steps⟩
      · exact fun none => List.cons_ne_nil p ps none

end Walks

/-! ## What is reached -/

/-- Of the places reached so far, only those of the frontier can lead to others. -/
structure Frontier (R : Nat → Nat → Prop) (reached frontier : List Nat) : Prop where
  subset : frontier ⊆ reached
  closed : ∀ i ∈ reached, i ∉ frontier → ∀ j, R i j → j ∈ reached

namespace Frontier

variable {reached frontier : List Nat}

theorem refl (R : Nat → Nat → Prop) (ps : List Nat) : Frontier R ps ps :=
  ⟨List.Subset.refl ps, fun _ hi other => absurd hi other⟩

/-- What can be reached from a place that was reached can be reached from the frontier, in no more steps,
or was reached. -/
theorem of_steps (h : Frontier R reached frontier) {m i j : Nat} (hi : i ∈ reached)
    (steps : Steps R m i j) : j ∈ reached ∨ ∃ k ∈ frontier, ∃ l ≤ m, Steps R l k j := by
  induction m generalizing i with
  | zero => exact .inl (steps ▸ hi)
  | succ m ih =>
    by_cases first : i ∈ frontier
    · exact .inr ⟨i, first, m + 1, le_rfl, steps⟩
    · obtain ⟨k, hik, rest⟩ := steps
      rcases ih (h.closed i hi first k hik) rest with done | ⟨k', hk', l, hl, rest⟩
      · exact .inl done
      · exact .inr ⟨k', hk', l, by omega, rest⟩

/-- The places that a round finds are the next frontier. -/
theorem next (h : Frontier R reached frontier) {new : List Nat}
    (found : ∀ j, j ∈ new ↔ j ∉ reached ∧ ∃ i ∈ frontier, R i j) :
    Frontier R (reached ++ new) new := by
  refine ⟨List.subset_append_right _ _, fun i hi old j hij => ?_⟩
  have before : i ∈ reached := (List.mem_append.1 hi).resolve_right old
  by_cases hj : j ∈ reached
  · exact List.mem_append_left _ hj
  · by_cases first : i ∈ frontier
    · exact List.mem_append_right _ ((found j).2 ⟨hj, i, first, hij⟩)
    · exact absurd (h.closed i before first j hij) hj

/-- If a round finds no new place, everything that can be reached was reached. -/
theorem of_nothing_new (h : Frontier R reached frontier)
    (found : ∀ j, j ∉ reached → ¬∃ i ∈ frontier, R i j) {m i j : Nat} (hi : i ∈ reached)
    (steps : Steps R m i j) : j ∈ reached := by
  induction m generalizing i with
  | zero => exact steps ▸ hi
  | succ m ih =>
    obtain ⟨k, hik, rest⟩ := steps
    by_cases hk : k ∈ reached
    · exact ih hk rest
    · by_cases first : i ∈ frontier
      · exact absurd ⟨i, first, hik⟩ (found k hk)
      · exact absurd (h.closed i hi first k hik) hk

end Frontier

/-- The places that a round finds and that were not reached before. -/
def newPlaces (f : List Nat → List Nat) (reached frontier : List Nat) : List Nat :=
  ((f frontier).filter (!reached.contains ·)).eraseDups

/-- The places that were not reached, up to a bound. -/
def unreached (bound : Nat) (reached : List Nat) : List Nat :=
  (List.range (bound + 1)).filter (!reached.contains ·)

theorem length_unreached_append {bound : Nat} {reached new : List Nat} {k : Nat} (hk : k ≤ bound)
    (fresh : k ∉ reached) (found : k ∈ new) :
    (unreached bound (reached ++ new)).length < (unreached bound reached).length := by
  have fewer : unreached bound (reached ++ new) =
      (unreached bound reached).filter (!new.contains ·) := by
    rw [unreached, unreached, List.filter_filter]
    congr 1
    funext i
    rw [List.contains_append, Bool.not_or, Bool.and_comm]
  rw [fewer, List.length_filter_lt_length_iff_exists]
  refine ⟨k, List.mem_filter.2 ⟨List.mem_range.2 (by omega), ?_⟩, ?_⟩
  · simpa using fresh
  · simpa using found

section Reach

variable {n : Nat} {reached frontier : List Nat}

theorem mem_newPlaces {j : Nat} :
    j ∈ newPlaces f reached frontier ↔ j ∉ reached ∧ j ∈ f frontier := by
  rw [newPlaces, List.mem_eraseDups, List.mem_filter, and_comm, Bool.not_eq_true',
    List.contains_eq_mem, decide_eq_false_iff_not]

theorem reach_of_nothing_new (h : newPlaces f reached frontier = []) :
    reach f (n + 1) reached frontier = reached := by
  unfold newPlaces at h
  rw [reach, h]

theorem reach_of_new (h : newPlaces f reached frontier ≠ []) :
    reach f (n + 1) reached frontier =
      reach f n (reached ++ newPlaces f reached frontier) (newPlaces f reached frontier) := by
  unfold newPlaces at h ⊢
  rw [reach]
  split
  next none => exact absurd none h
  next => rfl

namespace Walks

theorem newPlaces_iff (h : Walks R f bound) (small : ∀ i ∈ frontier, i ≤ bound) (j : Nat) :
    j ∈ newPlaces f reached frontier ↔ j ∉ reached ∧ ∃ i ∈ frontier, R i j := by
  rw [mem_newPlaces, h.step small]

theorem newPlaces_le (h : Walks R f bound) (small : ∀ i ∈ frontier, i ≤ bound) :
    ∀ j ∈ newPlaces f reached frontier, j ≤ bound :=
  fun j hj => h.le_bound small j (mem_newPlaces.1 hj).2

/-- In `n` rounds, what can be reached in at most `n` steps is reached. -/
theorem mem_reach (h : Walks R f bound) (inv : Frontier R reached frontier)
    (small : ∀ i ∈ frontier, i ≤ bound) {j : Nat} :
    j ∈ reach f n reached frontier ↔
      j ∈ reached ∨ ∃ i ∈ frontier, ∃ m ≤ n, Steps R m i j := by
  induction n generalizing reached frontier with
  | zero =>
    rw [reach]
    refine ⟨.inl, fun hj => hj.elim id ?_⟩
    rintro ⟨i, hi, m, hm, steps⟩
    obtain rfl := Nat.le_zero.1 hm
    exact inv.subset (steps ▸ hi)
  | succ n ih =>
    have found (k : Nat) : k ∈ newPlaces f reached frontier ↔ k ∉ reached ∧ ∃ i ∈ frontier, R i k :=
      h.newPlaces_iff small k
    by_cases none : newPlaces f reached frontier = []
    · rw [reach_of_nothing_new none]
      rw [none] at found
      refine ⟨.inl, fun hj => hj.elim id ?_⟩
      rintro ⟨i, hi, m, -, steps⟩
      refine inv.of_nothing_new (fun k hk more => ?_) (inv.subset hi) steps
      exact List.not_mem_nil ((found k).2 ⟨hk, more⟩)
    · have inv' := inv.next found
      rw [reach_of_new none, ih inv' (h.newPlaces_le small)]
      constructor
      · rintro (hj | ⟨i, hi, m, hm, steps⟩)
        · rcases List.mem_append.1 hj with old | fresh
          · exact .inl old
          · obtain ⟨-, i, hi, hij⟩ := (found j).1 fresh
            exact .inr ⟨i, hi, 1, by omega, j, hij, rfl⟩
        · obtain ⟨-, k, hk, hki⟩ := (found i).1 hi
          exact .inr ⟨k, hk, m + 1, by omega, i, hki, steps⟩
      · rintro (hj | ⟨i, hi, m, hm, steps⟩)
        · exact .inl (List.mem_append_left _ hj)
        · cases m with
          | zero => exact .inl (List.mem_append_left _ (inv.subset (steps ▸ hi)))
          | succ m =>
            obtain ⟨k, hik, rest⟩ := steps
            have next : k ∈ reached ++ newPlaces f reached frontier := by
              by_cases hk : k ∈ reached
              · exact List.mem_append_left _ hk
              · exact List.mem_append_right _ ((found k).2 ⟨hk, i, hi, hik⟩)
            rcases inv'.of_steps next rest with done | ⟨k', hk', l, hl, rest⟩
            · exact .inl done
            · exact .inr ⟨k', hk', l, by omega, rest⟩

/-- With as many rounds as there are places left, further rounds make no difference. -/
theorem reach_enough (h : Walks R f bound) {m : Nat} (small : ∀ i ∈ frontier, i ≤ bound)
    (enough : (unreached bound reached).length ≤ n) (more : n ≤ m) :
    reach f m reached frontier = reach f n reached frontier := by
  induction m generalizing n reached frontier with
  | zero => rw [Nat.le_zero.1 more]
  | succ m ih =>
    by_cases none : newPlaces f reached frontier = []
    · rw [reach_of_nothing_new none]
      cases n with
      | zero => rfl
      | succ n => rw [reach_of_nothing_new none]
    · obtain ⟨k, hk⟩ := List.exists_mem_of_ne_nil _ none
      have fewer := length_unreached_append (h.newPlaces_le small k hk) (mem_newPlaces.1 hk).1 hk
      obtain ⟨n, rfl⟩ : ∃ l, n = l + 1 := ⟨n - 1, by omega⟩
      rw [reach_of_new none, reach_of_new none]
      exact ih (h.newPlaces_le small) (by omega) (by omega)

/-- With as many rounds as there are places left, everything that can be reached is reached. -/
theorem mem_reach_all (h : Walks R f bound) (inv : Frontier R reached frontier)
    (small : ∀ i ∈ frontier, i ≤ bound) (enough : (unreached bound reached).length ≤ n) {j : Nat} :
    j ∈ reach f n reached frontier ↔ j ∈ reached ∨ ∃ i ∈ frontier, ∃ m, Steps R m i j := by
  constructor
  · intro hj
    refine ((h.mem_reach inv small).1 hj).imp_right ?_
    rintro ⟨i, hi, m, -, steps⟩
    exact ⟨i, hi, m, steps⟩
  · rintro (done | ⟨i, hi, m, steps⟩)
    · exact (h.mem_reach inv small).2 (.inl done)
    · -- However many steps there are, as many rounds give the same places.
      rw [← h.reach_enough small enough (Nat.le_max_left n m)]
      exact (h.mem_reach inv small).2 (.inr ⟨i, hi, m, Nat.le_max_right n m, steps⟩)

end Walks

end Reach

/-! ## Stretches -/

variable {text : Array Char}

/-- A stretch of a text lies in it. -/
theorem Spans.le_size {e : Expr} {i j : Nat} (h : Spans text e i j) (hi : i ≤ text.size) :
    j ≤ text.size := by
  induction h with
  | set hc _ =>
    obtain ⟨inside, -⟩ := Array.getElem?_eq_some_iff.1 hc
    exact inside
  | seq _ _ first second => exact second (first hi)
  | left _ ih | right _ ih => exact ih hi
  | more _ _ _ first rest => exact rest (first hi)
  | _ => exact hi

theorem spans_set {s : CharSet} {i j : Nat} :
    Spans text (.set s) i j ↔ ∃ c, text[i]? = some c ∧ s c.toNat = true ∧ j = i + 1 := by
  constructor
  · rintro (_ | ⟨hc, hs⟩)
    exact ⟨_, hc, hs, rfl⟩
  · rintro ⟨c, hc, hs, rfl⟩
    exact .set hc hs

theorem spans_look {l : Look} {i j : Nat} :
    Spans text (.look l) i j ↔ l.holdsAt text i = true ∧ j = i := by
  constructor
  · rintro ⟨⟩
    exact ⟨‹_›, rfl⟩
  · rintro ⟨h, rfl⟩
    exact .look h

theorem spans_seq {a b : Expr} {i j : Nat} :
    Spans text (.seq a b) i j ↔ ∃ k, Spans text a i k ∧ Spans text b k j := by
  constructor
  · rintro ⟨⟩
    exact ⟨_, ‹_›, ‹_›⟩
  · rintro ⟨k, ha, hb⟩
    exact .seq ha hb

theorem spans_alt {a b : Expr} {i j : Nat} :
    Spans text (.alt a b) i j ↔ Spans text a i j ∨ Spans text b i j := by
  constructor
  · rintro (h | h)
    · exact .inl ‹_›
    · exact .inr ‹_›
  · rintro (h | h)
    · exact .left h
    · exact .right h

theorem spans_empty {i j : Nat} : Spans text .empty i j ↔ j = i := by
  constructor
  · rintro ⟨⟩
    rfl
  · rintro rfl
    exact .empty j

/-- A repetition matches as many stretches one after the other as it allows. -/
theorem spans_repetition {e : Expr} {least : Nat} {most : Option Nat} {i j : Nat} :
    Spans text (.repetition e least most) i j ↔
      ∃ n, least ≤ n ∧ (∀ m ∈ most, n ≤ m) ∧ Steps (Spans text e) n i j := by
  constructor
  · intro h
    generalize hr : Expr.repetition e least most = r at h
    induction h generalizing least most with
    | none i =>
      cases hr
      exact ⟨0, le_rfl, fun _ _ => Nat.zero_le _, rfl⟩
    | @more _ _ most i j k he _ room _ ih =>
      cases hr
      obtain ⟨n, hleast, hmost, steps⟩ := ih rfl
      refine ⟨n + 1, by omega, fun m hm => ?_, _, he, steps⟩
      have := hmost (m - 1) (by simp [Option.mem_def.1 hm])
      have : m ≠ 0 := fun zero => room (by rw [Option.mem_def.1 hm, zero])
      omega
    | _ => cases hr
  · rintro ⟨n, hleast, hmost, steps⟩
    induction n generalizing i least most with
    | zero =>
      obtain rfl : i = j := steps
      obtain rfl := Nat.le_zero.1 hleast
      exact .none i
    | succ n ih =>
      obtain ⟨k, he, rest⟩ := steps
      refine .more he (ih (by omega) ?_ rest) ?_
      · intro m hm
        obtain ⟨l, hl, rfl⟩ := Option.map_eq_some_iff.1 (Option.mem_def.1 hm)
        have := hmost l hl
        omega
      · rintro rfl
        exact absurd (hmost 0 rfl) (by omega)

/-! ## The search -/

namespace Expr

/-- No repetition in an expression asks for more rounds than it allows. -/
def IsCounted : Expr → Prop
  | seq a b | alt a b => a.IsCounted ∧ b.IsCounted
  | repetition body least most => (∀ m ∈ most, least ≤ m) ∧ body.IsCounted
  | _ => True

theorem mem_merge {ps qs : List Nat} {j : Nat} : j ∈ merge ps qs ↔ j ∈ ps ∨ j ∈ qs := by
  rw [merge, List.mem_append, List.mem_eraseDups, List.mem_filter, Bool.not_eq_true',
    List.contains_eq_mem, decide_eq_false_iff_not]
  by_cases h : j ∈ ps <;> simp [h]

/-- Behind the least number of rounds come as many more as are allowed. -/
theorem mem_ends_repetition {body : Expr} {least : Nat} {most : Option Nat}
    (walks : Walks (Spans text body) (body.ends text) text.size) (counted : ∀ m ∈ most, least ≤ m)
    {ps : List Nat} (hps : ∀ i ∈ ps, i ≤ text.size) {j : Nat} :
    j ∈ (Expr.repetition body least most).ends text ps ↔
      ∃ k ∈ rounds (body.ends text) least ps,
        ∃ n, (∀ m ∈ most, least + n ≤ m) ∧ Steps (Spans text body) n k j := by
  have small : ∀ k ∈ rounds (body.ends text) least ps, k ≤ text.size := by
    intro k hk
    obtain ⟨i, hi, steps⟩ := (walks.mem_rounds hps).1 hk
    exact walks.steps_bounded steps (hps i hi)
  have all := Frontier.refl (Spans text body) (rounds (body.ends text) least ps)
  cases most with
  | none =>
    have enough : (unreached text.size (rounds (body.ends text) least ps)).length ≤ text.size + 1 :=
      (List.length_filter_le _ _).trans List.length_range.le
    rw [ends, walks.mem_reach_all all small enough]
    constructor
    · rintro (hj | ⟨k, hk, n, steps⟩)
      · exact ⟨j, hj, 0, by simp, rfl⟩
      · exact ⟨k, hk, n, by simp, steps⟩
    · rintro ⟨k, hk, n, -, steps⟩
      exact .inr ⟨k, hk, n, steps⟩
  | some m =>
    have allowed : least ≤ m := counted m rfl
    rw [ends, walks.mem_reach all small]
    constructor
    · rintro (hj | ⟨k, hk, n, hn, steps⟩)
      · exact ⟨j, hj, 0, by simpa using allowed, rfl⟩
      · exact ⟨k, hk, n, by simp; omega, steps⟩
    · rintro ⟨k, hk, n, hn, steps⟩
      have := hn m rfl
      exact .inr ⟨k, hk, n, by omega, steps⟩

/-- A place is found if a stretch that ends there is matched from one of the places given. -/
theorem mem_ends {e : Expr} (he : e.IsCounted) {ps : List Nat} (hps : ∀ i ∈ ps, i ≤ text.size)
    {j : Nat} : j ∈ e.ends text ps ↔ ∃ i ∈ ps, Spans text e i j := by
  induction e generalizing ps j with
  | empty => simp [ends, spans_empty]
  | set s =>
    rw [ends, List.mem_filterMap]
    refine exists_congr fun i => and_congr_right fun _ => ?_
    rw [spans_set]
    cases text[i]? with
    | none => simp
    | some c =>
      cases hs : s c.toNat with
      | false => simp [hs]
      | true => simp [hs, eq_comm (a := j)]
  | look l =>
    rw [ends, List.mem_filter]
    simp only [spans_look]
    constructor
    · rintro ⟨hj, holds⟩
      exact ⟨j, hj, holds, rfl⟩
    · rintro ⟨i, hi, holds, rfl⟩
      exact ⟨hi, holds⟩
  | seq a b iha ihb =>
    have between : ∀ k ∈ a.ends text ps, k ≤ text.size := by
      intro k hk
      obtain ⟨i, hi, hik⟩ := (iha he.1 hps).1 hk
      exact hik.le_size (hps i hi)
    rw [ends, ihb he.2 between]
    simp only [iha he.1 hps, spans_seq]
    constructor
    · rintro ⟨k, ⟨i, hi, hik⟩, hkj⟩
      exact ⟨i, hi, k, hik, hkj⟩
    · rintro ⟨i, hi, k, hik, hkj⟩
      exact ⟨k, ⟨i, hi, hik⟩, hkj⟩
  | alt a b iha ihb =>
    rw [ends, mem_merge, iha he.1 hps, ihb he.2 hps]
    simp only [spans_alt, and_or_left, exists_or]
  | repetition body least most ih =>
    have walks : Walks (Spans text body) (body.ends text) text.size :=
      ⟨fun hqs _ => ih he.2 hqs, Spans.le_size⟩
    rw [mem_ends_repetition walks he.1 hps]
    simp only [spans_repetition, walks.mem_rounds hps]
    constructor
    · rintro ⟨k, ⟨i, hi, first⟩, n, allowed, others⟩
      exact ⟨i, hi, least + n, Nat.le_add_right _ _, allowed, steps_add.2 ⟨k, first, others⟩⟩
    · rintro ⟨i, hi, n, enough, allowed, steps⟩
      obtain ⟨n, rfl⟩ := Nat.exists_eq_add_of_le enough
      obtain ⟨k, first, others⟩ := steps_add.1 steps
      exact ⟨k, ⟨i, hi, first⟩, n, allowed, others⟩

/-- The search answers whether any stretch of the text is matched. -/
theorem search_iff {e : Expr} (he : e.IsCounted) :
    e.search text = true ↔ ∃ i j, i ≤ text.size ∧ Spans text e i j := by
  have places : ∀ i ∈ List.range (text.size + 1), i ≤ text.size := by
    intro i hi
    have := List.mem_range.1 hi
    omega
  rw [search, Bool.not_eq_true', List.isEmpty_eq_false_iff_exists_mem]
  simp only [mem_ends he places, List.mem_range, Nat.lt_succ_iff]
  constructor
  · rintro ⟨j, i, hi, h⟩
    exact ⟨i, j, hi, h⟩
  · rintro ⟨i, j, hi, h⟩
    exact ⟨j, i, hi, h⟩

end Expr

end PathQuery.Pattern
