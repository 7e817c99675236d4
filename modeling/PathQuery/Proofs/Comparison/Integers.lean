import PathQuery.Proofs.Comparison

/-!
# Comparing integers

Integers are compared as doubles, so what decides a comparison is the integers rounded to fifty-three bits.
Rounding keeps the order and leaves integers up to 2 ^ 53 alone. So the order of two integers is never
reversed, but two large neighbours can come out equal: 2 ^ 53 and 2 ^ 53 + 1 do. A comparison is the one of
the integers themselves unless they are different integers with one double, and the same goes for the
integers inside documents.

## Main definitions

* `CompareOp.between` — the six comparisons of integers.
* `Number.agreeBy` — agreement of numbers where integers agree up to a function of them.

## Main results

* `CompareOp.holds_integer` — integers compare as the rounded ones.
* `Json.sameValue_eq` — so do the integers inside documents.
* `integers_compare_rounded` — when that is the comparison of the integers.
-/

namespace PathQuery

namespace CompareOp

/-- Whether a comparison holds between two integers. -/
def between : CompareOp → ℤ → ℤ → Bool
  | eq, m, n => decide (m = n)
  | ne, m, n => decide (m ≠ n)
  | lt, m, n => decide (m < n)
  | le, m, n => decide (m ≤ n)
  | gt, m, n => decide (n < m)
  | ge, m, n => decide (n ≤ m)

/-- Integers in the same order compare alike. -/
theorem between_congr {m n k l : ℤ} (lt : m < n ↔ k < l) (gt : n < m ↔ l < k) (op : CompareOp) :
    op.between m n = op.between k l := by
  cases op <;> simp only [between, decide_eq_decide] <;> omega

end CompareOp

/-! ## Operands that are integers -/

variable {m n : ℤ}

theorem Number.natAbs_lt_of_isSound (h : (Number.integer n).isSound = true) : n.natAbs < 2 ^ 64 := by
  have range := of_decide_eq_true h
  omega

namespace Operand

variable {a b : Operand} {x y : Number}

theorem isNothing_of_json? {v : Json} (h : a.json? = some v) : a.isNothing = false := by
  cases a <;> simp_all [json?, isNothing]

/-- A number in an operand is what the operand comes down to. -/
theorem content_of_json? (h : a.json? = some (.number x)) : a.content = .one (.number x) := by
  cases a with
  | node v | owned v =>
    cases h
    rfl
  | _ => cases h

theorem equal_of_json? (ha : a.json? = some (.number x)) (hb : b.json? = some (.number y)) :
    a.equal b = x.sameValue y := by
  rw [equal, content_of_json? ha, content_of_json? hb]
  simp only [Content.equal, Json.sameValue, Json.agree]

theorem less_of_json? (ha : a.json? = some (.number x)) (hb : b.json? = some (.number y)) :
    a.less b = decide (x.toFloat < y.toFloat) := by
  rw [less, ha, hb]

end Operand

/-- Comparisons of integers are comparisons of the rounded integers. -/
theorem CompareOp.holds_integer (op : CompareOp) {a b : Operand}
    (hm : (Number.integer m).isSound = true) (hn : (Number.integer n).isSound = true)
    (ha : a.json? = some (.number (.integer m))) (hb : b.json? = some (.number (.integer n))) :
    op.holds a b = op.between (Double.round m) (Double.round n) := by
  have fitsM := Number.natAbs_lt_of_isSound hm
  have fitsN := Number.natAbs_lt_of_isSound hn
  have same : a.equal b = decide (Double.round m = Double.round n) := by
    rw [Operand.equal_of_json? ha hb]
    exact Double.ofInt_beq fitsM fitsN
  have less : a.less b = decide (Double.round m < Double.round n) := by
    rw [Operand.less_of_json? ha hb, decide_eq_decide]
    exact Double.ofInt_lt_iff fitsM fitsN
  have more : b.less a = decide (Double.round n < Double.round m) := by
    rw [Operand.less_of_json? hb ha, decide_eq_decide]
    exact Double.ofInt_lt_iff fitsN fitsM
  unfold holds
  rw [Operand.isNothing_of_json? ha, Operand.isNothing_of_json? hb, same, less, more]
  cases op <;> simp only [between, Bool.or_self, Bool.false_eq_true, if_false, decide_not,
    ← Bool.decide_or, decide_eq_decide] <;> omega

/-- Rounding makes no difference to a comparison exactly if it does not make different integers the
same. -/
theorem CompareOp.forall_between_round :
    (∀ op : CompareOp, op.between (Double.round m) (Double.round n) = op.between m n) ↔
      m = n ∨ Double.round m ≠ Double.round n := by
  constructor
  · intro h
    have same := h .eq
    rw [between, between, decide_eq_decide] at same
    exact (em (m = n)).imp_right (mt same.1)
  · intro h op
    have up : m ≤ n → Double.round m ≤ Double.round n := Double.round_mono
    have down : n ≤ m → Double.round n ≤ Double.round m := Double.round_mono
    rcases h with rfl | h
    · exact between_congr (by simp) (by simp) op
    · exact between_congr (by omega) (by omega) op

/-! ## Integers inside documents -/

/-- Whether two numbers agree, where integers do if a function takes them to the same integer. -/
def Number.agreeBy (f : ℤ → ℤ) : Number → Number → Bool
  | integer m, integer n => decide (f m = f n)
  | a, b => a.sameValue b

theorem Number.sameValue_eq {a b : Number} (ha : a.isSound = true) (hb : b.isSound = true) :
    a.sameValue b = a.agreeBy Double.round b := by
  cases a with
  | integer m =>
    cases b with
    | integer n => exact Double.ofInt_beq (natAbs_lt_of_isSound ha) (natAbs_lt_of_isSound hb)
    | real y => rfl
  | real x => rfl

namespace Json

variable {v w : Json}

/-- In documents, integers agree if the rounded ones are the same. -/
theorem sameValue_eq (hv : v.isSound = true) (hw : w.isSound = true) :
    v.sameValue w = agree (Number.agreeBy Double.round) v w := by
  rw [isSound_iff] at hv hw
  exact agree_congr fun a ha b hb => Number.sameValue_eq (hv.2 a ha) (hw.2 b hb)

/-- Equality by rounded integers is equality by integers where rounding makes no two of them the same. -/
theorem agree_round
    (apart : ∀ m n, .integer m ∈ v.numbers → .integer n ∈ w.numbers →
      m = n ∨ Double.round m ≠ Double.round n) :
    agree (Number.agreeBy Double.round) v w = agree (Number.agreeBy id) v w := by
  refine agree_congr fun a ha b hb => ?_
  cases a with
  | integer m =>
    cases b with
    | integer n =>
      rw [Number.agreeBy, Number.agreeBy, decide_eq_decide]
      refine ⟨fun same => ?_, fun same => congrArg Double.round same⟩
      exact (apart m n ha hb).resolve_right fun different => different same
    | real y => rfl
  | real x => rfl

end Json

/-- Inside documents integers agree if the rounded ones are equal, and this is the equality of the integers
themselves if no two different ones of them have one double. Where the documents are two integers, they
compare as the rounded ones do. This is the comparison of the integers themselves, in all its six forms,
exactly if they are equal or have different doubles; in particular if neither is larger than 2 ^ 53. -/
theorem integers_compare_rounded (v w : Json) (hv : v.isSound = true) (hw : w.isSound = true) :
    (v.sameValue w = Json.agree (Number.agreeBy Double.round) v w ∧
      ((∀ m n, .integer m ∈ v.numbers → .integer n ∈ w.numbers →
          m = n ∨ Double.round m ≠ Double.round n) →
        v.sameValue w = Json.agree (Number.agreeBy id) v w)) ∧
    ∀ (m n : ℤ) (a b : Operand), v = .number (.integer m) → w = .number (.integer n) →
      a.json? = some v → b.json? = some w →
        (∀ op : CompareOp, op.holds a b = op.between (Double.round m) (Double.round n)) ∧
        ((∀ op : CompareOp, op.holds a b = op.between m n) ↔
          m = n ∨ Double.round m ≠ Double.round n) ∧
        (m.natAbs ≤ 2 ^ 53 → n.natAbs ≤ 2 ^ 53 →
          ∀ op : CompareOp, op.holds a b = op.between m n) := by
  refine ⟨⟨Json.sameValue_eq hv hw, fun apart => ?_⟩, ?_⟩
  · rw [Json.sameValue_eq hv hw, Json.agree_round apart]
  · rintro m n a b rfl rfl ha hb
    have hm : (Number.integer m).isSound = true := (Json.isSound_iff.1 hv).2 _ List.mem_cons_self
    have hn : (Number.integer n).isSound = true := (Json.isSound_iff.1 hw).2 _ List.mem_cons_self
    have rounded (op : CompareOp) := op.holds_integer hm hn ha hb
    refine ⟨rounded, ?_, fun smallM smallN op => ?_⟩
    · simp only [rounded]
      exact CompareOp.forall_between_round
    · rw [rounded, Double.round_eq_self smallM, Double.round_eq_self smallN]

/-- Nine and ten, compared with each other, and the document `[9, {"a": 10}]`, compared with itself. -/
theorem integers_compare_rounded_nine :
    let v : Json := .array [.number (.integer 9), .object [("a", .number (.integer 10))]]
    CompareOp.lt.holds (.node (.number (.integer 9))) (.owned (.number (.integer 10))) = true ∧
      v.sameValue v = Json.agree (Number.agreeBy Double.round) v v := by
  intro v
  constructor
  · have compared := (integers_compare_rounded (.number (.integer 9)) (.number (.integer 10))
      (by decide) (by decide)).2
    have small := (compared 9 10 (.node (.number (.integer 9))) (.owned (.number (.integer 10)))
      rfl rfl rfl rfl).2.2 (by decide) (by decide)
    exact (small .lt).trans (by decide)
  · exact (integers_compare_rounded v v (by decide) (by decide)).1.1

/-- 2 ^ 53 and the integer behind it are different integers, and they are equal operands, neither of them
less than the other, and equal inside documents; so are the two largest integers of sixty-four bits. -/
theorem equal_of_same_double :
    let small : Json := .number (.integer 9007199254740992)
    let large : Json := .number (.integer 9007199254740993)
    CompareOp.eq.holds (.node small) (.owned large) = true ∧
      CompareOp.lt.holds (.node small) (.owned large) = false ∧
      CompareOp.ne.holds (.owned (.number (.integer 18446744073709551614)))
        (.owned (.number (.integer 18446744073709551615))) = false ∧
      Json.sameValue (.array [.object [("id", small)]]) (.array [.object [("id", large)]]) = true := by
  intro small large
  refine ⟨?_, ?_, ?_, ?_⟩
  · rw [CompareOp.holds_integer .eq (by decide) (by decide) rfl rfl]
    decide
  · rw [CompareOp.holds_integer .lt (by decide) (by decide) rfl rfl]
    decide
  · rw [CompareOp.holds_integer .ne (by decide) (by decide) rfl rfl]
    decide
  · rw [Json.sameValue_eq (by decide) (by decide)]
    decide

end PathQuery
