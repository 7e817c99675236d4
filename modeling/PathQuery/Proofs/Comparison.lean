import PathQuery.Comparison
import PathQuery.Proofs.Double.Whole
import PathQuery.Proofs.Json.Equality

/-!
# Laws of comparisons

Equality of operands takes the cases apart by their form: one value, several values, or several values
against an array. All of them are equality of documents once several values are read as the array of them,
so equality of operands has the laws of equality of documents. Those are the laws of an equivalence where
every number equals itself, which only a double that is no number fails to do, and where no object has two
members of one name.

A comparison can be turned round because the order is asked for in both directions already, and the rest
is the symmetry of equality.

## Main definitions

* `Json.isSound`, `Operand.isSound` — what a document can hold.
* `Content.asJson?` — what an operand comes down to, as one document.
* `CompareOp.mirror` — a comparison read from right to left.

## Main results

* `Content.equal_eq` — equality of operands is equality of documents.
* `comparison_laws` — equality is an equivalence that ignores the order of members, and comparisons can be
  turned round.
-/

namespace PathQuery

/-! ## Numbers -/

namespace Number

/-- Whether a document can hold a number: an integer of sixty-four bits, with or without a sign, or a
finite double. -/
def isSound : Number → Bool
  | integer n => decide (-2 ^ 63 ≤ n ∧ n < 2 ^ 64)
  | real x => x.isFinite

theorem sameValue_self {n : Number} (h : n.isSound = true) : n.sameValue n = true := by
  cases n with
  | integer n =>
    have range := of_decide_eq_true h
    rw [sameValue, toFloat, Double.ofInt_beq (by omega) (by omega), decide_eq_true_iff]
  | real x => exact Double.beq_self_of_isFinite h

theorem sameValue_symm (m n : Number) : m.sameValue n = true → n.sameValue m = true := Double.beq_symm

theorem sameValue_trans (l m n : Number) :
    l.sameValue m = true → m.sameValue n = true → l.sameValue n = true := Double.beq_trans

end Number

/-! ## Documents -/

namespace Json

/-- Whether a value can be held in memory: no object has two members of one name, and every number is
sound. -/
def isSound (v : Json) : Bool := v.isUnambiguous && v.numbers.all Number.isSound

theorem isSound_iff {v : Json} :
    v.isSound = true ↔ v.isUnambiguous = true ∧ ∀ n ∈ v.numbers, n.isSound = true := by
  rw [isSound, Bool.and_eq_true, List.all_eq_true]

theorem isSound_array {items : List Json} :
    isSound (.array items) = true ↔ ∀ v ∈ items, v.isSound = true := by
  simp only [isSound_iff, isUnambiguous_array, numbers, mem_itemNumbers_iff, forall_and]
  refine and_congr_right fun _ => ⟨fun h v hv n hn => h n ⟨v, hv, hn⟩, ?_⟩
  rintro h n ⟨v, hv, hn⟩
  exact h v hv n hn

theorem sameValue_self {v : Json} (h : v.isSound = true) : v.sameValue v = true := by
  rw [isSound_iff] at h
  exact agree_self h.1 fun n hn => Number.sameValue_self (h.2 n hn)

theorem sameValue_symm {v w : Json} (hv : v.isSound = true) (hw : w.isSound = true)
    (h : v.sameValue w = true) : w.sameValue v = true :=
  agree_symm Number.sameValue_symm (isSound_iff.1 hv).1 (isSound_iff.1 hw).1 h

theorem sameValue_trans {u v w : Json} (h : u.sameValue v = true) (h' : v.sameValue w = true) :
    u.sameValue w = true :=
  agree_trans Number.sameValue_trans h h'

/-- The order of members makes no difference. -/
theorem Reordered.sameValue {v w : Json} (h : v.Reordered w) (hv : v.isSound = true) :
    v.sameValue w = true := by
  rw [isSound_iff] at hv
  exact h.agree Number.sameValue_trans hv.1 fun n hn => Number.sameValue_self (hv.2 n hn)

end Json

/-! ## Operands -/

/-- What an operand comes down to as one document, where several values are the array of them. -/
def Content.asJson? : Content → Option Json
  | .nothing => none
  | .one v => some v
  | .many vs => some (.array vs)

/-- Equality of operands is equality of the documents that they come down to. -/
theorem Content.equal_eq (c d : Content) :
    c.equal d =
      match c.asJson?, d.asJson? with
      | none, none => true
      | some v, some w => v.sameValue w
      | _, _ => false := by
  cases c with
  | nothing => cases d <;> rfl
  | one v =>
    cases d with
    | many ws => cases v <;> rfl
    | _ => rfl
  | many vs =>
    cases d with
    | one w => cases w <;> rfl
    | _ => rfl

namespace Operand

/-- Whether all values of an operand are sound. -/
def isSound : Operand → Bool
  | nothing => true
  | node v | owned v => v.isSound
  | nodes vs => vs.all Json.isSound

theorem isSound_of_ofJson {v w : Json} (hv : v.isSound = true)
    (hw : (Content.ofJson v).asJson? = some w) : w.isSound = true := by
  unfold Content.ofJson at hw
  split at hw
  · cases hw
    exact Json.isSound_array.1 hv _ List.mem_cons_self
  · cases hw
    exact hv

/-- A sound operand comes down to a sound document. -/
theorem isSound_asJson? {x : Operand} (hx : x.isSound = true) {v : Json}
    (hv : x.content.asJson? = some v) : v.isSound = true := by
  cases x with
  | nothing => cases hv
  | node w => exact isSound_of_ofJson hx hv
  | owned w => exact isSound_of_ofJson hx hv
  | nodes vs =>
    rw [isSound, List.all_eq_true] at hx
    match vs with
    | [] =>
      cases hv
      exact Json.isSound_array.2 hx
    | [w] =>
      cases hv
      exact hx _ List.mem_cons_self
    | w :: w' :: rest =>
      cases hv
      exact Json.isSound_array.2 hx

variable {a b c : Operand}

/-- Operands are equal if both come down to nothing, or both to documents that are equal. -/
theorem equal_iff :
    a.equal b = true ↔ a.content.asJson? = none ∧ b.content.asJson? = none ∨
      ∃ v w, a.content.asJson? = some v ∧ b.content.asJson? = some w ∧ v.sameValue w = true := by
  rw [equal, Content.equal_eq]
  cases a.content.asJson? <;> cases b.content.asJson? <;> simp

theorem equal_self (ha : a.isSound = true) : a.equal a = true := by
  rw [equal_iff]
  cases h : a.content.asJson? with
  | none => exact .inl ⟨rfl, rfl⟩
  | some v => exact .inr ⟨v, v, rfl, rfl, Json.sameValue_self (isSound_asJson? ha h)⟩

theorem equal_symm (ha : a.isSound = true) (hb : b.isSound = true) (h : a.equal b = true) :
    b.equal a = true := by
  rw [equal_iff] at h ⊢
  rcases h with ⟨hv, hw⟩ | ⟨v, w, hv, hw, same⟩
  · exact .inl ⟨hw, hv⟩
  · have swapped := Json.sameValue_symm (isSound_asJson? ha hv) (isSound_asJson? hb hw) same
    exact .inr ⟨w, v, hw, hv, swapped⟩

theorem equal_trans (h : a.equal b = true) (h' : b.equal c = true) : a.equal c = true := by
  rw [equal_iff] at h h' ⊢
  rcases h with ⟨hu, hv⟩ | ⟨u, v, hu, hv, first⟩
  · rcases h' with ⟨-, hw⟩ | ⟨v, w, hv', -⟩
    · exact .inl ⟨hu, hw⟩
    · rw [hv] at hv'
      cases hv'
  · rcases h' with ⟨hv', -⟩ | ⟨v', w, hv', hw, second⟩
    · rw [hv] at hv'
      cases hv'
    · cases hv.symm.trans hv'
      exact .inr ⟨u, w, hu, hw, Json.sameValue_trans first second⟩

theorem equal_comm (ha : a.isSound = true) (hb : b.isSound = true) : a.equal b = b.equal a :=
  Bool.eq_iff_iff.2 ⟨equal_symm ha hb, equal_symm hb ha⟩

end Operand

/-! ## Comparisons -/

namespace CompareOp

/-- The comparison that says the same with its sides exchanged. -/
def mirror : CompareOp → CompareOp
  | eq => eq
  | ne => ne
  | lt => gt
  | le => ge
  | gt => lt
  | ge => le

/-- With its sides exchanged, a comparison becomes its mirror image. -/
theorem holds_mirror (op : CompareOp) {a b : Operand} (ha : a.isSound = true)
    (hb : b.isSound = true) : op.mirror.holds b a = op.holds a b := by
  have same := Operand.equal_comm hb ha
  unfold holds
  cases ha' : a.isNothing <;> cases hb' : b.isNothing
  case false.false => cases op <;> simp [mirror, same]
  all_goals cases op <;> rfl

end CompareOp

/-- Equality is an equivalence of operands, the order of members makes no difference to it at any depth,
and every comparison says the same as its mirror image with the sides exchanged. -/
theorem comparison_laws :
    Equivalence (fun a b : {x : Operand // x.isSound = true} => a.val.equal b.val = true) ∧
      (∀ v w : Json, v.isSound = true → v.Reordered w → v.sameValue w = true) ∧
      ∀ (op : CompareOp) (a b : Operand), a.isSound = true → b.isSound = true →
        op.holds a b = op.mirror.holds b a := by
  refine ⟨⟨?_, ?_, ?_⟩, ?_, ?_⟩
  · exact fun a => Operand.equal_self a.property
  · exact fun {a b} h => Operand.equal_symm a.property b.property h
  · exact fun {a b c} h h' => Operand.equal_trans h h'
  · exact fun v w sound h => h.sameValue sound
  · exact fun op a b ha hb => (op.holds_mirror ha hb).symm

/-- Two spellings of one object, the second one alone in a list: they are equal, and being at most the
other says the same as being at least the first. -/
theorem comparison_laws_exchanged :
    let v : Json := .object [("a", .number (.integer 1)), ("b", .array [.null])]
    let w : Json := .object [("b", .array [.null]), ("a", .number (.integer 1))]
    (Operand.nodes [v]).equal (.nodes [v]) = true ∧ v.sameValue w = true ∧
      CompareOp.le.holds (.node v) (.nodes [w]) = CompareOp.ge.holds (.nodes [w]) (.node v) := by
  intro v w
  refine ⟨?_, ?_, ?_⟩
  · exact comparison_laws.1.refl ⟨.nodes [v], by decide⟩
  · exact comparison_laws.2.1 v w (by decide) (.members (.swap _ _ _))
  · exact comparison_laws.2.2 .le (.node v) (.nodes [w]) (by decide) (by decide)

end PathQuery
