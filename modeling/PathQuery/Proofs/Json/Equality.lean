import Mathlib.Data.List.Perm.Subperm
import PathQuery.Json.Equality
import PathQuery.Proofs.Node

/-!
# Laws of equality of documents

Objects are compared from one side: they have as many members, and each member of the first has one of its
name and an equal value in the second. Where no object has two members of one name this is symmetric,
because then the names of both are the same up to their order; without that condition an object with a
doubled name need not even equal itself. What equality of documents owes to the agreement of numbers is
just as simple: it is reflexive, symmetric or transitive if the agreement is.

All laws are proved by one induction over documents, with a case for every form of value.

## Main definitions

* `Json.numbers` — the numbers of a document, at any depth.
* `Json.isUnambiguous` — no object has two members of one name.
* `Json.Reordered` — the same document up to the order of members, at any depth.

## Main results

* `Json.induct` — induction over documents.
* `Json.agree_self`, `Json.agree_symm`, `Json.agree_trans` — the laws of equality.
* `Json.agree_congr` — equality depends only on how the numbers of the two documents agree.
* `Json.Reordered.agree` — the order of members makes no difference.
-/

namespace PathQuery.Json

/-! ## Induction over documents -/

/-- What holds of a value if it holds of its items or members holds of every document. -/
theorem induct {P : Json → Prop} (null : P .null) (bool : ∀ b, P (.bool b))
    (number : ∀ n, P (.number n)) (string : ∀ s, P (.string s))
    (array : ∀ items : List Json, (∀ v ∈ items, P v) → P (.array items))
    (object : ∀ members : List (String × Json), (∀ m ∈ members, P m.2) → P (.object members))
    (v : Json) : P v := by
  refine Json.rec (motive_2 := fun items => ∀ v ∈ items, P v)
    (motive_3 := fun members => ∀ m ∈ members, P m.2) (motive_4 := fun m => P m.2)
    null bool number string array object ?_ ?_ ?_ ?_ ?_ v
  · exact fun _ h => absurd h List.not_mem_nil
  · intro w rest hw hrest v hv
    rcases List.mem_cons.1 hv with rfl | hv
    · exact hw
    · exact hrest v hv
  · exact fun _ h => absurd h List.not_mem_nil
  · intro w rest hw hrest m hm
    rcases List.mem_cons.1 hm with rfl | hm
    · exact hw
    · exact hrest m hm
  · exact fun _ _ h => h

/-! ## Numbers and names -/

mutual

/-- The numbers of a document, at any depth. -/
def numbers : Json → List Number
  | .number n => [n]
  | .array items => itemNumbers items
  | .object members => memberNumbers members
  | _ => []

/-- The numbers of some items. -/
def itemNumbers : List Json → List Number
  | [] => []
  | v :: rest => numbers v ++ itemNumbers rest

/-- The numbers of the values of some members. -/
def memberNumbers : List (String × Json) → List Number
  | [] => []
  | (_, v) :: rest => numbers v ++ memberNumbers rest

end

theorem mem_itemNumbers_iff {items : List Json} {n : Number} :
    n ∈ itemNumbers items ↔ ∃ v ∈ items, n ∈ v.numbers := by
  induction items with
  | nil => simp [itemNumbers]
  | cons v rest ih => simp [itemNumbers, ih]

theorem mem_memberNumbers_iff {members : List (String × Json)} {n : Number} :
    n ∈ memberNumbers members ↔ ∃ m ∈ members, n ∈ m.2.numbers := by
  induction members with
  | nil => simp [memberNumbers]
  | cons m rest ih => simp [memberNumbers, ih]

theorem mem_itemNumbers {items : List Json} {v : Json} {n : Number} (hv : v ∈ items)
    (hn : n ∈ v.numbers) : n ∈ itemNumbers items :=
  mem_itemNumbers_iff.2 ⟨v, hv, hn⟩

theorem mem_memberNumbers {members : List (String × Json)} {m : String × Json} {n : Number}
    (hm : m ∈ members) (hn : n ∈ m.2.numbers) : n ∈ memberNumbers members :=
  mem_memberNumbers_iff.2 ⟨m, hm, hn⟩

mutual

/-- Whether no object of a document has two members of one name. -/
def isUnambiguous : Json → Bool
  | .array items => unambiguousItems items
  | .object members => decide (members.map (·.1)).Nodup && unambiguousMembers members
  | _ => true

/-- Whether this holds of all items. -/
def unambiguousItems : List Json → Bool
  | [] => true
  | v :: rest => isUnambiguous v && unambiguousItems rest

/-- Whether this holds of the values of all members. -/
def unambiguousMembers : List (String × Json) → Bool
  | [] => true
  | (_, v) :: rest => isUnambiguous v && unambiguousMembers rest

end

theorem isUnambiguous_array {items : List Json} :
    isUnambiguous (.array items) = true ↔ ∀ v ∈ items, v.isUnambiguous = true := by
  rw [isUnambiguous]
  induction items with
  | nil => simp [unambiguousItems]
  | cons v rest ih => simp [unambiguousItems, ih]

theorem unambiguousMembers_iff {members : List (String × Json)} :
    unambiguousMembers members = true ↔ ∀ m ∈ members, m.2.isUnambiguous = true := by
  induction members with
  | nil => simp [unambiguousMembers]
  | cons m rest ih => simp [unambiguousMembers, ih]

theorem isUnambiguous_object {members : List (String × Json)} :
    isUnambiguous (.object members) = true ↔
      (members.map (·.1)).Nodup ∧ ∀ m ∈ members, m.2.isUnambiguous = true := by
  rw [isUnambiguous, Bool.and_eq_true, decide_eq_true_iff, unambiguousMembers_iff]

/-! ## What it means to agree -/

section Agree

variable {numbers : Number → Number → Bool}

/-- Lists of items agree if their items do, one by one. -/
theorem agreeItems_iff {xs ys : List Json} :
    agreeItems numbers xs ys = true ↔ List.Forall₂ (fun x y => agree numbers x y = true) xs ys := by
  induction xs generalizing ys with
  | nil => cases ys <;> simp [agreeItems]
  | cons x xs ih => cases ys <;> simp [agreeItems, ih]

/-- Members agree with those of another object if each of them has one of its name and an agreeing value
there. -/
theorem agreeMembers_iff {ms ns : List (String × Json)} :
    agreeMembers numbers ms ns = true ↔
      ∀ m ∈ ms, ∃ y, member? m.1 ns = some y ∧ agree numbers m.2 y = true := by
  induction ms with
  | nil => simp [agreeMembers]
  | cons m ms ih =>
    obtain ⟨name, x⟩ := m
    rw [agreeMembers, Bool.and_eq_true, ih, List.forall_mem_cons]
    refine and_congr_left fun _ => ?_
    cases member? name ns <;> simp

theorem agree_object {ms ns : List (String × Json)} :
    agree numbers (.object ms) (.object ns) = true ↔ ms.length = ns.length ∧
      ∀ m ∈ ms, ∃ y, member? m.1 ns = some y ∧ agree numbers m.2 y = true := by
  rw [agree, Bool.and_eq_true, beq_iff_eq, agreeMembers_iff]

/-- A document agrees with itself if its numbers do. -/
theorem agree_self {v : Json} (hv : v.isUnambiguous = true)
    (self : ∀ n ∈ v.numbers, numbers n n = true) : agree numbers v v = true := by
  induction v using induct with
  | null => simp [agree]
  | bool b => simp [agree]
  | string s => simp [agree]
  | number n =>
    rw [agree]
    exact self n List.mem_cons_self
  | array items ih =>
    rw [isUnambiguous_array] at hv
    rw [agree, agreeItems_iff, List.forall₂_same]
    intro v mem
    exact ih v mem (hv v mem) fun n hn => self n (mem_itemNumbers mem hn)
  | object members ih =>
    rw [isUnambiguous_object] at hv
    rw [agree_object]
    refine ⟨rfl, fun m mem => ⟨m.2, member?_of_mem hv.1 mem, ?_⟩⟩
    exact ih m mem (hv.2 m mem) fun n hn => self n (mem_memberNumbers mem hn)

/-- Of two objects with as many members, where those of one all have their names in the other, both have
the same names. -/
theorem mem_names_of_agree {ms ns : List (String × Json)} (hm : (ms.map (·.1)).Nodup)
    (length : ms.length = ns.length)
    (found : ∀ m ∈ ms, ∃ y, member? m.1 ns = some y ∧ agree numbers m.2 y = true)
    {n : String × Json} (hn : n ∈ ns) : ∃ x, (n.1, x) ∈ ms := by
  have part : ms.map (·.1) ⊆ ns.map (·.1) := by
    intro name h
    obtain ⟨m, mem, rfl⟩ := List.mem_map.1 h
    obtain ⟨y, hy, -⟩ := found m mem
    exact List.mem_map_of_mem (f := (·.1)) (mem_of_member? hy)
  have same : (ms.map (·.1)).Perm (ns.map (·.1)) := by
    refine (hm.subperm part).perm_of_length_le ?_
    rw [List.length_map, List.length_map]
    exact Nat.le_of_eq length.symm
  obtain ⟨m, mem, name⟩ := List.mem_map.1 (same.mem_iff.2 (List.mem_map_of_mem hn))
  exact ⟨m.2, name ▸ mem⟩

/-- If numbers agree in both directions, so do documents. -/
theorem agree_symm (symm : ∀ a b, numbers a b = true → numbers b a = true) {v w : Json}
    (hv : v.isUnambiguous = true) (hw : w.isUnambiguous = true) (h : agree numbers v w = true) :
    agree numbers w v = true := by
  induction v using induct generalizing w with
  | null => cases w <;> simp_all [agree]
  | bool b => cases w <;> simp_all [agree]
  | string s => cases w <;> simp_all [agree]
  | number n =>
    cases w with
    | number k =>
      rw [agree] at h ⊢
      exact symm n k h
    | _ => simp [agree] at h
  | array xs ih =>
    cases w with
    | array ys =>
      rw [isUnambiguous_array] at hv hw
      rw [agree, agreeItems_iff] at h ⊢
      rw [List.forall₂_iff_get] at h ⊢
      refine ⟨h.1.symm, fun i hi hi' => ?_⟩
      exact ih _ (List.get_mem _ _) (hv _ (List.get_mem _ _)) (hw _ (List.get_mem _ _)) (h.2 i hi' hi)
    | _ => simp [agree] at h
  | object ms ih =>
    cases w with
    | object ns =>
      rw [isUnambiguous_object] at hv hw
      rw [agree_object] at h ⊢
      refine ⟨h.1.symm, fun n mem => ?_⟩
      obtain ⟨x, hx⟩ := mem_names_of_agree hv.1 h.1 h.2 mem
      obtain ⟨y, hy, same⟩ := h.2 _ hx
      have value : y = n.2 := Option.some_inj.1 (hy.symm.trans (member?_of_mem hw.1 mem))
      subst value
      exact ⟨x, member?_of_mem hv.1 hx, ih _ hx (hv.2 _ hx) (hw.2 _ mem) same⟩
    | _ => simp [agree] at h

/-- If numbers agree across a third, so do documents. -/
theorem agree_trans
    (trans : ∀ a b c, numbers a b = true → numbers b c = true → numbers a c = true) {u v w : Json}
    (h : agree numbers u v = true) (h' : agree numbers v w = true) : agree numbers u w = true := by
  induction u using induct generalizing v w with
  | null => cases v <;> cases w <;> simp_all [agree]
  | bool b => cases v <;> cases w <;> simp_all [agree]
  | string s => cases v <;> cases w <;> simp_all [agree]
  | number n =>
    cases v with
    | number k =>
      cases w with
      | number l =>
        rw [agree] at h h' ⊢
        exact trans n k l h h'
      | _ => simp [agree] at h'
    | _ => simp [agree] at h
  | array xs ih =>
    cases v with
    | array ys =>
      cases w with
      | array zs =>
        rw [agree, agreeItems_iff, List.forall₂_iff_get] at h h' ⊢
        refine ⟨h.1.trans h'.1, fun i hi hk => ?_⟩
        have hj : i < ys.length := h.1 ▸ hi
        exact ih _ (List.get_mem _ _) (h.2 i hi hj) (h'.2 i hj hk)
      | _ => simp [agree] at h'
    | _ => simp [agree] at h
  | object ms ih =>
    cases v with
    | object ns =>
      cases w with
      | object ps =>
        rw [agree_object] at h h' ⊢
        refine ⟨h.1.trans h'.1, fun m mem => ?_⟩
        obtain ⟨y, hy, first⟩ := h.2 m mem
        obtain ⟨z, hz, second⟩ := h'.2 _ (mem_of_member? hy)
        exact ⟨z, hz, ih m mem first second⟩
      | _ => simp [agree] at h'
    | _ => simp [agree] at h

/-- Equality depends only on how the numbers of the two documents agree. -/
theorem agree_congr {numbers' : Number → Number → Bool} {v w : Json}
    (same : ∀ a ∈ v.numbers, ∀ b ∈ w.numbers, numbers a b = numbers' a b) :
    agree numbers v w = agree numbers' v w := by
  induction v using induct generalizing w with
  | null => cases w <;> simp [agree]
  | bool b => cases w <;> simp [agree]
  | string s => cases w <;> simp [agree]
  | number n =>
    cases w with
    | number k =>
      rw [agree, agree]
      exact same n List.mem_cons_self k List.mem_cons_self
    | _ => simp [agree]
  | array xs ih =>
    cases w with
    | array ys =>
      rw [agree, agree, Bool.eq_iff_iff, agreeItems_iff, agreeItems_iff, List.forall₂_iff_get,
        List.forall₂_iff_get]
      refine and_congr_right fun _ => forall_congr' fun i => forall_congr' fun hi =>
        forall_congr' fun hi' => ?_
      rw [ih _ (List.get_mem _ _) fun a ha b hb => same a (mem_itemNumbers (List.get_mem _ _) ha) b
        (mem_itemNumbers (List.get_mem _ _) hb)]
    | _ => simp [agree]
  | object ms ih =>
    cases w with
    | object ns =>
      rw [Bool.eq_iff_iff, agree_object, agree_object]
      refine and_congr_right fun _ => forall_congr' fun m => forall_congr' fun mem =>
        exists_congr fun y => and_congr_right fun hy => ?_
      rw [ih m mem fun a ha b hb => same a (mem_memberNumbers mem ha) b
        (mem_memberNumbers (mem_of_member? hy) hb)]
    | _ => simp [agree]

end Agree

/-! ## The order of members -/

/-- The same document, up to the order of the members of its objects at any depth. -/
inductive Reordered : Json → Json → Prop
  | refl (v : Json) : Reordered v v
  | trans {u v w : Json} : Reordered u v → Reordered v w → Reordered u w
  | members {ms ns : List (String × Json)} : ms.Perm ns → Reordered (.object ms) (.object ns)
  /-- Inside an item of an array. -/
  | item {v w : Json} (xs ys : List Json) :
    Reordered v w → Reordered (.array (xs ++ v :: ys)) (.array (xs ++ w :: ys))
  /-- Inside the value of a member. -/
  | member {v w : Json} (ms ns : List (String × Json)) (name : String) :
    Reordered v w → Reordered (.object (ms ++ (name, v) :: ns)) (.object (ms ++ (name, w) :: ns))

namespace Reordered

variable {v w : Json}

/-- Both documents have the same numbers. -/
theorem mem_numbers (h : Reordered v w) {n : Number} : n ∈ v.numbers ↔ n ∈ w.numbers := by
  induction h with
  | refl => rfl
  | trans _ _ first second => exact first.trans second
  | members perm =>
    rw [numbers, numbers, mem_memberNumbers_iff, mem_memberNumbers_iff]
    exact exists_congr fun m => and_congr_left fun _ => perm.mem_iff
  | item xs ys _ ih =>
    rw [numbers, numbers, mem_itemNumbers_iff, mem_itemNumbers_iff]
    simp only [List.mem_append, List.mem_cons, or_and_right, exists_or, exists_eq_left, ih]
  | member ms ns name _ ih =>
    rw [numbers, numbers, mem_memberNumbers_iff, mem_memberNumbers_iff]
    simp only [List.mem_append, List.mem_cons, or_and_right, exists_or, exists_eq_left, ih]

/-- In both documents or in neither, an object has two members of one name. -/
theorem isUnambiguous_iff (h : Reordered v w) : v.isUnambiguous = true ↔ w.isUnambiguous = true := by
  induction h with
  | refl => rfl
  | trans _ _ first second => exact first.trans second
  | members perm =>
    rw [isUnambiguous_object, isUnambiguous_object, (perm.map (·.1)).nodup_iff]
    exact and_congr_right fun _ => forall_congr' fun m => imp_congr_left perm.mem_iff
  | item xs ys _ ih =>
    rw [isUnambiguous_array, isUnambiguous_array]
    simp only [List.forall_mem_append, List.forall_mem_cons, ih]
  | member ms ns name _ ih =>
    rw [isUnambiguous_object, isUnambiguous_object]
    simp only [List.forall_mem_append, List.forall_mem_cons, List.map_append, List.map_cons, ih]

/-- The order of members makes no difference, if numbers agree with themselves. -/
theorem agree {numbers : Number → Number → Bool}
    (trans : ∀ a b c, numbers a b = true → numbers b c = true → numbers a c = true)
    (hv : v.isUnambiguous = true) (self : ∀ n ∈ v.numbers, numbers n n = true)
    (h : Reordered v w) : Json.agree numbers v w = true := by
  induction h with
  | refl => exact agree_self hv self
  | trans left _ first second =>
    have between := second (left.isUnambiguous_iff.1 hv) fun n hn => self n (left.mem_numbers.2 hn)
    exact agree_trans trans (first hv self) between
  | @members ms ns perm =>
    have names := (isUnambiguous_object.1 ((Reordered.members perm).isUnambiguous_iff.1 hv)).1
    rw [isUnambiguous_object] at hv
    rw [agree_object]
    refine ⟨perm.length_eq, fun m mem => ⟨m.2, member?_of_mem names (perm.mem_iff.1 mem), ?_⟩⟩
    exact agree_self (hv.2 m mem) fun n hn => self n (mem_memberNumbers mem hn)
  | @item v w xs ys _ ih =>
    rw [isUnambiguous_array] at hv
    have same (u : Json) (mem : u ∈ xs ++ v :: ys) : Json.agree numbers u u = true :=
      agree_self (hv u mem) fun n hn => self n (mem_itemNumbers mem hn)
    have changed : Json.agree numbers v w = true :=
      ih (hv v (by simp)) fun n hn => self n (mem_itemNumbers (by simp) hn)
    rw [Json.agree, agreeItems_iff]
    refine List.rel_append ?_ (.cons changed ?_)
    · exact List.forall₂_same.2 fun u mem => same u (List.mem_append_left _ mem)
    · exact List.forall₂_same.2 fun u mem =>
        same u (List.mem_append_right _ (List.mem_cons_of_mem _ mem))
  | @member v w ms ns name inner ih =>
    have names :=
      (isUnambiguous_object.1 ((Reordered.member ms ns name inner).isUnambiguous_iff.1 hv)).1
    rw [isUnambiguous_object] at hv
    have same (m : String × Json) (mem : m ∈ ms ++ (name, v) :: ns) :
        Json.agree numbers m.2 m.2 = true :=
      agree_self (hv.2 m mem) fun n hn => self n (mem_memberNumbers mem hn)
    have changed : Json.agree numbers v w = true :=
      ih (hv.2 (name, v) (by simp)) fun n hn => self n (mem_memberNumbers (m := (name, v)) (by simp) hn)
    rw [agree_object]
    refine ⟨by simp, fun m mem => ?_⟩
    rcases List.mem_append.1 mem with left | right
    · exact ⟨m.2, member?_of_mem names (List.mem_append_left _ left), same m mem⟩
    · rcases List.mem_cons.1 right with rfl | right
      · have there : (name, w) ∈ ms ++ (name, w) :: ns :=
          List.mem_append_right _ List.mem_cons_self
        exact ⟨w, member?_of_mem names there, changed⟩
      · have kept : m ∈ ms ++ (name, w) :: ns :=
          List.mem_append_right _ (List.mem_cons_of_mem _ right)
        exact ⟨m.2, member?_of_mem names kept, same m mem⟩

end Reordered

end PathQuery.Json
