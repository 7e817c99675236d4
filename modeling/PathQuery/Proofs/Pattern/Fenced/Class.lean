import PathQuery.Proofs.Pattern.Fenced

/-!
# Classes in front of the frame's end

A class that is not closed in the text of a pattern is not closed by the fence either: only a closing
bracket ends a class, and the fence has none. So reading a class either is the same with the fence behind
the text, or fails without it and with it.

The elements of a class may take signs of the fence for characters; what is left then is an end of the
fence, where no class ends.

## Main results

* `readItem_fenced` — elements of classes.
* `bracket_mem_of_readSet` — only a closing bracket ends a class.
* `readBrackets_fenced` — classes.
-/

namespace PathQuery.Pattern

open Reader

variable {verbose : Bool} {s : List Char}

/-! ## Named classes -/

theorem asciiNamed?_fence (negated : Bool) (s : List Char) :
    asciiNamed? negated s = none ∧ asciiNamed? negated (s ++ fence) = none ∨
      ∃ item rest, asciiNamed? negated s = some (item, rest) ∧
        asciiNamed? negated (s ++ fence) = some (item, rest ++ fence) := by
  simp only [asciiNamed?, List.span_eq_takeWhile_dropWhile]
  rcases span_fence (· != ':') s with ⟨c, rest, alone, run, framed⟩ | ⟨alone, -, framed⟩
  · rw [alone, run, framed]
    by_cases closed : c = ':' ∧ ∃ behind, rest = ']' :: behind
    · obtain ⟨rfl, behind, rfl⟩ := closed
      simp only [List.cons_append]
      cases asciiClass? (s.takeWhile (· != ':')) with
      | none => exact .inl ⟨rfl, rfl⟩
      | some kind => exact .inr ⟨_, behind, rfl, rfl⟩
    · refine .inl ⟨?_, ?_⟩
      · split
        next same =>
          cases same
          exact absurd ⟨rfl, _, rfl⟩ closed
        · rfl
      · split
        next same =>
          cases rest with
          | nil => cases same
          | cons d rest =>
            cases same
            exact absurd ⟨rfl, _, rfl⟩ closed
        · rfl
  · rw [alone, framed]
    exact .inl ⟨rfl, rfl⟩

theorem asciiItem?_fence (s : List Char) :
    asciiItem? s = none ∧ asciiItem? (s ++ fence) = none ∨
      ∃ item rest, asciiItem? s = some (item, rest) ∧
        asciiItem? (s ++ fence) = some (item, rest ++ fence) := by
  by_cases opens : ['[', ':'] <+: s
  · obtain ⟨s, rfl⟩ := opens
    simp only [List.cons_append, List.nil_append, asciiItem?_eq]
    cases s with
    | nil => exact .inl ⟨rfl, rfl⟩
    | cons c s =>
      simp only [List.cons_append, List.head?_cons, List.tail_cons]
      by_cases caret : c = '^'
      · simp only [caret, if_true]
        exact asciiNamed?_fence true s
      · simp only [Option.some.injEq, caret, if_false]
        exact asciiNamed?_fence false (c :: s)
  · have opens' : ¬['[', ':'] <+: s ++ fence := by
      match s with
      | [] => decide
      | [c] => simp [fence]
      | c :: d :: s => simpa using opens
    exact .inl ⟨asciiItem?_eq_none opens, asciiItem?_eq_none opens'⟩

theorem readAscii_fenced (s : List Char) : Fenced Never readAscii readAscii s := by
  rcases asciiItem?_fence s with ⟨alone, framed⟩ | ⟨item, rest, alone, framed⟩
  · refine .same (x := none) (t := s) ?_ ?_ (List.suffix_refl s)
    · rw [readAscii, alone]
    · rw [readAscii, framed]
  · refine .same (x := some item) (t := rest) ?_ ?_ ?_
    · rw [readAscii, alone]
    · rw [readAscii, framed]
    · exact (asciiItem?_suffix alone).trans (List.tail_suffix s)

theorem length_of_readAscii {item : ClassItem} {rest : List Char}
    (h : readAscii s = .done (some item) rest) : rest.length < s.length := by
  unfold readAscii at h
  split at h
  next item' rest' found =>
    cases h
    have shorter := (asciiItem?_suffix found).length_le
    cases s with
    | nil => cases found
    | cons c s => exact Nat.lt_succ_of_le shorter
  · cases h

theorem rest_of_readAscii {rest : List Char} (h : readAscii s = .done none rest) : rest = s := by
  unfold readAscii at h
  split at h
  · cases h
  · cases h
    rfl

/-! ## Elements -/

theorem readClassPart_fenced (s : List Char) :
    Fenced (Astray verbose) (readClassPart verbose) (readClassPart verbose) s := by
  refine Fenced.peekChar_bind ?_ fun _ => ?_
  · rintro c rest rfl
    split
    · exact readEscape_fenced c rest
    · exact Fenced.skip_bind c (Fenced.pure _)
  · rw [if_neg (by decide)]
    exact Leaves.of_done rfl (Leaves.pure (.inl rfl))

theorem itemOf_fenced {L : ClassItem → List Char → Prop} (t : Tree) (s : List Char) :
    Fenced L (itemOf t) (itemOf t) s := by
  cases t with
  | literal | shorthand | property => exact Fenced.pure _
  | _ => exact Fenced.refuse_refuse

theorem rangeOf_fenced {L : ClassItem → List Char → Prop} (first last : Tree) (s : List Char) :
    Fenced L (rangeOf first last) (rangeOf first last) s := by
  unfold rangeOf
  split
  · split
    · exact Fenced.pure _
    · exact Fenced.refuse_refuse
  · exact Fenced.refuse_refuse

/-- Looking for a hyphen takes nothing off the text, and the fence has none. -/
theorem startsRange_bind {β : Type} {K : β → List Char → Prop} {f : Bool → Scan β}
    (h : ∀ b, Fenced K (f b) (f b) s) :
    Fenced K (startsRange verbose >>= f) (startsRange verbose >>= f) s := by
  by_cases hyphen : ∃ rest, s = '-' :: rest
  · obtain ⟨rest, rfl⟩ := hyphen
    have next : ((dropSpace verbose (rest ++ fence)).head? != some ']' &&
        (dropSpace verbose (rest ++ fence)).head? != some '-') =
        ((dropSpace verbose rest).head? != some ']' &&
          (dropSpace verbose rest).head? != some '-') := by
      rcases dropSpace_fence verbose rest with same | ⟨framed, alone, -⟩
      · rw [same]
        cases dropSpace verbose rest <;> rfl
      · rw [framed, alone]
    refine (h _).shift (List.suffix_refl _) (bind_done rfl) ?_
    rw [← next]
    rfl
  · have alone : startsRange verbose s = .done false s :=
      startsRange.eq_2 verbose s fun rest h => hyphen ⟨rest, h⟩
    have framed : startsRange verbose (s ++ fence) = .done false (s ++ fence) :=
      startsRange.eq_2 verbose (s ++ fence) fun _ h =>
        hyphen (starts_of_append_fence (by decide) h)
    exact (h false).shift (List.suffix_refl s) (bind_done alone) (bind_done framed)

/-- What is left where an element is read where the text ends. -/
def OfFence {α : Type} (_ : α) (rest : List Char) : Prop := rest <:+ fence

theorem itemOf_leaves (t : Tree) {s : List Char} (h : s <:+ fence) : Leaves OfFence (itemOf t) s :=
  Leaves.of_trims (itemOf_trims t) h

/-- An element of a class may take signs of the fence for characters. -/
theorem readItem_fenced (s : List Char) :
    Fenced OfFence (readItem verbose) (readItem verbose) s := by
  refine (readClassPart_fenced s).followedBy ?_ fun first rest => ?_
  · rintro first rest (rfl | ⟨rfl, w, rfl, -⟩)
    · refine Leaves.of_done (congrArg (Reading.done ()) (dropSpace_dollar verbose)) ?_
      exact Leaves.of_done rfl (Leaves.of_done rfl (itemOf_leaves first (List.suffix_cons ')' _)))
    · -- A condition is no element of a class.
      have kept : dropSpace verbose ('\x7b' :: w) = '\x7b' :: w := by cases verbose <;> rfl
      refine Leaves.of_done (congrArg (Reading.done ()) kept) ?_
      exact Leaves.of_done rfl (Leaves.of_done rfl Leaves.refuse)
  · refine (skipSpace_fenced rest).followed fun _ rest => ?_
    refine Fenced.peekChar_bind (fun d rest' h => startsRange_bind fun isRange => ?_) fun _ => ?_
    · subst h
      split
      · have ranged : Trims (readClassPart verbose >>= rangeOf first) :=
          readClassPart_consumes.trims.bind (rangeOf_trims first)
        refine (stepWithin_fenced d rest').followedBy ?_ fun _ rest => ?_
        · rintro _ _ rfl
          exact Leaves.of_trims ranged (List.suffix_refl fence)
        · refine (readClassPart_fenced rest).followedBy ?_ (rangeOf_fenced first)
          rintro last rest (rfl | ⟨rfl, -⟩)
          · exact Leaves.of_trims (rangeOf_trims first last) (List.suffix_cons ')' _)
          · cases first <;> exact Leaves.refuse
      · exact itemOf_fenced first _
    · exact Leaves.of_done rfl (itemOf_leaves first (List.suffix_refl fence))

/-! ## Openings -/

theorem ne_nil_of_stepWithin {rest : List Char} {x : Unit} (h : stepWithin verbose s = .done x rest) :
    rest ≠ [] := by
  rintro rfl
  have text : stepWithin verbose s =
      (peekChar >>= fun _ => pure () : Scan Unit) (dropSpace verbose s.tail) := rfl
  rw [text] at h
  cases behind : dropSpace verbose s.tail with
  | nil =>
    rw [behind] at h
    cases h
  | cons c rest =>
    rw [behind] at h
    cases h

/-- Hyphens are passed over as long as any come, if there are as many rounds as characters. -/
theorem readHyphens_fenced {n m : Nat} {s : List Char} (items : List ClassItem) (nonempty : s ≠ [])
    (hn : s.length ≤ n) (hm : s.length ≤ m) :
    Fenced AtFence (readHyphens verbose n items) (readHyphens verbose m items) s := by
  have positive := List.length_pos_iff.2 nonempty
  induction n generalizing m s items with
  | zero => omega
  | succ n ih =>
    obtain ⟨m, rfl⟩ : ∃ k, m = k + 1 := ⟨m - 1, by omega⟩
    rw [readHyphens, readHyphens]
    refine Fenced.peekChar_bind (fun c rest h => ?_) fun h => absurd h nonempty
    subst h
    split
    · refine (stepWithin_fenced c rest).bind (fun _ behind done _ => ?_) (fun _ done => ?_) ?_
      · have shorter := stepWithin_consumes.length_lt done nonempty
        have left := ne_nil_of_stepWithin done
        exact ih _ left (by omega) (by omega) (List.length_pos_iff.2 left)
      · exact absurd rfl (ne_nil_of_stepWithin done)
      · rintro _ _ rfl
        cases m with
        | zero => exact Leaves.pure rfl
        | succ m =>
          rw [readHyphens]
          refine Leaves.of_done peekChar_fence ?_
          rw [if_neg (by decide)]
          exact Leaves.pure rfl
    · exact Fenced.pure _

/-- At the fence nothing comes first. -/
theorem readFirst_fence (negated : Bool) : Leaves AtFence (readFirst verbose negated) fence := by
  refine Leaves.of_done (x := []) (t := fence) rfl (Leaves.of_done peekChar_fence ?_)
  rw [if_neg fun h => absurd h.2 (by decide)]
  exact Leaves.pure rfl

theorem readFirst_fenced (negated : Bool) (nonempty : s ≠ []) :
    Fenced AtFence (readFirst verbose negated) (readFirst verbose negated) s := by
  have longer : s.length ≤ (s ++ fence).length := by simp
  have hyphens : Fenced AtFence (fun s => readHyphens verbose s.length [] s : Scan _)
      (fun s => readHyphens verbose s.length [] s) s :=
    (readHyphens_fenced [] nonempty (Nat.le_refl _) longer).shift (List.suffix_refl s) rfl rfl
  refine hyphens.followedBy ?_ fun items rest => ?_
  · rintro items _ rfl
    refine Leaves.of_done peekChar_fence ?_
    rw [if_neg fun h => absurd h.2 (by decide)]
    exact Leaves.pure rfl
  · refine Fenced.peekChar_bind (fun c rest h => ?_) fun _ => ?_
    · subst h
      split
      · refine (stepWithin_fenced c rest).followedBy ?_ fun _ _ => Fenced.pure _
        rintro _ _ rfl
        exact Leaves.pure rfl
      · exact Fenced.pure _
    · rw [if_neg fun h => absurd h.2 (by decide)]
      exact Leaves.pure rfl

theorem readOpening_fenced (c : Char) (s : List Char) :
    Fenced AtFence (readOpening verbose) (readOpening verbose) (c :: s) := by
  rw [readOpening_eq]
  refine (stepWithin_fenced c s).followedBy ?_ fun _ rest => ?_
  · rintro _ _ rfl
    refine Leaves.of_done peekChar_fence ?_
    rw [if_neg (by decide)]
    exact readFirst_fence _
  · refine Fenced.peekChar_bind (fun d rest h => ?_) fun _ => ?_
    · subst h
      split
      · refine (stepWithin_fenced d rest).bind (fun _ behind done _ => ?_) (fun _ done => ?_) ?_
        · exact readFirst_fenced _ (ne_nil_of_stepWithin done)
        · exact absurd rfl (ne_nil_of_stepWithin done)
        · rintro _ _ rfl
          exact readFirst_fence _
      · exact readFirst_fenced _ (List.cons_ne_nil d rest)
    · rw [if_neg (by decide)]
      exact readFirst_fence _

/-! ## Whole classes -/

theorem setOp?_fence (s : List Char) : setOp? (s ++ fence) = setOp? s := by
  match s with
  | [] => rfl
  | [c] =>
    unfold setOp?
    split <;> simp_all [fence]
  | c :: d :: s =>
    unfold setOp?
    simp only [List.cons_append]
    split <;> simp_all

theorem peekSetOp_fenced (s : List Char) : Fenced Never peekSetOp peekSetOp s := by
  refine .same rfl ?_ (List.suffix_refl s)
  rw [peekSetOp, setOp?_fence]

theorem eq_of_peekSetOp {op : Option SetOp} {rest : List Char} (h : peekSetOp s = .done op rest) :
    rest = s ∧ op = setOp? s := by
  cases h
  exact ⟨rfl, rfl⟩

/-- The sign of an operation has two characters. -/
theorem exists_of_setOp? {op : SetOp} (h : setOp? s = some op) : ∃ c d rest, s = c :: d :: rest := by
  unfold setOp? at h
  split at h
  · exact ⟨_, _, _, rfl⟩
  · exact ⟨_, _, _, rfl⟩
  · exact ⟨_, _, _, rfl⟩
  · cases h

/-- Only a closing bracket ends a class. -/
theorem bracket_mem_of_readSet (n : Nat) (left : Option (SetOp × ClassSet)) (items : List ClassItem)
    (s : List Char) : Leaves (fun _ _ => ']' ∈ s) (readSet verbose n left items) s := by
  induction n generalizing left items s with
  | zero => exact Leaves.refuse
  | succ n ih =>
    have later {t : List Char} (suffix : t <:+ s) (left items) :
        Leaves (fun _ _ => ']' ∈ s) (readSet verbose n left items) t :=
      (ih left items t).mono fun _ _ h => suffix.subset h
    rw [readSet]
    refine Leaves.after_trims skipSpace_trims fun _ t suffix => ?_
    cases t with
    | nil =>
      intro _ _ h
      cases h
    | cons c t =>
      refine Leaves.of_done rfl ?_
      split
      · refine Leaves.after_trims readAscii_trims fun ascii rest suffix' => ?_
        cases ascii with
        | some item => exact later (suffix'.trans suffix) _ _
        | none =>
          refine Leaves.after_trims (readBrackets_consumes n).trims fun _ rest' suffix'' => ?_
          exact later (suffix''.trans (suffix'.trans suffix)) _ _
      split
      next close =>
        have member : ']' ∈ s := suffix.subset (close ▸ List.mem_cons_self)
        exact Leaves.of_done rfl (Leaves.pure member)
      · refine Leaves.after_trims peekSetOp_trims fun op rest suffix' => ?_
        cases op with
        | some op =>
          refine Leaves.after_trims (Trims.skipMany 2) fun _ rest' suffix'' => ?_
          exact later (suffix''.trans (suffix'.trans suffix)) _ _
        | none =>
          refine Leaves.after_trims readItem_consumes.trims fun item rest' suffix'' => ?_
          exact later (suffix''.trans (suffix'.trans suffix)) _ _

/-- No class ends in the fence. -/
theorem readSet_of_fence {n : Nat} {left : Option (SetOp × ClassSet)} {items : List ClassItem}
    {s : List Char} (h : s <:+ fence) : Leaves Never (readSet verbose n left items) s :=
  (bracket_mem_of_readSet n left items s).mono fun _ _ close => absurd (h.subset close) (by decide)

theorem readSet_nil (n : Nat) (left : Option (SetOp × ClassSet)) (items : List ClassItem) :
    readSet verbose n left items [] = .failed .malformed [] := by
  cases n with
  | zero => rfl
  | succ n =>
    rw [readSet, skipSpace_bind_nil]
    rfl

theorem readBrackets_nil (n : Nat) : readBrackets verbose n [] = .failed .malformed [] := by
  cases n with
  | zero => rfl
  | succ n =>
    rw [readBrackets]
    cases verbose <;> rfl

theorem endAlike_readSet (verbose : Bool) (n m : Nat) (left : Option (SetOp × ClassSet))
    (items : List ClassItem) :
    EndAlike (readSet verbose n left items) (readSet verbose m left items) :=
  .of_failed (readSet_nil n left items) (readSet_nil m left items)

/-- The fence makes no difference to the rest of a class on texts that are shorter than a bound. -/
def SetsFenced (verbose : Bool) (n m bound : Nat) : Prop :=
  ∀ (left : Option (SetOp × ClassSet)) (items : List ClassItem) (s : List Char), s.length < bound →
    Fenced Never (readSet verbose n left items) (readSet verbose m left items) s

/-- Goes on at a bracket in a class: behind an ASCII class, or with a class of its own. -/
def readBehindAscii (verbose : Bool) (n : Nat) (left : Option (SetOp × ClassSet))
    (items : List ClassItem) : Option ClassItem → Scan ClassSet
  | some item => readSet verbose n left (item :: items)
  | none => do
    let (negated, content) ← readBrackets verbose n
    readSet verbose n left (.brackets negated content :: items)

/-- Goes on with the right side of an operation, or with an element. -/
def readBehindSetOp (verbose : Bool) (n : Nat) (left : Option (SetOp × ClassSet))
    (items : List ClassItem) : Option SetOp → Scan ClassSet
  | some op => do
    skipMany 2
    readSet verbose n (some (op, closeSet left items)) []
  | none => do
    let item ← readItem verbose
    readSet verbose n left (item :: items)

section Branches

variable {n m : Nat} {left : Option (SetOp × ClassSet)} {items : List ClassItem} {c : Char}

theorem readBehindAscii_fenced
    (brackets : Fenced Never (readBrackets verbose n) (readBrackets verbose m) (c :: s))
    (next : SetsFenced verbose n m (c :: s).length) :
    Fenced Never (readAscii >>= readBehindAscii verbose n left items)
      (readAscii >>= readBehindAscii verbose m left items) (c :: s) := by
  refine (readAscii_fenced _).bind (fun ascii rest done _ => ?_) (fun ascii _ => ?_)
    fun _ _ never => never.elim
  · cases ascii with
    | some item => exact next left (item :: items) rest (length_of_readAscii done)
    | none =>
      obtain rfl := rest_of_readAscii done
      exact brackets.consumed (readBrackets_consumes n) (fun _ rest fewer => next _ _ rest fewer)
        (fun _ => endAlike_readSet verbose n m _ _) fun _ _ never => never.elim
  · cases ascii with
    | some item => exact endAlike_readSet verbose n m _ _
    | none => exact .of_failed (bind_failed (readBrackets_nil n)) (bind_failed (readBrackets_nil m))

theorem readBehindSetOp_fenced (next : SetsFenced verbose n m (c :: s).length) :
    Fenced Never (peekSetOp >>= readBehindSetOp verbose n left items)
      (peekSetOp >>= readBehindSetOp verbose m left items) (c :: s) := by
  refine (peekSetOp_fenced _).bind (fun op rest done _ => ?_) (fun op _ => ?_)
    fun _ _ never => never.elim
  · obtain ⟨rfl, sign⟩ := eq_of_peekSetOp done
    cases op with
    | some op =>
      obtain ⟨c, d, rest, same⟩ := exists_of_setOp? sign.symm
      cases same
      have two : rest <:+ c :: d :: rest := List.suffix_append [c, d] rest
      have fewer : rest.length < (c :: d :: rest).length := by
        simp only [List.length_cons]
        omega
      exact (next _ _ rest fewer).shift two rfl rfl
    | none =>
      exact (readItem_fenced _).consumed readItem_consumes (fun _ rest fewer => next _ _ rest fewer)
        (fun _ => endAlike_readSet verbose n m _ _) fun _ _ h => readSet_of_fence h
  · cases op with
    | some op =>
      have last := endAlike_readSet verbose n m (some (op, closeSet left items)) []
      exact ⟨last.eq, last.leaves⟩
    | none => exact .of_failed rfl rfl

/-- An element may be taken off the fence, but the class does not end there. -/
theorem readBehindSetOp_fence :
    Leaves Never (peekSetOp >>= readBehindSetOp verbose n left items) fence := by
  refine Leaves.of_done (x := none) (t := fence) rfl ?_
  refine (Leaves.of_trims readItem_consumes.trims (List.suffix_refl fence)).bind ?_
  exact fun item rest h => readSet_of_fence h

end Branches

mutual

/-- Reading a class is the same with the fence behind the text, or fails without it and with it. -/
theorem readBrackets_fenced : ∀ (n m : Nat) (c : Char) (s : List Char), 2 * s.length + 2 ≤ n →
    2 * s.length + 2 ≤ m →
      Fenced Never (readBrackets verbose n) (readBrackets verbose m) (c :: s)
  | n + 1, m + 1, c, s, hn, hm => by
    rw [readBrackets, readBrackets]
    refine (readOpening_fenced c s).bind (fun (negated, items) rest done _ => ?_) (fun _ _ => ?_) ?_
    · have shorter := (readOpening_consumes.suffix_tail _ _ _ done).length_le
      rw [List.tail_cons] at shorter
      exact (readSet_fenced n m none items rest (by omega) (by omega)).followed fun _ _ =>
        Fenced.pure _
    · exact .of_failed (bind_failed (readSet_nil _ _ _)) (bind_failed (readSet_nil _ _ _))
    · rintro ⟨negated, items⟩ _ rfl
      exact (readSet_of_fence (List.suffix_refl fence)).bind_never

theorem readSet_fenced : ∀ (n m : Nat) (left : Option (SetOp × ClassSet)) (items : List ClassItem)
    (s : List Char), 2 * s.length + 1 ≤ n → 2 * s.length + 1 ≤ m →
      Fenced Never (readSet verbose n left items) (readSet verbose m left items) s
  | n + 1, m + 1, left, items, s, hn, hm => by
    rw [readSet, readSet]
    refine (skipSpace_fenced s).bind (fun _ t _ suffix => ?_) (fun _ _ => .of_failed rfl rfl)
      fun _ _ never => never.elim
    have shorter := suffix.length_le
    refine Fenced.peekChar_bind (fun c t' h => ?_) fun _ => ?_
    · subst h
      rw [List.length_cons] at shorter
      -- Every element and every sign takes at least one character.
      have next : SetsFenced verbose n m (c :: t').length := fun left items rest fewer => by
        rw [List.length_cons] at fewer
        exact readSet_fenced n m left items rest (by omega) (by omega)
      split
      · exact readBehindAscii_fenced (readBrackets_fenced n m c t' (by omega) (by omega)) next
      split
      · exact Fenced.skip_bind c (Fenced.pure _)
      · exact readBehindSetOp_fenced next
    · rw [if_neg (by decide), if_neg (by decide)]
      exact readBehindSetOp_fence

end

end PathQuery.Pattern
