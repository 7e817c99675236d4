import PathQuery.Proofs.Pattern.Fenced.Class

/-!
# Patterns in front of the frame's end

A pattern is read up to a closing parenthesis or the end of its text. With the fence behind the text, the
parenthesis of the fence is where reading stops if it would have come to the end without it, unless it
comes there in a comment. If something is missing at the end of the text, such as a closing parenthesis of
the pattern itself, the fence can stand in for it; but then the parenthesis of the fence is used up, and
what is left is not enough to close the frame.

## Main results

* `readRepetition_fenced`, `readGroupOpening_fenced`, `readPrimitive_fenced` — the parts.
* `readBranches_fenced` — patterns.
-/

namespace PathQuery.Pattern

open Reader

variable {verbose : Bool} {s : List Char}

/-! ## Repetitions -/

theorem skipWhile_fenced {p : Char → Bool} (hp : p ')' = false) (s : List Char) :
    Fenced Never (skipWhile p) (skipWhile p) s := by
  rcases span_fence p s with ⟨c, rest, alone, -, framed⟩ | ⟨alone, -, framed⟩
  · refine .same (x := ()) (t := c :: rest) ?_ ?_ ?_
    · rw [skipWhile_apply, alone]
    · rw [skipWhile_apply, framed]
    · rw [← alone]
      exact List.dropWhile_suffix p
  · have stays : fence.dropWhile p = fence := List.dropWhile_cons_of_neg (by simp [hp])
    refine .same (x := ()) (t := []) ?_ ?_ (List.nil_suffix)
    · rw [skipWhile_apply, alone]
    · rw [skipWhile_apply, framed, stays, List.nil_append]

theorem readCount_fenced (s : List Char) :
    Fenced Never (readCount verbose) (readCount verbose) s := by
  refine (skipWhile_fenced (by decide) s).followed fun _ s => ?_
  refine (takeSpaced_fenced (by decide) s).followed fun digits s => ?_
  refine (skipWhile_fenced (by decide) s).followed fun _ s => ?_
  refine (skipSpace_fenced s).followed fun _ s => ?_
  split
  · exact Fenced.refuse_refuse
  · exact Fenced.pure _

/-- No number stands at the fence. -/
theorem readCount_fence : Leaves Never (readCount verbose) fence := by
  refine Leaves.of_done (x := ()) (t := fence) (by decide) ?_
  refine Leaves.of_done (takeSpaced_fence (by decide)) ?_
  refine Leaves.of_done (x := ()) (t := fence) (by decide) ?_
  refine Leaves.of_done (x := ()) (t := fence) (by cases verbose <;> rfl) ?_
  rw [if_pos (.inl rfl)]
  exact Leaves.refuse

theorem readCounts_fenced (c : Char) (s : List Char) :
    Fenced AtFence (readCounts verbose) (readCounts verbose) (c :: s) := by
  refine (stepWithin_fenced c s).followedBy ?_ fun _ rest => ?_
  · rintro _ _ rfl
    exact readCount_fence.bind_never
  · refine (readCount_fenced rest).followed fun least rest => ?_
    refine Fenced.peekChar_bind (fun d rest' h => ?_) fun _ => ?_
    · subst h
      split
      · refine (stepWithin_fenced d rest').followedBy ?_ fun _ rest => ?_
        · rintro _ _ rfl
          refine Leaves.of_done peekChar_fence ?_
          rw [if_neg (by decide)]
          exact readCount_fence.bind_never
        · refine Fenced.peekChar_bind (fun e rest' h => ?_) fun _ => ?_
          · split
            · exact Fenced.pure _
            · refine (readCount_fenced _).followed fun most rest => ?_
              split
              · exact Fenced.pure _
              · exact Fenced.refuse_refuse
          · rw [if_neg (by decide)]
            exact readCount_fence.bind_never
      · exact Fenced.pure _
    · rw [if_neg (by decide)]
      exact Leaves.pure rfl

theorem readBraces_fenced (c : Char) (s : List Char) :
    Fenced Never (readBraces verbose) (readBraces verbose) (c :: s) := by
  refine (readCounts_fenced c s).followedBy ?_ fun counts rest => ?_
  · rintro counts _ rfl
    exact Leaves.refuse
  · refine Fenced.peek_bind (fun d rest' h => ?_) fun _ => Fenced.refuse_refuse
    subst h
    split
    · exact (step_fenced d rest').followed fun _ _ => Fenced.pure _
    · exact Fenced.refuse_refuse

theorem skipLazy_fenced {L : Nat × Option Nat → List Char → Prop} (counts : Nat × Option Nat)
    (s : List Char) : Fenced L (skipLazy counts) (skipLazy counts) s := by
  refine Fenced.peek_bind (fun d rest h => ?_) fun _ => Fenced.pure _
  subst h
  split
  · exact Fenced.skip_bind d (Fenced.pure _)
  · exact Fenced.pure _

theorem readRepetition_fenced (sign c : Char) (s : List Char) :
    Fenced Never (readRepetition verbose sign) (readRepetition verbose sign) (c :: s) := by
  rw [readRepetition_eq]
  refine Fenced.followed ?_ fun counts rest => skipLazy_fenced counts rest
  split
  · exact readBraces_fenced c s
  · exact Fenced.skip_bind c (Fenced.pure _)

/-! ## Groups -/

theorem takeWhile_fenced {p : Char → Bool} (hp : p ')' = false) (s : List Char) :
    Fenced Never (takeWhile p) (takeWhile p) s := by
  have split := List.takeWhile_append_dropWhile (p := p) (l := s)
  rcases span_fence p s with ⟨c, rest, alone, run, framed⟩ | ⟨alone, run, framed⟩
  · refine .same (x := s.takeWhile p) (t := c :: rest) ?_ ?_ ?_
    · rw [takeWhile_apply, alone]
    · rw [takeWhile_apply, run, framed]
    · rw [← alone]
      exact List.dropWhile_suffix p
  · have stays : fence.dropWhile p = fence := List.dropWhile_cons_of_neg (by simp [hp])
    have none : fence.takeWhile p = [] := List.takeWhile_cons_of_neg (by simp [hp])
    rw [alone, List.append_nil] at split
    refine .same (x := s) (t := []) ?_ ?_ List.nil_suffix
    · rw [takeWhile_apply, alone, split]
    · rw [takeWhile_apply, run, framed, stays, none, List.append_nil, List.nil_append]

/-- Goes on behind the name of a group. -/
def closeGroupName (name : List Char) : Scan Opening := do
  skip
  if isGroupName name then pure (.group (.named name)) else refuse

theorem closeGroupName_fenced (name : List Char) (c : Char) (s : List Char) :
    Fenced Never (closeGroupName name) (closeGroupName name) (c :: s) := by
  refine Fenced.skip_bind c ?_
  split
  · exact Fenced.pure _
  · exact Fenced.refuse_refuse

/-- A group has no name in the fence, which has no angle bracket. -/
theorem readGroupName_fenced (s : List Char) :
    Fenced Never readGroupName readGroupName s := by
  rcases span_fence (· != '>') s with ⟨c, rest, alone, run, framed⟩ | ⟨alone, -, framed⟩
  · refine (closeGroupName_fenced (s.takeWhile (· != '>')) c rest).shift ?_ ?_ ?_
    · rw [← alone]
      exact List.dropWhile_suffix _
    · rw [readGroupName, bind_done (takeWhile_apply _ _), alone]
      rfl
    · rw [readGroupName, bind_done (takeWhile_apply _ _), run, framed]
      rfl
  · have unclosed : readGroupName s = .failed .malformed [] := by
      rw [readGroupName, bind_done (takeWhile_apply _ _), alone]
      rfl
    have unclosedInFrame : readGroupName (s ++ fence) = .failed .malformed [] := by
      rw [readGroupName, bind_done (takeWhile_apply _ _), framed]
      rfl
    exact .both_failed unclosed unclosedInFrame

/-- The parenthesis of the fence may close a change of flags. -/
theorem readFlags_fenced (s : List Char) : Fenced InFence readFlags readFlags s := by
  refine (takeWhile_fenced (by decide) s).followed fun letters rest => ?_
  refine Fenced.peekChar_bind (fun ends rest' h => ?_) fun _ => ?_
  · subst h
    refine Fenced.skip_bind ends ?_
    split
    · split
      · exact Fenced.pure _
      split
      · exact Fenced.refuse_refuse
      · exact Fenced.pure _
    · exact Fenced.refuse_refuse
  · refine Leaves.of_done (x := ()) (t := ['$']) rfl ?_
    split
    · rw [if_neg (by decide)]
      split
      · exact Leaves.refuse
      · exact Leaves.pure rfl
    · exact Leaves.refuse

theorem isPrefixOf_fence (word : List Char) (h : ')' ∉ word) (s : List Char) :
    word.isPrefixOf (s ++ fence) = word.isPrefixOf s := by
  induction word generalizing s with
  | nil => simp
  | cons c word ih =>
    have first : c ≠ ')' := fun same => h (same ▸ List.mem_cons_self)
    have others : ')' ∉ word := fun mem => h (List.mem_cons_of_mem c mem)
    cases s with
    | nil =>
      have other : (c == ')') = false := beq_eq_false_iff_ne.2 first
      simp [fence, List.isPrefixOf, other]
    | cons d s => rw [List.cons_append, List.isPrefixOf, List.isPrefixOf, ih others]

theorem looksAround_fence (s : List Char) : looksAround (s ++ fence) = looksAround s := by
  simp only [looksAround, List.any_cons, List.any_nil, isPrefixOf_fence ['?', '='] (by decide),
    isPrefixOf_fence ['?', '!'] (by decide), isPrefixOf_fence ['?', '<', '='] (by decide),
    isPrefixOf_fence ['?', '<', '!'] (by decide)]

theorem skipMany_bind {α : Type} {K : α → List Char → Prop} {f : Unit → Scan α} {word : List Char}
    (starts : word.isPrefixOf s = true) (h : ∀ rest, Fenced K (f ()) (f ()) rest) :
    Fenced K (skipMany word.length >>= f) (skipMany word.length >>= f) s := by
  obtain ⟨rest, rfl⟩ := List.isPrefixOf_iff_prefix.1 starts
  refine (h rest).shift (List.suffix_append word rest) ?_ ?_
  · rw [bind_done (skipMany_apply _ _), List.drop_left]
  · rw [bind_done (skipMany_apply _ _), List.append_assoc, List.drop_left]

theorem text_bind {α : Type} {K : α → List Char → Prop} {f : List Char → Scan α}
    (h : Fenced K (f s) (f (s ++ fence)) s) :
    Fenced K ((fun s => .done s s : Scan (List Char)) >>= f)
      ((fun s => .done s s : Scan (List Char)) >>= f) s :=
  h.shift (List.suffix_refl s) rfl rfl

theorem readGroupOpening_fenced (c : Char) (s : List Char) :
    Fenced InFence (readGroupOpening verbose) (readGroupOpening verbose) (c :: s) := by
  refine (step_fenced c s).followed fun _ rest => ?_
  -- What comes next is looked at as a whole, but the fence starts with no sign of an opening.
  refine text_bind ?_
  rw [looksAround_fence, isPrefixOf_fence _ (by decide), isPrefixOf_fence _ (by decide),
    isPrefixOf_fence _ (by decide)]
  split
  · exact Fenced.refuse_refuse
  split
  next starts =>
    exact skipMany_bind starts fun rest => (readGroupName_fenced rest).of_never
  split
  next starts =>
    exact skipMany_bind starts fun rest => (readGroupName_fenced rest).of_never
  split
  next starts =>
    obtain ⟨rest', rfl⟩ := List.isPrefixOf_iff_prefix.1 starts
    exact Fenced.skip_bind '?' (readFlags_fenced rest')
  · exact Fenced.pure _

/-! ## Patterns -/

theorem readPrimitive_fenced (sign c : Char) (s : List Char) :
    Fenced (Astray verbose) (readPrimitive verbose sign) (readPrimitive verbose sign) (c :: s) := by
  unfold readPrimitive
  split
  · exact readEscape_fenced c s
  · exact Fenced.skip_bind c (Fenced.pure _)

/-- A part of the fence is left, but not the parenthesis. -/
def Spent {α : Type} (_ : α) (rest : List Char) : Prop := rest <:+ ['$']

theorem readParts_nil {n : Nat} (hn : n ≠ 0) (verbose : Bool) (parts : List Tree) :
    readParts n verbose parts [] = .done (sequenceOf parts, verbose) [] := by
  obtain ⟨n, rfl⟩ := Nat.exists_eq_succ_of_ne_zero hn
  rw [readParts, skipSpace_bind_nil]
  rfl

theorem readBranches_nil {n : Nat} (hn : 2 ≤ n) (verbose : Bool) :
    readBranches n verbose [] = .done ([.empty], verbose) [] := by
  obtain ⟨n, rfl⟩ : ∃ k, n = k + 1 := ⟨n - 1, by omega⟩
  rw [readBranches, bind_done (readParts_nil (by omega) verbose [])]
  rfl

/-- Counts in braces that the fence would have to close are refused. -/
theorem readParts_openCounts (n : Nat) (parts : List Tree) {x : Tree} {rest : List Char}
    (h : OpensCounts verbose x rest) :
    Leaves Never (readParts n verbose (x :: parts)) rest := by
  obtain ⟨rfl, w, rfl, inside⟩ := h
  cases n with
  | zero => exact Leaves.refuse
  | succ n =>
    have kept : dropSpace verbose ('\x7b' :: w) = '\x7b' :: w := by cases verbose <;> rfl
    have open' : stepWithin verbose ('\x7b' :: w) = .done () fence := by
      show (peekChar >>= fun _ => pure () : Scan Unit) (dropSpace verbose w) = _
      rw [inside]
      rfl
    rw [readParts]
    refine Leaves.of_done (congrArg (Reading.done ()) kept) (Leaves.of_done rfl ?_)
    have counts : Leaves Never (readRepetition verbose '\x7b') ('\x7b' :: w) := by
      rw [readRepetition_eq, if_pos rfl]
      refine Leaves.bind_never (Leaves.bind_never (Leaves.of_done open' ?_))
      exact readCount_fence.bind_never
    exact counts.bind_never

theorem endAlike_readParts {n m : Nat} (hn : n ≠ 0) (hm : m ≠ 0) (verbose : Bool) (parts : List Tree) :
    EndAlike (readParts n verbose parts) (readParts m verbose parts) :=
  .of_done (readParts_nil hn verbose parts) (readParts_nil hm verbose parts)

/-- The fence can at most be used up by the parts of a branch, on texts that are shorter than a bound. -/
def PartsFenced (n m bound : Nat) : Prop :=
  ∀ (verbose : Bool) (parts : List Tree) (s : List Char), s.length < bound →
    Fenced Spent (readParts n verbose parts) (readParts m verbose parts) s

/-- The same of all the branches. -/
def BranchesFenced (n m bound : Nat) : Prop :=
  ∀ (verbose : Bool) (s : List Char), s.length < bound →
    Fenced Spent (readBranches n verbose) (readBranches m verbose) s

/-- Goes on behind the opening of a group. -/
def readBehindOpening (n : Nat) (verbose : Bool) (parts : List Tree) : Opening → Scan (Tree × Bool)
  | .change flags => readParts n (applyVerbose flags verbose) (.flags flags :: parts)
  | .group kind => do
    let inside := match kind with
      | .scoped flags => applyVerbose flags verbose
      | _ => verbose
    let (branches, _) ← readBranches n inside
    readBehindGroup n verbose (.group kind (alternationOf branches) :: parts)

section Groups

variable {n m : Nat} {parts : List Tree} {c : Char}

/-- Behind a group of the pattern comes its parenthesis, and the parts that follow. The parenthesis of the
fence may close it, but then nothing of the pattern is left. -/
theorem readBehindGroup_fenced (next : PartsFenced n m s.length) :
    Fenced Spent (readBehindGroup n verbose parts) (readBehindGroup m verbose parts) s := by
  refine Fenced.peek_bind (fun d rest h => ?_) fun _ => ?_
  · subst h
    split
    · exact Fenced.skip_bind d (next _ _ rest (Nat.lt_succ_self _))
    · exact Fenced.refuse_refuse
  · rw [if_neg (by decide), if_pos rfl]
    refine Fenced.refuse (Leaves.of_done (x := ()) (t := ['$']) rfl ?_)
    exact Leaves.of_trims (readParts_trims m _ _) (List.suffix_refl _)

/-- At the end of the text, a group is not closed. -/
theorem endAlike_readBehindOpening (hn : 2 ≤ n) (hm : 2 ≤ m) (verbose : Bool) (parts : List Tree)
    (opening : Opening) :
    EndAlike (readBehindOpening n verbose parts opening)
      (readBehindOpening m verbose parts opening) := by
  cases opening with
  | change flags => exact endAlike_readParts (by omega) (by omega) _ _
  | group kind =>
    refine .of_failed (e := .malformed) (t := []) ?_ ?_
    · exact (bind_done (readBranches_nil hn _)).trans rfl
    · exact (bind_done (readBranches_nil hm _)).trans rfl

theorem readBehindOpening_trims (n : Nat) (verbose : Bool) (parts : List Tree) (opening : Opening) :
    Trims (readBehindOpening n verbose parts opening) := by
  cases opening with
  | change flags => exact readParts_trims n _ _
  | group kind => exact (readBranches_trims n _).bind fun _ => readBehindGroup_trims n verbose _

theorem readBehindOpening_fenced {opening : Opening} {bound : Nat} (shorter : s.length < bound)
    (inside : BranchesFenced n m bound) (next : PartsFenced n m bound) :
    Fenced Spent (readBehindOpening n verbose parts opening)
      (readBehindOpening m verbose parts opening) s := by
  cases opening with
  | change flags => exact next _ _ s shorter
  | group kind =>
    refine (inside _ s shorter).bind (fun _ rest _ suffix => ?_) (fun _ _ => .of_failed rfl rfl)
      fun _ _ spent => Leaves.of_trims (readBehindGroup_trims m verbose _) spent
    have := suffix.length_le
    exact readBehindGroup_fenced fun verbose parts t fewer => next verbose parts t (by omega)

theorem readGroup_fenced (hn : 2 ≤ n) (hm : 2 ≤ m) (inside : BranchesFenced n m (c :: s).length)
    (next : PartsFenced n m (c :: s).length) :
    Fenced Spent (readGroupOpening verbose >>= readBehindOpening n verbose parts)
      (readGroupOpening verbose >>= readBehindOpening m verbose parts) (c :: s) := by
  refine (readGroupOpening_fenced c s).consumed readGroupOpening_consumes ?_ ?_ ?_
  · exact fun _ rest shorter => readBehindOpening_fenced shorter inside next
  · exact fun opening => endAlike_readBehindOpening hn hm verbose parts opening
  · rintro opening _ rfl
    exact Leaves.of_trims (readBehindOpening_trims m verbose parts opening) (List.suffix_refl _)

end Groups

theorem readOuterBrackets_fenced (c : Char) (s : List Char) :
    Fenced Never (fun s => readBrackets verbose (2 * s.length + 2) s : Scan _)
      (fun s => readBrackets verbose (2 * s.length + 2) s) (c :: s) := by
  have rounds : 2 * s.length + 2 ≤ 2 * (c :: s).length + 2 := by
    rw [List.length_cons]
    omega
  have roundsInFrame : 2 * s.length + 2 ≤ 2 * (c :: s ++ fence).length + 2 := by
    rw [List.length_append, List.length_cons]
    omega
  exact (readBrackets_fenced _ _ c s rounds roundsInFrame).shift (List.suffix_refl _) rfl rfl

mutual

theorem readBranches_fenced : ∀ (n m : Nat) (verbose : Bool) (s : List Char),
    2 * s.length + 2 ≤ n → 2 * s.length + 2 ≤ m →
      Fenced Spent (readBranches n verbose) (readBranches m verbose) s
  | n + 1, m + 1, verbose, s, hn, hm => by
    rw [readBranches, readBranches]
    refine (readParts_fenced n m verbose [] s (by omega) (by omega)).bind
      (fun (first, verbose) rest _ suffix => ?_) (fun _ _ => ?_) fun (first, verbose) rest spent => ?_
    · have shorter := suffix.length_le
      refine Fenced.peek_bind (fun d rest' h => ?_) fun _ => ?_
      · subst h
        rw [List.length_cons] at shorter
        split
        · refine Fenced.skip_bind d ?_
          refine (readBranches_fenced n m verbose rest' (by omega) (by omega)).followedBy ?_ ?_
          · exact fun _ _ spent => Leaves.pure spent
          · exact fun _ _ => Fenced.pure _
        · exact Fenced.pure _
      · exact Fenced.pure _
    · refine ⟨rfl, fun _ _ h => ?_⟩
      cases h
      rfl
    · refine Leaves.of_trims (Trims.bind Trims.peek fun d => ?_) spent
      split
      · exact Trims.bind Trims.skip fun _ => (readBranches_trims m verbose).bind fun _ => Trims.pure _
      · exact Trims.pure _

theorem readParts_fenced : ∀ (n m : Nat) (verbose : Bool) (parts : List Tree) (s : List Char),
    2 * s.length + 1 ≤ n → 2 * s.length + 1 ≤ m →
      Fenced Spent (readParts n verbose parts) (readParts m verbose parts) s
  | n + 1, m + 1, verbose, parts, s, hn, hm => by
    rw [readParts, readParts]
    refine (skipSpace_fenced s).bind (fun _ t _ suffix => ?_) (fun _ _ => .of_done rfl rfl)
      fun _ _ never => never.elim
    have shorter := suffix.length_le
    refine Fenced.peek_bind (fun c t' h => ?_) fun _ => ?_
    · subst h
      rw [List.length_cons] at shorter
      dsimp only
      -- Every part and every opening takes at least one character.
      have inside : BranchesFenced n m (c :: t').length := fun verbose rest fewer => by
        rw [List.length_cons] at fewer
        exact readBranches_fenced n m verbose rest (by omega) (by omega)
      have next : PartsFenced n m (c :: t').length := fun verbose parts rest fewer => by
        rw [List.length_cons] at fewer
        exact readParts_fenced n m verbose parts rest (by omega) (by omega)
      have ended (verbose parts) : EndAlike (readParts n verbose parts) (readParts m verbose parts) :=
        endAlike_readParts (by omega) (by omega) verbose parts
      split
      · exact Fenced.pure _
      split
      · exact readGroup_fenced (by omega) (by omega) inside next
      split
      · exact (readOuterBrackets_fenced c t').consumed readOuterBrackets_consumes
          (fun _ rest fewer => next _ _ rest fewer) (fun _ => ended _ _) fun _ _ never => never.elim
      split
      · cases parts with
        | nil => exact Fenced.refuse_refuse
        | cons body parts =>
          dsimp only
          split
          · exact (readRepetition_fenced c c t').consumed (readRepetition_consumes c)
              (fun _ rest fewer => next _ _ rest fewer) (fun _ => ended _ _) fun _ _ never => never.elim
          · exact Fenced.refuse_refuse
      · refine (readPrimitive_fenced c c t').consumed (readPrimitive_consumes c)
          (fun _ rest fewer => next _ _ rest fewer) (fun _ => ended _ _) ?_
        rintro part rest (rfl | opens)
        · exact Leaves.of_trims (readParts_trims m _ _) (List.suffix_refl _)
        · exact (readParts_openCounts m parts opens).of_never
    · dsimp only
      rw [if_pos (.inr rfl)]
      exact Fenced.pure _

end

end PathQuery.Pattern
