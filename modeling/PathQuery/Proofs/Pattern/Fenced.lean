import PathQuery.Proofs.Pattern.Trims

/-!
# Readers in front of the frame's end

To test a whole string, a pattern is read inside a group: behind its text come the parenthesis that closes
the group and the sign for the end of the text, the fence. Whether the fence is there makes no difference
to a reader as long as it stays away from it. There are two ways in which it can come to the fence. In a
comment of a verbose pattern it passes over the fence as over everything else, and ends at the end of the
text. Otherwise the text ends where something is missing, so that the reader fails without the fence; with
it, it may go on, but not far: the fence is too short to complete anything but a part of one character.

So three things can happen, and `Fenced` says that one of them does. It composes over sequences of readers.
Where the fence is reached, what is known about the rest of the reading is a condition on the value read and
on the text that is left, which each reader has for itself.

## Main definitions

* `fence` — what the frame puts behind a pattern.
* `Fenced` — what readers make of a text without and with the fence behind it.
* `Leaves` — a condition on what a reader gives and leaves on one text.

## Main results

* `Fenced.bind`, `Fenced.followed` — sequences.
* `readEscape_fenced` — escapes.
-/

namespace PathQuery.Pattern

open Reader

variable {α β : Type} {verbose : Bool} {s t : List Char}

/-- What the frame of a whole match puts behind a pattern. -/
def fence : List Char := [')', '$']

/-- In front of the fence, a text starts as it does by itself, unless the parenthesis of the fence comes
first. -/
theorem starts_of_append_fence {c : Char} (other : c ≠ ')') {rest : List Char}
    (h : s ++ fence = c :: rest) : ∃ rest, s = c :: rest := by
  cases s with
  | nil => exact absurd (List.cons_eq_cons.1 h).1.symm other
  | cons d s => exact ⟨s, by rw [(List.cons_eq_cons.1 h).1]⟩

/-- If the reader gives a value on a text, the condition holds of it and of what is left. -/
def Leaves (L : α → List Char → Prop) (r : Scan α) (s : List Char) : Prop :=
  ∀ x rest, r s = .done x rest → L x rest

/-- What a reader makes of a text, and another one of the text with the fence behind it. -/
inductive Fenced (L : α → List Char → Prop) (r r' : Scan α) (s : List Char) : Prop where
  /-- Both read the same, and the fence is left behind what is left. -/
  | same {x : α} {t : List Char} (alone : r s = .done x t)
    (framed : r' (s ++ fence) = .done x (t ++ fence)) (suffix : t <:+ s)
  /-- Both read the same, and a comment goes on to the end of the text. -/
  | swallowed {x : α} (alone : r s = .done x []) (framed : r' (s ++ fence) = .done x [])
    (comment : '#' ∈ s)
  /-- Without the fence, something is missing. -/
  | failed {e : Malformed} {t : List Char} (alone : r s = .failed e t)
    (framed : Leaves L r' (s ++ fence))

/-- Nothing can be left, as the reader fails. -/
def Never (_ : α) (_ : List Char) : Prop := False

namespace Leaves

variable {L : α → List Char → Prop} {K : β → List Char → Prop} {r : Scan α} {f : α → Scan β}

theorem pure {x : α} (h : L x s) : Leaves L (pure x : Scan α) s := by
  intro y rest hy
  cases hy
  exact h

theorem refuse : Leaves L (refuse : Scan α) s := by
  intro x rest h
  cases h

theorem of_trims (hr : Trims r) (h : s <:+ t) : Leaves (fun _ rest => rest <:+ t) r s :=
  fun _ _ hx => (suffix_of_trims hr hx).trans h

theorem bind (hr : Leaves L r s) (hf : ∀ x rest, L x rest → Leaves K (f x) rest) :
    Leaves K (r >>= f) s := by
  intro y rest h
  rw [bind_apply] at h
  cases first : r s with
  | done x middle =>
    rw [first] at h
    exact hf x middle (hr x middle first) y rest h
  | failed e middle =>
    rw [first] at h
    cases h

/-- A reader that gives a value on the text is followed by the next one. -/
theorem of_done {x : α} (hr : r s = .done x t) (hf : Leaves K (f x) t) :
    Leaves K (r >>= f) s := by
  intro y rest' h
  rw [bind_done hr] at h
  exact hf y rest' h

/-- What the first reader leaves is known to be an end of the text. -/
theorem after_trims (hr : Trims r) (hf : ∀ x rest, rest <:+ s → Leaves K (f x) rest) :
    Leaves K (r >>= f) s :=
  bind (of_trims hr (List.suffix_refl s)) hf

theorem mono {M : α → List Char → Prop} (h : Leaves L r s) (hL : ∀ x rest, L x rest → M x rest) :
    Leaves M r s := fun x rest hx => hL x rest (h x rest hx)

theorem of_never (h : Leaves Never r s) : Leaves L r s := h.mono fun _ _ never => never.elim

/-- Nothing follows a reader that fails. -/
theorem bind_never (h : Leaves Never r s) : Leaves K (r >>= f) s :=
  h.bind fun _ _ never => never.elim

end Leaves

/-- At the end of the text, two readers end in the same way, and leave nothing. -/
structure EndAlike (r r' : Scan α) : Prop where
  eq : r [] = r' []
  leaves : ∀ x rest, r [] = .done x rest → rest = []

theorem EndAlike.of_failed {r r' : Scan α} {e : Malformed} (h : r [] = .failed e t)
    (h' : r' [] = .failed e t) : EndAlike r r' := by
  refine ⟨h.trans h'.symm, fun x left hx => ?_⟩
  rw [h] at hx
  cases hx

theorem EndAlike.of_done {r r' : Scan α} {x : α} (h : r [] = .done x []) (h' : r' [] = .done x []) :
    EndAlike r r' := by
  refine ⟨h.trans h'.symm, fun y left hy => ?_⟩
  rw [h] at hy
  cases hy
  rfl

namespace Fenced

variable {L : α → List Char → Prop} {K : β → List Char → Prop} {r r' r₁ r₁' : Scan α}
  {f g : α → Scan β}

theorem mono {M : α → List Char → Prop} (h : Fenced L r r' s) (hL : ∀ x rest, L x rest → M x rest) :
    Fenced M r r' s := by
  cases h with
  | same alone framed suffix => exact .same alone framed suffix
  | swallowed alone framed comment => exact .swallowed alone framed comment
  | failed alone framed => exact .failed alone fun x rest hx => hL x rest (framed x rest hx)

theorem of_never (h : Fenced Never r r' s) : Fenced L r r' s := h.mono fun _ _ never => never.elim

theorem pure (x : α) : Fenced L (pure x : Scan α) (pure x) s := .same rfl rfl (List.suffix_refl s)

theorem both_failed {e e' : Malformed} {rest rest' : List Char} (alone : r s = .failed e rest)
    (framed : r' (s ++ fence) = .failed e' rest') : Fenced L r r' s := by
  refine .failed alone fun x left h => ?_
  rw [framed] at h
  cases h

theorem refuse {r' : Scan α} (h : Leaves L r' (s ++ fence)) : Fenced L refuse r' s := .failed rfl h

theorem refuse_refuse : Fenced L (Pattern.refuse : Scan α) Pattern.refuse s := refuse Leaves.refuse

/-- Readers that start on an end of the text. -/
theorem shift (h : Fenced L r₁ r₁' t) (suffix : t <:+ s) (alone : r s = r₁ t)
    (framed : r' (s ++ fence) = r₁' (t ++ fence)) : Fenced L r r' s := by
  cases h with
  | same alone' framed' suffix' =>
    exact .same (alone.trans alone') (framed.trans framed') (suffix'.trans suffix)
  | swallowed alone' framed' comment =>
    exact .swallowed (alone.trans alone') (framed.trans framed') (suffix.subset comment)
  | failed alone' framed' =>
    refine .failed (alone.trans alone') fun x rest hx => framed' x rest ?_
    rw [← framed, hx]

/-- A sequence of readers: behind a value, at the end of a text that was swallowed, and beyond the end of
the text. -/
theorem bind (h : Fenced L r r' s)
    (after : ∀ x rest, r s = .done x rest → rest <:+ s → Fenced K (f x) (g x) rest)
    (ended : ∀ x, r s = .done x [] → EndAlike (f x) (g x))
    (beyond : ∀ x rest, L x rest → Leaves K (g x) rest) : Fenced K (r >>= f) (r' >>= g) s := by
  cases h with
  | same alone framed suffix =>
    exact (after _ _ alone suffix).shift suffix (bind_done alone) (bind_done framed)
  | @swallowed x alone framed comment =>
    have same := ended x alone
    have framed' : (r' >>= g) (s ++ fence) = f x [] := (bind_done framed).trans same.eq.symm
    cases result : f x [] with
    | done y rest =>
      obtain rfl := same.leaves y rest result
      rw [result] at framed'
      exact .swallowed ((bind_done alone).trans result) framed' comment
    | failed e rest =>
      rw [result] at framed'
      exact .both_failed ((bind_done alone).trans result) framed'
  | failed alone framed =>
    exact .failed (bind_failed alone) (framed.bind beyond)

/-- A reader in front of the fence leaves nothing if nothing is left. -/
theorem endAlike (h : Fenced L r r' []) : EndAlike r r := by
  refine ⟨rfl, fun x rest hx => ?_⟩
  cases h with
  | same alone _ suffix =>
    cases alone.symm.trans hx
    exact List.suffix_nil.1 suffix
  | swallowed alone =>
    cases alone.symm.trans hx
    rfl
  | failed alone =>
    cases alone.symm.trans hx

/-- A sequence that goes on with the same reader, whatever is left. -/
theorem followedBy (h : Fenced L r r' s) (beyond : ∀ x rest, L x rest → Leaves K (f x) rest)
    (after : ∀ x rest, Fenced K (f x) (f x) rest) : Fenced K (r >>= f) (r' >>= f) s :=
  h.bind (fun x rest _ _ => after x rest) (fun x _ => (after x []).endAlike) beyond

/-- The same behind a reader that never goes on beyond the end of the text. -/
theorem followed (h : Fenced Never r r' s) (after : ∀ x rest, Fenced K (f x) (f x) rest) :
    Fenced K (r >>= f) (r' >>= f) s :=
  h.followedBy (fun _ _ never => never.elim) after

theorem map (g : α → β) (h : Fenced Never r r' s) : Fenced K (g <$> r) (g <$> r') s :=
  h.followed fun x _ => pure (g x)

/-- A sequence behind a reader that takes at least one character off a text which has one. -/
theorem consumed {c : Char} (h : Fenced L r r' (c :: s)) (consumes : Consumes r)
    (next : ∀ x rest, rest.length < (c :: s).length → Fenced K (f x) (g x) rest)
    (ended : ∀ x, EndAlike (f x) (g x)) (beyond : ∀ x rest, L x rest → Leaves K (g x) rest) :
    Fenced K (r >>= f) (r' >>= g) (c :: s) :=
  h.bind (fun x rest done _ => next x rest (consumes.length_lt done (List.cons_ne_nil c s)))
    (fun x _ => ended x) beyond

/-! ## Single steps -/

theorem peekChar_bind {f g : Char → Scan β}
    (ahead : ∀ c rest, s = c :: rest → Fenced K (f c) (g c) s)
    (ended : s = [] → Leaves K (g ')') fence) : Fenced K (peekChar >>= f) (peekChar >>= g) s := by
  cases s with
  | nil => exact .failed rfl (ended rfl)
  | cons c rest => exact (ahead c rest rfl).shift (List.suffix_refl _) rfl rfl

theorem peek_bind {f g : Option Char → Scan β}
    (ahead : ∀ c rest, s = c :: rest → Fenced K (f (some c)) (g (some c)) s)
    (ended : s = [] → Fenced K (f none) (g (some ')')) []) :
    Fenced K (peek >>= f) (peek >>= g) s := by
  cases s with
  | nil => exact (ended rfl).shift (List.suffix_refl _) rfl rfl
  | cons c rest => exact (ahead c rest rfl).shift (List.suffix_refl _) rfl rfl

theorem skip_bind {f g : Unit → Scan β} (c : Char) (h : Fenced K (f ()) (g ()) s) :
    Fenced K (skip >>= f) (skip >>= g) (c :: s) :=
  h.shift (List.suffix_cons c s) rfl rfl

end Fenced

/-! ## White space and comments -/

theorem dropSpaceFrom_fence (inComment : Bool) (s : List Char) :
    dropSpaceFrom inComment (s ++ fence) = dropSpaceFrom inComment s ++ fence ∨
      dropSpaceFrom inComment (s ++ fence) = [] ∧ dropSpaceFrom inComment s = [] ∧
        ('#' ∈ s ∨ inComment = true) := by
  induction s generalizing inComment with
  | nil => cases inComment <;> decide
  | cons c s ih =>
    rw [List.cons_append, dropSpaceFrom, dropSpaceFrom]
    split
    next comment =>
      refine (ih _).imp_right ?_
      rintro ⟨framed, alone, -⟩
      exact ⟨framed, alone, .inr comment⟩
    split
    · refine (ih _).imp_right ?_
      rintro ⟨framed, alone, comment | comment⟩
      · exact ⟨framed, alone, .inl (List.mem_cons_of_mem c comment)⟩
      · cases comment
    split
    next sign =>
      refine (ih _).imp_right ?_
      rintro ⟨framed, alone, -⟩
      exact ⟨framed, alone, .inl (sign ▸ List.mem_cons_self)⟩
    · exact .inl rfl

theorem dropSpace_fence (verbose : Bool) (s : List Char) :
    dropSpace verbose (s ++ fence) = dropSpace verbose s ++ fence ∨
      dropSpace verbose (s ++ fence) = [] ∧ dropSpace verbose s = [] ∧ '#' ∈ s := by
  cases verbose with
  | false => exact .inl rfl
  | true => simpa [dropSpace] using dropSpaceFrom_fence false s

theorem skipSpace_fenced (s : List Char) : Fenced Never (skipSpace verbose) (skipSpace verbose) s := by
  rcases dropSpace_fence verbose s with same | ⟨framed, alone, comment⟩
  · exact .same rfl (congrArg (Reading.done ()) same) (dropSpace_suffix verbose s)
  · exact .swallowed (congrArg (Reading.done ()) alone) (congrArg (Reading.done ()) framed) comment

theorem step_fenced (c : Char) (s : List Char) : Fenced Never (step verbose) (step verbose) (c :: s) :=
  (skipSpace_fenced s).shift (List.suffix_cons c s) rfl rfl

/-- Nothing but the fence is left where a text ends and the fence follows. -/
def AtFence (_ : α) (rest : List Char) : Prop := rest = fence

/-- Only the sign behind the parenthesis is left of the fence. -/
def InFence (_ : α) (rest : List Char) : Prop := rest = ['$']

theorem stepWithin_fenced (c : Char) (s : List Char) :
    Fenced AtFence (stepWithin verbose) (stepWithin verbose) (c :: s) := by
  refine (step_fenced c s).followed fun _ rest => ?_
  exact Fenced.peekChar_bind (fun _ _ _ => Fenced.pure _) fun _ => Leaves.pure rfl

theorem skipSpace_bind_nil (f : Unit → Scan β) : (skipSpace verbose >>= f) [] = f () [] := by
  cases verbose <;> rfl

/-! ## Runs of characters -/

/-- The longest run of characters of a class, and what is left behind it: both are the same in front of
the fence, or all of the text belongs to the run. -/
theorem span_fence (p : Char → Bool) (s : List Char) :
    (∃ c rest, s.dropWhile p = c :: rest ∧ (s ++ fence).takeWhile p = s.takeWhile p ∧
      (s ++ fence).dropWhile p = c :: rest ++ fence) ∨
    s.dropWhile p = [] ∧ (s ++ fence).takeWhile p = s ++ fence.takeWhile p ∧
      (s ++ fence).dropWhile p = fence.dropWhile p := by
  induction s with
  | nil => exact .inr ⟨rfl, rfl, rfl⟩
  | cons c s ih =>
    by_cases h : p c = true
    · simpa [List.takeWhile_cons, List.dropWhile_cons, h] using ih
    · exact .inl ⟨c, s, by simp [h], by simp [h], by simp [h]⟩

theorem dropSpace_dollar (verbose : Bool) : dropSpace verbose ['$'] = ['$'] := by
  cases verbose <;> decide

theorem length_dropSpace_le (verbose : Bool) (s : List Char) :
    (dropSpace verbose s).length ≤ s.length := (dropSpace_suffix verbose s).length_le

/-- A run of characters ends at the fence, if the parenthesis does not belong to it. -/
theorem spacedRun_fence (verbose : Bool) {p : Char → Bool} (hp : p ')' = false) {n m : Nat}
    {s : List Char} (hn : s.length ≤ n) (hm : s.length ≤ m) :
    (∃ run rest, spacedRun verbose p n s = (run, rest) ∧
      spacedRun verbose p m (s ++ fence) = (run, rest ++ fence)) ∨
    ∃ run, spacedRun verbose p n s = (run, []) ∧ spacedRun verbose p m (s ++ fence) = (run, []) ∧
      '#' ∈ s := by
  induction n generalizing m s with
  | zero =>
    obtain rfl := List.length_eq_zero_iff.1 (Nat.le_zero.1 hn)
    refine .inl ⟨[], [], rfl, ?_⟩
    cases m <;> simp [spacedRun, fence, hp]
  | succ n ih =>
    cases s with
    | nil =>
      refine .inl ⟨[], [], rfl, ?_⟩
      cases m <;> simp [spacedRun, fence, hp]
    | cons c s =>
      rw [List.length_cons] at hn hm
      obtain ⟨m, rfl⟩ : ∃ k, m = k + 1 := ⟨m - 1, by omega⟩
      rw [List.cons_append, spacedRun, spacedRun]
      split
      · have shorter := length_dropSpace_le verbose s
        rcases dropSpace_fence verbose s with same | ⟨framed, alone, comment⟩
        · rw [same]
          rcases ih (m := m) (s := dropSpace verbose s) (by omega) (by omega) with
            ⟨run, rest, alone, framed⟩ | ⟨run, alone, framed, comment⟩
          · exact .inl ⟨c :: run, rest, by rw [alone], by rw [framed]⟩
          · refine .inr ⟨c :: run, by rw [alone], by rw [framed], ?_⟩
            exact List.mem_cons_of_mem c ((dropSpace_suffix verbose s).subset comment)
        · rw [framed, alone]
          refine .inr ⟨[c], ?_, ?_, List.mem_cons_of_mem c comment⟩
          · cases n <;> rfl
          · cases m <;> rfl
      · exact .inl ⟨[], c :: s, rfl, rfl⟩

theorem takeSpaced_fenced {p : Char → Bool} (hp : p ')' = false) (s : List Char) :
    Fenced Never (takeSpaced verbose p) (takeSpaced verbose p) s := by
  have longer : s.length ≤ (s ++ fence).length := by simp
  have suffix := spacedRun_suffix verbose p s.length s
  rcases spacedRun_fence verbose hp (Nat.le_refl _) longer with
    ⟨run, rest, alone, framed⟩ | ⟨run, alone, framed, comment⟩
  · rw [alone] at suffix
    refine .same (x := run) (t := rest) ?_ ?_ suffix
    · rw [takeSpaced, alone]
    · rw [takeSpaced, framed]
  · refine .swallowed (x := run) ?_ ?_ comment
    · rw [takeSpaced, alone]
    · rw [takeSpaced, framed]

/-- A run of characters goes on through the fence, if both its signs belong to it, unless it ends
before. -/
theorem spacedRun_through (verbose : Bool) {p : Char → Bool} (hp : p ')' = true) (hp' : p '$' = true)
    {n m : Nat} {s : List Char} (hn : s.length ≤ n) (hm : s.length + 2 ≤ m) :
    (∃ run c rest, spacedRun verbose p n s = (run, c :: rest) ∧
      spacedRun verbose p m (s ++ fence) = (run, c :: rest ++ fence)) ∨
    ∃ run run', spacedRun verbose p n s = (run, []) ∧
      spacedRun verbose p m (s ++ fence) = (run', []) := by
  have through {m : Nat} (hm : 2 ≤ m) : spacedRun verbose p m fence = (fence, []) := by
    obtain ⟨m, rfl⟩ : ∃ k, m = k + 2 := ⟨m - 2, by omega⟩
    have none : dropSpace verbose [] = [] := by cases verbose <;> rfl
    simp only [fence, spacedRun, hp, hp', if_true, dropSpace_dollar, none]
  induction n generalizing m s with
  | zero =>
    obtain rfl := List.length_eq_zero_iff.1 (Nat.le_zero.1 hn)
    exact .inr ⟨[], fence, rfl, through (by simpa using hm)⟩
  | succ n ih =>
    cases s with
    | nil => exact .inr ⟨[], fence, rfl, through (by simpa using hm)⟩
    | cons c s =>
      rw [List.length_cons] at hn hm
      obtain ⟨m, rfl⟩ : ∃ k, m = k + 1 := ⟨m - 1, by omega⟩
      rw [List.cons_append, spacedRun, spacedRun]
      split
      · have shorter := length_dropSpace_le verbose s
        rcases dropSpace_fence verbose s with same | ⟨framed, alone, -⟩
        · rw [same]
          rcases ih (m := m) (s := dropSpace verbose s) (by omega) (by omega) with
            ⟨run, d, rest, alone, framed⟩ | ⟨run, run', alone, framed⟩
          · exact .inl ⟨c :: run, d, rest, by rw [alone], by rw [framed]⟩
          · exact .inr ⟨c :: run, c :: run', by rw [alone], by rw [framed]⟩
        · rw [framed, alone]
          refine .inr ⟨[c], [c], ?_, ?_⟩
          · cases n <;> rfl
          · cases m <;> rfl
      · exact .inl ⟨[], c, s, rfl, rfl⟩

/-- A run that may go on through the fence, and a character that must stand behind it. -/
theorem takeSpaced_peekChar_fenced {p : Char → Bool} (hp : p ')' = true) (hp' : p '$' = true)
    {K : β → List Char → Prop} {f : List Char → Char → Scan β} (s : List Char)
    (after : ∀ run c rest, Fenced K (f run c) (f run c) (c :: rest)) :
    Fenced K (takeSpaced verbose p >>= fun run => peekChar >>= f run)
      (takeSpaced verbose p >>= fun run => peekChar >>= f run) s := by
  have longer : s.length + 2 ≤ (s ++ fence).length := by simp [fence]
  have suffix := spacedRun_suffix verbose p s.length s
  have read (s run rest : List Char) (h : spacedRun verbose p s.length s = (run, rest)) :
      takeSpaced verbose p s = .done run rest := by rw [takeSpaced, h]
  rcases spacedRun_through verbose hp hp' (Nat.le_refl _) longer with
    ⟨run, c, rest, alone, framed⟩ | ⟨run, run', alone, framed⟩
  · rw [alone] at suffix
    refine (after run c rest).shift suffix ?_ ?_
    · rw [bind_done (read _ _ _ alone)]
      rfl
    · rw [bind_done (read _ _ _ framed)]
      rfl
  · refine .failed (e := .malformed) (t := []) ?_ ?_
    · rw [bind_done (read _ _ _ alone)]
      rfl
    · refine Leaves.of_done (read _ _ _ framed) fun x rest h => ?_
      cases h

/-! ## Escapes -/

theorem readHexDigits_fenced (n : Nat) (s : List Char) :
    Fenced Never (readHexDigits verbose n) (readHexDigits verbose n) s := by
  induction n generalizing s with
  | zero => exact Fenced.pure _
  | succ n ih =>
    rw [readHexDigits]
    refine Fenced.peekChar_bind ?_ fun _ => ?_
    · rintro c rest rfl
      split
      · exact (step_fenced c rest).followed fun _ rest' => (ih rest').map _
      · exact Fenced.refuse_refuse
    · rw [if_neg (by decide)]
      exact Leaves.refuse

theorem peekChar_fence : peekChar fence = .done ')' fence := rfl

theorem takeSpaced_fence {p : Char → Bool} (hp : p ')' = false) :
    takeSpaced verbose p fence = .done [] fence := by
  simp [takeSpaced, spacedRun, fence, hp]

theorem takeSpaced_fence_through {p : Char → Bool} (hp : p ')' = true) (hp' : p '$' = true) :
    takeSpaced verbose p fence = .done fence [] := by
  have none : dropSpace verbose [] = [] := by cases verbose <;> rfl
  simp [takeSpaced, spacedRun, fence, hp, hp', dropSpace_dollar, none]

theorem charOfHex_fenced (digits : List Char) (s : List Char) :
    Fenced Never (charOfHex digits) (charOfHex digits) s := by
  unfold charOfHex
  split
  · exact Fenced.pure _
  · exact Fenced.refuse_refuse

theorem readHex_fenced (letter c : Char) (s : List Char) :
    Fenced Never (readHex verbose letter) (readHex verbose letter) (c :: s) := by
  have count : (if letter = 'x' then 2 else if letter = 'u' then 4 else 8) ≠ 0 := by
    split
    · decide
    · split <;> decide
  unfold readHex
  generalize (if letter = 'x' then 2 else if letter = 'u' then 4 else 8) = n at count
  obtain ⟨n, rfl⟩ := Nat.exists_eq_succ_of_ne_zero count
  -- A digit must come next, and none does where the text ends.
  have digits {β : Type} {K : β → List Char → Prop} {f : List Char → Scan β} :
      Leaves K (readHexDigits verbose (n + 1) >>= f) fence := by
    refine Leaves.bind_never (Leaves.of_done peekChar_fence ?_)
    rw [if_neg (by decide)]
    exact Leaves.refuse
  refine (stepWithin_fenced c s).followedBy ?_ ?_
  · rintro _ _ rfl
    exact Leaves.of_done peekChar_fence digits
  · intro _ rest
    refine Fenced.peekChar_bind ?_ fun _ => digits
    rintro d rest rfl
    split
    · refine (stepWithin_fenced d rest).followedBy ?_ ?_
      · rintro _ _ rfl
        refine Leaves.of_done (takeSpaced_fence (by decide)) (Leaves.of_done peekChar_fence ?_)
        rw [if_neg (by decide)]
        exact Leaves.refuse
      · intro _ rest
        refine (takeSpaced_fenced (by decide) rest).followed fun digits rest => ?_
        refine Fenced.peekChar_bind ?_ fun _ => ?_
        · rintro e rest rfl
          split
          · exact (step_fenced e rest).followed fun _ rest => (charOfHex_fenced digits rest).map _
          · exact Fenced.refuse_refuse
        · rw [if_neg fun h => absurd h.1 (by decide)]
          exact Leaves.refuse
    · exact (readHexDigits_fenced _ _).followed fun digits rest =>
        (charOfHex_fenced digits rest).map _

theorem readProperty_fenced (letter c : Char) (s : List Char) :
    Fenced InFence (readProperty verbose letter) (readProperty verbose letter) (c :: s) := by
  refine (stepWithin_fenced c s).followedBy ?_ ?_
  · -- The parenthesis is taken for a property of one letter.
    rintro _ _ rfl
    refine Leaves.of_done peekChar_fence ?_
    rw [if_neg (by decide), if_neg (by decide)]
    exact Leaves.of_done rfl (Leaves.pure (dropSpace_dollar verbose))
  · intro _ rest
    refine Fenced.peekChar_bind ?_ fun _ => ?_
    · rintro d rest rfl
      split
      · refine (stepWithin_fenced d rest).followedBy ?_ ?_
        · rintro _ _ rfl
          refine Leaves.of_done (takeSpaced_fence_through (by decide) (by decide)) fun _ _ h => ?_
          cases h
        · intro _ rest
          refine takeSpaced_peekChar_fenced (by decide) (by decide) rest fun text e rest => ?_
          exact Fenced.skip_bind e (Fenced.pure _)
      split
      · exact Fenced.refuse_refuse
      · exact (step_fenced d rest).followed fun _ _ => Fenced.pure _
    · rw [if_neg (by decide), if_neg (by decide)]
      exact Leaves.of_done rfl (Leaves.pure (dropSpace_dollar verbose))

/-! ## Word boundaries -/

/-- Whether a character belongs to the name of a word boundary. -/
def isBoundaryChar (c : Char) : Bool := c.isAlpha || c == '-'

/-- What is read of a word boundary whose braces hold a run of characters and what follows it. -/
def closeBoundary (s : List Char) (run : List Char × List Char) : Reading Malformed Tree :=
  match run.2, wordAssertion? run.1 with
  | '\x7d' :: rest, some a => .done (.assertion a) rest
  | _, _ => .failed .malformed s

section Boundaries

variable {rest behind : List Char} {c : Char}

theorem readWordBoundary_plain (h : ∀ rest, s ≠ '\x7b' :: rest) :
    readWordBoundary verbose s = .done (.assertion .wordBoundary) s :=
  readWordBoundary.eq_2 verbose s h

theorem readWordBoundary_empty (inside : dropSpace verbose rest = []) :
    readWordBoundary verbose ('\x7b' :: rest) = .failed .malformed ('\x7b' :: rest) := by
  rw [readWordBoundary.eq_1, inside]

theorem readWordBoundary_counts (inside : dropSpace verbose rest = c :: behind)
    (other : isBoundaryChar c = false) :
    readWordBoundary verbose ('\x7b' :: rest) =
      .done (.assertion .wordBoundary) ('\x7b' :: rest) := by
  rw [readWordBoundary.eq_1, inside]
  exact if_neg (Bool.eq_false_iff.1 other)

theorem readWordBoundary_named (inside : dropSpace verbose rest = c :: behind)
    (named : isBoundaryChar c = true) :
    readWordBoundary verbose ('\x7b' :: rest) =
      closeBoundary ('\x7b' :: rest)
        (spacedRun verbose isBoundaryChar (c :: behind).length (c :: behind)) := by
  rw [readWordBoundary.eq_1, inside]
  exact if_pos named

theorem closeBoundary_open (s name : List Char) (open' : ∀ rest, behind ≠ '\x7d' :: rest) :
    closeBoundary s (name, behind) = .failed .malformed s := by
  unfold closeBoundary
  split
  next rest _ same _ => exact absurd same (open' rest)
  · rfl

/-- Braces with a name are closed by a brace, or not at all. -/
theorem closeBoundary_fence (s t name behind : List Char) :
    (∃ a rest, closeBoundary s (name, behind) = .done (.assertion a) rest ∧
      closeBoundary t (name, behind ++ fence) = .done (.assertion a) (rest ++ fence)) ∨
    closeBoundary s (name, behind) = .failed .malformed s ∧
      closeBoundary t (name, behind ++ fence) = .failed .malformed t := by
  by_cases close : ∃ rest, behind = '\x7d' :: rest
  · obtain ⟨rest, rfl⟩ := close
    simp only [closeBoundary, List.cons_append]
    cases wordAssertion? name with
    | none => exact .inr ⟨rfl, rfl⟩
    | some a => exact .inl ⟨a, rest, rfl, rfl⟩
  · exact .inr ⟨closeBoundary_open s name fun rest same => close ⟨rest, same⟩,
      closeBoundary_open t name fun _ same => close (starts_of_append_fence (by decide) same)⟩

end Boundaries

/-- A condition on word boundaries that leaves counts in braces which the fence would have to close. -/
def OpensCounts (verbose : Bool) (x : Tree) (rest : List Char) : Prop :=
  x = .assertion .wordBoundary ∧ ∃ w, rest = '\x7b' :: w ∧ dropSpace verbose w = fence

/-- The braces of a word boundary whose name has begun are closed by the text or not at all. -/
theorem readWordBoundary_named_fenced {c : Char} {rest behind : List Char}
    (inside : dropSpace verbose rest = c :: behind)
    (inside' : dropSpace verbose (rest ++ fence) = c :: (behind ++ fence))
    (named : isBoundaryChar c = true) :
    Fenced (OpensCounts verbose) (readWordBoundary verbose) (readWordBoundary verbose)
      ('\x7b' :: rest) := by
  have alone := readWordBoundary_named inside named
  have framed := readWordBoundary_named inside' named
  have longer : (c :: behind).length ≤ (c :: (behind ++ fence)).length := by simp
  rcases spacedRun_fence verbose (p := isBoundaryChar) (by decide) (Nat.le_refl _) longer with
    ⟨name, left, run, run'⟩ | ⟨name, run, run', -⟩
  · rw [run] at alone
    rw [List.cons_append] at run'
    rw [run'] at framed
    rcases closeBoundary_fence ('\x7b' :: rest) ('\x7b' :: (rest ++ fence)) name left with
      ⟨a, left, closed, closed'⟩ | ⟨unclosed, unclosed'⟩
    · have done := alone.trans closed
      exact .same done (framed.trans closed') (suffix_of_trims readWordBoundary_trims done)
    · exact .both_failed (alone.trans unclosed) (framed.trans unclosed')
  · rw [run] at alone
    rw [List.cons_append] at run'
    rw [run'] at framed
    refine .both_failed (alone.trans (closeBoundary_open _ name ?_))
      (framed.trans (closeBoundary_open _ name ?_))
    · exact fun _ same => by cases same
    · exact fun _ same => by cases same

theorem readWordBoundary_fenced (s : List Char) :
    Fenced (OpensCounts verbose) (readWordBoundary verbose) (readWordBoundary verbose) s := by
  by_cases brace : ∃ rest, s = '\x7b' :: rest
  · obtain ⟨rest, rfl⟩ := brace
    rcases dropSpace_fence verbose rest with same | ⟨lost, none, -⟩
    · cases inside : dropSpace verbose rest with
      | nil =>
        -- The parenthesis is no name, so these are no braces of a word boundary.
        rw [inside, List.nil_append] at same
        refine .failed (readWordBoundary_empty inside) fun x left h => ?_
        rw [List.cons_append, readWordBoundary_counts same (by decide)] at h
        cases h
        exact ⟨rfl, rest ++ fence, rfl, same⟩
      | cons c behind =>
        rw [inside] at same
        cases named : isBoundaryChar c with
        | true => exact readWordBoundary_named_fenced inside same named
        | false =>
          exact .same (readWordBoundary_counts inside named) (readWordBoundary_counts same named)
            (List.suffix_refl _)
    · exact .both_failed (readWordBoundary_empty none) (readWordBoundary_empty lost)
  · exact .same (readWordBoundary_plain fun rest h => brace ⟨rest, h⟩)
      (readWordBoundary_plain fun _ h => brace (starts_of_append_fence (by decide) h))
      (List.suffix_refl s)

/-- What can be left when a part of a pattern is read where the text ends. -/
def Astray (verbose : Bool) (x : Tree) (rest : List Char) : Prop :=
  rest = ['$'] ∨ OpensCounts verbose x rest

theorem readEscape_fenced (c : Char) (s : List Char) :
    Fenced (Astray verbose) (readEscape verbose) (readEscape verbose) (c :: s) := by
  refine Fenced.skip_bind c (Fenced.peekChar_bind ?_ fun _ => ?_)
  · rintro d rest rfl
    split
    · exact (readHex_fenced d d rest).map _
    split
    · exact (readProperty_fenced d d rest).mono fun _ _ h => .inl h
    split
    · exact Fenced.skip_bind d ((readWordBoundary_fenced rest).mono fun _ _ h => .inr h)
    split
    · exact Fenced.skip_bind d (Fenced.pure _)
    split
    · exact Fenced.skip_bind d (Fenced.pure _)
    · exact Fenced.refuse_refuse
  · rw [if_neg (by decide), if_neg (by decide), if_neg (by decide), if_pos (by decide)]
    exact Leaves.of_done rfl (Leaves.pure (.inl rfl))

end PathQuery.Pattern
