import PathQuery.Proofs.Reader.Run
import PathQuery.Proofs.Text.Bytes

/-!
# Readers that decide early

Two texts that agree up to some place are read alike as long as reading stays away from that place. How far
away depends on how far a reader looks ahead: the readers of paths look at one character, at a sign or at
four digits, which is four bytes at most. So on `u ++ v` and `u ++ w` such a reader either ends where fewer
than four bytes of `u` are left, or it ends alike on both, with a part of `u` left in front of `v` and
of `w`.

White space is the exception. A reader that looks for what comes behind it, without taking it off, has
looked as far as the white space goes. What such a reader leaves is settled only once the white space is
passed over, and the reader behind it must do that first.

## Main definitions

* `Settled` — a reader looks at most four bytes ahead of the place where it ends.
* `SettledBlank` — besides, it may have looked past white space.
* `SkipsBlank` — a reader for which white space in front makes no difference.

## Main results

* `Settled.bind`, `SettledBlank.bind`, `SettledBlank.bindBlank` — sequences.
* `Settled.of_prefix` — what four bytes decide is settled.
-/

namespace PathQuery

namespace Reading

variable {ε α : Type}

/-- The same end, with more text behind what is left. -/
def append (r : Reading ε α) (t : List Char) : Reading ε α :=
  match r with
  | done a rest => done a (rest ++ t)
  | failed e rest => failed e (rest ++ t)

end Reading

namespace Reader

open PathQuery.Path

variable {ε α β : Type}

/-- Two ends of reading, on texts with a common beginning and `v` or `w` behind it, are alike: the same
part of the beginning is left. Or the first of them is near `v`, so that less than four bytes of the
beginning are left. -/
def Agree (v w : List Char) (x y : Reading ε α) : Prop :=
  byteCount x.rest < byteCount v + 4 ∨ ∃ r : Reading ε α, x = r.append v ∧ y = r.append w

/-- On two texts with a common beginning, the reader ends alike, or with less than four bytes of the
beginning left. -/
structure Settled (p : Reader ε α) : Prop where
  trims : Trims p
  agree : ∀ u v w, Agree v w (p (u ++ v)) (p (u ++ w))

/-! ## Sequences -/

/-- What is left of a text that ends near `v` ends near `v`. -/
theorem near_of_suffix {s t v : List Char} (h : s <:+ t) (near : byteCount t < byteCount v + 4) :
    byteCount s < byteCount v + 4 := Nat.lt_of_le_of_lt (byteCount_le_of_suffix h) near

theorem near_of_suffix_end {s v : List Char} (h : s <:+ v) : byteCount s < byteCount v + 4 :=
  near_of_suffix h (Nat.lt_add_of_pos_right (by decide))

theorem Agree.map {v w : List Char} {x y : Reading ε α} (f : α → β) (h : Agree v w x y) :
    Agree v w (x.map f) (y.map f) := by
  rcases h with near | ⟨r, rfl, rfl⟩
  · left
    cases x <;> exact near
  · right
    cases r with
    | done a rest => exact ⟨.done (f a) rest, rfl, rfl⟩
    | failed e rest => exact ⟨.failed e rest, rfl, rfl⟩

namespace Settled

variable {p : Reader ε α} {f : α → Reader ε β}

theorem bind (hp : Settled p) (hf : ∀ a, Settled (f a)) : Settled (p >>= f) where
  trims := hp.trims.bind fun a => (hf a).trims
  agree u v w := by
    rcases hp.agree u v w with near | ⟨r, hv, hw⟩
    · left
      rw [bind_apply]
      cases h : p (u ++ v) with
      | done a rest =>
        rw [h] at near
        exact near_of_suffix ((hf a).trims rest) near
      | failed e rest =>
        rw [h] at near
        exact near
    · rw [bind_apply, bind_apply, hv, hw]
      cases r with
      | done a x => exact (hf a).agree x v w
      | failed e x => exact .inr ⟨.failed e x, rfl, rfl⟩

/-- What is the same whatever stands behind four bytes of a text is settled. -/
theorem of_prefix (trims : Trims p)
    (h : ∀ u, 4 ≤ byteCount u → ∃ r : Reading ε α, ∀ t, p (u ++ t) = r.append t) : Settled p where
  trims := trims
  agree u v w := by
    rcases Nat.lt_or_ge (byteCount u) 4 with short | long
    · left
      apply near_of_suffix (trims _)
      rw [byteCount_append]
      omega
    · obtain ⟨r, hr⟩ := h u long
      exact .inr ⟨r, hr v, hr w⟩

theorem pure (a : α) : Settled (pure a : Reader ε α) :=
  of_prefix (Trims.pure a) fun u _ => ⟨.done a u, fun _ => rfl⟩

theorem fail (e : ε) : Settled (fail e : Reader ε α) :=
  of_prefix (Trims.fail e) fun u _ => ⟨.failed e u, fun _ => rfl⟩

theorem map (f : α → β) (hp : Settled p) : Settled (f <$> p) := hp.bind fun a => pure (f a)

/-! ## Steps -/

/-- Four bytes are a character at least. -/
theorem exists_cons {u : List Char} (h : 4 ≤ byteCount u) : ∃ c t, u = c :: t := by
  cases u with
  | nil => simp [byteCount] at h
  | cons c t => exact ⟨c, t, rfl⟩

theorem peek : Settled (peek : Reader ε _) :=
  of_prefix Trims.peek fun u long => by
    obtain ⟨c, t, rfl⟩ := exists_cons long
    exact ⟨.done (some c) (c :: t), fun _ => rfl⟩

theorem skip : Settled (skip : Reader ε _) :=
  of_prefix Trims.skip fun u long => by
    obtain ⟨c, t, rfl⟩ := exists_cons long
    exact ⟨.done () t, fun _ => rfl⟩

theorem skipMany (n : Nat) : Settled (skipMany n : Reader ε _) where
  trims := Trims.skipMany n
  agree u v w := by
    rcases Nat.lt_or_ge u.length n with short | long
    · left
      apply near_of_suffix_end
      rw [skipMany_apply, List.drop_append, List.drop_of_length_le (Nat.le_of_lt short)]
      exact List.drop_suffix _ v
    · refine .inr ⟨.done () (u.drop n), ?_, ?_⟩ <;>
        rw [skipMany_apply, List.drop_append_of_le_length long] <;> rfl

theorem takeWhile (p : Char → Bool) : Settled (takeWhile p : Reader ε _) where
  trims := Trims.takeWhile p
  agree u v w := by
    cases behind : u.dropWhile p with
    | nil =>
      left
      apply near_of_suffix_end
      rw [takeWhile_apply, List.dropWhile_append, behind]
      exact List.dropWhile_suffix p
    | cons c t =>
      have run (t : List Char) : (u ++ t).dropWhile p = u.dropWhile p ++ t := by
        rw [List.dropWhile_append, behind]
        rfl
      have word (t : List Char) : (u ++ t).takeWhile p = u.takeWhile p := by
        have parts : (u ++ t).takeWhile p ++ (u.dropWhile p ++ t) =
            u.takeWhile p ++ (u.dropWhile p ++ t) := by
          rw [← run, List.takeWhile_append_dropWhile, run, ← List.append_assoc,
            List.takeWhile_append_dropWhile]
        exact List.append_cancel_right parts
      refine .inr ⟨.done (u.takeWhile p) (u.dropWhile p), ?_, ?_⟩ <;>
        rw [takeWhile_apply, run, word] <;> rfl

theorem skipWhile (p : Char → Bool) : Settled (skipWhile p : Reader ε _) :=
  map (fun _ => ()) (takeWhile p)

/-- Whether a text begins with a word of four bytes at most is decided by its first four bytes. -/
theorem isPrefixOf_append {word u : List Char} (h : byteCount word ≤ byteCount u) (t : List Char) :
    word.isPrefixOf (u ++ t) = word.isPrefixOf u := by
  rw [Bool.eq_iff_iff, List.isPrefixOf_iff_prefix, List.isPrefixOf_iff_prefix]
  exact ⟨fun found => prefix_of_byteCount_le found (List.prefix_append u t) h,
    fun found => found.trans (List.prefix_append u t)⟩

theorem lookingAt {word : List Char} (short : byteCount word ≤ 4) :
    Settled (lookingAt word : Reader ε _) :=
  of_prefix (Trims.lookingAt word) fun u long => ⟨.done (word.isPrefixOf u) u, fun t => by
    rw [lookingAt_apply, isPrefixOf_append (Nat.le_trans short long)]
    rfl⟩

end Settled

/-! ## Behind white space -/

open Lexeme
open ReadError (Cause)

/-- The reader and behind it white space. -/
def behindBlank (p : Reader Cause α) : Reader Cause α := do
  let a ← p
  skipBlank
  pure a

/-- What the reader leaves is settled once the white space there is passed over. -/
def SettledBlank (p : Reader Cause α) : Prop := Settled (behindBlank p)

/-- White space in front of a text makes no difference to the reader. -/
def SkipsBlank (p : Reader Cause α) : Prop := ∀ s, p (s.dropWhile isBlank) = p s

section Blank

variable {p : Reader Cause α} {f : α → Reader Cause β}

theorem SkipsBlank.skipBlank (f : Unit → Reader Cause α) : SkipsBlank (skipBlank >>= f) := by
  intro s
  show f () ((s.dropWhile isBlank).dropWhile isBlank) = f () (s.dropWhile isBlank)
  rw [(Stops.of_dropWhile isBlank s).dropWhile]

theorem SkipsBlank.bind (hp : SkipsBlank p) : SkipsBlank (p >>= f) := by
  intro s
  rw [bind_apply, bind_apply, hp s]

/-- A reader for which white space makes no difference may as well stand behind it. -/
theorem behindBlank_bind (hf : ∀ a, SkipsBlank (f a)) : behindBlank p >>= f = p >>= f := by
  funext s
  simp only [behindBlank, bind_apply]
  cases p s with
  | done a rest => exact hf a rest
  | failed e rest => rfl

theorem bind_behindBlank : behindBlank (p >>= f) = p >>= fun a => behindBlank (f a) :=
  bind_assoc p f _

theorem Settled.skipBlank : Settled skipBlank := Settled.skipWhile _

theorem Settled.blank (hp : Settled p) : SettledBlank p :=
  hp.bind fun a => skipBlank.bind fun _ => Settled.pure a

theorem Settled.bindBlank (hp : Settled p) (hf : ∀ a, SettledBlank (f a)) : SettledBlank (p >>= f) := by
  rw [SettledBlank, bind_behindBlank]
  exact hp.bind hf

namespace SettledBlank

theorem bind (hp : SettledBlank p) (skips : ∀ a, SkipsBlank (f a)) (hf : ∀ a, Settled (f a)) :
    Settled (p >>= f) := by
  rw [← behindBlank_bind skips]
  exact Settled.bind hp hf

theorem bindBlank (hp : SettledBlank p) (skips : ∀ a, SkipsBlank (f a))
    (hf : ∀ a, SettledBlank (f a)) : SettledBlank (p >>= f) := by
  rw [SettledBlank, bind_behindBlank]
  exact hp.bind (fun a => (skips a).bind) hf

theorem map (f : α → β) (hp : SettledBlank p) : SettledBlank (f <$> p) := by
  have outside : behindBlank (f <$> p) = f <$> behindBlank p := by
    funext s
    rw [map_apply]
    simp only [behindBlank, bind_apply, map_apply]
    cases p s <;> rfl
  rw [SettledBlank, outside]
  exact Settled.map f hp

end SettledBlank

end Blank

end Reader

end PathQuery
