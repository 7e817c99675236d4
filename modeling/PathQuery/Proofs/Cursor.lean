import PathQuery.Cursor
import PathQuery.Proofs.Reader.Run
import PathQuery.Proofs.Text.Bytes

/-!
# Cursors that follow readers

A cursor follows a reader on a text if, wherever the text stands behind another one, the cursor has an
outcome there, ends in the same way and stops in front of the characters that the reader leaves. The
position is then always one between two characters of the text, and every slice on the way was there.

A loop takes turns as long as they ask for another. One whose turns follow readers that are left with
less text whenever they do so goes forward with each turn.

## Main definitions

* `Cursor.Follows` — a cursor follows a reader on a text.
* `Cursor.Advances` — every turn of a loop that is not the last moves the position on.

## Main results

* `splitBytes?_eq_some_iff` — which slices are there.
* `Follows.bind`, `Follows.taken_bind` — sequences.
* `advanceWhile_follows` — runs of characters.
-/

namespace PathQuery

open PathQuery.Path (byteCount byteCount_append)

/-! ## Slices -/

section Slices

variable {s : List Char} {n : Nat}

theorem splitBytes?_append (a b : List Char) : splitBytes? (a ++ b) (byteCount a) = some (a, b) := by
  induction a with
  | nil => cases b <;> rfl
  | cons c a ih =>
    have size := c.utf8Size_pos
    obtain ⟨k, hk⟩ : ∃ k, byteCount (c :: a) = k + 1 := ⟨byteCount (c :: a) - 1, by
      simp only [byteCount]
      omega⟩
    have inside : c.utf8Size ≤ k + 1 := by
      rw [← hk]
      exact Nat.le_add_right _ _
    have behind : k + 1 - c.utf8Size = byteCount a := by
      rw [← hk]
      exact Nat.add_sub_cancel_left _ _
    rw [hk, List.cons_append, splitBytes?, if_pos inside, behind, ih]
    rfl

theorem splitBytes?_eq_some_iff {a b : List Char} :
    splitBytes? s n = some (a, b) ↔ s = a ++ b ∧ byteCount a = n := by
  constructor
  · intro h
    induction s, n using splitBytes?.induct generalizing a with
    | case1 s =>
      cases s <;> cases h <;> exact ⟨rfl, rfl⟩
    | case2 n => cases h
    | case3 c s n inside ih =>
      rw [splitBytes?, if_pos inside, Option.map_eq_some_iff] at h
      obtain ⟨⟨a, b⟩, inner, h⟩ := h
      cases h
      obtain ⟨rfl, size⟩ := ih inner
      refine ⟨rfl, ?_⟩
      rw [byteCount, size]
      omega
    | case4 c s n outside =>
      rw [splitBytes?, if_neg outside] at h
      cases h
  · rintro ⟨rfl, rfl⟩
    exact splitBytes?_append a b

theorem slice?_append (a b c : List Char) :
    slice? (a ++ (b ++ c)) (byteCount a) (byteCount (a ++ b)) = some b := by
  have behind : byteCount (a ++ b) - byteCount a = byteCount b := by
    rw [byteCount_append, Nat.add_sub_cancel_left]
  rw [slice?, if_pos (byteCount_append a b ▸ Nat.le_add_right _ _), splitBytes?_append, behind]
  simp [splitBytes?_append]

end Slices

/-! ## Following a reader -/

/-- The way in which a reader of the end of a text ended, with the position of what it left. -/
def Reading.outcome {ε α : Type} (text : List Char) : Reading ε α → Except ε α × Nat
  | .done a rest => (.ok a, byteCount text - byteCount rest)
  | .failed e rest => (.error e, byteCount text - byteCount rest)

/-- What a loop does behind a turn. -/
def Turn.elim {σ α β : Type} (again : σ → β) (leave : α → β) : Turn σ α → β
  | .again state => again state
  | .leave a => leave a

namespace Cursor

variable {ε α β σ : Type}

theorem bind_apply (c : Cursor ε α) (f : α → Cursor ε β) (input : Input) (pos : Nat) :
    (c >>= f) input pos = (c input pos).bind fun
      | (.ok a, pos) => f a input pos
      | (.error e, pos) => some (.error e, pos) := by
  show (c input pos).bind _ = _
  congr 1
  funext ⟨r, pos⟩
  cases r <;> rfl

/-- The cursor ends as the reader does, wherever the text stands, if the bound is above its length. -/
structure Follows (c : Cursor ε α) (r : Reader ε α) (s : List Char) : Prop where
  suffix : (r s).rest <:+ s
  eq : ∀ front bound, s.length < bound →
    c ⟨front ++ s, bound⟩ (byteCount front) = some ((r s).outcome (front ++ s))

theorem Follows.congr {c c' : Cursor ε α} {r r' : Reader ε α} {s : List Char} (h : Follows c r s)
    (hc : c' = c) (hr : r' s = r s) : Follows c' r' s := by
  subst hc
  exact ⟨hr ▸ h.suffix, fun front bound short => hr ▸ h.eq front bound short⟩

/-- The position in front of what a reader leaves. -/
theorem byteCount_front (front taken rest : List Char) :
    byteCount (front ++ (taken ++ rest)) - byteCount rest = byteCount (front ++ taken) := by
  simp only [byteCount_append]
  omega

/-- The outcome of a reader that consumes nothing. -/
theorem outcome_done_here (front s : List Char) (a : α) :
    (Reading.done a s : Reading ε α).outcome (front ++ s) = (.ok a, byteCount front) := by
  simp [Reading.outcome]

/-! ### Sequences -/

section Sequences

variable {c : Cursor ε α} {r : Reader ε α} {s : List Char} {γ : Type}

theorem Follows.pure (a : α) (s : List Char) : Follows (pure a : Cursor ε α) (pure a) s :=
  ⟨List.suffix_refl s, fun front _ _ => congrArg some (outcome_done_here front s a).symm⟩

theorem Follows.fail (e : ε) (s : List Char) : Follows (fail e : Cursor ε α) (Reader.fail e) s :=
  ⟨List.suffix_refl s, fun front _ _ => by simp [Cursor.fail, Reading.outcome]⟩

/-- The cursor may keep less than the reader of what was read first. -/
theorem Follows.bind_of_map {v : α → γ} {c : Cursor ε γ} {f : γ → Cursor ε β} {g : α → Reader ε β}
    (h : Follows c (v <$> r) s)
    (hf : ∀ a rest, r s = .done a rest → rest <:+ s → Follows (f (v a)) (g a) rest) :
    Follows (c >>= f) (r >>= g) s := by
  obtain ⟨suffix, eq⟩ := h
  simp only [Reader.map_apply] at suffix eq
  cases hr : r s with
  | done a rest =>
    rw [hr] at suffix eq
    have behind := hf a rest hr suffix
    refine ⟨by
      rw [Reader.bind_done hr]
      exact behind.suffix.trans suffix, fun front bound short => ?_⟩
    have shorter := Nat.lt_of_le_of_lt suffix.length_le short
    obtain ⟨taken, rfl⟩ : ∃ taken, taken ++ rest = s := suffix
    rw [bind_apply, eq front bound short, Reader.bind_done hr]
    simp only [Reading.map, Reading.outcome, Option.bind_some, byteCount_front]
    rw [← List.append_assoc]
    exact behind.eq (front ++ taken) bound shorter
  | failed e rest =>
    rw [hr] at suffix eq
    refine ⟨by
      rw [Reader.bind_failed hr]
      exact suffix, fun front bound short => ?_⟩
    rw [bind_apply, eq front bound short, Reader.bind_failed hr]
    rfl

theorem Follows.bind {f : α → Cursor ε β} {g : α → Reader ε β} (h : Follows c r s)
    (hf : ∀ a rest, r s = .done a rest → rest <:+ s → Follows (f a) (g a) rest) :
    Follows (c >>= f) (r >>= g) s :=
  Follows.bind_of_map (v := id) (h.congr rfl (Reader.id_map_apply r s)) hf

theorem Follows.map (f : α → β) (h : Follows c r s) : Follows (f <$> c) (f <$> r) s := by
  rw [← bind_pure_comp, ← bind_pure_comp]
  exact h.bind fun a rest _ _ => Follows.pure (f a) rest

/-- What stands behind a cursor runs from where the reader has stopped. -/
theorem Follows.bind_apply_of_done {a : α} {rest : List Char} (h : Follows c r s)
    (done : r s = .done a rest) (front : List Char) {bound : Nat} (short : s.length < bound) :
    ∃ front', front ++ s = front' ++ rest ∧ ∀ f : α → Cursor ε β,
      (c >>= f) ⟨front ++ s, bound⟩ (byteCount front) = f a ⟨front ++ s, bound⟩ (byteCount front') := by
  obtain ⟨suffix, eq⟩ := h
  rw [done] at suffix eq
  obtain ⟨cut, rfl⟩ : ∃ cut, cut ++ rest = s := suffix
  refine ⟨front ++ cut, (List.append_assoc front cut rest).symm, fun f => ?_⟩
  rw [bind_apply, eq front bound short]
  simp only [Reading.outcome, Option.bind_some, byteCount_front]

/-- Only the kind of the value is dropped. -/
theorem Follows.seq {c : Cursor ε Unit} {c' : Cursor ε Unit} {g : α → Reader ε β} {v : β → Unit}
    (h : Follows c ((fun _ => ()) <$> r) s)
    (hf : ∀ a rest, r s = .done a rest → rest <:+ s → Follows c' (v <$> g a) rest) :
    Follows (c >>= fun _ => c') (v <$> (r >>= g)) s := by
  rw [map_bind]
  exact h.bind_of_map hf

theorem Follows.last {c : Cursor ε Unit} {g : α → β} {v : β → Unit}
    (h : Follows c ((fun _ => ()) <$> r) s) : Follows c (v <$> (r >>= fun a => Pure.pure (g a))) s := by
  rw [bind_pure_comp, Functor.map_map]
  exact h

end Sequences

/-! ### Steps -/

section Steps

variable {s : List Char} {f : Option Char → Cursor ε β} {g : Option Char → Reader ε β}

theorem rest_apply (front s : List Char) (bound : Nat) :
    (rest : Cursor ε _) ⟨front ++ s, bound⟩ (byteCount front) = some (.ok s, byteCount front) := by
  simp [rest, restFrom, splitBytes?_append]

theorem restFrom_apply (front word s : List Char) (bound : Nat) :
    (restFrom (byteCount word) : Cursor ε _) ⟨front ++ (word ++ s), bound⟩ (byteCount front) =
      some (.ok s, byteCount front) := by
  rw [restFrom, ← byteCount_append, ← List.append_assoc, splitBytes?_append]
  rfl

theorem peek_apply (front s : List Char) (bound : Nat) :
    (peek : Cursor ε _) ⟨front ++ s, bound⟩ (byteCount front) =
      some (.ok s.head?, byteCount front) := by
  rw [peek, bind_apply, rest_apply]
  rfl

theorem peekWord_apply (word front s : List Char) (bound : Nat) :
    (peekWord word : Cursor ε _) ⟨front ++ s, bound⟩ (byteCount front) =
      some (.ok (word.isPrefixOf s), byteCount front) := by
  rw [peekWord, bind_apply, rest_apply]
  rfl

theorem Follows.peek_bind (h : Follows (f s.head?) (g s.head?) s) :
    Follows (peek >>= f) (Reader.peek >>= g) s :=
  ⟨h.suffix, fun front bound short => by
    rw [bind_apply, peek_apply]
    exact h.eq front bound short⟩

/-- A cursor may look at the next character where the reader does not. -/
theorem Follows.peek_bind_left {r : Reader ε β} (h : Follows (f s.head?) r s) :
    Follows (peek >>= f) r s :=
  ⟨h.suffix, fun front bound short => by
    rw [bind_apply, peek_apply]
    exact h.eq front bound short⟩

theorem Follows.peekWord_bind_left {f : Bool → Cursor ε β} {r : Reader ε β} {word : List Char}
    (h : Follows (f (word.isPrefixOf s)) r s) : Follows (peekWord word >>= f) r s :=
  ⟨h.suffix, fun front bound short => by
    rw [bind_apply, peekWord_apply]
    exact h.eq front bound short⟩

theorem Follows.restFrom_bind_left {f : List Char → Cursor ε β} {r : Reader ε β} {word : List Char}
    (h : Follows (f s) r (word ++ s)) : Follows (restFrom (byteCount word) >>= f) r (word ++ s) :=
  ⟨h.suffix, fun front bound short => by
    rw [bind_apply, restFrom_apply]
    exact h.eq front bound short⟩

theorem Follows.peekWord_bind {f : Bool → Cursor ε β} {g : Bool → Reader ε β} {word : List Char}
    (found : word <+: s → Follows (f true) (g true) s) (other : Follows (f false) (g false) s) :
    Follows (peekWord word >>= f) (Reader.lookingAt word >>= g) s := by
  have both : Follows (f (word.isPrefixOf s)) (g (word.isPrefixOf s)) s := by
    cases h : word.isPrefixOf s with
    | true => exact found (List.isPrefixOf_iff_prefix.1 h)
    | false => exact other
  exact ⟨both.suffix, fun front bound short => by
    rw [bind_apply, peekWord_apply]
    exact both.eq front bound short⟩

theorem advance_follows (s : List Char) : Follows (advance : Cursor ε Unit) Reader.skip s := by
  refine ⟨List.tail_suffix s, fun front bound short => ?_⟩
  rw [advance, bind_apply, peek_apply]
  cases s with
  | nil => exact congrArg some (outcome_done_here front [] ()).symm
  | cons c s =>
    have next := byteCount_front front [c] s
    have size : byteCount (front ++ [c]) = byteCount front + c.utf8Size := by
      simp [byteCount]
    rw [size] at next
    exact congrArg some (congrArg (Prod.mk _) next.symm)

theorem Follows.advance_bind {f : Unit → Cursor ε β} {g : Unit → Reader ε β} (c : Char)
    (h : Follows (f ()) (g ()) s) : Follows (advance >>= f) (Reader.skip >>= g) (c :: s) :=
  (advance_follows _).bind fun _ rest hr _ => by
    obtain rfl : s = rest := by simpa using hr
    exact h

theorem advanceBy_follows (n : Nat) (s : List Char) :
    Follows (advanceBy n : Cursor ε Unit) (Reader.skipMany n) s := by
  induction n generalizing s with
  | zero => exact Follows.pure () s
  | succ n ih =>
    have parts : (Reader.skipMany (n + 1) : Reader ε _) = Reader.skip >>= fun _ => Reader.skipMany n := by
      funext s
      show Reading.done () (s.drop (n + 1)) = .done () (s.tail.drop n)
      rw [List.drop_tail]
    rw [parts, advanceBy]
    exact (advance_follows s).bind fun _ rest _ _ => ih rest

/-- What a run passes over is cut out behind it. -/
theorem Follows.taken_bind {run : Cursor ε Unit} {r : Reader ε α} {f : List Char → Cursor ε β}
    {g : α → Reader ε β} (h : Follows run ((fun _ => ()) <$> r) s)
    (hf : ∀ a cut rest, s = cut ++ rest → r s = .done a rest → Follows (f cut) (g a) rest) :
    Follows (taken run >>= f) (r >>= g) s := by
  obtain ⟨suffix, eq⟩ := h
  simp only [Reader.map_apply] at suffix eq
  have start (front : List Char) (bound : Nat) :
      (taken run >>= f) ⟨front ++ s, bound⟩ (byteCount front) =
        (run >>= fun _ => since (byteCount front) >>= f) ⟨front ++ s, bound⟩ (byteCount front) := by
    rw [taken, bind_assoc]
    simp only [bind_assoc]
    rfl
  cases hr : r s with
  | done a rest =>
    rw [hr] at suffix eq
    obtain ⟨cut, rfl⟩ : ∃ cut, cut ++ rest = s := suffix
    have behind := hf a cut rest rfl hr
    refine ⟨by
      rw [Reader.bind_done hr]
      exact behind.suffix.trans (List.suffix_append cut rest), fun front bound short => ?_⟩
    rw [start, bind_apply, eq front bound short, Reader.bind_done hr]
    simp only [Reading.map, Reading.outcome, Option.bind_some, byteCount_front]
    rw [bind_apply, since, slice?_append, ← List.append_assoc]
    exact behind.eq (front ++ cut) bound
      (Nat.lt_of_le_of_lt (List.suffix_append cut rest).length_le short)
  | failed e rest =>
    rw [hr] at suffix eq
    refine ⟨by
      rw [Reader.bind_failed hr]
      exact suffix, fun front bound short => ?_⟩
    rw [start, bind_apply, eq front bound short, Reader.bind_failed hr]
    rfl

end Steps

/-! ### Loops -/

/-- From every position between two characters each turn of the loop has an outcome, at such a position
again, and only the last one may leave the position where it is. -/
def Advances (turn : σ → Cursor ε (Turn σ α)) (bound : Nat) (text : String) : Prop :=
  ∀ state pos, (⟨pos⟩ : String.Pos.Raw).IsValid text →
    ∃ reached pos', turn state ⟨text.toList, bound⟩ pos = some (reached, pos') ∧
      (⟨pos'⟩ : String.Pos.Raw).IsValid text ∧ ∀ next, reached = .ok (.again next) → pos < pos'

/-- If another turn is to follow, less text is left. -/
def Shrinks (r : Reader ε (Turn σ α)) (s : List Char) : Prop :=
  ∀ next rest, r s = .done (.again next) rest → rest.length < s.length

theorem advances_of_follows {turn : σ → Cursor ε (Turn σ α)} {r : σ → Reader ε (Turn σ α)}
    (follows : ∀ state s, Follows (turn state) (r state) s) (shrinks : ∀ state s, Shrinks (r state) s)
    {bound : Nat} {text : String} (short : text.length < bound) : Advances turn bound text := by
  intro state pos valid
  obtain ⟨front, s, whole, rfl⟩ := Path.isValid_iff_exists_append.1 valid
  have short : s.length < bound := by
    rw [← String.length_toList, whole, List.length_append] at short
    omega
  obtain ⟨suffix, eq⟩ := follows state s
  obtain ⟨cut, parts⟩ := suffix
  have stop : byteCount (front ++ s) - byteCount (r state s).rest = byteCount (front ++ cut) := by
    have here := byteCount_front front cut (r state s).rest
    rwa [parts] at here
  have reached : (⟨byteCount (front ++ cut)⟩ : String.Pos.Raw).IsValid text :=
    Path.isValid_iff_exists_append.2 ⟨front ++ cut, _, by rw [whole, List.append_assoc, parts], rfl⟩
  refine ⟨_, _, by rw [whole, eq front bound short], ?_, ?_⟩
  · cases hr : r state s <;> rw [hr] at stop <;>
      exact (congrArg (fun pos => (⟨pos⟩ : String.Pos.Raw).IsValid text) stop).mpr reached
  · intro next again
    cases hr : r state s with
    | failed e rest =>
      rw [hr] at again
      cases again
    | done a rest =>
      rw [hr] at again stop parts
      obtain rfl : a = .again next := by simpa [Reading.outcome] using again
      have shorter := shrinks state s next rest hr
      have ne : cut ≠ [] := by
        rintro rfl
        rw [← parts] at shorter
        exact Nat.lt_irrefl _ shorter
      have some := Nat.pos_of_ne_zero fun none => ne (Path.byteCount_eq_zero_iff.1 none)
      show byteCount front < byteCount (front ++ s) - byteCount rest
      rw [show byteCount (front ++ s) - byteCount rest = _ from stop, byteCount_append]
      omega

/-- A loop follows a reader if its turns do. Each but the last one shortens the text, so there are no more
of them than characters. -/
theorem loop_follows {turn : σ → Cursor ε (Turn σ α)} {r : σ → Reader ε (Turn σ α)}
    (read : σ → Reader ε α) {n : Nat}
    (read_eq : ∀ state s, read state s = (r state >>= Turn.elim read pure) s)
    (follows : ∀ state s, s.length ≤ n → Follows (turn state) (r state) s)
    (shrinks : ∀ state s, Shrinks (r state) s) (state : σ) {s : List Char} (hs : s.length ≤ n) :
    Follows (loop turn state) (read state) s := by
  have upTo (k : Nat) (state : σ) (s : List Char) (hs : s.length ≤ n) (hk : s.length < k) :
      Follows (loopUpTo turn k state) (read state) s := by
    induction k generalizing state s with
    | zero => contradiction
    | succ k ih =>
      refine Follows.congr ((follows state s hs).bind fun reached rest hr suffix => ?_) rfl
        (read_eq state s)
      cases reached with
      | again next =>
        exact ih next rest (Nat.le_trans suffix.length_le hs)
          (Nat.lt_of_lt_of_le (shrinks state s next rest hr) (Nat.le_of_lt_succ hk))
      | leave a => exact Follows.pure a rest
  exact ⟨(upTo (s.length + 1) state s hs (Nat.lt_succ_self _)).suffix,
    fun front bound short => (upTo bound state s hs short).eq front bound short⟩

section Shrinks

variable {r : Reader ε β} {f : β → Reader ε (Turn σ α)} {s t : List Char}

theorem Shrinks.leave (a : α) (s : List Char) : Shrinks (pure (.leave a) : Reader ε (Turn σ α)) s := by
  intro next rest h
  cases h

theorem Shrinks.fail (e : ε) (s : List Char) :
    Shrinks (Reader.fail e : Reader ε (Turn σ α)) s := by
  intro next rest h
  cases h

theorem Shrinks.bind (trims : Reader.Trims r)
    (hf : ∀ b rest, r s = .done b rest → Shrinks (f b) rest) : Shrinks (r >>= f) s := by
  intro next rest h
  cases hr : r s with
  | done b mid =>
    rw [Reader.bind_done hr] at h
    have shorter := trims.length_le s
    rw [hr] at shorter
    exact Nat.lt_of_lt_of_le (hf b mid hr next rest h) shorter
  | failed e mid =>
    rw [Reader.bind_failed hr] at h
    cases h

/-- A turn behind a character that it passes over leaves less text. -/
theorem Shrinks.skip_bind {f : Unit → Reader ε (Turn σ α)} {c : Char} (h : (f () s).rest <:+ s) :
    Shrinks (Reader.skip >>= f) (c :: s) := by
  intro next rest hr
  have hr : f () s = .done (.again next) rest := hr
  rw [hr] at h
  exact Nat.lt_succ_of_le h.length_le

end Shrinks

/-! ### Runs of characters -/

/-- A turn of a run as a reader. -/
def readRunTurn (p : Char → Bool) : Reader ε (Turn Unit Unit) := do
  if (← Reader.peek).any p then
    Reader.skip
    pure (.again ())
  else pure (.leave ())

theorem runTurn_follows (p : Char → Bool) (s : List Char) :
    Follows (runTurn p () : Cursor ε _) (readRunTurn p) s := by
  refine Follows.peek_bind ?_
  split
  · exact (advance_follows s).bind fun _ rest _ _ => Follows.pure _ rest
  · exact Follows.pure _ s

theorem readRunTurn_shrinks (p : Char → Bool) (s : List Char) :
    Shrinks (readRunTurn p : Reader ε _) s := by
  cases s with
  | nil => exact Shrinks.leave _ _
  | cons c s =>
    refine Shrinks.bind Reader.Trims.peek fun d rest hd => ?_
    obtain ⟨rfl, rfl⟩ : some c = d ∧ c :: s = rest := by simpa using hd
    split
    · exact Shrinks.skip_bind (List.suffix_refl s)
    · exact Shrinks.leave _ _

theorem skipWhile_eq (p : Char → Bool) (s : List Char) :
    (Reader.skipWhile p : Reader ε _) s =
      (readRunTurn p >>= Turn.elim (fun _ => Reader.skipWhile p) pure) s := by
  cases s with
  | nil => rfl
  | cons c s =>
    rw [readRunTurn, bind_assoc, Reader.bind_apply]
    cases h : p c <;> simp [Reader.bind_apply, Reading.map, Turn.elim, h]

theorem advanceWhile_follows (p : Char → Bool) (s : List Char) :
    Follows (advanceWhile p : Cursor ε Unit) (Reader.skipWhile p) s :=
  loop_follows (fun _ => Reader.skipWhile p) (fun _ => skipWhile_eq p) (fun _ t _ => runTurn_follows p t)
    (fun _ => readRunTurn_shrinks p) () (Nat.le_refl _)

end Cursor

end PathQuery
