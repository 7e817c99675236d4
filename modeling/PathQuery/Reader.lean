/-!
# Readers

A reader takes a value off the front of a text. It is a function of the characters that are left, and it
ends in one of two ways: with a value and the characters behind it, or with the cause of a failure and
the characters that were left when reading stopped. A failure is thus located by what it did not consume,
and a position in the text is never counted while reading; it is the size of the text less the size of
the rest.

Readers form a monad: a sequence stops at its first failure. Nothing is ever taken back except where a
reader hands an earlier rest on by itself.

## Main definitions

* `Reading` — how a reader ended.
* `Reader` — functions from the characters left to a `Reading`.
* `peek`, `skip`, `skipMany`, `lookingAt`, `takeWhile`, `expect` — the steps that readers are made of.

## Main results

* `bind_done`, `bind_failed` — how a sequence runs.
* `Trims.bind` — a sequence of readers leaves an end of the text that it was given, if each of them does.
-/

namespace PathQuery

/-- How a reader ended: with a value and the rest of the text, or with a cause and the text that was
left. -/
inductive Reading (ε α : Type) where
  | done (value : α) (rest : List Char)
  | failed (cause : ε) (rest : List Char)
deriving DecidableEq, Repr

namespace Reading

/-- Changes the value that was read. -/
def map {ε α β : Type} (f : α → β) : Reading ε α → Reading ε β
  | done a rest => done (f a) rest
  | failed e rest => failed e rest

/-- The characters that were not consumed. -/
def rest {ε α : Type} : Reading ε α → List Char
  | done _ rest => rest
  | failed _ rest => rest

end Reading

/-- A reader of a value off the front of a text. -/
def Reader (ε α : Type) : Type := List Char → Reading ε α

/-- The cause of failure for readers that report no more than that they failed. -/
inductive Malformed where
  | malformed
deriving DecidableEq, Repr

namespace Reader

variable {ε α β : Type}

instance : Monad (Reader ε) where
  pure a := fun s => .done a s
  bind p f := fun s =>
    match p s with
    | .done a rest => f a rest
    | .failed e rest => .failed e rest

/-! ## Steps -/

/-- Fails where it stands. -/
def fail (cause : ε) : Reader ε α := fun s => .failed cause s

/-- The next character, which is not consumed. -/
def peek : Reader ε (Option Char) := fun s => .done s.head? s

/-- Passes over the next character, if there is one. -/
def skip : Reader ε Unit := fun s => .done () s.tail

/-- Passes over the next `n` characters. -/
def skipMany (n : Nat) : Reader ε Unit := fun s => .done () (s.drop n)

/-- Whether the text goes on with `word`, which is not consumed. -/
def lookingAt (word : List Char) : Reader ε Bool := fun s => .done (word.isPrefixOf s) s

/-- The longest run of characters of a class. -/
def takeWhile (p : Char → Bool) : Reader ε (List Char) := fun s =>
  .done (s.takeWhile p) (s.dropWhile p)

/-- Passes over the longest run of characters of a class. -/
def skipWhile (p : Char → Bool) : Reader ε Unit := fun s => .done () (s.dropWhile p)

/-! ## How readers run -/

@[simp] theorem pure_apply (a : α) (s : List Char) : (pure a : Reader ε α) s = .done a s := rfl

theorem bind_apply (p : Reader ε α) (f : α → Reader ε β) (s : List Char) :
    (p >>= f) s = match p s with
      | .done a rest => f a rest
      | .failed e rest => .failed e rest := rfl

theorem bind_done {p : Reader ε α} {f : α → Reader ε β} {s rest : List Char} {a : α}
    (h : p s = .done a rest) : (p >>= f) s = f a rest := by
  simp [bind_apply, h]

theorem bind_failed {p : Reader ε α} {f : α → Reader ε β} {s rest : List Char} {e : ε}
    (h : p s = .failed e rest) : (p >>= f) s = .failed e rest := by
  simp [bind_apply, h]

@[simp] theorem fail_apply (e : ε) (s : List Char) : (fail e : Reader ε α) s = .failed e s := rfl

@[simp] theorem peek_apply (s : List Char) : (peek : Reader ε _) s = .done s.head? s := rfl

@[simp] theorem skip_apply (s : List Char) : (skip : Reader ε _) s = .done () s.tail := rfl

@[simp] theorem skipMany_apply (n : Nat) (s : List Char) :
    (skipMany n : Reader ε _) s = .done () (s.drop n) := rfl

@[simp] theorem lookingAt_apply (word s : List Char) :
    (lookingAt word : Reader ε _) s = .done (word.isPrefixOf s) s := rfl

@[simp] theorem takeWhile_apply (p : Char → Bool) (s : List Char) :
    (takeWhile p : Reader ε _) s = .done (s.takeWhile p) (s.dropWhile p) := rfl

@[simp] theorem skipWhile_apply (p : Char → Bool) (s : List Char) :
    (skipWhile p : Reader ε _) s = .done () (s.dropWhile p) := rfl

theorem id_map_apply (p : Reader ε α) (s : List Char) : (id <$> p) s = p s := by
  show (match p s with | .done a rest => _ | .failed e rest => _) = p s
  cases p s <;> rfl

theorem bind_assoc_apply {γ : Type} (p : Reader ε α) (f : α → Reader ε β) (g : β → Reader ε γ)
    (s : List Char) : (p >>= f >>= g) s = (p >>= fun a => f a >>= g) s := by
  simp only [bind_apply]
  cases p s <;> rfl

instance : LawfulMonad (Reader ε) :=
  LawfulMonad.mk' (Reader ε) (fun p => funext (id_map_apply p)) (fun _ _ => rfl)
    (fun p f g => funext (bind_assoc_apply p f g))

/-! ## Readers only take from the front -/

/-- What the reader leaves is an end of what it was given. -/
def Trims (p : Reader ε α) : Prop := ∀ s, (p s).rest <:+ s

theorem Trims.length_le {p : Reader ε α} (hp : Trims p) (s : List Char) :
    (p s).rest.length ≤ s.length := (hp s).length_le

theorem Trims.pure (a : α) : Trims (pure a : Reader ε α) := fun s => List.suffix_refl s

theorem Trims.fail (e : ε) : Trims (fail e : Reader ε α) := fun s => List.suffix_refl s

theorem Trims.peek : Trims (peek : Reader ε _) := fun s => List.suffix_refl s

theorem Trims.lookingAt (word : List Char) : Trims (lookingAt word : Reader ε _) :=
  fun s => List.suffix_refl s

theorem Trims.skip : Trims (skip : Reader ε _) := fun s => List.tail_suffix s

theorem Trims.skipMany (n : Nat) : Trims (skipMany n : Reader ε _) := fun s => List.drop_suffix n s

theorem Trims.takeWhile (p : Char → Bool) : Trims (takeWhile p : Reader ε _) :=
  fun _ => List.dropWhile_suffix p

theorem Trims.skipWhile (p : Char → Bool) : Trims (skipWhile p : Reader ε _) :=
  fun _ => List.dropWhile_suffix p

theorem Trims.bind {p : Reader ε α} {f : α → Reader ε β} (hp : Trims p)
    (hf : ∀ a, Trims (f a)) : Trims (p >>= f) := fun s => by
  have h := hp s
  rw [bind_apply]
  cases hps : p s with
  | done a rest =>
    rw [hps] at h
    exact (hf a rest).trans h
  | failed e rest =>
    rw [hps] at h
    exact h

theorem Trims.map {p : Reader ε α} (f : α → β) (hp : Trims p) : Trims (f <$> p) :=
  Trims.bind hp fun a => Trims.pure (f a)

end Reader

end PathQuery
