import PathQuery.Reader

/-!
# Readers that end alike

Two readers are compared on one text at a time: they end alike if they end in the same way and what they
leave is an end of the text. A sequence of readers ends alike if its parts do, each on what the one before
it leaves. What a part leaves is then never longer than the text, and shorter by what was passed over, so
a comparison of two sequences can be led by the length of the text.

## Main definitions

* `Alike` — two readers end alike on a text.

## Main results

* `Alike.bind` — sequences end alike if their parts do.
* `Alike.skip_bind`, `Alike.peek_bind`, `Alike.lookingAt_bind` — what a sequence does behind a single
  step.
-/

namespace PathQuery.Reader

variable {ε α β : Type} {s t : List Char}

/-- Two readers end alike on a text, and leave an end of it. -/
structure Alike (p q : Reader ε α) (s : List Char) : Prop where
  eq : p s = q s
  suffix : (p s).rest <:+ s

theorem Alike.of_trims {p : Reader ε α} (hp : Trims p) (s : List Char) : Alike p p s :=
  ⟨rfl, hp s⟩

theorem Alike.congr_left {p p' q : Reader ε α} (h : Alike p q s) (hp : p' s = p s) : Alike p' q s :=
  ⟨hp.trans h.eq, hp ▸ h.suffix⟩

theorem Alike.bind {p q : Reader ε α} {f f' : α → Reader ε β} (h : Alike p q s)
    (hf : ∀ a rest, p s = .done a rest → rest <:+ s → Alike (f a) (f' a) rest) :
    Alike (p >>= f) (q >>= f') s := by
  obtain ⟨same, suffix⟩ := h
  constructor
  · rw [bind_apply, bind_apply, ← same]
    cases hp : p s with
    | done a rest =>
      rw [hp] at suffix
      exact (hf a rest hp suffix).eq
    | failed e rest => rfl
  · rw [bind_apply]
    cases hp : p s with
    | done a rest =>
      rw [hp] at suffix
      exact (hf a rest hp suffix).suffix.trans suffix
    | failed e rest =>
      rw [hp] at suffix
      exact suffix

theorem Alike.after {p : Reader ε α} {f f' : α → Reader ε β} (hp : Trims p)
    (hf : ∀ a rest, rest <:+ s → Alike (f a) (f' a) rest) : Alike (p >>= f) (p >>= f') s :=
  (Alike.of_trims hp s).bind fun a rest _ suffix => hf a rest suffix

theorem Alike.map {p q : Reader ε α} (f : α → β) (h : Alike p q s) : Alike (f <$> p) (f <$> q) s :=
  h.bind fun a rest _ _ => Alike.of_trims (Trims.pure (f a)) rest

theorem Alike.skip_bind {f f' : Unit → Reader ε β} (c : Char) (h : Alike (f ()) (f' ()) t) :
    Alike (skip >>= f) (skip >>= f') (c :: t) :=
  ⟨h.eq, h.suffix.trans (List.suffix_cons c t)⟩

theorem Alike.peek_bind {f f' : Option Char → Reader ε β} (h : Alike (f s.head?) (f' s.head?) s) :
    Alike (peek >>= f) (peek >>= f') s := ⟨h.eq, h.suffix⟩

theorem Alike.lookingAt_bind {f f' : Bool → Reader ε β} {word : List Char}
    (found : word <+: s → Alike (f true) (f' true) s)
    (other : Alike (f false) (f' false) s) :
    Alike (lookingAt word >>= f) (lookingAt word >>= f') s := by
  cases h : word.isPrefixOf s with
  | true =>
    obtain ⟨same, suffix⟩ := found (List.isPrefixOf_iff_prefix.1 h)
    constructor <;> simpa [bind_apply, h]
  | false =>
    obtain ⟨same, suffix⟩ := other
    constructor <;> simpa [bind_apply, h]

theorem Alike.skipMany_bind {f f' : Unit → Reader ε β} (n : Nat)
    (h : Alike (f ()) (f' ()) (s.drop n)) : Alike (skipMany n >>= f) (skipMany n >>= f') s :=
  ⟨h.eq, h.suffix.trans (List.drop_suffix n s)⟩

end PathQuery.Reader
