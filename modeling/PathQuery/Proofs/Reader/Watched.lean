import PathQuery.Proofs.Path.Place
import PathQuery.Proofs.Reader.Settled

/-!
# Readers that pass a place of a text

A reader that ends at a place of a text or in front of it does not notice that the text is changed there. It
ends in the same way on every variant, with the same characters left in front of the place.

White space in front of a segment is not noticed by a reader of segments that goes on beyond the place
either. Whether a reader does that is found out by stopping it there: the reader is run beside another one
that fails where a segment opens at the place. If both end in the same way, none was opened. Otherwise the
reader opened one, and then it ends in the same way with white space there, unless the sign of the candidate
stands right in front of it. Behind that sign the segment is not found behind white space. What reads on then
gets stuck in front of it.

## Main definitions

* `Reader.Passes`, `Reader.Opens` — the two ways to end a reading of a text with a place in it.
* `Reader.Watched` — a reader ends in one of these ways, as found out by another one.
* `Reader.Takes` — besides, it never ends with a value where it starts at the place.
* `Reader.EndsIn` — what a reader takes off ends in a character of a certain kind.

## Main results

* `Reader.Watched.bind`, `Reader.Watched.peek_if`, `Reader.Watched.lookingAt_if` — sequences.
* `Reader.Watched.takeWhile`, `Reader.Watched.skipBlank` and the like — the steps.
* `Reader.Watched.append` — in front of a comma or a closing bracket a reader stays the same.
-/

namespace PathQuery

namespace Reader

open ReadError (Cause)

variable {ε α β : Type}

/-! ## Two ways to pass a place -/

/-- The other reader ends as the reader does. If that ends at the place or in front of it, it does the same
in front of every variant. White space of the variant may be passed over. -/
structure Passes (v : Place) (p q : Reader ε α) (x : List Char) (a : α) (rest : List Char) : Prop where
  same : q (x ++ v.text) = p (x ++ v.text)
  carried : ∀ y, rest = y ++ v.text → ∀ w, v.Variant w →
    ∃ w', (w' = w ∨ y = [] ∧ w' = w.dropWhile isBlank) ∧ p (x ++ w) = .done a (y ++ w')

/-- A reading has failed. If it is `loose`, it may also have ended with nothing but white space left in front
of the place. -/
def Stuck (v : Place) (loose : Prop) (r : Reading ε α) : Prop :=
  ∀ a rest, r = .done a rest → loose ∧ rest.dropWhile isBlank = v.text

/-- A segment is opened at the place and read, with white space in front of it as well. But directly behind
the sign of the candidate it is not found behind white space. -/
structure Opens (v : Place) (loose : Prop) (p : Reader ε α) (x : List Char) (a : α) (rest : List Char) :
    Prop where
  opens : v.opens = true
  shorter : rest.length < v.text.length
  spaced : x.getLast? ≠ some '@' → ∀ w, v.Variant w → p (x ++ w) = .done a rest
  stuck : x.getLast? = some '@' → ∀ w, v.Variant w → w ≠ v.text → Stuck v loose (p (x ++ w))

/-- On a text, a reader that ends with a value passes the place in one of the two ways. The other reader does
the same as the reader where the text is not longer than it is from the place on. -/
structure Watched (v : Place) (loose : Prop) (p q : Reader ε α) (s : List Char) : Prop where
  suffix : (p s).rest <:+ s
  below : s.length ≤ v.text.length → q s = p s
  split : ∀ x a rest, s = x ++ v.text → p s = .done a rest →
    Passes v p q x a rest ∨ Opens v loose p x a rest

/-- Besides, the reader takes something off the text, or fails, where it starts at the place. -/
structure Takes (v : Place) (loose : Prop) (p q : Reader ε α) (s : List Char) : Prop where
  watched : Watched v loose p q s
  moves : s = v.text → ∀ a, p s ≠ .done a s

variable {v : Place} {loose loose' : Prop} {p q : Reader ε α} {f f' : α → Reader ε β} {s t w x : List Char}
  {c : Char}

/-! ## Stuck readings -/

namespace Stuck

variable {r : Reading ε α} {a : α} {rest : List Char}

theorem failed {e : ε} (h : r = .failed e rest) : Stuck v loose r := by
  intro a t done
  rw [h] at done
  cases done

/-- A reading that stands behind white space in front of the place. -/
theorem done (h : r = .done a rest) (front : rest.dropWhile isBlank = v.text) : Stuck v True r := by
  intro b t done
  rw [h] at done
  cases done
  exact ⟨trivial, front⟩

theorem bind (first : Stuck v loose (p s))
    (second : loose → ∀ a t, t.dropWhile isBlank = v.text → Stuck v loose' (f a t)) :
    Stuck v loose' ((p >>= f) s) := by
  intro b u read
  obtain ⟨a, t, read, read'⟩ := bind_eq_done_iff.1 read
  obtain ⟨isLoose, front⟩ := first a t read
  exact second isLoose a t front b u read'

theorem map (f : α → β) (h : Stuck v loose (p s)) : Stuck v loose ((f <$> p) s) := by
  intro b t read
  obtain ⟨a, first, -⟩ := map_eq_done_iff.1 read
  exact h a t first

/-- White space in front of the place is passed over. -/
theorem skipBlank_bind {f : Unit → Reader Cause β} (front : s.dropWhile isBlank = v.text)
    (h : Stuck v loose (f () v.text)) : Stuck v loose ((Lexeme.skipBlank >>= f) s) := by
  rw [PathQuery.skipBlank_bind, front]
  exact h

end Stuck

/-! ## Where readers end -/

theorem Passes.of_shorter {a : α} {rest : List Char} (same : q (x ++ v.text) = p (x ++ v.text))
    (shorter : rest.length < v.text.length) : Passes v p q x a rest := by
  refine ⟨same, fun y h => ?_⟩
  rw [h, List.length_append] at shorter
  omega

/-- What a suffix of a text with a place in it is, seen from the place. -/
theorem suffix_cases {rest : List Char} (h : rest <:+ x ++ v.text) :
    (∃ y, rest = y ++ v.text ∧ y <:+ x) ∨ rest.length < v.text.length := by
  rcases List.suffix_or_suffix_of_suffix h (List.suffix_append x v.text) with inside | ⟨y, rfl⟩
  · rcases Nat.lt_or_ge rest.length v.text.length with shorter | same
    · exact .inr shorter
    · exact .inl ⟨[], inside.eq_of_length_le same, List.nil_suffix⟩
  · obtain ⟨z, hz⟩ := h
    rw [← List.append_assoc] at hz
    exact .inl ⟨y, rfl, z, List.append_cancel_right hz⟩

theorem getLast?_of_suffix {y : List Char} (h : y <:+ x) (ne : y ≠ []) : y.getLast? = x.getLast? := by
  obtain ⟨z, rfl⟩ := h
  rw [List.getLast?_append_of_ne_nil _ ne]

/-! ## Sequences -/

section Sequence

variable {a : α} {b : β} {y rest : List Char}

/-- A reader that ends at the place or in front of it, and another one that passes the place from there. -/
theorem Passes.bind (pass : Passes v p q x a (y ++ v.text))
    (first : p (x ++ v.text) = .done a (y ++ v.text)) (ends : rest <:+ y ++ v.text)
    (pass' : Passes v (f a) (f' a) y b rest) :
    Passes v (p >>= f) (q >>= f') x b rest := by
  constructor
  · rw [bind_done (pass.same.trans first), bind_done first, pass'.same]
  · rintro z rfl w hw
    obtain ⟨w₁, either₁, read₁⟩ := pass.carried y rfl w hw
    have hw₁ : v.Variant w₁ := by
      rcases either₁ with rfl | ⟨-, rfl⟩
      · exact hw
      · exact hw.dropWhile
    obtain ⟨w₂, either₂, read₂⟩ := pass'.carried z rfl w₁ hw₁
    refine ⟨w₂, ?_, by rw [bind_done read₁, read₂]⟩
    rcases either₁ with rfl | ⟨rfl, rfl⟩
    · exact either₂
    · have none : z = [] := by
        have short := ends.length_le
        rw [List.length_append, List.length_append, List.length_nil] at short
        exact List.length_eq_zero_iff.1 (by omega)
      refine .inr ⟨none, ?_⟩
      rcases either₂ with rfl | ⟨-, rfl⟩
      · rfl
      · exact (Stops.of_dropWhile isBlank w).dropWhile

/-- A reader that ends in front of the place, and another one that opens a segment there. -/
theorem Passes.bind_opens (pass : Passes v p q x a (y ++ v.text)) (ends : y <:+ x) (ne : y ≠ [])
    (opening : Opens v loose (f a) y b rest) : Opens v loose (p >>= f) x b rest := by
  have last := getLast?_of_suffix ends ne
  have run {w : List Char} (hw : v.Variant w) : (p >>= f) (x ++ w) = f a (y ++ w) := by
    obtain ⟨w', rfl | ⟨empty, -⟩, read⟩ := pass.carried y rfl w hw
    · exact bind_done read
    · contradiction
  refine ⟨opening.opens, opening.shorter, fun other w hw => ?_, fun candidate w hw => ?_⟩
  · rw [run hw]
    exact opening.spaced (last ▸ other) w hw
  · rw [run hw]
    exact opening.stuck (last ▸ candidate) w hw

/-- A reader that opens a segment at the place, and any other one behind it. That must be stuck where the
first one may be. -/
theorem Opens.bind {t : List Char} (opening : Opens v loose p x a t) (ends : rest <:+ t)
    (second : f a t = .done b rest)
    (blocked : loose → ∀ a t, t.dropWhile isBlank = v.text → Stuck v loose' (f a t)) :
    Opens v loose' (p >>= f) x b rest := by
  refine ⟨opening.opens, Nat.lt_of_le_of_lt ends.length_le opening.shorter, fun other w hw => ?_,
    fun candidate w hw ne => ?_⟩
  · rw [bind_done (opening.spaced other w hw), second]
  · exact (opening.stuck candidate w hw ne).bind blocked

end Sequence

namespace Watched

theorem rest_suffix (h : Watched v loose p q s) {a : α} (read : p s = .done a t) : t <:+ s := by
  have ends := h.suffix
  rwa [read] at ends

/-- From the place on the two readers are the same. -/
theorem passes (h : Watched v loose p q v.text) {a : α} {rest : List Char}
    (read : p v.text = .done a rest) : Passes v p q [] a rest := by
  rcases h.split [] a rest rfl read with pass | opening
  · exact pass
  · exact Passes.of_shorter (h.below (Nat.le_refl _)) opening.shorter

/-- In front of a comma or a closing bracket a reader ends as it does with anything else behind the sign. -/
theorem append (h : Watched v loose p q s) (closes : v.opens = false) {a : α} {y : List Char}
    (read : p s = .done a (y ++ v.text)) (w : List Char) : p (s ++ w) = .done a (y ++ v.text ++ w) := by
  obtain ⟨z, rfl⟩ := h.rest_suffix read
  rcases h.split (z ++ y) a _ (List.append_assoc ..).symm read with pass | opening
  · obtain ⟨w', either, same⟩ := pass.carried y rfl _ (.other (v.behind ++ w) closes)
    obtain rfl : w' = v.text ++ w := by
      rcases either with rfl | ⟨-, rfl⟩
      · rfl
      · exact dropWhile_of_not_blank Place.not_isBlank
    simpa [Place.text] using same
  · have opens := opening.opens
    rw [closes] at opens
    cases opens

theorem loosen (h : Watched v False p q s) : Watched v loose p q s where
  suffix := h.suffix
  below := h.below
  split x a rest hs read := by
    refine (h.split x a rest hs read).imp_right fun o => ⟨o.opens, o.shorter, o.spaced, ?_⟩
    intro last w hw ne b u stuck
    exact (o.stuck last w hw ne b u stuck).1.elim

/-- A sequence of two readers. The second one must be stuck where the first one may be. -/
theorem bind (hp : Watched v loose p q s)
    (blocked : loose → v.opens = true → ∀ a t, t.dropWhile isBlank = v.text → Stuck v loose' (f a t))
    (hf : ∀ a t, p s = .done a t → Watched v loose' (f a) (f' a) t) :
    Watched v loose' (p >>= f) (q >>= f') s where
  suffix := by
    rw [bind_apply]
    cases read : p s with
    | failed e t =>
      have ends := hp.suffix
      rwa [read] at ends
    | done a t => exact (hf a t read).suffix.trans (hp.rest_suffix read)
  below short := by
    rw [bind_apply, bind_apply, hp.below short]
    cases read : p s with
    | failed e t => rfl
    | done a t => exact (hf a t read).below (Nat.le_trans (hp.rest_suffix read).length_le short)
  split x b rest hs read := by
    subst hs
    obtain ⟨a, t, first, read⟩ := bind_eq_done_iff.1 read
    have second := hf a t first
    have ends := second.rest_suffix read
    rcases hp.split x a t rfl first with pass | opening
    · rcases suffix_cases (hp.rest_suffix first) with ⟨y, rfl, inside⟩ | shorter
      · by_cases none : y = []
        · subst none
          exact .inl (pass.bind first ends (second.passes read))
        · exact (second.split y b rest rfl read).imp (pass.bind first ends) (pass.bind_opens inside none)
      · refine .inl (Passes.of_shorter ?_ (Nat.lt_of_le_of_lt ends.length_le shorter))
        rw [bind_done (pass.same.trans first), bind_done first]
        exact second.below (Nat.le_of_lt shorter)
    · exact .inr (opening.bind ends read fun isLoose => blocked isLoose opening.opens)

/-- A sequence whose first reader is never stuck. -/
theorem andThen (hp : Watched v False p q s)
    (hf : ∀ a t, p s = .done a t → Watched v loose (f a) (f' a) t) :
    Watched v loose (p >>= f) (q >>= f') s :=
  hp.bind (fun never => never.elim) hf

/-- A reader that is not stopped anywhere need only pass the place. -/
theorem of_carried (suffix : (p s).rest <:+ s)
    (carried : ∀ x a y, s = x ++ v.text → p s = .done a (y ++ v.text) → ∀ w, v.Variant w →
      ∃ w', (w' = w ∨ y = [] ∧ w' = w.dropWhile isBlank) ∧ p (x ++ w) = .done a (y ++ w')) :
    Watched v loose p p s := by
  refine ⟨suffix, fun _ => rfl, fun x a rest hs read => .inl ⟨rfl, fun y hy => ?_⟩⟩
  subst hy
  exact carried x a y hs read

/-- A reader that leaves what stands from the place on as it is. -/
theorem of_append (suffix : (p s).rest <:+ s) (h : ∀ x w, v.Variant w → p (x ++ w) = (p x).append w) :
    Watched v loose p p s :=
  of_carried suffix fun x a y hs read w hw => by
    rw [hs, h x v.text Place.Variant.self] at read
    refine ⟨w, .inl rfl, ?_⟩
    rw [h x w hw]
    cases first : p x with
    | failed e t =>
      rw [first] at read
      cases read
    | done b t =>
      rw [first] at read
      obtain ⟨rfl, whole⟩ : b = a ∧ t ++ v.text = y ++ v.text := by simpa [Reading.append] using read
      rw [List.append_cancel_right whole]
      rfl

theorem pure (a : α) : Watched v loose (pure a : Reader ε α) (pure a) s :=
  of_carried (List.suffix_refl s) fun x b y hs read w _ => by
    subst hs
    obtain ⟨rfl, whole⟩ : a = b ∧ x ++ v.text = y ++ v.text := by simpa using read
    obtain rfl := List.append_cancel_right whole
    exact ⟨w, .inl rfl, rfl⟩

theorem fail (e : ε) : Watched v loose (fail e : Reader ε α) (fail e) s :=
  of_carried (List.suffix_refl s) fun _ _ _ _ read => by cases read

theorem map (g : α → β) (hp : Watched v loose p q s) : Watched v loose (g <$> p) (g <$> q) s :=
  hp.bind (fun isLoose _ a t front b u read => by cases read; exact ⟨isLoose, front⟩)
    fun a _ _ => pure (g a)

/-! ## Looking at the next character -/

/-- At the place itself the next character is another one in a variant. Then the reader must not end there,
or it must not tell the sign from white space. -/
theorem peek_bind {f f' : Option Char → Reader ε β} (h : Watched v loose (f s.head?) (f' s.head?) s)
    (front : s = v.text → (∀ a, f (some v.sign) s ≠ .done a s) ∨
      ∀ c, isBlank c = true → f (some c) = f (some v.sign)) :
    Watched v loose (peek >>= f) (peek >>= f') s where
  suffix := h.suffix
  below := h.below
  split x a rest hs read := by
    subst hs
    cases x with
    | cons c x =>
      refine (h.split (c :: x) a rest rfl read).imp (fun pass => ⟨pass.same, pass.carried⟩)
        fun opening => ?_
      exact ⟨opening.opens, opening.shorter, opening.spaced, opening.stuck⟩
    | nil =>
      have pass := h.passes (p := f (some v.sign)) (q := f' (some v.sign)) read
      refine .inl ⟨pass.same, fun y hy w hw => ?_⟩
      have here : f (some v.sign) v.text = .done a (y ++ v.text) := hy ▸ read
      obtain rfl : y = [] := by
        have short := (h.rest_suffix (p := f (some v.sign)) (s := v.text) here).length_le
        rw [List.length_append] at short
        exact List.length_eq_zero_iff.1 (by omega)
      have blank := (front rfl).resolve_left fun other => other a here
      have same : f w.head? = f (some v.sign) := by
        obtain ⟨c, t, rfl, rfl | hc⟩ := hw.exists_cons
        · rfl
        · exact blank c hc
      obtain ⟨w', either, read'⟩ := pass.carried [] hy w hw
      exact ⟨w', either, (congrFun same w).trans read'⟩

/-- A reader that asks for a character other than white space, and goes on otherwise. -/
theorem peek_if (asks : Option Char → Prop) [DecidablePred asks] {g g' h h' : Reader ε β}
    (none : ¬ asks none) (blank : ∀ c, isBlank c = true → ¬ asks (some c))
    (hg : ∀ c t, s = c :: t → asks (some c) → Takes v loose g g' (c :: t)) (hh : Watched v loose h h' s) :
    Watched v loose (do if asks (← peek) then g else h) (do if asks (← peek) then g' else h') s := by
  have taken (found : asks s.head?) : Takes v loose g g' s := by
    cases s with
    | nil => exact absurd found none
    | cons c t => exact hg c t rfl found
  show Watched v loose (peek >>= fun c => if asks c then g else h)
    (peek >>= fun c => if asks c then g' else h') s
  refine peek_bind ?_ fun here => ?_
  · split
    next found => exact (taken found).watched
    next => exact hh
  · subst here
    by_cases found : asks (some v.sign)
    · left
      rw [if_pos found]
      exact (taken found).moves rfl
    · right
      intro c hc
      rw [if_neg found, if_neg (blank c hc)]

theorem peek_char (hc : isBlank c = false) {g g' h h' : Reader ε β}
    (hg : ∀ t, s = c :: t → Takes v loose g g' (c :: t)) (hh : Watched v loose h h' s) :
    Watched v loose (do if (← peek) = some c then g else h) (do if (← peek) = some c then g' else h') s := by
  refine peek_if (· = some c) nofun ?_ (fun d t cons same => ?_) hh
  · rintro d blank ⟨⟩
    rw [hc] at blank
    cases blank
  · cases same
    exact hg t cons

/-! ## Steps -/

/-- A reader that looks ahead and does not tell the text from its variants. -/
theorem look {look : List Char → α} (same : ∀ x w, v.Variant w → look (x ++ w) = look (x ++ v.text)) :
    Watched v loose (fun s => .done (look s) s : Reader ε α) (fun s => .done (look s) s) s :=
  of_carried (List.suffix_refl s) fun x a y hs read w hw => by
    subst hs
    obtain ⟨rfl, whole⟩ : look (x ++ v.text) = a ∧ x ++ v.text = y ++ v.text := by simpa using read
    obtain rfl := List.append_cancel_right whole
    exact ⟨w, .inl rfl, by rw [same x w hw]⟩

theorem skipMany (n : Nat) : Watched v loose (skipMany n : Reader ε _) (skipMany n) s :=
  of_carried (List.drop_suffix n s) fun x _ y hs read w _ => by
    subst hs
    have rest : (x ++ v.text).drop n = y ++ v.text := by simpa using read
    have inside : n ≤ x.length := by
      have := congrArg List.length rest
      simp only [List.length_drop, List.length_append] at this
      have : 0 < v.text.length := Nat.succ_pos _
      omega
    rw [List.drop_append_of_le_length inside] at rest
    obtain rfl := List.append_cancel_right rest
    exact ⟨w, .inl rfl, by rw [skipMany_apply, List.drop_append_of_le_length inside]⟩

theorem takeWhile {p : Char → Bool} (blank : ∀ c, isBlank c = true → p c = false) :
    Watched v loose (takeWhile p : Reader ε _) (takeWhile p) s :=
  of_carried (List.dropWhile_suffix p) fun x a y hs read w hw => by
    subst hs
    -- The run ends inside of `x`, or at the place.
    have stop : Stops p (x.dropWhile p ++ v.text) ∧ Stops p (x.dropWhile p ++ w) := by
      cases behind : x.dropWhile p with
      | cons c u =>
        have inside := behind ▸ Stops.of_dropWhile p x
        exact ⟨inside.append (List.cons_ne_nil c u), inside.append (List.cons_ne_nil c u)⟩
      | nil =>
        have rest : (x ++ v.text).dropWhile p = y ++ v.text := congrArg Reading.rest read
        rw [List.dropWhile_append, behind] at rest
        have sign : p v.sign = false := by
          have front : v.text.dropWhile p = y ++ v.text := rest
          by_contra other
          have short := (List.dropWhile_suffix p (l := v.behind)).length_le
          rw [Place.text, List.dropWhile_cons_of_pos (by simpa using other)] at front
          have := congrArg List.length front
          simp only [List.length_append, List.length_cons] at this
          omega
        exact ⟨Stops.cons sign, hw.stops blank sign⟩
    rw [takeWhile_append_of_stops stop.1] at read
    obtain ⟨rfl, rest⟩ : x.takeWhile p = a ∧ x.dropWhile p ++ v.text = y ++ v.text := by
      simpa using read
    obtain rfl := List.append_cancel_right rest
    exact ⟨w, .inl rfl, takeWhile_append_of_stops stop.2⟩

theorem skipBlank : Watched v loose Lexeme.skipBlank Lexeme.skipBlank s :=
  of_carried (List.dropWhile_suffix isBlank) fun x a y hs read w hw => by
    subst hs
    have rest : (x ++ v.text).dropWhile isBlank = y ++ v.text := by simpa [Lexeme.skipBlank] using read
    show ∃ w', _ ∧ Reading.done () ((x ++ w).dropWhile isBlank) = _
    rw [List.dropWhile_append] at rest ⊢
    split
    next empty =>
      rw [if_pos empty, Place.dropWhile_text] at rest
      obtain rfl : y = [] := List.append_left_eq_self.1 rest.symm
      exact ⟨w.dropWhile isBlank, .inr ⟨rfl, rfl⟩, rfl⟩
    next other =>
      rw [if_neg other] at rest
      obtain rfl := List.append_cancel_right rest
      exact ⟨w, .inl rfl, rfl⟩

theorem skipBlank_bind {f f' : Unit → Reader Cause β}
    (h : Watched v loose (f ()) (f' ()) (s.dropWhile isBlank)) :
    Watched v loose (Lexeme.skipBlank >>= f) (Lexeme.skipBlank >>= f') s :=
  skipBlank.andThen fun _ t read => by
    obtain rfl : s.dropWhile isBlank = t := by simpa [Lexeme.skipBlank] using read
    exact h

/-- A reader that is another one on this text and on its variants. -/
theorem congr (h : Watched v loose p q s) {p' q' : Reader ε α} (hp : p' s = p s) (hq : q' s = q s)
    (variants : ∀ x w, s = x ++ v.text → v.Variant w → p' (x ++ w) = p (x ++ w)) :
    Watched v loose p' q' s := by
  refine ⟨hp ▸ h.suffix, fun short => hq.trans ((h.below short).trans hp.symm), fun x a rest hs read => ?_⟩
  have elsewhere := fun w => variants x w hs
  subst hs
  rcases h.split x a rest rfl (hp ▸ read) with pass | opening
  · refine .inl ⟨hq.trans (pass.same.trans hp.symm), fun y hy w hw => ?_⟩
    rw [elsewhere w hw]
    exact pass.carried y hy w hw
  · refine .inr ⟨opening.opens, opening.shorter, fun other w hw => ?_, fun candidate w hw => ?_⟩
    · rw [elsewhere w hw]
      exact opening.spaced other w hw
    · rw [elsewhere w hw]
      exact opening.stuck candidate w hw

/-- A reader that is another one behind some characters. -/
theorem behind (h : Watched v loose p q t) {p' q' : Reader ε α} (front : List Char)
    (hp : ∀ t, p' (front ++ t) = p t) (hq : ∀ t, q' (front ++ t) = q t) :
    Watched v loose p' q' (front ++ t) := by
  refine ⟨?_, fun short => ?_, fun x a rest hs read => ?_⟩
  · rw [hp]
    exact h.suffix.trans (List.suffix_append front t)
  · rw [hp, hq]
    exact h.below (Nat.le_trans (List.suffix_append front t).length_le short)
  · rw [hp] at read
    have ends := h.rest_suffix read
    rcases suffix_cases (hs ▸ List.suffix_append front t) with ⟨y, rfl, -⟩ | shorter
    · obtain rfl : front ++ y = x := by
        rw [← List.append_assoc] at hs
        exact List.append_cancel_right hs
      have through (pass : Passes v p q y a rest) : Passes v p' q' (front ++ y) a rest := by
        refine ⟨by rw [List.append_assoc, hp, hq, pass.same], fun z hz w hw => ?_⟩
        rw [List.append_assoc, hp]
        exact pass.carried z hz w hw
      by_cases none : y = []
      · subst none
        exact .inl (through (h.passes read))
      have last := List.getLast?_append_of_ne_nil front none
      refine (h.split y a rest rfl read).imp through fun opening =>
        ⟨opening.opens, opening.shorter, fun other w hw => ?_, fun candidate w hw => ?_⟩
      · rw [List.append_assoc, hp]
        exact opening.spaced (last ▸ other) w hw
      · rw [List.append_assoc, hp]
        exact opening.stuck (last ▸ candidate) w hw
    · refine .inl (Passes.of_shorter ?_ (Nat.lt_of_le_of_lt ends.length_le shorter))
      rw [← hs, hp, hq]
      exact h.below (Nat.le_of_lt shorter)

/-- Where the text goes on with a word, the reader passes over it. -/
theorem lookingAt_if {word : List Char}
    (plain : (word.all fun c => !isBlank c && c != ',' && c != ']') = true)
    {g g' h h' : Reader ε β} (hg : word <+: s → Watched v loose g g' (s.drop word.length))
    (hh : Watched v loose h h' s) :
    Watched v loose
      (do if ← lookingAt word then Reader.skipMany word.length >>= fun _ => g else h)
      (do if ← lookingAt word then Reader.skipMany word.length >>= fun _ => g' else h') s := by
  have found (g h : Reader ε β) (t : List Char) : (do
      if ← lookingAt word then Reader.skipMany word.length >>= fun _ => g else h : Reader ε β) (word ++ t) =
        g t := by
    rw [bind_apply, lookingAt_apply, List.isPrefixOf_iff_prefix.2 (List.prefix_append word t)]
    show g ((word ++ t).drop word.length) = g t
    rw [List.drop_left]
  have other (g h : Reader ε β) {s : List Char} (none : ¬ word <+: s) : (do
      if ← lookingAt word then Reader.skipMany word.length >>= fun _ => g else h : Reader ε β) s = h s := by
    rw [bind_apply, lookingAt_apply, Bool.eq_false_iff.2 fun eq => none (List.isPrefixOf_iff_prefix.1 eq)]
    rfl
  by_cases front : word <+: s
  · have inner := hg front
    obtain ⟨t, rfl⟩ := front
    rw [List.drop_left] at inner
    exact inner.behind word (found g h) (found g' h')
  · refine hh.congr (other g h front) (other g' h' front) fun x w hs hw => other g h fun found => front ?_
    exact hs ▸ Place.prefix_of_variant hw plain found

end Watched

namespace Takes

/-- Where the reader does not start at the place there is nothing more to show. -/
theorem of_ne (h : Watched v loose p q s) (ne : s ≠ v.text) : Takes v loose p q s :=
  ⟨h, fun here => absurd here ne⟩

/-- A character of a class without signs is not the first one of the place. -/
theorem of_class (member : Char → Bool) (hc : member c = true)
    (signs : ['.', '[', ',', ']'].all (fun c => !member c) = true) (h : Watched v loose p q (c :: t)) :
    Takes v loose p q (c :: t) :=
  of_ne h fun here => by
    obtain ⟨rfl, -⟩ := List.cons.inj here
    have other := Place.of_signs signs v
    rw [hc] at other
    cases other

theorem loosen (h : Takes v False p q s) : Takes v loose p q s := ⟨h.watched.loosen, h.moves⟩

theorem fail (e : ε) : Takes v loose (fail e : Reader ε α) (fail e) s :=
  ⟨Watched.fail e, fun _ _ read => by cases read⟩

theorem map (g : α → β) (hp : Takes v loose p q s) : Takes v loose (g <$> p) (g <$> q) s := by
  refine ⟨hp.watched.map g, fun here b read => ?_⟩
  obtain ⟨a, first, -⟩ := map_eq_done_iff.1 read
  exact hp.moves here a first

theorem skip_bind {f f' : Unit → Reader ε β} (h : Watched v loose (f ()) (f' ()) t) :
    Takes v loose (skip >>= f) (skip >>= f') (c :: t) where
  watched := h.behind [c] (fun _ => rfl) fun _ => rfl
  moves _ a read := by
    have short := (h.rest_suffix (s := t) (t := c :: t) (a := a) read).length_le
    rw [List.length_cons] at short
    omega

theorem skip : Takes v loose (skip : Reader ε _) skip (c :: t) := by
  have first : Takes v loose (Reader.skip >>= Pure.pure : Reader ε Unit) (Reader.skip >>= Pure.pure)
      (c :: t) := skip_bind (Watched.pure ())
  rwa [bind_pure] at first

/-- A reader that needs another character. -/
theorem peek_needs {f f' : Option Char → Reader ε β}
    (none : s = [] → Watched v loose (f none) (f' none) [])
    (cons : ∀ c t, s = c :: t → Takes v loose (f (some c)) (f' (some c)) (c :: t)) :
    Takes v loose (peek >>= f) (peek >>= f') s := by
  cases s with
  | nil => exact of_ne (Watched.peek_bind (none rfl) fun here => by cases here) nofun
  | cons c t =>
    have here := cons c t rfl
    refine ⟨Watched.peek_bind here.watched fun eq => .inl ?_, here.moves⟩
    obtain ⟨rfl, -⟩ := List.cons.inj eq
    exact here.moves eq

end Takes

/-! ## The last character that is taken off -/

/-- What the reader takes off the text ends in a character of a certain kind. -/
def EndsIn (kind : Char → Prop) (p : Reader ε α) (s : List Char) : Prop :=
  ∀ a t, p s = .done a t → ∃ x c, s = x ++ c :: t ∧ kind c

namespace EndsIn

variable {kind kind' : Char → Prop}

theorem mono (h : EndsIn kind p s) (weaker : ∀ c, kind c → kind' c) : EndsIn kind' p s := by
  intro a t read
  obtain ⟨x, c, whole, hc⟩ := h a t read
  exact ⟨x, c, whole, weaker c hc⟩

theorem fail (e : ε) : EndsIn kind (fail e : Reader ε α) s := nofun

/-- The last character is known from what is left. -/
theorem getLast? {x : List Char} (h : EndsIn kind p (x ++ t)) {a : α} (read : p (x ++ t) = .done a t) :
    ∃ c, x.getLast? = some c ∧ kind c := by
  obtain ⟨y, c, whole, hc⟩ := h a t read
  have same : x ++ t = (y ++ [c]) ++ t := by
    rw [whole, List.append_assoc]
    rfl
  obtain rfl := List.append_cancel_right same
  exact ⟨c, by simp, hc⟩

/-- A sequence ends as its second reader does. -/
theorem after (ends : (p s).rest <:+ s) (hf : ∀ a t, p s = .done a t → EndsIn kind (f a) t) :
    EndsIn kind (p >>= f) s := by
  intro b u read
  obtain ⟨a, t, first, second⟩ := bind_eq_done_iff.1 read
  rw [first] at ends
  obtain ⟨y, rfl⟩ := ends
  obtain ⟨x, c, whole, hc⟩ := hf a t first b u second
  refine ⟨y ++ x, c, ?_, hc⟩
  rw [List.append_assoc, ← whole]
  rfl

/-- A sequence whose second reader takes nothing off ends as the first one does. -/
theorem map (g : α → β) (h : EndsIn kind p s) : EndsIn kind (g <$> p) s := by
  intro b u read
  obtain ⟨a, first, -⟩ := map_eq_done_iff.1 read
  exact h a u first

theorem skip_pure (a : α) (hc : kind c) :
    EndsIn kind (skip >>= fun _ => Pure.pure a : Reader ε α) (c :: t) := by
  intro b u read
  cases read
  exact ⟨[], c, rfl, hc⟩

theorem skip_bind {f : Unit → Reader ε β} (h : EndsIn kind (f ()) t) : EndsIn kind (skip >>= f) (c :: t) :=
  after (List.suffix_cons c t) fun _ _ read => by
    cases read
    exact h

theorem peek_bind {f : Option Char → Reader ε β} (none : s = [] → EndsIn kind (f none) [])
    (cons : ∀ c t, s = c :: t → EndsIn kind (f (some c)) (c :: t)) : EndsIn kind (peek >>= f) s := by
  cases s with
  | nil => exact none rfl
  | cons c t => exact cons c t rfl

/-- A run that is not empty ends in a character of its class. -/
theorem takeWhile {member : Char → Bool} (first : member c = true) :
    EndsIn (member · = true) (takeWhile member : Reader ε _) (c :: t) := by
  intro a u read
  obtain ⟨-, rfl⟩ : _ ∧ (c :: t).dropWhile member = u := by simpa using read
  have run := List.takeWhile_append_dropWhile (p := member) (l := c :: t)
  rcases List.eq_nil_or_concat ((c :: t).takeWhile member) with empty | ⟨x, d, last⟩
  · rw [List.takeWhile_cons_of_pos first] at empty
    cases empty
  · have hd : d ∈ (c :: t).takeWhile member := by simp [last]
    refine ⟨x, d, ?_, List.mem_takeWhile_imp hd⟩
    rw [last, List.concat_eq_append, List.append_assoc] at run
    exact run.symm

end EndsIn

end Reader

end PathQuery
