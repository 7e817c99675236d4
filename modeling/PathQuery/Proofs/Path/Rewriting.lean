import PathQuery.Proofs.Path.Normal

/-!
# Literals and arguments that are replaced

Two paths may differ in nothing but some literals or some arguments, at any depth. Such a difference is a
rewriting: a function of literals and one of arguments, carried to every depth once, for all rewritings.

Two of them describe what becomes of a path on its way through its text. A bare test as an argument is
written like the term of the same path or call, and read as that term. And an integer beyond the words is
read as the nearest double.

## Main definitions

* `Rewriting`, `Path.rewrite` — a change of literals and arguments, and a path that is changed so.
* `Argument.asTerm`, `Path.testsAsTerms` — arguments that are bare tests, as the terms that they look like.
* `Number.asRead`, `Path.heard` — numbers as they are read, and a path as its text is understood.

## Main results

* `Path.rewrite_eq_self` — a path of a shape that a rewriting leaves alone stays as it is.
-/

namespace PathQuery

/-- A change of the literals and the arguments of a path. Of an argument the parts have been changed
already. -/
structure Rewriting where
  literal : Json → Json := fun value => value
  argument : Argument → Argument := fun a => a

section Rewrite

variable (ρ : Rewriting)

mutual

/-- A selector with all literals and arguments inside it changed. -/
def Selector.rewrite : Selector → Selector
  | .filter test => .filter (Filter.rewrite test)
  | .descent inner => .descent (Selector.rewrite inner)
  | s => s

/-- A filter with all literals and arguments inside it changed. -/
def Filter.rewrite : Filter → Filter
  | .comparison op left right => .comparison op (Term.rewrite left) (Term.rewrite right)
  | .logic op left right => .logic op (Filter.rewrite left) (Filter.rewrite right)
  | .existence anchor segments => .existence anchor (rewriteSegments segments)
  | .call function args => .call function (rewriteArguments args)
  | .group inner => .group (Filter.rewrite inner)
  | .negation inner => .negation (Filter.rewrite inner)

/-- A term with all literals and arguments inside it changed. -/
def Term.rewrite : Term → Term
  | .current => .current
  | .root => .root
  | .literal value => .literal (ρ.literal value)
  | .path anchor segments => .path anchor (rewriteSegments segments)
  | .call function args => .call function (rewriteArguments args)

/-- An argument with all literals and arguments inside it changed, and then itself. -/
def Argument.rewrite : Argument → Argument
  | .term t => ρ.argument (.term (Term.rewrite t))
  | .filter f => ρ.argument (.filter (Filter.rewrite f))
  | .path segments => ρ.argument (.path (rewriteSegments segments))

/-- Selectors with all literals and arguments inside them changed. -/
def rewriteSelectors : List Selector → List Selector
  | [] => []
  | s :: rest => Selector.rewrite s :: rewriteSelectors rest

/-- Segments with all literals and arguments inside them changed. -/
def rewriteSegments : List (List Selector) → List (List Selector)
  | [] => []
  | s :: rest => rewriteSelectors s :: rewriteSegments rest

/-- Arguments with all literals and arguments inside them changed, and then themselves. -/
def rewriteArguments : List Argument → List Argument
  | [] => []
  | a :: rest => Argument.rewrite a :: rewriteArguments rest

end

/-- A path with all literals and arguments inside it changed. -/
def Path.rewrite (p : Path) : Path := ⟨rewriteSegments ρ p.segments⟩

end Rewrite

/-! ## Paths that stay as they are -/

/-- A rewriting leaves the literals and arguments of a shape alone. -/
structure Rewriting.Keeps (ρ : Rewriting) (σ : Shape) : Prop where
  literal : ∀ value, σ.term (.literal value) = true → ρ.literal value = value
  argument : ∀ a, σ.argument a = true → ρ.argument a = a

section Keeps

variable {ρ : Rewriting} {σ : Shape}

mutual

theorem Selector.rewrite_eq_self (h : ρ.Keeps σ) :
    ∀ s : Selector, s.every σ = true → s.rewrite ρ = s
  | .name _, _ => rfl
  | .index _, _ => rfl
  | .slice _ _ _, _ => rfl
  | .wildcard, _ => rfl
  | .filter test, hs => by
    simp only [Selector.every, Bool.and_eq_true] at hs
    rw [Selector.rewrite, Filter.rewrite_eq_self h test hs.2]
  | .descent inner, hs => by
    simp only [Selector.every, Bool.and_eq_true] at hs
    rw [Selector.rewrite, Selector.rewrite_eq_self h inner hs.2]

theorem Filter.rewrite_eq_self (h : ρ.Keeps σ) : ∀ f : Filter, f.every σ = true → f.rewrite ρ = f
  | .comparison op left right, hf => by
    simp only [Filter.every, Bool.and_eq_true] at hf
    rw [Filter.rewrite, Term.rewrite_eq_self h left hf.2.1, Term.rewrite_eq_self h right hf.2.2]
  | .logic op left right, hf => by
    simp only [Filter.every, Bool.and_eq_true] at hf
    rw [Filter.rewrite, Filter.rewrite_eq_self h left hf.2.1, Filter.rewrite_eq_self h right hf.2.2]
  | .existence anchor segments, hf => by
    simp only [Filter.every, Bool.and_eq_true] at hf
    rw [Filter.rewrite, rewriteSegments_eq_self h segments hf.2]
  | .call function args, hf => by
    simp only [Filter.every, Bool.and_eq_true] at hf
    rw [Filter.rewrite, rewriteArguments_eq_self h args hf.2]
  | .group inner, hf => by
    simp only [Filter.every, Bool.and_eq_true] at hf
    rw [Filter.rewrite, Filter.rewrite_eq_self h inner hf.2]
  | .negation inner, hf => by
    simp only [Filter.every, Bool.and_eq_true] at hf
    rw [Filter.rewrite, Filter.rewrite_eq_self h inner hf.2]

theorem Term.rewrite_eq_self (h : ρ.Keeps σ) : ∀ t : Term, t.every σ = true → t.rewrite ρ = t
  | .current, _ => rfl
  | .root, _ => rfl
  | .literal value, ht => by rw [Term.rewrite, h.literal value ht]
  | .path anchor segments, ht => by
    simp only [Term.every, Bool.and_eq_true] at ht
    rw [Term.rewrite, rewriteSegments_eq_self h segments ht.2]
  | .call function args, ht => by
    simp only [Term.every, Bool.and_eq_true] at ht
    rw [Term.rewrite, rewriteArguments_eq_self h args ht.2]

theorem Argument.rewrite_eq_self (h : ρ.Keeps σ) :
    ∀ a : Argument, a.every σ = true → a.rewrite ρ = a
  | .term t, ha => by
    simp only [Argument.every, Bool.and_eq_true] at ha
    rw [Argument.rewrite, Term.rewrite_eq_self h t ha.2, h.argument _ ha.1]
  | .filter f, ha => by
    simp only [Argument.every, Bool.and_eq_true] at ha
    rw [Argument.rewrite, Filter.rewrite_eq_self h f ha.2, h.argument _ ha.1]
  | .path segments, ha => by
    simp only [Argument.every, Bool.and_eq_true] at ha
    rw [Argument.rewrite, rewriteSegments_eq_self h segments ha.2, h.argument _ ha.1]

theorem rewriteSelectors_eq_self (h : ρ.Keeps σ) :
    ∀ s : List Selector, everySelector σ s = true → rewriteSelectors ρ s = s
  | [], _ => rfl
  | s :: rest, hs => by
    simp only [everySelector, Bool.and_eq_true] at hs
    rw [rewriteSelectors, Selector.rewrite_eq_self h s hs.1, rewriteSelectors_eq_self h rest hs.2]

theorem rewriteSegments_eq_self (h : ρ.Keeps σ) :
    ∀ segments : List (List Selector), everySegment σ segments = true →
      rewriteSegments ρ segments = segments
  | [], _ => rfl
  | s :: rest, hs => by
    simp only [everySegment, Bool.and_eq_true] at hs
    rw [rewriteSegments, rewriteSelectors_eq_self h s hs.1.2, rewriteSegments_eq_self h rest hs.2]

theorem rewriteArguments_eq_self (h : ρ.Keeps σ) :
    ∀ args : List Argument, everyArgument σ args = true → rewriteArguments ρ args = args
  | [], _ => rfl
  | a :: rest, ha => by
    simp only [everyArgument, Bool.and_eq_true] at ha
    rw [rewriteArguments, Argument.rewrite_eq_self h a ha.1, rewriteArguments_eq_self h rest ha.2]

end

end Keeps

/-- A path of a shape that a rewriting leaves alone stays as it is. -/
theorem Path.rewrite_eq_self {ρ : Rewriting} {σ : Shape} (h : ρ.Keeps σ) {p : Path}
    (hp : p.every σ = true) : p.rewrite ρ = p :=
  congrArg Path.mk (rewriteSegments_eq_self h p.segments hp)

/-! ## Bare tests as arguments -/

/-- An argument that is a bare test, as the term that has the same text. -/
def Argument.asTerm : Argument → Argument
  | .filter (.existence anchor segments) => .term (.path anchor segments)
  | .filter (.call function args) => .term (.call function args)
  | a => a

/-- Bare tests as arguments become the terms that have the same text. -/
def Rewriting.testsAsTerms : Rewriting where
  argument := Argument.asTerm

/-- A path with each argument that is a bare test replaced by the term that has the same text. -/
def Path.testsAsTerms (p : Path) : Path := p.rewrite .testsAsTerms

/-- The shape of the paths without an argument that is a bare test. -/
def Shape.plainArguments : Shape where
  argument
    | .filter f => !f.isTest
    | _ => true

theorem Argument.asTerm_eq_self {a : Argument} (h : Shape.plainArguments.argument a = true) :
    a.asTerm = a := by
  cases a with
  | filter f =>
    cases f with
    | existence anchor segments => cases h
    | call function args => cases h
    | _ => rfl
  | _ => rfl

/-- Without an argument that is a bare test nothing is replaced. -/
theorem Path.testsAsTerms_eq_self {p : Path} (hp : p.every .plainArguments = true) :
    p.testsAsTerms = p :=
  Path.rewrite_eq_self (σ := .plainArguments) ⟨fun _ _ => rfl, fun _ => Argument.asTerm_eq_self⟩ hp

/-! ## Numbers as they are read -/

/-- A number as it is read back: an integer beyond the words becomes the nearest double. -/
def Number.asRead : Number → Number
  | .integer n => if (Word.ofInt? n).isSome then .integer n else .real (Numeral.ofInt n).real
  | .real x => .real x

/-- A literal as it is read back. -/
def Json.asRead : Json → Json
  | .number n => .number n.asRead
  | value => value

/-- What becomes of literals and arguments in the text of a path. -/
def Rewriting.asRead : Rewriting where
  literal := Json.asRead
  argument := Argument.asTerm

/-- The literals and arguments of a path that can be read back stay as they are. -/
theorem Rewriting.asRead_keeps : Rewriting.asRead.Keeps .readable where
  literal value shape := by
    cases value with
    | number n =>
      cases n with
      | integer n =>
        have word : (Word.ofInt? n).isSome = true := shape
        show Json.number (Number.asRead (.integer n)) = _
        rw [Number.asRead, if_pos word]
      | real x => rfl
    | _ => rfl
  argument _ shape := Argument.asTerm_eq_self shape

/-! ## Paths as they are understood -/

/-- What the text of a selector is understood as. -/
def Selector.heard (s : Selector) : Selector := (s.rewrite .asRead).normal

/-- What the text of a filter is understood as. -/
def Filter.heard (f : Filter) : Filter := (f.rewrite .asRead).normal

/-- What the text of a term is understood as. -/
def Term.heard (t : Term) : Term := (t.rewrite .asRead).normal

/-- What the text of an argument is understood as. -/
def Argument.heard (a : Argument) : Argument := (a.rewrite .asRead).normal

/-- What the text of some segments is understood as. -/
def heardSegments (segments : List Segment) : List Segment :=
  normalSegments (rewriteSegments .asRead segments)

/-- What the text of some arguments is understood as. -/
def heardArguments (args : List Argument) : List Argument :=
  normalArguments (rewriteArguments .asRead args)

/-- What the text of a path is understood as, if it is read at all: the normal form, with bare tests as
arguments taken for terms and integers beyond the words for doubles. -/
def Path.heard (p : Path) : Path := ⟨heardSegments p.segments⟩

/-- A path that can be read back is understood as its normal form. -/
theorem Path.heard_of_readable {p : Path} (shape : p.every .readable = true) : p.heard = p.normal := by
  show Path.mk (normalSegments (rewriteSegments .asRead p.segments)) = _
  rw [rewriteSegments_eq_self Rewriting.asRead_keeps p.segments shape]
  rfl

end PathQuery
