import PathQuery.Path.Lexeme
import PathQuery.Proofs.Decimal

/-!
# Conditions on all parts of a path

A path nests selectors, filters, terms and arguments in each other to any depth, and what is asked of a
path is mostly asked of all these parts. A shape is a condition for each kind of part that looks at the
part itself only; it is carried to every depth once, for all shapes.

## Main definitions

* `Shape` — a condition on selectors, segments, filters, terms and arguments.
* `Path.every` — all parts of a path have a shape.
* `Shape.buildable` — the shape of the paths that can be built.
* `Shape.readable` — the shape of the paths that can be read back from their text.

## Main results

* `Path.every_mono` — a path has every weaker shape as well.
-/

namespace PathQuery

/-- A condition on the parts of a path, one for each kind of part. -/
structure Shape where
  selector : Selector → Bool := fun _ => true
  segment : List Selector → Bool := fun _ => true
  filter : Filter → Bool := fun _ => true
  term : Term → Bool := fun _ => true
  argument : Argument → Bool := fun _ => true

section Every

variable (σ : Shape)

mutual

/-- A selector and all parts inside it have a shape. -/
def Selector.every : Selector → Bool
  | .filter test => σ.selector (.filter test) && Filter.every test
  | .descent inner => σ.selector (.descent inner) && Selector.every inner
  | s => σ.selector s

/-- A filter and all parts inside it have a shape. -/
def Filter.every : Filter → Bool
  | .comparison op left right =>
    σ.filter (.comparison op left right) && (Term.every left && Term.every right)
  | .logic op left right =>
    σ.filter (.logic op left right) && (Filter.every left && Filter.every right)
  | .existence anchor segments => σ.filter (.existence anchor segments) && everySegment segments
  | .call function args => σ.filter (.call function args) && everyArgument args
  | .group inner => σ.filter (.group inner) && Filter.every inner
  | .negation inner => σ.filter (.negation inner) && Filter.every inner

/-- A term and all parts inside it have a shape. -/
def Term.every : Term → Bool
  | .path anchor segments => σ.term (.path anchor segments) && everySegment segments
  | .call function args => σ.term (.call function args) && everyArgument args
  | t => σ.term t

/-- An argument and all parts inside it have a shape. -/
def Argument.every : Argument → Bool
  | .term t => σ.argument (.term t) && Term.every t
  | .filter f => σ.argument (.filter f) && Filter.every f
  | .path segments => σ.argument (.path segments) && everySegment segments

/-- All selectors of a list have a shape. -/
def everySelector : List Selector → Bool
  | [] => true
  | s :: rest => Selector.every s && everySelector rest

/-- All segments of a list have a shape. -/
def everySegment : List (List Selector) → Bool
  | [] => true
  | s :: rest => (σ.segment s && everySelector s) && everySegment rest

/-- All arguments of a list have a shape. -/
def everyArgument : List Argument → Bool
  | [] => true
  | a :: rest => Argument.every a && everyArgument rest

end

/-- All parts of a path have a shape. -/
def Path.every (p : Path) : Bool := everySegment σ p.segments

end Every

/-! ## Weaker shapes -/

/-- What has the shape `σ` also has the shape `τ`. -/
structure Shape.Implies (σ τ : Shape) : Prop where
  selector : ∀ s, σ.selector s = true → τ.selector s = true
  segment : ∀ s, σ.segment s = true → τ.segment s = true
  filter : ∀ f, σ.filter f = true → τ.filter f = true
  term : ∀ t, σ.term t = true → τ.term t = true
  argument : ∀ a, σ.argument a = true → τ.argument a = true

section Mono

variable {σ τ : Shape}

mutual

theorem Selector.every_mono (h : σ.Implies τ) : ∀ s : Selector, s.every σ = true → s.every τ = true
  | .name key, hs => h.selector (.name key) hs
  | .index i, hs => h.selector (.index i) hs
  | .slice start stop step, hs => h.selector (.slice start stop step) hs
  | .wildcard, hs => h.selector .wildcard hs
  | .filter test, hs => by
    simp only [Selector.every, Bool.and_eq_true] at hs ⊢
    exact ⟨h.selector _ hs.1, Filter.every_mono h test hs.2⟩
  | .descent inner, hs => by
    simp only [Selector.every, Bool.and_eq_true] at hs ⊢
    exact ⟨h.selector _ hs.1, Selector.every_mono h inner hs.2⟩

theorem Filter.every_mono (h : σ.Implies τ) : ∀ f : Filter, f.every σ = true → f.every τ = true
  | .comparison op left right, hf => by
    simp only [Filter.every, Bool.and_eq_true] at hf ⊢
    exact ⟨h.filter _ hf.1, Term.every_mono h left hf.2.1, Term.every_mono h right hf.2.2⟩
  | .logic op left right, hf => by
    simp only [Filter.every, Bool.and_eq_true] at hf ⊢
    exact ⟨h.filter _ hf.1, Filter.every_mono h left hf.2.1, Filter.every_mono h right hf.2.2⟩
  | .existence anchor segments, hf => by
    simp only [Filter.every, Bool.and_eq_true] at hf ⊢
    exact ⟨h.filter _ hf.1, everySegment_mono h segments hf.2⟩
  | .call function args, hf => by
    simp only [Filter.every, Bool.and_eq_true] at hf ⊢
    exact ⟨h.filter _ hf.1, everyArgument_mono h args hf.2⟩
  | .group inner, hf => by
    simp only [Filter.every, Bool.and_eq_true] at hf ⊢
    exact ⟨h.filter _ hf.1, Filter.every_mono h inner hf.2⟩
  | .negation inner, hf => by
    simp only [Filter.every, Bool.and_eq_true] at hf ⊢
    exact ⟨h.filter _ hf.1, Filter.every_mono h inner hf.2⟩

theorem Term.every_mono (h : σ.Implies τ) : ∀ t : Term, t.every σ = true → t.every τ = true
  | .current, ht => h.term .current ht
  | .root, ht => h.term .root ht
  | .literal value, ht => h.term (.literal value) ht
  | .path anchor segments, ht => by
    simp only [Term.every, Bool.and_eq_true] at ht ⊢
    exact ⟨h.term _ ht.1, everySegment_mono h segments ht.2⟩
  | .call function args, ht => by
    simp only [Term.every, Bool.and_eq_true] at ht ⊢
    exact ⟨h.term _ ht.1, everyArgument_mono h args ht.2⟩

theorem Argument.every_mono (h : σ.Implies τ) : ∀ a : Argument, a.every σ = true → a.every τ = true
  | .term t, ha => by
    simp only [Argument.every, Bool.and_eq_true] at ha ⊢
    exact ⟨h.argument _ ha.1, Term.every_mono h t ha.2⟩
  | .filter f, ha => by
    simp only [Argument.every, Bool.and_eq_true] at ha ⊢
    exact ⟨h.argument _ ha.1, Filter.every_mono h f ha.2⟩
  | .path segments, ha => by
    simp only [Argument.every, Bool.and_eq_true] at ha ⊢
    exact ⟨h.argument _ ha.1, everySegment_mono h segments ha.2⟩

theorem everySelector_mono (h : σ.Implies τ) :
    ∀ s : List Selector, everySelector σ s = true → everySelector τ s = true
  | [], _ => rfl
  | s :: rest, hs => by
    simp only [everySelector, Bool.and_eq_true] at hs ⊢
    exact ⟨Selector.every_mono h s hs.1, everySelector_mono h rest hs.2⟩

theorem everySegment_mono (h : σ.Implies τ) :
    ∀ segments : List (List Selector), everySegment σ segments = true → everySegment τ segments = true
  | [], _ => rfl
  | s :: rest, hs => by
    simp only [everySegment, Bool.and_eq_true] at hs ⊢
    exact ⟨⟨h.segment s hs.1.1, everySelector_mono h s hs.1.2⟩, everySegment_mono h rest hs.2⟩

theorem everyArgument_mono (h : σ.Implies τ) :
    ∀ args : List Argument, everyArgument σ args = true → everyArgument τ args = true
  | [], _ => rfl
  | a :: rest, ha => by
    simp only [everyArgument, Bool.and_eq_true] at ha ⊢
    exact ⟨Argument.every_mono h a ha.1, everyArgument_mono h rest ha.2⟩

end

end Mono

/-- A path has every weaker shape as well. -/
theorem Path.every_mono {σ τ : Shape} (h : σ.Implies τ) {p : Path} (hp : p.every σ = true) :
    p.every τ = true := everySegment_mono h p.segments hp

/-! ## Paths that can be read back -/

/-- Whether a selector applies a selector below its node that does not descend by itself. -/
def Selector.isShallowDescent : Selector → Bool
  | .descent inner => !inner.isDescent
  | _ => false

/-- Whether a filter tests what a path selects or what a function gives. -/
def Filter.isTest : Filter → Bool
  | .existence _ _ | .call _ _ => true
  | _ => false

/-- A function name is a small letter with small letters, digits and underscores behind it. -/
def isFunctionName : List Char → Bool
  | [] => false
  | c :: rest => isSmallLetter c && rest.all isFunctionChar

/-- Whether a document can be a literal of a path: arrays and objects cannot, an integer must be a word,
and a double must be finite. -/
def Json.isLiteral : Json → Bool
  | .null | .bool _ | .string _ => true
  | .number (.integer n) => (Word.ofInt? n).isSome
  | .number (.real x) => x.isFinite
  | .array _ | .object _ => false

/-- Whether a number can be one of a document: an integer between the least signed and the greatest
unsigned word, or a finite double. -/
def Number.isHeld : Number → Bool
  | .integer n => decide (-0x8000000000000000 ≤ n ∧ n < 0x10000000000000000)
  | .real x => x.isFinite

namespace Shape

/-- The shape of the paths that can be built: a function has the name of one, and a number is one of a
document. -/
def buildable : Shape where
  filter
    | .call function _ => isFunctionName function.toList
    | _ => true
  term
    | .literal (.number n) => n.isHeld
    | .call function _ => isFunctionName function.toList
    | _ => true

/-- The shape of the paths that can be read back: a segment has selectors, of which all or none descend,
a function has the name of one, a literal is one, and no argument is a bare test as a filter. -/
def readable : Shape where
  segment s := !s.isEmpty && (s.all Selector.isShallowDescent || s.all fun t => !t.isDescent)
  filter
    | .call function _ => isFunctionName function.toList
    | _ => true
  term
    | .literal value => value.isLiteral
    | .call function _ => isFunctionName function.toList
    | _ => true
  argument
    | .filter f => !f.isTest
    | _ => true

end Shape

end PathQuery
