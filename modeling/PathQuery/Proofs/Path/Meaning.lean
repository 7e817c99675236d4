import PathQuery.Evaluation
import PathQuery.Proofs.Operand
import PathQuery.Proofs.Path.RoundTrip

/-!
# What a path means to a reader of its text

A path is evaluated like its normal form: groups stand for what is inside them, and a path without
segments is the place where it starts. Nor does it matter that an integer beyond the words is read as a
double, since nothing in a filter tells the two apart. What does matter is a bare test as an argument.
As a filter it gives whether something is there, and as the term that is read in its place it gives what
is there.

So the text of a path means the path with its bare tests taken for terms, whatever the path is; and it
means the path itself if no argument is a bare test.

## Main results

* `Path.evaluate_normal` — a path and its normal form select the same nodes, with the same log.
* `Path.evaluate_heard` — so do a path with its tests as terms and what its text is understood as.
* `Path.evaluate_of_read_text` — what is read of the text of a path selects what the path with its tests
  as terms selects.
-/

namespace PathQuery

open Logged

/-! ## Normal forms -/

section Normal

variable [Engine] (document : Json)

@[simp] theorem Filter.eval_groupIf (condition : Bool) (f : Filter) :
    (f.groupIf condition).eval document = f.eval document := by
  cases condition <;> rfl

@[simp] theorem Filter.eval_ungroup (f : Filter) : f.ungroup.eval document = f.eval document := by
  cases f <;> rfl

/-- A path without segments selects the place where it starts. -/
@[simp] theorem Term.eval_ofPath (anchor : Anchor) (segments : List Segment) :
    (Term.ofPath anchor segments).eval document = (Term.path anchor segments).eval document := by
  cases segments with
  | nil => cases anchor <;> rfl
  | cons s rest => cases anchor <;> rfl

mutual

/-- The normal form of a selector picks the same nodes. -/
theorem Selector.eval_normal : ∀ (s : Selector) (atStart : Bool),
    s.normal.eval document atStart = s.eval document atStart
  | .name _, _ => rfl
  | .index _, _ => rfl
  | .slice _ _ _, _ => rfl
  | .wildcard, _ => rfl
  | .filter test, atStart => by
    funext n
    simp only [Selector.normal, Selector.eval, Filter.eval_ungroup, Filter.eval_normal test]
  | .descent inner, atStart => by
    funext n
    simp only [Selector.normal, Selector.eval, Selector.eval_normal inner]

theorem Filter.eval_normal : ∀ f : Filter, f.normal.eval document = f.eval document
  | .comparison op left right => by
    funext current
    simp only [Filter.normal, Filter.eval, Term.eval_normal left, Term.eval_normal right]
  | .logic .or left right => by
    funext current
    simp only [Filter.normal, Filter.eval, Filter.eval_groupIf, Filter.eval_normal left,
      Filter.eval_normal right]
  | .logic .and left right => by
    funext current
    simp only [Filter.normal, Filter.eval, Filter.eval_groupIf, Filter.eval_normal left,
      Filter.eval_normal right]
  | .existence anchor segments => by
    funext current
    simp only [Filter.normal, Filter.eval, evalSegments_normal segments]
  | .call function args => by
    funext current
    simp only [Filter.normal, Filter.eval, evalArguments_normal args]
  | .group inner => by
    funext current
    simp only [Filter.normal, Filter.eval, Filter.eval_normal inner]
  | .negation inner => by
    funext current
    simp only [Filter.normal, Filter.eval, Filter.eval_groupIf, Filter.eval_normal inner]

theorem Term.eval_normal : ∀ t : Term, t.normal.eval document = t.eval document
  | .current => rfl
  | .root => rfl
  | .literal _ => rfl
  | .path anchor segments => by
    funext current
    simp only [Term.normal, Term.eval_ofPath, Term.eval, evalSegments_normal segments]
  | .call function args => by
    funext current
    simp only [Term.normal, Term.eval, evalArguments_normal args]

theorem Argument.eval_normal : ∀ a : Argument, a.normal.eval document = a.eval document
  | .term t => by
    funext current
    simp only [Argument.normal, Argument.eval, Term.eval_normal t]
  | .filter f => by
    funext current
    simp only [Argument.normal, Argument.eval, Filter.eval_normal f]
  | .path segments => by
    funext current
    simp only [Argument.normal, Argument.eval, Term.eval_ofPath, Term.eval, Anchor.value,
      evalSegments_normal segments]

theorem evalSegment_normal : ∀ (s : List Selector) (atStart : Bool),
    evalSegment document atStart (normalSelectors s) = evalSegment document atStart s
  | [], _ => rfl
  | s :: rest, atStart => by
    funext nodes
    simp only [normalSelectors, evalSegment, Selector.eval_normal s, evalSegment_normal rest]

theorem evalSegments_normal : ∀ (segments : List (List Selector)) (atStart : Bool),
    evalSegments document atStart (normalSegments segments) = evalSegments document atStart segments
  | [], _ => rfl
  | s :: rest, atStart => by
    funext nodes
    simp only [normalSegments, evalSegments, evalSegment_normal s, evalSegments_normal rest]

theorem evalArguments_normal : ∀ args : List Argument,
    evalArguments document (normalArguments args) = evalArguments document args
  | [] => rfl
  | a :: rest => by
    funext current
    simp only [normalArguments, evalArguments, Argument.eval_normal a, evalArguments_normal rest]

end

end Normal

theorem length_normalSegments : ∀ segments : List Segment,
    (normalSegments segments).length = segments.length
  | [] => rfl
  | _ :: rest => congrArg (· + 1) (length_normalSegments rest)

/-- A path and its normal form select the same nodes from every document, with the same log. -/
theorem Path.evaluate_normal [Engine] (p : Path) (document : Json) :
    p.normal.evaluate document = p.evaluate document := by
  simp only [Path.evaluate, Path.normal, length_normalSegments, evalSegments_normal]

/-! ## Numbers as they are read -/

/-- The digits of a positive integer stand for the double that stands for the integer. -/
theorem Numeral.real_ofInt {n k : Nat} (pos : 0 < n) (hk : k ≤ 400) (upper : n < 10 ^ k) :
    (Numeral.ofInt n).real = Float.ofInt n := by
  have positive : (Numeral.ofInt n).negative = false := by simp [ofInt]
  have value : (Numeral.ofInt n).magnitude = ⟨n, 0⟩ := by
    simp [ofInt, magnitude, natOfDigits_toDigits]
  rw [real, positive, value, Decimal.toFloat_natCast pos hk upper]
  rfl

/-- A number that a document can hold stands for the same double as what is read of it. -/
theorem Number.toFloat_asRead {n : Number} (held : n.isHeld = true) : n.asRead.toFloat = n.toFloat := by
  cases n with
  | real x => rfl
  | integer n =>
    rw [asRead]
    split
    · rfl
    next large =>
      obtain ⟨lower, upper⟩ := of_decide_eq_true held
      have positive : 0x8000000000000000 ≤ n := by
        by_contra below
        exact large (by rw [Word.ofInt?, if_pos ⟨lower, not_le.1 below⟩]; rfl)
      obtain ⟨m, rfl⟩ := Int.eq_ofNat_of_zero_le (show 0 ≤ n by omega)
      exact Numeral.real_ofInt (k := 20) (by omega) (by decide) (by omega)

/-- A literal stands for the same operand as what is read of it, up to an integer beyond the words. -/
theorem Json.asDouble_asRead {v : Json} (built : Shape.buildable.term (.literal v) = true) :
    v.asRead.asDouble = v.asDouble := by
  cases v with
  | number n =>
    show Json.number (.real n.asRead.toFloat) = _
    rw [Number.toFloat_asRead built]
    rfl
  | _ => rfl

section Doubles

variable {A A' B B' : Logged Operand} {X X' : Logged (List Operand)}

/-- A comparison sees the doubles of its sides alone. -/
theorem compare_congr (op : CompareOp) (ha : Operand.asDouble <$> A = Operand.asDouble <$> A')
    (hb : Operand.asDouble <$> B = Operand.asDouble <$> B') :
    (do let a ← A; let b ← B; pure (op.holds a b)) =
      (do let a ← A'; let b ← B'; pure (op.holds a b)) := by
  have seen (C D : Logged Operand) : (do let a ← C; let b ← D; pure (op.holds a b)) =
      (do let a ← Operand.asDouble <$> C; let b ← Operand.asDouble <$> D; pure (op.holds a b)) := by
    simp only [bind_map_left, Operand.unseen_asDouble.holds]
  rw [seen A B, seen A' B', ha, hb]

/-- A call hands on the doubles of its arguments. -/
theorem call_congr [Engine] (function : String)
    (h : List.map Operand.asDouble <$> X = List.map Operand.asDouble <$> X') :
    Operand.asDouble <$> (X >>= callByName function) =
      Operand.asDouble <$> (X' >>= callByName function) := by
  have seen (Y : Logged (List Operand)) : Operand.asDouble <$> (Y >>= callByName function) =
      (List.map Operand.asDouble <$> Y) >>= fun xs => Operand.asDouble <$> callByName function xs := by
    simp only [map_bind, bind_map_left, Operand.unseen_asDouble.callByName]
  rw [seen X, seen X', h]

/-- A test sees the double of an operand alone. -/
theorem truthy_congr (h : Operand.asDouble <$> A = Operand.asDouble <$> A') :
    Operand.truthy <$> A = Operand.truthy <$> A' := by
  have seen (C : Logged Operand) : Operand.truthy <$> C = Operand.truthy <$> Operand.asDouble <$> C := by
    simp only [Functor.map_map, Operand.unseen_asDouble.truthy]
  rw [seen A, seen A', h]

/-- Arguments hold the doubles of what they start with and of the others. -/
theorem cons_congr (ha : Operand.asDouble <$> A = Operand.asDouble <$> A')
    (h : List.map Operand.asDouble <$> X = List.map Operand.asDouble <$> X') :
    List.map Operand.asDouble <$> (do let x ← A; let xs ← X; pure (x :: xs)) =
      List.map Operand.asDouble <$> (do let x ← A'; let xs ← X'; pure (x :: xs)) := by
  have seen (C : Logged Operand) (Y : Logged (List Operand)) :
      List.map Operand.asDouble <$> (do let x ← C; let xs ← Y; pure (x :: xs)) = (do
        let x ← Operand.asDouble <$> C
        let xs ← List.map Operand.asDouble <$> Y
        pure (x :: xs)) := by
    simp only [map_bind, bind_map_left, map_pure, List.map_cons]
  rw [seen A X, seen A' X', ha, h]

end Doubles

section AsRead

variable [Engine] (document : Json)

mutual

/-- A selector picks the same nodes as what is read of it. -/
theorem Selector.eval_asRead : ∀ s : Selector, s.every .buildable = true → ∀ (atStart : Bool) (n : Node),
    (s.rewrite .asRead).eval document atStart n = (s.rewrite .testsAsTerms).eval document atStart n
  | .name _, _, _, _ => rfl
  | .index _, _, _, _ => rfl
  | .slice _ _ _, _, _, _ => rfl
  | .wildcard, _, _, _ => rfl
  | .filter test, built, atStart, n => by
    simp only [Selector.every, Bool.and_eq_true] at built
    simp only [Selector.rewrite, Selector.eval, Filter.eval_asRead test built.2]
  | .descent inner, built, atStart, n => by
    simp only [Selector.every, Bool.and_eq_true] at built
    simp only [Selector.rewrite, Selector.eval, Selector.eval_asRead inner built.2]

theorem Filter.eval_asRead : ∀ f : Filter, f.every .buildable = true → ∀ current : Json,
    (f.rewrite .asRead).eval document current = (f.rewrite .testsAsTerms).eval document current
  | .comparison op left right, built, current => by
    simp only [Filter.every, Bool.and_eq_true] at built
    simp only [Filter.rewrite, Filter.eval]
    exact compare_congr op (Term.eval_asRead left built.2.1 current)
      (Term.eval_asRead right built.2.2 current)
  | .logic op left right, built, current => by
    simp only [Filter.every, Bool.and_eq_true] at built
    cases op <;> simp only [Filter.rewrite, Filter.eval, Filter.eval_asRead left built.2.1,
      Filter.eval_asRead right built.2.2]
  | .existence anchor segments, built, current => by
    simp only [Filter.every, Bool.and_eq_true] at built
    simp only [Filter.rewrite, Filter.eval, evalSegments_asRead segments built.2]
  | .call function args, built, current => by
    simp only [Filter.every, Bool.and_eq_true] at built
    simp only [Filter.rewrite, Filter.eval, ← map_bind]
    exact truthy_congr (call_congr function (evalArguments_asRead args built.2 current))
  | .group inner, built, current => by
    simp only [Filter.every, Bool.and_eq_true] at built
    simp only [Filter.rewrite, Filter.eval, Filter.eval_asRead inner built.2]
  | .negation inner, built, current => by
    simp only [Filter.every, Bool.and_eq_true] at built
    simp only [Filter.rewrite, Filter.eval, Filter.eval_asRead inner built.2]

theorem Term.eval_asRead : ∀ t : Term, t.every .buildable = true → ∀ current : Json,
    Operand.asDouble <$> (t.rewrite .asRead).eval document current =
      Operand.asDouble <$> (t.rewrite .testsAsTerms).eval document current
  | .current, _, _ => rfl
  | .root, _, _ => rfl
  | .literal value, built, _ =>
    congrArg (fun v => (pure (Operand.owned v) : Logged Operand)) (Json.asDouble_asRead built)
  | .path anchor segments, built, current => by
    simp only [Term.every, Bool.and_eq_true] at built
    simp only [Term.rewrite, Term.eval, evalSegments_asRead segments built.2]
  | .call function args, built, current => by
    simp only [Term.every, Bool.and_eq_true] at built
    exact call_congr function (evalArguments_asRead args built.2 current)

theorem Argument.eval_asRead : ∀ a : Argument, a.every .buildable = true → ∀ current : Json,
    Operand.asDouble <$> (a.rewrite .asRead).eval document current =
      Operand.asDouble <$> (a.rewrite .testsAsTerms).eval document current
  | .term t, built, current => by
    simp only [Argument.every, Bool.and_eq_true] at built
    exact Term.eval_asRead t built.2 current
  | .filter f, built, current => by
    simp only [Argument.every, Bool.and_eq_true] at built
    cases f with
    | existence anchor segments =>
      simp only [Filter.every, Bool.and_eq_true] at built
      show Operand.asDouble <$> (Term.path anchor _).eval document current =
        Operand.asDouble <$> (Term.path anchor _).eval document current
      simp only [Term.eval, evalSegments_asRead segments built.2.2]
    | call function args =>
      simp only [Filter.every, Bool.and_eq_true] at built
      exact call_congr function (evalArguments_asRead args built.2.2 current)
    | comparison | logic | group | negation =>
      exact congrArg (Operand.asDouble <$> (Operand.owned ∘ Json.bool) <$> ·)
        (Filter.eval_asRead _ built.2 current)
  | .path segments, built, current => by
    simp only [Argument.every, Bool.and_eq_true] at built
    show Operand.asDouble <$> (Argument.path _).eval document current =
      Operand.asDouble <$> (Argument.path _).eval document current
    simp only [Argument.eval, evalSegments_asRead segments built.2]

theorem evalSegment_asRead : ∀ s : List Selector, everySelector .buildable s = true →
    ∀ (atStart : Bool) (nodes : List Node),
      evalSegment document atStart (rewriteSelectors .asRead s) nodes =
        evalSegment document atStart (rewriteSelectors .testsAsTerms s) nodes
  | [], _, _, _ => rfl
  | s :: rest, built, atStart, nodes => by
    simp only [everySelector, Bool.and_eq_true] at built
    simp only [rewriteSelectors, evalSegment, Selector.eval_asRead s built.1,
      evalSegment_asRead rest built.2]

theorem evalSegments_asRead : ∀ segments : List (List Selector),
    everySegment .buildable segments = true → ∀ (atStart : Bool) (nodes : List Node),
      evalSegments document atStart (rewriteSegments .asRead segments) nodes =
        evalSegments document atStart (rewriteSegments .testsAsTerms segments) nodes
  | [], _, _, _ => rfl
  | s :: rest, built, atStart, nodes => by
    simp only [everySegment, Bool.and_eq_true] at built
    simp only [rewriteSegments, evalSegments, evalSegment_asRead s built.1.2,
      evalSegments_asRead rest built.2]

theorem evalArguments_asRead : ∀ args : List Argument, everyArgument .buildable args = true →
    ∀ current : Json,
      List.map Operand.asDouble <$> evalArguments document (rewriteArguments .asRead args) current =
        List.map Operand.asDouble <$>
          evalArguments document (rewriteArguments .testsAsTerms args) current
  | [], _, _ => rfl
  | a :: rest, built, current => by
    simp only [everyArgument, Bool.and_eq_true] at built
    exact cons_congr (Argument.eval_asRead a built.1 current) (evalArguments_asRead rest built.2 current)

end

end AsRead

/-! ## Paths -/

theorem length_rewriteSegments (ρ : Rewriting) : ∀ segments : List Segment,
    (rewriteSegments ρ segments).length = segments.length
  | [] => rfl
  | _ :: rest => congrArg (· + 1) (length_rewriteSegments ρ rest)

namespace Path

/-- What the text of a path is understood as selects what the path with its tests as terms selects. -/
theorem evaluate_heard [Engine] {p : Path} (built : p.every .buildable = true) (document : Json) :
    p.heard.evaluate document = p.testsAsTerms.evaluate document := by
  have normal : p.heard = (p.rewrite .asRead).normal := rfl
  rw [normal, evaluate_normal]
  simp only [evaluate, rewrite, testsAsTerms, length_rewriteSegments,
    evalSegments_asRead document p.segments built]

/-- Whatever the text of a path is read as, it selects the nodes that the path with its tests as terms
selects; and the nodes that the path itself selects, if no argument is a bare test. -/
theorem evaluate_of_read_text [Engine] {p q : Path} (built : p.every .buildable = true)
    (h : read p.text = .ok q) (document : Json) :
    q.evaluate document = p.testsAsTerms.evaluate document ∧
      (p.every .plainArguments = true → q.evaluate document = p.evaluate document) := by
  obtain rfl := eq_heard_of_read_text built h
  have meaning := evaluate_heard built document
  refine ⟨meaning, fun plain => ?_⟩
  rw [meaning, testsAsTerms_eq_self plain]

/-- A negation and a disjunction under it that has lost its parentheses. -/
def ungroupedNegation : Path := ⟨[[.filter (.negation (.logic .or
  (.existence .current [[.name "a"]]) (.existence .current [[.name "b"]])))]]⟩

theorem evaluate_of_read_text_ungroupedNegation :
    ungroupedNegation.every .buildable = true ∧ ungroupedNegation.every .plainArguments = true ∧
      read ungroupedNegation.text = .ok ungroupedNegation.normal ∧
      ungroupedNegation.normal.evaluate (.array [.object [("a", .null)], .object []]) =
        ungroupedNegation.evaluate (.array [.object [("a", .null)], .object []]) :=
  ⟨rfl, rfl, rfl, (evaluate_of_read_text rfl rfl _).2 rfl⟩

/-- The length of whether there is a member, which is nothing, is written like the length of the
member. -/
theorem not_same_selection_of_bare_test : ∃ (p q : Path) (document : Json),
    p.every .buildable = true ∧ read p.text = .ok q ∧ q.select document ≠ p.select document :=
  ⟨⟨[[.filter (.call "length" [.filter (.existence .current [[.name "a"]])])]]⟩,
    ⟨[[.filter (.call "length" [.term (.path .current [[.name "a"]])])]]⟩,
    .array [.object [("a", .string "abc")]], rfl, rfl, List.cons_ne_nil _ _⟩

end Path

end PathQuery
