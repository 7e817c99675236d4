import PathQuery.Pattern.Meaning
import PathQuery.Proofs.Pattern.Spans
import PathQuery.Proofs.Pattern.Trims
import PathQuery.Proofs.Reader.Yields

/-!
# Counts of repetitions

A repetition with a least number of rounds above its greatest one is refused when a pattern is read. The
search for matches relies on it: it makes the least number of rounds first and only then counts what more is
allowed.

## Main definitions

* `Tree.IsCounted` — no repetition in a pattern asks for more rounds than it allows.

## Main results

* `Tree.isCounted_of_read?` — every pattern that is read is like that.
* `Tree.isCounted_of_expr?` — so is its expression.
-/

namespace PathQuery.Pattern

open Reader

variable {verbose : Bool} {s : List Char}

mutual

/-- No repetition in a pattern asks for more rounds than it allows. -/
def Tree.IsCounted : Tree → Prop
  | .repetition body least most => (∀ m ∈ most, least ≤ m) ∧ body.IsCounted
  | .group _ body => body.IsCounted
  | .alternation branches => TreesCounted branches
  | .sequence parts => TreesCounted parts
  | _ => True

/-- The same of all of some patterns. -/
def TreesCounted : List Tree → Prop
  | [] => True
  | t :: rest => t.IsCounted ∧ TreesCounted rest

end

theorem treesCounted_iff {ts : List Tree} : TreesCounted ts ↔ ∀ t ∈ ts, t.IsCounted := by
  induction ts with
  | nil => simp [TreesCounted]
  | cons t ts ih => simp [TreesCounted, ih]

theorem sequenceOf_isCounted {parts : List Tree} (h : TreesCounted parts) :
    (sequenceOf parts).IsCounted := by
  unfold sequenceOf
  split
  · trivial
  · exact h.1
  · rw [Tree.IsCounted, treesCounted_iff]
    rw [treesCounted_iff] at h
    exact fun t ht => h t (List.mem_reverse.1 ht)

theorem alternationOf_isCounted {branches : List Tree} (h : TreesCounted branches) :
    (alternationOf branches).IsCounted := by
  unfold alternationOf
  split
  · exact h.1
  · exact h

/-! ## What is read -/

/-- The counts that are read allow as many rounds as they ask for. -/
theorem readCounts_counted :
    Yields (readCounts verbose) s fun counts => ∀ m ∈ counts.2, counts.1 ≤ m := by
  refine Yields.after fun _ _ _ => Yields.after fun least _ _ => Yields.after fun c _ _ => ?_
  split
  · refine Yields.after fun _ _ _ => Yields.after fun d _ _ => ?_
    split
    · exact Yields.pure fun m hm => by cases hm
    · refine Yields.after fun most _ _ => ?_
      split
      next le =>
        refine Yields.pure fun m hm => ?_
        cases hm
        exact le
      · exact Yields.fail _
  · refine Yields.pure fun m hm => ?_
    cases hm
    exact Nat.le_refl _

theorem readRepetition_counted (sign : Char) :
    Yields (readRepetition verbose sign) s fun counts => ∀ m ∈ counts.2, counts.1 ≤ m := by
  rw [readRepetition_eq]
  have lazily (counts : Nat × Option Nat) (rest : List Char) (h : ∀ m ∈ counts.2, counts.1 ≤ m) :
      Yields (skipLazy counts) rest fun counts => ∀ m ∈ counts.2, counts.1 ≤ m := by
    refine Yields.after fun d _ _ => ?_
    split
    · exact Yields.after fun _ _ _ => Yields.pure h
    · exact Yields.pure h
  refine Yields.bind ?_ fun counts rest _ h => lazily counts rest h
  split
  · refine Yields.bind readCounts_counted fun counts rest _ h => Yields.after fun d _ _ => ?_
    split
    · exact Yields.after fun _ _ _ => Yields.pure h
    · exact Yields.fail _
  · refine Yields.after fun _ _ _ => Yields.pure ?_
    split
    · decide
    · split <;> exact fun m hm => by cases hm

theorem letterTree?_isCounted {c : Char} {t : Tree} (h : letterTree? c = some t) : t.IsCounted := by
  unfold letterTree? at h
  split at h <;> cases h <;> trivial

theorem readWordBoundary_isCounted : Yields (readWordBoundary verbose) s Tree.IsCounted := by
  constructor
  intro t rest h
  unfold readWordBoundary at h
  split at h
  · split at h
    · cases h
    · dsimp only at h
      split at h
      · split at h
        · cases h
          trivial
        · cases h
      · cases h
        trivial
  · cases h
    trivial

theorem readEscape_isCounted : Yields (readEscape verbose) s Tree.IsCounted := by
  refine Yields.after fun _ _ _ => Yields.after fun c _ _ => ?_
  split
  · exact Yields.after fun _ _ _ => Yields.pure trivial
  split
  · refine Yields.after fun _ _ _ => Yields.after fun d _ _ => ?_
    split
    · exact Yields.after fun _ _ _ => Yields.after fun _ _ _ => Yields.after fun _ _ _ =>
        Yields.after fun _ _ _ => Yields.pure trivial
    · split
      · exact Yields.fail _
      · exact Yields.after fun _ _ _ => Yields.pure trivial
  split
  · exact Yields.after fun _ _ _ => readWordBoundary_isCounted
  split
  · exact Yields.after fun _ _ _ => Yields.pure trivial
  split
  next t h => exact Yields.after fun _ _ _ => Yields.pure (letterTree?_isCounted h)
  · exact Yields.fail _

theorem readPrimitive_isCounted (c : Char) : Yields (readPrimitive verbose c) s Tree.IsCounted := by
  unfold readPrimitive
  split
  · exact readEscape_isCounted
  · refine Yields.after fun _ _ _ => Yields.pure ?_
    split
    · trivial
    · split
      · trivial
      · split <;> trivial

mutual

theorem readBranches_isCounted : ∀ (n : Nat) (verbose : Bool) (s : List Char),
    Yields (readBranches n verbose) s fun result => TreesCounted result.1
  | 0, _, _ => Yields.fail _
  | n + 1, verbose, s => by
    rw [readBranches]
    refine (readParts_isCounted n verbose [] s trivial).bind fun (first, verbose) rest _ h =>
      Yields.after fun d _ _ => ?_
    split
    · refine Yields.after fun _ rest _ => (readBranches_isCounted n verbose rest).bind ?_
      exact fun _ _ _ others => Yields.pure ⟨h, others⟩
    · exact Yields.pure ⟨h, trivial⟩

theorem readParts_isCounted : ∀ (n : Nat) (verbose : Bool) (parts : List Tree) (s : List Char),
    TreesCounted parts → Yields (readParts n verbose parts) s fun result => result.1.IsCounted
  | 0, _, _, _, _ => Yields.fail _
  | n + 1, verbose, parts, s, counted => by
    rw [readParts]
    refine Yields.after fun _ _ _ => Yields.after fun d _ _ => ?_
    cases d with
    | none => exact Yields.pure (sequenceOf_isCounted counted)
    | some c =>
      dsimp only
      split
      · exact Yields.pure (sequenceOf_isCounted counted)
      split
      · refine Yields.after fun opening rest _ => ?_
        cases opening with
        | change flags => exact readParts_isCounted n _ _ rest ⟨trivial, counted⟩
        | group kind =>
          refine (readBranches_isCounted n _ rest).bind fun (branches, _) rest _ h =>
            Yields.after fun d _ _ => ?_
          split
          · exact Yields.after fun _ rest _ =>
              readParts_isCounted n _ _ rest ⟨alternationOf_isCounted h, counted⟩
          · exact Yields.fail _
      split
      · exact Yields.after fun _ rest _ => readParts_isCounted n _ _ rest ⟨trivial, counted⟩
      split
      · cases parts with
        | nil => exact Yields.fail _
        | cons body parts =>
          dsimp only
          split
          · refine (readRepetition_counted c).bind fun (least, most) rest _ h => ?_
            exact readParts_isCounted n _ _ rest ⟨⟨h, counted.1⟩, counted.2⟩
          · exact Yields.fail _
      · exact (readPrimitive_isCounted c).bind fun part rest _ h =>
          readParts_isCounted n _ _ rest ⟨h, counted⟩

end

/-- The counts of every pattern that is read allow as many rounds as they ask for. -/
theorem Tree.isCounted_of_read? {text : List Char} {t : Tree} (h : Tree.read? text = some t) :
    t.IsCounted := by
  unfold Tree.read? at h
  split at h
  next branches _ read =>
    dsimp only at h
    split at h
    · cases h
      exact alternationOf_isCounted ((readBranches_isCounted _ _ _).holds _ _ read)
    · cases h
  · cases h

/-! ## What it is made into -/

variable {d : Dialect}

mutual

theorem Tree.isCounted_of_expr? : ∀ (t : Tree) {f g : Flags} {e : Expr}, t.IsCounted →
    t.expr? d f = some (e, g) → e.IsCounted
  | .empty, _, _, _, _, h | .flags _, _, _, _, _, h | .assertion _, _, _, _, _, h => by
    cases h
    trivial
  | .literal _, _, _, _, _, h | .dot, _, _, _, _, h | .shorthand .., _, _, _, _, h
  | .property .., _, _, _, _, h | .brackets .., _, _, _, _, h => by
    obtain ⟨_, -, same⟩ := Option.map_eq_some_iff.1 h
    cases same
    trivial
  | .repetition body _ _, f, _, _, counted, h => by
    obtain ⟨⟨e, g⟩, body', same⟩ := Option.map_eq_some_iff.1 h
    cases same
    exact ⟨counted.1, Tree.isCounted_of_expr? body counted.2 body'⟩
  | .group _ body, f, _, _, counted, h => by
    obtain ⟨⟨e, g⟩, body', same⟩ := Option.map_eq_some_iff.1 h
    cases same
    exact Tree.isCounted_of_expr? body counted body'
  | .alternation branches, _, _, _, counted, h => isCounted_of_branchesExpr? branches counted h
  | .sequence parts, _, _, _, counted, h => isCounted_of_partsExpr? parts counted h

theorem isCounted_of_branchesExpr? : ∀ (ts : List Tree) {f g : Flags} {e : Expr}, TreesCounted ts →
    branchesExpr? d f ts = some (e, g) → e.IsCounted
  | [], _, _, _, _, h => by
    cases h
    trivial
  | [t], _, _, _, counted, h => Tree.isCounted_of_expr? t counted.1 h
  | t :: u :: rest, f, _, _, counted, h => by
    rw [branchesExpr?] at h
    split at h
    next a g first =>
      split at h
      next b g' others =>
        cases h
        exact ⟨Tree.isCounted_of_expr? t counted.1 first,
          isCounted_of_branchesExpr? (u :: rest) counted.2 others⟩
      · cases h
    · cases h

theorem isCounted_of_partsExpr? : ∀ (ts : List Tree) {f g : Flags} {e : Expr}, TreesCounted ts →
    partsExpr? d f ts = some (e, g) → e.IsCounted
  | [], _, _, _, _, h => by
    cases h
    trivial
  | t :: rest, f, _, _, counted, h => by
    rw [partsExpr?] at h
    split at h
    next a g first =>
      split at h
      next b g' others =>
        cases h
        exact ⟨Tree.isCounted_of_expr? t counted.1 first,
          isCounted_of_partsExpr? rest counted.2 others⟩
      · cases h
    · cases h

end

end PathQuery.Pattern
