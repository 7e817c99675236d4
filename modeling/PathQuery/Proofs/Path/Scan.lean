import PathQuery.Proofs.Path.Scan.Word
import PathQuery.Proofs.Path.Selector

/-!
# The cursor reads what the grammar reads

The rules of the cursor call each other in a circle, and a call is always behind a character that has been
passed over since the last time that the circle was closed. So by induction on the length of the text each
rule follows the one of the grammar: it comes to an end, all slices on its way are there, and it stops
where the grammar stops.

## Main definitions

* `Scanner.FollowsBelow` — the rules that close the circle follow the grammar on shorter texts.

## Main results

* `segments_follows`, `term_follows`, `filter_follows`, `argument_follows` — the rules.
* `Path.scan_eq` — for every text there is an outcome, the one of `Path.read`.
* `Path.scan_total` — besides, failures lie between two characters and every turn of a loop moves on.
-/

namespace PathQuery.Scanner

open ReadError (Cause)
open Cursor Lexeme Scan
open Reader (Trims)
open Grammar (opensSegment grammar_alikeBelow le_of_suffix)

/-- On texts shorter than `n` the rules that close the circle follow those of the grammar. -/
structure FollowsBelow (g : Scanner) (n : Nat) : Prop where
  filter : ∀ s, s.length < n → Follows g.filter grammar.filter s
  unary : ∀ s, s.length < n → Follows g.unary grammar.unary s
  argument : ∀ s, s.length < n → Follows g.argument grammar.argument s

variable {g : Scanner} {n : Nat} {s : List Char}

theorem tail_lt {c : Char} (h : s.head? = some c) (hs : s.length ≤ n) : s.tail.length < n := by
  cases s with
  | nil => cases h
  | cons d s => exact hs

/-- A loop that starts with nothing read so far. -/
theorem Follows.of_nil {α : Type} {c : Cursor Cause (List α)} {r : Reader Cause (List α)}
    (h : Follows c (([] ++ ·) <$> r) s) : Follows c r s :=
  h.congr rfl (Reader.id_map_apply r s).symm

/-! ## Selectors -/

theorem selector_follows (below : FollowsBelow g n) (hs : s.length ≤ n) :
    Follows g.selector grammar.selector s := by
  refine Follows.peek_bind ?_
  cases head : s.head? with
  | none => exact Follows.fail _ s
  | some c =>
    dsimp only
    split
    · exact (quoted_follows s).map _
    split
    · exact (advance_follows s).bind fun _ rest _ _ => Follows.pure _ rest
    split
    · refine (advance_follows s).bind fun _ rest done _ => ?_
      obtain rfl : s.tail = rest := by simpa using done
      exact (below.filter _ (tail_lt head hs)).map _
    split
    · exact indexOrSlice_follows s
    · exact Follows.fail _ s

/-- A turn of a list of selectors as a reader. -/
def readSelectorsTurn (sofar : Segment) : Reader Cause (Turn Segment Segment) := do
  Lexeme.skipBlank
  let next ← grammar.selector
  Lexeme.skipBlank
  match ← Reader.peek with
  | some c =>
    if c = ',' then
      Reader.skip
      pure (.again (sofar ++ [next]))
    else if c = ']' then
      Reader.skip
      pure (.leave (sofar ++ [next]))
    else Reader.fail (.unexpected c)
  | none => Reader.fail .unexpectedEnd

theorem selectorsTurn_follows (below : FollowsBelow g n) (sofar : Segment) (hs : s.length ≤ n) :
    Follows (g.selectorsTurn sofar) (readSelectorsTurn sofar) s := by
  refine (skipBlank_follows s).bind fun _ t _ ht => ?_
  refine (selector_follows below (le_of_suffix ht hs)).bind fun next u _ _ => ?_
  refine (skipBlank_follows u).bind fun _ v _ _ => Follows.peek_bind ?_
  cases v.head? with
  | none => exact Follows.fail _ v
  | some c =>
    dsimp only
    split
    · exact (advance_follows v).bind fun _ rest _ _ => Follows.pure _ rest
    split
    · exact (advance_follows v).bind fun _ rest _ _ => Follows.pure _ rest
    · exact Follows.fail _ v

theorem selector_trims : Trims grammar.selector := fun s =>
  (Grammar.selector_alike (grammar_alikeBelow s.length) (Nat.le_refl _)).suffix

theorem readSelectorsTurn_shrinks (sofar : Segment) (s : List Char) :
    Shrinks (readSelectorsTurn sofar) s := by
  refine Shrinks.bind skipBlank_trims fun _ t _ => Shrinks.bind selector_trims fun next u _ =>
    Shrinks.bind skipBlank_trims fun _ v _ => Shrinks.bind Trims.peek fun c w done => ?_
  obtain ⟨rfl, rfl⟩ : v.head? = c ∧ v = w := by simpa using done
  cases v with
  | nil => exact Shrinks.fail _ _
  | cons c v =>
    dsimp only [List.head?]
    split
    · exact Shrinks.skip_bind (List.suffix_refl v)
    split
    · exact Shrinks.skip_bind (List.suffix_refl v)
    · exact Shrinks.fail _ _

theorem selectors_turn (sofar : Segment) :
    ((sofar ++ ·) <$> grammar.selectors : Reader Cause Segment) =
      readSelectorsTurn sofar >>= Turn.elim (fun sofar => (sofar ++ ·) <$> grammar.selectors) pure := by
  conv_lhs => rw [Grammar.grammar_selectors, Grammar.selectorsRule]
  simp only [readSelectorsTurn, map_bind, bind_assoc]
  refine bind_congr fun _ => bind_congr fun next => bind_congr fun _ => bind_congr fun c => ?_
  cases c with
  | none => rfl
  | some c =>
    dsimp only
    split
    · simp [Turn.elim, map_bind, Functor.map_map]
    split
    · rfl
    · rfl

theorem selectors_follows (below : FollowsBelow g n) (sofar : Segment) (hs : s.length ≤ n) :
    Follows (loop g.selectorsTurn sofar) ((sofar ++ ·) <$> grammar.selectors) s :=
  loop_follows (fun sofar => (sofar ++ ·) <$> grammar.selectors)
    (fun sofar s => congrFun (selectors_turn sofar) s)
    (fun sofar _ ht => selectorsTurn_follows below sofar ht) readSelectorsTurn_shrinks sofar hs

/-! ## Segments -/

theorem brackets_follows (below : FollowsBelow g n) (opens : s.head? = some '[') (hs : s.length ≤ n) :
    Follows g.brackets (Reader.skip >>= fun _ => grammar.brackets) s := by
  have bracket : Follows (expect '[') Reader.skip s :=
    (expect_follows '[' s).congr rfl (by simp [Lexeme.expect, Reader.bind_apply, opens])
  refine bracket.bind fun _ t _ ht => (skipBlank_follows t).bind fun _ u _ hu => Follows.peek_bind ?_
  split
  · exact Follows.fail _ u
  · exact Follows.of_nil (selectors_follows below [] (le_of_suffix (hu.trans ht) hs))

theorem descendants_follows (below : FollowsBelow g n) (hs : s.length ≤ n) :
    Follows g.descendants grammar.descendants s := by
  refine Follows.peek_bind ?_
  cases head : s.head? with
  | none => exact Follows.fail _ s
  | some c =>
    dsimp only
    split
    · exact (advance_follows s).bind fun _ rest _ _ => Follows.pure _ rest
    split
    next bracket =>
      rw [← map_bind]
      exact (brackets_follows below (bracket ▸ head) hs).map _
    split
    · exact (name_follows s).map _
    · exact Follows.fail _ s

theorem segment_follows (below : FollowsBelow g n) (hs : s.length ≤ n) :
    Follows g.segment grammar.segment s := by
  refine Follows.peekWord_bind (fun _ => ?_) (Follows.peek_bind ?_)
  · exact (advanceBy_follows 2 s).bind fun _ t _ ht => descendants_follows below (le_of_suffix ht hs)
  · split
    next bracket => exact brackets_follows below bracket hs
    next => exact (expect_follows '.' s).bind fun _ t _ _ => member_follows t

/-- A turn of a list of segments as a reader. -/
def readSegmentsTurn (sofar : List Segment) : Reader Cause (Turn (List Segment) (List Segment)) := do
  if (← Grammar.peekBehindBlank).any opensSegment then
    Lexeme.skipBlank
    let next ← grammar.segment
    pure (.again (sofar ++ [next]))
  else pure (.leave sofar)

theorem readSegmentsTurn_apply (sofar : List Segment) (s : List Char) :
    readSegmentsTurn sofar s =
      if (s.dropWhile isBlank).head?.any opensSegment then
        (Lexeme.skipBlank >>= fun _ => grammar.segment >>= fun next =>
          pure (.again (sofar ++ [next])) : Reader Cause _) s
      else .done (.leave sofar) s := by
  simp only [readSegmentsTurn, Reader.bind_apply, Grammar.peekBehindBlank]
  split <;> rfl

/-- If no segment comes behind the white space, the position is moved back in front of it, and the grammar
has not passed over it. -/
theorem segmentsTurn_follows (below : FollowsBelow g n) (sofar : List Segment) (hs : s.length ≤ n) :
    Follows (g.segmentsTurn sofar) (readSegmentsTurn sofar) s := by
  have read := readSegmentsTurn_apply sofar s
  by_cases opens : (s.dropWhile isBlank).head?.any opensSegment = true
  · rw [if_pos opens] at read
    have behind (save : Nat) : Follows (do
        skipBlank
        if (← peek).any opensSegment then
          let next ← g.segment
          pure (.again (sofar ++ [next]))
        else
          moveTo save
          pure (.leave sofar)) (readSegmentsTurn sofar) s := by
      refine Follows.congr ?_ rfl read
      refine (skipBlank_follows s).bind fun _ t done ht => Follows.peek_bind_left ?_
      obtain rfl : s.dropWhile isBlank = t := by simpa [Lexeme.skipBlank] using done
      rw [if_pos opens]
      exact (segment_follows below (le_of_suffix ht hs)).bind fun next rest _ _ => Follows.pure _ rest
    exact ⟨(behind 0).suffix, fun front bound short =>
      (behind (Path.byteCount front)).eq front bound short⟩
  · rw [if_neg opens] at read
    refine ⟨read ▸ List.suffix_refl s, fun front bound short => ?_⟩
    obtain ⟨front', whole, run⟩ := (skipBlank_follows s).bind_apply_of_done rfl front short
    show (Scan.skipBlank >>= _) (Input.mk (front ++ s) bound) (Path.byteCount front) = _
    rw [run, read, outcome_done_here, whole, bind_apply, peek_apply]
    simp only [Option.bind_some]
    rw [if_neg opens]
    rfl

theorem readSegmentsTurn_shrinks (sofar : List Segment) (s : List Char) :
    Shrinks (readSegmentsTurn sofar) s := by
  intro next rest done
  rw [readSegmentsTurn_apply] at done
  split at done
  next opens =>
    have suffix := List.dropWhile_suffix isBlank (l := s)
    cases behind : s.dropWhile isBlank with
    | nil =>
      rw [behind] at opens
      contradiction
    | cons c t =>
      rw [behind] at opens suffix
      obtain ⟨-, past⟩ := Grammar.segment_alike (grammar_alikeBelow (t.length + 1)) opens
        (Nat.lt_succ_self t.length)
      have blank : Lexeme.skipBlank s = .done () (c :: t) := by simp [Lexeme.skipBlank, behind]
      rw [Reader.bind_done blank, Reader.bind_apply] at done
      cases read : grammar.segment (c :: t) with
      | failed e rest =>
        rw [read] at done
        cases done
      | done first rest =>
        rw [read] at done past
        cases done
        exact Nat.lt_of_lt_of_le (Nat.lt_succ_of_le past.length_le) suffix.length_le
  next => cases done

theorem segments_turn (sofar : List Segment) :
    ((sofar ++ ·) <$> grammar.segments : Reader Cause (List Segment)) =
      readSegmentsTurn sofar >>= Turn.elim (fun sofar => (sofar ++ ·) <$> grammar.segments) pure := by
  conv_lhs => rw [Grammar.grammar_segments, Grammar.segmentsRule]
  simp only [readSegmentsTurn, map_bind, bind_assoc]
  refine bind_congr fun c => ?_
  split
  · simp [Turn.elim, map_bind, Functor.map_map]
  · simp [Turn.elim]

theorem segments_follows (below : FollowsBelow g n) (sofar : List Segment) (hs : s.length ≤ n) :
    Follows (loop g.segmentsTurn sofar) ((sofar ++ ·) <$> grammar.segments) s :=
  loop_follows (fun sofar => (sofar ++ ·) <$> grammar.segments)
    (fun sofar s => congrFun (segments_turn sofar) s)
    (fun sofar _ ht => segmentsTurn_follows below sofar ht) readSegmentsTurn_shrinks sofar hs

/-! ## Terms -/

/-- A turn of a list of arguments as a reader. -/
def readArgumentsTurn (sofar : List Argument) : Reader Cause (Turn (List Argument) (List Argument)) := do
  let next ← grammar.argument
  Lexeme.skipBlank
  if (← Reader.peek) = some ',' then
    Reader.skip
    pure (.again (sofar ++ [next]))
  else pure (.leave (sofar ++ [next]))

theorem argumentsTurn_follows (below : FollowsBelow g n) (sofar : List Argument) (hs : s.length < n) :
    Follows (g.argumentsTurn sofar) (readArgumentsTurn sofar) s := by
  refine (below.argument s hs).bind fun next t _ _ => (skipBlank_follows t).bind fun _ u _ _ =>
    Follows.peek_bind ?_
  split
  · exact (advance_follows u).bind fun _ rest _ _ => Follows.pure _ rest
  · exact Follows.pure _ u

theorem argument_trims : Trims grammar.argument := fun s =>
  (Grammar.argument_alike (grammar_alikeBelow s.length) (Nat.le_refl _)).suffix

theorem readArgumentsTurn_shrinks (sofar : List Argument) (s : List Char) :
    Shrinks (readArgumentsTurn sofar) s := by
  refine Shrinks.bind argument_trims fun next t _ => Shrinks.bind skipBlank_trims fun _ u _ =>
    Shrinks.bind Trims.peek fun c v done => ?_
  obtain ⟨rfl, rfl⟩ : u.head? = c ∧ u = v := by simpa using done
  cases u with
  | nil => exact Shrinks.leave _ _
  | cons c u =>
    split
    · exact Shrinks.skip_bind (List.suffix_refl u)
    · exact Shrinks.leave _ _

theorem arguments_turn (sofar : List Argument) :
    ((sofar ++ ·) <$> grammar.arguments : Reader Cause (List Argument)) =
      readArgumentsTurn sofar >>= Turn.elim (fun sofar => (sofar ++ ·) <$> grammar.arguments) pure := by
  conv_lhs => rw [Grammar.grammar_arguments, Grammar.argumentsRule]
  simp only [readArgumentsTurn, map_bind, bind_assoc]
  refine bind_congr fun next => bind_congr fun _ => bind_congr fun c => ?_
  split
  · simp [Turn.elim, map_bind, Functor.map_map]
  · rfl

theorem arguments_follows (below : FollowsBelow g n) (sofar : List Argument) (hs : s.length < n) :
    Follows (loop g.argumentsTurn sofar) ((sofar ++ ·) <$> grammar.arguments) s :=
  loop_follows (fun sofar => (sofar ++ ·) <$> grammar.arguments)
    (fun sofar s => congrFun (arguments_turn sofar) s)
    (fun sofar _ ht => argumentsTurn_follows below sofar (Nat.lt_of_le_of_lt ht hs))
    readArgumentsTurn_shrinks sofar (Nat.le_refl _)

theorem call_follows (below : FollowsBelow g n) {c : Char} (small : isSmallLetter c = true)
    (head : s.head? = some c) (hs : s.length ≤ n) : Follows g.call grammar.call s := by
  obtain ⟨t, rfl⟩ : ∃ t, s = c :: t := by
    cases s with
    | nil => cases head
    | cons d s => exact ⟨s, by rw [Option.some.inj head]⟩
  refine (functionName_follows small t).bind fun function u _ hu =>
    (skipBlank_follows u).bind fun _ v _ hv => Follows.peek_bind ?_
  have hlen := le_of_suffix (hv.trans hu) hs
  have close (args : List Argument) (w : List Char) : Follows (do
      skipBlank
      expect ')'
      pure (Term.call function args)) (do
      Lexeme.skipBlank
      Lexeme.expect ')'
      pure (Term.call function args)) w :=
    (skipBlank_follows w).bind fun _ x _ _ => (expect_follows ')' x).bind fun _ y _ _ =>
      Follows.pure _ y
  split
  next opens =>
    refine (advance_follows v).bind fun _ w done _ => ?_
    obtain rfl : v.tail = w := by simpa using done
    refine (skipBlank_follows _).bind fun _ x _ hx => Follows.peek_bind ?_
    split
    · exact close [] x
    · exact (Follows.of_nil (arguments_follows below []
        (Nat.lt_of_le_of_lt hx.length_le (tail_lt opens hlen)))).bind fun args y _ _ => close args y
  next => exact Follows.fail _ v

theorem word_follows (below : FollowsBelow g n) {c : Char} (small : isSmallLetter c = true)
    (head : s.head? = some c) (hs : s.length ≤ n) :
    Follows (do
      match ← Scan.keyword? with
      | some value => pure (.literal value)
      | none => g.call) grammar.word s := by
  refine (keyword?_follows s).bind fun value t done _ => ?_
  cases value with
  | some value => exact Follows.pure _ t
  | none =>
    obtain rfl : s = t := by
      rw [readKeyword] at done
      split at done <;> cases done
      rfl
    exact call_follows below small head hs

theorem term_follows (below : FollowsBelow g n) (hs : s.length ≤ n) : Follows g.term grammar.term s := by
  refine (skipBlank_follows s).bind fun _ t _ ht => Follows.peek_bind ?_
  have ht := le_of_suffix ht hs
  cases head : t.head? with
  | none => exact Follows.fail _ t
  | some c =>
    dsimp only
    split
    · refine (advance_follows t).bind fun _ u _ hu => Follows.peek_bind ?_
      split
      · exact (Follows.of_nil (segments_follows below [] (le_of_suffix hu ht))).map _
      · exact Follows.pure _ u
    split
    · refine (advance_follows t).bind fun _ u _ hu => ?_
      refine (Follows.of_nil (segments_follows below [] (le_of_suffix hu ht))).bind fun segments v _ _ => ?_
      cases segments with
      | nil => exact Follows.pure _ v
      | cons first more => exact Follows.pure _ v
    split
    · exact (quoted_follows t).map _
    split
    · exact (number_follows t).map _
    split
    next small => exact word_follows below small head ht
    next => exact Follows.fail _ t

/-! ## Filters -/

theorem comparison_follows (below : FollowsBelow g n) (left : Term) (hs : s.length ≤ n) :
    Follows (g.comparison left) (grammar.comparison left) s := by
  refine (skipBlank_follows s).bind fun _ t _ ht => (comparison?_follows t).bind fun op u _ hu => ?_
  cases op with
  | some op =>
    exact (advanceBy_follows _ u).bind fun _ v _ hv =>
      (term_follows below (le_of_suffix (hv.trans (hu.trans ht)) hs)).map _
  | none =>
    dsimp only
    cases left.test? with
    | some f => exact Follows.pure f u
    | none => exact Follows.fail _ u

theorem unary_follows (below : FollowsBelow g n) (hs : s.length ≤ n) :
    Follows g.unaryRule grammar.unaryRule s := by
  refine (skipBlank_follows s).bind fun _ t _ ht => Follows.peek_bind ?_
  have ht := le_of_suffix ht hs
  split
  next head =>
    refine (advance_follows t).bind fun _ u done _ => ?_
    obtain rfl : t.tail = u := by simpa using done
    exact (below.unary _ (tail_lt head ht)).map _
  split
  next head =>
    refine (advance_follows t).bind fun _ u done _ => ?_
    obtain rfl : t.tail = u := by simpa using done
    exact (below.filter _ (tail_lt head ht)).bind fun f v _ _ => (skipBlank_follows v).bind fun _ w _ _ =>
      (expect_follows ')' w).bind fun _ x _ _ => Follows.pure _ x
  · exact (term_follows below ht).bind fun left u _ hu =>
      comparison_follows below left (le_of_suffix hu ht)

/-! ### Conjunctions and disjunctions -/

section Chains

variable {c : Char} {op : LogicOp} {part : Cursor Cause Filter} {readPart : Reader Cause Filter}

/-- Another part of a chain behind those read so far, which stands behind its sign. -/
def chainTurn (c : Char) (op : LogicOp) (part : Cursor Cause Filter) (left : Filter) :
    Cursor Cause (Turn Filter Filter) := do
  if ← peekWord [c, c] then
    advanceBy 2
    let right ← part
    skipBlank
    pure (.again (.logic op left right))
  else pure (.leave left)

/-- A turn of a chain as a reader. -/
def readChainTurn (c : Char) (op : LogicOp) (part : Reader Cause Filter) (left : Filter) :
    Reader Cause (Turn Filter Filter) := do
  if ← Reader.lookingAt [c, c] then
    Reader.skipMany 2
    let right ← part
    Lexeme.skipBlank
    pure (.again (.logic op left right))
  else pure (.leave left)

/-- The rest of a chain behind the white space that stands in front of it. -/
def readChainLoop (c : Char) (op : LogicOp) (part : Reader Cause Filter)
    (chain : Filter → Reader Cause Filter) (left : Filter) : Reader Cause Filter := do
  if ← Reader.lookingAt [c, c] then
    Reader.skipMany 2
    let right ← part
    chain (.logic op left right)
  else pure left

theorem chainTurn_follows (follows : ∀ t, t.length ≤ n → Follows part readPart t) (left : Filter)
    (hs : s.length ≤ n) : Follows (chainTurn c op part left) (readChainTurn c op readPart left) s := by
  refine Follows.peekWord_bind (fun _ => ?_) (Follows.pure _ s)
  exact (advanceBy_follows 2 s).bind fun _ t _ ht => (follows t (le_of_suffix ht hs)).bind
    fun right u _ _ => (skipBlank_follows u).bind fun _ v _ _ => Follows.pure _ v

theorem readChainTurn_shrinks (trims : Trims readPart) (left : Filter) (s : List Char) :
    Shrinks (readChainTurn c op readPart left) s := by
  refine Shrinks.bind (Trims.lookingAt _) fun found t done => ?_
  obtain ⟨rfl, rfl⟩ : [c, c].isPrefixOf s = found ∧ s = t := by simpa using done
  split
  next sign =>
    intro next rest done
    have behind : Trims (do
        let right ← readPart
        Lexeme.skipBlank
        pure (Turn.again (.logic op left right)) : Reader Cause (Turn Filter Filter)) :=
      trims.bind fun _ => skipBlank_trims.bind fun _ => Trims.pure _
    have short := behind.length_le (s.drop 2)
    rw [Reader.bind_done (Reader.skipMany_apply 2 s)] at done
    rw [done] at short
    exact Nat.lt_of_le_of_lt short
      (Grammar.drop_two_lt (List.isPrefixOf_iff_prefix.1 sign) (Nat.le_refl _))
  next => exact Shrinks.leave _ _

theorem readChainLoop_eq {chain : Filter → Reader Cause Filter}
    (chain_eq : ∀ left, chain left = Lexeme.skipBlank >>= fun _ => readChainLoop c op readPart chain left)
    (left : Filter) :
    readChainLoop c op readPart chain left =
      readChainTurn c op readPart left >>= Turn.elim (readChainLoop c op readPart chain) pure := by
  conv_lhs => rw [readChainLoop]
  simp only [readChainTurn, bind_assoc]
  refine bind_congr fun found => ?_
  split
  · simp only [chain_eq, bind_assoc, pure_bind, Turn.elim]
  · simp [Turn.elim]

theorem chain_follows {chain : Filter → Reader Cause Filter}
    (chain_eq : ∀ left, chain left = Lexeme.skipBlank >>= fun _ => readChainLoop c op readPart chain left)
    (follows : ∀ t, t.length ≤ n → Follows part readPart t) (trims : Trims readPart) (left : Filter)
    (hs : s.length ≤ n) :
    Follows (skipBlank >>= fun _ => loop (chainTurn c op part) left) (chain left) s := by
  rw [chain_eq]
  exact (skipBlank_follows s).bind fun _ t _ ht => loop_follows (readChainLoop c op readPart chain)
    (fun left s => congrFun (readChainLoop_eq chain_eq left) s)
    (fun left _ hu => chainTurn_follows follows left hu) (readChainTurn_shrinks trims) left
    (le_of_suffix ht hs)

end Chains

theorem unary_trims : Trims grammar.unaryRule := fun s =>
  (Grammar.unary_alike (grammar_alikeBelow s.length) (Nat.le_refl _)).suffix

theorem conjunctive_trims : Trims grammar.conjunctive := fun s =>
  (Grammar.conjunctive_alike (grammar_alikeBelow s.length) (Nat.le_refl _)).suffix

theorem conjunction_follows (below : FollowsBelow g n) (left : Filter) (hs : s.length ≤ n) :
    Follows (g.conjunction left) (grammar.conjunctionRule left) s := by
  refine chain_follows (fun left => ?_) (fun t ht => unary_follows below ht) unary_trims left hs
  rw [Grammar.conjunctionRule, Grammar.grammar_unary]
  simp only [Grammar.grammar_conjunction, readChainLoop]

theorem conjunctive_follows (below : FollowsBelow g n) (hs : s.length ≤ n) :
    Follows g.conjunctive grammar.conjunctive s := by
  exact (unary_follows below hs).bind fun left t _ ht =>
    conjunction_follows below left (le_of_suffix ht hs)

theorem disjunction_follows (below : FollowsBelow g n) (left : Filter) (hs : s.length ≤ n) :
    Follows (g.disjunction left) (grammar.disjunctionRule left) s := by
  refine chain_follows (fun left => ?_) (fun t ht => conjunctive_follows below ht) conjunctive_trims left
    hs
  rw [Grammar.disjunctionRule]
  simp only [Grammar.grammar_disjunction, readChainLoop]

theorem filter_follows (below : FollowsBelow g n) (hs : s.length ≤ n) :
    Follows g.filterRule grammar.filterRule s := by
  exact (conjunctive_follows below hs).bind fun left t _ ht =>
    disjunction_follows below left (le_of_suffix ht hs)

/-! ## Arguments -/

theorem lookingAtSign_bind {α : Type} {c : Cursor Cause α} {f : Bool → Reader Cause α}
    (h : Follows c (f ((Lexeme.comparison? s).isSome || ['&', '&'].isPrefixOf s ||
      ['|', '|'].isPrefixOf s)) s) :
    Follows c (Grammar.lookingAtSign >>= f) s := ⟨h.suffix, h.eq⟩

theorem argument_follows (below : FollowsBelow g n) (hs : s.length ≤ n) :
    Follows g.argumentRule grammar.argument s := by
  refine (skipBlank_follows s).bind fun _ t _ ht => Follows.peek_bind ?_
  have ht := le_of_suffix ht hs
  split
  · exact (filter_follows below ht).map _
  · refine (term_follows below ht).bind fun left u _ hu => (skipBlank_follows u).bind fun _ v _ hv => ?_
    have hv := le_of_suffix (hv.trans hu) ht
    refine comparison?_bind_left (Follows.peekWord_bind_left (Follows.peekWord_bind_left ?_))
    refine lookingAtSign_bind ?_
    split
    · exact (comparison_follows below left hv).bind fun test w _ hw =>
        (conjunction_follows below test (le_of_suffix hw hv)).bind fun test x _ hx =>
          (disjunction_follows below test (le_of_suffix (hx.trans hw) hv)).map _
    · exact Follows.pure _ v

/-! ## All texts -/

theorem upTo_follows (n : Nat) : FollowsBelow (upTo n) n := by
  induction n with
  | zero => constructor <;> (intros; contradiction)
  | succ n below =>
    exact {
      filter := fun s hs => by
        rw [Grammar.grammar_filter]
        exact filter_follows below (Nat.le_of_lt_succ hs)
      unary := fun s hs => by
        rw [Grammar.grammar_unary]
        exact unary_follows below (Nat.le_of_lt_succ hs)
      argument := fun s hs => argument_follows below (Nat.le_of_lt_succ hs) }

/-- The rules are run through as often as the bound allows, and that is enough. -/
theorem scanner_follows (n : Nat) : FollowsBelow scanner n where
  filter s _ := ⟨((upTo_follows (s.length + 1)).filter s (Nat.lt_succ_self _)).suffix,
    fun front bound short => ((upTo_follows bound).filter s short).eq front bound short⟩
  unary s _ := ⟨((upTo_follows (s.length + 1)).unary s (Nat.lt_succ_self _)).suffix,
    fun front bound short => ((upTo_follows bound).unary s short).eq front bound short⟩
  argument s _ := ⟨((upTo_follows (s.length + 1)).argument s (Nat.lt_succ_self _)).suffix,
    fun front bound short => ((upTo_follows bound).argument s short).eq front bound short⟩

theorem query_follows (s : List Char) : Follows query Path.reader s := by
  refine Follows.peek_bind ?_
  split
  · refine (advance_follows s).bind fun _ t _ _ => ?_
    refine (Follows.of_nil (segments_follows (scanner_follows t.length) [] (Nat.le_refl _))).bind
      fun segments u _ _ => (skipBlank_follows u).bind fun _ v _ _ => Follows.peek_bind ?_
    cases v.head? with
    | none => exact Follows.pure _ v
    | some c => exact Follows.fail _ v
  · exact Follows.fail _ s

end PathQuery.Scanner

namespace PathQuery.Path

open Cursor Scan Scanner

/-- The cursor has an outcome for every text, and it is what the grammar reads. -/
theorem scan_eq {text : String} {bound : Nat} (short : text.length < bound) :
    scan bound text = some (read text) := by
  have follows := (query_follows text.toList).eq [] bound (by rwa [String.length_toList])
  rw [List.nil_append] at follows
  rw [scan, read, show query ⟨text.toList, bound⟩ 0 = _ from follows]
  cases reader text.toList <;> rfl

/-- A failure lies between two characters of the text, or at its end. -/
theorem position_of_read_error {text : String} {e : ReadError} (h : read text = .error e) :
    (⟨e.position⟩ : String.Pos.Raw).IsValid text := by
  rw [isValid_iff_exists_append]
  rw [read] at h
  cases read : reader text.toList with
  | done p rest =>
    rw [read] at h
    cases h
  | failed cause rest =>
    rw [read] at h
    cases h
    have suffix := reader_trims text.toList
    rw [read] at suffix
    obtain ⟨front, whole⟩ := suffix
    refine ⟨front, rest, whole.symm, ?_⟩
    show byteCount text.toList - byteCount rest = _
    rw [← whole, Reading.rest, byteCount_append, Nat.add_sub_cancel]

/-- Reading a path with a cursor comes to an end for every text, and no slice on its way is missing: there
is an outcome, whatever the bound on loops and calls, as long as it is above the length of the text. It is a
path or a failure, which lies in the text and between two characters. From any such position, each turn of
a loop passes over a character or is the last one. -/
theorem scan_total (text : String) (bound : Nat) (short : text.length < bound) :
    scan bound text = some (read text) ∧
      (∀ e, read text = .error e →
        e.position ≤ text.utf8ByteSize ∧ (⟨e.position⟩ : String.Pos.Raw).IsValid text) ∧
      Advances scanner.segmentsTurn bound text ∧ Advances scanner.selectorsTurn bound text ∧
      Advances scanner.disjunctionTurn bound text ∧ Advances scanner.conjunctionTurn bound text ∧
      Advances scanner.argumentsTurn bound text ∧
      (∀ quote, Advances (quotedTurn quote) bound text) ∧
      ∀ p, Advances (runTurn p : Unit → Cursor ReadError.Cause _) bound text := by
  refine ⟨scan_eq short, fun e h => ?_, ?_, ?_, ?_, ?_, ?_, fun quote => ?_, fun p => ?_⟩
  · have valid := position_of_read_error h
    exact ⟨valid.le_utf8ByteSize, valid⟩
  · exact advances_of_follows
      (fun sofar s => segmentsTurn_follows (scanner_follows s.length) sofar (Nat.le_refl _))
      readSegmentsTurn_shrinks short
  · exact advances_of_follows
      (fun sofar s => selectorsTurn_follows (scanner_follows s.length) sofar (Nat.le_refl _))
      readSelectorsTurn_shrinks short
  · exact advances_of_follows
      (fun left s => chainTurn_follows (fun _ ht => conjunctive_follows (scanner_follows s.length) ht) left
        (Nat.le_refl _))
      (readChainTurn_shrinks conjunctive_trims) short
  · exact advances_of_follows
      (fun left s => chainTurn_follows (fun _ ht => unary_follows (scanner_follows s.length) ht) left
        (Nat.le_refl _))
      (readChainTurn_shrinks unary_trims) short
  · exact advances_of_follows
      (fun sofar s => argumentsTurn_follows (scanner_follows (s.length + 1)) sofar (Nat.lt_succ_self _))
      readArgumentsTurn_shrinks short
  · exact advances_of_follows (quotedTurn_follows quote) (readQuotedTurn_shrinks quote) short
  · exact advances_of_follows (fun _ => runTurn_follows p) (fun _ => readRunTurn_shrinks p) short

/-- A text that ends inside brackets: the outcome is a failure, at the end of the text. -/
theorem scan_total_openBracket :
    "$[".length < 3 ∧ scan 3 "$[" = some (.error ⟨.unexpectedEnd, 2⟩) ∧
      (⟨2⟩ : String.Pos.Raw).IsValid "$[" ∧ Advances scanner.selectorsTurn 3 "$[" := by
  have failed : read "$[" = .error ⟨.unexpectedEnd, 2⟩ := rfl
  obtain ⟨outcome, failure, -, advances, -⟩ := scan_total "$[" 3 (by decide)
  exact ⟨by decide, failed ▸ outcome, (failure _ failed).2, advances⟩

end PathQuery.Path
