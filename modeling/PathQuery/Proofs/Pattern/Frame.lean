import PathQuery.Pattern
import PathQuery.Proofs.Pattern.Counted
import PathQuery.Proofs.Pattern.Fenced.Branches

/-!
# Patterns in the frame of a whole match

To test a whole string, the text of a pattern is put into a group between the start and the end of the
text, and what is read is the framed text. That gives the pattern between two conditions only if the
frame keeps together: the group must end where the frame ends it. There are two ways in which it does
not. The pattern can have a closing parenthesis of its own that nothing opens; it closes the group of
the frame, and what is no pattern by itself may be one inside the frame. And a verbose pattern can end
in a comment, which takes the end of the frame with it. Besides, the frame is nested deeper than the
pattern and takes more space, so it can be beyond a limit that the pattern keeps. For every other text,
and in every dialect, the framed text is a pattern exactly if the text is one, and then it is the
pattern between its conditions.

## Main definitions

* `Tree.parse?`, `Tree.accepted?` — the form of a pattern, and the expression of a form.
* `Tree.framed`, `Expr.anchored` — forms and expressions in the frame.
* `Stray`, `RunsOn`, `Framable` — texts that the frame fits.

## Main results

* `Tree.parse?_frame_cases` — what is read in the frame.
* `Framable.expr?_frame` — the expression of a framed text.
* `Framable.of_read?` — patterns that the frame fits.
-/

namespace PathQuery.Pattern

open Reader

/-! ## Reading in the frame -/

/-- The pattern that a text holds as far as its form goes. -/
def Tree.parse? (text : List Char) : Option Tree :=
  match readBranches (2 * text.length + 2) false text with
  | .done (branches, _) [] => some (alternationOf branches)
  | _ => none

theorem Tree.read?_eq (text : List Char) :
    Tree.read? text =
      (Tree.parse? text).filter fun t => t.names.eraseDups.length = t.names.length := by
  unfold Tree.read? Tree.parse?
  generalize readBranches (2 * text.length + 2) false text = reading
  match reading with
  | .done (branches, _) [] => simp only [Option.filter_some, decide_eq_true_eq]
  | .done _ (_ :: _) => rfl
  | .failed _ _ => rfl

/-- The pattern of a frame. -/
def Tree.framed (t : Tree) : Tree :=
  .sequence [.assertion .lineStart, .group (.scoped []) t, .assertion .lineEnd]

/-- Behind the opening of a frame comes its group. -/
theorem readParts_frame (n : Nat) (s : List Char) :
    readParts (n + 2) false [] ('^' :: '(' :: '?' :: ':' :: s) =
      (do
        let (branches, _) ← readBranches n false
        readBehindGroup n false
          [.group (.scoped []) (alternationOf branches), .assertion .lineStart] : Scan _) s := by
  rfl

/-- Behind the group comes the end of the frame. -/
theorem readBehindGroup_fence (n : Nat) (t : Tree) :
    readBehindGroup (n + 2) false [.group (.scoped []) t, .assertion .lineStart] fence =
      .done (t.framed, false) [] := by
  rfl

/-- What is read inside the frame of a whole match, with the rounds that are left there. -/
def inFrame (p : List Char) : Reading Malformed (List Tree × Bool) :=
  readBranches (2 * p.length + 11) false (p ++ fence)

/-- The branches of a framed text start with the group of the frame. -/
theorem readBranches_frame (p : List Char) :
    readBranches (2 * (Extent.whole.frame p).length + 2) false (Extent.whole.frame p) =
      (readParts (2 * p.length + 13) false [] >>= fun (first, verbose) => do
        if (← peek) = some '|' then
          skip
          let (rest, verbose) ← readBranches (2 * p.length + 13) verbose
          pure (first :: rest, verbose)
        else pure ([first], verbose) : Scan _) ('^' :: '(' :: '?' :: ':' :: (p ++ fence)) := by
  have length : 2 * (Extent.whole.frame p).length + 2 = 2 * p.length + 13 + 1 := by
    simp only [Extent.frame, List.length_cons, List.length_append, List.length_nil]
    omega
  rw [length, readBranches]
  rfl

/-- A frame that is closed by its own parenthesis holds what is read inside it. -/
theorem Tree.parse?_frame {p : List Char} {branches : List Tree} {verbose : Bool}
    (h : inFrame p = .done (branches, verbose) fence) :
    Tree.parse? (Extent.whole.frame p) = some (alternationOf branches).framed := by
  unfold inFrame at h
  have first : readParts (2 * p.length + 13) false [] ('^' :: '(' :: '?' :: ':' :: (p ++ fence)) =
      .done ((alternationOf branches).framed, false) [] := by
    rw [readParts_frame, bind_done h]
    exact readBehindGroup_fence _ _
  rw [Tree.parse?, readBranches_frame, bind_done first]
  rfl

/-- A frame is not closed where no parenthesis comes. -/
theorem Tree.parse?_frame_eq_none {p : List Char}
    (h : ∀ x rest, inFrame p = .done x rest → rest.head? ≠ some ')') :
    Tree.parse? (Extent.whole.frame p) = none := by
  have first : ∃ e rest,
      readParts (2 * p.length + 13) false [] ('^' :: '(' :: '?' :: ':' :: (p ++ fence)) =
        .failed e rest := by
    rw [readParts_frame]
    unfold inFrame at h
    cases inside : readBranches (2 * p.length + 11) false (p ++ fence) with
    | done x rest =>
      rw [bind_done inside]
      refine ⟨.malformed, rest, ?_⟩
      show (if rest.head? = some ')' then _ else refuse : Scan (Tree × Bool)) rest = _
      rw [if_neg (h x rest inside)]
      rfl
    | failed e rest =>
      rw [bind_failed inside]
      exact ⟨e, rest, rfl⟩
  obtain ⟨e, rest, first⟩ := first
  rw [Tree.parse?, readBranches_frame, bind_failed first]

/-! ## When the frame fits -/

/-- The pattern has a closing parenthesis that nothing in it opens: reading stops in front of it. -/
def Stray (p : List Char) : Prop :=
  ∃ x rest, readBranches (2 * p.length + 2) false p = .done x (')' :: rest)

/-- The pattern ends in a comment, which goes on through the end of the frame. -/
def RunsOn (p : List Char) : Prop := ∃ x, inFrame p = .done x []

/-- A text that means the same inside the frame of a whole match: it has no parenthesis that would close
the frame; if it is a pattern by itself, it does not end in a comment; and if its form is that of a
pattern whose sets are all known, the limits of the dialect let it be in the frame just if they let it
be by itself. -/
structure Framable (d : Dialect) (p : List Char) : Prop where
  balanced : ¬Stray p
  closed : (d.expr? p).isSome → ¬RunsOn p
  room : ∀ t, Tree.read? p = some t → (t.expr? d Flags.initial).isSome → d.fits t.framed = d.fits t

/-- A pattern that takes the end of the frame with it leaves the frame open. -/
theorem RunsOn.parse?_frame {p : List Char} (h : RunsOn p) :
    Tree.parse? (Extent.whole.frame p) = none := by
  obtain ⟨x, through⟩ := h
  refine Tree.parse?_frame_eq_none fun y left h => ?_
  cases h.symm.trans through
  decide

/-- Within the frame, a text is read as it is by itself, or it leaves the frame open. -/
theorem Tree.parse?_frame_cases {p : List Char} (balanced : ¬Stray p) :
    (∃ t, Tree.parse? p = some t ∧
      (Tree.parse? (Extent.whole.frame p) = some t.framed ∨ RunsOn p)) ∨
    Tree.parse? p = none ∧ Tree.parse? (Extent.whole.frame p) = none := by
  cases readBranches_fenced (2 * p.length + 2) (2 * p.length + 11) false p (by omega) (by omega) with
  | @same x rest alone framed _ =>
    obtain ⟨branches, verbose⟩ := x
    match rest with
    | [] =>
      refine .inl ⟨alternationOf branches, ?_, .inl (Tree.parse?_frame framed)⟩
      rw [Tree.parse?, alone]
    | c :: rest =>
      refine .inr ⟨?_, Tree.parse?_frame_eq_none fun x left h => ?_⟩
      · rw [Tree.parse?, alone]
      · have text : left = c :: rest ++ fence := by
          cases h.symm.trans framed
          rfl
        rw [text]
        rintro ⟨⟩
        exact balanced ⟨_, _, alone⟩
  | @swallowed x alone framed _ =>
    obtain ⟨branches, verbose⟩ := x
    refine .inl ⟨alternationOf branches, ?_, .inr ⟨_, framed⟩⟩
    rw [Tree.parse?, alone]
  | failed alone framed =>
    refine .inr ⟨?_, Tree.parse?_frame_eq_none fun x left h => ?_⟩
    · rw [Tree.parse?, alone]
    · -- What is left is at most the sign behind the parenthesis.
      rcases List.suffix_cons_iff.1 (framed x left h) with rfl | none
      · decide
      · rw [List.suffix_nil.1 none]
        decide

/-! ## What the frame matches -/

/-- An expression between the start and the end of a text. -/
def Expr.anchored (e : Expr) : Expr := .seq (.look .textStart) (.seq e (.seq (.look .textEnd) .empty))

variable {d : Dialect}

theorem Tree.expr?_framed (t : Tree) :
    t.framed.expr? d Flags.initial =
      (t.expr? d Flags.initial).map fun (e, _) => (e.anchored, Flags.initial) := by
  have scope : Flags.initial.apply [] = Flags.initial := rfl
  simp only [Tree.framed, Tree.expr?, partsExpr?, scope]
  cases t.expr? d Flags.initial <;> rfl

theorem Tree.names_framed (t : Tree) : t.framed.names = t.names := by
  show [] ++ (t.names ++ ([] ++ [])) = _
  rw [List.nil_append, List.append_nil, List.append_nil]

/-- The expression of a form, if its groups have different names, it is within the limits and all its
sets are known. -/
def Tree.accepted? (d : Dialect) (t : Tree) : Option Expr :=
  if t.names.eraseDups.length = t.names.length ∧ d.fits t then
    (t.expr? d Flags.initial).map (·.1)
  else none

theorem Dialect.expr?_eq (text : List Char) :
    d.expr? text = (Tree.parse? text).bind (Tree.accepted? d) := by
  rw [Dialect.expr?, Tree.read?_eq]
  cases Tree.parse? text with
  | none => rfl
  | some t =>
    rw [Option.bind_some, Tree.accepted?, Option.filter_some]
    by_cases distinct : t.names.eraseDups.length = t.names.length
    · simp only [distinct, decide_true, if_true, true_and]
    · simp only [distinct, decide_false, Bool.false_eq_true, if_false, false_and]

/-- In the frame stands the same expression between its two conditions, if the limits do not matter. -/
theorem Tree.accepted?_framed {t : Tree}
    (room : t.names.eraseDups.length = t.names.length → (t.expr? d Flags.initial).isSome →
      d.fits t.framed = d.fits t) :
    t.framed.accepted? d = (t.accepted? d).map Expr.anchored := by
  rw [Tree.accepted?, Tree.accepted?, Tree.names_framed, Tree.expr?_framed]
  by_cases distinct : t.names.eraseDups.length = t.names.length
  · cases expr : t.expr? d Flags.initial with
    | none => simp
    | some found =>
      rw [room distinct (by rw [expr]; rfl)]
      by_cases fits : d.fits t = true
      · simp [distinct, fits]
      · simp [fits]
  · simp [distinct]

namespace Framable

variable {p : List Char}

/-- The expression of a framed text is that of the text between its two conditions. -/
theorem expr?_frame (h : Framable d p) :
    d.expr? (Extent.whole.frame p) = (d.expr? p).map Expr.anchored := by
  have closed := h.closed
  rw [Dialect.expr?_eq] at closed ⊢
  rw [Dialect.expr?_eq]
  obtain ⟨t, form, framed | runsOn⟩ | ⟨form, framed⟩ := Tree.parse?_frame_cases h.balanced
  · rw [form, framed]
    refine Tree.accepted?_framed fun distinct known => h.room t ?_ known
    rw [Tree.read?_eq, form, Option.filter_some, if_pos (decide_eq_true distinct)]
  · -- A comment that goes on through the frame is one that no pattern may end in.
    rw [form] at closed ⊢
    rw [runsOn.parse?_frame, Option.bind_some]
    cases found : t.accepted? d with
    | none => rfl
    | some e => exact absurd runsOn (closed (by rw [Option.bind_some, found]; rfl))
  · rw [form, framed]
    rfl

/-- The frame fits a pattern without a comment, if the limits do not tell it from the pattern in the
frame. -/
theorem of_read? {t : Tree} (read : Tree.read? p = some t) (plain : '#' ∉ p)
    (room : d.fits t.framed = d.fits t) : Framable d p := by
  have form : Tree.parse? p = some t := by
    rw [Tree.read?_eq] at read
    exact Option.eq_some_of_filter_eq_some read
  have balanced : ¬Stray p := by
    rintro ⟨x, rest, stopped⟩
    rw [Tree.parse?, stopped] at form
    cases form
  have closed : ¬RunsOn p := by
    rintro ⟨x, through⟩
    cases readBranches_fenced (2 * p.length + 2) (2 * p.length + 11) false p (by omega) (by omega) with
    | same alone framed _ =>
      have ends := congrArg List.length (Reading.done.inj (through.symm.trans framed)).2
      simp [fence] at ends
    | swallowed _ _ comment => exact plain comment
    | failed alone _ =>
      rw [Tree.parse?, alone] at form
      cases form
  refine ⟨balanced, fun _ => closed, fun t' read' _ => ?_⟩
  cases read.symm.trans read'
  exact room

end Framable

end PathQuery.Pattern
