import PathQuery.Proofs.Path.Watched

/-!
# White space in front of segments

White space may be put in front of any segment of a path, wherever in the text the segment stands: the path
that is read stays the same. The one exception is the first segment of a path from the candidate. The sign of
the candidate looks for the segment right behind itself, so with white space there the sign is read as the
candidate alone, and what reads on fails in front of the segment.

Where a segment stands in a text is found out by reading. It stands where the reader opens one, so where the
reader fails if it is not allowed to open one.

## Main definitions

* `Path.SegmentAt` — a segment of a text stands at a place.

## Main results

* `Path.read_spaced` — with white space in front of a segment the same path is read, unless the sign of the
  candidate stands right in front of it, and then none is read.
-/

namespace PathQuery

open Grammar Reader

/-- Whether a reading has failed. -/
def Reading.isFailed {ε α : Type} : Reading ε α → Bool
  | .done _ _ => false
  | .failed _ _ => true

namespace Grammar

variable {g h : Grammar} {n : Nat} {v : List Char}

/-! ## The depth of a stopped grammar -/

theorem AlikeBelow.stopAt (same : AlikeBelow g h n) : AlikeBelow (g.stopAt v) (h.stopAt v) n where
  segments s hs := by
    obtain ⟨eq, suffix⟩ := same.segments s hs
    by_cases stop : v.head?.any opensSegment = true ∧ s.dropWhile isBlank = v
    · have stopped (g : Grammar) : (g.stopAt v).segments s = .failed .unexpectedEnd s := if_pos stop
      refine ⟨(stopped g).trans (stopped h).symm, ?_⟩
      rw [stopped g]
      exact List.suffix_refl s
    · have on (g : Grammar) : (g.stopAt v).segments s = g.segments s := if_neg stop
      refine ⟨(on g).trans (eq.trans (on h).symm), ?_⟩
      rw [on g]
      exact suffix
  selectors := same.selectors
  filter := same.filter
  unary := same.unary
  conjunction := same.conjunction
  disjunction := same.disjunction
  arguments := same.arguments

theorem upToStop_alikeBelow (n k : Nat) : AlikeBelow (upToStop v n) (upToStop v (n + k)) n := by
  induction n with
  | zero => constructor <;> (intros; contradiction)
  | succ n ih => rw [Nat.succ_add]; exact ih.step.stopAt

/-! ## White space in front of a place -/

variable {v : Place} {x b rest : List Char} {a : List Segment}

/-- If a segment stands at the place, the segments from the front of the text on are read with white space
there as well, unless the sign of the candidate stands in front of it. -/
theorem segments_spaced (read : grammar.segments (x ++ v.text) = .done a rest) (opens : v.opens = true)
    (needed : ((upToStop v.text ((x ++ v.text).length + 1)).segments (x ++ v.text)).isFailed = true)
    (blank : b.all isBlank = true) (ne : b ≠ []) :
    (x.getLast? ≠ some '@' → grammar.segments (x ++ (b ++ v.text)) = .done a rest) ∧
      (x.getLast? = some '@' → ∃ cause t, grammar.segments (x ++ (b ++ v.text)) = .failed cause t) := by
  -- One depth is enough for both texts.
  have deep := grammar_alikeBelow ((x ++ v.text).length + 1 + b.length)
  have watches := watches_upTo (v := v) ((x ++ v.text).length + 1 + b.length)
  have spaced : v.Variant (b ++ v.text) := .spaced opens blank
  rw [(deep.segments (x ++ v.text) (by omega)).eq] at read
  rw [(deep.segments (x ++ (b ++ v.text)) (by simp only [List.length_append]; omega)).eq]
  by_cases none : x = []
  · subst none
    exact ⟨fun _ => watches.segments.blank opens _ (spaced.dropWhile_eq opens) a rest read, nofun⟩
  have behind : x ++ v.text ≠ v.text := fun same => none (List.append_left_eq_self.1 same)
  rcases (watches.segments.away (x ++ v.text) fun _ => behind).split x a rest rfl read with pass | opening
  · rw [((upToStop_alikeBelow _ b.length).segments _ (Nat.lt_succ_self _)).eq, pass.same, read] at needed
    cases needed
  · refine ⟨fun other => opening.spaced other _ spaced, fun candidate => ?_⟩
    have stuck := opening.stuck candidate _ spaced fun same => ne (List.append_left_eq_self.1 same)
    cases result : (upTo ((x ++ v.text).length + 1 + b.length)).segments (x ++ (b ++ v.text)) with
    | failed cause t => exact ⟨cause, t, rfl⟩
    | done a t => exact (stuck a t result).1.elim

end Grammar

namespace Path

/-- A segment of the text `u ++ v` stands from `v` on: `v` begins as a segment does, and a reader that is not
allowed to open a segment there cannot read the text. The depth is enough for any text of this length. -/
structure SegmentAt (u v : String) : Prop where
  opens : v.toList.head?.any opensSegment = true
  needed : ((upToStop v.toList (u ++ v).length).segments (u ++ v).toList.tail).isFailed = true

instance (u v : String) : Decidable (SegmentAt u v) :=
  decidable_of_iff (_ ∧ _) ⟨fun ⟨opens, needed⟩ => ⟨opens, needed⟩, fun h => ⟨h.opens, h.needed⟩⟩

/-- Signs of segments in a quoted name and in a number are not taken for segments. -/
example : ((List.range 34).filter fun n =>
    let text := "$.a[?@.b == $ ['.c'] || @.d < 1.5]".toList
    decide (SegmentAt (String.ofList (text.take n)) (String.ofList (text.drop n)))) = [1, 3, 6, 14, 25] := by
  decide +kernel

/-- With white space in front of a segment the same path is read. Right behind the sign of the candidate there
must be none. -/
theorem read_spaced {u v b : String} {p : Path} (h : read (u ++ v) = .ok p) (segment : SegmentAt u v)
    (blank : b.toList.all isBlank = true) (ne : b ≠ "") :
    (u.toList.getLast? ≠ some '@' → read (u ++ b ++ v) = .ok p) ∧
      (u.toList.getLast? = some '@' → ∃ e, read (u ++ b ++ v) = .error e) := by
  obtain ⟨s, rest, whole, first, behind⟩ := read_eq_ok_iff.1 h
  obtain ⟨opens, needed⟩ := segment
  cases front : v.toList with
  | nil =>
    rw [front] at opens
    cases opens
  | cons c t =>
    rw [front] at opens
    let place : Place := ⟨c, t, .inl opens⟩
    obtain ⟨x, start, rfl⟩ : ∃ x, u.toList = '$' :: x ∧ s = x ++ place.text := by
      rw [String.toList_append, front] at whole
      cases start : u.toList with
      | nil =>
        rw [start] at whole
        obtain ⟨rfl, -⟩ := List.cons.inj whole
        cases opens
      | cons d x =>
        rw [start] at whole
        obtain ⟨rfl, same⟩ := List.cons.inj whole
        exact ⟨x, rfl, same.symm⟩
    have text : (u ++ b ++ v).toList = '$' :: (x ++ (b.toList ++ place.text)) := by
      rw [String.toList_append, String.toList_append, start, front, List.append_assoc]
      rfl
    have last : u.toList.getLast? = some '@' ↔ x.getLast? = some '@' := by
      rw [start]
      cases x with
      | nil => decide
      | cons d x => rw [List.getLast?_cons_cons]
    have depth : (u ++ v).length = (x ++ place.text).length + 1 := by
      rw [← String.length_toList, whole, List.length_cons]
    rw [front, depth, whole] at needed
    have ne : b.toList ≠ [] := fun none => ne (String.toList_eq_nil_iff.1 none)
    obtain ⟨same, fails⟩ := segments_spaced first opens needed blank ne
    refine ⟨fun other => ?_, fun candidate => ?_⟩
    · exact read_eq_ok_iff.2 ⟨_, rest, text, same (mt last.2 other), behind⟩
    · obtain ⟨cause, t, failed⟩ := fails (last.1 candidate)
      cases result : read (u ++ b ++ v) with
      | error e => exact ⟨e, rfl⟩
      | ok q =>
        obtain ⟨s', rest', whole', first', -⟩ := read_eq_ok_iff.1 result
        rw [text] at whole'
        obtain ⟨-, rfl⟩ := List.cons.inj whole'
        rw [failed] at first'
        cases first'

/-- The first segment behind the sign of the document, in a comparison inside a filter. -/
theorem read_spaced_root :
    let p : Path := ⟨[[.name "a"], [.filter (.comparison .eq (.path .current [[.name "b"]])
      (.path .root [[.name "c"]]))]]⟩
    read ("$.a[?@.b == $" ++ ".c]") = .ok p ∧ SegmentAt "$.a[?@.b == $" ".c]" ∧
      " \n".toList.all isBlank = true ∧ " \n" ≠ "" ∧ "$.a[?@.b == $".toList.getLast? ≠ some '@' ∧
      read ("$.a[?@.b == $" ++ " \n" ++ ".c]") = .ok p := by
  intro p
  have here : read ("$.a[?@.b == $" ++ ".c]") = .ok p := rfl
  have segment : SegmentAt "$.a[?@.b == $" ".c]" := by decide +kernel
  have blank : " \n".toList.all isBlank = true := by decide
  have ne : " \n" ≠ "" := by decide
  have other : "$.a[?@.b == $".toList.getLast? ≠ some '@' := by decide
  exact ⟨here, segment, blank, ne, other, (read_spaced here segment blank ne).1 other⟩

/-- Behind the sign of the candidate white space is not accepted. -/
theorem not_read_of_spaced_candidate :
    ¬ ∀ (u v b : String) (p : Path), read (u ++ v) = .ok p → SegmentAt u v →
      b.toList.all isBlank = true → b ≠ "" → read (u ++ b ++ v) = .ok p := by
  intro spaced
  have same : read ("$[?@" ++ " " ++ ".a]") = .ok ⟨[[.filter (.existence .current [[.name "a"]])]]⟩ :=
    spaced "$[?@" ".a]" " " _ rfl (by decide +kernel) (by decide) (by decide)
  have fails : read ("$[?@" ++ " " ++ ".a]") = .error ⟨.unexpected '.', 5⟩ := rfl
  rw [fails] at same
  cases same

end Path

end PathQuery
