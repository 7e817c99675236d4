import Mathlib.Data.List.Find
import Mathlib.Data.List.TakeWhile
import PathQuery.Path.Grammar.Depth
import PathQuery.Proofs.Path.Follow
import PathQuery.Proofs.Reader.Settled

/-!
# Failures are decided by the text around them

The rules of the grammar look ahead for one character, for a sign of two, or for four hexadecimal digits,
so where a path cannot be read, nothing that stands further behind has a part in it. There are two places
where a rule looks further. Segments may have white space in front of them, and if none comes behind it, it
is left where it is; but whatever reads on passes over it. And a keyword is told from a function name by all
its letters and the character behind them; but a text that is no keyword is read as a function name, which
takes these letters off.

## Main definitions

* `Grammar.Decides` — the parts of a grammar are settled.

## Main results

* `Quoted.readBody_settled`, `Lexeme.readNumber_settled` — the words of a path.
* `Grammar.word_settled` — keywords and calls.
* `Grammar.Decides.step` — a grammar of settled parts has settled rules.
* `Path.read_error_append` — a failure stays the same, whatever stands four bytes behind it.
-/

namespace PathQuery

open Reader
open ReadError (Cause)

variable {ε : Type}

/-! ## Quoted texts -/

namespace Quoted

/-- A hexadecimal digit is one byte. -/
theorem utf8Size_of_hexValue? {c : Char} {n : Nat} (h : hexValue? c = some n) : c.utf8Size = 1 := by
  have small : c.toNat < 128 := by
    have le (a b : Char) : (a ≤ b) = (a.toNat ≤ b.toNat) := rfl
    have upper : '9'.toNat = 57 ∧ 'F'.toNat = 70 ∧ 'f'.toNat = 102 := by decide
    simp only [hexValue?, le] at h
    split at h
    · omega
    split at h
    · omega
    split at h
    · omega
    · cases h
  simp only [Char.utf8Size, UInt32.le_iff_toNat_le]
  exact if_pos (Nat.le_of_lt_succ small)

theorem byteCount_of_natOfHex? {cs : List Char} {n : Nat} (h : natOfHex? cs = some n) :
    Path.byteCount cs = cs.length := by
  have digits : ∀ (cs : List Char) (m n : Nat),
      cs.foldlM (fun n c => (hexValue? c).map (16 * n + ·)) m = some n →
        Path.byteCount cs = cs.length := by
    intro cs
    induction cs with
    | nil => exact fun _ _ _ => rfl
    | cons c cs ih =>
      intro m n h
      rw [List.foldlM_cons] at h
      cases hc : hexValue? c with
      | none =>
        rw [hc] at h
        cases h
      | some k =>
        rw [hc] at h
        rw [Path.byteCount, utf8Size_of_hexValue? hc, ih _ _ h, List.length_cons, Nat.add_comm]
  exact digits cs 0 n h

/-- Four hexadecimal digits are four bytes. -/
theorem readUnit_done_iff {bad : ε} {s rest : List Char} {n : Nat} :
    readUnit bad s = .done n rest ↔
      ∃ digits, s = digits ++ rest ∧ Path.byteCount digits = 4 ∧ natOfHex? digits = some n := by
  constructor
  · intro h
    unfold readUnit at h
    split at h
    next a b c d rest' =>
      cases number : natOfHex? [a, b, c, d] with
      | none => simp [number] at h
      | some m =>
        simp only [number, Reading.done.injEq] at h
        obtain ⟨rfl, rfl⟩ := h
        exact ⟨[a, b, c, d], rfl, byteCount_of_natOfHex? number, number⟩
    next => cases h
  · rintro ⟨digits, rfl, four, number⟩
    rw [byteCount_of_natOfHex? number] at four
    match digits, four with
    | [a, b, c, d], _ => simp [readUnit, number]

theorem readUnit_failed {bad e : ε} {s rest : List Char} (h : readUnit bad s = .failed e rest) :
    e = bad ∧ rest = s := by
  unfold readUnit at h
  split at h
  · split at h <;> cases h
    exact ⟨rfl, rfl⟩
  · cases h
    exact ⟨rfl, rfl⟩

theorem readUnit_settled (bad : ε) : Settled (readUnit bad) :=
  Settled.of_prefix (readUnit_trims bad) fun u long => by
    cases h : readUnit bad u with
    | done n rest =>
      obtain ⟨digits, rfl, four, number⟩ := readUnit_done_iff.1 h
      exact ⟨.done n rest, fun t => readUnit_done_iff.2 ⟨digits, List.append_assoc _ _ t, four, number⟩⟩
    | failed e rest =>
      obtain ⟨rfl, rfl⟩ := readUnit_failed h
      refine ⟨.failed e rest, fun t => ?_⟩
      -- Four digits in front of `t` would be four digits of the text already.
      cases h' : readUnit e (rest ++ t) with
      | done n rest' =>
        obtain ⟨digits, whole, four, number⟩ := readUnit_done_iff.1 h'
        have front : digits <+: rest := Path.prefix_of_byteCount_le (whole ▸ List.prefix_append _ _)
          (List.prefix_append _ t) (four ▸ long)
        obtain ⟨more, rfl⟩ := front
        rw [readUnit_done_iff.2 ⟨digits, rfl, four, number⟩] at h
        cases h
      | failed e' rest' =>
        obtain ⟨rfl, rfl⟩ := readUnit_failed h'
        rfl

theorem readCodePoint_settled (bad : ε) : Settled (readCodePoint bad) := by
  unfold readCodePoint
  refine (readUnit_settled bad).bind fun high => ?_
  split
  · refine (Settled.lookingAt (by decide)).bind fun more => ?_
    split
    · refine (Settled.skipMany 2).bind fun _ => (readUnit_settled bad).bind fun low => ?_
      split
      · exact Settled.pure _
      · exact Settled.fail _
    · exact Settled.fail _
  · split
    · exact Settled.fail _
    · exact Settled.pure _

theorem readEscape_settled (d : Dialect ε) : Settled (readEscape d) := by
  unfold readEscape
  refine Settled.peek.bind fun c => ?_
  split
  · exact Settled.skip.bind fun _ => readCodePoint_settled _
  · split
    · exact Settled.skip.bind fun _ => Settled.pure _
    · exact Settled.fail _
  · exact Settled.fail _

/-- A body is read character by character. -/
theorem readBody_cons (d : Dialect ε) (quote c : Char) (s : List Char) :
    readBody d quote (c :: s) =
      if c = quote then .done [] s
      else if c = '\\' then
        match readEscape d s with
        | .done meant rest => (readBody d quote rest).map (meant :: ·)
        | .failed cause rest => .failed cause rest
      else if d.plain c then (readBody d quote s).map (c :: ·)
      else .failed d.badChar (c :: s) := by
  rw [readBody]
  split
  · rfl
  split
  · split
    next h => rw [h]
    next h => rw [h]
  · rfl

theorem readBody_agree (d : Dialect ε) (quote : Char) (u v w : List Char) :
    Agree v w (readBody d quote (u ++ v)) (readBody d quote (u ++ w)) := by
  -- An escape may take several characters, so the induction is on the number of those left.
  induction hn : u.length using Nat.strongRecOn generalizing u with
  | _ n ih =>
    cases u with
    | nil => exact .inl (near_of_suffix_end (readBody_trims d quote v))
    | cons c t =>
      rw [List.cons_append, List.cons_append, readBody_cons, readBody_cons]
      split
      · exact .inr ⟨.done [] t, rfl, rfl⟩
      split
      · rcases (readEscape_settled d).agree t v w with near | ⟨r, hv, hw⟩
        · left
          cases h : readEscape d (t ++ v) with
          | done meant rest =>
            rw [h] at near
            rw [rest_map]
            exact near_of_suffix (readBody_trims d quote rest) near
          | failed cause rest =>
            rw [h] at near
            exact near
        · have left := (readEscape_trims d).length_le (t ++ v)
          rw [hv] at left ⊢
          rw [hw]
          cases r with
          | done meant x =>
            have shorter : x.length < n := by
              simp only [Reading.append, Reading.rest, List.length_append, List.length_cons] at left hn
              omega
            exact (ih x.length shorter x rfl).map _
          | failed cause x => exact .inr ⟨.failed cause x, rfl, rfl⟩
      split
      · have shorter : t.length < n := by simp [← hn]
        exact (ih t.length shorter t rfl).map _
      · exact .inr ⟨.failed d.badChar (c :: t), rfl, rfl⟩

theorem readBody_settled (d : Dialect ε) (quote : Char) : Settled (readBody d quote : Reader ε _) :=
  ⟨readBody_trims d quote, readBody_agree d quote⟩

end Quoted

/-! ## Numerals -/

namespace Numeral

theorem readSign_settled : Settled (readSign : Reader ε Bool) := by
  refine Settled.peek.bind fun d => ?_
  split
  · exact Settled.skip.bind fun _ => Settled.pure _
  · exact Settled.pure _

theorem readDigits_settled (bad : ε) : Settled (readDigits bad) := by
  refine Settled.peek.bind fun d => ?_
  cases d with
  | none => exact Settled.fail _
  | some d =>
    dsimp only
    split
    · exact Settled.takeWhile _
    · exact Settled.fail _

theorem readWhole_settled (bad : ε) : Settled (readWhole bad) := by
  refine Settled.peek.bind fun d => ?_
  split
  · refine Settled.skip.bind fun _ => Settled.peek.bind fun d => ?_
    cases d with
    | none => exact Settled.pure _
    | some d =>
      dsimp only
      split
      · exact Settled.fail _
      · exact Settled.pure _
  · exact readDigits_settled bad

theorem readFraction_settled (bad : ε) : Settled (readFraction bad) := by
  refine Settled.peek.bind fun d => ?_
  split
  · exact Settled.skip.bind fun _ => (readDigits_settled bad).map _
  · exact Settled.pure _

theorem readExponentSign_settled : Settled (readExponentSign : Reader ε Bool) := by
  refine Settled.peek.bind fun d => ?_
  split
  · exact Settled.skip.bind fun _ => Settled.pure _
  · exact Settled.skip.bind fun _ => Settled.pure _
  · exact Settled.pure _

theorem readExponent_settled (bad : ε) : Settled (readExponent bad) := by
  refine Settled.peek.bind fun d => ?_
  split
  · exact Settled.skip.bind fun _ => readExponentSign_settled.bind fun _ =>
      (readDigits_settled bad).bind fun _ => Settled.pure _
  · exact Settled.pure _

theorem read_settled (bad : ε) : Settled (read bad) :=
  readSign_settled.bind fun _ => (readWhole_settled bad).bind fun _ =>
    (readFraction_settled bad).bind fun _ => (readExponent_settled bad).bind fun _ => Settled.pure _

end Numeral

/-! ## Words -/

namespace Lexeme

theorem expect_settled (c : Char) : Settled (expect c) := by
  refine Settled.peek.bind fun d => ?_
  cases d with
  | none => exact Settled.fail _
  | some d =>
    dsimp only
    split
    · exact Settled.skip
    · exact Settled.fail _

theorem readName_settled : Settled readName := by
  refine Settled.peek.bind fun d => ?_
  cases d with
  | none => exact Settled.fail _
  | some d =>
    dsimp only
    split
    · exact (Settled.takeWhile _).map _
    · exact Settled.fail _

theorem readQuoted_settled : Settled readQuoted := by
  refine Settled.peek.bind fun d => ?_
  cases d with
  | none => exact Settled.fail _
  | some d =>
    dsimp only
    split
    · exact Settled.skip.bind fun _ => (Quoted.readBody_settled _ _).map _
    · exact Settled.fail _

theorem readInt_settled : Settled readInt := by
  refine Numeral.readSign_settled.bind fun negative => (Numeral.readWhole_settled _).bind fun digits => ?_
  split
  · exact Settled.pure _
  · exact Settled.fail _

theorem readOptionalInt_settled : Settled readOptionalInt := by
  refine Settled.skipBlank.bind fun _ => Settled.peek.bind fun d => ?_
  cases d with
  | none => exact Settled.pure _
  | some d =>
    dsimp only
    split
    · exact readInt_settled.map _
    · exact Settled.pure _

theorem readNumber_settled : Settled readNumber := by
  refine (Numeral.read_settled _).bind fun n => ?_
  split
  · exact Settled.pure _
  · exact Settled.fail _

theorem readFunctionName_settled : Settled readFunctionName := (Settled.takeWhile _).map _

/-- The signs of comparisons, in the order in which they are tried. -/
theorem comparison?_eq (s : List Char) :
    comparison? s = [CompareOp.eq, .ne, .le, .ge, .lt, .gt].find? fun op => op.chars.isPrefixOf s := by
  -- A sign of one character is not the front of one of two.
  have single {c : Char} {t : List Char} (h : ∀ u, t = '=' :: u → False) :
      [c, '='].isPrefixOf (c :: t) = false := by
    cases t with
    | nil => simp [List.isPrefixOf]
    | cons d u =>
      have other : '=' ≠ d := by
        rintro rfl
        exact h u rfl
      simp [List.isPrefixOf, other]
  unfold comparison?
  split
  case h_1 | h_2 | h_3 | h_4 => rfl
  case h_5 t le => simp [CompareOp.chars, single le]
  case h_6 t ge => simp [CompareOp.chars, single ge]
  case h_7 eq ne le ge lt gt =>
    symm
    rw [List.find?_eq_none]
    rintro op - found
    obtain ⟨t, rfl⟩ := List.isPrefixOf_iff_prefix.1 found
    cases op with
    | eq => exact eq t rfl
    | ne => exact ne t rfl
    | lt => exact lt t rfl
    | le => exact le t rfl
    | gt => exact gt t rfl
    | ge => exact ge t rfl

theorem comparison?_append {u : List Char} (long : 4 ≤ Path.byteCount u) (t : List Char) :
    comparison? (u ++ t) = comparison? u := by
  have short (op : CompareOp) : Path.byteCount op.chars ≤ Path.byteCount u :=
    Nat.le_trans (by cases op <;> decide) long
  simp only [comparison?_eq, Settled.isPrefixOf_append (short _)]

theorem peekComparison_settled : Settled peekComparison :=
  Settled.of_prefix peekComparison_trims fun u long => ⟨.done (comparison? u) u, fun t => by
    rw [peekComparison, comparison?_append long]
    rfl⟩

end Lexeme

namespace Grammar

open Lexeme

theorem lookingAtSign_settled : Settled lookingAtSign :=
  Settled.of_prefix lookingAtSign_trims fun u long =>
    ⟨.done ((comparison? u).isSome || ['&', '&'].isPrefixOf u || ['|', '|'].isPrefixOf u) u, fun t => by
      have and : Path.byteCount ['&', '&'] ≤ Path.byteCount u := Nat.le_trans (by decide) long
      have or : Path.byteCount ['|', '|'] ≤ Path.byteCount u := Nat.le_trans (by decide) long
      rw [lookingAtSign, comparison?_append long, Settled.isPrefixOf_append and,
        Settled.isPrefixOf_append or]
      rfl⟩

/-! ## Segments and selectors -/

/-- The parts of a grammar are settled, those that may end with segments behind white space. -/
structure Decides (g : Grammar) : Prop where
  segments : SettledBlank g.segments
  selectors : Settled g.selectors
  filter : SettledBlank g.filter
  unary : SettledBlank g.unary
  conjunction : ∀ left, SettledBlank (g.conjunction left)
  conjunction_skips : ∀ left, SkipsBlank (g.conjunction left)
  disjunction : ∀ left, SettledBlank (g.disjunction left)
  disjunction_skips : ∀ left, SkipsBlank (g.disjunction left)
  arguments : SettledBlank g.arguments

theorem sliceStep_settled : Settled sliceStep := by
  refine Settled.peek.bind fun d => ?_
  split
  · exact Settled.skip.bind fun _ => readOptionalInt_settled
  · exact Settled.pure _

theorem indexOrSlice_settled : Settled indexOrSlice := by
  refine readOptionalInt_settled.bind fun start =>
    Settled.skipBlank.bind fun _ => Settled.peek.bind fun d => ?_
  split
  · exact Settled.skip.bind fun _ => readOptionalInt_settled.bind fun stop =>
      Settled.skipBlank.bind fun _ => sliceStep_settled.bind fun step => Settled.pure _
  · cases start with
    | none => exact Settled.fail _
    | some i => exact Settled.pure _

theorem member_settled : Settled member := by
  refine Settled.skipBlank.bind fun _ => Settled.peek.bind fun d => ?_
  split
  · exact Settled.skip.bind fun _ => Settled.pure _
  · exact readName_settled.map _

variable {g : Grammar} (decides : Decides g)

include decides

theorem selector_settled : SettledBlank g.selector := by
  refine Settled.peek.bindBlank fun d => ?_
  cases d with
  | none => exact (Settled.fail _).blank
  | some c =>
    dsimp only
    split
    · exact (readQuoted_settled.map _).blank
    split
    · exact (Settled.skip.bind fun _ => Settled.pure _).blank
    split
    · exact Settled.skip.bindBlank fun _ => decides.filter.map _
    split
    · exact indexOrSlice_settled.blank
    · exact (Settled.fail _).blank

theorem selectors_settled : Settled g.selectorsRule := by
  refine Settled.skipBlank.bind fun _ => (selector_settled decides).bind
    (fun first => SkipsBlank.skipBlank _) fun first =>
      Settled.skipBlank.bind fun _ => Settled.peek.bind fun d => ?_
  cases d with
  | none => exact Settled.fail _
  | some c =>
    dsimp only
    split
    · exact Settled.skip.bind fun _ => decides.selectors.map _
    split
    · exact Settled.skip.bind fun _ => Settled.pure _
    · exact Settled.fail _

theorem brackets_settled : Settled g.brackets := by
  refine Settled.skipBlank.bind fun _ => Settled.peek.bind fun d => ?_
  split
  · exact Settled.fail _
  · exact decides.selectors

theorem descendants_settled : Settled g.descendants := by
  refine Settled.peek.bind fun d => ?_
  cases d with
  | none => exact Settled.fail _
  | some c =>
    dsimp only
    split
    · exact Settled.skip.bind fun _ => Settled.pure _
    split
    · exact Settled.skip.bind fun _ => (brackets_settled decides).map _
    split
    · exact readName_settled.map _
    · exact Settled.fail _

theorem segment_settled : Settled g.segment := by
  refine (Settled.lookingAt (by decide)).bind fun found => ?_
  split
  · exact (Settled.skipMany 2).bind fun _ => descendants_settled decides
  refine Settled.peek.bind fun d => ?_
  split
  · exact Settled.skip.bind fun _ => brackets_settled decides
  · exact (expect_settled _).bind fun _ => member_settled

omit decides in
/-- Segments are read where one is opened behind white space. -/
theorem segmentsRule_eq (s : List Char) : g.segmentsRule s =
    if (s.dropWhile isBlank).head?.any opensSegment = true then
      (g.segment >>= fun first => (first :: ·) <$> g.segments) (s.dropWhile isBlank)
    else .done [] s := by
  simp only [segmentsRule, bind_apply, peekBehindBlank]
  split <;> rfl

omit decides in
/-- With the white space behind it passed over, a list of segments passes over the white space in front
of a segment whether there is one or not. -/
theorem behindBlank_segmentsRule : behindBlank g.segmentsRule = (do
    skipBlank
    let c ← peek
    if c.any opensSegment then
      let first ← g.segment
      (first :: ·) <$> behindBlank g.segments
    else pure []) := by
  funext s
  rw [skipBlank_bind, bind_apply, peek_apply, behindBlank, bind_apply, segmentsRule_eq]
  dsimp only
  by_cases opens : (s.dropWhile isBlank).head?.any opensSegment = true
  · rw [if_pos opens, if_pos opens, bind_apply, bind_apply]
    cases g.segment (s.dropWhile isBlank) with
    | failed e rest => rfl
    | done first rest =>
      simp only [map_apply, behindBlank, bind_apply]
      cases g.segments rest <;> rfl
  · rw [if_neg opens, if_neg opens]
    rfl

theorem segments_settled : SettledBlank g.segmentsRule := by
  rw [SettledBlank, behindBlank_segmentsRule]
  refine Settled.skipBlank.bind fun _ => Settled.peek.bind fun c => ?_
  split
  · exact (segment_settled decides).bind fun first => Settled.map _ decides.segments
  · exact Settled.pure _

/-! ## Terms -/

/-- A call is a function name and what stands behind it. -/
theorem call_parts : ∃ behind : String → Reader Cause Term,
    g.call = readFunctionName >>= behind ∧ ∀ function, Settled (behind function) := by
  refine ⟨_, rfl, fun function => Settled.skipBlank.bind fun _ => Settled.peek.bind fun d => ?_⟩
  have close (args : List Argument) : Settled (do
      skipBlank
      expect ')'
      pure (Term.call function args)) :=
    Settled.skipBlank.bind fun _ => (expect_settled _).bind fun _ => Settled.pure _
  split
  · refine Settled.skip.bind fun _ => Settled.skipBlank.bind fun _ => Settled.peek.bind fun d => ?_
    split
    · exact close []
    · exact decides.arguments.bind (fun args => SkipsBlank.skipBlank _) close
  · exact Settled.fail _

theorem call_settled : Settled g.call := by
  obtain ⟨behind, parts, settled⟩ := call_parts decides
  rw [parts]
  exact readFunctionName_settled.bind settled

/-- What a keyword or a call leaves of a text that begins with the characters of a function name stands
behind them. -/
theorem word_rest {u v : List Char} (name : ∀ c ∈ u, isFunctionChar c = true) :
    (g.word (u ++ v)).rest <:+ v := by
  rw [word, bind_apply, readKeyword]
  cases found : keyword? (u ++ v) with
  | none =>
    obtain ⟨behind, parts, settled⟩ := call_parts decides
    have left : readFunctionName (u ++ v) =
        .done (String.ofList ((u ++ v).takeWhile isFunctionChar)) (v.dropWhile isFunctionChar) := by
      rw [readFunctionName, map_apply, takeWhile_apply, List.dropWhile_append_of_pos name]
      rfl
    show (g.call (u ++ v)).rest <:+ v
    rw [parts, bind_done left]
    exact ((settled _).trims _).trans (List.dropWhile_suffix _)
  | some k =>
    obtain ⟨word, value⟩ := k
    show (u ++ v).drop word.length <:+ v
    have starts := List.find?_some found
    have whole : u.length ≤ word.length := Nat.not_lt.1 fun inside => by
      have next : ((u ++ v).drop word.length).head? = some u[word.length] := by
        rw [List.head?_drop, List.getElem?_append_left inside, List.getElem?_eq_getElem inside]
      have char := isNameChar_of_isFunctionChar (name _ (List.getElem_mem inside))
      simp [startsWord, next, char] at starts
    rw [List.drop_append, List.drop_of_length_le whole, List.nil_append]
    exact List.drop_suffix _ v

omit decides in
/-- Whether a text begins with a word of the characters of function names is decided by the first other
character. -/
theorem startsWord_append {word run x : List Char} {c : Char}
    (hw : ∀ d ∈ word, isFunctionChar d = true) (hc : isFunctionChar c = false) (t : List Char) :
    startsWord word (run ++ c :: x ++ t) = startsWord word (run ++ c :: x) := by
  have fresh : c ∉ word := by
    intro member
    rw [hw c member] at hc
    cases hc
  have front (y : List Char) : word.isPrefixOf (run ++ c :: y) = word.isPrefixOf run := by
    rw [Bool.eq_iff_iff, List.isPrefixOf_iff_prefix, List.isPrefixOf_iff_prefix]
    refine ⟨fun found => ?_, fun found => found.trans (List.prefix_append _ _)⟩
    have upTo : run ++ [c] <+: run ++ c :: y := ⟨y, by simp⟩
    rcases List.prefix_or_prefix_of_prefix found upTo with short | long
    · rcases List.prefix_concat_iff.1 short with rfl | short
      · simp at fresh
      · exact short
    · exact absurd (long.subset (by simp)) fresh
  rw [List.append_assoc, List.cons_append, startsWord, startsWord, front, front]
  cases found : word.isPrefixOf run with
  | false => rfl
  | true =>
    obtain ⟨more, rfl⟩ := List.isPrefixOf_iff_prefix.1 found
    rw [List.append_assoc, List.append_assoc, List.drop_left, List.drop_left]
    cases more <;> rfl

omit decides in
theorem keyword?_append {u : List Char} (stops : u.dropWhile isFunctionChar ≠ []) (t : List Char) :
    keyword? (u ++ t) = keyword? u := by
  have parts := List.takeWhile_append_dropWhile (p := isFunctionChar) (l := u)
  have stop := Stops.of_dropWhile isFunctionChar u
  cases behind : u.dropWhile isFunctionChar with
  | nil => contradiction
  | cons c x =>
    rw [behind] at parts stop
    have letters : (keywords.all fun k => k.1.all isFunctionChar) = true := by decide
    rw [keyword?, keyword?, ← parts]
    exact List.find?_congr fun k member =>
      startsWord_append (List.all_eq_true.1 (List.all_eq_true.1 letters k member)) (stop c rfl) t

omit decides in
/-- A keyword is taken off the front. -/
theorem readKeyword_append {u t : List Char} (same : keyword? (u ++ t) = keyword? u) :
    readKeyword (u ++ t) = (readKeyword u).append t := by
  rw [readKeyword, readKeyword, same]
  cases found : keyword? u with
  | none => rfl
  | some k =>
    have starts := List.find?_some found
    have front : k.1 <+: u := by
      simp only [startsWord, Bool.and_eq_true] at starts
      exact List.isPrefixOf_iff_prefix.1 starts.1
    simp only [List.drop_append_of_le_length front.length_le]
    rfl

/-- A keyword is told from a function name by its letters, which are taken off in any case. -/
theorem word_settled : Settled g.word where
  trims := (readKeyword_trims).bind fun value => by
    cases value with
    | none => exact (call_settled decides).trims
    | some value => exact Trims.pure _
  agree u v w := by
    by_cases name : ∀ c ∈ u, isFunctionChar c = true
    · exact .inl (near_of_suffix_end (word_rest decides name))
    have stops : u.dropWhile isFunctionChar ≠ [] := fun none =>
      name (List.dropWhile_eq_nil_iff.1 none)
    rw [word, bind_apply, bind_apply, readKeyword_append (keyword?_append stops v),
      readKeyword_append (keyword?_append stops w)]
    cases readKeyword u with
    | failed e x => exact .inr ⟨.failed e x, rfl, rfl⟩
    | done value x =>
      cases value with
      | none => exact (call_settled decides).agree x v w
      | some value => exact .inr ⟨.done (.literal value) x, rfl, rfl⟩

theorem currentTerm_settled : SettledBlank g.currentTerm := by
  refine Settled.peek.bindBlank fun d => ?_
  split
  · exact decides.segments.map _
  · exact (Settled.pure _).blank

omit decides in
theorem rootTerm_eq : g.rootTerm =
    (fun segments => if segments.isEmpty then Term.root else .path .root segments) <$> g.segments := by
  refine congrArg (g.segments >>= ·) (funext fun segments => ?_)
  cases segments <;> rfl

theorem rootTerm_settled : SettledBlank g.rootTerm := by
  rw [rootTerm_eq]
  exact decides.segments.map _

theorem term_settled : SettledBlank g.term := by
  refine Settled.skipBlank.bindBlank fun _ => Settled.peek.bindBlank fun d => ?_
  cases d with
  | none => exact (Settled.fail _).blank
  | some c =>
    dsimp only
    split
    · exact Settled.skip.bindBlank fun _ => currentTerm_settled decides
    split
    · exact Settled.skip.bindBlank fun _ => rootTerm_settled decides
    split
    · exact (readQuoted_settled.map _).blank
    split
    · exact (readNumber_settled.map _).blank
    split
    · exact (word_settled decides).blank
    · exact (Settled.fail _).blank

/-! ## Filters -/

theorem comparison_settled (left : Term) : SettledBlank (g.comparison left) := by
  refine Settled.skipBlank.bindBlank fun _ => peekComparison_settled.bindBlank fun op => ?_
  cases op with
  | some op => exact (Settled.skipMany _).bindBlank fun _ => (term_settled decides).map _
  | none =>
    dsimp only
    cases left.test? with
    | some f => exact (Settled.pure _).blank
    | none => exact (Settled.fail _).blank

theorem unary_settled : SettledBlank g.unaryRule := by
  refine Settled.skipBlank.bindBlank fun _ => Settled.peek.bindBlank fun d => ?_
  split
  · exact Settled.skip.bindBlank fun _ => decides.unary.map _
  split
  · refine Settled.skip.bindBlank fun _ => Settled.blank ?_
    exact decides.filter.bind (fun f => SkipsBlank.skipBlank _) fun f =>
      Settled.skipBlank.bind fun _ => (expect_settled _).bind fun _ => Settled.pure _
  · exact (term_settled decides).bindBlank (fun left => SkipsBlank.skipBlank _)
      fun left => comparison_settled decides left

theorem conjunction_settled (left : Filter) : SettledBlank (g.conjunctionRule left) := by
  refine Settled.skipBlank.bindBlank fun _ => (Settled.lookingAt (by decide)).bindBlank fun found => ?_
  split
  · exact (Settled.skipMany 2).bindBlank fun _ => decides.unary.bindBlank
      (fun _ => decides.conjunction_skips _) fun _ => decides.conjunction _
  · exact (Settled.pure _).blank

theorem conjunctive_settled : SettledBlank g.conjunctive :=
  (unary_settled decides).bindBlank (fun _ => SkipsBlank.skipBlank _)
    fun left => conjunction_settled decides left

theorem disjunction_settled (left : Filter) : SettledBlank (g.disjunctionRule left) := by
  refine Settled.skipBlank.bindBlank fun _ => (Settled.lookingAt (by decide)).bindBlank fun found => ?_
  split
  · exact (Settled.skipMany 2).bindBlank fun _ => (conjunctive_settled decides).bindBlank
      (fun _ => decides.disjunction_skips _) fun _ => decides.disjunction _
  · exact (Settled.pure _).blank

theorem filter_settled : SettledBlank g.filterRule :=
  (conjunctive_settled decides).bindBlank (fun _ => SkipsBlank.skipBlank _)
    fun left => disjunction_settled decides left

theorem argument_settled : SettledBlank g.argument := by
  refine Settled.skipBlank.bindBlank fun _ => Settled.peek.bindBlank fun d => ?_
  split
  · exact (filter_settled decides).map _
  refine (term_settled decides).bindBlank (fun left => SkipsBlank.skipBlank _) fun left =>
    Settled.skipBlank.bindBlank fun _ => lookingAtSign_settled.bindBlank fun sign => ?_
  split
  · exact (comparison_settled decides left).bindBlank (fun test => SkipsBlank.bind (SkipsBlank.skipBlank _))
      fun test => (conjunction_settled decides test).bindBlank
        (fun test => SkipsBlank.bind (SkipsBlank.skipBlank _))
        fun test => (disjunction_settled decides test).map _
  · exact (Settled.pure _).blank

theorem arguments_settled : SettledBlank g.argumentsRule := by
  refine (argument_settled decides).bindBlank (fun first => SkipsBlank.skipBlank _) fun first =>
    Settled.skipBlank.bindBlank fun _ => Settled.peek.bindBlank fun d => ?_
  split
  · exact Settled.skip.bindBlank fun _ => decides.arguments.map _
  · exact (Settled.pure _).blank

/-! ## The grammar -/

theorem Decides.step : Decides g.step where
  segments := segments_settled decides
  selectors := selectors_settled decides
  filter := filter_settled decides
  unary := unary_settled decides
  conjunction left := conjunction_settled decides left
  conjunction_skips _ := SkipsBlank.skipBlank _
  disjunction left := disjunction_settled decides left
  disjunction_skips _ := SkipsBlank.skipBlank _
  arguments := arguments_settled decides

omit decides in
/-- To any depth the grammar is made by steps from parts that are settled. The innermost of them fail, and
the rests of conjunctions and disjunctions among them pass over white space first, as every step of
them does. -/
theorem exists_decides (n : Nat) : ∃ g, Decides g ∧ AlikeBelow grammar g n := by
  induction n with
  | zero =>
    have blank {α : Type} : SettledBlank (skipBlank >>= fun _ => fail .unexpectedEnd : Reader Cause α) :=
      Settled.skipBlank.bindBlank fun _ => (Settled.fail _).blank
    refine ⟨{ nothing with
      conjunction := fun _ => skipBlank >>= fun _ => fail .unexpectedEnd
      disjunction := fun _ => skipBlank >>= fun _ => fail .unexpectedEnd }, ?_, ?_⟩
    · exact {
        segments := (Settled.fail _).blank
        selectors := Settled.fail _
        filter := (Settled.fail _).blank
        unary := (Settled.fail _).blank
        conjunction := fun _ => blank
        conjunction_skips := fun _ => SkipsBlank.skipBlank _
        disjunction := fun _ => blank
        disjunction_skips := fun _ => SkipsBlank.skipBlank _
        arguments := (Settled.fail _).blank }
    · constructor <;> (intros; contradiction)
  | succ n ih =>
    obtain ⟨g, decides, alike⟩ := ih
    rw [grammar_eq_step]
    exact ⟨g.step, decides.step, alike.step⟩

end Grammar

open Grammar Lexeme

/-- On two texts the grammar reads as one of settled parts does, if that is deep enough for both. -/
theorem grammar_segments_settled : SettledBlank grammar.segments where
  trims := grammar_segments_trims.bind fun _ => skipBlank_trims.bind fun _ => Trims.pure _
  agree u v w := by
    obtain ⟨g, decides, alike⟩ := exists_decides (u.length + v.length + w.length + 1)
    have same (t : List Char) (h : t.length ≤ u.length + v.length + w.length) :
        behindBlank grammar.segments t = behindBlank g.segments t := by
      rw [behindBlank, behindBlank, bind_apply, bind_apply,
        (alike.segments t (Nat.lt_succ_of_le h)).eq]
    rw [same (u ++ v) (by simp), same (u ++ w) (by simp)]
    exact decides.segments.agree u v w

namespace Path

theorem reader_settled : Settled reader := by
  refine Settled.peek.bind fun c => ?_
  split
  · refine Settled.skip.bind fun _ => grammar_segments_settled.bind
      (fun segments => SkipsBlank.skipBlank _) fun segments =>
        Settled.skipBlank.bind fun _ => Settled.peek.bind fun c => ?_
    cases c with
    | none => exact Settled.pure _
    | some c => exact Settled.fail _
  · exact Settled.fail _

/-- Where reading fails is decided by the text up to four bytes behind that place: with anything else
behind them it fails there, and for the same cause. -/
theorem read_error_append {u v : String} {e : ReadError} (h : read (u ++ v) = .error e)
    (far : e.position + 4 ≤ u.utf8ByteSize) (w : String) : read (u ++ w) = .error e := by
  rw [read, String.toList_append, byteCount_append] at h ⊢
  rw [← byteCount_toList] at far
  rcases reader_settled.agree u.toList v.toList w.toList with near | ⟨r, hv, hw⟩
  · cases failure : reader (u.toList ++ v.toList) with
    | done p rest =>
      rw [failure] at h
      cases h
    | failed cause rest =>
      rw [failure] at h near
      cases h
      simp only [Reading.rest] at near far
      omega
  · rw [hv] at h
    rw [hw]
    cases r with
    | done p x => cases h
    | failed cause x =>
      cases h
      simp only [Reading.append, byteCount_append, Nat.add_sub_add_right]

/-- A comparison without its right side; the keyword behind the bracket would be one. -/
theorem read_error_append_noTerm :
    read ("$.a[?@.b == ]true" ++ " || $.c]") = .error ⟨.noTerm, 12⟩ ∧
      12 + 4 ≤ "$.a[?@.b == ]true".utf8ByteSize ∧
      read ("$.a[?@.b == ]true" ++ "('x')") = .error ⟨.noTerm, 12⟩ :=
  have fails : read ("$.a[?@.b == ]true" ++ " || $.c]") = .error ⟨.noTerm, 12⟩ := rfl
  have far : 12 + 4 ≤ "$.a[?@.b == ]true".utf8ByteSize := by decide
  ⟨fails, far, read_error_append fails far "('x')"⟩

end Path

end PathQuery
