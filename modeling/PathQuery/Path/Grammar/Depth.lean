import PathQuery.Path.Grammar
import PathQuery.Reader.Alike

/-!
# The depth of the grammar

A rule hands a part of the text to the grammar inside only behind a character that it has consumed. So
two grammars that read the shorter texts alike have steps that read a text alike, and a grammar of depth
`n` reads texts shorter than `n` as every deeper one does. The depth that `grammar` takes from the length
of the text is therefore never felt: the grammar is its own step, and its rules may be read as if they
referred to each other.

## Main definitions

* `Grammar.AlikeBelow` — two grammars read the texts below a length alike.

## Main results

* `Grammar.AlikeBelow.step` — grammars that are alike below a length have steps that are alike below the
  next one.
* `grammar_eq_step` — the grammar is its own step.
* `Path.reader_trims` — what the reader of paths leaves is an end of the text.
-/

namespace PathQuery

namespace Grammar

open Reader Lexeme
open ReadError (Cause)

/-- Two grammars read texts shorter than `n` alike. -/
structure AlikeBelow (g h : Grammar) (n : Nat) : Prop where
  segments : ∀ s, s.length < n → Alike g.segments h.segments s
  selectors : ∀ s, s.length < n → Alike g.selectors h.selectors s
  filter : ∀ s, s.length < n → Alike g.filter h.filter s
  unary : ∀ s, s.length < n → Alike g.unary h.unary s
  conjunction : ∀ left s, s.length < n → Alike (g.conjunction left) (h.conjunction left) s
  disjunction : ∀ left s, s.length < n → Alike (g.disjunction left) (h.disjunction left) s
  arguments : ∀ s, s.length < n → Alike g.arguments h.arguments s

variable {g h : Grammar} {n : Nat} {s : List Char}

/-! ## Segments and selectors -/

theorem lookingAtSign_trims : Trims lookingAtSign := fun s => List.suffix_refl s

theorem sliceStep_trims : Trims sliceStep := by
  refine Trims.bind Trims.peek fun d => ?_
  split
  · exact Trims.bind Trims.skip fun _ => readOptionalInt_trims
  · exact Trims.pure _

theorem indexOrSlice_trims : Trims indexOrSlice := by
  refine Trims.bind readOptionalInt_trims fun start =>
    Trims.bind skipBlank_trims fun _ => Trims.bind Trims.peek fun d => ?_
  split
  · exact Trims.bind Trims.skip fun _ => Trims.bind readOptionalInt_trims fun stop =>
      Trims.bind skipBlank_trims fun _ => Trims.bind sliceStep_trims fun step => Trims.pure _
  · cases start with
    | none => exact Trims.fail _
    | some i => exact Trims.pure _

theorem member_trims : Trims member := by
  refine Trims.bind skipBlank_trims fun _ => Trims.bind Trims.peek fun d => ?_
  split
  · exact Trims.bind Trims.skip fun _ => Trims.pure _
  · exact Trims.map _ readName_trims

theorem le_of_suffix {s t : List Char} {n : Nat} (h : t <:+ s) (hs : s.length ≤ n) :
    t.length ≤ n := Nat.le_trans h.length_le hs

theorem selector_alike (same : AlikeBelow g h n) (hs : s.length ≤ n) :
    Alike g.selector h.selector s := by
  refine Alike.peek_bind ?_
  cases s with
  | nil => exact Alike.of_trims (Trims.fail _) _
  | cons c t =>
    dsimp only [List.head?]
    split
    · exact Alike.of_trims (Trims.map _ readQuoted_trims) _
    split
    · exact Alike.of_trims (Trims.bind Trims.skip fun _ => Trims.pure _) _
    split
    · exact Alike.skip_bind c ((same.filter t hs).map _)
    split
    · exact Alike.of_trims indexOrSlice_trims _
    · exact Alike.of_trims (Trims.fail _) _

theorem selectors_alike (same : AlikeBelow g h n) (hs : s.length ≤ n) :
    Alike g.selectorsRule h.selectorsRule s := by
  refine Alike.after skipBlank_trims fun _ t ht => ?_
  refine (selector_alike same (le_of_suffix ht hs)).bind fun first u _ hu => ?_
  refine Alike.after skipBlank_trims fun _ v hv => Alike.peek_bind ?_
  have hlen := le_of_suffix (hv.trans (hu.trans ht)) hs
  cases v with
  | nil => exact Alike.of_trims (Trims.fail _) _
  | cons c w =>
    dsimp only [List.head?]
    split
    · exact Alike.skip_bind c ((same.selectors w hlen).map _)
    split
    · exact Alike.of_trims (Trims.bind Trims.skip fun _ => Trims.pure _) _
    · exact Alike.of_trims (Trims.fail _) _

theorem brackets_alike (same : AlikeBelow g h n) (hs : s.length < n) :
    Alike g.brackets h.brackets s := by
  refine Alike.after skipBlank_trims fun _ t ht => Alike.peek_bind ?_
  split
  · exact Alike.of_trims (Trims.fail _) _
  · exact same.selectors t (Nat.lt_of_le_of_lt ht.length_le hs)

theorem descendants_alike (same : AlikeBelow g h n) (hs : s.length ≤ n) :
    Alike g.descendants h.descendants s := by
  refine Alike.peek_bind ?_
  cases s with
  | nil => exact Alike.of_trims (Trims.fail _) _
  | cons c t =>
    dsimp only [List.head?]
    split
    · exact Alike.of_trims (Trims.bind Trims.skip fun _ => Trims.pure _) _
    split
    · exact Alike.skip_bind c ((brackets_alike same hs).map _)
    split
    · exact Alike.of_trims (Trims.map _ readName_trims) _
    · exact Alike.of_trims (Trims.fail _) _

theorem segment_descendants (t : List Char) : g.segment ('.' :: '.' :: t) = g.descendants t := rfl

theorem segment_brackets (t : List Char) : g.segment ('[' :: t) = g.brackets t := rfl

theorem segment_member {t : List Char} (ht : t.head? ≠ some '.') :
    g.segment ('.' :: t) = member t := by
  cases t with
  | nil => rfl
  | cons c t =>
    have hc : '.' ≠ c := fun hc => ht (by simp [← hc])
    simp [segment, bind_apply, expect, List.isPrefixOf, hc]

/-- Besides, a segment takes the character off that opens it. -/
theorem segment_alike (same : AlikeBelow g h n) {c : Char} {t : List Char} (hc : opensSegment c)
    (ht : t.length < n) :
    g.segment (c :: t) = h.segment (c :: t) ∧ (g.segment (c :: t)).rest <:+ t := by
  have hc : c = '.' ∨ c = '[' := by simpa [opensSegment] using hc
  obtain rfl | rfl := hc
  · by_cases hd : t.head? = some '.'
    · cases t with
      | nil => contradiction
      | cons d u =>
        obtain rfl : d = '.' := by simpa using hd
        obtain ⟨same, suffix⟩ := descendants_alike (s := u) same
          (Nat.le_of_lt (Nat.lt_of_succ_lt ht))
        exact ⟨same, suffix.trans (List.suffix_cons _ _)⟩
    · rw [segment_member hd, segment_member hd]
      exact ⟨rfl, member_trims t⟩
  · obtain ⟨same, suffix⟩ := brackets_alike (s := t) same ht
    exact ⟨same, suffix⟩

theorem segments_alike (same : AlikeBelow g h n) (hs : s.length ≤ n) :
    Alike g.segmentsRule h.segmentsRule s := by
  have peeked : Alike peekBehindBlank peekBehindBlank s := ⟨rfl, List.suffix_refl s⟩
  refine peeked.bind fun next t ht _ => ?_
  obtain ⟨rfl, rfl⟩ : (s.dropWhile isBlank).head? = next ∧ s = t := by
    simpa [peekBehindBlank] using ht
  split
  next opens =>
    refine (Alike.of_trims skipBlank_trims s).bind fun _ t ht suffix => ?_
    obtain rfl : s.dropWhile isBlank = t := by simpa [skipBlank] using ht
    cases ht : s.dropWhile isBlank with
    | nil =>
      rw [ht] at opens
      contradiction
    | cons c u =>
      rw [ht] at opens suffix
      have hu : u.length < n := le_of_suffix suffix hs
      obtain ⟨eq, past⟩ := segment_alike same opens hu
      refine Alike.bind ⟨eq, past.trans (List.suffix_cons c u)⟩ fun first v hv _ => ?_
      rw [hv] at past
      exact (same.segments v (Nat.lt_of_le_of_lt past.length_le hu)).map _
  next => exact Alike.of_trims (Trims.pure _) s

/-! ## Terms and filters -/

theorem call_alike (same : AlikeBelow g h n) (hs : s.length ≤ n) :
    Alike g.call h.call s := by
  refine Alike.after readFunctionName_trims fun function t ht => ?_
  refine Alike.after skipBlank_trims fun _ u hu => Alike.peek_bind ?_
  have hlen := le_of_suffix (hu.trans ht) hs
  have close (args : List Argument) : Trims (do
      skipBlank
      expect ')'
      pure (Term.call function args)) :=
    Trims.bind skipBlank_trims fun _ => Trims.bind (expect_trims _) fun _ => Trims.pure _
  split
  · cases u with
    | nil => contradiction
    | cons c v =>
      refine Alike.skip_bind c (Alike.after skipBlank_trims fun _ w hw => Alike.peek_bind ?_)
      split
      · exact Alike.of_trims (close []) _
      · exact (same.arguments w (Nat.lt_of_le_of_lt hw.length_le hlen)).bind fun args x _ _ =>
          Alike.of_trims (close args) x
  · exact Alike.of_trims (Trims.fail _) _

theorem currentTerm_alike (same : AlikeBelow g h n) (hs : s.length < n) :
    Alike g.currentTerm h.currentTerm s := by
  refine Alike.peek_bind ?_
  split
  · exact (same.segments s hs).map _
  · exact Alike.of_trims (Trims.pure _) _

theorem rootTerm_alike (same : AlikeBelow g h n) (hs : s.length < n) :
    Alike g.rootTerm h.rootTerm s := by
  refine (same.segments s hs).bind fun segments t _ _ => Alike.of_trims ?_ t
  cases segments <;> exact Trims.pure _

theorem word_alike (same : AlikeBelow g h n) (hs : s.length ≤ n) :
    Alike g.word h.word s := by
  refine Alike.after readKeyword_trims fun value t ht => ?_
  cases value with
  | none => exact call_alike same (le_of_suffix ht hs)
  | some value => exact Alike.of_trims (Trims.pure _) t

theorem term_alike (same : AlikeBelow g h n) (hs : s.length ≤ n) :
    Alike g.term h.term s := by
  refine Alike.after skipBlank_trims fun _ t ht => Alike.peek_bind ?_
  have ht := le_of_suffix ht hs
  cases t with
  | nil => exact Alike.of_trims (Trims.fail _) _
  | cons c t =>
    dsimp only [List.head?]
    split
    · exact Alike.skip_bind c (currentTerm_alike same ht)
    split
    · exact Alike.skip_bind c (rootTerm_alike same ht)
    split
    · exact Alike.of_trims (Trims.map _ readQuoted_trims) _
    split
    · exact Alike.of_trims (Trims.map _ readNumber_trims) _
    split
    · exact word_alike same ht
    · exact Alike.of_trims (Trims.fail _) _

theorem comparison_alike (same : AlikeBelow g h n) (left : Term) (hs : s.length ≤ n) :
    Alike (g.comparison left) (h.comparison left) s := by
  refine Alike.after skipBlank_trims fun _ t ht =>
    Alike.after peekComparison_trims fun op u hu => ?_
  have hu := le_of_suffix (hu.trans ht) hs
  cases op with
  | some op =>
    exact Alike.skipMany_bind _ ((term_alike same (le_of_suffix (List.drop_suffix _ u) hu)).map _)
  | none =>
    refine Alike.of_trims ?_ u
    dsimp only
    cases left.test? with
    | some f => exact Trims.pure _
    | none => exact Trims.fail _

theorem unary_alike (same : AlikeBelow g h n) (hs : s.length ≤ n) :
    Alike g.unaryRule h.unaryRule s := by
  refine Alike.after skipBlank_trims fun _ t ht => Alike.peek_bind ?_
  have ht := le_of_suffix ht hs
  split
  · cases t with
    | nil => contradiction
    | cons c t => exact Alike.skip_bind c ((same.unary t ht).map _)
  split
  · cases t with
    | nil => contradiction
    | cons c t =>
      exact Alike.skip_bind c ((same.filter t ht).bind fun f u _ _ =>
        Alike.of_trims (Trims.bind skipBlank_trims fun _ =>
          Trims.bind (expect_trims _) fun _ => Trims.pure _) u)
  · exact (term_alike same ht).bind fun left u _ hu =>
      comparison_alike same left (le_of_suffix hu ht)

theorem drop_two_lt {a b : Char} {s : List Char} (h : [a, b] <+: s) (hs : s.length ≤ n) :
    (s.drop 2).length < n := by
  have := h.length_le
  simp only [List.length_cons, List.length_nil, List.length_drop] at *
  omega

theorem conjunction_alike (same : AlikeBelow g h n) (left : Filter) (hs : s.length ≤ n) :
    Alike (g.conjunctionRule left) (h.conjunctionRule left) s := by
  refine Alike.after skipBlank_trims fun _ t ht =>
    Alike.lookingAt_bind (fun found => ?_) (Alike.of_trims (Trims.pure _) t)
  have hlen := drop_two_lt found (le_of_suffix ht hs)
  exact Alike.skipMany_bind 2 ((same.unary _ hlen).bind fun right u _ hu =>
    same.conjunction _ u (Nat.lt_of_le_of_lt hu.length_le hlen))

theorem conjunctive_alike (same : AlikeBelow g h n) (hs : s.length ≤ n) :
    Alike g.conjunctive h.conjunctive s :=
  (unary_alike same hs).bind fun left _ _ ht => conjunction_alike same left (le_of_suffix ht hs)

theorem disjunction_alike (same : AlikeBelow g h n) (left : Filter) (hs : s.length ≤ n) :
    Alike (g.disjunctionRule left) (h.disjunctionRule left) s := by
  refine Alike.after skipBlank_trims fun _ t ht =>
    Alike.lookingAt_bind (fun found => ?_) (Alike.of_trims (Trims.pure _) t)
  have hlen := drop_two_lt found (le_of_suffix ht hs)
  exact Alike.skipMany_bind 2 ((conjunctive_alike same (Nat.le_of_lt hlen)).bind fun right u _ hu =>
    same.disjunction _ u (Nat.lt_of_le_of_lt hu.length_le hlen))

theorem filter_alike (same : AlikeBelow g h n) (hs : s.length ≤ n) :
    Alike g.filterRule h.filterRule s :=
  (conjunctive_alike same hs).bind fun left _ _ ht =>
    disjunction_alike same left (le_of_suffix ht hs)

theorem argument_alike (same : AlikeBelow g h n) (hs : s.length ≤ n) :
    Alike g.argument h.argument s := by
  refine Alike.after skipBlank_trims fun _ t ht => Alike.peek_bind ?_
  have ht := le_of_suffix ht hs
  split
  · exact (filter_alike same ht).map _
  · refine (term_alike same ht).bind fun left u _ hu => Alike.after skipBlank_trims fun _ v hv =>
      Alike.after lookingAtSign_trims fun sign w hw => ?_
    have hw := le_of_suffix (hw.trans (hv.trans hu)) ht
    cases sign with
    | false => exact Alike.of_trims (Trims.pure _) w
    | true =>
      exact (comparison_alike same left hw).bind fun test x _ hx =>
        (conjunction_alike same test (le_of_suffix hx hw)).bind fun test y _ hy =>
          (disjunction_alike same test (le_of_suffix (hy.trans hx) hw)).map _

theorem arguments_alike (same : AlikeBelow g h n) (hs : s.length ≤ n) :
    Alike g.argumentsRule h.argumentsRule s := by
  refine (argument_alike same hs).bind fun first t _ ht =>
    Alike.after skipBlank_trims fun _ u hu => Alike.peek_bind ?_
  have hu := le_of_suffix (hu.trans ht) hs
  split
  · cases u with
    | nil => contradiction
    | cons c u => exact Alike.skip_bind c ((same.arguments u hu).map _)
  · exact Alike.of_trims (Trims.pure _) u

/-! ## Depths -/

theorem AlikeBelow.step (same : AlikeBelow g h n) : AlikeBelow g.step h.step (n + 1) where
  segments _ hs := segments_alike same (Nat.le_of_lt_succ hs)
  selectors _ hs := selectors_alike same (Nat.le_of_lt_succ hs)
  filter _ hs := filter_alike same (Nat.le_of_lt_succ hs)
  unary _ hs := unary_alike same (Nat.le_of_lt_succ hs)
  conjunction left _ hs := conjunction_alike same left (Nat.le_of_lt_succ hs)
  disjunction left _ hs := disjunction_alike same left (Nat.le_of_lt_succ hs)
  arguments _ hs := arguments_alike same (Nat.le_of_lt_succ hs)

theorem upTo_alikeBelow (n k : Nat) : AlikeBelow (upTo n) (upTo (n + k)) n := by
  induction n with
  | zero => constructor <;> (intros; contradiction)
  | succ n ih => rw [Nat.succ_add]; exact ih.step

theorem alikeBelow_upTo (hs : s.length < n) :
    AlikeBelow (upTo (s.length + 1)) (upTo n) (s.length + 1) := by
  have deeper := upTo_alikeBelow (s.length + 1) (n - (s.length + 1))
  rwa [Nat.add_sub_cancel' hs] at deeper

theorem grammar_alikeBelow (n : Nat) : AlikeBelow grammar (upTo n) n where
  segments s hs := ((alikeBelow_upTo hs).segments s (Nat.lt_succ_self _)).congr_left rfl
  selectors s hs := ((alikeBelow_upTo hs).selectors s (Nat.lt_succ_self _)).congr_left rfl
  filter s hs := ((alikeBelow_upTo hs).filter s (Nat.lt_succ_self _)).congr_left rfl
  unary s hs := ((alikeBelow_upTo hs).unary s (Nat.lt_succ_self _)).congr_left rfl
  conjunction left s hs := ((alikeBelow_upTo hs).conjunction left s (Nat.lt_succ_self _)).congr_left rfl
  disjunction left s hs := ((alikeBelow_upTo hs).disjunction left s (Nat.lt_succ_self _)).congr_left rfl
  arguments s hs := ((alikeBelow_upTo hs).arguments s (Nat.lt_succ_self _)).congr_left rfl

end Grammar

open Grammar Reader Lexeme

/-- The grammar is its own step: every rule may use the whole grammar for the parts inside. -/
theorem grammar_eq_step : grammar = grammar.step := by
  have alike (s : List Char) : AlikeBelow grammar.step (upTo (s.length + 1)) (s.length + 1) :=
    (grammar_alikeBelow s.length).step
  have here (s : List Char) : s.length < s.length + 1 := Nat.lt_succ_self _
  show Grammar.mk _ _ _ _ _ _ _ = Grammar.mk _ _ _ _ _ _ _
  congr 1
  · exact funext fun s => ((alike s).segments s (here s)).eq.symm
  · exact funext fun s => ((alike s).selectors s (here s)).eq.symm
  · exact funext fun s => ((alike s).filter s (here s)).eq.symm
  · exact funext fun s => ((alike s).unary s (here s)).eq.symm
  · exact funext fun left => funext fun s => ((alike s).conjunction left s (here s)).eq.symm
  · exact funext fun left => funext fun s => ((alike s).disjunction left s (here s)).eq.symm
  · exact funext fun s => ((alike s).arguments s (here s)).eq.symm

theorem grammar_segments_trims : Trims grammar.segments := fun s =>
  ((grammar_alikeBelow (s.length + 1)).segments s (Nat.lt_succ_self _)).suffix

theorem Path.reader_trims : Trims Path.reader := by
  refine Trims.bind Trims.peek fun c => ?_
  split
  · refine Trims.bind Trims.skip fun _ => Trims.bind grammar_segments_trims fun segments =>
      Trims.bind skipBlank_trims fun _ => Trims.bind Trims.peek fun c => ?_
    cases c with
    | none => exact Trims.pure _
    | some c => exact Trims.fail _
  · exact Trims.fail _

end PathQuery
