import Mathlib.Data.List.TakeDrop
import PathQuery.Pattern.Reader

/-!
# Readers of patterns only take from the front

Every reader of a part of a pattern leaves an end of the text that it was given, and those that start with
a sign of their own leave an end of what is behind its first character.

## Main definitions

* `Consumes` — a reader takes at least one character off the text.

## Main results

* `readBrackets_trims`, `readBranches_trims` — classes and patterns only take from the front.
* `readBrackets_consumes`, `readItem_consumes` — classes and their elements take a character.
-/

namespace PathQuery.Pattern

open Reader

variable {α β : Type} {verbose : Bool}

theorem tail_suffix_tail {s t : List Char} (h : s <:+ t) : s.tail <:+ t.tail := by
  obtain ⟨front, rfl⟩ := h
  cases front with
  | nil => exact List.suffix_refl _
  | cons c front => exact (List.tail_suffix s).trans (List.suffix_append front s)

/-- What the reader leaves is an end of the text, and of the text behind its first character if it gives a
value. -/
structure Consumes (r : Scan α) : Prop where
  trims : Trims r
  suffix_tail : ∀ s x rest, r s = .done x rest → rest <:+ s.tail

theorem refuse_trims : Trims (refuse : Scan α) := Trims.fail _

theorem suffix_of_trims {r : Scan α} (hr : Trims r) {s rest : List Char} {x : α}
    (h : r s = .done x rest) : rest <:+ s := by
  have left := hr s
  rwa [h] at left

namespace Consumes

variable {r : Scan α} {f : α → Scan β}

theorem bind (hr : Consumes r) (hf : ∀ x, Trims (f x)) : Consumes (r >>= f) where
  trims := hr.trims.bind hf
  suffix_tail s y rest h := by
    rw [bind_apply] at h
    cases first : r s with
    | done x middle =>
      rw [first] at h
      exact (suffix_of_trims (hf x) h).trans (hr.suffix_tail s x middle first)
    | failed e middle =>
      rw [first] at h
      cases h

/-- The first of two readers may take nothing. -/
theorem after (hr : Trims r) (hf : ∀ x, Consumes (f x)) : Consumes (r >>= f) where
  trims := hr.bind fun x => (hf x).trims
  suffix_tail s y rest h := by
    rw [bind_apply] at h
    cases first : r s with
    | done x middle =>
      rw [first] at h
      have left := tail_suffix_tail (suffix_of_trims hr first)
      exact ((hf x).suffix_tail middle y rest h).trans left
    | failed e middle =>
      rw [first] at h
      cases h

theorem map (g : α → β) (hr : Consumes r) : Consumes (g <$> r) := hr.bind fun x => Trims.pure (g x)

theorem skip : Consumes (skip : Scan Unit) where
  trims := Trims.skip
  suffix_tail s x rest h := by
    cases h
    exact List.suffix_refl _

theorem refuse : Consumes (refuse : Scan α) where
  trims := refuse_trims
  suffix_tail s x rest h := by cases h

theorem length_lt (hr : Consumes r) {s rest : List Char} {x : α} (h : r s = .done x rest)
    (nonempty : s ≠ []) : rest.length < s.length := by
  have shorter := (hr.suffix_tail s x rest h).length_le
  have := List.length_pos_iff.2 nonempty
  rw [List.length_tail] at shorter
  omega

end Consumes

/-! ## Steps -/

theorem dropSpaceFrom_suffix (inComment : Bool) (s : List Char) : dropSpaceFrom inComment s <:+ s := by
  induction s generalizing inComment with
  | nil => exact List.suffix_refl _
  | cons c rest ih =>
    rw [dropSpaceFrom]
    split
    · exact (ih _).trans (List.suffix_cons c rest)
    · split
      · exact (ih _).trans (List.suffix_cons c rest)
      · split
        · exact (ih _).trans (List.suffix_cons c rest)
        · exact List.suffix_refl _

theorem dropSpace_suffix (verbose : Bool) (s : List Char) : dropSpace verbose s <:+ s := by
  rw [dropSpace]
  split
  · exact dropSpaceFrom_suffix false s
  · exact List.suffix_refl _

theorem skipSpace_trims : Trims (skipSpace verbose) := dropSpace_suffix verbose

theorem step_consumes : Consumes (step verbose) where
  trims s := (dropSpace_suffix verbose s.tail).trans (List.tail_suffix s)
  suffix_tail s x rest h := by
    cases h
    exact dropSpace_suffix verbose _

theorem peekChar_trims : Trims peekChar := by
  refine Trims.bind Trims.peek fun d => ?_
  cases d with
  | none => exact refuse_trims
  | some d => exact Trims.pure d

theorem stepWithin_consumes : Consumes (stepWithin verbose) :=
  step_consumes.bind fun _ => peekChar_trims.bind fun _ => Trims.pure _

theorem spacedRun_suffix (verbose : Bool) (p : Char → Bool) (n : Nat) (s : List Char) :
    (spacedRun verbose p n s).2 <:+ s := by
  induction n generalizing s with
  | zero => exact List.suffix_refl _
  | succ n ih =>
    cases s with
    | nil => exact List.suffix_refl _
    | cons c rest =>
      rw [spacedRun]
      split
      · exact (ih _).trans ((dropSpace_suffix verbose rest).trans (List.suffix_cons c rest))
      · exact List.suffix_refl _

theorem takeSpaced_trims (p : Char → Bool) : Trims (takeSpaced verbose p) := fun s =>
  spacedRun_suffix verbose p s.length s

/-! ## Escapes -/

theorem readHexDigits_trims (n : Nat) : Trims (readHexDigits verbose n) := by
  induction n with
  | zero => exact Trims.pure _
  | succ n ih =>
    refine Trims.bind peekChar_trims fun c => ?_
    split
    · exact step_consumes.trims.bind fun _ => ih.map _
    · exact refuse_trims

theorem charOfHex_trims (digits : List Char) : Trims (charOfHex digits) := by
  unfold charOfHex
  split
  · exact Trims.pure _
  · exact refuse_trims

theorem readHex_trims (letter : Char) : Trims (readHex verbose letter) := by
  refine stepWithin_consumes.trims.bind fun _ => Trims.bind peekChar_trims fun c => ?_
  split
  · refine stepWithin_consumes.trims.bind fun _ => Trims.bind (takeSpaced_trims _) fun digits =>
      Trims.bind peekChar_trims fun c => ?_
    split
    · exact step_consumes.trims.bind fun _ => (charOfHex_trims _).map _
    · exact refuse_trims
  · exact Trims.bind (readHexDigits_trims _) fun digits => (charOfHex_trims _).map _

theorem readProperty_trims (letter : Char) : Trims (readProperty verbose letter) := by
  refine stepWithin_consumes.trims.bind fun _ => Trims.bind peekChar_trims fun c => ?_
  split
  · exact stepWithin_consumes.trims.bind fun _ => Trims.bind (takeSpaced_trims _) fun text =>
      Trims.bind peekChar_trims fun _ => Trims.bind Trims.skip fun _ => Trims.pure _
  · split
    · exact refuse_trims
    · exact step_consumes.trims.bind fun _ => Trims.pure _

theorem readWordBoundary_trims : Trims (readWordBoundary verbose) := by
  intro s
  unfold readWordBoundary
  split
  next rest =>
    have inside := (dropSpace_suffix verbose rest).trans (List.suffix_cons '\x7b' rest)
    split
    · exact List.suffix_refl _
    next c rest' h =>
      rw [h] at inside
      dsimp only
      split
      · have run := (spacedRun_suffix verbose (fun c => c.isAlpha || c == '-')
          (rest'.length + 1) (c :: rest')).trans inside
        split
        next behind _ same _ =>
          rw [same] at run
          exact (List.suffix_cons _ _).trans run
        · exact List.suffix_refl _
      · exact List.suffix_refl _
  · exact List.suffix_refl _

theorem readEscape_consumes : Consumes (readEscape verbose) := by
  refine Consumes.bind Consumes.skip fun _ => Trims.bind peekChar_trims fun c => ?_
  split
  · exact (readHex_trims c).map _
  split
  · exact readProperty_trims c
  split
  · exact Trims.bind Trims.skip fun _ => readWordBoundary_trims
  split
  · exact Trims.bind Trims.skip fun _ => Trims.pure _
  split
  · exact Trims.bind Trims.skip fun _ => Trims.pure _
  · exact refuse_trims

/-! ## Classes -/

/-- The ASCII class that a text names, up to the colon and the bracket that close it, and what follows
them. -/
def asciiNamed? (negated : Bool) (s : List Char) : Option (ClassItem × List Char) :=
  match s.span (· != ':') with
  | (name, ':' :: ']' :: rest) => (asciiClass? name).map fun kind => (.ascii kind negated, rest)
  | _ => none

theorem asciiItem?_eq (s : List Char) :
    asciiItem? ('[' :: ':' :: s) =
      if s.head? = some '^' then asciiNamed? true s.tail else asciiNamed? false s := by
  cases s with
  | nil => rfl
  | cons c s =>
    by_cases h : c = '^'
    · subst h
      rfl
    · rw [if_neg (by simpa using h)]
      rw [asciiItem?]
      · rfl
      · exact fun rest same => absurd (List.cons_eq_cons.1 same).1 h

theorem asciiItem?_eq_none {s : List Char} (h : ¬['[', ':'] <+: s) : asciiItem? s = none := by
  unfold asciiItem?
  split
  · exact absurd ⟨_, rfl⟩ h
  · rfl

theorem asciiNamed?_suffix {negated : Bool} {s : List Char} {item : ClassItem} {rest : List Char}
    (h : asciiNamed? negated s = some (item, rest)) : rest <:+ s := by
  have behind := List.dropWhile_suffix (l := s) (· != ':')
  unfold asciiNamed? at h
  rw [List.span_eq_takeWhile_dropWhile] at h
  split at h
  next name rest' same =>
    rw [(Prod.mk.inj same).2] at behind
    obtain ⟨kind, -, eq⟩ := Option.map_eq_some_iff.1 h
    cases eq
    exact ((List.suffix_cons ']' rest).trans (List.suffix_cons ':' _)).trans behind
  · cases h

theorem asciiItem?_suffix {s : List Char} {item : ClassItem} {rest : List Char}
    (h : asciiItem? s = some (item, rest)) : rest <:+ s.tail := by
  by_cases opens : ['[', ':'] <+: s
  · obtain ⟨s, rfl⟩ := opens
    have inside : s <:+ ':' :: s := List.suffix_cons ':' s
    rw [List.cons_append, List.cons_append, List.nil_append, asciiItem?_eq] at h
    split at h
    · exact ((asciiNamed?_suffix h).trans (List.tail_suffix s)).trans inside
    · exact (asciiNamed?_suffix h).trans inside
  · rw [asciiItem?_eq_none opens] at h
    cases h

theorem readAscii_trims : Trims readAscii := by
  intro s
  unfold readAscii
  split
  next item rest h => exact (asciiItem?_suffix h).trans (List.tail_suffix s)
  · exact List.suffix_refl _

theorem readClassPart_consumes : Consumes (readClassPart verbose) := by
  refine Consumes.after peekChar_trims fun c => ?_
  split
  · exact readEscape_consumes
  · exact Consumes.skip.bind fun _ => Trims.pure _

theorem itemOf_trims (t : Tree) : Trims (itemOf t) := by
  cases t with
  | literal | shorthand | property => exact Trims.pure _
  | _ => exact refuse_trims

theorem rangeOf_trims (first last : Tree) : Trims (rangeOf first last) := by
  unfold rangeOf
  split
  · split
    · exact Trims.pure _
    · exact refuse_trims
  · exact refuse_trims

theorem startsRange_trims : Trims (startsRange verbose) := by
  intro s
  unfold startsRange
  split <;> exact List.suffix_refl _

theorem readItem_consumes : Consumes (readItem verbose) := by
  refine readClassPart_consumes.bind fun first => skipSpace_trims.bind fun _ =>
    Trims.bind peekChar_trims fun _ => Trims.bind startsRange_trims fun isRange => ?_
  split
  · exact stepWithin_consumes.trims.bind fun _ => readClassPart_consumes.trims.bind fun last =>
      rangeOf_trims first last
  · exact itemOf_trims first

theorem peekSetOp_trims : Trims peekSetOp := fun s => List.suffix_refl s

theorem readHyphens_trims (n : Nat) (items : List ClassItem) : Trims (readHyphens verbose n items) := by
  induction n generalizing items with
  | zero => exact Trims.pure _
  | succ n ih =>
    refine Trims.bind peekChar_trims fun c => ?_
    split
    · exact stepWithin_consumes.trims.bind fun _ => ih _
    · exact Trims.pure _

/-- Takes the elements off a class that stand for themselves because they come first. -/
def readFirst (verbose negated : Bool) : Scan (Bool × List ClassItem) := do
  let items ← (fun s => readHyphens verbose s.length [] s : Scan (List ClassItem))
  if items.isEmpty ∧ (← peekChar) = ']' then
    stepWithin verbose
    pure (negated, [.literal ⟨']', false⟩])
  else pure (negated, items)

theorem readOpening_eq :
    readOpening verbose = (do
      stepWithin verbose
      let c ← peekChar
      if c == '^' then stepWithin verbose >>= fun _ => readFirst verbose (c == '^')
      else readFirst verbose (c == '^')) := rfl

theorem readFirst_trims (negated : Bool) : Trims (readFirst verbose negated) := by
  refine Trims.bind (fun s => readHyphens_trims _ _ s) fun items => Trims.bind peekChar_trims fun d => ?_
  split
  · exact stepWithin_consumes.trims.bind fun _ => Trims.pure _
  · exact Trims.pure _

theorem readOpening_consumes : Consumes (readOpening verbose) := by
  rw [readOpening_eq]
  refine stepWithin_consumes.bind fun _ => Trims.bind peekChar_trims fun c => ?_
  split
  · exact stepWithin_consumes.trims.bind fun _ => readFirst_trims _
  · exact readFirst_trims _

mutual

theorem readBrackets_consumes : ∀ n, Consumes (readBrackets verbose n)
  | 0 => Consumes.refuse
  | n + 1 => by
    rw [readBrackets]
    exact readOpening_consumes.bind fun (_, items) => (readSet_trims n none items).bind fun _ =>
      Trims.pure _

theorem readSet_trims : ∀ n left items, Trims (readSet verbose n left items)
  | 0, _, _ => refuse_trims
  | n + 1, left, items => by
    rw [readSet]
    refine skipSpace_trims.bind fun _ => Trims.bind peekChar_trims fun c => ?_
    split
    · refine Trims.bind readAscii_trims fun ascii => ?_
      cases ascii with
      | some item => exact readSet_trims n left (item :: items)
      | none => exact (readBrackets_consumes n).trims.bind fun (negated, content) =>
          readSet_trims n left (.brackets negated content :: items)
    split
    · exact Trims.bind Trims.skip fun _ => Trims.pure _
    · refine Trims.bind peekSetOp_trims fun op => ?_
      cases op with
      | some op => exact Trims.bind (Trims.skipMany 2) fun _ => readSet_trims n _ _
      | none => exact readItem_consumes.trims.bind fun item => readSet_trims n left (item :: items)

end

/-- Outside of classes, the length of the text says how many rounds there are. -/
theorem readOuterBrackets_consumes :
    Consumes (fun s => readBrackets verbose (2 * s.length + 2) s : Scan _) where
  trims s := (readBrackets_consumes _).trims s
  suffix_tail s := (readBrackets_consumes _).suffix_tail s

/-! ## Repetitions and groups -/

theorem readCount_trims : Trims (readCount verbose) := by
  refine Trims.bind (Trims.skipWhile _) fun _ => Trims.bind (takeSpaced_trims _) fun digits =>
    Trims.bind (Trims.skipWhile _) fun _ => skipSpace_trims.bind fun _ => ?_
  split
  · exact refuse_trims
  · exact Trims.pure _

theorem readCounts_consumes : Consumes (readCounts verbose) := by
  refine stepWithin_consumes.bind fun _ => Trims.bind readCount_trims fun least =>
    Trims.bind peekChar_trims fun c => ?_
  split
  · refine stepWithin_consumes.trims.bind fun _ => Trims.bind peekChar_trims fun d => ?_
    split
    · exact Trims.pure _
    · refine Trims.bind readCount_trims fun most => ?_
      split
      · exact Trims.pure _
      · exact refuse_trims
  · exact Trims.pure _

/-- Takes counts in braces off the text, with the closing brace. -/
def readBraces (verbose : Bool) : Scan (Nat × Option Nat) := do
  let counts ← readCounts verbose
  if (← peek) = some '\x7d' then
    step verbose
    pure counts
  else refuse

/-- Passes over the mark that makes a repetition lazy. -/
def skipLazy (counts : Nat × Option Nat) : Scan (Nat × Option Nat) := do
  if (← peek) = some '?' then
    skip
    pure counts
  else pure counts

theorem readRepetition_eq (sign : Char) :
    readRepetition verbose sign =
      (if sign = '\x7b' then readBraces verbose
      else do
        skip
        pure (if sign = '?' then (0, some 1) else if sign = '*' then (0, none) else (1, none))) >>=
        skipLazy := by
  unfold readRepetition readBraces skipLazy
  split
  · simp only [bind_assoc]
    congr 1
    funext counts
    congr 1
    funext d
    split <;> simp only [bind_assoc]
  · simp only [bind_assoc]

theorem readBraces_consumes : Consumes (readBraces verbose) := by
  refine readCounts_consumes.bind fun counts => Trims.bind Trims.peek fun d => ?_
  split
  · exact step_consumes.trims.bind fun _ => Trims.pure _
  · exact refuse_trims

theorem skipLazy_trims (counts : Nat × Option Nat) : Trims (skipLazy counts) := by
  refine Trims.bind Trims.peek fun d => ?_
  split
  · exact Trims.bind Trims.skip fun _ => Trims.pure _
  · exact Trims.pure _

theorem readRepetition_consumes (sign : Char) : Consumes (readRepetition verbose sign) := by
  rw [readRepetition_eq]
  split
  · exact readBraces_consumes.bind skipLazy_trims
  · exact (Consumes.skip.bind fun _ => Trims.pure _).bind skipLazy_trims

theorem readGroupName_trims : Trims readGroupName := by
  refine Trims.bind (Trims.takeWhile _) fun name => Trims.bind peekChar_trims fun _ =>
    Trims.bind Trims.skip fun _ => ?_
  split
  · exact Trims.pure _
  · exact refuse_trims

theorem readFlags_trims : Trims readFlags := by
  refine Trims.bind (Trims.takeWhile _) fun letters => Trims.bind peekChar_trims fun ends =>
    Trims.bind Trims.skip fun _ => ?_
  split
  · split
    · exact Trims.pure _
    split
    · exact refuse_trims
    · exact Trims.pure _
  · exact refuse_trims

theorem readGroupOpening_consumes : Consumes (readGroupOpening verbose) := by
  refine step_consumes.bind fun _ => Trims.bind (fun s => List.suffix_refl s) fun s => ?_
  split
  · exact refuse_trims
  split
  · exact Trims.bind (Trims.skipMany 3) fun _ => readGroupName_trims
  split
  · exact Trims.bind (Trims.skipMany 2) fun _ => readGroupName_trims
  split
  · exact Trims.bind Trims.skip fun _ => readFlags_trims
  · exact Trims.pure _

/-! ## Patterns -/

theorem readPrimitive_consumes (c : Char) : Consumes (readPrimitive verbose c) := by
  unfold readPrimitive
  split
  · exact readEscape_consumes
  · exact Consumes.skip.bind fun _ => Trims.pure _

/-- Goes on behind a group, whose parenthesis must be closed. -/
def readBehindGroup (n : Nat) (verbose : Bool) (parts : List Tree) : Scan (Tree × Bool) := do
  if (← peek) = some ')' then
    skip
    readParts n verbose parts
  else refuse

mutual

theorem readBranches_trims : ∀ n verbose, Trims (readBranches n verbose)
  | 0, _ => refuse_trims
  | n + 1, verbose => by
    rw [readBranches]
    refine (readParts_trims n verbose []).bind fun (first, verbose) => Trims.bind Trims.peek fun d => ?_
    split
    · exact Trims.bind Trims.skip fun _ => (readBranches_trims n verbose).bind fun _ => Trims.pure _
    · exact Trims.pure _

theorem readBehindGroup_trims (n : Nat) (verbose : Bool) (parts : List Tree) :
    Trims (readBehindGroup n verbose parts) := by
  refine Trims.bind Trims.peek fun d => ?_
  split
  · exact Trims.bind Trims.skip fun _ => readParts_trims n verbose parts
  · exact refuse_trims

theorem readParts_trims : ∀ n verbose parts, Trims (readParts n verbose parts)
  | 0, _, _ => refuse_trims
  | n + 1, verbose, parts => by
    rw [readParts]
    refine skipSpace_trims.bind fun _ => Trims.bind Trims.peek fun d => ?_
    cases d with
    | none => exact Trims.pure _
    | some c =>
      dsimp only
      split
      · exact Trims.pure _
      split
      · refine readGroupOpening_consumes.trims.bind fun opening => ?_
        cases opening with
        | change flags => exact readParts_trims n _ _
        | group kind =>
          exact (readBranches_trims n _).bind fun (branches, _) => readBehindGroup_trims n _ _
      split
      · exact readOuterBrackets_consumes.trims.bind fun (negated, content) => readParts_trims n _ _
      split
      · cases parts with
        | nil => exact refuse_trims
        | cons body parts =>
          dsimp only
          split
          · exact (readRepetition_consumes c).trims.bind fun (least, most) => readParts_trims n _ _
          · exact refuse_trims
      · exact (readPrimitive_consumes c).trims.bind fun part => readParts_trims n _ _

end

end PathQuery.Pattern
