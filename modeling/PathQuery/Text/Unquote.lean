import PathQuery.Reader
import PathQuery.Text.Digit

/-!
# Reading quoted texts

A quoted text is read character by character up to its closing quote. Behind a backslash stands one
letter, or the letter `u` and four hexadecimal digits that give a UTF-16 unit; a unit of the upper half
of a pair must be followed by one of the lower half, written as another escape, and the two give one
character.

What may stand between the quotes differs: the quoted names and strings of a path admit every character
and either quote behind a backslash, a document neither control characters nor an escaped apostrophe. A
`Dialect` holds these rules and the causes of failure.

## Main definitions

* `Dialect` — the rules of one kind of quoted text.
* `readUnit`, `readCodePoint` — hexadecimal escapes.
* `readEscape` — what stands behind a backslash.
* `readBody` — the text up to the closing quote.

## Main results

* `readEscape_trims`, `readBody_trims` — what is left is an end of the text.
-/

namespace PathQuery.Quoted

open Reader

/-- The rules of one kind of quoted text: what each letter behind a backslash stands for, which
characters stand for themselves, and the causes of failure. -/
structure Dialect (ε : Type) where
  letter? : Char → Option Char
  plain : Char → Bool
  badEscape : ε
  badChar : ε
  unclosed : ε

variable {ε : Type}

/-- What the letters behind a backslash stand for in every dialect. -/
def commonLetter? (c : Char) : Option Char :=
  match c with
  | 'n' => some '\n'
  | 't' => some '\t'
  | 'r' => some '\r'
  | 'b' => some '\x08'
  | 'f' => some '\x0c'
  | '\\' => some '\\'
  | '/' => some '/'
  | '"' => some '"'
  | _ => none

/-! ## Hexadecimal escapes -/

/-- Takes four hexadecimal digits off the text. If one is missing, nothing is consumed. -/
def readUnit (bad : ε) : Reader ε Nat := fun s =>
  match s with
  | a :: b :: c :: d :: rest =>
    match natOfHex? [a, b, c, d] with
    | some n => .done n rest
    | none => .failed bad s
  | _ => .failed bad s

/-- The first unit of a surrogate pair. -/
def isHighSurrogate (n : Nat) : Bool := 0xD800 ≤ n && n < 0xDC00

/-- The second unit of a surrogate pair. -/
def isLowSurrogate (n : Nat) : Bool := 0xDC00 ≤ n && n < 0xE000

/-- The character that a surrogate pair stands for. -/
def pairChar (high low : Nat) : Char :=
  Char.ofNat (0x10000 + (high - 0xD800) * 0x400 + (low - 0xDC00))

/-- Takes the digits behind `\u` off the text, and the second escape of a surrogate pair. -/
def readCodePoint (bad : ε) : Reader ε Char := do
  let high ← readUnit bad
  if isHighSurrogate high then
    if ← lookingAt ['\\', 'u'] then
      skipMany 2
      let low ← readUnit bad
      if isLowSurrogate low then pure (pairChar high low) else fail bad
    else fail bad
  else if isLowSurrogate high then fail bad
  else pure (Char.ofNat high)

/-! ## Bodies -/

/-- Takes what stands behind a backslash off the text. -/
def readEscape (d : Dialect ε) : Reader ε Char := do
  match ← peek with
  | some 'u' =>
    skip
    readCodePoint d.badEscape
  | some c =>
    match d.letter? c with
    | some meant =>
      skip
      pure meant
    | none => fail d.badEscape
  | none => fail d.badEscape

theorem readUnit_trims (bad : ε) : Trims (readUnit bad) := by
  intro s
  unfold readUnit
  split
  next a b c d rest =>
    split
    · exact List.suffix_append [a, b, c, d] rest
    · exact List.suffix_refl _
  next => exact List.suffix_refl _

theorem readCodePoint_trims (bad : ε) : Trims (readCodePoint bad) := by
  unfold readCodePoint
  refine Trims.bind (readUnit_trims bad) fun high => ?_
  split
  · refine Trims.bind (Trims.lookingAt _) fun more => ?_
    split
    · refine Trims.bind (Trims.skipMany 2) fun _ =>
        Trims.bind (readUnit_trims bad) fun low => ?_
      split
      · exact Trims.pure _
      · exact Trims.fail _
    · exact Trims.fail _
  · split
    · exact Trims.fail _
    · exact Trims.pure _

/-- An escape takes what it reads off the front, so the text behind it is shorter than the body. -/
theorem readEscape_trims (d : Dialect ε) : Trims (readEscape d) := by
  unfold readEscape
  refine Trims.bind Trims.peek fun c => ?_
  split
  · exact Trims.bind Trims.skip fun _ => readCodePoint_trims _
  · split
    · exact Trims.bind Trims.skip fun _ => Trims.pure _
    · exact Trims.fail _
  · exact Trims.fail _

/-- Takes the characters up to the closing quote off the text, and the quote. -/
def readBody (d : Dialect ε) (quote : Char) (s : List Char) : Reading ε (List Char) :=
  match s with
  | [] => .failed d.unclosed []
  | c :: s =>
    if c = quote then .done [] s
    else if c = '\\' then
      match _h : readEscape d s with
      | .failed cause rest => .failed cause rest
      | .done meant rest => (readBody d quote rest).map (meant :: ·)
    else if d.plain c then (readBody d quote s).map (c :: ·)
    else .failed d.badChar (c :: s)
termination_by s.length
decreasing_by
  · have trims := (readEscape_trims d).length_le s
    rw [_h] at trims
    exact Nat.lt_succ_of_le trims
  · exact Nat.lt_succ_self _

theorem rest_map {α β : Type} (f : α → β) (r : Reading ε α) : (r.map f).rest = r.rest := by
  cases r <;> rfl

theorem readBody_trims (d : Dialect ε) (quote : Char) : Trims (readBody d quote) := by
  intro s
  fun_induction readBody d quote s with
  | case1 => exact List.suffix_refl _
  | case2 s => exact List.suffix_cons _ _
  | case3 s cause rest h _ =>
    have trims := readEscape_trims d s
    rw [h] at trims
    exact trims.trans (List.suffix_cons _ _)
  | case4 s meant rest h _ ih =>
    have trims := readEscape_trims d s
    rw [h] at trims
    rw [rest_map]
    exact (ih.trans trims).trans (List.suffix_cons _ _)
  | case5 c s _ _ _ ih =>
    rw [rest_map]
    exact ih.trans (List.suffix_cons _ _)
  | case6 c s => exact List.suffix_refl _

end PathQuery.Quoted
